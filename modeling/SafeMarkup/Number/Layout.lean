import SafeMarkup.Number.Decimal

/-!
# Layout of decimal digits

Where the point goes, how many zeros are added, and how an exponent is written.

* `Decimal.positional`, `Decimal.scientific` — digits with a point, and with a point and an exponent.
* `Decimal.general` — the one or the other, by the size of the number.
* `Binary64.display` — a number the way values are written: the fewest digits that identify it,
  positionally from `0.0001` to below `10 ^ 16`, otherwise with a signed exponent of at least two
  digits, and always with a point or an exponent.
-/

namespace SafeMarkup

/-- Decimal digits with their point; `places` is the least number of digits behind it.  The point
is left out in front of nothing, unless `keepPoint` says otherwise. -/
def Decimal.positional (d : Decimal) (places : Nat) (keepPoint : Bool) : List Char :=
  let whole :=
    if d.point ≤ 0 then ['0']
    else d.digits.take d.point.toNat ++ List.replicate (d.point.toNat - d.digits.length) '0'
  let behind := List.replicate (-d.point).toNat '0' ++ d.digits.drop d.point.toNat
  let filled := behind ++ List.replicate (places - behind.length) '0'
  if filled.isEmpty && !keepPoint then whole else whole ++ '.' :: filled

/-- An exponent of at least two digits, with its sign. -/
def exponentText (letter : Char) (exponent : Int) : List Char :=
  let digits := Nat.toDigits 10 exponent.natAbs
  letter :: (if exponent < 0 then '-' else '+')
    :: (if digits.length < 2 then '0' :: digits else digits)

/-- Decimal digits with one digit in front of the point and an exponent behind. -/
def Decimal.scientific (d : Decimal) (places : Nat) (keepPoint : Bool) (letter : Char) :
    List Char :=
  Decimal.positional ⟨d.digits, 1⟩ places keepPoint ++ exponentText letter (d.point - 1)

/-- Decimal digits in the notation that suits their size: positional if the point stands behind the
place `-4` and not behind the place `last`. -/
def Decimal.general (d : Decimal) (last : Int) (places : Nat) (keepPoint : Bool)
    (letter : Char) (scientificPlaces : Nat) : List Char :=
  if d.point ≤ -4 || d.point > last then d.scientific scientificPlaces keepPoint letter
  else d.positional places keepPoint

/-- A sign in front of a text. -/
def withSign (negative : Bool) (text : List Char) : List Char :=
  if negative then '-' :: text else text

/-- A number the way values are written. -/
def Binary64.display (x : Binary64) : String :=
  match x.shape with
  | .nan => "nan"
  | .infinite => if x.isNegative then "-inf" else "inf"
  | .finite m e =>
    String.ofList (withSign x.isNegative ((Decimal.shortest m e).general 16 1 false 'e' 0))

end SafeMarkup
