import SafeMarkup.Number.Binary64

/-!
# Decimal digits of binary numbers

Which digits a binary number is written with.  The number is given exactly, as a quotient of
natural numbers, and all decisions are comparisons of natural numbers.

* `Decimal` — digits, and where the point stands among them.
* `Decimal.shortest` — the fewest digits that read back as the same number; among as many, those
  closest to it.
* `Decimal.significant` — a given count of digits, correctly rounded.
* `decimalPlaces` — a given count of digits behind the point, correctly rounded.
-/

namespace SafeMarkup

/-- The number `0.d₁d₂d₃… * 10 ^ point`, without zeros at the end of the digits.  Zero has the one
digit zero, in front of the point. -/
structure Decimal where
  digits : List Char
  point : Int
  deriving DecidableEq, Repr, Inhabited

namespace Decimal

/-- Zero. -/
def zero : Decimal := ⟨['0'], 1⟩

/-- The decimal with the digits of `n`, the last of which counts `10 ^ exponent`. -/
def ofScaled (n : Nat) (exponent : Int) : Decimal :=
  if n = 0 then zero
  else
    let all := Nat.toDigits 10 n
    ⟨(all.reverse.dropWhile (· = '0')).reverse, all.length + exponent⟩

/-- The number of digits in front of the point of a positive quotient; negative or zero if the
quotient is below one. -/
def pointOf (num den : Nat) : Int :=
  let guess : Int := Binary64.decimalLength num - Binary64.decimalLength den
  if den * Nat.pow 10 guess.toNat ≤ num * Nat.pow 10 (-guess).toNat then guess + 1 else guess

/-- The quotient rounded to `count` significant digits, `count` being positive. -/
def significant (num den count : Nat) : Decimal :=
  if num = 0 then zero
  else
    let exponent : Int := pointOf num den - count
    let scaled :=
      roundQuotient (num * Nat.pow 10 (-exponent).toNat) (den * Nat.pow 10 exponent.toNat)
    ofScaled scaled exponent

/-- Compares `a * 10 ^ i` with `b * 2 ^ j`. -/
def compareScaled (a : Nat) (i : Int) (b : Nat) (j : Int) : Ordering :=
  compare (a * Nat.pow 10 i.toNat * Nat.pow 2 (-j).toNat)
    (b * Nat.pow 2 j.toNat * Nat.pow 10 (-i).toNat)

/-- Whether `n * 10 ^ exponent` reads back as the number with significand `m` at `2 ^ e`, that is,
whether it lies between the points halfway to the two neighbours of the number.  The points
themselves belong to it when `m` is even.  The gap below a power of two is half the gap above,
save for the smallest one. -/
def readsBack (m : Nat) (e : Int) (n : Nat) (exponent : Int) : Bool :=
  let low := if m = Nat.pow 2 52 && e > -1074 then 4 * m - 1 else 4 * m - 2
  let high := 4 * m + 2
  let atLow := compareScaled n exponent low (e - 2)
  let atHigh := compareScaled n exponent high (e - 2)
  (atLow == .gt || (m % 2 == 0 && atLow == .eq)) && (atHigh == .lt || (m % 2 == 0 && atHigh == .eq))

/-- The digits that read back among the two decimals next to the number on the grid of
`10 ^ exponent`; of two the closer one, and the even one if both are equally close. -/
def onGrid? (m : Nat) (e : Int) (exponent : Int) : Option Nat :=
  let num := m * Nat.pow 2 e.toNat * Nat.pow 10 (-exponent).toNat
  let den := Nat.pow 2 (-e).toNat * Nat.pow 10 exponent.toNat
  let below := num / den
  match readsBack m e below exponent, readsBack m e (below + 1) exponent with
  | true, true => some (roundQuotient num den)
  | true, false => some below
  | false, true => some (below + 1)
  | false, false => none

/-- The fewest digits that read back as `m * 2 ^ e`: seventeen always suffice. -/
def shortest (m : Nat) (e : Int) : Decimal :=
  if m = 0 then zero
  else
    let point := pointOf (m * Nat.pow 2 e.toNat) (Nat.pow 2 (-e).toNat)
    let found := (List.range 17).findSome? fun (count : Nat) =>
      let exponent := point - (count + 1)
      (onGrid? m e exponent).map (ofScaled · exponent)
    found.getD (significant (m * Nat.pow 2 e.toNat) (Nat.pow 2 (-e).toNat) 17)

end Decimal

/-- A quotient rounded to `places` digits behind the point, as a multiple of the last one. -/
def decimalPlaces (num den places : Nat) : Nat :=
  roundQuotient (num * Nat.pow 10 places) den

end SafeMarkup
