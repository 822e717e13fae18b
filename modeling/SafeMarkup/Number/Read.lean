import SafeMarkup.Number.Binary64

/-!
# Reading decimal numbers

The value of decimal text: a sign, digits with or without a point, an exponent, or one of the
words for infinity and for what is not a number.

* `natOfDigits` — the value of a run of decimal digits.
* `integerOfDigits` — the integer that a run of digits is read as, if it is not too long.
* `Binary64.ofText?` — the binary number nearest to decimal text.
-/

namespace SafeMarkup

/-- The value of a run of decimal digits, from the front. -/
def natOfDigits (digits : List Char) : Nat :=
  digits.foldl (fun n d => 10 * n + (d.toNat - '0'.toNat)) 0

/-- Splits a sign off the front of a number. -/
def splitSign : List Char → Bool × List Char
  | '-' :: rest => (true, rest)
  | '+' :: rest => (false, rest)
  | cs => (false, cs)

/-! ## Integers -/

/-- The most decimal digits that an integer may have to be read. -/
def integerDigitLimit : Nat := 4300

/-- An integer has more decimal digits than are read. -/
structure LongInteger where
  digits : Nat
  deriving DecidableEq, Repr, Inhabited

/-- The wording of the error. -/
def LongInteger.message (e : LongInteger) : String :=
  "Exceeds the limit (" ++ toString integerDigitLimit ++
    " digits) for integer string conversion: value has " ++ toString e.digits ++
    " digits; use sys.set_int_max_str_digits() to increase the limit"

/-- The integer of a run of decimal digits behind a sign.  The sign does not count among the
digits. -/
def integerOfDigits (negative : Bool) (digits : List Char) : Except LongInteger Int :=
  if digits.length > integerDigitLimit then .error ⟨digits.length⟩
  else
    let n : Int := natOfDigits digits
    .ok (if negative then -n else n)

/-! ## Binary numbers -/

namespace Binary64

/-- The exponent of a decimal number, from the `e` on; no text at all is the exponent zero. -/
def exponentOfText? : List Char → Option Int
  | [] => some 0
  | c :: rest =>
    let (negative, digits) := splitSign rest
    if (c = 'e' || c = 'E') && !digits.isEmpty && digits.all Char.isDigit then
      some (if negative then -(natOfDigits digits : Int) else natOfDigits digits)
    else none

/-- The number nearest to an unsigned decimal number with the given sign. -/
def ofUnsignedText? (negative : Bool) (text : List Char) : Option Binary64 :=
  let whole := text.takeWhile Char.isDigit
  let behind := text.dropWhile Char.isDigit
  let (places, tail) := match behind with
    | '.' :: rest => (rest.takeWhile Char.isDigit, rest.dropWhile Char.isDigit)
    | _ => ([], behind)
  if whole.isEmpty && places.isEmpty then none
  else
    (exponentOfText? tail).map fun exponent =>
      ofDecimal negative (natOfDigits (whole ++ places)) (exponent - places.length)

/-- The number that decimal text stands for. -/
def ofText? (text : List Char) : Option Binary64 :=
  let (negative, body) := splitSign text
  if body = "inf".toList then some (infinity negative)
  else if body = "nan".toList then some notANumber
  else ofUnsignedText? negative body

end Binary64

end SafeMarkup
