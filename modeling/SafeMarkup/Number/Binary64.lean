/-!
# Binary floating-point numbers of 64 bits

A number is its bit pattern: a sign, eleven bits of exponent and fifty-two of fraction.  All
arithmetic on finite numbers here is exact arithmetic on natural numbers, followed by one
rounding to the nearest number, a tie going to the one with the even significand.

* `Binary64` — the bit pattern, and `Binary64.shape`, what it stands for.
* `Binary64.ofRatio`, `Binary64.ofDecimal`, `Binary64.ofInt` — the nearest number.
* `Binary64.ratio?` — the exact value of a finite number, as a quotient.
-/

namespace SafeMarkup

/-- A binary floating-point number of 64 bits. -/
structure Binary64 where
  bits : UInt64
  deriving DecidableEq, Repr, Inhabited

/-- What a bit pattern stands for, the sign apart. -/
inductive Binary64.Shape where
  /-- Not a number. -/
  | nan
  | infinite
  /-- The number `significand * 2 ^ exponent`. -/
  | finite (significand : Nat) (exponent : Int)
  deriving DecidableEq, Repr, Inhabited

/-- The quotient of two natural numbers rounded to the nearest, a tie going to the even one. -/
def roundQuotient (num den : Nat) : Nat :=
  let q := num / den
  let twice := 2 * (num % den)
  if twice > den || (twice == den && q % 2 == 1) then q + 1 else q

namespace Binary64

/-- Whether the sign bit is set. -/
def isNegative (x : Binary64) : Bool := x.bits.toNat / Nat.pow 2 63 == 1

/-- The eleven bits of the exponent. -/
def biasedExponent (x : Binary64) : Nat := x.bits.toNat / Nat.pow 2 52 % Nat.pow 2 11

/-- The fifty-two bits of the fraction. -/
def fraction (x : Binary64) : Nat := x.bits.toNat % Nat.pow 2 52

/-- What the number stands for, its sign apart. -/
def shape (x : Binary64) : Shape :=
  if x.biasedExponent = 2047 then
    if x.fraction = 0 then .infinite else .nan
  else if x.biasedExponent = 0 then .finite x.fraction (-1074)
  else .finite (Nat.pow 2 52 + x.fraction) (x.biasedExponent - 1075)

/-- The pattern with the given sign and the given lower sixty-three bits. -/
def ofMagnitude (negative : Bool) (magnitude : Nat) : Binary64 :=
  ⟨UInt64.ofNat (magnitude + if negative then Nat.pow 2 63 else 0)⟩

/-- Positive or negative zero. -/
def zero (negative : Bool) : Binary64 := ofMagnitude negative 0

/-- Positive or negative infinity. -/
def infinity (negative : Bool) : Binary64 := ofMagnitude negative (2047 * Nat.pow 2 52)

/-- Not a number. -/
def notANumber : Binary64 := ofMagnitude false (2047 * Nat.pow 2 52 + Nat.pow 2 51)

/-- The largest exponent `e` for which `num / den` has at least fifty-three binary digits in
front of the point after division by `2 ^ e`, or `-1074` if that is larger. -/
def scaleOf (num den : Nat) : Int :=
  let guess : Int := (Nat.log2 num : Int) - (Nat.log2 den : Int) - 53
  let digits := num * Nat.pow 2 (-guess).toNat / (den * Nat.pow 2 guess.toNat)
  max (-1074) (if digits < Nat.pow 2 53 then guess else guess + 1)

/-- The number nearest to a quotient of natural numbers; beyond the largest one, infinity. -/
def ofRatio (negative : Bool) (num den : Nat) : Binary64 :=
  if num = 0 then zero negative
  else
    let e := scaleOf num den
    let significand := roundQuotient (num * Nat.pow 2 (-e).toNat) (den * Nat.pow 2 e.toNat)
    let magnitude :=
      if significand < Nat.pow 2 52 then significand
      else (e + 1075).toNat * Nat.pow 2 52 + (significand - Nat.pow 2 52)
    if magnitude < 2047 * Nat.pow 2 52 then ofMagnitude negative magnitude else infinity negative

/-- The number of decimal digits of a natural number. -/
def decimalLength (n : Nat) : Nat := (Nat.toDigits 10 n).length

/-- The number nearest to `digits * 10 ^ exponent`.  Exponents far out of range are settled
without raising ten to them. -/
def ofDecimal (negative : Bool) (digits : Nat) (exponent : Int) : Binary64 :=
  if digits = 0 then zero negative
  else
    let point : Int := decimalLength digits + exponent
    if point > 400 then infinity negative
    else if point < -400 then zero negative
    else ofRatio negative (digits * Nat.pow 10 exponent.toNat) (Nat.pow 10 (-exponent).toNat)

/-- The number nearest to an integer, or `none` if that is infinity. -/
def ofInt? (n : Int) : Option Binary64 :=
  let x := ofRatio (n < 0) n.natAbs 1
  if x.shape = .infinite then none else some x

/-- The magnitude of a finite number as an exact quotient. -/
def ratio? (x : Binary64) : Option (Nat × Nat) :=
  match x.shape with
  | .finite m e => some (m * Nat.pow 2 e.toNat, Nat.pow 2 (-e).toNat)
  | .nan | .infinite => none

/-- A number times one hundred. -/
def percent (x : Binary64) : Binary64 :=
  match x.ratio? with
  | some (num, den) => ofRatio x.isNegative (100 * num) den
  | none => x

/-- Whether two numbers are equal as numbers: zeros are equal whatever their sign, and what is
not a number equals nothing. -/
def sameNumber (x y : Binary64) : Bool :=
  match x.shape, y.shape with
  | .nan, _ | _, .nan => false
  | .finite 0 _, .finite 0 _ => true
  | _, _ => x.bits == y.bits

/-- Whether a number equals an integer. -/
def equalsInt (x : Binary64) (n : Int) : Bool :=
  match x.ratio? with
  | some (num, den) =>
    num == n.natAbs * den && (num == 0 || x.isNegative == decide (n < 0))
  | none => false

end Binary64

end SafeMarkup
