import SafeMarkup.Format.Padding
import SafeMarkup.Number.Layout

/-!
# Numbers as specifications lay them out

* `formatInt` — an integer in a base, as the character with its code, or as a binary number.
* `formatBinary` — a binary number: in fixed, scientific or general presentation, as a percentage,
  or, by the shortest code, the way values are written.
-/

namespace SafeMarkup

/-- The upper case of an ASCII text. -/
def upperCase (cs : List Char) : List Char := cs.map Char.toUpper

/-! ## Binary numbers -/

/-- How a binary number is presented. -/
inductive Presentation where
  /-- A count of places behind the point. -/
  | fixed
  /-- One digit in front of the point, and an exponent. -/
  | scientific
  /-- A count of digits, without zeros at the end. -/
  | general
  /-- A hundred times the number, fixed, with a percent sign. -/
  | percent
  /-- The fewest digits that identify the number. -/
  | shortest
  deriving DecidableEq, Repr, Inhabited

/-- The presentation of a code, and whether its letters are in upper case. -/
def Presentation.ofCode? (c : Char) : Option (Presentation × Bool) :=
  if c = 'f' then some (fixed, false)
  else if c = 'F' then some (fixed, true)
  else if c = 'e' then some (scientific, false)
  else if c = 'E' then some (scientific, true)
  else if c = 'g' || c = 'n' then some (general, false)
  else if c = 'G' then some (general, true)
  else if c = '%' then some (percent, false)
  else if c = shortestCode then some (shortest, false)
  else none

/-- The magnitude `num / den` with a count of places behind the point. -/
def fixedText (num den places : Nat) (keepPoint : Bool) : List Char :=
  let scaled := decimalPlaces num den places
  let whole := Nat.toDigits 10 (scaled / Nat.pow 10 places)
  let behind := Nat.toDigits 10 (scaled % Nat.pow 10 places)
  if places = 0 then if keepPoint then whole ++ ['.'] else whole
  else whole ++ '.' :: (List.replicate (places - behind.length) '0' ++ behind)

/-- The magnitude `num / den` in `count` significant digits, at least one.  The alternate form keeps
the zeros at the end; `marked` asks for a point or an exponent in any case. -/
def generalText (num den count : Nat) (alternate marked : Bool) : List Char :=
  let count := max count 1
  let d := Decimal.significant num den count
  let places := if alternate then ((count : Int) - d.point).toNat else 0
  let places := if marked then max places 1 else places
  d.general (if marked then (count : Int) - 1 else count) places alternate 'e'
    (if alternate then count - 1 else 0)

/-- The text of a magnitude, before grouping and padding. -/
def magnitudeText (x : Binary64) (presentation : Presentation) (precision : Option Nat)
    (alternate : Bool) : List Char :=
  match x.shape with
  | .nan => "nan".toList
  | .infinite => "inf".toList
  | .finite m e =>
    let num := m * Nat.pow 2 e.toNat
    let den := Nat.pow 2 (-e).toNat
    let places := precision.getD 6
    match presentation with
    | .fixed | .percent => fixedText num den places alternate
    | .scientific =>
      (Decimal.significant num den (places + 1)).scientific places alternate 'e'
    | .general => generalText num den places alternate false
    | .shortest =>
      match precision with
      | some count => generalText num den count alternate true
      | none => (Decimal.shortest m e).general 16 1 alternate 'e' 0

/-- Whether a text shows zero: no digit in it but zeros, in front of any exponent. -/
def showsZero (cs : List Char) : Bool :=
  (cs.takeWhile (· ≠ 'e')).all fun c => c = '0' || c = '.'

/-- The largest precision of a binary number. -/
def largestPrecision : Nat := Nat.pow 2 31 - 1

/-- A binary number as a specification lays it out. -/
def formatBinary (spec : FormatSpec) (presentation : Presentation) (upper : Bool)
    (x : Binary64) : Except FormatError (List Char) :=
  if spec.precision.getD 0 > largestPrecision then .error .precisionTooBig
  else
    let x := if presentation = .percent then x.percent else x
    let magnitude := magnitudeText x presentation spec.precision spec.alternate
    let magnitude := if presentation = .percent then magnitude ++ ['%'] else magnitude
    let magnitude := if upper then upperCase magnitude else magnitude
    let isZero := match x.shape with
      | .finite _ _ =>
        showsZero (magnitudeText x presentation spec.precision spec.alternate)
      | _ => false
    let negative := x.isNegative && x.shape ≠ .nan && !(spec.noNegativeZero && isZero)
    let number : NumberText :=
      { negative, base := [], digits := magnitude.takeWhile Char.isDigit,
        tail := magnitude.dropWhile Char.isDigit }
    .ok (number.layOut spec (spec.grouping.map (·, 3)))

/-! ## Integers -/

/-- The base of a code for integers, what marks it, and the size of its groups. -/
def radixOf (code : Char) : Nat × List Char × Nat :=
  if code = 'b' then (2, ['0', 'b'], 4)
  else if code = 'o' then (8, ['0', 'o'], 4)
  else if code = 'x' || code = 'X' then (16, ['0', 'x'], 4)
  else (10, [], 3)

/-- An integer as the character with its code. -/
def formatCharacter (spec : FormatSpec) (n : Int) : Except FormatError (List Char) :=
  if spec.sign.isSome then .error .signForCharacter
  else if spec.alternate then .error .alternateForCharacter
  else if n < -(Nat.pow 2 63) || Nat.pow 2 63 ≤ n then .error .integerTooLarge
  else if n < 0 || 0x110000 ≤ n then .error .notACharacter
  else
    let number : NumberText :=
      { negative := false, base := [], digits := [], tail := [charOfCode n.toNat] }
    .ok (number.layOut spec none)

/-- An integer in digits. -/
def formatDigits (spec : FormatSpec) (n : Int) : List Char :=
  let (radix, mark, size) := radixOf spec.code
  let letters (cs : List Char) := if spec.code = 'X' then upperCase cs else cs
  let number : NumberText :=
    { negative := n < 0, base := if spec.alternate then letters mark else [],
      digits := letters (Nat.toDigits radix n.natAbs), tail := [] }
  number.layOut spec (spec.grouping.map (·, size))

/-- The codes for integers that are written as integers. -/
def integerCodes : List Char := ['b', 'c', 'd', 'o', 'x', 'X', 'n']

/-- An integer of the given kind as a specification lays it out.  It has no shortest form beside
its digits. -/
def formatInt (kind : String) (spec : FormatSpec) (n : Int) : Except FormatError (List Char) :=
  if integerCodes.contains spec.code then
    if spec.precision.isSome then .error .precisionForInteger
    else if spec.noNegativeZero then .error .negativeZeroForInteger
    else if spec.code = 'c' then formatCharacter spec n
    else .ok (formatDigits spec n)
  else match Presentation.ofCode? spec.code with
    | none | some (.shortest, _) => .error (.unknownCode spec.code kind)
    | some (presentation, upper) =>
      match Binary64.ofInt? n with
      | none => .error .beyondBinary
      | some x => formatBinary spec presentation upper x

end SafeMarkup
