import SafeMarkup.Format.Spec

/-!
# Padding and grouping

* `groupDigits` — digits in groups, filled up with zeros to a width.
* `padText` — a text within a width.
* `NumberText`, `NumberText.layOut` — a number within a width: sign, prefix, digits, and what
  follows the digits.
-/

namespace SafeMarkup

/-- Digits in groups of `size` from the right, given in reverse and returned in reverse.  Zeros are
added as long as the groups written so far are shorter than `width`; a group is never started by a
separator alone.  There are at most `rounds` groups. -/
def groupReversed (size : Nat) (separator : Char) : Nat → List Char → Int → List Char
  | 0, digits, _ => digits
  | rounds + 1, digits, width =>
    let wanted := max (max (digits.length : Int) width) 1
    let length := min size wanted.toNat
    let group := digits.take length ++ List.replicate (length - digits.length) '0'
    let left := digits.drop length
    let width := width - length
    if left.isEmpty && width ≤ 0 then group
    else group ++ separator :: groupReversed size separator rounds left (width - 1)

/-- Digits, in groups if a grouping is asked for, filled up with zeros to `width`. -/
def groupDigits (grouping : Option (Grouping × Nat)) (digits : List Char) (width : Int) :
    List Char :=
  match grouping with
  | some (g, size) =>
    (groupReversed size g.char (digits.length + width.toNat + 1) digits.reverse width).reverse
  | none => List.replicate (width.toNat - digits.length) '0' ++ digits

/-- The fill in front of a text, between its sign and the rest, and behind it. -/
def paddings (align : Alignment) (missing : Nat) : Nat × Nat × Nat :=
  match align with
  | .left => (0, 0, missing)
  | .right => (missing, 0, 0)
  | .center => (missing / 2, 0, missing - missing / 2)
  | .afterSign => (0, missing, 0)

/-- A text within a width. -/
def padText (spec : FormatSpec) (cs : List Char) : List Char :=
  let (before, between, behind) := paddings spec.align (spec.width.getD 0 - cs.length)
  List.replicate (before + between) spec.fill ++ cs ++ List.replicate behind spec.fill

/-- A number in parts. -/
structure NumberText where
  negative : Bool
  /-- What marks the base of the digits. -/
  base : List Char
  /-- The digits that can be grouped and filled up with zeros. -/
  digits : List Char
  /-- What follows them: a point and places, an exponent, or a word in place of digits. -/
  tail : List Char
  deriving DecidableEq, Repr, Inhabited

/-- The sign of a number as it is written. -/
def signText (style : Option SignStyle) (negative : Bool) : List Char :=
  if negative then ['-']
  else match style with
    | some .plus => ['+']
    | some .space => [' ']
    | some .minus | none => []

/-- A number as a specification lays it out.  A fill of zeros behind the sign counts as digits and
is grouped with them. -/
def NumberText.layOut (number : NumberText) (spec : FormatSpec)
    (grouping : Option (Grouping × Nat)) : List Char :=
  let sign := signText spec.sign number.negative
  let width : Nat := spec.width.getD 0
  let digitWidth : Int :=
    if spec.fill = '0' && spec.align = .afterSign then
      (width : Int) - (sign.length + number.base.length + number.tail.length)
    else 0
  let digits :=
    if number.digits.isEmpty then [] else groupDigits grouping number.digits digitWidth
  let length := sign.length + number.base.length + digits.length + number.tail.length
  let (before, between, behind) := paddings spec.align (width - length)
  List.replicate before spec.fill ++ sign ++ number.base ++ List.replicate between spec.fill
    ++ digits ++ number.tail ++ List.replicate behind spec.fill

end SafeMarkup
