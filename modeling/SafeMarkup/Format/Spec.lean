import SafeMarkup.Text.DecimalDigit
import SafeMarkup.Text.Encoding

/-!
# Format specifications

A specification says how a value is laid out: fill and alignment, sign, alternate form, width,
grouping, precision, and a code for the presentation, in this order, each of them optional.

* `FormatSpec` — a specification that has been read.
* `FormatError` — what is wrong with a specification, or with its use for a value.
* `FormatSpec.parse` — reads a specification, given what the kind of value does by default.
-/

namespace SafeMarkup

/-- Where a value stands within its width. -/
inductive Alignment where
  | left
  | right
  | center
  /-- The fill stands between the sign and the digits. -/
  | afterSign
  deriving DecidableEq, Repr, Inhabited

/-- The alignment a character stands for. -/
def Alignment.ofChar? (c : Char) : Option Alignment :=
  if c = '<' then some left
  else if c = '>' then some right
  else if c = '^' then some center
  else if c = '=' then some afterSign
  else none

/-- What is written for the sign of a number that is not negative. -/
inductive SignStyle where
  | plus
  | minus
  | space
  deriving DecidableEq, Repr, Inhabited

/-- The sign style a character stands for. -/
def SignStyle.ofChar? (c : Char) : Option SignStyle :=
  if c = '+' then some plus
  else if c = '-' then some minus
  else if c = ' ' then some space
  else none

/-- What stands between groups of digits. -/
inductive Grouping where
  | comma
  | underscore
  deriving DecidableEq, Repr, Inhabited

/-- The character of a grouping. -/
def Grouping.char : Grouping → Char
  | comma => ','
  | underscore => '_'

/-- A format specification. -/
structure FormatSpec where
  fill : Char
  align : Alignment
  sign : Option SignStyle
  /-- Whether a negative number that rounds to zero loses its sign. -/
  noNegativeZero : Bool
  alternate : Bool
  width : Option Nat
  grouping : Option Grouping
  precision : Option Nat
  /-- The presentation code. -/
  code : Char
  deriving DecidableEq, Repr, Inhabited

/-- What is wrong with a specification, or with its use. -/
inductive FormatError where
  | invalid (spec kind : String)
  | tooManyDigits
  | missingPrecision
  | commaAndUnderscore
  | groupingWithCode (grouping : Grouping) (code : Char)
  | unknownCode (code : Char) (kind : String)
  | spaceForText
  | signForText
  | negativeZeroForText
  | alternateForText
  | alignAfterSignForText
  | precisionForInteger
  | negativeZeroForInteger
  | signForCharacter
  | alternateForCharacter
  | precisionTooBig
  /-- The kind of value takes no specification. -/
  | unsupported (kind : String)
  /-- An integer is too large for a character code to be looked for. -/
  | integerTooLarge
  /-- An integer is no character code. -/
  | notACharacter
  /-- An integer is too large for a binary number. -/
  | beyondBinary
  deriving DecidableEq, Repr, Inhabited

/-- A presentation code as messages show it. -/
def codeText (c : Char) : String :=
  if 32 < c.toNat && c.toNat < 128 then String.singleton c
  else "\\x" ++ String.ofList (Nat.toDigits 16 c.toNat)

/-- The wording of a format error. -/
def FormatError.message : FormatError → String
  | invalid spec kind =>
    "Invalid format specifier '" ++ spec ++ "' for object of type '" ++ kind ++ "'"
  | tooManyDigits => "Too many decimal digits in format string"
  | missingPrecision => "Format specifier missing precision"
  | commaAndUnderscore => "Cannot specify both ',' and '_'."
  | groupingWithCode grouping code =>
    "Cannot specify '" ++ String.singleton grouping.char ++ "' with '" ++ codeText code ++ "'."
  | unknownCode code kind =>
    "Unknown format code '" ++ codeText code ++ "' for object of type '" ++ kind ++ "'"
  | spaceForText => "Space not allowed in string format specifier"
  | signForText => "Sign not allowed in string format specifier"
  | negativeZeroForText =>
    "Negative zero coercion (z) not allowed in string format specifier"
  | alternateForText => "Alternate form (#) not allowed in string format specifier"
  | alignAfterSignForText => "'=' alignment not allowed in string format specifier"
  | precisionForInteger => "Precision not allowed in integer format specifier"
  | negativeZeroForInteger =>
    "Negative zero coercion (z) not allowed in integer format specifier"
  | signForCharacter => "Sign not allowed with integer format specifier 'c'"
  | alternateForCharacter => "Alternate form (#) not allowed with integer format specifier 'c'"
  | precisionTooBig => "precision too big"
  | unsupported kind => "unsupported format string passed to " ++ kind ++ ".__format__"
  | integerTooLarge => "Python int too large to convert to C long"
  | notACharacter => "%c arg not in range(0x110000)"
  | beyondBinary => "int too large to convert to float"

/-! ## Reading a specification -/

/-- The largest width and precision that can be given. -/
def largestCount : Nat := Nat.pow 2 63 - 1

/-- Reads decimal digits of any script off the front, `count` being the value so far. -/
def readCountFrom (count : Nat) : List Char → Except FormatError (Nat × List Char)
  | [] => .ok (count, [])
  | c :: rest =>
    match decimalDigit? c with
    | none => .ok (count, c :: rest)
    | some d =>
      if count * 10 + d > largestCount then .error .tooManyDigits
      else readCountFrom (count * 10 + d) rest

/-- Reads a count off the front, if a digit stands there. -/
def readCount (cs : List Char) : Except FormatError (Option Nat × List Char) :=
  (readCountFrom 0 cs).map fun r => (if r.2.length < cs.length then some r.1 else none, r.2)

/-- Splits fill and alignment off the front: the alignment may stand first, or behind a fill. -/
def splitAlignment (cs : List Char) : Option Char × Option Alignment × List Char :=
  let first := match cs with
    | a :: rest => match Alignment.ofChar? a with
      | some align => (none, some align, rest)
      | none => (none, none, cs)
    | [] => (none, none, [])
  match cs with
  | fill :: a :: rest =>
    match Alignment.ofChar? a with
    | some align => (some fill, some align, rest)
    | none => first
  | _ => first

/-- Splits a sign style off the front. -/
def splitSignStyle : List Char → Option SignStyle × List Char
  | c :: rest =>
    match SignStyle.ofChar? c with
    | some sign => (some sign, rest)
    | none => (none, c :: rest)
  | [] => (none, [])

/-- Splits a flag off the front. -/
def splitFlag (flag : Char) : List Char → Bool × List Char
  | c :: rest => if c = flag then (true, rest) else (false, c :: rest)
  | [] => (false, [])

/-- Splits the grouping off the front; it may not be given twice in different ways. -/
def splitGrouping (cs : List Char) : Except FormatError (Option Grouping × List Char) :=
  let (comma, behindComma) := splitFlag ',' cs
  let (underscore, behind) := splitFlag '_' behindComma
  if comma && underscore then .error .commaAndUnderscore
  else if underscore then
    if (splitFlag ',' behind).1 then .error .commaAndUnderscore
    else .ok (some .underscore, behind)
  else .ok (if comma then some .comma else none, behind)

/-- Splits the precision off the front. -/
def splitPrecision (cs : List Char) : Except FormatError (Option Nat × List Char) :=
  match splitFlag '.' cs with
  | (false, rest) => .ok (none, rest)
  | (true, rest) =>
    match readCount rest with
    | .error e => .error e
    | .ok (none, _) => .error .missingPrecision
    | .ok (some n, behind) => .ok (some n, behind)

/-- The code of the presentation that binary numbers have without any. -/
def shortestCode : Char := '\x00'

/-- The presentation codes for numbers in ten digits, which can be grouped. -/
def decimalCodes : List Char := ['d', 'e', 'f', 'g', 'E', 'G', '%', 'F', shortestCode]

/-- The presentation codes for integers in other bases, which take underscores only. -/
def radixCodes : List Char := ['b', 'o', 'x', 'X']

/-- Checks that a grouping suits a presentation code. -/
def checkGrouping (grouping : Option Grouping) (code : Char) : Except FormatError Unit :=
  match grouping with
  | some g =>
    if decimalCodes.contains code || (radixCodes.contains code && g = .underscore) then .ok ()
    else .error (.groupingWithCode g code)
  | none => .ok ()

/-- Reads a specification for a kind of value, whose presentation and alignment without any are
`defaultCode` and `defaultAlign`.  A zero in front of the width fills with zeros, behind the sign
where the value would stand to the right. -/
def FormatSpec.parse (kind : String) (defaultCode : Char) (defaultAlign : Alignment)
    (spec : String) : Except FormatError FormatSpec := do
  let (fill, align, cs) := splitAlignment spec.toList
  let (sign, cs) := splitSignStyle cs
  let (noNegativeZero, cs) := splitFlag 'z' cs
  let (alternate, cs) := splitFlag '#' cs
  let (padded, cs) := if fill.isNone then splitFlag '0' cs else (false, cs)
  let (width, cs) ← readCount cs
  let (grouping, cs) ← splitGrouping cs
  let (precision, cs) ← splitPrecision cs
  let code ← match cs with
    | [] => .ok defaultCode
    | [c] => .ok c
    | _ => .error (.invalid spec kind)
  checkGrouping grouping code
  return {
    fill := fill.getD (if padded then '0' else ' ')
    align := align.getD (if padded && defaultAlign = .right then .afterSign else defaultAlign)
    sign, noNegativeZero, alternate, width, grouping, precision, code }

end SafeMarkup
