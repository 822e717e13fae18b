/-!
# Encodings and what can be wrong with encoded text

* `Encoding` — the encodings of Unicode text that files and documents come in.
* `EncodingFault` — the first place where bytes are not text in their encoding.
* `EncodingFault.message` — the one wording of such a fault.
* `hexDigits` — numbers in hexadecimal, for this wording and for escapes; `numericEscape` is an
  escape.
-/

namespace SafeMarkup

/-- The digit of a number below sixteen, in lower case. -/
def hexDigit (n : Nat) : Char :=
  Nat.digitChar (n % 16)

/-- The last `width` hexadecimal digits of a number, in lower case. -/
def hexDigits : Nat → Nat → List Char
  | 0, _ => []
  | width + 1, n => hexDigits width (n / 16) ++ [hexDigit n]

/-- An escape by number: two, four or eight hexadecimal digits, as few as suffice. -/
def numericEscape (code : Nat) : List Char :=
  if code < 0x100 then '\\' :: 'x' :: hexDigits 2 code
  else if code < 0x10000 then '\\' :: 'u' :: hexDigits 4 code
  else '\\' :: 'U' :: hexDigits 8 code

/-- The value of a hexadecimal digit in either case. -/
def hexValue? (c : Char) : Option Nat :=
  if '0' ≤ c && c ≤ '9' then some (c.toNat - '0'.toNat)
  else if 'a' ≤ c && c ≤ 'f' then some (c.toNat - 'a'.toNat + 10)
  else if 'A' ≤ c && c ≤ 'F' then some (c.toNat - 'A'.toNat + 10)
  else none

/-- The value of a run of hexadecimal digits, if it is one. -/
def hexNumber? (digits : List Char) : Option Nat :=
  digits.foldlM (fun n c => (hexValue? c).map (16 * n + ·)) 0

/-- The order of the bytes within a unit. -/
inductive ByteOrder where
  | little
  | big
  deriving DecidableEq, Repr, Inhabited

/-- The encodings of Unicode text. -/
inductive Encoding where
  | utf8
  | utf16 (order : ByteOrder)
  | utf32 (order : ByteOrder)
  deriving DecidableEq, Repr, Inhabited

/-- The name of an encoding. -/
def Encoding.name : Encoding → String
  | utf8 => "utf-8"
  | utf16 .little => "utf-16-le"
  | utf16 .big => "utf-16-be"
  | utf32 .little => "utf-32-le"
  | utf32 .big => "utf-32-be"

/-- Why bytes are not text. -/
inductive EncodingReason where
  /-- No character starts with this byte. -/
  | invalidStart
  /-- The byte behind these cannot follow them. -/
  | invalidContinuation
  /-- The input ends within a character. -/
  | unexpectedEnd
  /-- The input ends within a unit. -/
  | truncated
  /-- The unit is no character. -/
  | outOfRange
  deriving DecidableEq, Repr, Inhabited

/-- The words for a reason. -/
def EncodingReason.words : EncodingReason → String
  | invalidStart => "invalid start byte"
  | invalidContinuation => "invalid continuation byte"
  | unexpectedEnd => "unexpected end of data"
  | truncated => "truncated data"
  | outOfRange => "code point not in range(0x110000)"

/-- The first place where bytes are not text in their encoding. -/
structure EncodingFault where
  encoding : Encoding
  reason : EncodingReason
  /-- The position of the first byte at fault. -/
  start : Nat
  /-- How many bytes are at fault, at least one. -/
  count : Nat
  /-- The first byte at fault. -/
  byte : UInt8
  deriving DecidableEq, Repr, Inhabited

/-- The wording of a fault: a single byte is shown, several are given by their positions. -/
def EncodingFault.message (fault : EncodingFault) : String :=
  let opening := "'" ++ fault.encoding.name ++ "' codec can't decode "
  let place :=
    if fault.count = 1 then
      "byte 0x" ++ String.ofList (hexDigits 2 fault.byte.toNat) ++ " in position "
        ++ toString fault.start
    else
      "bytes in position " ++ toString fault.start ++ "-"
        ++ toString (fault.start + fault.count - 1)
  opening ++ place ++ ": " ++ fault.reason.words

/-- The character that stands for half of a surrogate pair where text is read in characters. -/
def replacementCharacter : Char := '\ufffd'

/-- The character with the given code point, or the replacement character. -/
def charOfCode (code : Nat) : Char :=
  if code.isValidChar then Char.ofNat code else replacementCharacter

theorem charOfCode_toNat (c : Char) : charOfCode c.toNat = c := by
  have hvalid : c.toNat.isValidChar := c.valid
  rw [charOfCode, if_pos hvalid, Char.ofNat_toNat]

end SafeMarkup
