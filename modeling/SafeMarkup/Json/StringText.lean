import SafeMarkup.Json.Basic
import SafeMarkup.Text.CodePoint

/-!
# Strings of JSON

A string is written between double quotes, in ASCII: whatever else it holds is escaped, and a
character beyond the first 65536 is escaped as its surrogate pair.

* `Json.quote` — a string as it is written.
* `Json.readString` — a string read from behind its opening quote.
-/

namespace SafeMarkup.Json

/-- An escape by number, of one code unit. -/
def hexEscape (unit : Nat) : List Char := '\\' :: 'u' :: hexDigits 4 unit

/-- How a character is written in a string. -/
def escapeChar (c : Char) : List Char :=
  if c = '"' then ['\\', '"']
  else if c = '\\' then ['\\', '\\']
  else if c = '\n' then ['\\', 'n']
  else if c = '\r' then ['\\', 'r']
  else if c = '\t' then ['\\', 't']
  else if c = '\x0c' then ['\\', 'f']
  else if c = '\x08' then ['\\', 'b']
  else if ' ' ≤ c && c ≤ '~' then [c]
  else (splitSurrogates c).flatMap hexEscape

/-- The characters of a string as they are written, without the quotes. -/
def escapeChars (cs : List Char) : List Char := cs.flatMap escapeChar

/-- A string as it is written. -/
def quote (s : String) : String :=
  String.ofList ('"' :: (escapeChars s.toList ++ ['"']))

/-- The character that a short escape stands for. -/
def shortEscape? (c : Char) : Option Char :=
  if c = '"' || c = '\\' || c = '/' then some c
  else if c = 'n' then some '\n'
  else if c = 'r' then some '\r'
  else if c = 't' then some '\t'
  else if c = 'f' then some '\x0c'
  else if c = 'b' then some '\x08'
  else none

/-- A fault, and how many characters are left at its place. -/
abbrev Stop := Fault × Nat

/-- Reads code points up to the closing quote; `opening` counts the characters left at the opening
quote.  An escape by number has to be followed by at least one more character. -/
def readCodes (opening : Nat) : List Char → Except Stop (List Nat × List Char)
  | [] => .error (.unterminatedString, opening)
  | '"' :: rest => .ok ([], rest)
  | ['\\'] => .error (.unterminatedString, opening)
  | '\\' :: 'u' :: a :: b :: c :: d :: next :: rest =>
    match hexNumber? [a, b, c, d] with
    | none => .error (.invalidHexEscape, rest.length + 6)
    | some unit =>
      (readCodes opening (next :: rest)).map fun r => (unit :: r.1, r.2)
  | '\\' :: e :: rest =>
    if e = 'u' then .error (.invalidHexEscape, rest.length + 1)
    else match shortEscape? e with
      | none => .error (.invalidEscape, rest.length + 2)
      | some c => (readCodes opening rest).map fun r => (c.toNat :: r.1, r.2)
  | c :: rest =>
    if c < ' ' then .error (.controlCharacter, rest.length + 1)
    else (readCodes opening rest).map fun r => (c.toNat :: r.1, r.2)

/-- Reads a string from behind its opening quote, and returns it with what follows it. -/
def readString (text : List Char) : Except Stop (CodeText × List Char) :=
  (readCodes (text.length + 1) text).map fun r => (CodeText.ofUnits r.1, r.2)

end SafeMarkup.Json
