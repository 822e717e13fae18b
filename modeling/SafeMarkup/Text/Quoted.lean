import SafeMarkup.Text.CodePoint
import SafeMarkup.Text.Printable

/-!
# Quoted text

How texts and bytes are displayed inside containers and reports: between apostrophes, or between
double quotes if there is an apostrophe and no double quote; the quote in use, the backslash, and
what cannot be shown are escaped.

* `displayQuote` — which quote is used.
* `CodeText.display`, `displayText`, `displayBytes` — texts and bytes, displayed.
* `asciiOnly` — a display in which all other characters are escaped as well.
-/

namespace SafeMarkup

/-- The quote that a display uses: the apostrophe, save for text with apostrophes and without double
quotes. -/
def displayQuote (hasApostrophe hasDoubleQuote : Bool) : Char :=
  if hasApostrophe && !hasDoubleQuote then '"' else '\''

/-- The escapes that a display has a letter for. -/
def letterEscape? (c : Char) : Option (List Char) :=
  if c = '\\' then some ['\\', '\\']
  else if c = '\n' then some ['\\', 'n']
  else if c = '\r' then some ['\\', 'r']
  else if c = '\t' then some ['\\', 't']
  else none

/-- A character of a displayed text. -/
def displayChar (quote c : Char) : List Char :=
  match letterEscape? c with
  | some escaped => escaped
  | none =>
    if c = quote then ['\\', c]
    else if isPrintable c then [c]
    else numericEscape c.toNat

/-- A code point of a displayed text.  Half of a surrogate pair does not show. -/
def CodePoint.display (quote : Char) : CodePoint → List Char
  | char c => displayChar quote c
  | half index => numericEscape (half index).toNat

/-- A text as containers and reports display it. -/
def CodeText.display (text : CodeText) : String :=
  let quote := displayQuote (text.contains (.char '\'')) (text.contains (.char '"'))
  String.ofList (quote :: (text.flatMap (CodePoint.display quote) ++ [quote]))

/-- The same for a text in characters. -/
def displayText (s : String) : String := (CodeText.ofString s).display

/-- A byte of displayed bytes. -/
def displayByte (quote : Char) (b : UInt8) : List Char :=
  let c := Char.ofNat b.toNat
  match letterEscape? c with
  | some escaped => escaped
  | none =>
    if c = quote then ['\\', c]
    else if ' ' ≤ c && c ≤ '~' then [c]
    else numericEscape b.toNat

/-- Bytes as containers and reports display them. -/
def displayBytes (bytes : List UInt8) : String :=
  let quote := displayQuote (bytes.contains 0x27) (bytes.contains 0x22)
  String.ofList ('b' :: quote :: (bytes.flatMap (displayByte quote) ++ [quote]))

/-- The text with every character beyond ASCII escaped by its number. -/
def asciiOnly (s : String) : String :=
  String.ofList (s.toList.flatMap fun c => if c.toNat < 0x80 then [c] else numericEscape c.toNat)

end SafeMarkup
