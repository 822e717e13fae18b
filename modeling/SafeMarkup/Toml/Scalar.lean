import SafeMarkup.Text.Encoding
import SafeMarkup.Text.Search
import SafeMarkup.Toml.Basic

/-!
# Strings, numbers and moments of TOML

Readers for values without parts.  Each takes the text from some point on and returns the value with
the text behind it, or `none` if the text is wrong there.  Numbers and moments can be wrong although
they are there, so an outer `none` says that there is none, and the fault of one stands inside.

* `Toml.readBasic`, `Toml.readLiteral` and their forms of several lines — strings.
* `Toml.readNumber` — integers in four bases, and binary numbers.
* `Toml.readMoment` — dates, times of day, and both.
-/

namespace SafeMarkup.Toml

/-- Whether a character is a control character other than the tab. -/
def isControl (c : Char) : Bool :=
  (c.toNat < 0x20 && c ≠ '\t') || c = '\x7f'

/-- Whether a character may not stand in a string or comment; line ends may in strings of several
lines. -/
def isIllegal (multiline : Bool) (c : Char) : Bool :=
  isControl c && !(multiline && c = '\n')

/-- The blanks within a line. -/
def isLineSpace (c : Char) : Bool := c = ' ' || c = '\t'

/-- The blanks within and between lines. -/
def isAnySpace (c : Char) : Bool := isLineSpace c || c = '\n'

/-- A text without the blanks of its first line. -/
def skipLineSpace (cs : List Char) : List Char := cs.dropWhile isLineSpace

/-! ## Strings -/

/-- What follows a prefix of a text, if the text has it. -/
def afterPrefix? (start : String) (cs : List Char) : Option (List Char) :=
  if start.toList.isPrefixOf cs then some (cs.drop start.length) else none

/-- The character that a short escape stands for. -/
def shortEscape? (c : Char) : Option Char :=
  if c = 'b' then some '\x08'
  else if c = 't' then some '\t'
  else if c = 'n' then some '\n'
  else if c = 'f' then some '\x0c'
  else if c = 'r' then some '\r'
  else if c = '"' then some '"'
  else if c = '\\' then some '\\'
  else none

/-- Reads an escape by number, of the given count of hexadecimal digits. -/
def readHexEscape (width : Nat) (cs : List Char) : Option (List Char × List Char) :=
  if (cs.take width).length = width then
    match hexNumber? (cs.take width) with
    | some code => if code.isValidChar then some ([Char.ofNat code], cs.drop width) else none
    | none => none
  else none

/-- Reads a line that is continued: behind the backslash there is nothing but blanks, which are
dropped together with those of the lines that follow. -/
def readContinuation (cs : List Char) : Option (List Char) :=
  match skipLineSpace cs with
  | [] => some []
  | '\n' :: rest => some (rest.dropWhile isAnySpace)
  | _ => none

/-- Reads an escape from behind its backslash. -/
def readEscape (multiline : Bool) (cs : List Char) : Option (List Char × List Char) :=
  match cs with
  | [] => none
  | c :: rest =>
    if multiline && isAnySpace c then (readContinuation cs).map fun rest => ([], rest)
    else if c = 'u' then readHexEscape 4 rest
    else if c = 'U' then readHexEscape 8 rest
    else (shortEscape? c).map fun d => ([d], rest)

/-- Reads a basic string up to its closing quotes, in at most `steps` steps. -/
def readBasicFrom (multiline : Bool) : Nat → List Char → Option (List Char × List Char)
  | 0, _ => none
  | _ + 1, [] => none
  | steps + 1, c :: rest =>
    if c = '"' then
      if !multiline then some ([], rest)
      else match afterPrefix? "\"\"" rest with
        | some behind => some ([], behind)
        | none => (readBasicFrom multiline steps rest).map fun r => (c :: r.1, r.2)
    else if c = '\\' then
      (readEscape multiline rest).bind fun e =>
        (readBasicFrom multiline steps e.2).map fun r => (e.1 ++ r.1, r.2)
    else if isIllegal multiline c then none
    else (readBasicFrom multiline steps rest).map fun r => (c :: r.1, r.2)

/-- Reads a basic string from behind its opening quotes. -/
def readBasic (multiline : Bool) (cs : List Char) : Option (List Char × List Char) :=
  readBasicFrom multiline (cs.length + 1) cs

/-- Reads a literal string, in which nothing is escaped, from behind its opening quotes up to the
closing ones. -/
def readLiteral (multiline : Bool) (closing : String) :
    List Char → Option (List Char × List Char)
  | [] => none
  | c :: rest =>
    match afterPrefix? closing (c :: rest) with
    | some behind => some ([], behind)
    | none =>
      if isIllegal multiline c then none
      else (readLiteral multiline closing rest).map fun r => (c :: r.1, r.2)

/-- Up to two quotes in front of the closing ones belong to a string of several lines; they are
found behind it. -/
def takeLateQuotes (quote : Char) (r : List Char × List Char) : List Char × List Char :=
  match r.2 with
  | a :: b :: rest =>
    if a = quote then
      if b = quote then (r.1 ++ [quote, quote], rest) else (r.1 ++ [quote], b :: rest)
    else r
  | [a] => if a = quote then (r.1 ++ [quote], []) else r
  | [] => r

/-- A line end right behind the opening quotes does not belong to the string. -/
def skipFirstLineEnd : List Char → List Char
  | '\n' :: rest => rest
  | cs => cs

/-- Reads a string of any of the four forms. -/
def readString (cs : List Char) : Option (List Char × List Char) :=
  match afterPrefix? "\"\"\"" cs with
  | some rest => (readBasic true (skipFirstLineEnd rest)).map (takeLateQuotes '"')
  | none =>
    match afterPrefix? "'''" cs with
    | some rest =>
      (readLiteral true "'''" (skipFirstLineEnd rest)).map (takeLateQuotes '\'')
    | none =>
      match cs with
      | '"' :: rest => readBasic false rest
      | '\'' :: rest => readLiteral false "'" rest
      | _ => none

/-! ## Numbers -/

/-- Splits digits off the front, between which single underscores may stand. -/
def splitDigits (isDigit : Char → Bool) : List Char → List Char × List Char
  | c :: '_' :: d :: rest =>
    if isDigit c && isDigit d then
      let (digits, behind) := splitDigits isDigit (d :: rest)
      (c :: digits, behind)
    else if isDigit c then ([c], '_' :: d :: rest)
    else ([], c :: '_' :: d :: rest)
  | c :: rest =>
    if isDigit c then
      let (digits, behind) := splitDigits isDigit rest
      (c :: digits, behind)
    else ([], c :: rest)
  | [] => ([], [])

/-- The value of digits in a base. -/
def valueIn (base : Nat) (digits : List Char) : Nat :=
  digits.foldl (fun n c => base * n + (hexValue? c).getD 0) 0

/-- Whether a character is a digit in a base. -/
def isDigitIn (base : Nat) (c : Char) : Bool :=
  match hexValue? c with
  | some n => n < base
  | none => false

/-- Reads an integer in a base other than ten, from behind its mark. -/
def readRadix (base : Nat) (cs : List Char) : Option (Toml × List Char) :=
  match splitDigits (isDigitIn base) cs with
  | ([], _) => none
  | (digits, rest) => some (.integer (valueIn base digits), rest)

/-- Splits the whole part of a number off the front: a zero, or digits that do not start with
one. -/
def splitWholePart : List Char → List Char × List Char
  | '0' :: rest => (['0'], rest)
  | cs => splitDigits Char.isDigit cs

/-- Splits a mark and the digits behind it off the front, if digits are there. -/
def splitMarked (mark : List Char) (cs : List Char) : Option (List Char × List Char) :=
  match splitDigits Char.isDigit cs with
  | ([], _) => none
  | (digits, rest) => some (mark ++ digits, rest)

/-- Splits a point with the places behind it off the front, if they are there. -/
def splitPlaces : List Char → List Char × List Char
  | '.' :: rest => (splitMarked ['.'] rest).getD ([], '.' :: rest)
  | cs => ([], cs)

/-- Splits an exponent off the front, if it is there. -/
def splitExponent : List Char → List Char × List Char
  | e :: rest =>
    if e = 'e' || e = 'E' then
      match rest with
      | '-' :: digits => (splitMarked ['e', '-'] digits).getD ([], e :: rest)
      | '+' :: digits => (splitMarked ['e'] digits).getD ([], e :: rest)
      | digits => (splitMarked ['e'] digits).getD ([], e :: rest)
    else ([], e :: rest)
  | [] => ([], [])

/-- Reads a number in ten digits: an integer, or a binary number if a point or an exponent is
there. -/
def readDecimal (cs : List Char) : Option (Except Fault (Toml × List Char)) :=
  let (negative, unsigned) := splitSign cs
  let (whole, behind) := splitWholePart unsigned
  if whole.isEmpty then none
  else
    let (places, tail) := splitPlaces behind
    let (exponent, rest) := splitExponent tail
    if places.isEmpty && exponent.isEmpty then
      some (((integerOfDigits negative whole).mapError .longInteger).map fun n =>
        (.integer n, rest))
    else
      (Binary64.ofUnsignedText? negative (whole ++ places ++ exponent)).map fun x =>
        .ok (.real x, rest)

/-- Reads one of the words for numbers that have no digits. -/
def readNumberWord (cs : List Char) : Option (Toml × List Char) :=
  let (negative, word) := splitSign cs
  match afterPrefix? "inf" word with
  | some rest => some (.real (.infinity negative), rest)
  | none => (afterPrefix? "nan" word).map fun rest => (.real .notANumber, rest)

/-- Reads a number. -/
def readNumber (cs : List Char) : Option (Except Fault (Toml × List Char)) :=
  let inRadix := match cs with
    | '0' :: 'x' :: rest => readRadix 16 rest
    | '0' :: 'o' :: rest => readRadix 8 rest
    | '0' :: 'b' :: rest => readRadix 2 rest
    | _ => none
  inRadix.map .ok <|> readDecimal cs <|> (readNumberWord cs).map .ok

/-! ## Moments -/

/-- Reads exactly two digits that stand for a number within bounds. -/
def readTwoDigits (low high : Nat) : List Char → Option (Nat × List Char)
  | a :: b :: rest =>
    let n := natOfDigits [a, b]
    if a.isDigit && b.isDigit && low ≤ n && n ≤ high then some (n, rest) else none
  | _ => none

/-- What follows a character, if it stands at the front. -/
def afterChar? (c : Char) : List Char → Option (List Char)
  | d :: rest => if d = c then some rest else none
  | [] => none

/-- Reads the hours, minutes and seconds of a time of day, and returns what follows it. -/
def readTime (cs : List Char) : Option (List Char) := do
  let (_, cs) ← readTwoDigits 0 23 cs
  let (_, cs) ← readTwoDigits 0 59 (← afterChar? ':' cs)
  let (_, cs) ← readTwoDigits 0 59 (← afterChar? ':' cs)
  match cs with
  | '.' :: d :: rest =>
    if d.isDigit then return (d :: rest).dropWhile Char.isDigit else return cs
  | _ => return cs

/-- Reads the offset of a time of day, if it has one. -/
def skipOffset (cs : List Char) : List Char :=
  match cs with
  | 'Z' :: rest | 'z' :: rest => rest
  | sign :: rest =>
    let offset := do
      let (_, cs) ← readTwoDigits 0 23 rest
      let (_, cs) ← readTwoDigits 0 59 (← afterChar? ':' cs)
      return cs
    if sign = '+' || sign = '-' then offset.getD cs else cs
  | [] => cs

/-- The number of days of a month. -/
def daysOf (year month : Nat) : Nat :=
  if month = 2 then
    if year % 4 = 0 && (year % 100 ≠ 0 || year % 400 = 0) then 29 else 28
  else if [4, 6, 9, 11].contains month then 30
  else 31

/-- Reads a date of the calendar, and says whether there is such a day. -/
def readDate (cs : List Char) : Option (Bool × List Char) := do
  let (century, cs) ← readTwoDigits 0 99 cs
  let (rest, cs) ← readTwoDigits 0 99 cs
  let (month, cs) ← readTwoDigits 1 12 (← afterChar? '-' cs)
  let (day, cs) ← readTwoDigits 1 31 (← afterChar? '-' cs)
  let year := 100 * century + rest
  return (1 ≤ year && day ≤ daysOf year month, cs)

/-- Reads the time of day behind a date, if there is one. -/
def skipTimeOfDate (cs : List Char) : List Char :=
  match cs with
  | sep :: rest =>
    if sep = 'T' || sep = 't' || sep = ' ' then
      match readTime rest with
      | some behind => skipOffset behind
      | none => cs
    else cs
  | [] => []

/-- Reads a moment.  One on a day that does not exist is malformed. -/
def readMoment (cs : List Char) : Option (Except Fault (Toml × List Char)) :=
  let momentTo (rest : List Char) : Toml × List Char :=
    (.moment (String.ofList (cs.take (cs.length - rest.length))), rest)
  match readDate cs with
  | some (onCalendar, rest) =>
    some (if onCalendar then .ok (momentTo (skipTimeOfDate rest)) else .error .malformed)
  | none => (readTime cs).map fun rest => .ok (momentTo rest)

end SafeMarkup.Toml
