import SafeMarkup.Json.StringText
import SafeMarkup.Number.Read
import SafeMarkup.Text.Utf8

/-!
# Reading JSON

Reading goes from the front of a text to its end; a fault carries the number of characters left
at its place, from which its line and column follow.  Objects and arrays hold documents, so the
functions for them call one another.  The number of nested calls is bounded: every character that
opens or separates documents costs at most two, so twice the length of the text suffices.

* `Json.readValue`, `Json.readItems`, `Json.readMembers` — a document at the front of a text.
* `Json.parse` — a whole text.
* `Json.byteOrderMarks`, `Json.shownEncoding` — what the beginning of bytes says of their encoding.
* `Json.textOfBytes` — the text in bytes.
-/

namespace SafeMarkup.Json

/-- Why a document cannot be read. -/
inductive Trouble where
  /-- The text is wrong where `left` characters are left. -/
  | fault (fault : Fault) (left : Nat)
  | longInteger (error : LongInteger)
  deriving DecidableEq, Repr, Inhabited

/-- The blanks between the parts of a document. -/
def isSpace (c : Char) : Bool :=
  c = ' ' || c = '\t' || c = '\n' || c = '\r'

/-- A text without the blanks at its front. -/
def skipSpace (text : List Char) : List Char := text.dropWhile isSpace

/-! ## Numbers -/

/-- Splits the digits of a whole number off the front: a single zero, or digits that do not start
with one. -/
def splitWhole : List Char → List Char × List Char
  | '0' :: rest => (['0'], rest)
  | cs => (cs.takeWhile Char.isDigit, cs.dropWhile Char.isDigit)

/-- Splits a point and the digits behind it off the front, if both are there. -/
def splitPlaces : List Char → List Char × List Char
  | '.' :: d :: rest =>
    if d.isDigit then
      ('.' :: (d :: rest).takeWhile Char.isDigit, (d :: rest).dropWhile Char.isDigit)
    else ([], '.' :: d :: rest)
  | cs => ([], cs)

/-- Splits an exponent off the front, if one is there. -/
def splitExponent : List Char → List Char × List Char
  | e :: rest =>
    let sign := match rest with
      | c :: _ => if c = '+' || c = '-' then [c] else []
      | [] => []
    let behind := rest.drop sign.length
    let digits := behind.takeWhile Char.isDigit
    if (e = 'e' || e = 'E') && !digits.isEmpty then
      (e :: (sign ++ digits), behind.dropWhile Char.isDigit)
    else ([], e :: rest)
  | [] => ([], [])

/-- Reads a number whose sign has been read; `start` counts the characters left at its front. -/
def readUnsigned (start : Nat) (negative : Bool) (text : List Char) :
    Except Trouble (Json × List Char) :=
  let (whole, behind) := splitWhole text
  if whole.isEmpty then .error (.fault .expectingValue start)
  else
    let (places, tail) := splitPlaces behind
    let (exponent, rest) := splitExponent tail
    if places.isEmpty && exponent.isEmpty then
      match integerOfDigits negative whole with
      | .ok n => .ok (.integer n, rest)
      | .error e => .error (.longInteger e)
    else
      let x := Binary64.ofUnsignedText? negative (whole ++ places ++ exponent)
      .ok (.real (x.getD .notANumber), rest)

/-- Reads a number, or the word for a negative infinity. -/
def readNumber (text : List Char) : Except Trouble (Json × List Char) :=
  match text with
  | '-' :: rest =>
    if "Infinity".toList.isPrefixOf rest then
      .ok (.real (.infinity true), rest.drop 8)
    else readUnsigned text.length true rest
  | _ => readUnsigned text.length false text

/-- The documents that are single words. -/
def wordDocuments : List (String × Json) :=
  [("null", .null), ("true", .bool true), ("false", .bool false), ("NaN", .real .notANumber),
    ("Infinity", .real (.infinity false))]

/-- Reads a word or a number. -/
def readScalar (text : List Char) : Except Trouble (Json × List Char) :=
  match wordDocuments.find? fun w => w.1.toList.isPrefixOf text with
  | some (word, document) => .ok (document, text.drop word.length)
  | none => readNumber text

/-- Reads a string from behind its opening quote. -/
def readText (text : List Char) : Except Trouble (CodeText × List Char) :=
  match readString text with
  | .ok r => .ok r
  | .error (fault, left) => .error (.fault fault left)

/-! ## Documents -/

mutual

/-- Reads the document at the front of a text, and returns it with what follows it. -/
def readValue : Nat → List Char → Except Trouble (Json × List Char)
  | 0, text => .error (.fault .expectingValue text.length)
  | depth + 1, text =>
    match text with
    | '"' :: rest => (readText rest).map fun r => (.string r.1, r.2)
    | '\x7b' :: rest =>
      match skipSpace rest with
      | '\x7d' :: behind => .ok (.object [], behind)
      | body => (readMembers depth body).map fun r => (.object (objectOf r.1), r.2)
    | '[' :: rest =>
      match skipSpace rest with
      | ']' :: behind => .ok (.array [], behind)
      | body => (readItems depth body).map fun r => (.array r.1, r.2)
    | _ => readScalar text

/-- Reads the items of an array up to its closing bracket. -/
def readItems : Nat → List Char → Except Trouble (List Json × List Char)
  | 0, text => .error (.fault .expectingValue text.length)
  | depth + 1, text =>
    (readValue depth text).bind fun item =>
      match skipSpace item.2 with
      | ']' :: rest => .ok ([item.1], rest)
      | ',' :: rest => (readItems depth (skipSpace rest)).map fun r => (item.1 :: r.1, r.2)
      | other => .error (.fault .expectingComma other.length)

/-- Reads the members of an object up to its closing brace. -/
def readMembers : Nat → List Char → Except Trouble (List (CodeText × Json) × List Char)
  | 0, text => .error (.fault .expectingName text.length)
  | depth + 1, text =>
    match text with
    | '"' :: rest =>
      (readText rest).bind fun name =>
        match skipSpace name.2 with
        | ':' :: behind =>
          (readValue depth (skipSpace behind)).bind fun value =>
            match skipSpace value.2 with
            | '\x7d' :: rest => .ok ([(name.1, value.1)], rest)
            | ',' :: rest =>
              (readMembers depth (skipSpace rest)).map fun r =>
                ((name.1, value.1) :: r.1, r.2)
            | other => .error (.fault .expectingComma other.length)
        | other => .error (.fault .expectingColon other.length)
    | other => .error (.fault .expectingName other.length)

end

/-! ## Whole texts -/

/-- The place where `left` characters of a text are left. -/
def failureAt (text : List Char) (fault : Fault) (left : Nat) : Failure :=
  let position := text.length - left
  let front := text.take position
  let column := (front.reverse.takeWhile (· ≠ '\n')).length + 1
  .malformed fault (front.count '\n' + 1) column position

/-- Reads a text that has to be a document, with blanks around it. -/
def parseChars (text : List Char) : Except Failure Json :=
  match readValue (2 * text.length + 2) (skipSpace text) with
  | .error (.fault fault left) => .error (failureAt text fault left)
  | .error (.longInteger e) => .error (.longInteger e)
  | .ok (document, rest) =>
    match skipSpace rest with
    | [] => .ok document
    | other => .error (failureAt text .extraData other.length)

/-- Reads a text, which must not start with a byte order mark. -/
def parse (text : String) : Except Failure Json :=
  match text.toList with
  | '\ufeff' :: rest => .error (failureAt ('\ufeff' :: rest) .byteOrderMark (rest.length + 1))
  | cs => parseChars cs

/-! ## Bytes -/

/-- The text that bytes of an encoding stand for; the number is the position of the first of them.
Halves of surrogate pairs are allowed. -/
def decodeAs : Encoding → Nat → List UInt8 → Except EncodingFault (List Char)
  | .utf8, _, bytes => Utf8.decodeLenient bytes
  | .utf16 order, start, bytes => decodeUtf16 order start bytes
  | .utf32 order, start, bytes => decodeUtf32 order start bytes

/-- The byte order marks.  One of them starts with another, and comes before it. -/
def byteOrderMarks : List (List UInt8 × Encoding) :=
  [([0x00, 0x00, 0xfe, 0xff], .utf32 .big), ([0xff, 0xfe, 0x00, 0x00], .utf32 .little),
    ([0xfe, 0xff], .utf16 .big), ([0xff, 0xfe], .utf16 .little), ([0xef, 0xbb, 0xbf], .utf8)]

/-- The encoding that follows from where the zeros are among the first four bytes, as the first
characters of a document are ASCII. -/
def shownEncoding : List UInt8 → Encoding
  | a :: b :: c :: d :: _ =>
    if a = 0 then
      if b = 0 then .utf32 .big else .utf16 .big
    else if b = 0 then
      if c = 0 && d = 0 then .utf32 .little else .utf16 .little
    else .utf8
  | [a, b] => if a = 0 then .utf16 .big else if b = 0 then .utf16 .little else .utf8
  | _ => .utf8

/-- The text of JSON in bytes.  A byte order mark names the encoding, and is no part of the text;
without one the bytes show it. -/
def textOfBytes (bytes : List UInt8) : Except EncodingFault (List Char) :=
  match byteOrderMarks.find? fun m => m.1.isPrefixOf bytes with
  | some (mark, encoding) => decodeAs encoding mark.length (bytes.drop mark.length)
  | none => decodeAs (shownEncoding bytes) 0 bytes

end SafeMarkup.Json
