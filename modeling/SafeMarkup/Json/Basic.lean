import SafeMarkup.Number.Read
import SafeMarkup.Text.CodePoint

/-!
# JSON documents

* `Json` — a document.  Integers are kept whole; numbers with a point or an exponent, and the
  words for infinity and for what is not a number, are binary numbers.  Strings can hold halves of
  surrogate pairs.
* `Json.Fault` — why a text is no document, and `Json.Failure`, the same with its place.
* `Json.objectOf` — the members of an object, when a name is given again.
-/

namespace SafeMarkup

/-- A JSON document. -/
inductive Json where
  | null
  | bool (b : Bool)
  | integer (n : Int)
  | real (x : Binary64)
  | string (text : CodeText)
  | array (items : List Json)
  | object (members : List (CodeText × Json))
  deriving Inhabited

namespace Json

/-- Adds a member to those in front of it.  A name that is there already keeps its place and takes
the new value. -/
def setMember (name : CodeText) (value : Json) :
    List (CodeText × Json) → List (CodeText × Json)
  | [] => [(name, value)]
  | (other, old) :: rest =>
    if other = name then (name, value) :: rest else (other, old) :: setMember name value rest

/-- The members of an object that is written with these members. -/
def objectOf (written : List (CodeText × Json)) : List (CodeText × Json) :=
  written.foldl (fun members m => setMember m.1 m.2 members) []

/-- Why a text is not a JSON document. -/
inductive Fault where
  | byteOrderMark
  | expectingValue
  | expectingName
  | expectingColon
  | expectingComma
  | unterminatedString
  | controlCharacter
  | invalidEscape
  | invalidHexEscape
  | extraData
  deriving DecidableEq, Repr, Inhabited

/-- The words for a fault. -/
def Fault.words : Fault → String
  | byteOrderMark => "Unexpected UTF-8 BOM (decode using utf-8-sig)"
  | expectingValue => "Expecting value"
  | expectingName => "Expecting property name enclosed in double quotes"
  | expectingColon => "Expecting ':' delimiter"
  | expectingComma => "Expecting ',' delimiter"
  | unterminatedString => "Unterminated string starting at"
  | controlCharacter => "Invalid control character at"
  | invalidEscape => "Invalid \\escape"
  | invalidHexEscape => "Invalid \\uXXXX escape"
  | extraData => "Extra data"

/-- Why reading a text as JSON fails. -/
inductive Failure where
  /-- The text is not a document. -/
  | malformed (fault : Fault) (line column position : Nat)
  /-- An integer has more digits than are read. -/
  | longInteger (error : LongInteger)
  deriving DecidableEq, Repr, Inhabited

/-- The wording of a failure. -/
def Failure.message : Failure → String
  | malformed fault line column position =>
    fault.words ++ ": line " ++ toString line ++ " column " ++ toString column ++ " (char "
      ++ toString position ++ ")"
  | longInteger error => error.message

end Json

end SafeMarkup
