import SafeMarkup.Format.Value
import SafeMarkup.Json.Basic

/-!
# Values from JSON documents

Arrays are lists, objects are mappings, and all else is what it is.  But a value has its text in
characters, and a string of a document can hold halves of surrogate pairs, as can the text that an
integer is laid out as by its code.  Such a string or integer is an object of the same kind: it is
written in one of the two forms of its text, displays itself as it is, and is laid out as others of
its kind.  What is written for a document in either form comes to the text that it stands for.

* `Json.textValue`, `Json.integerValue`, `Json.listValue` — strings, integers and arrays.
* `Json.toValue` — a document as a value.
* `Json.namedValues` — the members of an object as the values of a template.
-/

namespace SafeMarkup.Json

/-- A string as a value. -/
def textValue (standIn : StandIn) (text : CodeText) : Value :=
  let form := text.form standIn
  if text.isWhole then .str form
  else .object
    { kind := "str", text := form, display := text.display
      layOut := some fun spec => (Value.formatStr form spec).map String.ofList }

/-- Whether an integer is the code of half of a surrogate pair. -/
def isSurrogateCode (n : Int) : Bool := 0xd800 ≤ n && n < 0xe000

/-- The code of half of a surrogate pair under a specification that is not empty.  Laid out as a
character, it is the character that stands in for the half. -/
def formatSurrogate (standIn : StandIn) (code : Int) (spec : String) :
    Except FormatError (List Char) := do
  let parsed ← FormatSpec.parse "int" 'd' .right spec
  let shown := standIn.char (.ofNat code.toNat)
  formatInt "int" parsed (if parsed.code = 'c' then Int.ofNat shown.toNat else code)

/-- An integer as a value. -/
def integerValue (standIn : StandIn) (n : Int) : Value :=
  if isSurrogateCode n then .object
    { kind := "int", text := toString n, display := toString n
      layOut := some fun spec => (formatSurrogate standIn n spec).map String.ofList }
  else .int n

/-- The text of a string. -/
def text? : Json → Option CodeText
  | string text => some text
  | _ => none

/-- A list of the values of some items.  Strings make up classes together, so a list of strings that
are not all in characters says itself what it is as the value of an attribute. -/
def listValue (standIn : StandIn) (items : List Json) (values : List Value) : Value :=
  match items.mapM text? with
  | none => .list values
  | some texts =>
    if texts.all CodeText.isWhole then .list values
    else
      let display := (Value.list values).display
      let classes := " ".intercalate (texts.map (CodeText.form standIn))
      .object
        { kind := "list", text := display, display
          attributeValue := some fun name _ => .str (if name = "class" then classes else display) }

mutual

/-- A document as a value. -/
def toValue (standIn : StandIn) : Json → Value
  | .null => .null
  | .bool b => .bool b
  | .integer n => integerValue standIn n
  | .real x => .float x
  | .string text => textValue standIn text
  | .array items => listValue standIn items (toValues standIn items)
  | .object members => .dict (toEntries standIn members)

/-- The items of an array as values. -/
def toValues (standIn : StandIn) : List Json → List Value
  | [] => []
  | item :: rest => item.toValue standIn :: toValues standIn rest

/-- The members of an object as entries. -/
def toEntries (standIn : StandIn) : List (CodeText × Json) → List (Value × Value)
  | [] => []
  | (name, value) :: rest =>
    (textValue standIn name, value.toValue standIn) :: toEntries standIn rest

end

/-- The members of an object as values with names.  A name that is not in characters is one that
nothing can ask for. -/
def namedValues (standIn : StandIn) (members : List (CodeText × Json)) : List (String × Value) :=
  (members.filter fun m => m.1.isWhole).map fun m => (m.1.form standIn, m.2.toValue standIn)

end SafeMarkup.Json
