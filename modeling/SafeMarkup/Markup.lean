import SafeMarkup.Text.Order
import SafeMarkup.Value.Text
import SafeMarkup.Json.Reader

/-!
# Trusted markup

Markup that is safe to go into a document as it is.  It is ordered by the code points of its text,
can be joined, and is kept as a JSON string.

* `Markup` — trusted markup, `Markup.sort` and `Markup.display`.
* `Markup.join` — the markup of several values with a separator.
* `Markup.toJson`, `Markup.fromJson`, `Markup.fromJsonBytes` — markup as a JSON string, and back.
-/

namespace SafeMarkup

/-- Markup that is safe as it is. -/
structure Markup where
  content : String
  deriving DecidableEq, Repr, Inhabited

namespace Markup

/-- Markup as containers and reports display it. -/
def display (m : Markup) : String := (Value.html m.content).display

/-- Markup comes before other markup if its text does. -/
def before (a b : Markup) : Bool := a.content < b.content

/-- Markup in its order. -/
def sort (ms : List Markup) : List Markup :=
  (sortTexts (ms.map Markup.content)).map Markup.mk

/-! ## Joining -/

/-- Why values cannot be joined. -/
inductive JoinError where
  /-- A value of this kind supplies no markup. -/
  | noMarkup (kind : String)
  /-- The markup that the item at an index supplies is no text but of this kind. -/
  | notText (index : Nat) (kind : String)
  deriving DecidableEq, Repr, Inhabited

/-- The wording of the error. -/
def JoinError.message : JoinError → String
  | noMarkup kind => "'" ++ kind ++ "' object has no attribute '__html__'"
  | notText index kind =>
    "sequence item " ++ toString index ++ ": expected str instance, " ++ kind ++ " found"

/-- The markup of items, as the values they supply. -/
def suppliedBy : List Value → Except JoinError (List Value)
  | [] => .ok []
  | item :: rest =>
    match item.markup? with
    | none => .error (.noMarkup item.kindName)
    | some markup => (suppliedBy rest).map (markup :: ·)

/-- Supplied markup as texts, the first being the item at `index`. -/
def textsFrom (index : Nat) : List Value → Except JoinError (List String)
  | [] => .ok []
  | .str s :: rest => (textsFrom (index + 1) rest).map (s :: ·)
  | other :: _ => .error (.notText index other.kindName)

/-- The markup of several values with a separator, which is trusted as well.  Every item has to
supply markup before it matters whether the markup is text. -/
def join (separator : String) (items : List Value) : Except JoinError Markup := do
  let texts ← textsFrom 0 (← suppliedBy items)
  return ⟨separator.intercalate texts⟩

/-! ## Keeping markup -/

/-- Why kept markup cannot be read. -/
inductive ReadError where
  | json (failure : Json.Failure)
  | encoding (fault : EncodingFault)
  /-- The document is no string but of this kind. -/
  | notAString (kind : String)
  deriving DecidableEq, Repr, Inhabited

/-- The wording of the error. -/
def ReadError.message : ReadError → String
  | json failure => failure.message
  | encoding fault => fault.message
  | notAString kind => "Expected a JSON string, got " ++ kind

/-- The name of the kind of value that a JSON document holds. -/
def jsonKindName : Json → String
  | .null => "NoneType"
  | .bool _ => "bool"
  | .integer _ => "int"
  | .real _ => "float"
  | .string _ => "str"
  | .array _ => "list"
  | .object _ => "dict"

/-- Markup as JSON text. -/
def toJson (m : Markup) : String := Json.quote m.content

/-- The markup that a JSON document holds. -/
def ofDocument : Except Json.Failure Json → Except ReadError Markup
  | .error failure => .error (.json failure)
  | .ok (.string text) => .ok ⟨text.replaced⟩
  | .ok other => .error (.notAString (jsonKindName other))

/-- The markup kept in a JSON text. -/
def fromJson (text : String) : Except ReadError Markup := ofDocument (Json.parse text)

/-- The markup kept in the bytes of a JSON text. -/
def fromJsonBytes (bytes : List UInt8) : Except ReadError Markup :=
  match Json.textOfBytes bytes with
  | .error fault => .error (.encoding fault)
  | .ok text => ofDocument (Json.parseChars text)

end Markup

end SafeMarkup
