import SafeMarkup.Format.Spec
import SafeMarkup.Number.Binary64

/-!
# Values

What a document is filled with: plain data, markup that is already trusted, text that its author
vouches for or wants to see as a comment, and objects that say themselves how they are written.

* `Value` — a value; `Provider` is an object with the capabilities it has.
* `Value.kindName` — the name of a value's kind, as reports and logs write it.
* `Value.sequence?`, `Value.entries?`, `Value.markup?`, `Value.suppliesAttributes` — what a value
  can serve as.
-/

namespace SafeMarkup

/-- An object: its kind, its text, and what it supplies for the places in a document that ask for
more.  A capability that is `none` is one that the object does not have. -/
structure Provider (α : Type) where
  /-- The name of its kind. -/
  kind : String
  /-- The text of the object. -/
  text : String
  /-- The text of the object as an item of a container. -/
  display : String
  /-- The object's own layout under a format specification that is not empty. -/
  layOut : Option (String → Except FormatError String) := none
  /-- The object's own markup. -/
  markup : Option α := none
  /-- The object's own attributes for an element. -/
  attributes : Option (String → String) := none
  /-- The object's own value for an attribute of an element, given in this order. -/
  attributeValue : Option (String → String → α) := none

/-- A value that can be written into a document. -/
inductive Value where
  | null
  | bool (b : Bool)
  | int (n : Int)
  | float (x : Binary64)
  | str (s : String)
  | bytes (b : List UInt8)
  | list (items : List Value)
  | tuple (items : List Value)
  /-- Keys and their values, in the order of insertion. -/
  | dict (entries : List (Value × Value))
  /-- Trusted markup. -/
  | html (content : String)
  /-- Text that its author vouches for. -/
  | unescaped (text : String)
  /-- Text to be written as a comment. -/
  | comment (text : String)
  | object (provider : Provider Value)

namespace Value

instance : Inhabited Value := ⟨null⟩

/-- The name of a value's kind. -/
def kindName : Value → String
  | null => "NoneType"
  | bool _ => "bool"
  | int _ => "int"
  | float _ => "float"
  | str _ => "str"
  | bytes _ => "bytes"
  | list _ => "list"
  | tuple _ => "tuple"
  | dict _ => "dict"
  | html _ => "HTML"
  | unescaped _ => "Unescaped"
  | comment _ => "CommentText"
  | object provider => provider.kind

/-- The items of a list or a tuple. -/
def sequence? : Value → Option (List Value)
  | list items | tuple items => some items
  | _ => none

/-- The entries of a mapping. -/
def entries? : Value → Option (List (Value × Value))
  | dict entries => some entries
  | _ => none

/-- A text value. -/
def str? : Value → Option String
  | str s => some s
  | _ => none

/-- The markup that a value supplies of its own, as a value. -/
def markup? : Value → Option Value
  | html content => some (str content)
  | object provider => provider.markup
  | _ => none

/-- The attributes that an object supplies of its own. -/
def ownAttributes? : Value → Option (String → String)
  | object provider => provider.attributes
  | _ => none

/-- The attribute value that an object supplies of its own. -/
def ownAttributeValue? : Value → Option (String → String → Value)
  | object provider => provider.attributeValue
  | _ => none

/-- Whether a value supplies attributes: objects that do, and mappings. -/
def suppliesAttributes (v : Value) : Bool :=
  v.ownAttributes?.isSome || v.entries?.isSome

end Value

end SafeMarkup
