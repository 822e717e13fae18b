import SafeMarkup.Attribute.Name
import SafeMarkup.Attribute.Value
import SafeMarkup.Entity

/-!
# Attribute lists

Attributes are written in one way only: each name once, with the last value given for it, in the
order of code points, and with its value escaped between double quotes.

* `flatten` — the attributes that a list of entries asks for, groups expanded by one level.
* `collect` — their names and texts, sorted, each name once.
* `serialize` — the attribute list as it is written.
* `attributesOf?` — the attribute list that a value supplies for an element.
-/

namespace SafeMarkup

/-- The names and texts of attributes. -/
abbrev AttributeTable := List (String × String)

/-- Sets the text of a name; the names stay in the order of their code points. -/
def setAttribute (name text : String) : AttributeTable → AttributeTable
  | [] => [(name, text)]
  | (other, old) :: rest =>
    if name = other then (name, text) :: rest
    else if name < other then (name, text) :: (other, old) :: rest
    else (other, old) :: setAttribute name text rest

/-- Removes a name. -/
def removeAttribute (name : String) (table : AttributeTable) : AttributeTable :=
  table.filter fun row => row.1 ≠ name

/-- The attributes that an entry asks for.  The name of a group over a mapping stands for the
entries of the mapping, their names behind its own and a hyphen. -/
def flattenEntry (groups : List String) (entry : Value × Value) : List (String × Value) :=
  let name := entry.1.text
  match entry.2.entries? with
  | some nested =>
    if groups.contains name then nested.map fun n => (name ++ "-" ++ n.1.text, n.2)
    else [(name, entry.2)]
  | none => [(name, entry.2)]

/-- The attributes that entries ask for, in their order. -/
def flatten (groups : List String) (entries : List (Value × Value)) : List (String × Value) :=
  entries.flatMap (flattenEntry groups)

/-- Enters one attribute: a name that is not accepted changes nothing, and a value that leaves the
attribute out takes back what was there. -/
def enterAttribute (element : String) (table : AttributeTable) (a : String × Value) :
    AttributeTable :=
  if isAttributeName a.1 then
    match attributeText? a.1 a.2 element with
    | some text => setAttribute a.1 text table
    | none => removeAttribute a.1 table
  else table

/-- The names and texts of attributes given in some order. -/
def collect (element : String) (attributes : List (String × Value)) : AttributeTable :=
  attributes.foldl (enterAttribute element) []

/-- One attribute as it is written. -/
def writeAttribute (row : String × String) : String :=
  row.1 ++ "=\"" ++ escape row.2 ++ "\""

/-- An attribute list as it is written. -/
def writeAttributes (table : AttributeTable) : String :=
  " ".intercalate (table.map writeAttribute)

/-- The attribute list that entries ask for. -/
def serialize (groups : List String) (element : String) (entries : List (Value × Value)) :
    String :=
  writeAttributes (collect element (flatten groups entries))

/-- The names that are dropped on the way, in the order in which they are met. -/
def droppedNames (groups : List String) (entries : List (Value × Value)) : List String :=
  ((flatten groups entries).map Prod.fst).filter fun name => !isAttributeName name

/-! ## Attributes that a value supplies -/

/-- The attribute list of an object with attributes of its own, or of a mapping. -/
def suppliedAttributes? (groups : List String) (element : String) (v : Value) : Option String :=
  match v.ownAttributes? with
  | some supply => some (supply element)
  | none => v.entries?.map (serialize groups element)

/-- The attribute list that a value supplies for an element.  A sequence of values that all supply
attributes joins their lists, an empty one to nothing. -/
def attributesOf? (groups : List String) (separator element : String) (v : Value) :
    Option String :=
  match suppliedAttributes? groups element v with
  | some attributes => some attributes
  | none =>
    (v.sequence?.bind fun items => items.mapM (suppliedAttributes? groups element)).map
      separator.intercalate

/-- The names that are dropped when a value supplies attributes. -/
def namesDroppedBy (groups : List String) (v : Value) : List String :=
  let ofOne (one : Value) : List String :=
    if one.ownAttributes?.isSome then [] else
      match one.entries? with
      | some entries => droppedNames groups entries
      | none => []
  if v.suppliesAttributes then ofOne v
  else match v.sequence? with
    | some items => if items.all Value.suppliesAttributes then items.flatMap ofOne else []
    | none => []

end SafeMarkup
