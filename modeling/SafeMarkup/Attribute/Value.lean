import SafeMarkup.Scan.Context
import SafeMarkup.Text.Order
import SafeMarkup.Text.Search
import SafeMarkup.Value.Text

/-!
# Attribute values

What a value reads as the value of an attribute.  Objects may say so themselves; truth values
depend on the attribute; lists of texts are classes, and mappings are styles.

* `renderStyle` — a mapping as style declarations, in an order of its own.
* `attributeText?` — the value of an attribute, or `none` if the attribute is to be left out.
* `quoteValue` — a text as it goes to the place of an attribute value.
-/

namespace SafeMarkup

/-! ## Styles -/

/-- One style declaration. -/
def styleDeclaration (entry : Value × Value) : String :=
  entry.1.text ++ ": " ++ entry.2.written ++ ";"

/-- The declarations of a style, sorted as they are written, so that the order of the mapping does
not show. -/
def renderStyle (entries : List (Value × Value)) : String :=
  " ".intercalate (sortTexts (entries.map styleDeclaration))

/-! ## Truth values -/

/-- Attributes that are there or not, and say nothing else. -/
def presenceAttributes : List String :=
  ["contenteditable", "hidden", "spellcheck", "autoplay", "controls", "loop", "muted", "preload",
    "autofocus", "disabled", "multiple", "readonly", "required", "selected", "wrap", "async", "defer"]

/-- Attributes with words of their own for true and false. -/
def keywordAttributes : List (String × String × String) :=
  [("translate", "yes", "no"), ("autocomplete", "on", "off")]

/-- A truth value as the value of an attribute: present or left out, the words of the attribute, or
the truth value itself. -/
def booleanText? (name : String) (b : Bool) : Option String :=
  if presenceAttributes.contains name then
    if b then some name else none
  else match keywordAttributes.find? fun k => k.1 = name with
    | some (_, yes, no) => some (if b then yes else no)
    | none => some (if b then "true" else "false")

/-! ## The value of an attribute -/

/-- The texts of a sequence that holds nothing but texts. -/
def textItems? (v : Value) : Option (List String) :=
  v.sequence?.bind fun items => items.mapM Value.str?

/-- The text of a value for an attribute, which for classes and styles is a form of its own. -/
def plainAttributeText (name : String) (v : Value) : String :=
  if name = "class" then
    match textItems? v with
    | some classes => " ".intercalate classes
    | none => v.written
  else if name = "style" then
    match v.entries? with
    | some declarations => renderStyle declarations
    | none => v.written
  else v.written

/-- The value of an attribute of an element as text; `none` leaves the attribute out. -/
def attributeText? (name : String) (v : Value) (element : String) : Option String :=
  match v.ownAttributeValue? with
  | some supply =>
    match supply name element with
    | .null => none
    | own => some own.text
  | none =>
    match v with
    | .bool b => booleanText? name b
    | other => some (plainAttributeText name other)

/-! ## Quoting -/

/-- Text for the place of an attribute value.  A double quote gets a backslash, save where a single
quote opened the value, and where no quote did the text brings a pair of double quotes. -/
def quoteValue (s : String) (quote : Option Quote) : String :=
  let escaped := String.ofList (substitute ['"'] ['\\', '"'] s.toList)
  match quote with
  | some .single => s
  | some .double => escaped
  | none => "\"" ++ escaped ++ "\""

end SafeMarkup
