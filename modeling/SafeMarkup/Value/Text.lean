import SafeMarkup.Value.Basic
import SafeMarkup.Text.Quoted
import SafeMarkup.Number.Layout

/-!
# The text of values

Every value has a text, and a display that is used for it inside containers: a container's text
shows the displays of its items.

* `Value.display` — how a value looks as an item.
* `Value.text` — the text of a value.
* `Value.written` — the text that documents show: that of a truth value is in lower case.
* `Value.asComment` — a value marked as a comment.
-/

namespace SafeMarkup

/-- The display of a record with one field of text. -/
def displayRecord (name field content : String) : String :=
  name ++ "(" ++ field ++ "=" ++ displayText content ++ ")"

/-- The text of a truth value. -/
def boolText (b : Bool) : String := if b then "True" else "False"

namespace Value

mutual

/-- How a value looks as an item of a container. -/
def display : Value → String
  | null => "None"
  | bool b => boolText b
  | int n => toString n
  | float x => x.display
  | str s => displayText s
  | bytes b => displayBytes b
  | list items => "[" ++ ", ".intercalate (displayItems items) ++ "]"
  | tuple items =>
    match displayItems items with
    | [only] => "(" ++ only ++ ",)"
    | shown => "(" ++ ", ".intercalate shown ++ ")"
  | dict entries => "\x7b" ++ ", ".intercalate (displayEntries entries) ++ "\x7d"
  | html content => displayRecord "HTML" "content" content
  | unescaped text => displayRecord "Unescaped" "text" text
  | comment text => displayRecord "CommentText" "text" text
  | object provider => provider.display

/-- The displays of the items of a container. -/
def displayItems : List Value → List String
  | [] => []
  | item :: rest => display item :: displayItems rest

/-- The displays of the entries of a mapping. -/
def displayEntries : List (Value × Value) → List String
  | [] => []
  | (key, value) :: rest => (display key ++ ": " ++ display value) :: displayEntries rest

end

/-- The text of a value. -/
def text : Value → String
  | str s => s
  | html content => content
  | object provider => provider.text
  | other => other.display

/-- The text of a value as documents show it. -/
def written : Value → String
  | bool b => if b then "true" else "false"
  | other => other.text

/-- A value marked to be inserted as a comment, which has its text. -/
def asComment (v : Value) : Value := comment v.written

end Value

end SafeMarkup
