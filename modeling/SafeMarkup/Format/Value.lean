import SafeMarkup.Format.Number
import SafeMarkup.Value.Text

/-!
# Formatting a value

* `formatText` — a text as a specification lays it out.
* `Value.format` — a value as a specification lays it out.  The empty specification gives the text
  of any value; others are for texts and numbers, and for objects that lay themselves out.
-/

namespace SafeMarkup

/-- A text as a specification lays it out. -/
def formatText (spec : FormatSpec) (cs : List Char) : Except FormatError (List Char) :=
  match spec.sign with
  | some .space => .error .spaceForText
  | some _ => .error .signForText
  | none =>
    if spec.noNegativeZero then .error .negativeZeroForText
    else if spec.alternate then .error .alternateForText
    else if spec.align = .afterSign then .error .alignAfterSignForText
    else match spec.precision with
      | some n => .ok (padText spec (cs.take n))
      | none => .ok (padText spec cs)

namespace Value

/-- A text under a specification that is not empty. -/
def formatStr (s spec : String) : Except FormatError (List Char) := do
  let parsed ← FormatSpec.parse "str" 's' .left spec
  if parsed.code = 's' then formatText parsed s.toList
  else .error (.unknownCode parsed.code "str")

/-- An integer under a specification that is not empty. -/
def formatInteger (kind : String) (n : Int) (spec : String) :
    Except FormatError (List Char) := do
  formatInt kind (← FormatSpec.parse kind 'd' .right spec) n

/-- A binary number under a specification that is not empty. -/
def formatFloat (x : Binary64) (spec : String) : Except FormatError (List Char) := do
  let parsed ← FormatSpec.parse "float" shortestCode .right spec
  match Presentation.ofCode? parsed.code with
  | some (presentation, upper) => formatBinary parsed presentation upper x
  | none => .error (.unknownCode parsed.code "float")

/-- A value as a specification lays it out. -/
def format (v : Value) (spec : String) : Except FormatError String :=
  if spec.isEmpty then .ok v.text
  else match v with
    | str s => (formatStr s spec).map String.ofList
    | int n => (formatInteger "int" n spec).map String.ofList
    | bool b => (formatInteger "bool" (if b then 1 else 0) spec).map String.ofList
    | float x => (formatFloat x spec).map String.ofList
    | object provider =>
      match provider.layOut with
      | some layOut => layOut spec
      | none => .error (.unsupported provider.kind)
    | other => .error (.unsupported other.kindName)

end Value

end SafeMarkup
