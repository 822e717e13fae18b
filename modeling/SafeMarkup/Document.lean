import SafeMarkup.Builder
import SafeMarkup.Template

/-!
# Documents from literals, values and fields

Three ways to write down the pieces of a document at once: literals with values between them,
literals with fields between them, and template text.

* `weave` — literals with pieces behind them, in turn.
* `renderParts`, `renderFields`, `renderTemplate` — the documents.
* `DocumentError` — why there is no document.
-/

namespace SafeMarkup

/-- Why a document cannot be rendered. -/
inductive DocumentError where
  /-- There has to be one literal more than there are values. -/
  | literalCount (values literals : Nat)
  /-- What was given is no template but a value of this kind. -/
  | notATemplate (kind : String)
  | settings (error : SettingsError)
  | field (error : FieldError)
  /-- A template asks for a value that is not there. -/
  | missingValue (name : String)
  | template (fault : TemplateFault)
  deriving DecidableEq, Repr, Inhabited

/-- The wording of an error. -/
def DocumentError.message : DocumentError → String
  | literalCount values literals =>
    "Expected " ++ toString (values + 1) ++ " literal fragments for " ++ toString values
      ++ " values, got " ++ toString literals
  | notATemplate kind =>
    "html() expects a string.templatelib.Template or compatible object, got " ++ kind
  | settings error => error.message
  | field error => error.message
  | missingValue name => displayText name
  | template fault => fault.message

/-- Literals with pieces behind them, in turn, as far as there are literals. -/
def weave : List String → List Piece → List Piece
  | [], _ => []
  | literal :: rest, [] => .literal literal :: weave rest []
  | literal :: rest, piece :: more => .literal literal :: piece :: weave rest more

/-- A builder with the configuration that settings ask for. -/
def startWith (settings : Settings) : Except DocumentError Builder :=
  match settings.check with
  | .ok config => .ok (.start config)
  | .error e => .error (.settings e)

theorem startWith_of_check {settings : Settings} {config : Config}
    (h : settings.check = .ok config) : startWith settings = .ok (.start config) := by
  rw [startWith, h]

/-- The document of some pieces. -/
def renderPieces (settings : Settings) (pieces : List Piece) : Except DocumentError String := do
  let builder ← startWith settings
  match builder.build pieces with
  | .ok document => .ok document
  | .error e => .error (.field e)

/-- Literals with values between them. -/
def renderParts (settings : Settings) (literals : List String) (values : List Value) :
    Except DocumentError String :=
  if literals.length = values.length + 1 then
    renderPieces settings (weave literals (values.map .value))
  else .error (.literalCount values.length literals.length)

/-- A value to be inserted, with a conversion and a specification. -/
structure Field where
  value : Value
  conversion : Option String
  spec : String
  deriving Inhabited

/-- A field as a piece. -/
def Field.toPiece (f : Field) : Piece := .field f.value f.conversion f.spec

/-- Literals with fields between them.  Fields without a literal in front of them are not used. -/
def renderFields (settings : Settings) (literals : List String) (fields : List Field) :
    Except DocumentError String :=
  renderPieces settings (weave literals (fields.map Field.toPiece))

/-! ## Templates -/

/-- The values of a template, by name. -/
abbrev TemplateValues := List (String × Value)

/-- The value with a name. -/
def TemplateValues.find? (values : TemplateValues) (name : String) : Option Value :=
  (List.find? (fun v => v.1 = name) values).map Prod.snd

/-- Appends chunks to a document up to the first error, and returns the builder at that point with
the error. -/
def addChunks (values : TemplateValues) (b : Builder) :
    List Chunk → Builder × Option DocumentError
  | [] => (b, none)
  | chunk :: rest =>
    let b := b.append chunk.literal
    match chunk.field with
    | none => addChunks values b rest
    | some f =>
      match values.find? f.name with
      | none => (b, some (.missingValue f.name))
      | some v =>
        match b.add (.field v (f.conversion.map String.singleton) f.spec) with
        | .error e => (b, some (.field e))
        | .ok next => addChunks values next rest

/-- Appends the text of a template, and returns the builder behind it, or the one at the first error
with the error. -/
def addTemplate (values : TemplateValues) (b : Builder) (template : String) :
    Builder × Option DocumentError :=
  let (read, fault) := chunks template.toList
  match addChunks values b read with
  | (b, some e) => (b, some e)
  | (b, none) => (b, fault.map .template)

/-- The document of a template. -/
def renderTemplate (settings : Settings) (template : String) (values : TemplateValues) :
    Except DocumentError String := do
  let builder ← startWith settings
  match addTemplate values builder template with
  | (final, none) => .ok final.document
  | (_, some e) => .error e

end SafeMarkup
