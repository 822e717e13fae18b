import SafeMarkup.Format.Value
import SafeMarkup.Interpolation
import SafeMarkup.Scan.Step

/-!
# Building a document

A document is built from pieces.  The text of a piece depends on the configuration and on the site
that the document has reached; it is appended, and the scanner reads it like any other text, so that
the next piece meets the right site.

* `Piece` — what can be appended, and `Piece.text`, what is appended for it.
* `Builder` — a document under construction, and `Builder.add`, the next piece.
* `Builder.addAll` — pieces up to the first that fails, and `Builder.attemptAll`, which leaves those
  out that fail.
* `LogEntry` — what a builder reports about its work.
-/

namespace SafeMarkup

/-- One part of a document. -/
inductive Piece where
  /-- Markup as it is. -/
  | literal (text : String)
  /-- A value, written for its site. -/
  | value (v : Value)
  /-- Text that its author vouches for. -/
  | unescaped (text : String)
  /-- Text as a comment. -/
  | comment (text : String)
  /-- A value behind a conversion and a format specification, either of which may be missing. -/
  | field (v : Value) (conversion : Option String) (spec : String)
  deriving Inhabited

/-- Why a field has no text. -/
inductive FieldError where
  | unknownConversion (conversion : String)
  | format (error : FormatError)
  deriving DecidableEq, Repr, Inhabited

/-- The wording of a field error. -/
def FieldError.message : FieldError → String
  | unknownConversion conversion => "Unknown conversion specifier " ++ displayText conversion
  | format error => error.message

/-- A report about the work on a document. -/
inductive LogEntry where
  /-- A value of the named kind is written at a site. -/
  | interpolating (kind : String) (site : Site)
  /-- So many characters are appended unescaped at a site. -/
  | unescaped (count : Nat) (site : Site)
  /-- An attribute is left out because of its name. -/
  | dropped (name : String)
  deriving DecidableEq, Repr, Inhabited

/-! ## The text of a piece -/

/-- The value that a conversion makes of a value. -/
def convertValue (conversion : Option String) (v : Value) : Except FieldError Value :=
  match conversion.getD "" with
  | "" => .ok v
  | "r" => .ok (.str v.display)
  | "s" => .ok (.str v.text)
  | "a" => .ok (.str (asciiOnly v.display))
  | other => .error (.unknownConversion other)

/-- The piece that a field comes to: two specifications are names of their own, any other lays the
value out as text. -/
def resolveField (v : Value) (conversion : Option String) (spec : String) :
    Except FieldError Piece := do
  let converted ← convertValue conversion v
  if spec = "unsafe" then return .unescaped converted.written
  else if spec = "comment" then return .comment converted.written
  else if spec.isEmpty then return .value converted
  else match converted.format spec with
    | .ok laidOut => return .value (.str laidOut)
    | .error e => .error (.format e)

/-- A piece without its field, if it is one: the pieces that fields and marked values stand for. -/
def Piece.resolve : Piece → Except FieldError Piece
  | .field v conversion spec =>
    (resolveField v conversion spec).map fun piece =>
      match piece with
      | .value (.unescaped text) => .unescaped text
      | .value (.comment text) => .comment text
      | other => other
  | .value (.unescaped text) => .ok (.unescaped text)
  | .value (.comment text) => .ok (.comment text)
  | other => .ok other

/-- The text that a resolved piece adds at a site. -/
def Piece.resolvedText (config : Config) (site : Site) : Piece → String
  | .literal text | .unescaped text => text
  | .comment text => renderComment text site
  | .value v | .field v _ _ => renderAt config v site

/-- The text that a piece adds at a site. -/
def Piece.text (config : Config) (site : Site) (piece : Piece) : Except FieldError String :=
  piece.resolve.map (Piece.resolvedText config site)

/-- What is reported about a resolved piece at a site. -/
def Piece.report (config : Config) (site : Site) : Piece → List LogEntry
  | .value v =>
    let dropped := match site.kind with
      | .startTag => namesDroppedBy config.nestedGroups v
      | _ => []
    .interpolating v.kindName site :: dropped.map .dropped
  | .unescaped text => [.unescaped text.length site]
  | .literal _ | .comment _ | .field _ _ _ => []

/-! ## Builders -/

/-- A document under construction. -/
structure Builder where
  config : Config
  /-- Where the scanner stands behind the document. -/
  context : Context
  /-- The document so far. -/
  document : String
  /-- The reports so far. -/
  log : List LogEntry
  deriving Inhabited

namespace Builder

/-- A builder of an empty document. -/
def start (config : Config) : Builder := ⟨config, .fresh, "", []⟩

/-- The site that the next value is written for. -/
def site (b : Builder) : Site := b.context.site

/-- Appends text, and lets the scanner read it. -/
def append (b : Builder) (text : String) : Builder :=
  { b with context := b.context.feed text, document := b.document ++ text }

/-- Appends a resolved piece. -/
def addResolved (b : Builder) (piece : Piece) : Builder :=
  { b.append (piece.resolvedText b.config b.site) with
    log := b.log ++ piece.report b.config b.site }

/-- Appends a piece.  A piece without a text leaves the document as it is. -/
def add (b : Builder) (piece : Piece) : Except FieldError Builder :=
  piece.resolve.map b.addResolved

/-- Appends pieces up to the first without a text; the error comes with the builder at that
point. -/
def addAll (b : Builder) : List Piece → Builder × Option FieldError
  | [] => (b, none)
  | piece :: rest =>
    match b.add piece with
    | .ok next => next.addAll rest
    | .error e => (b, some e)

/-- What a piece came to. -/
structure Step where
  /-- The text that it added. -/
  added : String
  /-- The site behind it. -/
  site : Site
  /-- Why it has no text, if it has none. -/
  error : Option FieldError
  deriving DecidableEq, Repr, Inhabited

/-- Attempts a piece.  One without a text adds nothing. -/
def attempt (b : Builder) (piece : Piece) : Step × Builder :=
  match piece.resolve with
  | .error e => (⟨"", b.site, some e⟩, b)
  | .ok resolved =>
    let next := b.addResolved resolved
    (⟨resolved.resolvedText b.config b.site, next.site, none⟩, next)

/-- Attempts pieces one after the other, and goes on behind those without a text. -/
def attemptAll (b : Builder) : List Piece → List Step × Builder
  | [] => ([], b)
  | piece :: rest =>
    let (step, next) := b.attempt piece
    let (steps, final) := next.attemptAll rest
    (step :: steps, final)

/-- The document of a run of pieces. -/
def build (b : Builder) (pieces : List Piece) : Except FieldError String :=
  match b.addAll pieces with
  | (final, none) => .ok final.document
  | (_, some e) => .error e

end Builder

end SafeMarkup
