/-!
# Template text

A template is text with fields between braces: a name, a conversion behind an exclamation mark, and
a specification behind a colon.  A brace that is doubled stands for itself.

* `Chunk` — literal text, and the field behind it, if there is one.
* `TemplateFault` — why the text of a template cannot be read on.
* `nextChunk?` — the chunk at the front of a text; a doubled brace ends a chunk.
* `chunks` — all of them up to the end of the text, or to the first fault.
-/

namespace SafeMarkup

/-- A field of a template. -/
structure TemplateField where
  name : String
  conversion : Option Char
  spec : String
  deriving DecidableEq, Repr, Inhabited

/-- Literal text, and the field behind it, if there is one. -/
structure Chunk where
  literal : String
  field : Option TemplateField
  deriving DecidableEq, Repr, Inhabited

/-- Why a template cannot be read on. -/
inductive TemplateFault where
  | singleClosingBrace
  | singleOpeningBrace
  | braceInName
  | expectedClosingBrace
  | endBeforeConversion
  | expectedColon
  | unmatchedBrace
  deriving DecidableEq, Repr, Inhabited

/-- The wording of a fault. -/
def TemplateFault.message : TemplateFault → String
  | singleClosingBrace => "Single '\x7d' encountered in format string"
  | singleOpeningBrace => "Single '\x7b' encountered in format string"
  | braceInName => "unexpected '\x7b' in field name"
  | expectedClosingBrace => "expected '\x7d' before end of string"
  | endBeforeConversion => "end of string while looking for conversion specifier"
  | expectedColon => "expected ':' after conversion specifier"
  | unmatchedBrace => "unmatched '\x7b' in format spec"

/-- What ends the name of a field. -/
inductive NameEnd where
  | brace
  | colon
  | mark
  deriving DecidableEq, Repr, Inhabited

/-- Reads the name of a field.  Within brackets nothing ends it. -/
def readName (inBrackets : Bool) : List Char →
    Except TemplateFault (List Char × NameEnd × List Char)
  | [] => .error .expectedClosingBrace
  | c :: rest =>
    let more (inside : Bool) :=
      (readName inside rest).map fun r => (c :: r.1, r.2.1, r.2.2)
    if inBrackets then more (c ≠ ']')
    else if c = '\x7d' then .ok ([], .brace, rest)
    else if c = ':' then .ok ([], .colon, rest)
    else if c = '!' then .ok ([], .mark, rest)
    else if c = '\x7b' then .error .braceInName
    else more (c = '[')

/-- Reads a specification up to the brace that closes the field; braces within it come in pairs, of
which `depth` are open. -/
def readSpec (depth : Nat) : List Char → Except TemplateFault (List Char × List Char)
  | [] => .error .unmatchedBrace
  | c :: rest =>
    let more (depth : Nat) := (readSpec depth rest).map fun r => (c :: r.1, r.2)
    if c = '\x7b' then more (depth + 1)
    else if c = '\x7d' then
      match depth with
      | 0 => .ok ([], rest)
      | outer + 1 => more outer
    else more depth

/-- A conversion by the character U+0000 is none. -/
def conversionOf (c : Char) : Option Char := if c = '\x00' then none else some c

/-- Reads a field from behind its opening brace. -/
def readField (text : List Char) : Except TemplateFault (TemplateField × List Char) := do
  let (name, ending, rest) ← readName false text
  let name := String.ofList name
  match ending with
  | .brace => return (⟨name, none, ""⟩, rest)
  | .colon =>
    let (spec, rest) ← readSpec 0 rest
    return (⟨name, none, String.ofList spec⟩, rest)
  | .mark =>
    match rest with
    | [] => .error .endBeforeConversion
    | [_] => .error .unmatchedBrace
    | c :: d :: rest =>
      if d = '\x7d' then return (⟨name, conversionOf c, ""⟩, rest)
      else if d = ':' then
        let (spec, rest) ← readSpec 0 rest
        return (⟨name, conversionOf c, String.ofList spec⟩, rest)
      else .error .expectedColon

/-- Whether a character is a brace. -/
def isBrace (c : Char) : Bool := c = '\x7b' || c = '\x7d'

/-- The chunk at the front of a text, and what follows it; `none` at the end of the text. -/
def nextChunk? (text : List Char) : Except TemplateFault (Option (Chunk × List Char)) :=
  let literal := text.takeWhile fun c => !isBrace c
  match text.dropWhile fun c => !isBrace c with
  | [] => .ok (if text.isEmpty then none else some (⟨String.ofList text, none⟩, []))
  | [c] => .error (if c = '\x7d' then .singleClosingBrace else .singleOpeningBrace)
  | c :: d :: rest =>
    if c = d then .ok (some (⟨String.ofList (literal ++ [c]), none⟩, rest))
    else if c = '\x7d' then .error .singleClosingBrace
    else
      (readField (d :: rest)).map fun r =>
        some (⟨String.ofList literal, some r.1⟩, r.2)

/-- The chunks of a text, at most `limit` of them. -/
def chunksUpTo : Nat → List Char → List Chunk × Option TemplateFault
  | 0, _ => ([], none)
  | limit + 1, text =>
    match nextChunk? text with
    | .error fault => ([], some fault)
    | .ok none => ([], none)
    | .ok (some (chunk, rest)) =>
      let (more, fault) := chunksUpTo limit rest
      (chunk :: more, fault)

/-- The chunks of a template, and the fault that ends them, if one does.  Every chunk takes at least
one character. -/
def chunks (text : List Char) : List Chunk × Option TemplateFault :=
  chunksUpTo (text.length + 1) text

end SafeMarkup
