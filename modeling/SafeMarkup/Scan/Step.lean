import SafeMarkup.Scan.Context
import SafeMarkup.Text.Blank

/-!
# Scanning markup

A state either consumes the character in front of it, and with it perhaps the rest of a
delimiter, or hands the same character over to another state.  No character is handed over more
than twice, so a step is at most three reactions.

Delimiters are recognised within one fragment only: a fragment that ends in the middle of
`!--` or `-->` leaves the scanner as if the delimiter were not there.

* `Reaction`, `Context.react` — what one state does with one character.
* `Context.step` — one character, handed over until a state consumes it.
* `Context.scan`, `Context.feed` — a whole fragment, and `Context.feedAll`, several in turn.
-/

namespace SafeMarkup

/-- What a state does with the character in front of it. -/
inductive Reaction where
  /-- Consumes the character, and `more` characters behind it. -/
  | consume (next : Context) (more : Nat)
  /-- Hands the same character over to the state of `next`. -/
  | handOver (next : Context)
  deriving DecidableEq, Repr, Inhabited

namespace Context

/-- The end of a tag: free text, and nothing of the tag is kept. -/
def closeTag (_ : Context) : Context := fresh

/-- The context in another state, all else kept. -/
def enter (ctx : Context) (state : ScanState) : Context := { ctx with state := state }

/-- The context at the start of an attribute name. -/
def startAttribute (ctx : Context) : Context :=
  { ctx with state := .attributeName, attributeName := "" }

/-- The context behind an attribute value. -/
def endValue (ctx : Context) : Context :=
  { ctx with state := .afterAttributeValue, quote := none, attributeName := "" }

/-- The characters an element name starts with: ASCII letters and the hyphen. -/
def startsName (c : Char) : Bool := c.isAlpha || c = '-'

/-! ## One reaction of each state

In each, `c` is the character in front of the state and `rest` what follows it in the
fragment. -/

/-- Free text: a tag may start. -/
def reactText (ctx : Context) (c : Char) : Reaction :=
  if c = '<' then .consume (ctx.enter .tagOpen) 0 else .consume ctx 0

/-- After `<`: a comment, another declaration, an end tag without a name, a start tag, or plain
text after all. -/
def reactTagOpen (ctx : Context) (c : Char) (rest : List Char) : Reaction :=
  if c = '!' then
    if ['-', '-'].isPrefixOf rest then .consume (ctx.enter .beforeComment) 2
    else .consume (ctx.enter .unsupportedConstruct) 0
  else if c = '/' && ['>'].isPrefixOf rest then .consume (ctx.enter .text) 1
  else if startsName c then
    .handOver { ctx with state := .elementName, elementName := "", attributeName := "" }
  else if c = '?' then .handOver (ctx.enter .unsupportedConstruct)
  else .handOver (ctx.enter .text)

/-- In the name of an element. -/
def reactElementName (ctx : Context) (c : Char) : Reaction :=
  if isBlank c then .consume (ctx.enter .afterElementName) 0
  else if c = '/' then .consume (ctx.enter .selfClosingTag) 0
  else if c = '>' then .consume ctx.closeTag 0
  else .consume { ctx with elementName := ctx.elementName.push c } 0

/-- Where an attribute may start. -/
def reactAfterElementName (ctx : Context) (c : Char) : Reaction :=
  if isBlank c then .consume ctx 0
  else if c = '/' || c = '>' then .handOver (ctx.enter .afterAttributeName)
  else if c = '=' then .consume (ctx.enter .beforeAttributeValue) 0
  else .handOver ctx.startAttribute

/-- In the name of an attribute. -/
def reactAttributeName (ctx : Context) (c : Char) : Reaction :=
  if c = '/' || c = '>' || isBlank c then .handOver (ctx.enter .afterAttributeName)
  else if c = '=' then .consume (ctx.enter .beforeAttributeValue) 0
  else .consume { ctx with attributeName := ctx.attributeName.push c } 0

/-- Behind the name of an attribute. -/
def reactAfterAttributeName (ctx : Context) (c : Char) : Reaction :=
  if isBlank c then .consume ctx 0
  else if c = '/' then .consume (ctx.enter .selfClosingTag) 0
  else if c = '=' then .consume (ctx.enter .beforeAttributeValue) 0
  else if c = '>' then .consume ctx.closeTag 0
  else .handOver ctx.startAttribute

/-- After `=`: a quote opens a quoted value, any other character belongs to an unquoted one. -/
def reactBeforeAttributeValue (ctx : Context) (c : Char) : Reaction :=
  if isBlank c then .consume ctx 0
  else if c = '>' then .consume ctx.closeTag 0
  else match Quote.ofChar? c with
    | some quote => .consume { ctx with state := .attributeValue, quote := some quote } 0
    | none => .handOver { ctx with state := .attributeValue, quote := none }

/-- In the value of an attribute: only its own quote ends a quoted value, a blank or the end of
the tag an unquoted one. -/
def reactAttributeValue (ctx : Context) (c : Char) : Reaction :=
  match ctx.quote with
  | some quote => if c = quote.char then .consume ctx.endValue 0 else .consume ctx 0
  | none =>
    if isBlank c then .consume ctx.endValue 0
    else if c = '>' then .consume ctx.closeTag 0
    else .consume ctx 0

/-- Just behind the value of an attribute. -/
def reactAfterAttributeValue (ctx : Context) (c : Char) : Reaction :=
  if isBlank c then .consume (ctx.enter .afterElementName) 0
  else if c = '/' then .consume (ctx.enter .selfClosingTag) 0
  else if c = '>' then .consume ctx.closeTag 0
  else .handOver (ctx.enter .afterElementName)

/-- After `/` in a tag. -/
def reactSelfClosingTag (ctx : Context) (c : Char) : Reaction :=
  if c = '>' then .consume ctx.closeTag 0 else .handOver (ctx.enter .afterElementName)

/-- In a construct that is passed over. -/
def reactUnsupportedConstruct (ctx : Context) (c : Char) : Reaction :=
  if c = '>' then .consume (ctx.enter .text) 0 else .consume ctx 0

/-- After the opening delimiter of a comment: hyphens are passed over, and `>` ends the comment
before it has started. -/
def reactBeforeComment (ctx : Context) (c : Char) : Reaction :=
  if c = '-' then .consume ctx 0
  else if c = '>' then .consume (ctx.enter .text) 0
  else .handOver (ctx.enter .comment)

/-- In a comment, which only `-->` ends. -/
def reactComment (ctx : Context) (c : Char) (rest : List Char) : Reaction :=
  if ['-', '-', '>'].isPrefixOf (c :: rest) then .consume (ctx.enter .text) 2
  else .consume ctx 0

/-- What the state of a context does with the character in front of it. -/
def react (ctx : Context) (c : Char) (rest : List Char) : Reaction :=
  match ctx.state with
  | .text => ctx.reactText c
  | .tagOpen => ctx.reactTagOpen c rest
  | .elementName => ctx.reactElementName c
  | .afterElementName => ctx.reactAfterElementName c
  | .attributeName => ctx.reactAttributeName c
  | .afterAttributeName => ctx.reactAfterAttributeName c
  | .beforeAttributeValue => ctx.reactBeforeAttributeValue c
  | .attributeValue => ctx.reactAttributeValue c
  | .afterAttributeValue => ctx.reactAfterAttributeValue c
  | .selfClosingTag => ctx.reactSelfClosingTag c
  | .unsupportedConstruct => ctx.reactUnsupportedConstruct c
  | .beforeComment => ctx.reactBeforeComment c
  | .comment => ctx.reactComment c rest

/-! ## Steps and fragments -/

/-- Hands a character over until a state consumes it, in at most `budget` reactions; the result
is the new context and the number of characters consumed beyond the first.  When the budget runs
out the character is consumed by the state that has it. -/
def settle (c : Char) (rest : List Char) : Nat → Context → Context × Nat
  | 0, ctx => (ctx, 0)
  | budget + 1, ctx =>
    match ctx.react c rest with
    | .consume next more => (next, more)
    | .handOver next => settle c rest budget next

/-- The number of reactions a step may take.  It is the number of states, far more than any
character needs. -/
def reactionLimit : Nat := 13

/-- Reads the character in front of the scanner. -/
def step (ctx : Context) (c : Char) (rest : List Char) : Context × Nat :=
  settle c rest reactionLimit ctx

/-- Reads the characters of a fragment, of which the first `skip` have been consumed already as
part of a delimiter. -/
def scanFrom : Nat → Context → List Char → Context
  | _, ctx, [] => ctx
  | skip + 1, ctx, _ :: rest => scanFrom skip ctx rest
  | 0, ctx, c :: rest => scanFrom (ctx.step c rest).2 (ctx.step c rest).1 rest

/-- Reads all the characters of a fragment. -/
def scan (ctx : Context) (fragment : List Char) : Context :=
  scanFrom 0 ctx fragment

/-- Reads a fragment of markup. -/
def feed (ctx : Context) (fragment : String) : Context :=
  ctx.scan fragment.toList

/-- The contexts behind each of some fragments that follow one another. -/
def feedAll (ctx : Context) : List String → List Context
  | [] => []
  | fragment :: rest => ctx.feed fragment :: (ctx.feed fragment).feedAll rest

end Context

end SafeMarkup
