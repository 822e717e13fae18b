/-!
# Where in the markup a document has got to

The scanner reads markup one character at a time and keeps a small context: a state, the quote
that opened the current attribute value, and the names read so far.  What a writer of values
needs to know is less than that, namely the *site* the next value is part of.

* `Quote`, `ScanState`, `Context` — what the scanner keeps between two characters.
* `SiteKind`, `Site` — what the next value is part of, and for which element and attribute.
* `Context.site` — the view from a context to its site.
-/

namespace SafeMarkup

/-- A quotation mark that opens and closes an attribute value. -/
inductive Quote where
  | single
  | double
  deriving DecidableEq, Repr, Inhabited

namespace Quote

/-- The character a quote is written with. -/
def char : Quote → Char
  | single => '\''
  | double => '"'

/-- The quote a character opens, if it is one. -/
def ofChar? (c : Char) : Option Quote :=
  if c = '\'' then some single else if c = '"' then some double else none

/-- The word for a quote in the name of a site. -/
def word : Quote → String
  | single => "single"
  | double => "double"

end Quote

/-- The states of the scanner. -/
inductive ScanState where
  /-- Free text between tags. -/
  | text
  /-- Just after `<`. -/
  | tagOpen
  /-- Inside the name of a start tag. -/
  | elementName
  /-- Behind the name of the element, or between two attributes. -/
  | afterElementName
  /-- Inside the name of an attribute. -/
  | attributeName
  /-- Behind the name of an attribute. -/
  | afterAttributeName
  /-- After `=`, before the value starts. -/
  | beforeAttributeValue
  /-- Inside the value of an attribute. -/
  | attributeValue
  /-- Just behind the value of an attribute. -/
  | afterAttributeValue
  /-- After `/` inside a tag. -/
  | selfClosingTag
  /-- After the opening delimiter of a comment, before its text. -/
  | beforeComment
  /-- Inside a comment. -/
  | comment
  /-- Inside a document type, a processing instruction, or another construct that starts with
  `<!` or `<?` and is passed over up to the next `>`. -/
  | unsupportedConstruct
  deriving DecidableEq, Repr, Inhabited

/-- What the scanner remembers between two characters. -/
structure Context where
  state : ScanState := .text
  /-- The quote that opened the current attribute value; `none` for an unquoted one. -/
  quote : Option Quote := none
  /-- The name of the current element, as far as it has been read. -/
  elementName : String := ""
  /-- The name of the current attribute, as far as it has been read. -/
  attributeName : String := ""
  deriving DecidableEq, Repr, Inhabited

/-- The context at the start of a document. -/
def Context.fresh : Context := {}

/-! ## Sites -/

/-- What a value can be part of. -/
inductive SiteKind where
  | text
  /-- A place for attributes in a start tag. -/
  | startTag
  /-- The value of an attribute. -/
  | attributeValue
  | comment
  deriving DecidableEq, Repr, Inhabited

/-- The word for a kind of site. -/
def SiteKind.word : SiteKind → String
  | text => "text"
  | startTag => "element"
  | attributeValue => "attribute"
  | comment => "comment"

/-- What the next value is part of.  The names are there where the kind calls for them. -/
structure Site where
  kind : SiteKind := .text
  /-- The element whose tag is open. -/
  element : Option String := none
  /-- The attribute whose value is due or open. -/
  attributeName : Option String := none
  /-- The quote around the value; `none` for an unquoted value and for one that has not
  started. -/
  quote : Option Quote := none
  deriving DecidableEq, Repr, Inhabited

namespace Site

/-- Free text. -/
def text : Site := {}

/-- The place for attributes in the start tag of `element`. -/
def inTag (element : String) : Site :=
  { kind := .startTag, element := some element }

/-- The value of the attribute called `name` in the start tag of `element`. -/
def inValue (element name : String) (quote : Option Quote) : Site :=
  { kind := .attributeValue, element := some element, attributeName := some name, quote := quote }

/-- The inside of a comment. -/
def comment : Site := { kind := .comment }

/-- The name of a site, as reports and logs write it; a name that is missing reads `None`. -/
def describe (site : Site) : String :=
  let element := site.element.getD "None"
  match site.kind with
  | .startTag => site.kind.word ++ "(" ++ element ++ ")"
  | .attributeValue =>
    let quote := (site.quote.map Quote.word).getD "unquoted"
    site.kind.word ++ "(" ++ element ++ ", " ++ site.attributeName.getD "None" ++ ", " ++ quote
      ++ ")"
  | .text | .comment => site.kind.word

end Site

/-- The site of the next value.  Every state that is neither a place for attributes, nor in or
next to an attribute value, nor in a comment counts as text, where a value is escaped in full. -/
def Context.site (ctx : Context) : Site :=
  match ctx.state with
  | .afterElementName => .inTag ctx.elementName
  | .attributeValue => .inValue ctx.elementName ctx.attributeName ctx.quote
  | .beforeAttributeValue | .afterAttributeValue =>
    .inValue ctx.elementName ctx.attributeName none
  | .comment | .beforeComment => .comment
  | .text | .tagOpen | .elementName | .attributeName | .afterAttributeName | .selfClosingTag
  | .unsupportedConstruct => .text

end SafeMarkup
