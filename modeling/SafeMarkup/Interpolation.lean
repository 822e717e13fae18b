import SafeMarkup.Attribute.Serialize
import SafeMarkup.Comment
import SafeMarkup.Config.Settings

/-!
# Writing a value for its site

A value is written so that it stays what its site makes of it: in text it is escaped unless it is
markup, in a tag it becomes attributes if it can, in an attribute value it cannot end the value, and
in a comment it cannot end the comment.

* `markupOf?` — the trusted markup of a value.
* `renderAt` — a value as it is written at a site.
-/

namespace SafeMarkup

/-- The trusted markup of a value.  A sequence of values that all have markup joins it. -/
def markupOf? (separator : String) (v : Value) : Option String :=
  match v.markup? with
  | some markup => some markup.text
  | none =>
    (v.sequence?.bind fun items => items.mapM fun item => item.markup?.map Value.text).map
      separator.intercalate

/-- A value in text: its markup, or its text with references. -/
def renderText (config : Config) (v : Value) : String :=
  (markupOf? config.markupSeparator v).getD (escape v.written)

/-- A value where attributes go: its attributes, or its text with references. -/
def renderInTag (config : Config) (v : Value) (element : String) : String :=
  (attributesOf? config.nestedGroups config.attributeSeparator element v).getD (escape v.written)

/-- A value as the value of an attribute.  One that would be left out of a list of attributes shows
its text. -/
def renderInValue (v : Value) (element name : String) (quote : Option Quote) : String :=
  quoteValue ((attributeText? name v element).getD v.written) quote

/-- A value as it is written at a site. -/
def renderAt (config : Config) (v : Value) (site : Site) : String :=
  match site.kind with
  | .text => renderText config v
  | .startTag => renderInTag config v (site.element.getD "")
  | .attributeValue =>
    renderInValue v (site.element.getD "") (site.attributeName.getD "") site.quote
  | .comment => renderComment v.written site

end SafeMarkup
