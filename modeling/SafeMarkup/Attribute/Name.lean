import SafeMarkup.Text.Blank
import SafeMarkup.Text.Printable

/-!
# Attribute names

A name goes into a start tag only if it can be read back as one name: what could end it, end the
tag, or start a value is refused, and so are characters that do not show.

* `isNameChar`, `isAttributeName` — the characters and the names that are accepted.
-/

namespace SafeMarkup

/-- Characters that end an attribute name, or the tag it stands in. -/
def nameBreakers : List Char := ['"', '\'', '<', '>', '/', '=']

/-- Whether a character may be part of an attribute name. -/
def isNameChar (c : Char) : Bool :=
  !nameBreakers.contains c && !isBlank c && isPrintable c

/-- Whether a text can be written into a start tag as one attribute name. -/
def isAttributeName (name : String) : Bool :=
  !name.toList.isEmpty && name.toList.all isNameChar

end SafeMarkup
