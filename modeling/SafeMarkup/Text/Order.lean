/-!
# Texts in order

Texts are ordered by the code points of their characters.

* `sortTexts` — texts in that order; equal texts all stay.
-/

namespace SafeMarkup

/-- Inserts a text into texts in the order of their code points, behind its equals. -/
def insertText (s : String) : List String → List String
  | [] => [s]
  | t :: rest => if s < t then s :: t :: rest else t :: insertText s rest

/-- Texts in the order of their code points. -/
def sortTexts (texts : List String) : List String :=
  texts.foldl (fun sorted s => insertText s sorted) []

end SafeMarkup
