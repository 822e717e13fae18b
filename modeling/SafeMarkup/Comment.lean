import SafeMarkup.Scan.Context
import SafeMarkup.Text.Blank
import SafeMarkup.Text.Search

/-!
# Comments

A text can go into a comment once it holds no comment delimiter.  Taking one out can join its
neighbours to another, so all of them are taken out again and again until none is left.

* `commentDelimiters` — what opens a comment, and the two ways in which readers end one.
* `stripDelimiters` — a text without them, and without blanks at its ends.
* `renderComment` — the text of a comment at a site: bare inside a comment, wrapped elsewhere.
-/

namespace SafeMarkup

/-- What opens a comment. -/
def commentOpen : List Char := "<!--".toList

/-- What closes a comment. -/
def commentClose : List Char := "-->".toList

/-- What browsers take for the end of a comment, too. -/
def commentCloseBang : List Char := "--!>".toList

/-- The delimiters, in the order in which a pass takes them out. -/
def commentDelimiters : List (List Char) := [commentOpen, commentClose, commentCloseBang]

/-- Whether a text holds a delimiter. -/
def hasDelimiter (cs : List Char) : Bool := commentDelimiters.any (occursIn · cs)

/-- Takes out every delimiter once, one delimiter after the other. -/
def eraseDelimiters (cs : List Char) : List Char :=
  erase commentCloseBang (erase commentClose (erase commentOpen cs))

/-- A pass makes a text with a delimiter shorter. -/
theorem length_eraseDelimiters_lt {cs : List Char} (h : hasDelimiter cs = true) :
    (eraseDelimiters cs).length < cs.length := by
  have h₁ := length_erase_le commentOpen cs
  have h₂ := length_erase_le commentClose (erase commentOpen cs)
  have h₃ := length_erase_le commentCloseBang (erase commentClose (erase commentOpen cs))
  simp only [hasDelimiter, commentDelimiters, List.any_cons, List.any_nil, Bool.or_false,
    Bool.or_eq_true] at h
  unfold eraseDelimiters
  by_cases hopen : occursIn commentOpen cs = true
  · have := length_erase_lt (by decide) hopen
    omega
  · rw [erase_of_not_occursIn (Bool.eq_false_iff.2 hopen)] at h₂ h₃ ⊢
    by_cases hclose : occursIn commentClose cs = true
    · have := length_erase_lt (by decide) hclose
      omega
    · rw [erase_of_not_occursIn (Bool.eq_false_iff.2 hclose)] at h₃ ⊢
      rcases h with h | h | h
      · exact absurd h hopen
      · exact absurd h hclose
      · exact length_erase_lt (by decide) h

/-- Passes over a text until it holds no delimiter. -/
def eraseAllDelimiters (cs : List Char) : List Char :=
  if _h : hasDelimiter cs = true then eraseAllDelimiters (eraseDelimiters cs) else cs
termination_by cs.length
decreasing_by exact length_eraseDelimiters_lt ‹_›

/-- The characters of a text without delimiters, and without blanks at the ends. -/
def stripDelimiterChars (cs : List Char) : List Char := trimBlanks (eraseAllDelimiters cs)

/-- A text without comment delimiters, and without blanks at its ends. -/
def stripDelimiters (s : String) : String := String.ofList (stripDelimiterChars s.toList)

/-- A text as a comment: inside a comment it goes in as it is, elsewhere it brings its own
delimiters. -/
def renderComment (s : String) (site : Site) : String :=
  let inner := stripDelimiters s
  if site.kind = .comment then inner else "<!-- " ++ inner ++ " -->"

end SafeMarkup
