import Mathlib.Data.List.Infix
import SafeMarkup.Comment

/-!
# Text without comment delimiters

`stripDelimiterChars` passes over a text until it holds no delimiter, and trims it afterwards.  The
test that ends the passes speaks of the text before the trimming; this file carries it over to the
text that goes into the document.

* `trimBlanks_isInfix` — trimming leaves a piece of the text.
* `trimBlanks_eq_self_iff` — trimming changes the texts with a blank at an end, and no others.
* **`not_infix_stripDelimiterChars`** — no delimiter occurs in a stripped text.
* `stripDelimiterChars_eq_trimBlanks` — a text without delimiters is trimmed and nothing else.
* `ErasesIn` — the passes over a text, counted; `exists_erasesIn` says that they come to an end.
* **`strippedFrom_stripDelimiters`** — what stripping does to a text, and that it is done at once.
-/

namespace SafeMarkup

lemma dropBlanks_suffix (cs : List Char) : dropBlanks cs <:+ cs :=
  List.dropWhile_suffix isBlank

/-- Trimming leaves a piece of the text. -/
lemma trimBlanks_isInfix (cs : List Char) : trimBlanks cs <:+: cs := by
  have hback : trimBlanks cs <+: dropBlanks cs := by
    rw [trimBlanks, ← List.reverse_suffix, List.reverse_reverse]
    exact dropBlanks_suffix _
  exact hback.isInfix.trans (dropBlanks_suffix cs).isInfix

/-! ## The ends of a text -/

/-- A text that neither starts nor ends with a blank. -/
structure NoBlankEnds (cs : List Char) : Prop where
  head : ∀ c ∈ cs.head?, isBlank c = false
  last : ∀ c ∈ cs.getLast?, isBlank c = false

lemma dropBlanks_eq_self {cs : List Char} (h : ∀ c ∈ cs.head?, isBlank c = false) :
    dropBlanks cs = cs := by
  cases cs with
  | nil => rfl
  | cons c rest =>
      rw [dropBlanks, List.dropWhile_cons_of_neg]
      exact Bool.eq_false_iff.mp (h c rfl)

lemma not_isBlank_of_head_dropBlanks (cs : List Char) :
    ∀ c ∈ (dropBlanks cs).head?, isBlank c = false := by
  intro c hc
  have hhead := List.head?_dropWhile_not isBlank cs
  rw [← dropBlanks, Option.mem_def.mp hc] at hhead
  exact hhead

/-- Trimming takes away the blanks at both ends.  What it takes from the back does not bring a blank
to the front. -/
lemma noBlankEnds_trimBlanks (cs : List Char) : NoBlankEnds (trimBlanks cs) where
  head c hc := by
    have hprefix : trimBlanks cs <+: dropBlanks cs := by
      rw [trimBlanks, ← List.reverse_suffix, List.reverse_reverse]
      exact dropBlanks_suffix _
    obtain ⟨rest, hrest⟩ := hprefix
    refine not_isBlank_of_head_dropBlanks cs c ?_
    rw [← hrest, List.head?_append, Option.mem_def.mp hc]
    rfl
  last c hc := by
    rw [trimBlanks, List.getLast?_reverse] at hc
    exact not_isBlank_of_head_dropBlanks _ c hc

/-- **Trimming is for blanks at the ends**, and only for them. -/
lemma trimBlanks_eq_self_iff {cs : List Char} : trimBlanks cs = cs ↔ NoBlankEnds cs := by
  constructor
  · intro h
    rw [← h]
    exact noBlankEnds_trimBlanks cs
  · intro h
    have hback : ∀ c ∈ cs.reverse.head?, isBlank c = false := by
      rw [List.head?_reverse]
      exact h.last
    rw [trimBlanks, dropBlanks_eq_self h.head, dropBlanks_eq_self hback, List.reverse_reverse]

/-! ## Delimiters -/

lemma hasDelimiter_eq_false_iff {cs : List Char} :
    hasDelimiter cs = false ↔ ∀ delimiter ∈ commentDelimiters, ¬ delimiter <:+: cs := by
  simp only [hasDelimiter, List.any_eq_false, occursIn_iff_infix]

/-- The passes end with a text that holds no delimiter. -/
lemma hasDelimiter_eraseAllDelimiters (cs : List Char) :
    hasDelimiter (eraseAllDelimiters cs) = false := by
  induction cs using eraseAllDelimiters.induct with
  | case1 cs h ih =>
      rw [eraseAllDelimiters, dif_pos h]
      exact ih
  | case2 cs h =>
      rw [eraseAllDelimiters, dif_neg h]
      exact Bool.eq_false_iff.mpr h

/-- **No delimiter occurs in a stripped text**, although it is trimmed after the last pass. -/
theorem not_infix_stripDelimiterChars {delimiter : List Char} (h : delimiter ∈ commentDelimiters)
    (cs : List Char) : ¬ delimiter <:+: stripDelimiterChars cs := by
  intro hin
  exact hasDelimiter_eq_false_iff.mp (hasDelimiter_eraseAllDelimiters cs) delimiter h
    (hin.trans (trimBlanks_isInfix _))

/-- A text without delimiters is trimmed and nothing else. -/
lemma stripDelimiterChars_eq_trimBlanks {cs : List Char} (h : hasDelimiter cs = false) :
    stripDelimiterChars cs = trimBlanks cs := by
  rw [stripDelimiterChars, eraseAllDelimiters, dif_neg (by simp [h])]

/-! ## Passes -/

lemma substituteFrom_nil_sublist (piece : List Char) :
    ∀ (skip : ℕ) (text : List Char), (substituteFrom piece [] skip text).Sublist text
  | _, [] => by simp [substituteFrom]
  | skip + 1, c :: rest => (substituteFrom_nil_sublist piece skip rest).cons c
  | 0, c :: rest => by
      rw [substituteFrom]
      split
      · exact (substituteFrom_nil_sublist piece _ rest).cons c
      · exact (substituteFrom_nil_sublist piece 0 rest).cons_cons c

/-- Erasing deletes characters and does nothing else. -/
lemma erase_sublist (piece text : List Char) : (erase piece text).Sublist text :=
  substituteFrom_nil_sublist piece 0 text

lemma eraseDelimiters_sublist (cs : List Char) : (eraseDelimiters cs).Sublist cs :=
  ((erase_sublist _ _).trans (erase_sublist _ _)).trans (erase_sublist _ cs)

/-- `n` passes take a text to `left`: each is made over a text with a delimiter, and there is none
in what the last one leaves. -/
inductive ErasesIn : ℕ → List Char → List Char → Prop
  | done {cs : List Char} (h : hasDelimiter cs = false) : ErasesIn 0 cs cs
  | pass {n : ℕ} {cs left : List Char} (h : hasDelimiter cs = true)
      (hrest : ErasesIn n (eraseDelimiters cs) left) : ErasesIn (n + 1) cs left

namespace ErasesIn

variable {n : ℕ} {cs left : List Char}

/-- Every pass takes at least one character. -/
lemma add_length_le (h : ErasesIn n cs left) : n + left.length ≤ cs.length := by
  induction h with
  | done _ => omega
  | pass hdelimiter _ ih =>
      have hlt := length_eraseDelimiters_lt hdelimiter
      omega

lemma sublist (h : ErasesIn n cs left) : left.Sublist cs := by
  induction h with
  | done _ => exact List.Sublist.refl _
  | pass _ _ ih => exact ih.trans (eraseDelimiters_sublist _)

end ErasesIn

/-- The passes over a text come to an end. -/
lemma exists_erasesIn (cs : List Char) : ∃ n, ErasesIn n cs (eraseAllDelimiters cs) := by
  induction cs using eraseAllDelimiters.induct with
  | case1 cs h ih =>
      obtain ⟨n, hn⟩ := ih
      rw [eraseAllDelimiters, dif_pos h]
      exact ⟨n + 1, .pass h hn⟩
  | case2 cs h =>
      rw [eraseAllDelimiters, dif_neg h]
      exact ⟨0, .done (Bool.eq_false_iff.mpr h)⟩

/-! ## Stripping -/

/-- What is left of a text that is stripped for a comment. -/
structure StrippedFrom (text left : List Char) : Prop where
  /-- Finitely many passes, and the trimming behind the last of them. -/
  passes : ∃ n mid, ErasesIn n text mid ∧ n ≤ text.length ∧ left = trimBlanks mid
  free : ∀ delimiter ∈ commentDelimiters, ¬ delimiter <:+: left
  noBlankEnds : NoBlankEnds left
  sublist : left.Sublist text
  eq_trimBlanks : (∀ delimiter ∈ commentDelimiters, ¬ delimiter <:+: text) →
    left = trimBlanks text

lemma strippedFrom_stripDelimiterChars (cs : List Char) :
    StrippedFrom cs (stripDelimiterChars cs) := by
  obtain ⟨n, hpasses⟩ := exists_erasesIn cs
  have hcount : n ≤ cs.length := Nat.le_of_add_right_le hpasses.add_length_le
  exact {
    passes := ⟨n, _, hpasses, hcount, rfl⟩
    free := fun delimiter hmem => not_infix_stripDelimiterChars hmem cs
    noBlankEnds := noBlankEnds_trimBlanks _
    sublist := (trimBlanks_isInfix _).sublist.trans hpasses.sublist
    eq_trimBlanks := fun hfree =>
      stripDelimiterChars_eq_trimBlanks (hasDelimiter_eq_false_iff.mpr hfree) }

/-- A text without delimiters and without blanks at its ends stays as it is. -/
lemma stripDelimiterChars_eq_self {cs : List Char} (h : hasDelimiter cs = false)
    (hends : NoBlankEnds cs) : stripDelimiterChars cs = cs :=
  (stripDelimiterChars_eq_trimBlanks h).trans (trimBlanks_eq_self_iff.mpr hends)

/-- **What stripping does.**  It comes to an end for every text, leaves no delimiter and no blank at
an end, only deletes characters, and only trims a text that holds no delimiter.  A stripped text is
stripped already. -/
theorem strippedFrom_stripDelimiters (s : String) :
    StrippedFrom s.toList (stripDelimiters s).toList ∧
      stripDelimiters (stripDelimiters s) = stripDelimiters s := by
  have hstripped := strippedFrom_stripDelimiterChars s.toList
  have hagain : stripDelimiterChars (stripDelimiterChars s.toList) = stripDelimiterChars s.toList :=
    stripDelimiterChars_eq_self (hasDelimiter_eq_false_iff.mpr hstripped.free)
      hstripped.noBlankEnds
  constructor
  · rw [stripDelimiters, String.toList_ofList]
    exact hstripped
  · rw [stripDelimiters, stripDelimiters, String.toList_ofList, hagain]

/-- Two delimiters in one another, and blanks that come to the end when they are gone. -/
example : stripDelimiters " -<!---->-> x --!>" = "x" := by decide +kernel

end SafeMarkup
