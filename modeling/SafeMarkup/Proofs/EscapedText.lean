import Mathlib.Data.Set.Operations
import SafeMarkup.Proofs.Escape

/-!
# Which texts are escaped texts

Escaping loses nothing, and what it makes of texts can be told by looking at it: no character is
left that opens or closes anything, and an ampersand only stands where a reference starts.  Nothing
else is needed, so such a text is what escaping makes of the text that its reader sees.

* `IsEscaped` — how escaped texts look.
* `isEscaped_escapeChars` — escaped texts do look like that, as one more character keeps it up.
* `IsEscaped.exists_escapeOne` — a text that looks escaped starts with a written character.
* `escapeChars_unescapeChars` — so it is the escaped form of what its reader sees.
* **`escape_inverse_on_isEscaped`** — escaping and reading are inverse to each other.
-/

namespace SafeMarkup

/-- How escaped text looks: it holds no markup, and every ampersand starts a reference. -/
structure IsEscaped (cs : List Char) : Prop where
  noMarkup : ∀ d ∈ markupChars, d ∉ cs
  startsReference : ∀ before after, cs = before ++ '&' :: after →
    ∃ reference ∈ references, reference.toList <+: '&' :: after

section

variable {c : Char} {cs before after front : List Char}

/-! ## Escaped text looks escaped -/

/-- A character that is written with an ampersand in front is written as a reference. -/
lemma mem_references_of_escapeOne (h : escapeOne c = '&' :: after) :
    ∃ reference ∈ references, escapeOne c = reference.toList := by
  rcases escapeOne_cases c with ⟨hself, _⟩ | hreference
  · rw [hself] at h
    obtain rfl : c = '&' := List.head_eq_of_cons_eq h
    exact absurd hself (by decide)
  · exact hreference

/-- There is no ampersand within a written character, but at its front. -/
lemma eq_nil_of_escapeOne_eq_append (h : escapeOne c = before ++ '&' :: after) : before = [] := by
  cases before with
  | nil => rfl
  | cons d before =>
      have htail : '&' ∈ (escapeOne c).tail := by simp [h]
      rcases escapeOne_cases c with ⟨hself, _⟩ | ⟨reference, href, heq⟩
      · rw [hself] at htail
        exact absurd htail List.not_mem_nil
      · have hnone : ∀ reference ∈ references, '&' ∉ reference.toList.tail := by decide
        rw [heq] at htail
        exact absurd htail (hnone reference href)

/-- One more written character keeps the ampersands at the fronts of references. -/
lemma IsEscaped.escapeOne_append (h : IsEscaped cs) (c : Char) : IsEscaped (escapeOne c ++ cs) where
  noMarkup d hd hmem := by
    rcases List.mem_append.mp hmem with hmem | hmem
    · have hno := not_mem_escapeChars hd [c]
      rw [escapeChars, List.flatMap_singleton] at hno
      exact hno hmem
    · exact h.noMarkup d hd hmem
  startsReference before after happend := by
    rcases List.append_eq_append_iff.mp happend with ⟨back, -, hback⟩ | ⟨back, hfront, hafter⟩
    · exact h.startsReference back after hback
    cases back with
    | nil => exact h.startsReference [] after hafter.symm
    | cons d back =>
        -- the ampersand is the first character of a reference
        obtain ⟨rfl, -⟩ := List.cons.inj hafter
        obtain rfl := eq_nil_of_escapeOne_eq_append hfront
        obtain ⟨reference, href, heq⟩ := mem_references_of_escapeOne hfront
        refine ⟨reference, href, ?_⟩
        rw [hafter, ← heq, hfront, List.nil_append]
        exact List.prefix_append _ _

lemma isEscaped_nil : IsEscaped [] where
  noMarkup _ _ := List.not_mem_nil
  startsReference before _ h :=
    absurd h.symm (List.append_ne_nil_of_right_ne_nil before (List.cons_ne_nil _ _))

/-- **Escaped text looks escaped**, whatever the text. -/
theorem isEscaped_escapeChars : ∀ cs : List Char, IsEscaped (escapeChars cs)
  | [] => isEscaped_nil
  | c :: cs => by
      rw [escapeChars_cons]
      exact (isEscaped_escapeChars cs).escapeOne_append c

/-! ## What looks escaped is escaped -/

/-- What stands behind a part of a text that looks escaped looks escaped. -/
lemma IsEscaped.of_append (h : IsEscaped (front ++ cs)) : IsEscaped cs where
  noMarkup d hd hmem := h.noMarkup d hd (List.mem_append_right front hmem)
  startsReference before after happend :=
    h.startsReference (front ++ before) after (by rw [happend, List.append_assoc])

/-- Every reference is how some character is written. -/
lemma exists_escapeOne_of_mem_references {reference : String} (h : reference ∈ references) :
    ∃ c, escapeOne c = reference.toList := by
  simp only [references, List.mem_cons, List.not_mem_nil, or_false] at h
  rcases h with rfl | rfl | rfl | rfl | rfl
  · exact ⟨'&', rfl⟩
  · exact ⟨'<', rfl⟩
  · exact ⟨'>', rfl⟩
  · exact ⟨'\'', rfl⟩
  · exact ⟨'"', rfl⟩

/-- A text that looks escaped starts with a written character, with one like it behind. -/
lemma IsEscaped.exists_escapeOne (h : IsEscaped (c :: cs)) :
    ∃ d rest, c :: cs = escapeOne d ++ rest ∧ IsEscaped rest := by
  by_cases hamp : c = '&'
  · subst hamp
    obtain ⟨reference, href, rest, hrest⟩ := h.startsReference [] cs rfl
    obtain ⟨d, hd⟩ := exists_escapeOne_of_mem_references href
    rw [← hd] at hrest
    exact ⟨d, rest, hrest.symm, IsEscaped.of_append (hrest ▸ h)⟩
  · have hplain : c ∉ '&' :: markupChars := by
      rw [List.mem_cons, not_or]
      exact ⟨hamp, fun hc => h.noMarkup c hc List.mem_cons_self⟩
    have hrest : IsEscaped ([c] ++ cs) := h
    refine ⟨c, cs, ?_, hrest.of_append⟩
    rw [escapeOne_of_not_mem hplain, List.singleton_append]

/-- **What looks escaped is the escaped form of what its reader sees.**  By induction on the length,
as a reader takes a written character at a time. -/
theorem escapeChars_unescapeChars : ∀ {cs : List Char}, IsEscaped cs →
    escapeChars (unescapeChars cs) = cs
  | [], _ => rfl
  | c :: cs, h => by
      obtain ⟨d, rest, heq, hrest⟩ := h.exists_escapeOne
      have hshorter : rest.length < cs.length + 1 := by
        have hpos := length_escapeOne_pos d
        rw [← List.length_cons, heq, List.length_append]
        omega
      rw [heq, unescapeChars_escapeOne_append, escapeChars_cons, escapeChars_unescapeChars hrest]
  termination_by cs => cs.length

end

/-- **Escaping is a lossless encoding with a known image.**  An escaped text looks escaped, and its
reader sees the text.  The texts that look escaped are those that are the escaped form of what their
reader sees, and these are all the escaped texts.  No two texts have the same escaped form. -/
theorem escape_inverse_on_isEscaped :
    (∀ t : String, IsEscaped (escape t).toList ∧ unescape (escape t) = t) ∧
    (∀ s : String, IsEscaped s.toList ↔ escape (unescape s) = s) ∧
    Set.range escape = {s : String | IsEscaped s.toList} ∧
    Function.Injective escape := by
  have hlooks : ∀ t : String, IsEscaped (escape t).toList := by
    intro t
    rw [escape, String.toList_ofList]
    exact isEscaped_escapeChars _
  have hback : ∀ s : String, IsEscaped s.toList → escape (unescape s) = s := by
    intro s hs
    rw [escape, unescape, String.toList_ofList, escapeChars_unescapeChars hs, String.ofList_toList]
  refine ⟨fun t => ⟨hlooks t, unescape_escape t⟩, fun s => ⟨hback s, fun h => ?_⟩, ?_, ?_⟩
  · rw [← h]
    exact hlooks _
  · ext s
    constructor
    · rintro ⟨t, rfl⟩
      exact hlooks t
    · intro hs
      exact ⟨unescape s, hback s hs⟩
  · intro s t h
    rw [← unescape_escape s, h, unescape_escape]

/-- What looks like a reference in a text is escaped like the rest, and comes back in one piece; a
reference that is none of the five is no escaped text. -/
example : escape "&lt; &copy;" = "&amp;lt; &amp;copy;" ∧
    unescape "&amp;lt; &amp;copy;" = "&lt; &copy;" ∧ escape (unescape "&copy;") ≠ "&copy;" := by
  decide +kernel

end SafeMarkup
