import Mathlib.Tactic.Lemma
import SafeMarkup.Entity

/-!
# The characters of escaped text

* `markupChars` — the characters that open and close tags and quoted values.
* `escapeOne_cases` — a character is written as it is, or as one of the references.
* **`not_mem_escapeChars`** — escaped text holds no markup, whatever the text.
* `escapeChars_eq_self`, `not_mem_of_length_escapeChars_le` — a text stays as it is if none of its
  characters has a meaning, and gets longer else.
* `exists_of_append_eq_escapeChars` — escaped text starts like the text it stands for.
* **`unescape_escape`** — a reader of escaped text sees the text.
-/

namespace SafeMarkup

/-- The characters that open and close tags and quoted values.  The ampersand is none of them: the
references bring it in again. -/
def markupChars : List Char := ['<', '>', '\'', '"']

/-- The references that stand for characters. -/
def references : List String := ["&amp;", "&lt;", "&gt;", "&apos;", "&quot;"]

/-- A character without a meaning is written as it is. -/
lemma escapeOne_of_not_mem {c : Char} (hc : c ∉ '&' :: markupChars) : escapeOne c = [c] := by
  simp only [markupChars, List.mem_cons, List.not_mem_nil, or_false, not_or] at hc
  obtain ⟨hamp, hopen, hclose, hsingle, hdouble⟩ := hc
  rw [escapeOne, entityOf?, if_neg hamp, if_neg hopen, if_neg hclose, if_neg hsingle,
    if_neg hdouble]

/-- A character is written as it is, if it has no meaning, and as one of the references else. -/
lemma escapeOne_cases (c : Char) :
    escapeOne c = [c] ∧ c ∉ markupChars ∨
      ∃ reference ∈ references, escapeOne c = reference.toList := by
  by_cases hc : c ∈ '&' :: markupChars
  · right
    simp only [markupChars, List.mem_cons, List.not_mem_nil, or_false] at hc
    rcases hc with rfl | rfl | rfl | rfl | rfl
    · exact ⟨"&amp;", by decide, rfl⟩
    · exact ⟨"&lt;", by decide, rfl⟩
    · exact ⟨"&gt;", by decide, rfl⟩
    · exact ⟨"&apos;", by decide, rfl⟩
    · exact ⟨"&quot;", by decide, rfl⟩
  · exact Or.inl ⟨escapeOne_of_not_mem hc, fun h => hc (List.mem_cons_of_mem _ h)⟩

/-- No reference holds a character that it could stand for. -/
lemma not_mem_of_mem_references {reference : String} (href : reference ∈ references) {d : Char}
    (hd : d ∈ markupChars) : d ∉ reference.toList := by
  simp only [references, List.mem_cons, List.not_mem_nil, or_false] at href
  simp only [markupChars, List.mem_cons, List.not_mem_nil, or_false] at hd
  rcases href with rfl | rfl | rfl | rfl | rfl <;> rcases hd with rfl | rfl | rfl | rfl <;> decide

/-- **Escaped text holds no markup.** -/
theorem not_mem_escapeChars {d : Char} (hd : d ∈ markupChars) (cs : List Char) :
    d ∉ escapeChars cs := by
  intro hmem
  obtain ⟨c, _, hc⟩ := List.mem_flatMap.mp hmem
  rcases escapeOne_cases c with ⟨hself, hno⟩ | ⟨reference, href, heq⟩
  · rw [hself, List.mem_singleton] at hc
    exact hno (hc ▸ hd)
  · rw [heq] at hc
    exact not_mem_of_mem_references href hd hc

lemma not_mem_escape {d : Char} (hd : d ∈ markupChars) (s : String) : d ∉ (escape s).toList := by
  rw [escape, String.toList_ofList]
  exact not_mem_escapeChars hd _

/-! ## Text without a meaning -/

lemma escapeChars_cons (c : Char) (cs : List Char) :
    escapeChars (c :: cs) = escapeOne c ++ escapeChars cs := List.flatMap_cons

lemma escapeChars_append (cs ds : List Char) :
    escapeChars (cs ++ ds) = escapeChars cs ++ escapeChars ds := List.flatMap_append

/-- Text without a meaning is written as it is. -/
lemma escapeChars_eq_self : ∀ {cs : List Char}, (∀ c ∈ cs, c ∉ '&' :: markupChars) →
    escapeChars cs = cs
  | [], _ => rfl
  | c :: cs, hno => by
      obtain ⟨hc, hcs⟩ := List.forall_mem_cons.mp hno
      rw [escapeChars_cons, escapeOne_of_not_mem hc, escapeChars_eq_self hcs, List.singleton_append]

lemma length_escapeOne_pos (c : Char) : 0 < (escapeOne c).length := by
  rcases escapeOne_cases c with ⟨hself, _⟩ | ⟨reference, href, heq⟩
  · rw [hself]
    exact Nat.one_pos
  · rw [heq]
    have hall : ∀ reference ∈ references, 0 < reference.toList.length := by decide
    exact hall reference href

lemma length_le_length_escapeChars : ∀ cs : List Char, cs.length ≤ (escapeChars cs).length
  | [] => Nat.le_refl _
  | c :: cs => by
      have hpos := length_escapeOne_pos c
      have hle := length_le_length_escapeChars cs
      rw [escapeChars_cons, List.length_append, List.length_cons]
      omega

/-- Text with a meaning gets longer. -/
lemma not_mem_of_length_escapeChars_le : ∀ {cs : List Char}, (escapeChars cs).length ≤ cs.length →
    ∀ c ∈ cs, c ∉ '&' :: markupChars
  | [], _ => fun _ hc => absurd hc List.not_mem_nil
  | c :: cs, hle => by
      have hpos := length_escapeOne_pos c
      have hrest := length_le_length_escapeChars cs
      rw [escapeChars_cons, List.length_append, List.length_cons] at hle
      refine List.forall_mem_cons.mpr ⟨fun hc => ?_, not_mem_of_length_escapeChars_le (by omega)⟩
      have hlonger : ∀ d ∈ '&' :: markupChars, 1 < (escapeOne d).length := by
        simp [markupChars, escapeOne, entityOf?]
      have hlong := hlonger c hc
      omega

/-- Escaped text starts like the text it stands for, as long as no character there has a
meaning. -/
lemma exists_of_append_eq_escapeChars : ∀ {front rest cs : List Char},
    (∀ c ∈ front, c ∉ '&' :: markupChars) → front ++ rest = escapeChars cs →
      ∃ tail, cs = front ++ tail ∧ rest = escapeChars tail
  | [], _, cs, _, h => ⟨cs, rfl, h⟩
  | c :: front, rest, [], _, h => absurd h (List.cons_ne_nil _ _)
  | c :: front, rest, d :: cs, hno, h => by
      obtain ⟨hc, hfront⟩ := List.forall_mem_cons.mp hno
      rw [escapeChars_cons] at h
      by_cases hd : d ∈ '&' :: markupChars
      · have hhead : ∀ d ∈ '&' :: markupChars, (escapeOne d).head? = some '&' := by
          simp [markupChars, escapeOne, entityOf?]
        have hamp : (c :: (front ++ rest)).head? = some '&' := by
          rw [← List.cons_append, h, List.head?_append, hhead d hd]
          rfl
        rw [List.head?_cons, Option.some.injEq] at hamp
        exact absurd (hamp ▸ List.mem_cons_self) hc
      · rw [escapeOne_of_not_mem hd, List.singleton_append, List.cons_append] at h
        obtain ⟨rfl, hrest⟩ := List.cons.inj h
        obtain ⟨tail, rfl, htail⟩ := exists_of_append_eq_escapeChars hfront hrest
        exact ⟨tail, rfl, htail⟩

/-! ## Reading escaped text -/

/-- Only an ampersand starts a reference. -/
lemma unescapeChars_cons_of_ne {c : Char} (hc : c ≠ '&') (rest : List Char) :
    unescapeChars (c :: rest) = c :: unescapeChars rest := by
  rw [unescapeChars] <;> (intros; exact absurd ‹c = '&'› hc)

/-- A reader sees a character where it was written, and then what follows it. -/
lemma unescapeChars_escapeOne_append (c : Char) (rest : List Char) :
    unescapeChars (escapeOne c ++ rest) = c :: unescapeChars rest := by
  by_cases hc : c ∈ '&' :: markupChars
  · simp only [markupChars, List.mem_cons, List.not_mem_nil, or_false] at hc
    rcases hc with rfl | rfl | rfl | rfl | rfl <;> rfl
  · rw [escapeOne_of_not_mem hc, List.singleton_append]
    exact unescapeChars_cons_of_ne (List.ne_of_not_mem_cons hc) rest

theorem unescapeChars_escapeChars : ∀ cs : List Char, unescapeChars (escapeChars cs) = cs
  | [] => rfl
  | c :: cs => by
      rw [escapeChars, List.flatMap_cons, unescapeChars_escapeOne_append]
      exact congrArg (c :: ·) (unescapeChars_escapeChars cs)

/-- **A reader of escaped text sees the text.** -/
theorem unescape_escape (s : String) : unescape (escape s) = s := by
  rw [unescape, escape, String.toList_ofList, unescapeChars_escapeChars, String.ofList_toList]

end SafeMarkup
