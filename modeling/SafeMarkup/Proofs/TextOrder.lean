import Mathlib.Data.List.Induction
import Mathlib.Data.String.Basic
import SafeMarkup.Text.Order

/-!
# Texts in order

* `sortTexts_perm`, `sorted_sortTexts` — sorting keeps the texts, and puts them in order.
* `sortTexts_eq_of_perm` — so what it makes of them does not depend on the order they came in.
-/

namespace SafeMarkup

variable {s : String} {texts others : List String}

lemma insertText_perm (s : String) : ∀ texts : List String, (insertText s texts).Perm (s :: texts)
  | [] => List.Perm.refl _
  | t :: rest => by
      rw [insertText]
      split_ifs
      · exact List.Perm.refl _
      · exact ((insertText_perm s rest).cons t).trans (List.Perm.swap s t rest)

lemma sorted_insertText : ∀ {texts : List String}, texts.Pairwise (· ≤ ·) →
    (insertText s texts).Pairwise (· ≤ ·)
  | [], _ => List.pairwise_singleton _ _
  | t :: rest, h => by
      obtain ⟨hfirst, hrest⟩ := List.pairwise_cons.mp h
      rw [insertText]
      split_ifs with hlt
      · refine List.pairwise_cons.mpr ⟨fun u hu => ?_, h⟩
        rcases List.mem_cons.mp hu with rfl | hu
        · exact hlt.le
        · exact hlt.le.trans (hfirst u hu)
      · refine List.pairwise_cons.mpr ⟨fun u hu => ?_, sorted_insertText hrest⟩
        rcases List.mem_cons.mp ((insertText_perm s rest).mem_iff.mp hu) with rfl | hu
        · exact not_lt.mp hlt
        · exact hfirst u hu

lemma sortTexts_concat (texts : List String) (s : String) :
    sortTexts (texts ++ [s]) = insertText s (sortTexts texts) :=
  List.foldl_concat _ _ _ _

lemma sortTexts_perm (texts : List String) : (sortTexts texts).Perm texts := by
  induction texts using List.reverseRecOn with
  | nil => exact List.Perm.refl _
  | append_singleton texts s ih =>
      rw [sortTexts_concat]
      exact (insertText_perm s _).trans
        ((ih.cons s).trans (List.perm_append_singleton s texts).symm)

lemma sorted_sortTexts (texts : List String) : (sortTexts texts).Pairwise (· ≤ ·) := by
  induction texts using List.reverseRecOn with
  | nil => exact List.Pairwise.nil
  | append_singleton texts s ih =>
      rw [sortTexts_concat]
      exact sorted_insertText ih

/-- Texts have one order only. -/
lemma sortTexts_eq_of_perm (h : texts.Perm others) : sortTexts texts = sortTexts others := by
  have hperm : (sortTexts texts).Perm (sortTexts others) :=
    (sortTexts_perm texts).trans (h.trans (sortTexts_perm others).symm)
  exact hperm.eq_of_pairwise (fun _ _ _ _ hle hge => le_antisymm hle hge) (sorted_sortTexts texts)
    (sorted_sortTexts others)

end SafeMarkup
