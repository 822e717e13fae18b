import Mathlib.Data.String.Basic
import SafeMarkup.Attribute.Serialize

/-!
# Attribute tables in order

Attributes are entered into a table one after the other, and each entry sets a name, takes one out
or is refused.  Whatever is entered, the table can be written as it stands: it holds accepted names
only, in strictly increasing order, and so each of them once.

* `AttributeTable.Canonical` — a table that can be written as it stands.
* **`canonical_collect`** — collecting attributes leads to such a table.
* `mem_enterAttribute_iff` — what is in a table behind one entry.
* `AttributeTable.Canonical.eq_of_mem_iff` — its rows are all that there is to such a table.
-/

namespace SafeMarkup

/-- Accepted names, in strictly increasing order. -/
structure AttributeTable.Canonical (table : AttributeTable) : Prop where
  isAttributeName : ∀ row ∈ table, isAttributeName row.1 = true
  sorted : table.Pairwise fun a b => a.1 < b.1

variable {name text : String} {table : AttributeTable} {row : String × String}

lemma mem_setAttribute : ∀ {table : AttributeTable}, row ∈ setAttribute name text table →
    row = (name, text) ∨ row ∈ table
  | [], h => Or.inl (List.mem_singleton.mp h)
  | (other, old) :: rest, h => by
      rw [setAttribute] at h
      split_ifs at h
      · rcases List.mem_cons.mp h with h | h
        · exact Or.inl h
        · exact Or.inr (List.mem_cons_of_mem _ h)
      · exact List.mem_cons.mp h
      · rcases List.mem_cons.mp h with h | h
        · exact Or.inr (h ▸ List.mem_cons_self)
        · exact (mem_setAttribute h).imp_right (List.mem_cons_of_mem _)

/-- A name that is set goes to its place among the others. -/
lemma sorted_setAttribute : ∀ {table : AttributeTable}, table.Pairwise (fun a b => a.1 < b.1) →
    (setAttribute name text table).Pairwise fun a b => a.1 < b.1
  | [], _ => List.pairwise_singleton _ _
  | (other, old) :: rest, h => by
      obtain ⟨hfirst, hrest⟩ := List.pairwise_cons.mp h
      rw [setAttribute]
      split_ifs with heq hlt
      · subst heq
        exact List.pairwise_cons.mpr ⟨hfirst, hrest⟩
      · refine List.pairwise_cons.mpr ⟨fun row hrow => ?_, h⟩
        rcases List.mem_cons.mp hrow with rfl | hrow
        · exact hlt
        · exact lt_trans hlt (hfirst row hrow)
      · have hother : other < name := lt_of_le_of_ne (not_lt.mp hlt) (Ne.symm heq)
        refine List.pairwise_cons.mpr ⟨fun row hrow => ?_, sorted_setAttribute hrest⟩
        rcases mem_setAttribute hrow with rfl | hrow
        · exact hother
        · exact hfirst row hrow

lemma canonical_enterAttribute (h : AttributeTable.Canonical table) (element : String)
    (a : String × Value) : AttributeTable.Canonical (enterAttribute element table a) := by
  rw [enterAttribute]
  split_ifs with hname
  · cases attributeText? a.1 a.2 element with
    | none =>
        have hkept : (removeAttribute a.1 table).Sublist table := List.filter_sublist
        exact ⟨fun row hrow => h.isAttributeName row (hkept.subset hrow), h.sorted.sublist hkept⟩
    | some text =>
        refine ⟨fun row hrow => ?_, sorted_setAttribute h.sorted⟩
        rcases mem_setAttribute hrow with rfl | hrow
        · exact hname
        · exact h.isAttributeName row hrow
  · exact h

/-! ## The rows of a table -/

/-- A name that is set has its new text and no other. -/
lemma mem_setAttribute_iff : ∀ {table : AttributeTable}, table.Pairwise (fun a b => a.1 < b.1) →
    (row ∈ setAttribute name text table ↔ row = (name, text) ∨ row.1 ≠ name ∧ row ∈ table)
  | [], _ => by simp [setAttribute]
  | (other, old) :: rest, h => by
      obtain ⟨hfirst, hrest⟩ := List.pairwise_cons.mp h
      rw [setAttribute]
      split_ifs with heq hlt
      · subst heq
        have hothers : row ∈ rest → row.1 ≠ name := fun hrow => ne_of_gt (hfirst row hrow)
        rw [List.mem_cons, List.mem_cons]
        refine or_congr_right ⟨fun hrow => ⟨hothers hrow, Or.inr hrow⟩, ?_⟩
        rintro ⟨hne, rfl | hrow⟩
        · exact absurd rfl hne
        · exact hrow
      · have hothers : row ∈ (other, old) :: rest → row.1 ≠ name := by
          intro hrow
          rcases List.mem_cons.mp hrow with rfl | hrow
          · exact ne_of_gt hlt
          · exact ne_of_gt (lt_trans hlt (hfirst row hrow))
        rw [List.mem_cons, and_iff_right_of_imp hothers]
      · rw [List.mem_cons, List.mem_cons, mem_setAttribute_iff hrest, and_or_left, or_left_comm]
        refine or_congr_right (or_congr_left ?_)
        exact (and_iff_right_of_imp fun hrow => hrow ▸ Ne.symm heq).symm

lemma mem_removeAttribute_iff : row ∈ removeAttribute name table ↔ row.1 ≠ name ∧ row ∈ table := by
  rw [removeAttribute, List.mem_filter, decide_eq_true_eq, and_comm]

/-- **What is in a table behind one entry**: an accepted name has the text that it is entered with,
if there is one, and every other name has what it had. -/
lemma mem_enterAttribute_iff (h : AttributeTable.Canonical table) (element : String)
    (a : String × Value) : (name, text) ∈ enterAttribute element table a ↔
      if a.1 = name ∧ isAttributeName name = true then attributeText? name a.2 element = some text
      else (name, text) ∈ table := by
  obtain ⟨entered, v⟩ := a
  by_cases hsame : entered = name
  · subst hsame
    rw [enterAttribute]
    by_cases hname : isAttributeName entered = true
    · rw [if_pos hname, if_pos ⟨rfl, hname⟩]
      cases attributeText? entered v element with
      | none => simp [mem_removeAttribute_iff]
      | some new => simp [mem_setAttribute_iff h.sorted, eq_comm]
    · rw [if_neg hname, if_neg fun hboth => hname hboth.2]
  · rw [if_neg fun hboth => hsame hboth.1, enterAttribute]
    split_ifs with hname
    · cases attributeText? entered v element with
      | none => simp [mem_removeAttribute_iff, Ne.symm hsame]
      | some new => simp [mem_setAttribute_iff h.sorted, Ne.symm hsame]
    · rfl

/-- The rows of a table are all that there is to it. -/
lemma AttributeTable.Canonical.eq_of_mem_iff {other : AttributeTable}
    (h : AttributeTable.Canonical table) (h' : AttributeTable.Canonical other)
    (hrows : ∀ row, row ∈ table ↔ row ∈ other) : table = other := by
  have hnodup : ∀ {rows : AttributeTable}, rows.Pairwise (fun a b => a.1 < b.1) → rows.Nodup :=
    fun hsorted => hsorted.imp fun hlt heq => absurd (congrArg Prod.fst heq) (ne_of_lt hlt)
  have hperm : table.Perm other :=
    (List.perm_ext_iff_of_nodup (hnodup h.sorted) (hnodup h'.sorted)).mpr hrows
  exact hperm.eq_of_pairwise (fun _ _ _ _ hlt hgt => absurd hgt (lt_asymm hlt)) h.sorted h'.sorted

/-! ## Collecting -/

/-- **Collected attributes can be written as they stand.** -/
theorem canonical_collect (element : String) (attributes : List (String × Value)) :
    AttributeTable.Canonical (collect element attributes) := by
  have hempty : AttributeTable.Canonical [] := ⟨by simp, List.Pairwise.nil⟩
  exact List.foldlRecOn attributes (enterAttribute element) hempty
    fun _ h a _ => canonical_enterAttribute h element a

lemma collect_concat (element : String) (attributes : List (String × Value)) (a : String × Value) :
    collect element (attributes ++ [a]) = enterAttribute element (collect element attributes) a :=
  List.foldl_concat _ _ _ _

end SafeMarkup
