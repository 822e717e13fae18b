import SafeMarkup.Proofs.AttributeOrder

/-!
# Attribute lists and the last value of a name

Attributes are entered one by one: a value takes the place of an earlier one, and a value that
leaves the attribute out takes back what was there.  None of this shows in the list that is written.
It is told by the last value that is given for each name, wherever that value comes from, an entry
of its own or one of a group.

* `Flattened` — entries, and the attributes that they ask for, entry by entry.
* `LastValue` — the value that is given last for a name.
* `mem_collect_iff_lastValue` — what is collected is what the last values say.
* **`serialize_eq_lastValues`** — an attribute list in terms of the last values.
-/

namespace SafeMarkup

/-- Entries, and the attributes that they ask for.  An entry of a group is replaced by the entries
of its mapping, which are not looked into any further; every other entry stands for itself. -/
inductive Flattened (groups : List String) :
    List (Value × Value) → List (String × Value) → Prop
  | nil : Flattened groups [] []
  | group {key : Value} {entries : List (Value × Value)} {attributes : List (String × Value)}
      (hkey : key.text ∈ groups) (nested : List (Value × Value))
      (h : Flattened groups entries attributes) :
      Flattened groups ((key, .dict nested) :: entries)
        (nested.map (fun n => (key.text ++ "-" ++ n.1.text, n.2)) ++ attributes)
  | single {key v : Value} {entries : List (Value × Value)} {attributes : List (String × Value)}
      (hentry : ¬ (key.text ∈ groups ∧ ∃ nested, v = .dict nested))
      (h : Flattened groups entries attributes) :
      Flattened groups ((key, v) :: entries) ((key.text, v) :: attributes)

/-- The value that is given last for a name. -/
def LastValue (attributes : List (String × Value)) (name : String) (v : Value) : Prop :=
  ∃ before after, attributes = before ++ (name, v) :: after ∧ ∀ a ∈ after, a.1 ≠ name

section

variable {groups : List String} {element name entered : String} {v w : Value}
  {attributes : List (String × Value)}

lemma flattened_flatten (groups : List String) :
    ∀ entries : List (Value × Value), Flattened groups entries (flatten groups entries)
  | [] => .nil
  | (key, v) :: rest => by
      rw [flatten, List.flatMap_cons]
      by_cases hentry : key.text ∈ groups ∧ ∃ nested, v = .dict nested
      · obtain ⟨hkey, nested, rfl⟩ := hentry
        rw [flattenEntry_group hkey]
        exact .group hkey nested (flattened_flatten groups rest)
      · rw [flattenEntry_single hentry]
        exact .single hentry (flattened_flatten groups rest)

/-! ## Last values -/

lemma not_lastValue_nil : ¬ LastValue [] name v := by
  rintro ⟨before, after, happend, -⟩
  exact List.append_ne_nil_of_right_ne_nil before (List.cons_ne_nil _ after) happend.symm

/-- The attribute at the end has the last value of its name. -/
lemma lastValue_concat_self : LastValue (attributes ++ [(name, w)]) name v ↔ v = w := by
  constructor
  · rintro ⟨before, after, happend, hafter⟩
    rcases List.eq_nil_or_concat after with rfl | ⟨front, a, rfl⟩
    · have hend := List.singleton_inj.mp (List.append_inj_right' happend rfl)
      exact (Prod.mk.inj hend).2.symm
    · -- something behind the last value is at the end, and has another name
      rw [List.concat_eq_append, ← List.cons_append, ← List.append_assoc] at happend
      have hend : (name, w) = a := List.singleton_inj.mp (List.append_inj_right' happend rfl)
      exact absurd (congrArg Prod.fst hend).symm (hafter a (by simp))
  · rintro rfl
    exact ⟨attributes, [], rfl, by simp⟩

/-- An attribute at the end leaves the last values of other names as they were. -/
lemma lastValue_concat_of_ne (hne : entered ≠ name) :
    LastValue (attributes ++ [(entered, w)]) name v ↔ LastValue attributes name v := by
  constructor
  · rintro ⟨before, after, happend, hafter⟩
    rcases List.eq_nil_or_concat after with rfl | ⟨front, a, rfl⟩
    · exact absurd (congrArg Prod.fst (List.singleton_inj.mp (List.append_inj_right' happend rfl)))
        hne
    · rw [List.concat_eq_append, ← List.cons_append, ← List.append_assoc] at happend
      exact ⟨before, front, List.append_inj_left' happend rfl,
        fun b hb => hafter b (by simp [hb])⟩
  · rintro ⟨before, after, rfl, hafter⟩
    refine ⟨before, after ++ [(entered, w)], by simp, fun a ha => ?_⟩
    rcases List.mem_append.mp ha with ha | ha
    · exact hafter a ha
    · rw [List.mem_singleton.mp ha]
      exact hne

/-- **What is collected**: the accepted names with the texts that their last values have. -/
lemma mem_collect_iff_lastValue (text : String) : (name, text) ∈ collect element attributes ↔
    isAttributeName name = true ∧
      ∃ v, LastValue attributes name v ∧ attributeText? name v element = some text := by
  induction attributes using List.reverseRecOn with
  | nil => simp [collect, not_lastValue_nil]
  | append_singleton attributes a ih =>
      obtain ⟨entered, w⟩ := a
      rw [collect_concat, mem_enterAttribute_iff (canonical_collect element attributes)]
      by_cases hsame : entered = name
      · subst hsame
        simp only [lastValue_concat_self, exists_eq_left, true_and]
        split_ifs with hname
        · exact (and_iff_right hname).symm
        · rw [ih]
          exact iff_of_false (fun h => hname h.1) fun h => hname h.1
      · simp only [lastValue_concat_of_ne hsame]
        rw [if_neg fun hboth => hsame hboth.1]
        exact ih

end

/-- **An attribute list in terms of the last values.**  It is the list of the accepted names whose
last value among the attributes that the entries ask for has a text, each of them once and in
strictly increasing order, with that text escaped between double quotes. -/
theorem serialize_eq_lastValues (groups : List String) (element : String)
    (entries : List (Value × Value)) :
    ∃ (attributes : List (String × Value)) (rows : List (String × String)),
      Flattened groups entries attributes ∧
      serialize groups element entries
        = " ".intercalate (rows.map fun row => row.1 ++ "=\"" ++ escape row.2 ++ "\"") ∧
      rows.Pairwise (fun a b => a.1 < b.1) ∧
      ∀ name text, (name, text) ∈ rows ↔ isAttributeName name = true ∧
        ∃ v, LastValue attributes name v ∧ attributeText? name v element = some text :=
  ⟨flatten groups entries, collect element (flatten groups entries),
    flattened_flatten groups entries, rfl, (canonical_collect element _).sorted,
    fun _ text => mem_collect_iff_lastValue text⟩

/-- The name of a group with a key of its own behind it, and a value that leaves it out again. -/
example : serialize ["data"] "" [(.str "data", .dict [(.str "x", .str "a"), (.str "y", .null)]),
    (.str "data-x", .str "b"), (.str "hidden", .bool true), (.str "hidden", .bool false)]
    = "data-x=\"b\" data-y=\"None\"" := by decide +kernel

end SafeMarkup
