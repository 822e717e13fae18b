import SafeMarkup.Config.Settings
import SafeMarkup.Proofs.AttributeList
import SafeMarkup.Proofs.TextOrder

/-!
# Attribute lists and the order of a mapping

The attributes of a mapping are sorted, and so are the declarations of a style, so that the order of
the mapping should not show.  It does where two entries ask for one name, which the keys of a
mapping can although they differ: `data-x` is asked for by an entry of the group `data`, and by a
key of its own.  Then the last entry in the order of the mapping wins.  This file says that nothing
else of the order shows.

* `Reordered` — entries in another order, on each level that is written in an order of its own.
* `Asks` — what entries ask for: a name with a text, or without the attribute.
* `renderStyle_eq_of_perm` — the order of declarations does not show.
* `writeAttributes_injective` — different attributes are written differently.
* `mem_collect_iff` — what is collected where no two entries disagree.
* **`serialize_reordered_iff`** — the order does not show exactly if no two entries disagree.
-/

namespace SafeMarkup

/-- The order of declarations does not show. -/
lemma renderStyle_eq_of_perm {declarations reordered : List (Value × Value)}
    (h : declarations.Perm reordered) : renderStyle declarations = renderStyle reordered := by
  rw [renderStyle, renderStyle, sortTexts_eq_of_perm (h.map styleDeclaration)]

/-! ## What entries ask for -/

/-- Entries in another order: their own, and that of the mappings among them that are a group, or
the style. -/
inductive Reordered (groups : List String) :
    List (Value × Value) → List (Value × Value) → Prop
  | items {entries reordered : List (Value × Value)} (h : entries.Perm reordered) :
      Reordered groups entries reordered
  | within {key : Value} {nested reordered : List (Value × Value)}
      (hkey : key.text ∈ groups ∨ key.text = "style") (h : nested.Perm reordered)
      (before after : List (Value × Value)) :
      Reordered groups (before ++ (key, .dict nested) :: after)
        (before ++ (key, .dict reordered) :: after)
  | trans {first second third : List (Value × Value)} (h : Reordered groups first second)
      (h' : Reordered groups second third) : Reordered groups first third

/-- Attributes ask for an accepted name with a text, or, with none, for it to be left out. -/
def Asks (element : String) (attributes : List (String × Value)) (name : String)
    (text : Option String) : Prop :=
  isAttributeName name = true ∧ ∃ v, (name, v) ∈ attributes ∧ attributeText? name v element = text

section

variable {groups : List String} {element name : String} {text : Option String}
  {attributes others : List (String × Value)} {entries reordered : List (Value × Value)}

lemma Asks.of_subset (h : Asks element attributes name text) (hsub : attributes ⊆ others) :
    Asks element others name text := by
  obtain ⟨hname, v, hmem, htext⟩ := h
  exact ⟨hname, v, hsub hmem, htext⟩

lemma asks_append : Asks element (attributes ++ others) name text ↔
    Asks element attributes name text ∨ Asks element others name text := by
  simp only [Asks, List.mem_append, or_and_right, exists_or, and_or_left]

lemma asks_singleton {entered : String} {v : Value} : Asks element [(entered, v)] name text ↔
    name = entered ∧ isAttributeName entered = true ∧ attributeText? entered v element = text := by
  constructor
  · rintro ⟨hname, w, hmem, htext⟩
    obtain ⟨rfl, rfl⟩ := Prod.mk.inj (List.mem_singleton.mp hmem)
    exact ⟨rfl, hname, htext⟩
  · rintro ⟨rfl, hname, htext⟩
    exact ⟨hname, v, List.mem_singleton_self _, htext⟩

lemma asks_of_perm (h : attributes.Perm others) :
    Asks element attributes name text ↔ Asks element others name text :=
  ⟨fun hasks => hasks.of_subset h.subset, fun hasks => hasks.of_subset h.symm.subset⟩

lemma flattenEntry_group {key : Value} (hkey : key.text ∈ groups)
    (nested : List (Value × Value)) :
    flattenEntry groups (key, .dict nested)
      = nested.map fun n => (key.text ++ "-" ++ n.1.text, n.2) := by
  have hgroup : groups.contains key.text = true := List.contains_iff_mem.mpr hkey
  simp only [flattenEntry, Value.entries?, hgroup, if_true]

lemma flattenEntry_of_not_group {key : Value} (hkey : key.text ∉ groups) (v : Value) :
    flattenEntry groups (key, v) = [(key.text, v)] := by
  have hgroup : ¬ groups.contains key.text = true := fun h => hkey (List.contains_iff_mem.mp h)
  cases hv : v.entries? with
  | none => simp only [flattenEntry, hv]
  | some nested => simp only [flattenEntry, hv, if_neg hgroup]

/-- Every entry but the mapping of a group stands for itself. -/
lemma flattenEntry_single {key v : Value}
    (h : ¬ (key.text ∈ groups ∧ ∃ nested, v = .dict nested)) :
    flattenEntry groups (key, v) = [(key.text, v)] := by
  by_cases hkey : key.text ∈ groups
  · cases v with
    | dict nested => exact absurd ⟨hkey, nested, rfl⟩ h
    | _ => rfl
  · exact flattenEntry_of_not_group hkey v

/-- The order within a group or a style does not show in what is asked for. -/
lemma asks_flattenEntry {key : Value} {nested inOrder : List (Value × Value)}
    (hkey : key.text ∈ groups ∨ key.text = "style") (h : nested.Perm inOrder) :
    Asks element (flattenEntry groups (key, .dict nested)) name text ↔
      Asks element (flattenEntry groups (key, .dict inOrder)) name text := by
  by_cases hgroup : key.text ∈ groups
  · rw [flattenEntry_group hgroup, flattenEntry_group hgroup]
    exact asks_of_perm (h.map _)
  · have hstyle : key.text = "style" := hkey.resolve_left hgroup
    have hsame : attributeText? "style" (.dict nested) element
        = attributeText? "style" (.dict inOrder) element :=
      congrArg some (renderStyle_eq_of_perm h)
    rw [flattenEntry_of_not_group hgroup, flattenEntry_of_not_group hgroup, asks_singleton,
      asks_singleton, hstyle, hsame]

/-- **Reordered entries ask for the same.** -/
lemma Reordered.asks_iff (h : Reordered groups entries reordered) :
    Asks element (flatten groups reordered) name text ↔
      Asks element (flatten groups entries) name text := by
  induction h with
  | items h => exact asks_of_perm (h.symm.flatMap_right _)
  | within hkey h before after =>
      simp only [flatten, List.flatMap_append, List.flatMap_cons, asks_append,
        asks_flattenEntry hkey h]
  | trans _ _ ih ih' => exact ih'.trans ih

/-! ## What is collected -/

/-- **What is collected where no two entries disagree**: all that is asked for. -/
lemma mem_collect_iff {text : String}
    (hagree : ∀ {name text text'}, Asks element attributes name text →
      Asks element attributes name text' → text = text') :
    (name, text) ∈ collect element attributes ↔ Asks element attributes name (some text) := by
  induction attributes using List.reverseRecOn with
  | nil => simp [collect, Asks]
  | append_singleton attributes a ih =>
      obtain ⟨entered, v⟩ := a
      have hfront : attributes ⊆ attributes ++ [(entered, v)] := List.subset_append_left _ _
      rw [collect_concat, mem_enterAttribute_iff (canonical_collect element attributes)]
      split_ifs with hlast
      · obtain ⟨rfl, hname⟩ := hlast
        have hasks : Asks element (attributes ++ [(entered, v)]) entered
            (attributeText? entered v element) := ⟨hname, v, by simp, rfl⟩
        exact ⟨fun htext => htext ▸ hasks, fun hasked => hagree hasks hasked⟩
      · have hother : ¬ Asks element [(entered, v)] name (some text) := by
          rw [asks_singleton]
          rintro ⟨rfl, hname, _⟩
          exact hlast ⟨rfl, hname⟩
        rw [asks_append, or_iff_left hother]
        exact ih fun h h' => hagree (h.of_subset hfront) (h'.of_subset hfront)

/-- The last attribute has the text that it asks for. -/
lemma mem_collect_concat_iff {v : Value} (hname : isAttributeName name = true) (text : String) :
    (name, text) ∈ collect element (attributes ++ [(name, v)]) ↔
      attributeText? name v element = some text := by
  rw [collect_concat, mem_enterAttribute_iff (canonical_collect element attributes),
    if_pos ⟨rfl, hname⟩]

lemma perm_moved_last {α : Type} (a : α) (front back : List α) :
    (front ++ a :: back).Perm (front ++ back ++ [a]) :=
  List.perm_middle.trans (List.perm_append_singleton a _).symm

/-- Any attribute that one entry asks for can be made its last one. -/
lemma exists_reordered_entry {a : String × Value} {key v : Value}
    (h : a ∈ flattenEntry groups (key, v)) :
    ∃ inOrder attributes, flattenEntry groups (key, inOrder) = attributes ++ [a] ∧
      ∀ before after,
        Reordered groups (before ++ (key, v) :: after) (before ++ (key, inOrder) :: after) := by
  by_cases hgroup : key.text ∈ groups ∧ ∃ nested, v = .dict nested
  · obtain ⟨hkey, nested, rfl⟩ := hgroup
    rw [flattenEntry_group hkey] at h
    obtain ⟨item, hitem, rfl⟩ := List.mem_map.mp h
    obtain ⟨front, back, rfl⟩ := List.append_of_mem hitem
    refine ⟨.dict (front ++ back ++ [item]),
      (front ++ back).map fun n => (key.text ++ "-" ++ n.1.text, n.2), ?_,
      .within (Or.inl hkey) (perm_moved_last item front back)⟩
    rw [flattenEntry_group hkey, List.map_append, List.map_singleton]
  · have hone : flattenEntry groups (key, v) = [(key.text, v)] := flattenEntry_single hgroup
    refine ⟨v, [], ?_, fun before after => .items (List.Perm.refl _)⟩
    rw [hone, List.mem_singleton] at h
    rw [hone, h, List.nil_append]

/-- Any attribute that entries ask for can be made the last one. -/
lemma exists_reordered_last {a : String × Value} (h : a ∈ flatten groups entries) :
    ∃ reordered attributes, Reordered groups entries reordered ∧
      flatten groups reordered = attributes ++ [a] := by
  obtain ⟨⟨key, v⟩, hentry, ha⟩ := List.mem_flatMap.mp h
  obtain ⟨front, back, rfl⟩ := List.append_of_mem hentry
  obtain ⟨inOrder, attributes, hlast, hwithin⟩ := exists_reordered_entry ha
  refine ⟨front ++ back ++ [(key, inOrder)], flatten groups (front ++ back) ++ attributes,
    (hwithin front back).trans (.items (perm_moved_last _ front back)), ?_⟩
  rw [flatten, List.flatMap_append, List.flatMap_singleton, hlast, List.append_assoc]
  rfl

end

/-! ## Writing -/

/-- **Different attributes are written differently.** -/
lemma writeAttributes_injective {table other : AttributeTable}
    (h : AttributeTable.Canonical table) (h' : AttributeTable.Canonical other)
    (hwritten : writeAttributes table = writeAttributes other) : table = other := by
  -- they are read back from the place behind the name of an element
  have hbetween : (Context.fresh.enter .afterElementName).BetweenAttributes := ⟨rfl, Or.inl rfl⟩
  obtain ⟨after, -, -, hread⟩ :=
    (attributeText_writeAttributes h.isAttributeName).passes hbetween
  obtain ⟨after', -, -, hread'⟩ :=
    (attributeText_writeAttributes h'.isAttributeName).passes hbetween
  have hrows := (hread []).symm.trans (hwritten ▸ hread' [])
  have hnone : ∀ ctx : Context, readAttributes (ctx.moves []) = [] := fun _ => rfl
  rw [hnone, hnone, List.append_nil, List.append_nil] at hrows
  refine (List.map_injective_iff.mpr ?_) hrows
  rintro ⟨name, text⟩ ⟨name', text'⟩ hsame
  obtain ⟨rfl, -, rfl⟩ := AttributeRead.mk.inj hsame
  rfl

/-- **When the order of a mapping does not show.**  All orders of its entries, of the entries of its
groups, and of the declarations of its style are written the same exactly if no two of the
attributes that it asks for have one accepted name and different texts, to leave the attribute out
being one of them. -/
theorem serialize_reordered_iff (groups : List String) (element : String)
    (entries : List (Value × Value)) :
    (∀ reordered, Reordered groups entries reordered →
      serialize groups element reordered = serialize groups element entries) ↔
    ∀ name v w, (name, v) ∈ flatten groups entries → (name, w) ∈ flatten groups entries →
      isAttributeName name = true →
        attributeText? name v element = attributeText? name w element := by
  constructor
  · intro hsame name v w hv hw hname
    obtain ⟨first, _, hfirst, hlast⟩ := exists_reordered_last hv
    obtain ⟨second, _, hsecond, hlast'⟩ := exists_reordered_last hw
    have htables := writeAttributes_injective (canonical_collect element _)
      (canonical_collect element _) ((hsame first hfirst).trans (hsame second hsecond).symm)
    rw [hlast, hlast'] at htables
    refine Option.ext fun text => ?_
    rw [← mem_collect_concat_iff hname, htables, mem_collect_concat_iff hname]
  · intro hagree reordered h
    have hentries : ∀ {name text text'}, Asks element (flatten groups entries) name text →
        Asks element (flatten groups entries) name text' → text = text' := by
      rintro name _ _ ⟨hname, v, hv, rfl⟩ ⟨_, w, hw, rfl⟩
      exact hagree name v w hv hw hname
    have htables : collect element (flatten groups reordered)
        = collect element (flatten groups entries) := by
      refine (canonical_collect element _).eq_of_mem_iff (canonical_collect element _) ?_
      rintro ⟨name, text⟩
      rw [mem_collect_iff hentries, mem_collect_iff fun hasks hasks' => hentries
        (h.asks_iff.mp hasks) (h.asks_iff.mp hasks'), h.asks_iff]
    rw [serialize, serialize, htables]

/-- A group and a key of its own ask for one name, and the last of them has it. -/
theorem serialize_shows_order :
    let entries : List (Value × Value) :=
      [(.str "data-x", .str "b"), (.str "data", .dict [(.str "x", .str "a")])]
    Reordered Config.default.nestedGroups entries entries.reverse ∧
      serialize Config.default.nestedGroups "" entries = "data-x=\"a\"" ∧
      serialize Config.default.nestedGroups "" entries.reverse = "data-x=\"b\"" := by
  intro entries
  exact ⟨.items (List.reverse_perm entries).symm, by decide +kernel, by decide +kernel⟩

end SafeMarkup
