import Mathlib.Algebra.Order.BigOperators.Group.List
import Mathlib.Data.Bool.AllAny
import SafeMarkup.Proofs.AttributeOrder
import SafeMarkup.Proofs.Documents
import SafeMarkup.Proofs.StartTag

/-!
# Two ways to write an attribute

An attribute can be written as a literal up to its value, or as a mapping from its name to the
value.  The first way recovers the element and the name from the markup and puts backslashes in
front of double quotes; the second has the name from the key of the mapping, and the text is
escaped.  Both make the same tag around the text of the value, so all that can differ is the way in
which the text itself is written.

* `renderParts_of_plain` — a plain value between two literals.
* `quoteOne` — how a character is quoted; `flatMap_quoteOne_eq_iff` compares it with the references.
* `passes_openTag`, `passes_openValue` — the way to the two places.
* **`renderParts_forms_agree_iff`** — exactly when the two ways make the same document.
-/

namespace SafeMarkup

variable {c : Char} {settings : Settings} {config : Config} {name r : String} {v : Value}

/-! ## Quoting and escaping -/

/-- A character between double quotes. -/
def quoteOne (c : Char) : List Char := if c = '"' then ['\\', '"'] else [c]

lemma substitute_eq_flatMap_quoteOne (text : List Char) :
    substitute ['"'] ['\\', '"'] text = text.flatMap quoteOne :=
  substitute_singleton '"' ['\\', '"'] text

/-- The characters that both ways write alike: those without a meaning in markup. -/
lemma quoteOne_eq_iff : quoteOne c = escapeOne c ↔ c ∉ '&' :: markupChars := by
  constructor
  · intro hsame hmem
    simp only [markupChars, List.mem_cons, List.not_mem_nil, or_false] at hmem
    rcases hmem with rfl | rfl | rfl | rfl | rfl <;> exact absurd hsame (by decide)
  · intro hno
    have hquote : c ≠ '"' := by
      rintro rfl
      exact hno (by decide)
    rw [escapeOne_of_not_mem hno, quoteOne, if_neg hquote]

/-- A reference is longer than a character with a backslash. -/
lemma length_quoteOne_lt (h : c ∈ '&' :: markupChars) :
    (quoteOne c).length < (escapeOne c).length := by
  simp only [markupChars, List.mem_cons, List.not_mem_nil, or_false] at h
  rcases h with rfl | rfl | rfl | rfl | rfl <;> decide

lemma length_quoteOne_le (c : Char) : (quoteOne c).length ≤ (escapeOne c).length := by
  by_cases h : c ∈ '&' :: markupChars
  · exact (length_quoteOne_lt h).le
  · exact (congrArg List.length (quoteOne_eq_iff.mpr h)).le

/-- **Quoting and escaping agree** on the texts without a character that has a meaning in markup.
One such character makes the escaped text the longer one, whatever else there is. -/
lemma flatMap_quoteOne_eq_iff (text : List Char) :
    text.flatMap quoteOne = text.flatMap escapeOne ↔ ∀ c ∈ text, c ∉ '&' :: markupChars := by
  constructor
  · intro hsame c hc hmeaning
    have hlonger : (text.flatMap quoteOne).length < (text.flatMap escapeOne).length := by
      rw [List.length_flatMap, List.length_flatMap]
      exact List.sum_lt_sum _ _ (fun c _ => length_quoteOne_le c)
        ⟨c, hc, length_quoteOne_lt hmeaning⟩
    exact absurd (congrArg List.length hsame) (ne_of_lt hlonger)
  · intro hno
    exact List.flatMap_congr fun c hc => quoteOne_eq_iff.mpr (hno c hc)

/-! ## The way to the two places -/

namespace Context

lemma passes_openTag (e : ElementName) :
    Passes fresh ("<" ++ e.text ++ " ").toList ⟨.afterElementName, none, e.text, ""⟩ := by
  have htext : ("<" ++ e.text ++ " ").toList = '<' :: e.text.toList ++ [' '] := by simp
  rw [htext]
  have hblank : ∀ c ∈ [' '], isBlank c = true := List.forall_mem_singleton.mpr (by decide)
  exact (passes_open e).append (passes_blanks_to_afterElementName (Or.inl rfl) (by simp) hblank)

lemma passes_openValue (e : ElementName) (hname : isAttributeName name = true) :
    Passes fresh ("<" ++ e.text ++ " " ++ name ++ "=").toList
      ⟨.beforeAttributeValue, none, e.text, name⟩ := by
  obtain ⟨hne, hchars⟩ := name_of_isAttributeName hname
  have htext : ("<" ++ e.text ++ " " ++ name ++ "=").toList
      = ("<" ++ e.text ++ " ").toList ++ (name.toList ++ ([] ++ ['='])) := by simp
  have hnamed : Passes ⟨.afterElementName, none, e.text, ""⟩ name.toList
      (named ⟨.afterElementName, none, e.text, ""⟩ name.toList) :=
    passes_name (Or.inl rfl) hne hchars
  have hequals : Passes (named ⟨.afterElementName, none, e.text, ""⟩ name.toList) ([] ++ ['='])
      ((named ⟨.afterElementName, none, e.text, ""⟩ name.toList).enter .beforeAttributeValue) :=
    passes_blanks_equals rfl (List.forall_mem_nil _)
  rw [htext]
  have hpasses := (passes_openTag e).append (hnamed.append hequals)
  rwa [named, enter, String.ofList_toList] at hpasses

end Context

/-! ## The two documents -/

/-- A plain value between two literals. -/
lemma renderParts_of_plain (hcheck : settings.check = .ok config) (hv : v.IsPlain)
    (front back : String) : renderParts settings [front, back] [v]
      = .ok (front ++ renderAt config v (Context.fresh.feed front).site ++ back) := by
  rw [Builder.renderParts_of_add hcheck (Builder.add_value hv), Builder.addResolved_document]
  rfl

/-- The list of a single attribute. -/
lemma serialize_single {groups : List String} {element : String}
    (hname : isAttributeName name = true) (hgroup : name ∈ groups → v.entries? = none)
    (hr : attributeText? name v element = some r) :
    serialize groups element [(.str name, v)] = name ++ "=\"" ++ escape r ++ "\"" := by
  have hsingle : ¬ (name ∈ groups ∧ ∃ nested, v = .dict nested) := by
    rintro ⟨hmem, nested, rfl⟩
    exact absurd (hgroup hmem) (by simp [Value.entries?])
  have hflat : flatten groups [(.str name, v)] = [(name, v)] := by
    rw [flatten, List.flatMap_singleton]
    exact flattenEntry_single hsingle
  have hrow : collect element [(name, v)] = [(name, r)] := by
    simp only [collect, List.foldl_cons, List.foldl_nil, enterAttribute, hname, if_true, hr,
      setAttribute]
  rw [serialize, hflat, hrow]
  rfl

/-- **When the two ways make the same document.**  For a plain value with a text for the attribute
of the element, both ways make a document: one with the text quoted, one with it escaped.  They
are the same exactly if the text holds no character that has a meaning in markup. -/
theorem renderParts_forms_agree_iff (hcheck : settings.check = .ok config) (e : ElementName)
    (hname : isAttributeName name = true) (hv : v.IsPlain)
    (hgroup : name ∈ config.nestedGroups → v.entries? = none)
    (hr : attributeText? name v e.text = some r) :
    ∃ written listed,
      renderParts settings ["<" ++ e.text ++ " " ++ name ++ "=", ">"] [v] = .ok written ∧
      renderParts settings ["<" ++ e.text ++ " ", ">"] [.dict [(.str name, v)]] = .ok listed ∧
      written = "<" ++ e.text ++ " " ++ name ++ "=" ++ quoteValue r none ++ ">" ∧
      listed = "<" ++ e.text ++ " " ++ (name ++ "=\"" ++ escape r ++ "\"") ++ ">" ∧
      (written = listed ↔ ∀ c ∈ r.toList, c ∉ ['&', '<', '>', '\'', '"']) := by
  have hwritten : renderAt config v (Context.fresh.feed ("<" ++ e.text ++ " " ++ name ++ "=")).site
      = quoteValue r none := by
    rw [Context.feed, (Context.passes_openValue e hname).scan_eq]
    change renderInValue v e.text name none = _
    rw [renderInValue, hr, Option.getD_some]
  have hlisted : renderAt config (.dict [(.str name, v)])
      (Context.fresh.feed ("<" ++ e.text ++ " ")).site = name ++ "=\"" ++ escape r ++ "\"" := by
    rw [Context.feed, (Context.passes_openTag e).scan_eq, ← serialize_single hname hgroup hr]
    rfl
  have hdict : (Value.dict [(.str name, v)]).IsPlain := ⟨by simp, by simp⟩
  refine ⟨_, _, renderParts_of_plain hcheck hv _ _, renderParts_of_plain hcheck hdict _ _,
    by rw [hwritten], by rw [hlisted], ?_⟩
  rw [hwritten, hlisted, ← String.toList_inj]
  refine Iff.trans ?_ (flatMap_quoteOne_eq_iff r.toList)
  simp [toList_quoteValue_none, substitute_eq_flatMap_quoteOne, escape, escapeChars]

/-- A text that both ways write alike, and one that they do not. -/
theorem renderParts_forms_of_class :
    let plain : Value := .list [.str "a", .str "b"]
    let quoted : Value := .list [.str "a&", .str "b"]
    isAttributeName "class" = true ∧
      renderParts .default ["<p class=", ">"] [plain] = .ok "<p class=\"a b\">" ∧
      renderParts .default ["<p ", ">"] [.dict [(.str "class", plain)]]
        = .ok "<p class=\"a b\">" ∧
      renderParts .default ["<p class=", ">"] [quoted]
        ≠ renderParts .default ["<p ", ">"] [.dict [(.str "class", quoted)]] := by
  intro plain quoted
  set e : ElementName := ⟨"p", ⟨'p', rfl, rfl⟩, by simp⟩
  have hcheck : Settings.default.check = .ok .default := rfl
  have hname : isAttributeName "class" = true := by decide +kernel
  have hr : attributeText? "class" plain e.text = some "a b" := by decide +kernel
  have hr' : attributeText? "class" quoted e.text = some "a& b" := by decide +kernel
  obtain ⟨written, listed, hwritten, hlisted, htext, _, hsame⟩ :=
    renderParts_forms_agree_iff hcheck e hname ⟨by simp [plain], by simp [plain]⟩
      (fun _ => rfl) hr
  obtain ⟨written', listed', hwritten', hlisted', _, _, hsame'⟩ :=
    renderParts_forms_agree_iff hcheck e hname ⟨by simp [quoted], by simp [quoted]⟩
      (fun _ => rfl) hr'
  have hagree : written = listed := hsame.mpr (List.all_iff_forall_prop.mp (by decide +kernel))
  have hfirst : written = "<p class=\"a b\">" := by
    rw [htext]
    decide +kernel
  refine ⟨hname, hwritten.trans (congrArg _ hfirst), hlisted.trans (congrArg _ ?_), ?_⟩
  · rw [← hagree, hfirst]
  · intro hequal
    have hboth : written' = listed' :=
      Except.ok.inj (hwritten'.symm.trans (hequal.trans hlisted'))
    exact absurd (hsame'.mp hboth '&' (by decide +kernel)) (by decide)

end SafeMarkup
