import SafeMarkup.Proofs.FreeText
import SafeMarkup.Proofs.TagRun

/-!
# What the scanner keeps

A context is a state, a quote and two names, and no one place keeps them in step: each state clears
or extends what it is in charge of, and hands characters on in the middle of a step.  Between two
steps the four fit together all the same.  A stale name would put a value into the wrong element or
attribute, so it matters that none is left behind.

* `IsElementName` — a name as start tags can have it.
* `ElementNamed` — in a tag, the name of its element is known; `ElementNamed.outcome` is the step.
* `AttributeNamed` — the name of an attribute is one where the state says so, and is dropped with
  its value; `AttributeNamed.outcome` is the step.
* `forall_mem_feedAll` — what reading a fragment keeps holds behind every fragment.
* **`wellFormed_of_mem_feedAll`** — the state says what the quote and the two names can be.
-/

namespace SafeMarkup.Context

variable {ctx : Context} {c : Char}

/-! ## The name of the element -/

/-- A name as start tags can have it: a letter or a hyphen, and nothing that ends a name. -/
structure IsElementName (name : String) : Prop where
  startsName_head : ∃ c rest, name.toList = c :: rest ∧ startsName c = true
  plain : ∀ c ∈ name.toList, isBlank c = false ∧ c ≠ '/' ∧ c ≠ '>'

/-- A character that starts a name is a name. -/
lemma isElementName_of_startsName (h : startsName c = true) : IsElementName ("".push c) where
  startsName_head := ⟨c, [], by simp, h⟩
  plain d hd := by
    obtain rfl : d = c := by simpa using hd
    exact not_blank_of_startsName h

/-- A character that does not end a name goes on with it. -/
lemma IsElementName.push {name : String} (h : IsElementName name) (hblank : ¬ isBlank c = true)
    (hslash : c ≠ '/') (hclose : c ≠ '>') : IsElementName (name.push c) where
  startsName_head := by
    obtain ⟨first, rest, hname, hstarts⟩ := h.startsName_head
    exact ⟨first, rest ++ [c], by rw [String.toList_push, hname, List.cons_append], hstarts⟩
  plain d hd := by
    rw [String.toList_push, List.mem_append, List.mem_singleton] at hd
    rcases hd with hd | rfl
    · exact h.plain d hd
    · exact ⟨Bool.eq_false_iff.mpr hblank, hslash, hclose⟩

/-- In a tag, the name of its element is known. -/
def ElementNamed (ctx : Context) : Prop :=
  ctx.state ∉ outsideTags → IsElementName ctx.elementName

lemma elementNamed_of_mem (h : ctx.state ∈ outsideTags) : ctx.ElementNamed :=
  fun hstate => absurd h hstate

lemma elementNamed_fresh : fresh.ElementNamed := elementNamed_of_mem (by decide)

lemma elementNamed_openTag (ctx : Context) (c : Char) : (ctx.openTag c).ElementNamed := by
  rw [openTag]
  split_ifs with hconstruct hname hopen
  · exact elementNamed_of_mem (by simp [outsideTags])
  · exact fun _ => isElementName_of_startsName hname
  · exact elementNamed_of_mem (by simp [outsideTags])
  · exact elementNamed_of_mem (by simp [outsideTags])

lemma elementNamed_betweenAttributes (h : IsElementName ctx.elementName) (c : Char) :
    (ctx.betweenAttributes c).ElementNamed := by
  rw [betweenAttributes]
  split_ifs
  · exact fun _ => h
  · exact fun _ => h
  · exact elementNamed_fresh
  · exact fun _ => h
  · exact fun _ => h

/-- Outside tags a character leads outside again, or starts a name. -/
lemma elementNamed_next_of_mem (h : ctx.state ∈ outsideTags) (c : Char) :
    (ctx.next c).ElementNamed := by
  have henter : ∀ state ∈ outsideTags, (ctx.enter state).ElementNamed :=
    fun _ hstate => elementNamed_of_mem hstate
  simp only [outsideTags, List.mem_cons, List.not_mem_nil, or_false] at h
  rcases h with hstate | hstate | hstate | hstate | hstate
  · simp only [next, hstate]
    split_ifs
    · exact henter _ (by decide)
    · exact elementNamed_of_mem (by simp [hstate, outsideTags])
  · simp only [next, hstate]
    exact elementNamed_openTag ctx c
  · simp only [next, hstate]
    split_ifs
    · exact henter _ (by decide)
    · exact elementNamed_of_mem (by simp [hstate, outsideTags])
  · simp only [next, hstate]
    split_ifs
    · exact elementNamed_of_mem (by simp [hstate, outsideTags])
    · exact henter _ (by decide)
    · exact henter _ (by decide)
  · simp only [next, hstate]
    exact elementNamed_of_mem (by simp [hstate, outsideTags])

/-- In a tag a character leaves the name of the element alone, goes on with it, or ends the tag. -/
lemma elementNamed_next_of_isElementName (h : ctx.state ∉ outsideTags)
    (hname : IsElementName ctx.elementName) (c : Char) : (ctx.next c).ElementNamed := by
  cases hstate : ctx.state with
  | text | tagOpen | unsupportedConstruct | beforeComment | comment =>
      exact absurd (by simp [hstate, outsideTags]) h
  | afterElementName | afterAttributeValue | selfClosingTag =>
      simp only [next, hstate]
      exact elementNamed_betweenAttributes hname c
  | elementName =>
      simp only [next, hstate]
      split_ifs with hblank hslash hclose
      · exact fun _ => hname
      · exact fun _ => hname
      · exact elementNamed_fresh
      · exact fun _ => hname.push hblank hslash hclose
  | attributeName =>
      simp only [next, hstate]
      split_ifs
      · exact fun _ => hname
      · exact elementNamed_betweenAttributes hname c
      · exact fun _ => hname
  | afterAttributeName =>
      simp only [next, hstate]
      split_ifs
      · exact fun _ => hname
      · exact elementNamed_betweenAttributes hname c
  | beforeAttributeValue =>
      simp only [next, hstate]
      split_ifs
      · exact fun _ => hname
      · exact elementNamed_fresh
      · exact fun _ => hname
  | attributeValue =>
      simp only [next, hstate]
      split <;> split_ifs
      · exact fun _ => hname
      · exact fun _ => hname
      · exact fun _ => hname
      · exact elementNamed_fresh
      · exact fun _ => hname

lemma ElementNamed.next (h : ctx.ElementNamed) (c : Char) : (ctx.next c).ElementNamed := by
  by_cases hstate : ctx.state ∈ outsideTags
  · exact elementNamed_next_of_mem hstate c
  · exact elementNamed_next_of_isElementName hstate (h hstate) c

lemma ElementNamed.outcome (h : ctx.ElementNamed) (c : Char) (rest : List Char) :
    (ctx.outcome c rest).1.ElementNamed := by
  rcases outcome_fst_cases ctx c rest with heq | ⟨_, state, hstate, heq⟩
  · rw [heq]
    exact h.next c
  · rw [heq]
    exact elementNamed_of_mem (by rcases hstate with rfl | rfl <;> simp [outsideTags])

/-! ## The name of the attribute -/

/-- The states that say something about the name of the attribute. -/
def namedStates : List ScanState := [.attributeName, .afterAttributeName, .afterAttributeValue]

/-- The name of an attribute holds nothing that ends a name.  While it is read and just behind it
there is one, and behind the value it is dropped. -/
structure AttributeNamed (ctx : Context) : Prop where
  namePart : ∀ c ∈ ctx.attributeName.toList, NamePart c
  ne_empty : ctx.state = .attributeName ∨ ctx.state = .afterAttributeName →
    ctx.attributeName ≠ ""
  eq_empty : ctx.state = .afterAttributeValue → ctx.attributeName = ""

/-- Where the state says nothing about it, the name may be empty or not. -/
lemma attributeNamed_of_not_mem (hpart : ∀ c ∈ ctx.attributeName.toList, NamePart c)
    (hstate : ctx.state ∉ namedStates) : ctx.AttributeNamed where
  namePart := hpart
  ne_empty h := by rcases h with h | h <;> exact absurd (by simp [h, namedStates]) hstate
  eq_empty h := absurd (by simp [h, namedStates]) hstate

lemma attributeNamed_fresh : fresh.AttributeNamed :=
  attributeNamed_of_not_mem (by simp [fresh]) (by decide)

/-- Behind a value the name is dropped. -/
lemma attributeNamed_endValue (ctx : Context) : ctx.endValue.AttributeNamed where
  namePart := by simp [endValue]
  ne_empty h := by rcases h with h | h <;> exact absurd h (by simp [endValue])
  eq_empty _ := rfl

/-- A character that ends no name starts one, or goes on with one. -/
lemma attributeNamed_of_push (name : String) (hstate : ctx.state = .attributeName)
    (hpush : ctx.attributeName = name.push c) (hname : ∀ d ∈ name.toList, NamePart d)
    (hc : NamePart c) : ctx.AttributeNamed where
  namePart d hd := by
    rw [hpush, String.toList_push, List.mem_append, List.mem_singleton] at hd
    rcases hd with hd | rfl
    · exact hname d hd
    · exact hc
  ne_empty _ := by
    rw [hpush]
    exact String.push_ne_empty
  eq_empty h := absurd h (by simp [hstate])

lemma AttributeNamed.enter (h : ctx.AttributeNamed) {state : ScanState}
    (hstate : state ∉ namedStates) : (ctx.enter state).AttributeNamed :=
  attributeNamed_of_not_mem h.namePart hstate

lemma AttributeNamed.openTag (h : ctx.AttributeNamed) (c : Char) :
    (ctx.openTag c).AttributeNamed := by
  rw [Context.openTag]
  split_ifs
  · exact h.enter (by decide)
  · exact attributeNamed_of_not_mem (by simp) (by simp [namedStates])
  · exact h.enter (by decide)
  · exact h.enter (by decide)

lemma AttributeNamed.betweenAttributes (h : ctx.AttributeNamed) (c : Char) :
    (ctx.betweenAttributes c).AttributeNamed := by
  rw [Context.betweenAttributes]
  split_ifs with hblank hslash hclose hequals
  · exact h.enter (by decide)
  · exact h.enter (by decide)
  · exact attributeNamed_fresh
  · exact h.enter (by decide)
  · exact attributeNamed_of_push "" rfl rfl (by simp)
      ⟨Bool.eq_false_iff.mpr hblank, hslash, hclose, hequals⟩

lemma AttributeNamed.next (h : ctx.AttributeNamed) (c : Char) : (ctx.next c).AttributeNamed := by
  cases hstate : ctx.state with
  | text | unsupportedConstruct =>
      simp only [Context.next, hstate]
      split_ifs
      · exact h.enter (by decide)
      · exact h
  | tagOpen =>
      simp only [Context.next, hstate]
      exact h.openTag c
  | beforeComment =>
      simp only [Context.next, hstate]
      split_ifs
      · exact h
      · exact h.enter (by decide)
      · exact h.enter (by decide)
  | comment =>
      simp only [Context.next, hstate]
      exact h
  | elementName =>
      simp only [Context.next, hstate]
      split_ifs
      · exact h.enter (by decide)
      · exact h.enter (by decide)
      · exact attributeNamed_fresh
      · exact attributeNamed_of_not_mem h.namePart (by simp [namedStates])
  | afterElementName | afterAttributeValue | selfClosingTag =>
      simp only [Context.next, hstate]
      exact h.betweenAttributes c
  | attributeName =>
      simp only [Context.next, hstate]
      split_ifs with hblank hend
      · -- the name is over, and it is still the one that was read
        exact ⟨h.namePart, fun _ => h.ne_empty (Or.inl hstate),
          fun hother => absurd hother (by simp)⟩
      · exact h.betweenAttributes c
      · obtain ⟨hslash, hclose, hequals⟩ : c ≠ '/' ∧ c ≠ '>' ∧ c ≠ '=' := by simpa using hend
        exact attributeNamed_of_push ctx.attributeName rfl rfl h.namePart
          ⟨Bool.eq_false_iff.mpr hblank, hslash, hclose, hequals⟩
  | afterAttributeName =>
      simp only [Context.next, hstate]
      split_ifs
      · exact h
      · exact h.betweenAttributes c
  | beforeAttributeValue =>
      simp only [Context.next, hstate]
      split_ifs
      · exact h
      · exact attributeNamed_fresh
      · exact attributeNamed_of_not_mem h.namePart (by simp [namedStates])
  | attributeValue =>
      simp only [Context.next, hstate]
      split <;> split_ifs
      · exact attributeNamed_endValue ctx
      · exact h
      · exact attributeNamed_endValue ctx
      · exact attributeNamed_fresh
      · exact h

lemma AttributeNamed.outcome (h : ctx.AttributeNamed) (c : Char) (rest : List Char) :
    (ctx.outcome c rest).1.AttributeNamed := by
  rcases outcome_fst_cases ctx c rest with heq | ⟨_, state, hstate, heq⟩
  · rw [heq]
    exact h.next c
  · rw [heq]
    exact h.enter (by rcases hstate with rfl | rfl <;> decide)

/-! ## Behind every fragment -/

/-- What reading a fragment keeps holds behind each of several fragments. -/
lemma forall_mem_feedAll {P : Context → Prop} (hfeed : ∀ ctx text, P ctx → P (ctx.feed text)) :
    ∀ (fragments : List String) (ctx : Context), P ctx → ∀ mid ∈ ctx.feedAll fragments, P mid
  | [], _, _, _, hmem => absurd hmem List.not_mem_nil
  | fragment :: rest, ctx, h, mid, hmem => by
      rw [feedAll, List.mem_cons] at hmem
      rcases hmem with rfl | hmem
      · exact hfeed ctx fragment h
      · exact forall_mem_feedAll hfeed rest _ (hfeed ctx fragment h) mid hmem

/-- The state says what the quote and the two names can be. -/
structure WellFormed (ctx : Context) : Prop where
  /-- A quote is kept in the value of an attribute only. -/
  state_of_quote : ctx.quote ≠ none → ctx.state = .attributeValue
  /-- Outside tags there are no names. -/
  names_eq_empty : ctx.state ∈ outsideTags → ctx.elementName = "" ∧ ctx.attributeName = ""
  /-- In a tag its element has a name. -/
  isElementName : ctx.state ∉ outsideTags → IsElementName ctx.elementName
  /-- What ends the name of an attribute is no part of it. -/
  namePart : ∀ c ∈ ctx.attributeName.toList, NamePart c
  /-- While the name of an attribute is read, and just behind it, there is one. -/
  attributeName_ne_empty : ctx.state = .attributeName ∨ ctx.state = .afterAttributeName →
    ctx.attributeName ≠ ""
  /-- Behind its value the name of an attribute is dropped. -/
  attributeName_eq_empty : ctx.state = .afterAttributeValue → ctx.attributeName = ""

/-- What each step keeps of the quote and of the names comes to all there is to say. -/
lemma wellFormed_of_kept (hquote : ctx.QuoteInValue) (hnothing : ctx.NothingKept)
    (helement : ctx.ElementNamed) (hattribute : ctx.AttributeNamed) : ctx.WellFormed where
  state_of_quote h := by_contra fun hstate => h (hquote hstate)
  names_eq_empty hstate := by
    rw [hnothing hstate]
    exact ⟨rfl, rfl⟩
  isElementName := helement
  namePart := hattribute.namePart
  attributeName_ne_empty := hattribute.ne_empty
  attributeName_eq_empty := hattribute.eq_empty

/-- **Behind every fragment, the state says what the quote and the two names can be.**  Each of the
four invariants is kept by the step, so by reading a fragment, and so by reading several. -/
theorem wellFormed_of_mem_feedAll {fragments : List String} (h : ctx ∈ fresh.feedAll fragments) :
    ctx.WellFormed := by
  have hkept : ∀ {P : Context → Prop},
      (∀ ctx c rest, P ctx → P (ctx.outcome c rest).1) → P fresh → P ctx :=
    fun {P} hstep hfresh => forall_mem_feedAll (P := P)
      (fun _ text hctx => scan_invariant hstep hctx text.toList) fragments fresh hfresh ctx h
  refine wellFormed_of_kept (hkept (fun _ c rest hctx => hctx.outcome c rest) fun _ => rfl) ?_ ?_ ?_
  · exact hkept (fun _ c rest hctx => hctx.outcome c rest) nothingKept_fresh
  · exact hkept (fun _ c rest hctx => hctx.outcome c rest) elementNamed_fresh
  · exact hkept (fun _ c rest hctx => hctx.outcome c rest) attributeNamed_fresh

/-- A tag in four fragments: in the middle of a name, in a quoted value, behind it, and behind a
second name. -/
theorem wellFormed_of_tag_in_pieces :
    let fragments := ["<x-a hr", "ef='p/", "'", "b "]
    (⟨.attributeName, none, "x-a", "hr"⟩ : Context) ∈ fresh.feedAll fragments ∧
      (⟨.afterAttributeName, none, "x-a", "b"⟩ : Context) ∈ fresh.feedAll fragments ∧
      WellFormed ⟨.attributeName, none, "x-a", "hr"⟩ ∧
      WellFormed ⟨.afterAttributeName, none, "x-a", "b"⟩ := by
  have hname : (⟨.attributeName, none, "x-a", "hr"⟩ : Context)
      ∈ fresh.feedAll ["<x-a hr", "ef='p/", "'", "b "] := by decide
  have hbehind : (⟨.afterAttributeName, none, "x-a", "b"⟩ : Context)
      ∈ fresh.feedAll ["<x-a hr", "ef='p/", "'", "b "] := by decide
  exact ⟨hname, hbehind, wellFormed_of_mem_feedAll hname, wellFormed_of_mem_feedAll hbehind⟩

end SafeMarkup.Context
