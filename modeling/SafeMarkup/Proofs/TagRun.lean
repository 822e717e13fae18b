import SafeMarkup.Proofs.Tag

/-!
# Going through a tag

The pieces that start tags are made of — blanks, names, equals signs, quoted values — are read
character by character, and each takes the scanner from one context to a context that can be written
down.  Statements about whole tags are put together from these.

* `Context.AwaitsName` — the places of a tag at which the name of an attribute may start.
* `passes_blanks`, `passes_blanks_of_awaitsName` — blanks where they change nothing, or next to
  nothing.
* `passes_name`, `passes_blanks_equals`, `passes_quoted` — the parts of an attribute.
* `passes_attribute` — an attribute with its value in quotes.
-/

namespace SafeMarkup

/-- A character that goes on with the name of an attribute. -/
def NamePart (c : Char) : Prop := isBlank c = false ∧ c ≠ '/' ∧ c ≠ '>' ∧ c ≠ '='

instance (c : Char) : Decidable (NamePart c) :=
  inferInstanceAs (Decidable (isBlank c = false ∧ c ≠ '/' ∧ c ≠ '>' ∧ c ≠ '='))

lemma ofChar?_char (quote : Quote) : Quote.ofChar? quote.char = some quote := by
  cases quote <;> rfl

lemma not_isBlank_quote (quote : Quote) : isBlank quote.char = false ∧ quote.char ≠ '>' := by
  cases quote <;> decide

namespace Context

variable {ctx after : Context} {c : Char} {text : List Char}

lemma Passes.cons_of_insideTag (h : ctx.state.insideTag = true)
    (hrest : Passes (ctx.next c) text after) : Passes ctx (c :: text) after := by
  obtain ⟨htag, hcomment⟩ := not_ahead_of_insideTag h
  exact .cons (fun _ => outcome_of_not_ahead htag hcomment) hrest

lemma passes_singleton (h : ctx.state.insideTag = true) : Passes ctx [c] (ctx.next c) :=
  .cons_of_insideTag h (.nil _)

lemma passes_self_of_insideTag (h : ctx.state.insideTag = true)
    (hstay : ∀ c ∈ text, ctx.next c = ctx) : Passes ctx text ctx := by
  obtain ⟨htag, hcomment⟩ := not_ahead_of_insideTag h
  exact passes_self htag hcomment hstay

/-! ## Blanks -/

/-- The states of a tag that pass over blanks. -/
def skippingStates : List ScanState :=
  [.afterElementName, .afterAttributeName, .beforeAttributeValue]

lemma insideTag_of_mem_skippingStates {state : ScanState} (h : state ∈ skippingStates) :
    state.insideTag = true := by
  simp only [skippingStates, List.mem_cons, List.not_mem_nil, or_false] at h
  rcases h with rfl | rfl | rfl <;> rfl

lemma next_of_isBlank (h : ctx.state ∈ skippingStates) (hblank : isBlank c = true) :
    ctx.next c = ctx := by
  simp only [skippingStates, List.mem_cons, List.not_mem_nil, or_false] at h
  rcases h with h | h | h
  · simp only [next, h, betweenAttributes, if_pos hblank]
    exact enter_self h
  · simp only [next, h, if_pos hblank]
  · simp only [next, h, if_pos hblank]

lemma passes_blanks (h : ctx.state ∈ skippingStates) (hblank : ∀ c ∈ text, isBlank c = true) :
    Passes ctx text ctx :=
  passes_self_of_insideTag (insideTag_of_mem_skippingStates h)
    fun c hc => next_of_isBlank h (hblank c hc)

/-- A blank behind the name of an element or behind a value leads to the place for attributes, and
so do more of them. -/
lemma passes_blanks_to_afterElementName
    (h : ctx.state = .elementName ∨ ctx.state = .afterAttributeValue) (hne : text ≠ [])
    (hblank : ∀ c ∈ text, isBlank c = true) : Passes ctx text (ctx.enter .afterElementName) := by
  cases text with
  | nil => exact absurd rfl hne
  | cons c text =>
      obtain ⟨hfirst, hrest⟩ := List.forall_mem_cons.mp hblank
      have htag : ctx.state.insideTag = true := by rcases h with h | h <;> rw [h] <;> rfl
      have hnext : ctx.next c = ctx.enter .afterElementName := by
        rcases h with h | h
        · simp only [next, h, if_pos hfirst]
        · simp only [next, h, betweenAttributes, if_pos hfirst]
      refine .cons_of_insideTag htag ?_
      rw [hnext]
      exact passes_blanks (by simp [skippingStates]) hrest

/-- The places of a tag at which the name of an attribute may start. -/
def AwaitsName (ctx : Context) : Prop :=
  ctx.state = .afterElementName ∨ ctx.state = .afterAttributeName ∨
    ctx.state = .afterAttributeValue

lemma AwaitsName.insideTag (h : ctx.AwaitsName) : ctx.state.insideTag = true := by
  rcases h with h | h | h <;> rw [h] <;> rfl

/-- At a place for a name, blanks change nothing, or lead from a value to the place for
attributes. -/
lemma passes_blanks_of_awaitsName (h : ctx.AwaitsName) (hblank : ∀ c ∈ text, isBlank c = true) :
    ∃ after, Passes ctx text after ∧ (after = ctx ∨ after = ctx.enter .afterElementName) := by
  by_cases hempty : text = []
  · subst hempty
    exact ⟨ctx, .nil ctx, Or.inl rfl⟩
  rcases h with h | h | h
  · exact ⟨ctx, passes_blanks (by simp [skippingStates, h]) hblank, Or.inl rfl⟩
  · exact ⟨ctx, passes_blanks (by simp [skippingStates, h]) hblank, Or.inl rfl⟩
  · exact ⟨_, passes_blanks_to_afterElementName (Or.inr h) hempty hblank, Or.inr rfl⟩

/-! ## Names -/

/-- The context behind the name of an attribute. -/
def named (ctx : Context) (name : List Char) : Context :=
  { ctx with state := .attributeName, attributeName := String.ofList name }

lemma next_of_awaitsName (h : ctx.AwaitsName) (hc : NamePart c) : ctx.next c = ctx.named [c] := by
  obtain ⟨hblank, hslash, hclose, heq⟩ := hc
  have hbetween : ctx.betweenAttributes c = ctx.named [c] := by
    rw [betweenAttributes, if_neg (by simp [hblank]), if_neg hslash, if_neg hclose, if_neg heq]
    rfl
  rcases h with h | h | h
  · simp only [next, h, hbetween]
  · simp only [next, h, hbetween, hblank, Bool.false_eq_true, if_false]
  · simp only [next, h, hbetween]

lemma next_named (name : List Char) (hc : NamePart c) :
    (ctx.named name).next c = ctx.named (name ++ [c]) := by
  obtain ⟨hblank, hslash, hclose, heq⟩ := hc
  simp only [next, named, hblank, Bool.false_eq_true, if_false, hslash, hclose, heq, or_self]
  rw [String.push_eq_append, String.ofList_append, String.singleton_eq_ofList]

lemma passes_named : ∀ {text : List Char} (name : List Char), (∀ c ∈ text, NamePart c) →
    Passes (ctx.named name) text (ctx.named (name ++ text))
  | [], name, _ => by
      rw [List.append_nil]
      exact .nil _
  | c :: text, name, hname => by
      obtain ⟨hc, hrest⟩ := List.forall_mem_cons.mp hname
      refine .cons_of_insideTag rfl ?_
      rw [next_named name hc, List.append_cons name c text]
      exact passes_named (name ++ [c]) hrest

/-- The name of an attribute is read as a whole, whatever name was read before. -/
lemma passes_name (h : ctx.AwaitsName) (hne : text ≠ []) (hname : ∀ c ∈ text, NamePart c) :
    Passes ctx text (ctx.named text) := by
  cases text with
  | nil => exact absurd rfl hne
  | cons c text =>
      obtain ⟨hc, hrest⟩ := List.forall_mem_cons.mp hname
      refine .cons_of_insideTag h.insideTag ?_
      rw [next_of_awaitsName h hc]
      exact passes_named [c] hrest

/-! ## Values -/

/-- Behind a name, and the blanks behind it, the equals sign makes a value due. -/
lemma next_equals (h : ctx.state = .attributeName ∨ ctx.state = .afterAttributeName) :
    ctx.next '=' = ctx.enter .beforeAttributeValue := by
  rcases h with h | h <;> simp only [next, h] <;> rfl

lemma passes_blanks_equals (h : ctx.state = .attributeName)
    (hblank : ∀ c ∈ text, isBlank c = true) :
    Passes ctx (text ++ ['=']) (ctx.enter .beforeAttributeValue) := by
  have htag : ctx.state.insideTag = true := by rw [h]; rfl
  cases text with
  | nil =>
      rw [List.nil_append, ← next_equals (Or.inl h)]
      exact passes_singleton htag
  | cons c text =>
      obtain ⟨hfirst, hrest⟩ := List.forall_mem_cons.mp hblank
      have hnext : ctx.next c = ctx.enter .afterAttributeName := by
        simp only [next, h, if_pos hfirst]
      have hequals : (ctx.enter .afterAttributeName).next '=' = ctx.enter .beforeAttributeValue :=
        next_equals (Or.inr rfl)
      rw [List.cons_append]
      refine .cons_of_insideTag htag ?_
      rw [hnext, ← hequals]
      exact (passes_blanks (by simp [skippingStates]) hrest).append (passes_singleton rfl)

/-- The context within a value behind its opening quote. -/
def openQuote (ctx : Context) (quote : Quote) : Context :=
  { ctx with state := .attributeValue, quote := some quote }

lemma next_openQuote (h : ctx.state = .beforeAttributeValue) (quote : Quote) :
    ctx.next quote.char = ctx.openQuote quote := by
  obtain ⟨hblank, hclose⟩ := not_isBlank_quote quote
  simp only [next, h, hblank, Bool.false_eq_true, if_false, hclose, ofChar?_char]
  rfl

lemma next_within_quotes {quote : Quote} (hc : c ≠ quote.char) :
    (ctx.openQuote quote).next c = ctx.openQuote quote := by
  simp only [next, openQuote, if_neg hc]

lemma next_closeQuote (quote : Quote) : (ctx.openQuote quote).next quote.char = ctx.endValue := by
  simp only [next, openQuote, if_true]
  rfl

lemma passes_within_quotes {quote : Quote} (hno : quote.char ∉ text) :
    Passes (ctx.openQuote quote) text (ctx.openQuote quote) :=
  passes_self_of_insideTag rfl fun _ hc => next_within_quotes fun h => hno (h ▸ hc)

lemma passes_openQuote (h : ctx.state = .beforeAttributeValue) {quote : Quote}
    (hno : quote.char ∉ text) : Passes ctx (quote.char :: text) (ctx.openQuote quote) := by
  refine .cons_of_insideTag (by rw [h]; rfl) ?_
  rw [next_openQuote h]
  exact passes_within_quotes hno

/-- A quoted value is read as a whole, and no trace of it is left. -/
lemma passes_quoted (h : ctx.state = .beforeAttributeValue) {quote : Quote}
    (hno : quote.char ∉ text) :
    Passes ctx (quote.char :: (text ++ [quote.char])) ctx.endValue := by
  rw [← List.cons_append, ← next_closeQuote quote]
  exact (passes_openQuote h hno).append (passes_singleton rfl)

/-- A whole attribute with its value in quotes, right behind the equals sign. -/
lemma passes_attribute (h : ctx.AwaitsName) {name value : List Char} (hne : name ≠ [])
    (hname : ∀ c ∈ name, NamePart c) {quote : Quote} (hvalue : quote.char ∉ value) :
    Passes ctx (name ++ '=' :: quote.char :: (value ++ [quote.char]))
      ((ctx.named name).enter .beforeAttributeValue).endValue := by
  refine (passes_name h hne hname).append (.cons_of_insideTag rfl ?_)
  rw [next_equals (Or.inl rfl)]
  exact passes_quoted rfl hvalue

end Context

end SafeMarkup
