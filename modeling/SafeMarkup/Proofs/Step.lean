import Mathlib.Tactic.Lemma
import Mathlib.Data.List.Basic
import SafeMarkup.Scan.Step

/-!
# What one step does

`Context.step` hands a character over from state to state until one of them consumes it.  This file
says once and for all what comes out, so that no later proof has to follow a hand-over again: a
step is a transition by the one character in front of the scanner, unless one of three delimiters
stands there.

* `next` — the transition by one character.  It does not look ahead.
* `delimiter?` — the three delimiters, and the only place where the rest of the fragment counts.
* `SettlesWithin` — a character is consumed within so many reactions; `settlesWithin_three` says
  that three always suffice.
* **`step_eq`** — the step is the delimiter if there is one, and the transition otherwise.
* `outcome_cases` — the cases of a step, each with its reason; `outcome_fst_cases` — the contexts
  that it can lead to.
-/

namespace SafeMarkup.Context

variable {ctx : Context} {c : Char} {rest : List Char} {n : ℕ} {out : Context × ℕ}

@[simp] lemma enter_state (ctx : Context) (state : ScanState) : (ctx.enter state).state = state :=
  rfl

@[simp] lemma enter_elementName (ctx : Context) (state : ScanState) :
    (ctx.enter state).elementName = ctx.elementName := rfl

lemma enter_self {state : ScanState} (h : ctx.state = state) : ctx.enter state = ctx := by
  subst h
  rfl

/-! ## The transition by one character -/

/-- Just behind `<`: a declaration, a name, a processing instruction, another `<`, or plain text. -/
def openTag (ctx : Context) (c : Char) : Context :=
  if c = '!' ∨ c = '?' then ctx.enter .unsupportedConstruct
  else if startsName c then
    { ctx with state := .elementName, elementName := "".push c, attributeName := "" }
  else if c = '<' then ctx.enter .tagOpen
  else ctx.enter .text

/-- Where a new attribute may start: a blank is passed over, `/`, `>` and `=` have their meaning,
and any other character is the first of a name. -/
def betweenAttributes (ctx : Context) (c : Char) : Context :=
  if isBlank c then ctx.enter .afterElementName
  else if c = '/' then ctx.enter .selfClosingTag
  else if c = '>' then fresh
  else if c = '=' then ctx.enter .beforeAttributeValue
  else { ctx with state := .attributeName, attributeName := "".push c }

/-- The context behind a character with which no delimiter starts. -/
def next (ctx : Context) (c : Char) : Context :=
  match ctx.state with
  | .text => if c = '<' then ctx.enter .tagOpen else ctx
  | .tagOpen => ctx.openTag c
  | .elementName =>
    if isBlank c then ctx.enter .afterElementName
    else if c = '/' then ctx.enter .selfClosingTag
    else if c = '>' then fresh
    else { ctx with elementName := ctx.elementName.push c }
  | .afterElementName | .afterAttributeValue | .selfClosingTag => ctx.betweenAttributes c
  | .attributeName =>
    if isBlank c then ctx.enter .afterAttributeName
    else if c = '/' ∨ c = '>' ∨ c = '=' then ctx.betweenAttributes c
    else { ctx with attributeName := ctx.attributeName.push c }
  | .afterAttributeName => if isBlank c then ctx else ctx.betweenAttributes c
  | .beforeAttributeValue =>
    if isBlank c then ctx
    else if c = '>' then fresh
    else { ctx with state := .attributeValue, quote := Quote.ofChar? c }
  | .attributeValue =>
    match ctx.quote with
    | some quote => if c = quote.char then ctx.endValue else ctx
    | none => if isBlank c then ctx.endValue else if c = '>' then fresh else ctx
  | .unsupportedConstruct => if c = '>' then ctx.enter .text else ctx
  | .beforeComment =>
    if c = '-' then ctx else if c = '>' then ctx.enter .text else ctx.enter .comment
  | .comment => ctx

/-- The delimiters of more than one character: what opens a comment and the end tag without a name
behind `<`, and what closes a comment.  The number is that of the characters behind the first. -/
def delimiter? (ctx : Context) (c : Char) (rest : List Char) : Option (Context × ℕ) :=
  match ctx.state with
  | .tagOpen =>
    if ['!', '-', '-'] <+: c :: rest then some (ctx.enter .beforeComment, 2)
    else if ['/', '>'] <+: c :: rest then some (ctx.enter .text, 1)
    else none
  | .comment => if ['-', '-', '>'] <+: c :: rest then some (ctx.enter .text, 2) else none
  | _ => none

/-- The context behind the character, and how many characters more are consumed with it: those of
the delimiter where one stands. -/
def outcome (ctx : Context) (c : Char) (rest : List Char) : Context × ℕ :=
  (ctx.delimiter? c rest).getD (ctx.next c, 0)

lemma outcome_of_not_ahead (htag : ctx.state ≠ .tagOpen) (hcomment : ctx.state ≠ .comment) :
    ctx.outcome c rest = (ctx.next c, 0) := by
  have hnone : ctx.delimiter? c rest = none := by
    unfold delimiter?
    split
    · exact absurd ‹_› htag
    · exact absurd ‹_› hcomment
    · rfl
  rw [outcome, hnone, Option.getD_none]

/-! ## Characters that start a name -/

/-- No character from `!` to U+0084 is blank. -/
lemma not_isBlank_of_mem_range (hlow : 33 ≤ c.toNat) (hhigh : c.toNat ≤ 132) :
    isBlank c = false := by
  simp only [isBlank, blankRanges, List.any_cons, List.any_nil, Bool.or_eq_false_iff,
    Bool.and_eq_false_iff, decide_eq_false_iff_not, and_true]
  omega

/-- Letters have codes between those of `A` and `z`. -/
lemma toNat_of_isAlpha (h : c.isAlpha = true) : 65 ≤ c.toNat ∧ c.toNat ≤ 122 := by
  have hletter : (c.isUpper || c.isLower) = true := h
  rcases Bool.or_eq_true_iff.mp hletter with hupper | hlower
  · have hbounds : 'A'.val ≤ c.val ∧ c.val ≤ 'Z'.val := of_decide_eq_true hupper
    exact ⟨UInt32.le_iff_toNat_le.mp hbounds.1,
      Nat.le_trans (UInt32.le_iff_toNat_le.mp hbounds.2) (by decide)⟩
  · have hbounds : 'a'.val ≤ c.val ∧ c.val ≤ 'z'.val := by
      obtain ⟨hlow, hhigh⟩ := Bool.and_eq_true_iff.mp hlower
      exact ⟨of_decide_eq_true hlow, of_decide_eq_true hhigh⟩
    exact ⟨Nat.le_trans (by decide) (UInt32.le_iff_toNat_le.mp hbounds.1),
      UInt32.le_iff_toNat_le.mp hbounds.2⟩

/-- A character that starts a name does not end one. -/
lemma not_blank_of_startsName (h : startsName c = true) :
    isBlank c = false ∧ c ≠ '/' ∧ c ≠ '>' := by
  have hne : c ≠ '/' ∧ c ≠ '>' := by
    constructor <;> rintro rfl <;> exact absurd h (by decide)
  have hrange : 33 ≤ c.toNat ∧ c.toNat ≤ 132 := by
    rw [startsName, Bool.or_eq_true, decide_eq_true_eq] at h
    rcases h with hletter | rfl
    · obtain ⟨hlow, hhigh⟩ := toNat_of_isAlpha hletter
      omega
    · decide
  exact ⟨not_isBlank_of_mem_range hrange.1 hrange.2, hne⟩

/-! ## Settling -/

/-- Some state consumes the character within `n` reactions, and `out` is what comes of it. -/
inductive SettlesWithin (c : Char) (rest : List Char) : ℕ → Context → Context × ℕ → Prop
  | consume {n : ℕ} {ctx after : Context} {more : ℕ}
      (h : ctx.react c rest = .consume after more) :
      SettlesWithin c rest (n + 1) ctx (after, more)
  | handOver {n : ℕ} {ctx mid : Context} {out : Context × ℕ}
      (h : ctx.react c rest = .handOver mid) (hmid : SettlesWithin c rest n mid out) :
      SettlesWithin c rest (n + 1) ctx out

lemma SettlesWithin.mono (h : SettlesWithin c rest n ctx out) :
    ∀ {m : ℕ}, n ≤ m → SettlesWithin c rest m ctx out := by
  induction h with
  | consume h =>
      intro m hm
      obtain ⟨k, rfl⟩ : ∃ k, m = k + 1 := ⟨m - 1, by omega⟩
      exact .consume h
  | handOver h _ ih =>
      intro m hm
      obtain ⟨k, rfl⟩ : ∃ k, m = k + 1 := ⟨m - 1, by omega⟩
      exact .handOver h (ih (by omega))

/-! ### State by state -/

lemma settles_tagOpen (h : ctx.state = .tagOpen) :
    SettlesWithin c rest 2 ctx (ctx.outcome c rest) := by
  have hreact : ctx.react c rest = ctx.reactTagOpen c rest := by rw [react, h]
  simp only [reactTagOpen, Bool.and_eq_true, decide_eq_true_eq, List.isPrefixOf_iff_prefix]
    at hreact
  simp only [outcome, delimiter?, next, h, openTag, List.cons_prefix_cons]
  by_cases hbang : c = '!'
  · rw [if_pos hbang] at hreact
    subst hbang
    by_cases hhyphens : ['-', '-'] <+: rest
    · rw [if_pos hhyphens] at hreact
      rw [if_pos ⟨rfl, hhyphens⟩, Option.getD_some]
      exact .consume hreact
    · rw [if_neg hhyphens] at hreact
      rw [if_neg fun h => hhyphens h.2, if_neg (by simp),
        Option.getD_none, if_pos (Or.inl rfl)]
      exact .consume hreact
  rw [if_neg hbang] at hreact
  rw [if_neg fun h => hbang h.1.symm]
  by_cases hend : c = '/' ∧ ['>'] <+: rest
  · rw [if_pos hend] at hreact
    rw [if_pos ⟨hend.1.symm, hend.2⟩, Option.getD_some]
    exact .consume hreact
  rw [if_neg hend] at hreact
  rw [if_neg fun h => hend ⟨h.1.symm, h.2⟩, Option.getD_none]
  by_cases hname : startsName c = true
  · -- the name state gets the character next, and would not keep one that ends a name
    obtain ⟨hblank, hslash, hclose⟩ := not_blank_of_startsName hname
    have hquestion : c ≠ '?' := by rintro rfl; exact absurd hname (by decide)
    rw [if_pos hname] at hreact
    rw [if_neg (by simp [hbang, hquestion]), if_pos hname]
    exact .handOver hreact (.consume (by simp [react, reactElementName, hblank, hslash, hclose]))
  rw [if_neg hname] at hreact ⊢
  by_cases hquestion : c = '?'
  · rw [if_pos hquestion] at hreact
    rw [if_pos (Or.inr hquestion)]
    subst hquestion
    exact .handOver hreact (.consume rfl)
  · rw [if_neg hquestion] at hreact
    rw [if_neg (by simp [hbang, hquestion])]
    refine .handOver hreact (.consume ?_)
    rw [react, enter_state]
    simp only [reactText]
    split <;> rfl

lemma settles_elementName (h : ctx.state = .elementName) :
    SettlesWithin c rest 1 ctx (ctx.next c, 0) := by
  refine .consume ?_
  rw [show ctx.react c rest = ctx.reactElementName c by rw [react, h], reactElementName]
  simp only [next, h]
  split_ifs <;> rfl

/-- The first character of an attribute name is also the first that the name keeps. -/
lemma settles_startAttribute (hblank : isBlank c = false) (hslash : c ≠ '/') (hclose : c ≠ '>')
    (heq : c ≠ '=') : SettlesWithin c rest 1 ctx.startAttribute (ctx.betweenAttributes c, 0) := by
  refine .consume ?_
  rw [betweenAttributes, if_neg (by simp [hblank]), if_neg hslash, if_neg hclose, if_neg heq]
  simp [react, startAttribute, reactAttributeName, hblank, hslash, hclose, heq]

/-- The end of the tag, and a slash, are left to the state behind an attribute name. -/
lemma settles_tagEnd (hend : c = '/' ∨ c = '>') :
    SettlesWithin c rest 1 (ctx.enter .afterAttributeName) (ctx.betweenAttributes c, 0) := by
  refine .consume ?_
  rw [react, enter_state]
  rcases hend with rfl | rfl <;> rfl

lemma settles_afterElementName (h : ctx.state = .afterElementName) :
    SettlesWithin c rest 2 ctx (ctx.betweenAttributes c, 0) := by
  have hreact : ctx.react c rest = ctx.reactAfterElementName c := by rw [react, h]
  simp only [reactAfterElementName, Bool.or_eq_true, decide_eq_true_eq] at hreact
  by_cases hblank : isBlank c = true
  · rw [if_pos hblank] at hreact
    rw [betweenAttributes, if_pos hblank, enter_self h]
    exact .consume hreact
  rw [if_neg hblank] at hreact
  by_cases hend : c = '/' ∨ c = '>'
  · rw [if_pos hend] at hreact
    exact .handOver hreact (settles_tagEnd hend)
  rw [if_neg hend] at hreact
  obtain ⟨hslash, hclose⟩ := not_or.mp hend
  by_cases heq : c = '='
  · rw [if_pos heq] at hreact
    rw [betweenAttributes, if_neg hblank, if_neg hslash, if_neg hclose, if_pos heq]
    exact .consume hreact
  · rw [if_neg heq] at hreact
    exact .handOver hreact
      (settles_startAttribute (Bool.eq_false_iff.mpr hblank) hslash hclose heq)

lemma settles_attributeName (h : ctx.state = .attributeName) :
    SettlesWithin c rest 2 ctx (ctx.next c, 0) := by
  have hreact : ctx.react c rest = ctx.reactAttributeName c := by rw [react, h]
  simp only [reactAttributeName, Bool.or_eq_true, decide_eq_true_eq] at hreact
  simp only [next, h]
  by_cases hblank : isBlank c = true
  · rw [if_pos (Or.inr hblank)] at hreact
    rw [if_pos hblank]
    exact .handOver hreact (.consume (by simp [react, reactAfterAttributeName, hblank]))
  rw [if_neg hblank]
  by_cases hend : c = '/' ∨ c = '>'
  · rw [if_pos (Or.inl hend)] at hreact
    rw [if_pos (by tauto)]
    exact .handOver hreact (settles_tagEnd hend)
  obtain ⟨hslash, hclose⟩ := not_or.mp hend
  rw [if_neg (by tauto)] at hreact
  by_cases heq : c = '='
  · rw [if_pos heq] at hreact
    rw [if_pos (by tauto), betweenAttributes, if_neg hblank, if_neg hslash, if_neg hclose,
      if_pos heq]
    exact .consume hreact
  · rw [if_neg heq, h] at hreact
    rw [if_neg (by tauto)]
    exact .consume hreact

lemma settles_afterAttributeName (h : ctx.state = .afterAttributeName) :
    SettlesWithin c rest 2 ctx (ctx.next c, 0) := by
  have hreact : ctx.react c rest = ctx.reactAfterAttributeName c := by rw [react, h]
  simp only [reactAfterAttributeName] at hreact
  simp only [next, h]
  by_cases hblank : isBlank c = true
  · rw [if_pos hblank] at hreact ⊢
    exact .consume hreact
  rw [if_neg hblank] at hreact ⊢
  by_cases hend : c = '/' ∨ c = '>'
  · have hself : SettlesWithin c rest 1 (ctx.enter .afterAttributeName)
        (ctx.betweenAttributes c, 0) := settles_tagEnd hend
    rw [enter_self h] at hself
    exact hself.mono (by decide)
  obtain ⟨hslash, hclose⟩ := not_or.mp hend
  rw [if_neg hslash] at hreact
  by_cases heq : c = '='
  · rw [if_pos heq] at hreact
    rw [betweenAttributes, if_neg hblank, if_neg hslash, if_neg hclose, if_pos heq]
    exact .consume hreact
  · rw [if_neg heq, if_neg hclose] at hreact
    exact .handOver hreact
      (settles_startAttribute (Bool.eq_false_iff.mpr hblank) hslash hclose heq)

lemma settles_beforeAttributeValue (h : ctx.state = .beforeAttributeValue) :
    SettlesWithin c rest 2 ctx (ctx.next c, 0) := by
  have hreact : ctx.react c rest = ctx.reactBeforeAttributeValue c := by rw [react, h]
  simp only [reactBeforeAttributeValue] at hreact
  simp only [next, h]
  by_cases hblank : isBlank c = true
  · rw [if_pos hblank] at hreact ⊢
    exact .consume hreact
  rw [if_neg hblank] at hreact ⊢
  by_cases hclose : c = '>'
  · rw [if_pos hclose] at hreact ⊢
    exact .consume hreact
  rw [if_neg hclose] at hreact ⊢
  cases hquote : Quote.ofChar? c with
  | some quote =>
      rw [hquote] at hreact
      exact .consume hreact
  | none =>
      rw [hquote] at hreact
      exact .handOver hreact (.consume (by simp [react, reactAttributeValue, hblank, hclose]))

lemma settles_attributeValue (h : ctx.state = .attributeValue) :
    SettlesWithin c rest 1 ctx (ctx.next c, 0) := by
  refine .consume ?_
  rw [show ctx.react c rest = ctx.reactAttributeValue c by rw [react, h], reactAttributeValue]
  simp only [next, h]
  cases ctx.quote with
  | some quote => dsimp only; split <;> rfl
  | none => dsimp only; split_ifs <;> rfl

/-- Where a character is left to the place of a new attribute, that costs one reaction more. -/
lemma settles_of_handOver_afterElementName
    (h : ctx.react c rest = .handOver (ctx.enter .afterElementName)) :
    SettlesWithin c rest 3 ctx (ctx.betweenAttributes c, 0) :=
  .handOver h (settles_afterElementName (enter_state ctx _))

lemma settles_afterAttributeValue (h : ctx.state = .afterAttributeValue) :
    SettlesWithin c rest 3 ctx (ctx.betweenAttributes c, 0) := by
  have hreact : ctx.react c rest = ctx.reactAfterAttributeValue c := by rw [react, h]
  rw [reactAfterAttributeValue] at hreact
  by_cases hblank : isBlank c = true
  · rw [if_pos hblank] at hreact
    rw [betweenAttributes, if_pos hblank]
    exact .consume hreact
  rw [if_neg hblank] at hreact
  by_cases hslash : c = '/'
  · rw [if_pos hslash] at hreact
    rw [betweenAttributes, if_neg hblank, if_pos hslash]
    exact .consume hreact
  rw [if_neg hslash] at hreact
  by_cases hclose : c = '>'
  · rw [if_pos hclose] at hreact
    rw [betweenAttributes, if_neg hblank, if_neg hslash, if_pos hclose]
    exact .consume hreact
  · rw [if_neg hclose] at hreact
    exact settles_of_handOver_afterElementName hreact

lemma settles_selfClosingTag (h : ctx.state = .selfClosingTag) :
    SettlesWithin c rest 3 ctx (ctx.betweenAttributes c, 0) := by
  have hreact : ctx.react c rest = ctx.reactSelfClosingTag c := by rw [react, h]
  rw [reactSelfClosingTag] at hreact
  by_cases hclose : c = '>'
  · rw [if_pos hclose] at hreact
    subst hclose
    exact .consume hreact
  · rw [if_neg hclose] at hreact
    exact settles_of_handOver_afterElementName hreact

lemma settles_comment (h : ctx.state = .comment) :
    SettlesWithin c rest 1 ctx (ctx.outcome c rest) := by
  refine .consume ?_
  rw [show ctx.react c rest = ctx.reactComment c rest by rw [react, h], reactComment]
  simp only [delimiter?, next, h, List.isPrefixOf_iff_prefix]
  split_ifs <;> rfl

lemma settles_beforeComment (h : ctx.state = .beforeComment) :
    SettlesWithin c rest 2 ctx (ctx.next c, 0) := by
  have hreact : ctx.react c rest = ctx.reactBeforeComment c := by rw [react, h]
  simp only [reactBeforeComment] at hreact
  simp only [next, h]
  by_cases hhyphen : c = '-'
  · rw [if_pos hhyphen] at hreact ⊢
    exact .consume hreact
  rw [if_neg hhyphen] at hreact ⊢
  by_cases hclose : c = '>'
  · rw [if_pos hclose] at hreact ⊢
    exact .consume hreact
  · rw [if_neg hclose] at hreact ⊢
    refine .handOver hreact (.consume ?_)
    simp [react, reactComment, Ne.symm hhyphen]

lemma settles_text (h : ctx.state = .text) : SettlesWithin c rest 1 ctx (ctx.next c, 0) := by
  refine .consume ?_
  rw [show ctx.react c rest = ctx.reactText c by rw [react, h], reactText]
  simp only [next, h]
  split <;> rfl

lemma settles_unsupportedConstruct (h : ctx.state = .unsupportedConstruct) :
    SettlesWithin c rest 1 ctx (ctx.next c, 0) := by
  refine .consume ?_
  rw [show ctx.react c rest = ctx.reactUnsupportedConstruct c by rw [react, h],
    reactUnsupportedConstruct]
  simp only [next, h]
  split <;> rfl

/-! ### The step -/

/-- Where the state does not look ahead, the transition is all there is to settle. -/
lemma settles_next (htag : ctx.state ≠ .tagOpen) (hcomment : ctx.state ≠ .comment) :
    SettlesWithin c rest 3 ctx (ctx.next c, 0) := by
  have hbetween : ctx.next c = ctx.betweenAttributes c →
      SettlesWithin c rest 3 ctx (ctx.betweenAttributes c, 0) →
      SettlesWithin c rest 3 ctx (ctx.next c, 0) := by
    intro hnext hsettles
    rw [hnext]
    exact hsettles
  cases h : ctx.state with
  | tagOpen => exact absurd h htag
  | comment => exact absurd h hcomment
  | text => exact (settles_text h).mono (by decide)
  | unsupportedConstruct => exact (settles_unsupportedConstruct h).mono (by decide)
  | beforeComment => exact (settles_beforeComment h).mono (by decide)
  | elementName => exact (settles_elementName h).mono (by decide)
  | attributeName => exact (settles_attributeName h).mono (by decide)
  | afterAttributeName => exact (settles_afterAttributeName h).mono (by decide)
  | beforeAttributeValue => exact (settles_beforeAttributeValue h).mono (by decide)
  | attributeValue => exact (settles_attributeValue h).mono (by decide)
  | afterElementName =>
      exact hbetween (by simp only [next, h]) ((settles_afterElementName h).mono (by decide))
  | afterAttributeValue => exact hbetween (by simp only [next, h]) (settles_afterAttributeValue h)
  | selfClosingTag => exact hbetween (by simp only [next, h]) (settles_selfClosingTag h)

/-- **Three reactions always suffice**, and what comes of them is the outcome. -/
theorem settlesWithin_three (ctx : Context) (c : Char) (rest : List Char) :
    SettlesWithin c rest 3 ctx (ctx.outcome c rest) := by
  by_cases htag : ctx.state = .tagOpen
  · exact (settles_tagOpen htag).mono (by decide)
  by_cases hcomment : ctx.state = .comment
  · exact (settles_comment hcomment).mono (by decide)
  · rw [outcome_of_not_ahead htag hcomment]
    exact settles_next htag hcomment

/-- What settles within the budget is what `settle` finds. -/
lemma SettlesWithin.settle_eq (h : SettlesWithin c rest n ctx out) :
    ∀ {budget : ℕ}, n ≤ budget → settle c rest budget ctx = out := by
  induction h with
  | consume h =>
      intro budget hn
      obtain ⟨k, rfl⟩ : ∃ k, budget = k + 1 := ⟨budget - 1, by omega⟩
      rw [settle, h]
  | handOver h _ ih =>
      intro budget hn
      obtain ⟨k, rfl⟩ : ∃ k, budget = k + 1 := ⟨budget - 1, by omega⟩
      rw [settle, h]
      exact ih (by omega)

/-- **A step in closed form.** -/
theorem step_eq (ctx : Context) (c : Char) (rest : List Char) :
    ctx.step c rest = ctx.outcome c rest :=
  (settlesWithin_three ctx c rest).settle_eq (by decide)

/-! ### What a step can do -/

/-- What a step comes to, with the reason for each case. -/
lemma outcome_cases (ctx : Context) (c : Char) (rest : List Char) :
    ctx.outcome c rest = (ctx.next c, 0) ∨
      ctx.state = .tagOpen ∧ ['!', '-', '-'] <+: c :: rest ∧
        ctx.outcome c rest = (ctx.enter .beforeComment, 2) ∨
      ctx.state = .tagOpen ∧ ['/', '>'] <+: c :: rest ∧
        ctx.outcome c rest = (ctx.enter .text, 1) ∨
      ctx.state = .comment ∧ ['-', '-', '>'] <+: c :: rest ∧
        ctx.outcome c rest = (ctx.enter .text, 2) := by
  unfold outcome delimiter?
  split
  · next htag =>
      split_ifs with hopen hend
      · exact Or.inr (Or.inl ⟨htag, hopen, rfl⟩)
      · exact Or.inr (Or.inr (Or.inl ⟨htag, hend, rfl⟩))
      · exact Or.inl rfl
  · next hcomment =>
      split_ifs with hclose
      · exact Or.inr (Or.inr (Or.inr ⟨hcomment, hclose, rfl⟩))
      · exact Or.inl rfl
  · exact Or.inl rfl

/-- The context behind a step: that of the transition, unless a delimiter leads from one of two
states outside tags to one of two others. -/
lemma outcome_fst_cases (ctx : Context) (c : Char) (rest : List Char) :
    (ctx.outcome c rest).1 = ctx.next c ∨
      (ctx.state = .tagOpen ∨ ctx.state = .comment) ∧
        ∃ state, (state = .beforeComment ∨ state = .text) ∧
          (ctx.outcome c rest).1 = ctx.enter state := by
  rcases outcome_cases ctx c rest with h | ⟨hstate, _, h⟩ | ⟨hstate, _, h⟩ | ⟨hstate, _, h⟩
  · exact Or.inl (by rw [h])
  · exact Or.inr ⟨Or.inl hstate, .beforeComment, Or.inl rfl, by rw [h]⟩
  · exact Or.inr ⟨Or.inl hstate, .text, Or.inr rfl, by rw [h]⟩
  · exact Or.inr ⟨Or.inr hstate, .text, Or.inr rfl, by rw [h]⟩

/-- A delimiter never reaches behind the end of its fragment. -/
lemma outcome_snd_le (ctx : Context) (c : Char) (rest : List Char) :
    (ctx.outcome c rest).2 ≤ rest.length := by
  rcases outcome_cases ctx c rest with h | ⟨_, hp, h⟩ | ⟨_, hp, h⟩ | ⟨_, hp, h⟩
  · rw [h]
    exact Nat.zero_le _
  all_goals
    rw [h]
    simpa using hp.length_le

end SafeMarkup.Context
