import SafeMarkup.Builder
import SafeMarkup.Proofs.Scan

/-!
# Documents that come up

A builder is a record, and not every record of the type is a document under construction: its
context could hold a quote outside any value.  Statements that need more than the type says speak
of the builders that runs of pieces lead to, those without a text being left out.

* `Context.QuoteInValue` — a quote is kept inside an attribute value and nowhere else.
* `Builder.Reachable` — the builders that runs lead to from an empty document.
* `Builder.Reachable.context_invariant` — what reading keeps holds of all of them.
* **`Builder.Reachable.quoteInValue`** — they keep a quote in a value only.
* `Builder.reachable_addAll` — runs up to the first error lead to them, too.
-/

namespace SafeMarkup

namespace Context

variable {ctx : Context}

/-- Outside an attribute value no quote is kept. -/
def QuoteInValue (ctx : Context) : Prop := ctx.state ≠ .attributeValue → ctx.quote = none

lemma QuoteInValue.enter (h : ctx.QuoteInValue) (hstate : ctx.state ≠ .attributeValue)
    (state : ScanState) : (ctx.enter state).QuoteInValue :=
  fun _ => h hstate

lemma quoteInValue_betweenAttributes (hquote : ctx.quote = none) (c : Char) :
    (ctx.betweenAttributes c).QuoteInValue := by
  intro _
  rw [betweenAttributes]
  split_ifs
  · exact hquote
  · exact hquote
  · rfl
  · exact hquote
  · exact hquote

lemma quoteInValue_openTag (hquote : ctx.quote = none) (c : Char) :
    (ctx.openTag c).QuoteInValue := by
  intro _
  rw [openTag]
  split_ifs <;> exact hquote

lemma QuoteInValue.next (h : ctx.QuoteInValue) (c : Char) : (ctx.next c).QuoteInValue := by
  by_cases hvalue : ctx.state = .attributeValue
  · simp only [Context.next, hvalue]
    -- the end of a value drops its quote, and so does the end of the tag
    split <;> split_ifs
    · exact fun _ => rfl
    · exact h
    · exact fun _ => rfl
    · exact fun _ => rfl
    · exact h
  have hquote : ctx.quote = none := h hvalue
  cases hstate : ctx.state with
  | attributeValue => exact absurd hstate hvalue
  | tagOpen =>
      simp only [Context.next, hstate]
      exact quoteInValue_openTag hquote c
  | beforeAttributeValue =>
      simp only [Context.next, hstate]
      split_ifs
      · exact h
      · exact fun _ => rfl
      · exact fun hother => absurd rfl hother
  | comment =>
      simp only [Context.next, hstate]
      exact h
  | text | unsupportedConstruct | beforeComment =>
      simp only [Context.next, hstate]
      split_ifs <;> exact fun _ => hquote
  | elementName =>
      simp only [Context.next, hstate]
      split_ifs
      · exact fun _ => hquote
      · exact fun _ => hquote
      · exact fun _ => rfl
      · exact fun _ => hquote
  | attributeName =>
      simp only [Context.next, hstate]
      split_ifs
      · exact fun _ => hquote
      · exact quoteInValue_betweenAttributes hquote c
      · exact fun _ => hquote
  | afterAttributeName =>
      simp only [Context.next, hstate]
      split_ifs
      · exact h
      · exact quoteInValue_betweenAttributes hquote c
  | afterElementName | afterAttributeValue | selfClosingTag =>
      simp only [Context.next, hstate]
      exact quoteInValue_betweenAttributes hquote c

lemma QuoteInValue.outcome (h : ctx.QuoteInValue) (c : Char) (rest : List Char) :
    (ctx.outcome c rest).1.QuoteInValue := by
  rcases outcome_fst_cases ctx c rest with heq | ⟨hstate, state, _, heq⟩
  · rw [heq]
    exact h.next c
  · rw [heq]
    exact h.enter (by rcases hstate with hstate | hstate <;> simp [hstate]) state

lemma QuoteInValue.feed (h : ctx.QuoteInValue) (text : String) : (ctx.feed text).QuoteInValue :=
  scan_invariant (fun _ c rest hctx => hctx.outcome c rest) h text.toList

end Context

namespace Builder

/-- The builders that runs of pieces lead to from an empty document, with any configuration. -/
def Reachable (b : Builder) : Prop :=
  ∃ config pieces, ((start config).attemptAll pieces).2 = b

/-- What every attempt keeps, a run of attempts keeps. -/
lemma attemptAll_invariant {P : Builder → Prop}
    (hstep : ∀ b piece, P b → P (b.attempt piece).2) :
    ∀ (pieces : List Piece) (b : Builder), P b → P (b.attemptAll pieces).2
  | [], _, h => h
  | piece :: rest, b, h => attemptAll_invariant hstep rest _ (hstep b piece h)

lemma attempt_context (b : Builder) (piece : Piece) :
    (b.attempt piece).2 = b ∨ ∃ text, (b.attempt piece).2.context = b.context.feed text := by
  unfold attempt
  cases piece.resolve with
  | error e => exact Or.inl rfl
  | ok resolved => exact Or.inr ⟨_, rfl⟩

/-- What holds of the context at the start, and what reading keeps, holds of every document that
comes up. -/
lemma Reachable.context_invariant {P : Context → Prop} (hfresh : P .fresh)
    (hfeed : ∀ ctx text, P ctx → P (ctx.feed text)) {b : Builder} (h : b.Reachable) :
    P b.context := by
  obtain ⟨config, pieces, rfl⟩ := h
  refine attemptAll_invariant (P := fun b => P b.context) (fun b piece hb => ?_) pieces _ hfresh
  rcases attempt_context b piece with hsame | ⟨text, hcontext⟩
  · rw [hsame]
    exact hb
  · rw [hcontext]
    exact hfeed _ text hb

/-- **A quote is kept in a value only.** -/
theorem Reachable.quoteInValue {b : Builder} (h : b.Reachable) : b.context.QuoteInValue :=
  h.context_invariant (fun _ => rfl) fun _ text hctx => hctx.feed text

lemma exists_attemptAll_eq_addAll : ∀ (pieces : List Piece) (b : Builder),
    ∃ done, (b.attemptAll done).2 = (b.addAll pieces).1
  | [], b => ⟨[], rfl⟩
  | piece :: rest, b => by
      cases hresolve : piece.resolve with
      | error e =>
          rw [addAll, add, hresolve]
          exact ⟨[], rfl⟩
      | ok resolved =>
          obtain ⟨done, hdone⟩ := exists_attemptAll_eq_addAll rest (b.addResolved resolved)
          have hattempt : (b.attempt piece).2 = b.addResolved resolved := by
            rw [attempt, hresolve]
          refine ⟨piece :: done, ?_⟩
          rw [addAll, add, hresolve]
          change ((b.attempt piece).2.attemptAll done).2 = _
          rw [hattempt]
          exact hdone

/-- A run up to the first error comes up as well. -/
lemma reachable_addAll (config : Config) (pieces : List Piece) :
    ((start config).addAll pieces).1.Reachable := by
  obtain ⟨done, hdone⟩ := exists_attemptAll_eq_addAll pieces (start config)
  exact ⟨config, done, hdone⟩

end Builder

end SafeMarkup
