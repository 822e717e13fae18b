import Mathlib.Data.List.Basic
import SafeMarkup.Document
import SafeMarkup.Proofs.AttributeSite
import SafeMarkup.Proofs.CommentSite
import SafeMarkup.Proofs.Escape
import SafeMarkup.Proofs.Results

/-!
# Values that leave no trace

The text of a value is read like any other text, so a value could change how the values behind it
are written.  At four kinds of place it cannot: the scanner is the same behind the value as in
front of it.  A document whose values are all in such places is read as its literals alone would be,
whatever the values are.

* `Builder.Inert` — a value at a place of one of the four kinds.
* `add_of_inert` — such a value is appended, and leaves the context as it was.
* `InertRun` — pieces that are literals or inert values, each for the builder that it meets.
* `addAll_of_inertRun` — a run of them reads what its literals read.
* **`context_addAll_eq_of_inertRun`** — two documents with the same literals are read alike.
-/

namespace SafeMarkup

/-- The text of a literal. -/
def Piece.literal? : Piece → Option String
  | .literal text => some text
  | .value _ | .unescaped _ | .comment _ | .field _ _ _ => none

/-! ## Texts that do not move the scanner -/

namespace Context

variable {ctx : Context} {text : String}

/-- Free text, and what is passed over up to the next `>`, hold escaped text. -/
lemma feed_escape (h : ctx.state = .text ∨ ctx.state = .unsupportedConstruct) (s : String) :
    ctx.feed (escape s) = ctx := by
  rw [feed, escape, String.toList_ofList]
  rcases h with h | h
  · refine scan_eq_self (by simp [h]) (by simp [h]) fun c hc => ?_
    have hopen : c ≠ '<' := by
      rintro rfl
      exact not_mem_escapeChars (by decide) _ hc
    simp only [next, h, if_neg hopen]
  · refine scan_eq_self (by simp [h]) (by simp [h]) fun c hc => ?_
    have hclose : c ≠ '>' := by
      rintro rfl
      exact not_mem_escapeChars (by decide) _ hc
    simp only [next, h, if_neg hclose]

/-- A quoted value holds any text without its quote. -/
lemma feed_of_quote_not_mem {quote : Quote} (hstate : ctx.state = .attributeValue)
    (hquote : ctx.quote = some quote) (hno : quote.char ∉ text.toList) : ctx.feed text = ctx := by
  refine scan_eq_self (by simp [hstate]) (by simp [hstate]) fun c hc => ?_
  have hother : c ≠ quote.char := by
    rintro rfl
    exact hno hc
  simp only [next, hstate, hquote, if_neg hother]

end Context

namespace Builder

variable {b : Builder} {v : Value}

/-! ## A value -/

/-- A value at a place where it cannot move the scanner. -/
inductive Inert (b : Builder) (v : Value) : Prop
  /-- In free text, or in a construct that is passed over, and without markup of its own. -/
  | text (hstate : b.context.state = .text ∨ b.context.state = .unsupportedConstruct)
      (hplain : v.IsPlain) (hmarkup : markupOf? b.config.markupSeparator v = none)
  /-- In a comment that has started. -/
  | comment (hstate : b.context.state = .comment) (hraw : ∀ text, v ≠ .unescaped text)
  /-- In a quoted attribute value, the quote not occurring in what is appended. -/
  | quoted (quote : Quote) (hstate : b.context.state = .attributeValue)
      (hquote : b.context.quote = some quote) (hplain : v.IsPlain)
      (hno : quote.char ∉ (renderAt b.config v b.site).toList)

/-- **An inert value leaves the scanner as it is.** -/
lemma add_of_inert (h : b.Inert v) :
    ∃ behind, b.add (.value v) = .ok behind ∧ behind.context = b.context := by
  cases h with
  | text hstate hplain hmarkup =>
      have hsite : b.site.kind = .text := by
        rcases hstate with hstate | hstate <;> simp [site, Context.site, hstate, Site.text]
      refine ⟨_, add_value hplain, ?_⟩
      rw [addResolved_context, Piece.resolvedText, renderAt, hsite]
      simp only [renderText, hmarkup, Option.getD_none]
      exact Context.feed_escape hstate _
  | comment hstate hraw =>
      have hsite : b.site.kind = .comment := Context.site_kind_eq_comment_iff.mpr (Or.inr hstate)
      obtain ⟨piece, hadd, hpiece⟩ := add_value_of_comment hsite hraw
      refine ⟨_, hadd, ?_⟩
      rw [addResolved_context, hpiece]
      exact Context.feed_stripDelimiters hstate _
  | quoted quote hstate hquote hplain hno =>
      refine ⟨_, add_value hplain, ?_⟩
      rw [addResolved_context]
      exact Context.feed_of_quote_not_mem hstate hquote hno

/-! ## A run -/

/-- Every value of a run is inert for the builder that it meets. -/
def InertRun (b : Builder) (pieces : List Piece) : Prop :=
  ∀ before v after, pieces = before ++ .value v :: after → (b.addAll before).1.Inert v

lemma addAll_cons {piece : Piece} {behind : Builder} (h : b.add piece = .ok behind)
    (rest : List Piece) : b.addAll (piece :: rest) = behind.addAll rest := by
  rw [addAll, h]

lemma InertRun.head {rest : List Piece} (h : b.InertRun (.value v :: rest)) : b.Inert v :=
  h [] v rest rfl

lemma InertRun.tail {piece : Piece} {rest : List Piece} {behind : Builder}
    (h : b.InertRun (piece :: rest)) (hadd : b.add piece = .ok behind) :
    behind.InertRun rest := by
  intro before v after hrest
  rw [← addAll_cons hadd before]
  exact h (piece :: before) v after (by rw [hrest, List.cons_append])

lemma InertRun.take {pieces : List Piece} (h : b.InertRun pieces) (k : ℕ) :
    b.InertRun (pieces.take k) := by
  intro before v after htake
  refine h before v (after ++ pieces.drop k) ?_
  rw [← List.cons_append, ← List.append_assoc, ← htake, List.take_append_drop]

/-- A literal that starts a run says nothing about the rest. -/
lemma inertRun_literal_cons {text : String} {rest : List Piece}
    (h : (b.addResolved (.literal text)).InertRun rest) : b.InertRun (.literal text :: rest) := by
  intro before v after hpieces
  cases before with
  | nil => exact absurd hpieces (by simp)
  | cons piece before =>
      obtain ⟨rfl, hrest⟩ := List.cons.inj hpieces
      rw [addAll_cons (add_literal text)]
      exact h before v after hrest

/-- A value that starts a run has to be inert, and the rest a run for the builder behind it. -/
lemma inertRun_value_cons {rest : List Piece} {behind : Builder} (hv : b.Inert v)
    (hadd : b.add (.value v) = .ok behind) (h : behind.InertRun rest) :
    b.InertRun (.value v :: rest) := by
  intro before w after hpieces
  cases before with
  | nil =>
      obtain ⟨hvalue, -⟩ := List.cons.inj hpieces
      rw [← Piece.value.inj hvalue]
      exact hv
  | cons piece before =>
      obtain ⟨rfl, hrest⟩ := List.cons.inj hpieces
      rw [addAll_cons hadd]
      exact h before w after hrest

/-- **A run of literals and inert values** has no error, and reads what its literals read. -/
lemma addAll_of_inertRun : ∀ {pieces : List Piece} {b : Builder},
    (∀ piece ∈ pieces, (∃ text, piece = .literal text) ∨ ∃ v, piece = .value v) →
    b.InertRun pieces → (b.addAll pieces).2 = none ∧
      (b.addAll pieces).1.context = (pieces.filterMap Piece.literal?).foldl Context.feed b.context
  | [], _, _, _ => ⟨rfl, rfl⟩
  | piece :: rest, b, hkinds, hrun => by
      -- behind an inert value the builder is another one, but the literals only see its context
      have hrest : ∀ p ∈ rest, (∃ text, p = .literal text) ∨ ∃ v, p = .value v :=
        fun p hp => hkinds p (List.mem_cons_of_mem _ hp)
      rcases hkinds piece List.mem_cons_self with ⟨text, rfl⟩ | ⟨v, rfl⟩
      · rw [addAll_cons (add_literal text)]
        exact addAll_of_inertRun hrest (hrun.tail (add_literal text))
      · obtain ⟨behind, hadd, hcontext⟩ := add_of_inert hrun.head
        have hread : (Piece.value v :: rest).filterMap Piece.literal?
            = rest.filterMap Piece.literal? := List.filterMap_cons_none rfl
        rw [addAll_cons hadd, hread, ← hcontext]
        exact addAll_of_inertRun hrest (hrun.tail hadd)

/-! ## Literals with values between them -/

/-- Literals with values between them, as pieces. -/
def woven (literals : List String) (values : List Value) : List Piece :=
  weave literals (values.map .value)

lemma woven_kinds : ∀ (literals : List String) (values : List Value),
    ∀ piece ∈ woven literals values, (∃ text, piece = .literal text) ∨ ∃ v, piece = .value v
  | [], _, piece, h => absurd h List.not_mem_nil
  | text :: literals, [], piece, h => by
      rcases List.mem_cons.mp h with rfl | h
      · exact Or.inl ⟨text, rfl⟩
      · exact woven_kinds literals [] piece h
  | text :: literals, v :: values, piece, h => by
      rcases List.mem_cons.mp h with rfl | h
      · exact Or.inl ⟨text, rfl⟩
      rcases List.mem_cons.mp h with rfl | h
      · exact Or.inr ⟨v, rfl⟩
      · exact woven_kinds literals values piece h

/-- The literals of the whole. -/
lemma filterMap_literal?_woven : ∀ (literals : List String) (values : List Value),
    (woven literals values).filterMap Piece.literal? = literals
  | [], _ => rfl
  | text :: literals, [] => congrArg (text :: ·) (filterMap_literal?_woven literals [])
  | text :: literals, _ :: values => congrArg (text :: ·) (filterMap_literal?_woven literals values)

/-- The literals among the first pieces are the same for as many values. -/
lemma filterMap_literal?_take_woven : ∀ (literals : List String) (vs ws : List Value) (k : ℕ),
    vs.length = ws.length →
      ((woven literals vs).take k).filterMap Piece.literal?
        = ((woven literals ws).take k).filterMap Piece.literal?
  | _, _, _, 0, _ => rfl
  | [], _, _, _ + 1, _ => rfl
  | _ :: _, [], [], _ + 1, _ => rfl
  | _ :: _, _ :: _, _ :: _, 1, _ => rfl
  | text :: literals, _ :: vs, _ :: ws, k + 2, hlength =>
      congrArg (text :: ·) (filterMap_literal?_take_woven literals vs ws k (Nat.succ.inj hlength))

/-- **No value can influence how a later value is written.**  Take literals, and as many values for
one document as for another, such that every value of either document is inert where it stands.
Then a value leaves the whole context as it was, and behind every piece of the one document the
context, and with it the site, is the one behind the same number of pieces of the other, and the one
that the literals among these pieces come to alone. -/
theorem context_addAll_eq_of_inertRun (b : Builder) (literals : List String) (vs ws : List Value)
    (hlength : vs.length = ws.length) (hvs : b.InertRun (woven literals vs))
    (hws : b.InertRun (woven literals ws)) :
    (∀ values ∈ [vs, ws], ∀ before v after,
      woven literals values = before ++ .value v :: after →
        ∃ behind, (b.addAll before).1.add (.value v) = .ok behind ∧
          behind.context = (b.addAll before).1.context) ∧
    (∀ values ∈ [vs, ws], (woven literals values).filterMap Piece.literal? = literals) ∧
    ∀ k, ∃ alone : Context,
      alone = (((woven literals vs).take k).filterMap Piece.literal?).foldl Context.feed b.context ∧
      ∀ values ∈ [vs, ws],
        (b.addAll ((woven literals values).take k)).2 = none ∧
        (b.addAll ((woven literals values).take k)).1.context = alone ∧
        (b.addAll ((woven literals values).take k)).1.site = alone.site := by
  have hinert : ∀ values ∈ [vs, ws], b.InertRun (woven literals values) := by
    simp only [List.forall_mem_cons, hvs, hws, List.not_mem_nil, false_imp_iff, implies_true,
      and_self]
  have hcount : ∀ values ∈ [vs, ws], vs.length = values.length := by
    simp only [List.forall_mem_cons, hlength, List.not_mem_nil, false_imp_iff, implies_true,
      and_self]
  refine ⟨fun values hmem before v after hpieces => ?_, fun values _ => ?_, fun k => ?_⟩
  · exact add_of_inert (hinert values hmem before v after hpieces)
  · exact filterMap_literal?_woven literals values
  · refine ⟨_, rfl, fun values hmem => ?_⟩
    have hkinds : ∀ piece ∈ (woven literals values).take k,
        (∃ text, piece = .literal text) ∨ ∃ v, piece = .value v :=
      fun piece hpiece => woven_kinds literals values piece (List.mem_of_mem_take hpiece)
    obtain ⟨herror, hcontext⟩ := addAll_of_inertRun hkinds ((hinert values hmem).take k)
    rw [← filterMap_literal?_take_woven literals vs values k (hcount values hmem)] at hcontext
    exact ⟨herror, hcontext, by rw [site, hcontext]⟩

/-- A value behind a literal has to be inert there, and the rest a run for any builder that has read
the literal. -/
lemma inertRun_woven_cons {text : String} {literals : List String} {values : List Value}
    (hv : (b.addResolved (.literal text)).Inert v)
    (h : ∀ behind : Builder, behind.config = b.config → behind.context = b.context.feed text →
      behind.InertRun (woven literals values)) :
    b.InertRun (woven (text :: literals) (v :: values)) := by
  obtain ⟨behind, hadd, hcontext⟩ := add_of_inert hv
  have hconfig : behind.config = b.config := by
    obtain ⟨piece, -, rfl⟩ := exists_of_map_eq_ok hadd
    rfl
  exact inertRun_literal_cons (inertRun_value_cons hv hadd (h behind hconfig hcontext))

/-- Any values in a document with a place of each kind: a quoted attribute value, free text, a
comment, and what is passed over. -/
lemma inertRun_allPlaces {quoted free commented passed : Value} (hquoted : quoted.IsPlain)
    (hno : '\'' ∉ (renderAt .default quoted
      ⟨.attributeValue, some "p", some "title", some .single⟩).toList)
    (hfree : free.IsPlain) (hfreeMarkup : markupOf? "\n" free = none)
    (hraw : ∀ text, commented ≠ .unescaped text)
    (hpassed : passed.IsPlain) (hpassedMarkup : markupOf? "\n" passed = none) :
    (start .default).InertRun (woven ["<p title='", "'>", "<!-- ", "--><!", ">"]
      [quoted, free, commented, passed]) := by
  have hsite : ((start .default).addResolved (.literal "<p title='")).site
      = ⟨.attributeValue, some "p", some "title", some .single⟩ := by decide +kernel
  refine inertRun_woven_cons (.quoted .single (by decide +kernel) (by decide +kernel) hquoted ?_)
    fun b₁ hconfig₁ h₁ => inertRun_woven_cons (.text (Or.inl ?_) hfree ?_)
    fun b₂ hconfig₂ h₂ => inertRun_woven_cons (.comment ?_ hraw)
    fun b₃ hconfig₃ h₃ => inertRun_woven_cons (.text (Or.inr ?_) hpassed ?_)
    fun b₄ _ _ => inertRun_literal_cons fun before v after h => ?_
  · rw [hsite]
    exact hno
  · rw [addResolved_context, h₁, Piece.resolvedText]
    decide +kernel
  · exact hconfig₁ ▸ hfreeMarkup
  · rw [addResolved_context, h₂, h₁, Piece.resolvedText]
    decide +kernel
  · rw [addResolved_context, h₃, h₂, h₁, Piece.resolvedText]
    decide +kernel
  · exact hconfig₃ ▸ hconfig₂ ▸ hconfig₁ ▸ hpassedMarkup
  · exact absurd h (by simp [weave])

/-- A document with a place of each kind, and values that look as if they would end theirs. -/
theorem context_addAll_eq_in_all_places :
    let literals := ["<p title='", "'>", "<!-- ", "--><!", ">"]
    let vs := [.str "\">", .str "<script>", .comment "--> <p", .str "><!--"]
    let ws := [.int 5, .null, .str "----!>>", .list [.str "<"]]
    (start .default).InertRun (woven literals vs) ∧ (start .default).InertRun (woven literals ws) ∧
      ((start .default).addAll ((woven literals vs).take 8)).1.context.state
        = .unsupportedConstruct ∧
      ∀ k, ((start .default).addAll ((woven literals vs).take k)).1.context
        = ((start .default).addAll ((woven literals ws).take k)).1.context := by
  intro literals vs ws
  have hvs : (start .default).InertRun (woven literals vs) :=
    inertRun_allPlaces (by simp [Value.IsPlain]) (by decide +kernel) (by simp [Value.IsPlain]) rfl
      (by simp) (by simp [Value.IsPlain]) rfl
  have hws : (start .default).InertRun (woven literals ws) :=
    inertRun_allPlaces (by simp [Value.IsPlain]) (by decide +kernel) (by simp [Value.IsPlain]) rfl
      (by simp) (by simp [Value.IsPlain]) rfl
  refine ⟨hvs, hws, by decide +kernel, fun k => ?_⟩
  obtain ⟨_, _, hall⟩ := context_addAll_eq_of_inertRun _ literals vs ws rfl hvs hws
  obtain ⟨alone, -, hruns⟩ := hall k
  rw [(hruns vs (by simp)).2.1, (hruns ws (by simp)).2.1]

end Builder

end SafeMarkup
