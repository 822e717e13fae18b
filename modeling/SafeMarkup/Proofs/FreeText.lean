import SafeMarkup.Proofs.Fragments
import SafeMarkup.Proofs.Reachable

/-!
# Free text

Between tags a document can be taken apart and put together freely, for two reasons.  A delimiter
that a border cuts in two leaves the scanner inside a construct or a comment, so behind a text that
ends in free text no delimiter is missing; and outside tags nothing of a tag is kept, so that free
text is always the context that a document starts with.

* `scan_append_of_state_text` — a border in free text makes no difference.
* `NothingKept` — outside tags the state is all there is to the context; `NothingKept.feed` says
  that reading keeps it so.
* **`Builder.Reachable.context_eq_fresh`** — a document in free text goes on like a new one.
-/

namespace SafeMarkup

namespace Context

variable {ctx : Context} {c : Char} {before after : List Char}

/-! ## Borders -/

/-- What stands of `!--` in front of a border that cuts it is read as a construct to be passed
over. -/
lemma state_scan_of_cut_open (hstate : ctx.state = .tagOpen)
    (h : ['!', '-', '-'] <+: c :: (before ++ after)) (hno : ¬ ['!', '-', '-'] <+: c :: before) :
    (ctx.scan (c :: before)).state = .unsupportedConstruct := by
  obtain ⟨rfl, hbehind⟩ := List.cons_prefix_cons.mp h
  have hstep : ctx.outcome '!' before = (ctx.enter .unsupportedConstruct, 0) := by
    simp [outcome, delimiter?, next, openTag, hstate, hno]
  rw [scan, scanFrom_zero_cons, hstep]
  rcases before with _ | ⟨d, _ | ⟨e, more⟩⟩
  · rfl
  · obtain ⟨rfl, -⟩ := List.cons_prefix_cons.mp hbehind
    rfl
  · exact absurd (by simpa [List.cons_prefix_cons] using hbehind) hno

/-- What stands of `-->` in front of a border that cuts it is read as part of the comment. -/
lemma state_scan_of_cut_close (hstate : ctx.state = .comment)
    (h : ['-', '-', '>'] <+: c :: (before ++ after)) (hno : ¬ ['-', '-', '>'] <+: c :: before) :
    (ctx.scan (c :: before)).state = .comment := by
  obtain ⟨rfl, hbehind⟩ := List.cons_prefix_cons.mp h
  have hstep : ctx.outcome '-' before = (ctx.enter .comment, 0) := by
    simp [outcome, delimiter?, next, hstate, hno, enter_self hstate]
  rw [scan, scanFrom_zero_cons, hstep]
  rcases before with _ | ⟨d, _ | ⟨e, more⟩⟩
  · rfl
  · obtain ⟨rfl, -⟩ := List.cons_prefix_cons.mp hbehind
    rfl
  · exact absurd (by simpa [List.cons_prefix_cons] using hbehind) hno

lemma scanFrom_append_of_state_text :
    ∀ (before : List Char) (skip : ℕ) (ctx : Context), skip ≤ before.length →
      (scanFrom skip ctx before).state = .text →
      scanFrom skip ctx (before ++ after) = (scanFrom skip ctx before).scan after
  | [], skip, ctx, hle, _ => by
      obtain rfl : skip = 0 := Nat.le_zero.mp hle
      rfl
  | c :: before, skip + 1, ctx, hle, htext => by
      rw [List.cons_append, scanFrom, scanFrom]
      exact scanFrom_append_of_state_text before skip ctx (Nat.le_of_succ_le_succ hle) htext
  | c :: before, 0, ctx, _, htext => by
      -- a delimiter that reaches across the border would leave another state than free text
      have hopen : ctx.state = .tagOpen →
          (['!', '-', '-'] <+: c :: (before ++ after) ↔ ['!', '-', '-'] <+: c :: before) := by
        intro hstate
        refine ⟨fun h => by_contra fun hno => ?_, fun h => h.trans (List.prefix_append _ _)⟩
        have hcut : (scanFrom 0 ctx (c :: before)).state = .unsupportedConstruct :=
          state_scan_of_cut_open hstate h hno
        rw [hcut] at htext
        exact absurd htext (by decide)
      have hclose : ctx.state = .comment →
          (['-', '-', '>'] <+: c :: (before ++ after) ↔ ['-', '-', '>'] <+: c :: before) := by
        intro hstate
        refine ⟨fun h => by_contra fun hno => ?_, fun h => h.trans (List.prefix_append _ _)⟩
        have hcut : (scanFrom 0 ctx (c :: before)).state = .comment :=
          state_scan_of_cut_close hstate h hno
        rw [hcut] at htext
        exact absurd htext (by decide)
      rcases outcome_append_of_ahead ctx hopen hclose with h | ⟨hstate, rfl, rfl, hafter⟩
      · rw [scanFrom_zero_cons] at htext
        rw [List.cons_append, scanFrom_zero_cons, scanFrom_zero_cons, h]
        exact scanFrom_append_of_state_text before _ _ (outcome_snd_le ctx c before) htext
      · obtain ⟨rest, rfl⟩ := hafter
        exact scan_slash_scan_close hstate

/-- **A border in free text makes no difference**, whatever stands on its two sides. -/
theorem scan_append_of_state_text (h : (ctx.scan before).state = .text) :
    ctx.scan (before ++ after) = (ctx.scan before).scan after :=
  scanFrom_append_of_state_text before 0 ctx (Nat.zero_le _) h

/-! ## Outside tags -/

/-- The states outside tags. -/
def outsideTags : List ScanState :=
  [.text, .tagOpen, .unsupportedConstruct, .beforeComment, .comment]

/-- Outside tags the state is all there is to the context. -/
def NothingKept (ctx : Context) : Prop :=
  ctx.state ∈ outsideTags → ctx = fresh.enter ctx.state

lemma nothingKept_fresh : fresh.NothingKept := fun _ => rfl

/-- A context that is no longer outside tags may keep what it likes. -/
lemma nothingKept_of_not_mem (h : ctx.state ∉ outsideTags) : ctx.NothingKept :=
  fun hmem => absurd hmem h

/-- Free text is the start of a document. -/
lemma NothingKept.eq_fresh (h : ctx.NothingKept) (hstate : ctx.state = .text) : ctx = fresh := by
  have hall := h (by rw [hstate]; decide)
  rwa [hstate] at hall

lemma nothingKept_betweenAttributes (ctx : Context) (c : Char) :
    (ctx.betweenAttributes c).NothingKept := by
  rw [betweenAttributes]
  split_ifs
  · exact nothingKept_of_not_mem (by simp [outsideTags])
  · exact nothingKept_of_not_mem (by simp [outsideTags])
  · exact nothingKept_fresh
  · exact nothingKept_of_not_mem (by simp [outsideTags])
  · exact nothingKept_of_not_mem (by simp [outsideTags])

lemma nothingKept_enter (state : ScanState) : (fresh.enter state).NothingKept := fun _ => rfl

lemma nothingKept_openTag (c : Char) : ((fresh.enter .tagOpen).openTag c).NothingKept := by
  rw [openTag]
  split_ifs
  · exact nothingKept_enter _
  · exact nothingKept_of_not_mem (by simp [outsideTags])
  · exact nothingKept_enter _
  · exact nothingKept_enter _

/-- From outside a tag, a step leads outside again or to the start of a name. -/
lemma nothingKept_next_enter {state : ScanState} (h : state ∈ outsideTags) (c : Char) :
    ((fresh.enter state).next c).NothingKept := by
  simp only [outsideTags, List.mem_cons, List.not_mem_nil, or_false] at h
  rcases h with rfl | rfl | rfl | rfl | rfl
  · simp only [next, enter_state]
    split_ifs <;> exact nothingKept_enter _
  · exact nothingKept_openTag c
  · simp only [next, enter_state]
    split_ifs <;> exact nothingKept_enter _
  · simp only [next, enter_state]
    split_ifs <;> exact nothingKept_enter _
  · exact nothingKept_enter _

/-- A tag is left through its end, where all that was read of it is dropped. -/
lemma nothingKept_next_of_not_mem (h : ctx.state ∉ outsideTags) (c : Char) :
    (ctx.next c).NothingKept := by
  have hstay : ∀ state, state ∉ outsideTags → (ctx.enter state).NothingKept :=
    fun _ hstate => nothingKept_of_not_mem hstate
  cases hstate : ctx.state with
  | text | tagOpen | unsupportedConstruct | beforeComment | comment =>
      exact absurd (by simp [hstate, outsideTags]) h
  | afterElementName | afterAttributeValue | selfClosingTag =>
      simp only [next, hstate]
      exact nothingKept_betweenAttributes ctx c
  | afterAttributeName =>
      simp only [next, hstate]
      split_ifs
      · exact nothingKept_of_not_mem h
      · exact nothingKept_betweenAttributes ctx c
  | attributeName =>
      simp only [next, hstate]
      split_ifs
      · exact hstay _ (by decide)
      · exact nothingKept_betweenAttributes ctx c
      · exact nothingKept_of_not_mem (by simp [outsideTags])
  | elementName =>
      simp only [next, hstate]
      split_ifs
      · exact hstay _ (by decide)
      · exact hstay _ (by decide)
      · exact nothingKept_fresh
      · exact nothingKept_of_not_mem (by simp [outsideTags])
  | beforeAttributeValue =>
      simp only [next, hstate]
      split_ifs
      · exact nothingKept_of_not_mem h
      · exact nothingKept_fresh
      · exact nothingKept_of_not_mem (by simp [outsideTags])
  | attributeValue =>
      simp only [next, hstate]
      split <;> split_ifs
      · exact nothingKept_of_not_mem (by simp [endValue, outsideTags])
      · exact nothingKept_of_not_mem h
      · exact nothingKept_of_not_mem (by simp [endValue, outsideTags])
      · exact nothingKept_fresh
      · exact nothingKept_of_not_mem h

lemma NothingKept.outcome (h : ctx.NothingKept) (c : Char) (rest : List Char) :
    (ctx.outcome c rest).1.NothingKept := by
  rcases outcome_fst_cases ctx c rest with heq | ⟨hstate, state, _, heq⟩
  · rw [heq]
    by_cases hmem : ctx.state ∈ outsideTags
    · rw [h hmem]
      exact nothingKept_next_enter hmem c
    · exact nothingKept_next_of_not_mem hmem c
  · -- a delimiter is found outside tags only, and leads to another state outside
    have hmem : ctx.state ∈ outsideTags := by
      rcases hstate with hstate | hstate <;> simp [hstate, outsideTags]
    rw [heq, h hmem]
    exact nothingKept_enter state

lemma NothingKept.feed (h : ctx.NothingKept) (text : String) : (ctx.feed text).NothingKept :=
  scan_invariant (fun _ c rest hctx => hctx.outcome c rest) h text.toList

end Context

/-- **A document in free text goes on like a new one.** -/
theorem Builder.Reachable.context_eq_fresh {b : Builder} (h : b.Reachable)
    (hstate : b.context.state = .text) : b.context = .fresh := by
  have hnothing : b.context.NothingKept :=
    h.context_invariant Context.nothingKept_fresh fun _ text hctx => hctx.feed text
  exact hnothing.eq_fresh hstate

end SafeMarkup
