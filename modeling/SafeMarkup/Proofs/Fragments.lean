import Mathlib.Data.List.Infix
import SafeMarkup.Proofs.Scan

/-!
# Markup in fragments

Delimiters are recognised within one fragment only, so it can matter where a text is cut.  This
file says when it does not: a cut is harmless unless it falls inside `!--` or `-->`.

* `CutsDelimiter`, `CutsCleanly` — a cut inside one of the two, and fragments without such a cut.
* `outcome_append` — what a step sees of the text behind a clean cut: nothing, save the `>` of
  `</>`.
* `scan_append` — reading across one clean cut.
* **`feedAll_eq_feed_of_cutsCleanly`** — fragments read one after the other leave the scanner where
  the whole text does.
-/

namespace SafeMarkup.Context

variable {ctx : Context} {c : Char} {before after rest : List Char}

/-! ## Cuts -/

/-- The delimiters of comments, as far as the scanner has to look ahead for them. -/
def aheadDelimiters : List (List Char) := [['!', '-', '-'], ['-', '-', '>']]

/-- The cut between two texts falls inside a delimiter: one ends with the first `k` characters of
it, and the other starts with the rest. -/
def CutsDelimiter (before after : List Char) : Prop :=
  ∃ delimiter ∈ aheadDelimiters, ∃ k < delimiter.length, 0 < k ∧
    delimiter.take k <:+ before ∧ delimiter.drop k <+: after

instance : Decidable (CutsDelimiter before after) :=
  inferInstanceAs (Decidable (∃ delimiter ∈ aheadDelimiters, ∃ k < delimiter.length, 0 < k ∧
    delimiter.take k <:+ before ∧ delimiter.drop k <+: after))

/-- None of the cuts between fragments falls inside a delimiter of their common text. -/
def CutsCleanly (fragments : List String) : Prop :=
  ∀ k ≤ fragments.length, ¬ CutsDelimiter (String.join (fragments.take k)).toList
    (String.join (fragments.drop k)).toList

instance (fragments : List String) : Decidable (CutsCleanly fragments) :=
  inferInstanceAs (Decidable (∀ k ≤ fragments.length,
    ¬ CutsDelimiter (String.join (fragments.take k)).toList
      (String.join (fragments.drop k)).toList))

/-- A cut that falls inside a delimiter still does so if there is more text in front of it. -/
lemma CutsDelimiter.of_append (h : CutsDelimiter before after) (more : List Char) :
    CutsDelimiter (more ++ before) after := by
  obtain ⟨delimiter, hmem, k, hk, hpos, hsuffix, hprefix⟩ := h
  exact ⟨delimiter, hmem, k, hk, hpos, hsuffix.trans (List.suffix_append _ _), hprefix⟩

/-- In front of a clean cut a delimiter is there as a whole or not at all. -/
lemma prefix_append_iff_of_clean {delimiter : List Char} (hmem : delimiter ∈ aheadDelimiters)
    (hne : before ≠ []) (hclean : ¬ CutsDelimiter before after) :
    delimiter <+: before ++ after ↔ delimiter <+: before := by
  refine ⟨fun h => ?_, fun h => h.trans (List.prefix_append _ _)⟩
  by_cases hle : delimiter.length ≤ before.length
  · exact List.prefix_of_prefix_length_le h (List.prefix_append _ _) hle
  · obtain ⟨back, rfl⟩ :=
      List.prefix_of_prefix_length_le (List.prefix_append before after) h (by omega)
    refine absurd ⟨_, hmem, before.length, by omega, List.length_pos_iff.mpr hne, ?_, ?_⟩ hclean
    · rw [List.take_left]
    · rw [List.drop_left]
      exact (List.prefix_append_right_inj before).mp h

/-! ## One step in front of a cut -/

/-- What stands behind a cut makes no difference to a step in front of it if it completes no comment
delimiter that the step would look for, unless the two sides are the `/` and the `>` of an end tag
without a name. -/
lemma outcome_append_of_ahead (ctx : Context)
    (hopen : ctx.state = .tagOpen →
      (['!', '-', '-'] <+: c :: (before ++ after) ↔ ['!', '-', '-'] <+: c :: before))
    (hclose : ctx.state = .comment →
      (['-', '-', '>'] <+: c :: (before ++ after) ↔ ['-', '-', '>'] <+: c :: before)) :
    ctx.outcome c (before ++ after) = ctx.outcome c before ∨
      ctx.state = .tagOpen ∧ c = '/' ∧ before = [] ∧ ['>'] <+: after := by
  cases hstate : ctx.state with
  | comment =>
      left
      simp only [outcome, delimiter?, hstate, hclose hstate]
  | tagOpen =>
      by_cases hend : c = '/' ∧ before = [] ∧ ['>'] <+: after
      · exact Or.inr ⟨rfl, hend⟩
      · left
        have hsame : ['/', '>'] <+: c :: (before ++ after) ↔ ['/', '>'] <+: c :: before := by
          cases before with
          | nil =>
              rw [List.cons_prefix_cons, List.cons_prefix_cons]
              constructor
              · rintro ⟨hslash, hafter⟩
                exact absurd ⟨hslash.symm, rfl, hafter⟩ hend
              · rintro ⟨_, hafter⟩
                exact absurd (List.prefix_nil.mp hafter) (List.cons_ne_nil _ _)
          | cons d more => simp only [List.cons_append, List.cons_prefix_cons, List.nil_prefix]
        simp only [outcome, delimiter?, hstate, hopen hstate, hsame]
  | _ =>
      left
      rw [outcome_of_not_ahead (by simp [hstate]) (by simp [hstate]),
        outcome_of_not_ahead (by simp [hstate]) (by simp [hstate])]

/-- What stands behind a clean cut makes no difference to a step in front of it, unless the two
sides are the `/` and the `>` of an end tag without a name. -/
lemma outcome_append (ctx : Context) (hclean : ¬ CutsDelimiter (c :: before) after) :
    ctx.outcome c (before ++ after) = ctx.outcome c before ∨
      ctx.state = .tagOpen ∧ c = '/' ∧ before = [] ∧ ['>'] <+: after :=
  outcome_append_of_ahead ctx
    (fun _ => prefix_append_iff_of_clean (by simp [aheadDelimiters]) (List.cons_ne_nil _ _) hclean)
    (fun _ => prefix_append_iff_of_clean (by simp [aheadDelimiters]) (List.cons_ne_nil _ _) hclean)

/-! ## Whole fragments -/

/-- An end tag without a name comes to plain text, and so do its two characters on their own. -/
lemma scan_slash_scan_close (hstate : ctx.state = .tagOpen) :
    ctx.scan ('/' :: '>' :: rest) = (ctx.scan ['/']).scan ('>' :: rest) := by
  have hnext : ctx.next '/' = ctx.enter .text := by
    simp only [next, hstate]
    rfl
  have hslash : ctx.scan ['/'] = ctx.enter .text := by
    rw [scan, scanFrom_zero_cons]
    simp [outcome, delimiter?, hstate, hnext, scanFrom]
  have hend : ctx.outcome '/' ('>' :: rest) = (ctx.enter .text, 1) := by
    simp [outcome, delimiter?, hstate]
  have hclose : (ctx.enter .text).outcome '>' rest = (ctx.enter .text, 0) := rfl
  calc ctx.scan ('/' :: '>' :: rest)
      = (ctx.enter .text).scan rest := by rw [scan, scanFrom_zero_cons, hend, scanFrom, scan]
    _ = (ctx.enter .text).scan ('>' :: rest) := by rw [scan, scan, scanFrom_zero_cons, hclose]
    _ = (ctx.scan ['/']).scan ('>' :: rest) := by rw [hslash]

lemma scanFrom_append :
    ∀ (before : List Char) (skip : ℕ) (ctx : Context), skip ≤ before.length →
      ¬ CutsDelimiter before after →
      scanFrom skip ctx (before ++ after) = (scanFrom skip ctx before).scan after
  | [], skip, ctx, hle, _ => by
      obtain rfl : skip = 0 := Nat.le_zero.mp hle
      rfl
  | c :: before, skip + 1, ctx, hle, hclean => by
      rw [List.cons_append, scanFrom, scanFrom]
      exact scanFrom_append before skip ctx (Nat.le_of_succ_le_succ hle)
        fun h => hclean (h.of_append [c])
  | c :: before, 0, ctx, _, hclean => by
      -- a delimiter read here ends in front of the cut, so the characters to skip do as well
      rcases outcome_append ctx hclean with h | ⟨hstate, rfl, rfl, hafter⟩
      · rw [List.cons_append, scanFrom_zero_cons, scanFrom_zero_cons, h]
        exact scanFrom_append before _ _ (outcome_snd_le ctx c before)
          fun h => hclean (h.of_append [c])
      · obtain ⟨rest, rfl⟩ := hafter
        exact scan_slash_scan_close hstate

/-- **Reading across a clean cut.** -/
theorem scan_append (hclean : ¬ CutsDelimiter before after) :
    ctx.scan (before ++ after) = (ctx.scan before).scan after :=
  scanFrom_append before 0 ctx (Nat.zero_le _) hclean

lemma getLastD_feedAll : ∀ (fragments : List String) (ctx : Context),
    (ctx.feedAll fragments).getLastD ctx = fragments.foldl feed ctx
  | [], _ => rfl
  | fragment :: rest, ctx => by
      rw [feedAll, List.getLastD_cons, List.foldl_cons]
      exact getLastD_feedAll rest (ctx.feed fragment)

/-- What is left of cleanly cut fragments behind the first is cleanly cut. -/
lemma CutsCleanly.tail {fragment : String} {rest : List String}
    (h : CutsCleanly (fragment :: rest)) : CutsCleanly rest := by
  intro k hk hcuts
  refine h (k + 1) (Nat.succ_le_succ hk) ?_
  rw [List.take_succ_cons, List.drop_succ_cons, String.join_cons, String.toList_append]
  exact hcuts.of_append _

lemma foldl_feed_eq_feed_join : ∀ (fragments : List String) (ctx : Context),
    CutsCleanly fragments → fragments.foldl feed ctx = ctx.feed (String.join fragments)
  | [], _, _ => rfl
  | fragment :: rest, ctx, hclean => by
      have hcut : ¬ CutsDelimiter fragment.toList (String.join rest).toList := by
        simpa using hclean 1 (by simp)
      calc (fragment :: rest).foldl feed ctx
          = (ctx.feed fragment).feed (String.join rest) :=
            foldl_feed_eq_feed_join rest _ hclean.tail
        _ = ctx.feed (String.join (fragment :: rest)) := by
            rw [feed, feed, feed, String.join_cons, String.toList_append, scan_append hcut]

/-- **A text may be cut anywhere but inside a delimiter.**  From whatever context, fragments of a
text that are read one after the other lead to the context, and so to the site, that the whole text
leads to, if no cut falls inside `!--` or `-->`. -/
theorem feedAll_eq_feed_of_cutsCleanly (ctx : Context) (text : String) (fragments : List String)
    (htext : String.join fragments = text) (hclean : CutsCleanly fragments) :
    (ctx.feedAll fragments).getLastD ctx = ctx.feed text ∧
      ((ctx.feedAll fragments).getLastD ctx).site = (ctx.feed text).site := by
  have hsame : (ctx.feedAll fragments).getLastD ctx = ctx.feed text := by
    rw [getLastD_feedAll, foldl_feed_eq_feed_join fragments ctx hclean, htext]
  exact ⟨hsame, by rw [hsame]⟩

/-- The case of a text whose cuts come as close to delimiters as they may, and go through the end
tag without a name. -/
theorem feedAll_eq_feed_around_delimiters :
    let fragments := ["<!--", " a -", "-->", "", "<", "/", "><p a=", "--", " >"]
    let text := "<!-- a ---></><p a=-- >"
    String.join fragments = text ∧ CutsCleanly fragments ∧
      (Context.fresh.feedAll fragments).getLastD Context.fresh = Context.fresh.feed text := by
  refine ⟨by decide, by decide, (feedAll_eq_feed_of_cutsCleanly .fresh _ _ ?_ ?_).1⟩
  all_goals decide

end SafeMarkup.Context
