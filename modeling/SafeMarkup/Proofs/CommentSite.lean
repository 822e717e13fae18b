import Mathlib.Data.List.Infix
import SafeMarkup.Proofs.CommentText
import SafeMarkup.Proofs.Pieces
import SafeMarkup.Proofs.Scan

/-!
# Values inside a comment

A comment has two states.  Behind its first character only `-->` ends it, and that no stripped text
holds.  Before that, hyphens are passed over and a `>` ends the comment, which no stripping takes
out: `<!--` with the value `>` behind it is an empty comment, and what follows is free text.

* `scan_comment` — a text without `-->` does not move the scanner inside a comment.
* `not_inComment_scanFrom` — a comment is only entered through `<!--`.
* `inComment_scan_iff` — what becomes of a comment under a stripped text.
* **`site_comment_iff_not_closesAtOnce`** — exactly when the site behind a value in a comment is
  still the comment.
-/

namespace SafeMarkup

namespace Context

variable {ctx : Context} {c : Char} {text : List Char}

/-- The scanner stands in a comment, be it before the text of the comment. -/
def InComment (ctx : Context) : Prop := ctx.state = .beforeComment ∨ ctx.state = .comment

lemma site_kind_eq_comment_iff : ctx.site.kind = .comment ↔ ctx.InComment := by
  unfold site InComment
  cases ctx.state <;> simp [Site.inTag, Site.inValue, Site.comment, Site.text]

/-! ## Inside -/

/-- Inside a comment a text without `-->` leaves the scanner as it is. -/
lemma scan_comment (h : ctx.state = .comment) :
    ∀ {text : List Char}, ¬ commentClose <:+: text → ctx.scan text = ctx
  | [], _ => rfl
  | c :: rest, hno => by
      have hstay : ctx.outcome c rest = (ctx, 0) := by
        have hhead : ¬ ['-', '-', '>'] <+: c :: rest := fun hp => hno hp.isInfix
        simp only [outcome, delimiter?, next, h, if_neg hhead, Option.getD_none]
      rw [scan, scanFrom_zero_cons, hstay]
      exact scan_comment h fun hrest => hno (hrest.trans (List.suffix_cons c rest).isInfix)

/-- Inside a comment a stripped text leaves the scanner as it is. -/
lemma feed_stripDelimiters (h : ctx.state = .comment) (s : String) :
    ctx.feed (stripDelimiters s) = ctx := by
  rw [feed, stripDelimiters, String.toList_ofList]
  exact scan_comment h (not_infix_stripDelimiterChars (by simp [commentDelimiters]) _)

/-! ## Outside -/

/-- The transition by one character never enters a comment. -/
lemma not_inComment_next (h : ¬ ctx.InComment) : ¬ (ctx.next c).InComment := by
  obtain ⟨hbefore, hcomment⟩ := not_or.mp h
  cases hstate : ctx.state with
  | beforeComment => exact absurd hstate hbefore
  | comment => exact absurd hstate hcomment
  | attributeValue =>
      simp only [next, hstate]
      split <;> split_ifs <;> simp [InComment, endValue, fresh, hstate]
  | _ =>
      simp only [next, hstate, openTag, betweenAttributes]
      split_ifs <;> simp [InComment, fresh, hstate]

/-- Only `<` opens a tag. -/
lemma eq_of_next_state_tagOpen (h : (ctx.next c).state = .tagOpen) : c = '<' := by
  cases hstate : ctx.state with
  | attributeValue =>
      simp only [next, hstate] at h
      split at h <;> split_ifs at h <;> simp [endValue, fresh, hstate] at h
  | comment => simp [next, hstate] at h
  | _ =>
      simp only [next, hstate, openTag, betweenAttributes] at h
      split_ifs at h <;> simp_all [fresh]

/-- **A comment is only entered through its opening delimiter.** -/
lemma not_inComment_scanFrom : ∀ (text : List Char) (skip : ℕ) (ctx : Context), ¬ ctx.InComment →
    (ctx.state = .tagOpen → skip = 0 ∧ ¬ ['!', '-', '-'] <+: text) →
    ¬ commentOpen <:+: text → ¬ (scanFrom skip ctx text).InComment
  | [], _, _, hctx, _, _ => hctx
  | c :: rest, skip + 1, ctx, hctx, htag, hopen => by
      rw [scanFrom]
      exact not_inComment_scanFrom rest skip ctx hctx (fun h => absurd (htag h).1 (by simp))
        fun h => hopen (h.trans (List.suffix_cons c rest).isInfix)
  | c :: rest, 0, ctx, hctx, htag, hopen => by
      have hrest : ¬ commentOpen <:+: rest :=
        fun h => hopen (h.trans (List.suffix_cons c rest).isInfix)
      rw [scanFrom_zero_cons]
      rcases outcome_cases ctx c rest with h | ⟨hstate, hp, _⟩ | ⟨_, _, h⟩ | ⟨hstate, _⟩
      · rw [h]
        refine not_inComment_scanFrom rest 0 _ (not_inComment_next hctx) (fun hnext => ?_) hrest
        refine ⟨rfl, fun hp => hopen ?_⟩
        rw [eq_of_next_state_tagOpen hnext]
        exact (List.cons_prefix_cons.mpr ⟨rfl, hp⟩).isInfix
      · exact absurd hp (htag hstate).2
      · rw [h]
        exact not_inComment_scanFrom rest 1 _ (by simp [InComment]) (by simp) hrest
      · exact absurd (Or.inr hstate) hctx

/-! ## Before the first character of a comment -/

/-- A text that ends a comment before it has started. -/
def ClosesAtOnce (text : List Char) : Prop := ['>'] <+: text ∨ ['-', '>'] <+: text

instance : Decidable (ClosesAtOnce text) :=
  inferInstanceAs (Decidable (['>'] <+: text ∨ ['-', '>'] <+: text))

lemma outcome_beforeComment (h : ctx.state = .beforeComment) (rest : List Char) :
    ctx.outcome c rest
      = (if c = '-' then ctx else if c = '>' then ctx.enter .text else ctx.enter .comment, 0) := by
  rw [outcome_of_not_ahead (by simp [h]) (by simp [h])]
  simp only [next, h]

lemma inComment_scan_beforeComment (h : ctx.state = .beforeComment) :
    ∀ {text : List Char}, ¬ ClosesAtOnce text → ¬ commentClose <:+: text →
      (ctx.scan text).InComment
  | [], _, _ => Or.inl h
  | c :: rest, hkeep, hclose => by
      have hrest : ¬ commentClose <:+: rest :=
        fun hp => hclose (hp.trans (List.suffix_cons c rest).isInfix)
      rw [scan, scanFrom_zero_cons, outcome_beforeComment h]
      by_cases hhyphen : c = '-'
      · -- a hyphen changes nothing, and neither may the text behind it close at once
        rw [if_pos hhyphen]
        subst hhyphen
        refine inComment_scan_beforeComment h (fun hends => ?_) hrest
        rcases hends with hp | hp
        · exact hkeep (Or.inr (List.cons_prefix_cons.mpr ⟨rfl, hp⟩))
        · exact hclose (List.cons_prefix_cons.mpr ⟨rfl, hp⟩).isInfix
      · have hnot : c ≠ '>' := by
          rintro rfl
          exact hkeep (Or.inl (by simp))
        rw [if_neg hhyphen, if_neg hnot]
        refine Or.inr ?_
        rw [show scanFrom 0 (ctx.enter .comment) rest = ctx.enter .comment from
          scan_comment (enter_state ctx _) hrest]
        rfl

lemma not_inComment_scan_of_closesAtOnce (h : ctx.state = .beforeComment)
    (hends : ClosesAtOnce text) (hopen : ¬ commentOpen <:+: text) :
    ¬ (ctx.scan text).InComment := by
  -- what is left of the text behind the `>` is read as free text
  have hfree : ∀ rest, rest <:+ text → ¬ (scanFrom 0 (ctx.enter .text) rest).InComment :=
    fun rest hrest => not_inComment_scanFrom rest 0 _ (by simp [InComment]) (by simp)
      fun hp => hopen (hp.trans hrest.isInfix)
  rcases hends with ⟨rest, rfl⟩ | ⟨rest, rfl⟩
  · have hstep : ctx.scan (['>'] ++ rest) = scanFrom 0 (ctx.enter .text) rest := by
      rw [List.singleton_append, scan, scanFrom_zero_cons, outcome_beforeComment h]
      rfl
    rw [hstep]
    exact hfree rest (List.suffix_append _ _)
  · have hstep : ctx.scan (['-', '>'] ++ rest) = scanFrom 0 (ctx.enter .text) rest := by
      rw [List.cons_append, List.singleton_append, scan, scanFrom_zero_cons,
        outcome_beforeComment h, if_pos rfl, scanFrom_zero_cons, outcome_beforeComment h]
      rfl
    rw [hstep]
    exact hfree rest (List.suffix_append _ _)

/-- What becomes of a comment under a stripped text. -/
lemma inComment_scan_iff (h : ctx.InComment) (hopen : ¬ commentOpen <:+: text)
    (hclose : ¬ commentClose <:+: text) :
    (ctx.scan text).InComment ↔ ¬ (ctx.state = .beforeComment ∧ ClosesAtOnce text) := by
  rcases h with hbefore | hcomment
  · constructor
    · rintro hin ⟨_, hends⟩
      exact not_inComment_scan_of_closesAtOnce hbefore hends hopen hin
    · intro hkeep
      exact inComment_scan_beforeComment hbefore (fun hends => hkeep ⟨hbefore, hends⟩) hclose
  · rw [scan_comment hcomment hclose]
    exact iff_of_true (Or.inr hcomment) fun hends => by simp [hcomment] at hends

end Context

namespace Builder

variable {b : Builder}

/-- A value is stripped for a comment, and so is a text that is marked as a comment. -/
lemma add_value_of_comment (hsite : b.site.kind = .comment) {v : Value}
    (hraw : ∀ raw, v ≠ .unescaped raw) :
    ∃ piece, b.add (.value v) = .ok (b.addResolved piece) ∧
      piece.resolvedText b.config b.site = stripDelimiters v.commentText := by
  by_cases hmarked : ∃ text, v = .comment text
  · obtain ⟨text, rfl⟩ := hmarked
    refine ⟨.comment text, add_value_comment text, ?_⟩
    simp [Piece.resolvedText, renderComment, hsite, Value.commentText]
  · have hplain : ∀ text, v ≠ .comment text := fun text h => hmarked ⟨text, h⟩
    have htext : v.commentText = v.written := by
      unfold Value.commentText
      split
      · exact absurd rfl (hplain _)
      · rfl
    refine ⟨.value v, add_value ⟨hraw, hplain⟩, ?_⟩
    simp [Piece.resolvedText, renderAt, renderComment, hsite, htext]

/-- What becomes of the comment under a stripped text. -/
lemma site_addResolved_comment_iff (hsite : b.site.kind = .comment) {piece : Piece} {text : String}
    (hpiece : piece.resolvedText b.config b.site = stripDelimiters text) :
    (b.addResolved piece).site.kind = .comment ↔
      ¬ (b.context.state = .beforeComment ∧
        Context.ClosesAtOnce (stripDelimiterChars text.toList)) := by
  have hcomment : b.context.InComment := Context.site_kind_eq_comment_iff.mp hsite
  rw [site, addResolved_context, hpiece, stripDelimiters, Context.feed, String.toList_ofList,
    Context.site_kind_eq_comment_iff]
  exact Context.inComment_scan_iff hcomment
    (not_infix_stripDelimiterChars (by simp [commentDelimiters]) _)
    (not_infix_stripDelimiterChars (by simp [commentDelimiters]) _)

/-- **When a comment survives a value.**  A value, and likewise a text that is appended as a
comment, leaves a comment that it is put into open exactly if not both of this hold: the comment
has not started yet, and the stripped text starts with `>` or `->`. -/
theorem site_comment_iff_not_closesAtOnce (b : Builder) (hsite : b.site.kind = .comment) :
    (∀ v : Value, (∀ raw, v ≠ .unescaped raw) →
      ∃ after, b.add (.value v) = .ok after ∧
        (after.site.kind = .comment ↔
          ¬ (b.context.state = .beforeComment ∧
            Context.ClosesAtOnce (stripDelimiterChars v.commentText.toList)))) ∧
    (∀ text : String,
      ∃ after, b.add (.comment text) = .ok after ∧
        (after.site.kind = .comment ↔
          ¬ (b.context.state = .beforeComment ∧
            Context.ClosesAtOnce (stripDelimiterChars text.toList)))) := by
  constructor
  · intro v hraw
    obtain ⟨piece, hadd, hpiece⟩ := add_value_of_comment hsite hraw
    exact ⟨_, hadd, site_addResolved_comment_iff hsite hpiece⟩
  · intro text
    have hpiece : (Piece.comment text).resolvedText b.config b.site = stripDelimiters text := by
      simp [Piece.resolvedText, renderComment, hsite]
    exact ⟨_, add_comment text, site_addResolved_comment_iff hsite hpiece⟩

/-- Right behind the opening delimiter, where the text `a>b` and the value `--!>>` come to. -/
theorem site_comment_behind_opening :
    let opened := ((start .default).addAll [.literal "<!--"]).1
    opened.site.kind = .comment ∧
      (∃ after, opened.add (.comment "a>b") = .ok after ∧ after.site.kind = .comment) ∧
      ∃ after, opened.add (.value (.str "--!>>")) = .ok after ∧ after.site.kind ≠ .comment := by
  intro opened
  have hsite : opened.site.kind = .comment := by decide +kernel
  obtain ⟨hvalues, hcomments⟩ := site_comment_iff_not_closesAtOnce opened hsite
  obtain ⟨open₁, hadd₁, hopen₁⟩ := hcomments "a>b"
  obtain ⟨open₂, hadd₂, hopen₂⟩ := hvalues (.str "--!>>") (by simp)
  refine ⟨hsite, ⟨open₁, hadd₁, hopen₁.mpr ?_⟩, open₂, hadd₂, fun h => hopen₂.mp h ?_⟩
  all_goals decide +kernel

/-- The value `>` right behind the opening delimiter ends the comment. -/
theorem value_closes_comment_at_once :
    let opened := ((start .default).addAll [.literal "<!--"]).1
    let behind := ((start .default).addAll [.literal "<!--", .value (.str ">")]).1
    opened.site = .comment ∧ behind.document = "<!-->" ∧ behind.site = .text := by
  decide +kernel

end Builder

end SafeMarkup
