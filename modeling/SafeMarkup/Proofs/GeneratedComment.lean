import SafeMarkup.Proofs.CommentEnd
import SafeMarkup.Proofs.FreeText

/-!
# Comments that a document brings itself

In free text a text that is marked as a comment is stripped, and put between an opening and a
closing delimiter with a blank on either side.  No delimiter holds a blank.  So whatever the text
was, a delimiter of the whole lies in front of the first of the two blanks, between them, or behind
the second; and between them there is none.

* `wrapped`, `eq_of_prefix_drop_wrapped` — the comment, and the only delimiters in it.
* `Context.OneComment` — a text that is one comment, for a reader and for the scanner.
* **`Builder.add_comment_oneComment`** — the three ways to write a comment in free text add one.
-/

namespace SafeMarkup

section

variable {inner delimiter : List Char} {i : ℕ}

/-! ## The comment -/

/-- A text between the delimiters of a comment, with a blank on either side. -/
def wrapped (inner : List Char) : List Char :=
  commentOpen ++ ' ' :: (inner ++ ' ' :: commentClose)

lemma delimiter_shape : ∀ delimiter ∈ commentDelimiters, ' ' ∉ delimiter ∧ delimiter ≠ [] := by
  decide +kernel

/-- In the opening delimiter there is only itself. -/
lemma eq_of_prefix_drop_commentOpen : ∀ delimiter ∈ commentDelimiters, ∀ i < 5,
    delimiter <+: commentOpen.drop i → delimiter = commentOpen ∧ i = 0 := by
  decide +kernel

/-- In the closing delimiter there is only itself. -/
lemma eq_of_prefix_drop_commentClose : ∀ delimiter ∈ commentDelimiters, ∀ i < 4,
    delimiter <+: commentClose.drop i → delimiter = commentClose ∧ i = 0 := by
  decide +kernel

/-- **The only delimiters of a comment** are those at its two ends. -/
lemma eq_of_prefix_drop_wrapped (hfree : ∀ delimiter ∈ commentDelimiters, ¬ delimiter <:+: inner)
    (hmem : delimiter ∈ commentDelimiters) (h : delimiter <+: (wrapped inner).drop i) :
    delimiter = commentOpen ∧ i = 0 ∨
      delimiter = commentClose ∧ i + commentClose.length = (wrapped inner).length := by
  obtain ⟨hblank, hne⟩ := delimiter_shape delimiter hmem
  have hpos : 0 < delimiter.length := List.length_pos_of_ne_nil hne
  rcases prefix_drop_of_not_mem hblank hne h with hfront | ⟨j, rfl, hbehind⟩
  · left
    have hle := hfront.length_le
    rw [List.length_drop] at hle
    refine eq_of_prefix_drop_commentOpen delimiter hmem i ?_ hfront
    have hopen : commentOpen.length = 4 := rfl
    omega
  rcases prefix_drop_of_not_mem hblank hne hbehind with hinner | ⟨k, rfl, hback⟩
  · exact absurd (hinner.isInfix.trans (List.drop_suffix j inner).isInfix) (hfree delimiter hmem)
  · right
    have hle := hback.length_le
    rw [List.length_drop] at hle
    have hclose : commentClose.length = 3 := rfl
    obtain ⟨heq, rfl⟩ := eq_of_prefix_drop_commentClose delimiter hmem k (by omega) hback
    refine ⟨heq, ?_⟩
    simp only [wrapped, List.length_append, List.length_cons]
    omega

end

namespace Context

variable {ctx : Context} {text inner : List Char}

/-- A text is one comment.  For a reader its only delimiters are those at its ends.  The scanner is
in the comment wherever it is between these, be it on the way through the text or at the end of a
part of it, and behind the text it is where it was. -/
structure OneComment (ctx : Context) (text : List Char) : Prop where
  opens : commentOpen <+: text
  closes : commentClose <:+ text
  only : ∀ delimiter ∈ commentDelimiters, ∀ i, delimiter <+: text.drop i →
    delimiter = commentOpen ∧ i = 0 ∨
      delimiter = commentClose ∧ i + commentClose.length = text.length
  /-- One context behind `<`, one behind the opening delimiter and behind every character up to the
  closing one, and one behind that. -/
  trail : ∃ within, ctx.trail text = ctx.enter .tagOpen :: (within ++ [ctx]) ∧
    (∀ mid ∈ within, mid.InComment) ∧
    within.length + commentOpen.length + commentClose.length = text.length + 1
  part : ∀ front, commentOpen <+: front → front <+: text →
    front.length + commentClose.length ≤ text.length → (ctx.scan front).InComment
  behind : ctx.scan text = ctx

/-- Between the blanks no closing delimiter starts. -/
lemma not_prefix_drop_of_wrapped (hfree : ∀ delimiter ∈ commentDelimiters, ¬ delimiter <:+: inner) :
    ∀ i < (inner ++ [' ']).length,
      ¬ commentClose <+: ((inner ++ [' ']) ++ (commentClose ++ [])).drop i := by
  intro i hi hoccurs
  have hwhole : wrapped inner
      = (commentOpen ++ [' ']) ++ ((inner ++ [' ']) ++ (commentClose ++ [])) := by
    simp [wrapped]
  have hdrop : (wrapped inner).drop ((commentOpen ++ [' ']).length + i)
      = ((inner ++ [' ']) ++ (commentClose ++ [])).drop i := by
    rw [hwhole, List.drop_length_add_append]
  rw [← hdrop] at hoccurs
  rcases eq_of_prefix_drop_wrapped hfree (by decide) hoccurs with ⟨heq, -⟩ | ⟨-, hlength⟩
  · exact absurd heq (by decide)
  · simp only [wrapped, List.length_append, List.length_cons, List.length_nil] at hi hlength
    omega

/-- The way through a comment. -/
lemma trail_wrapped (h : ctx.state = .text)
    (hfree : ∀ delimiter ∈ commentDelimiters, ¬ delimiter <:+: inner) :
    ctx.trail (wrapped inner) = ctx.enter .tagOpen ::
      ((ctx.enter .beforeComment :: List.replicate (inner.length + 2) (ctx.enter .comment))
        ++ [ctx]) := by
  have hbefore : (ctx.enter .beforeComment).state = .beforeComment := rfl
  have hcomment : (ctx.enter .comment).state = .comment := rfl
  have hblank : (ctx.enter .beforeComment).next ' ' = ctx.enter .comment :=
    next_blank_of_beforeComment hbefore
  have hback : (ctx.enter .comment).enter .text = ctx := by
    rw [← enter_self h]
    rfl
  have htext : inner ++ ' ' :: commentClose = (inner ++ [' ']) ++ (commentClose ++ []) := by simp
  rw [wrapped, trail_commentOpen h, trail_cons (by simp) (by simp), hblank, htext,
    trail_comment_append hcomment (not_prefix_drop_of_wrapped hfree),
    trail_commentClose hcomment, hback, List.length_append]
  rfl

/-- A part of a comment in front of its end holds no closing delimiter. -/
lemma not_infix_commentClose_of_part {front : List Char}
    (hfree : ∀ delimiter ∈ commentDelimiters, ¬ delimiter <:+: inner)
    (hfront : front <+: wrapped inner)
    (hlength : front.length + commentClose.length ≤ (wrapped inner).length) :
    ¬ commentClose <:+: front := by
  rintro ⟨before, after, rfl⟩
  obtain ⟨rest, hrest⟩ := hfront
  have hoccurs : commentClose <+: (wrapped inner).drop before.length := by
    rw [← hrest, List.append_assoc, List.append_assoc, List.drop_left]
    exact List.prefix_append _ _
  rcases eq_of_prefix_drop_wrapped hfree (by decide) hoccurs with ⟨heq, -⟩ | ⟨-, hend⟩
  · exact absurd heq (by decide)
  · have hpos : 0 < commentClose.length := by decide
    simp only [List.length_append] at hlength
    omega

/-- Behind a part of a comment that has been opened, and not closed, the scanner is in it. -/
lemma inComment_scan_of_part {front : List Char} (h : ctx.state = .text)
    (hfree : ∀ delimiter ∈ commentDelimiters, ¬ delimiter <:+: inner)
    (hopens : commentOpen <+: front) (hfront : front <+: wrapped inner)
    (hlength : front.length + commentClose.length ≤ (wrapped inner).length) :
    (ctx.scan front).InComment := by
  have hclose := not_infix_commentClose_of_part hfree hfront hlength
  obtain ⟨middle, rfl⟩ := hopens
  have hmiddle : middle <+: ' ' :: (inner ++ ' ' :: commentClose) :=
    (List.prefix_append_right_inj _).mp hfront
  -- what stands first behind the opening delimiter, if anything, is the blank
  have hkeep : ¬ ClosesAtOnce middle := by
    rintro (hends | hends)
    · exact absurd (List.cons_prefix_cons.mp (hends.trans hmiddle)).1 (by decide)
    · exact absurd (List.cons_prefix_cons.mp (hends.trans hmiddle)).1 (by decide)
  rw [scan_commentOpen h]
  exact inComment_scan_beforeComment rfl hkeep
    fun hin => hclose (hin.trans (List.suffix_append _ _).isInfix)

/-- **A text without delimiters makes one comment.** -/
lemma oneComment_wrapped (h : ctx.state = .text)
    (hfree : ∀ delimiter ∈ commentDelimiters, ¬ delimiter <:+: inner) :
    ctx.OneComment (wrapped inner) := by
  have htrail := trail_wrapped h hfree
  have hlast : ctx.scan (wrapped inner) = ctx := by
    rw [← getLastD_trail, htrail, ← List.cons_append, List.getLastD_concat]
  have hcloses : commentOpen ++ ' ' :: (inner ++ [' ']) ++ commentClose = wrapped inner := by
    simp [wrapped]
  refine ⟨List.prefix_append _ _, ⟨_, hcloses⟩,
    fun delimiter hmem i => eq_of_prefix_drop_wrapped hfree hmem, ⟨_, htrail, ?_, ?_⟩,
    fun front hopens hfront hlength => inComment_scan_of_part h hfree hopens hfront hlength, hlast⟩
  · intro mid hmid
    rcases List.mem_cons.mp hmid with rfl | hmid
    · exact Or.inl rfl
    · rw [List.eq_of_mem_replicate hmid]
      exact Or.inr rfl
  · simp only [wrapped, List.length_append, List.length_cons, List.length_replicate]
    omega

end Context

/-! ## The three ways to write a comment -/

namespace Builder

variable {b : Builder} {piece : Piece} {text : String}

/-- The builder `after` is `b` with a comment that holds a text behind it. -/
structure AddsComment (b after : Builder) (text : String) : Prop where
  document : after.document = b.document ++ ("<!-- " ++ stripDelimiters text ++ " -->")
  oneComment : b.context.OneComment ("<!-- " ++ stripDelimiters text ++ " -->").toList
  context : after.context = b.context

lemma renderComment_of_text {site : Site} (hsite : site.kind = .text) (text : String) :
    renderComment text site = "<!-- " ++ stripDelimiters text ++ " -->" := by
  have hother : site.kind ≠ .comment := by
    rw [hsite]
    decide
  simp only [renderComment, if_neg hother]

/-- In free text a piece that comes to a comment adds one. -/
lemma addsComment_of_resolve (hstate : b.context.state = .text)
    (hresolve : piece.resolve = .ok (.comment text)) :
    ∃ after, b.add piece = .ok after ∧ b.AddsComment after text := by
  have hsite : b.site.kind = .text := by
    simp only [site, Context.site, hstate]
    rfl
  have hadded : (Piece.comment text).resolvedText b.config b.site
      = "<!-- " ++ stripDelimiters text ++ " -->" := renderComment_of_text hsite text
  have hchars : ("<!-- " ++ stripDelimiters text ++ " -->").toList
      = wrapped (stripDelimiterChars text.toList) := by
    simp [wrapped, commentOpen, commentClose, toList_stripDelimiters]
  have hone : b.context.OneComment ("<!-- " ++ stripDelimiters text ++ " -->").toList := by
    rw [hchars]
    exact Context.oneComment_wrapped hstate
      fun delimiter hmem => not_infix_stripDelimiterChars hmem _
  refine ⟨b.addResolved (.comment text), by rw [add, hresolve]; rfl, ?_, hone, ?_⟩
  · rw [addResolved_document, hadded]
  · rw [addResolved_context, hadded, Context.feed]
    exact hone.behind

/-- **A comment in free text is one comment.**  Text appended as a comment, a value marked as one,
and a field that asks for one, whatever conversion it has, all add the stripped text between
delimiters.  These are the only delimiters of what is added, the scanner is in the comment between
them, and behind the comment it is where it was, at the start of free text. -/
theorem add_comment_oneComment (hb : b.Reachable) (hstate : b.context.state = .text) :
    b.context = .fresh ∧
    (∀ text, ∃ after, b.add (.comment text) = .ok after ∧ b.AddsComment after text) ∧
    (∀ text, ∃ after, b.add (.value (.comment text)) = .ok after ∧ b.AddsComment after text) ∧
    ∀ v conversion converted, convertValue conversion v = .ok converted →
      ∃ after, b.add (.field v conversion "comment") = .ok after ∧
        b.AddsComment after converted.written := by
  refine ⟨hb.context_eq_fresh hstate, fun text => addsComment_of_resolve hstate rfl,
    fun text => addsComment_of_resolve hstate rfl, fun v conversion converted hconvert => ?_⟩
  refine addsComment_of_resolve hstate ?_
  simp [Piece.resolve, resolveField, hconvert, bind, Except.bind, pure, Except.pure, Except.map]

/-- A text with delimiters inside of delimiters, and the display of a text that is a comment. -/
theorem add_comment_oneComment_of_delimiters :
    let b := ((start .default).addAll [.literal "<p>"]).1
    b.Reachable ∧ b.context.state = .text ∧
      (∃ after, b.add (.comment "a<!-<!---->b--!-->>") = .ok after ∧
        after.document = "<p><!-- a<!-b -->" ∧ after.context = .fresh) ∧
      ∃ after, b.add (.field (.str "<!-- x -->") (some "r") "comment") = .ok after ∧
        after.document = "<p><!-- ' x ' -->" ∧ after.context = .fresh := by
  intro b
  have hb : b.Reachable := reachable_addAll .default [.literal "<p>"]
  have hstate : b.context.state = .text := by decide +kernel
  obtain ⟨hfresh, htexts, -, hfields⟩ := add_comment_oneComment hb hstate
  obtain ⟨after₁, hadd₁, hcomment₁⟩ := htexts "a<!-<!---->b--!-->>"
  obtain ⟨after₂, hadd₂, hcomment₂⟩ := hfields (.str "<!-- x -->") (some "r") _ rfl
  refine ⟨hb, hstate, ⟨after₁, hadd₁, ?_, hcomment₁.context.trans hfresh⟩,
    after₂, hadd₂, ?_, hcomment₂.context.trans hfresh⟩
  · rw [hcomment₁.document]
    decide +kernel
  · rw [hcomment₂.document]
    decide +kernel

end Builder

end SafeMarkup
