import Mathlib.Data.Nat.Find
import SafeMarkup.Proofs.CommentBorder

/-!
# Where a comment ends

What is put into a comment loses both delimiters that end one for a reader, `-->` and `--!>`.  The
scanner takes only the first for the end.  So behind a comment that ends with `--!>` it is still
inside, and a value there is written for the comment, that is without any escaping.

* `trail_comment_append` — a comment goes on as long as no `-->` starts.
* `trail_commentOpen` — the way into a comment, and `trail_commentClose`, the way out of it.
* `scan_comment_append_close` — the comment ends at the first `-->`.
* `IsFirstEnd` — the shortest beginning of a text that ends a comment for a reader;
  `exists_isFirstEnd` says that there is one where either delimiter occurs.
* **`feed_firstEnd`** — where the scanner stands behind it, and how a value is written there.
-/

namespace SafeMarkup

namespace Context

variable {ctx mid : Context} {c : Char} {rest text : List Char}

/-! ## The way through a comment -/

lemma trailFrom_zero_cons (ctx : Context) (c : Char) (rest : List Char) :
    trailFrom 0 ctx (c :: rest)
      = (ctx.outcome c rest).1 :: trailFrom (ctx.outcome c rest).2 (ctx.outcome c rest).1 rest := by
  rw [trailFrom, step_eq]

/-- Where the way through a text goes on as the way through a rest of it, so does reading. -/
lemma scan_eq_of_trail_eq {passed : List Context}
    (h : ctx.trail text = passed ++ mid :: mid.trail rest) : ctx.scan text = mid.scan rest := by
  rw [← getLastD_trail, ← getLastD_trail, h, List.getLastD_eq_getLast?, List.getLastD_eq_getLast?,
    List.getLast?_append_cons, List.getLast?_cons, Option.getD_some]

/-- A comment goes on over characters at which no `-->` starts. -/
lemma trail_comment_append (h : ctx.state = .comment) : ∀ {text : List Char},
    (∀ i < text.length, ¬ commentClose <+: (text ++ rest).drop i) →
      ctx.trail (text ++ rest) = List.replicate text.length ctx ++ ctx.trail rest
  | [], _ => rfl
  | c :: text, hnone => by
      have hhead : ¬ ['-', '-', '>'] <+: c :: (text ++ rest) := hnone 0 (Nat.zero_lt_succ _)
      have hstay : ctx.outcome c (text ++ rest) = (ctx, 0) := by
        simp only [outcome, delimiter?, next, h, if_neg hhead, Option.getD_none]
      have htail : ctx.trail (text ++ rest) = List.replicate text.length ctx ++ ctx.trail rest :=
        trail_comment_append h fun i hi => hnone (i + 1) (Nat.succ_lt_succ hi)
      rw [List.cons_append, trail, trailFrom_zero_cons, hstay, ← trail, htail]
      rfl

/-- The closing delimiter is read in one step, and leads to free text. -/
lemma trail_commentClose (h : ctx.state = .comment) (rest : List Char) :
    ctx.trail (commentClose ++ rest) = ctx.enter .text :: (ctx.enter .text).trail rest := by
  have hclose : ctx.outcome '-' ('-' :: '>' :: rest) = (ctx.enter .text, 2) := by
    simp [outcome, delimiter?, h]
  have htext : commentClose ++ rest = '-' :: '-' :: '>' :: rest := rfl
  rw [htext, trail, trailFrom_zero_cons, hclose]
  rfl

/-- Behind `<` the rest of the opening delimiter is read in one step. -/
lemma outcome_openHyphens (h : ctx.state = .tagOpen) (rest : List Char) :
    ctx.outcome '!' ('-' :: '-' :: rest) = (ctx.enter .beforeComment, 2) := by
  simp [outcome, delimiter?, h]

/-- The opening delimiter is read in two steps, the first of which is over its `<`. -/
lemma trail_commentOpen (h : ctx.state = .text) (rest : List Char) :
    ctx.trail (commentOpen ++ rest) = [ctx.enter .tagOpen] ++
      ctx.enter .beforeComment :: (ctx.enter .beforeComment).trail rest := by
  have hopen : ctx.outcome '<' ('!' :: '-' :: '-' :: rest) = (ctx.enter .tagOpen, 0) := by
    simp [outcome, delimiter?, next, h]
  have hhyphens : (ctx.enter .tagOpen).outcome '!' ('-' :: '-' :: rest)
      = (ctx.enter .beforeComment, 2) := outcome_openHyphens rfl rest
  have htext : commentOpen ++ rest = '<' :: '!' :: '-' :: '-' :: rest := rfl
  rw [htext, trail, trailFrom_zero_cons, hopen, trailFrom_zero_cons, hhyphens]
  rfl

/-- A blank behind the opening delimiter starts the comment. -/
lemma next_blank_of_beforeComment (h : ctx.state = .beforeComment) :
    ctx.next ' ' = ctx.enter .comment := by
  simp [next, h]

/-- **A comment ends at the first** `-->`. -/
lemma scan_comment_append_close (h : ctx.state = .comment)
    (hnone : ∀ i < text.length, ¬ commentClose <+: (text ++ (commentClose ++ rest)).drop i) :
    ctx.scan (text ++ (commentClose ++ rest)) = (ctx.enter .text).scan rest := by
  have htrail : ctx.trail (text ++ (commentClose ++ rest))
      = List.replicate text.length ctx ++ ctx.enter .text :: (ctx.enter .text).trail rest := by
    rw [trail_comment_append h hnone, trail_commentClose h]
  exact scan_eq_of_trail_eq htrail

lemma scan_commentOpen (h : ctx.state = .text) (rest : List Char) :
    ctx.scan (commentOpen ++ rest) = (ctx.enter .beforeComment).scan rest :=
  scan_eq_of_trail_eq (trail_commentOpen h rest)

/-- Behind `<!--` and a blank the scanner is in the comment. -/
lemma scan_commentOpen_blank (h : ctx.state = .text) (rest : List Char) :
    ctx.scan (commentOpen ++ ' ' :: rest) = (ctx.enter .comment).scan rest := by
  have hbefore : (ctx.enter .beforeComment).state = .beforeComment := rfl
  rw [scan_commentOpen h, scan_cons (by simp) (by simp), next_blank_of_beforeComment hbefore]
  rfl

end Context

/-! ## The first end -/

/-- A text that ends with a closing delimiter. -/
def EndsWithCloser (text : List Char) : Prop := ∃ closer ∈ closers, closer <:+ text

instance (text : List Char) : Decidable (EndsWithCloser text) :=
  inferInstanceAs (Decidable (∃ closer ∈ closers, closer <:+ text))

/-- The shortest beginning of a text that ends with a closing delimiter. -/
structure IsFirstEnd (text front : List Char) : Prop where
  isPrefix : front <+: text
  endsWithCloser : EndsWithCloser front
  shortest : ∀ other, other <+: text → EndsWithCloser other → front.length ≤ other.length

instance (text front : List Char) : Decidable (IsFirstEnd text front) :=
  decidable_of_iff (front <+: text ∧ EndsWithCloser front ∧
      ∀ other ∈ text.inits, EndsWithCloser other → front.length ≤ other.length)
    ⟨fun ⟨hfront, hends, hall⟩ =>
      ⟨hfront, hends, fun other hother => hall other ((List.mem_inits _ _).mpr hother)⟩,
    fun h => ⟨h.isPrefix, h.endsWithCloser,
      fun other hother => h.shortest other ((List.mem_inits _ _).mp hother)⟩⟩

section

variable {text front closer : List Char} {i : ℕ}

/-- Where a closing delimiter occurs, there is a first end. -/
lemma exists_isFirstEnd (h : ∃ closer ∈ closers, closer <:+: text) :
    ∃ front, IsFirstEnd text front := by
  have hends : ∃ n, EndsWithCloser (text.take n) := by
    obtain ⟨closer, hmem, before, after, rfl⟩ := h
    refine ⟨(before ++ closer).length, closer, hmem, ?_⟩
    rw [List.take_left]
    exact List.suffix_append _ _
  refine ⟨text.take (Nat.find hends), List.take_prefix _ _, Nat.find_spec hends,
    fun other hother hcloser => ?_⟩
  rw [List.prefix_iff_eq_take.mp hother] at hcloser
  have hfirst : Nat.find hends ≤ other.length := Nat.find_min' hends hcloser
  rw [List.length_take]
  omega

/-- In front of the first end no closing delimiter is complete. -/
lemma IsFirstEnd.not_prefix_drop (h : IsFirstEnd text front) (hmem : closer ∈ closers)
    (hi : i + closer.length < front.length) : ¬ closer <+: front.drop i := by
  intro hoccurs
  have hends : EndsWithCloser (front.take (i + closer.length)) := by
    refine ⟨closer, hmem, ?_⟩
    rw [List.take_add, ← List.prefix_iff_eq_take.mp hoccurs]
    exact List.suffix_append _ _
  have hle := h.shortest _ ((List.take_prefix _ _).trans h.isPrefix) hends
  rw [List.length_take] at hle
  omega

/-- A text ends with one closing delimiter at most. -/
lemma commentCloseBang_suffix_of_not_commentClose (h : EndsWithCloser front)
    (hnot : ¬ commentClose <:+ front) : commentCloseBang <:+ front := by
  obtain ⟨closer, hmem, hends⟩ := h
  simp only [closers, List.mem_cons, List.not_mem_nil, or_false] at hmem
  rcases hmem with rfl | rfl
  · exact absurd hends hnot
  · exact hends

/-- A first end with `--!>` holds no `-->` at all. -/
lemma IsFirstEnd.not_infix_commentClose (h : IsFirstEnd text front)
    (hnot : ¬ commentClose <:+ front) : ¬ commentClose <:+: front := by
  rintro ⟨before, after, rfl⟩
  have hmem : commentClose ∈ closers := by decide
  cases after with
  | nil =>
      rw [List.append_nil] at hnot
      exact hnot (List.suffix_append _ _)
  | cons c after =>
      refine h.not_prefix_drop (i := before.length) hmem ?_ ?_
      · simp only [List.length_append, List.length_cons]
        omega
      · rw [List.append_assoc, List.drop_left]
        exact List.prefix_append _ _

/-- **The scanner at the first end** of a comment: out of the comment behind `-->`, and still in it
behind `--!>`. -/
lemma IsFirstEnd.scan_comment (h : IsFirstEnd text front) {ctx : Context}
    (hstate : ctx.state = .comment) :
    ctx.scan front = if commentClose <:+ front then ctx.enter .text else ctx := by
  split
  · next hends =>
      obtain ⟨before, rfl⟩ := hends
      have hmem : commentClose ∈ closers := by decide
      have hnone : ∀ i < before.length,
          ¬ commentClose <+: (before ++ (commentClose ++ [])).drop i := by
        intro i hi
        rw [List.append_nil]
        refine h.not_prefix_drop hmem ?_
        rw [List.length_append]
        omega
      have hscan := Context.scan_comment_append_close hstate hnone
      rwa [List.append_nil] at hscan
  · next hnot => exact Context.scan_comment hstate (h.not_infix_commentClose hnot)

end

/-! ## Values behind a comment -/

/-- **What ends a comment.**  Take a text in which a closing delimiter occurs, and the shortest
beginning of it that ends with one.  As the rest of a comment this leads the scanner to free text
exactly if the delimiter is `-->`.  Then a value behind it is escaped.  If it is `--!>`, at which a
reader ends the comment as well, the scanner is still in the comment, and the value is stripped
instead. -/
theorem feed_firstEnd {t : String} (h : ∃ closer ∈ closers, closer <:+: t.toList) :
    (∃ u : String, IsFirstEnd t.toList u.toList) ∧
    ∀ u : String, IsFirstEnd t.toList u.toList →
      ((Context.fresh.feed ("<!-- " ++ u)).state = .text ↔ commentClose <:+ u.toList) ∧
      (¬ commentClose <:+ u.toList → commentCloseBang <:+ u.toList ∧
        (Context.fresh.feed ("<!-- " ++ u)).state = .comment) ∧
      ∀ (config : Config) (v : Value), v.IsPlain → markupOf? config.markupSeparator v = none →
        ∃ behind, ((Builder.start config).append ("<!-- " ++ u)).add (.value v) = .ok behind ∧
          behind.document = "<!-- " ++ u ++
            if commentClose <:+ u.toList then escape v.written else stripDelimiters v.written := by
  constructor
  · obtain ⟨front, hfront⟩ := exists_isFirstEnd h
    exact ⟨String.ofList front, by rwa [String.toList_ofList]⟩
  intro u hu
  have hfeed : Context.fresh.feed ("<!-- " ++ u)
      = if commentClose <:+ u.toList then .fresh else Context.fresh.enter .comment := by
    have hscan : (Context.fresh.enter .comment).scan u.toList
        = if commentClose <:+ u.toList then .fresh else Context.fresh.enter .comment :=
      hu.scan_comment rfl
    have htext : ("<!-- " ++ u).toList = commentOpen ++ ' ' :: u.toList := by simp [commentOpen]
    rw [Context.feed, htext, Context.scan_commentOpen_blank rfl, hscan]
  refine ⟨?_, fun hnot => ?_, fun config v hplain hmarkup => ?_⟩
  · rw [hfeed]
    split
    · next hclose => exact iff_of_true rfl hclose
    · next hnot => exact iff_of_false (by decide) hnot
  · rw [hfeed, if_neg hnot]
    exact ⟨commentCloseBang_suffix_of_not_commentClose hu.endsWithCloser hnot, rfl⟩
  · refine ⟨_, Builder.add_value hplain, ?_⟩
    have hstart : ((Builder.start config).append ("<!-- " ++ u)).document = "<!-- " ++ u :=
      String.empty_append
    have htext : (Piece.value v).resolvedText config (Context.fresh.feed ("<!-- " ++ u)).site
        = if commentClose <:+ u.toList then escape v.written else stripDelimiters v.written := by
      rw [hfeed]
      split
      · change renderText config v = _
        rw [renderText, hmarkup, Option.getD_none]
      · rfl
    rw [Builder.addResolved_document, hstart, ← htext]
    rfl

/-- Either delimiter in front of the other one. -/
theorem feed_firstEnd_of_either_closer :
    let v : Value := .str "<b>"
    IsFirstEnd "--->--!>".toList "--->".toList ∧
      (Context.fresh.feed "<!-- --->").state = .text ∧
      (∃ behind, ((Builder.start .default).append "<!-- --->").add (.value v) = .ok behind ∧
        behind.document = "<!-- --->&lt;b&gt;") ∧
      IsFirstEnd "x--!>-->".toList "x--!>".toList ∧
      (Context.fresh.feed "<!-- x--!>").state = .comment := by
  intro v
  have hplain : IsFirstEnd "--->--!>".toList "--->".toList := by decide +kernel
  have hbang : IsFirstEnd "x--!>-->".toList "x--!>".toList := by decide +kernel
  obtain ⟨-, hfirst⟩ := feed_firstEnd (t := "--->--!>") (by decide +kernel)
  obtain ⟨htext, -, hvalue⟩ := hfirst "--->" hplain
  obtain ⟨behind, hadd, hdocument⟩ := hvalue .default v (by simp [v, Value.IsPlain]) rfl
  obtain ⟨-, hsecond⟩ := feed_firstEnd (t := "x--!>-->") (by decide +kernel)
  obtain ⟨-, hcomment, -⟩ := hsecond "x--!>" hbang
  refine ⟨hplain, htext.mpr (by decide +kernel), ⟨behind, hadd, ?_⟩, hbang,
    (hcomment (by decide +kernel)).2⟩
  rw [hdocument]
  decide +kernel

/-- Behind `--!>` the comment goes on for the scanner, and the value there is not escaped. -/
theorem comment_goes_on_behind_bang :
    IsFirstEnd "--!>".toList "--!>".toList ∧
      (Context.fresh.feed ("<!-- " ++ "--!>")).state ≠ .text ∧
      renderParts .default ["<!-- --!>", ""] [.str "<b>"] = .ok "<!-- --!><b>" := by
  decide +kernel

end SafeMarkup
