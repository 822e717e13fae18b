import SafeMarkup.Proofs.CommentEnd
import SafeMarkup.Proofs.TagText

/-!
# Values as names of tags

A value between `<` and `>`, and again between `</` and `>`, is meant as the name of an element.
Just behind `<` a value counts as text, and what is read of it there can lead anywhere but out of
its brackets: into a tag, into a construct that is passed over, back to free text, or into a
comment.  The `>` that follows ends all of these but the comment.  So the second value is escaped
like the first, unless the first has opened a comment that is still open.

* `Context.EndsAtClose` — a `>` leads to the start of free text.
* `OpensComment` — the names that open a comment; `opensComment_escapeChars_iff` says that escaping
  makes no difference to that.
* `scan_name_cases` — where a name leads.
* `scan_behind_name` — where the scanner is when the second name is due.
* `stripDelimiters_eq_escape_iff` — the texts that a comment shows like free text does.
* `secondName` — how the second name is written.
* **`renderParts_tagName_pair`** — the document of a pair of tags, and when its names are the same.
-/

namespace SafeMarkup

/-- A text that opens a comment where the name of an element is due: `!--`, and not hyphens only
behind it. -/
def OpensComment (text : List Char) : Prop :=
  ['!', '-', '-'] <+: text ∧ ∃ c ∈ text.drop 3, c ≠ '-'

instance (text : List Char) : Decidable (OpensComment text) :=
  decidable_of_iff (['!', '-', '-'] <+: text ∧ (text.drop 3).any (· != '-') = true)
    (by simp only [OpensComment, List.any_eq_true, bne_iff_ne])

lemma opensComment_cons_iff {tail : List Char} :
    OpensComment ('!' :: '-' :: '-' :: tail) ↔ ∃ c ∈ tail, c ≠ '-' :=
  and_iff_right (List.prefix_append ['!', '-', '-'] tail)

lemma escapeOne_ne_hyphen {c : Char} (hc : c ≠ '-') : ∃ d ∈ escapeOne c, d ≠ '-' := by
  rcases escapeOne_cases c with ⟨hself, _⟩ | ⟨reference, href, heq⟩
  · exact ⟨c, by rw [hself]; exact List.mem_singleton_self c, hc⟩
  · have hamp : ∀ reference ∈ references, '&' ∈ reference.toList := by decide
    exact ⟨'&', by rw [heq]; exact hamp reference href, by decide⟩

/-- Escaping makes no difference to whether a text opens a comment. -/
lemma opensComment_escapeChars_iff {text : List Char} :
    OpensComment (escapeChars text) ↔ OpensComment text := by
  have hplain : ∀ c ∈ ['!', '-', '-'], c ∉ '&' :: markupChars := by simp [markupChars]
  constructor
  · rintro ⟨⟨rest, hrest⟩, c, hc, hother⟩
    obtain ⟨tail, rfl, rfl⟩ := exists_of_append_eq_escapeChars hplain hrest
    refine ⟨List.prefix_append _ _, ?_⟩
    rw [← hrest] at hc
    obtain ⟨d, hd, hcd⟩ := List.mem_flatMap.mp (show c ∈ escapeChars tail from hc)
    refine ⟨d, hd, ?_⟩
    rintro rfl
    exact hother (List.mem_singleton.mp hcd)
  · rintro ⟨⟨tail, rfl⟩, c, hc, hother⟩
    have hescape : escapeChars (['!', '-', '-'] ++ tail) = ['!', '-', '-'] ++ escapeChars tail := by
      rw [escapeChars_append, escapeChars_eq_self hplain]
    obtain ⟨d, hd, hne⟩ := escapeOne_ne_hyphen hother
    rw [hescape]
    exact ⟨List.prefix_append _ _, d, List.mem_flatMap.mpr ⟨c, hc, hd⟩, hne⟩

namespace Context

variable {ctx : Context} {c : Char} {text body : List Char}

/-! ## Where a `>` ends everything -/

/-- A `>` leads to the start of free text, whatever stands behind it. -/
def EndsAtClose (ctx : Context) : Prop := ∀ rest, ctx.outcome '>' rest = (fresh, 0)

lemma endsAtClose_of_insideTag (h : ctx.state.insideTag = true) (hquote : ctx.quote = none) :
    ctx.EndsAtClose := by
  intro rest
  obtain ⟨htag, hcomment⟩ := not_ahead_of_insideTag h
  have hpart : ctx.tagPart.next '>' = none := by
    have hunquoted := tagPart_unquoted hquote
    cases hpart : ctx.tagPart with
    | quoted quote => exact absurd hpart (hunquoted quote)
    | _ => rfl
  have hnext : ctx.next '>' = fresh := by
    have hfollows := next_tagPart h '>'
    rwa [hpart] at hfollows
  rw [outcome_of_not_ahead htag hcomment, hnext]

/-- The states outside tags that a `>` ends, where nothing of a tag is kept. -/
lemma endsAtClose_enter {state : ScanState}
    (h : state ∈ [.text, .tagOpen, .unsupportedConstruct, .beforeComment]) :
    (fresh.enter state).EndsAtClose := by
  intro rest
  simp only [List.mem_cons, List.not_mem_nil, or_false] at h
  rcases h with rfl | rfl | rfl | rfl <;> rfl

/-! ## Where a name leads -/

/-- Free text goes on over everything but `<`. -/
lemma passes_text (h : ctx.state = .text) (hno : '<' ∉ text) : Passes ctx text ctx := by
  refine passes_self (by simp [h]) (by simp [h]) fun c hc => ?_
  have hopen : c ≠ '<' := by
    rintro rfl
    exact hno hc
  simp only [next, h, if_neg hopen]

/-- A construct that is passed over goes on over everything but `>`. -/
lemma passes_unsupportedConstruct (h : ctx.state = .unsupportedConstruct) (hno : '>' ∉ text) :
    Passes ctx text ctx := by
  refine passes_self (by simp [h]) (by simp [h]) fun c hc => ?_
  have hclose : c ≠ '>' := by
    rintro rfl
    exact hno hc
  simp only [next, h, if_neg hclose]

/-- Behind the opening delimiter of a comment hyphens are passed over. -/
lemma scan_hyphens (h : ctx.state = .beforeComment) (hhyphens : ∀ c ∈ text, c = '-') :
    ctx.scan text = ctx := by
  refine scan_eq_self (by simp [h]) (by simp [h]) fun c hc => ?_
  simp only [next, h, if_pos (hhyphens c hc)]

/-- What is no hyphen there starts the comment, if nothing ends it. -/
lemma scan_beforeComment (h : ctx.state = .beforeComment) : ∀ {text : List Char}, '>' ∉ text →
    (∃ c ∈ text, c ≠ '-') → ctx.scan text = ctx.enter .comment
  | [], _, hother => absurd hother (by simp)
  | c :: text, hno, hother => by
      have hrest : '>' ∉ text := fun hmem => hno (List.mem_cons_of_mem c hmem)
      rw [scan, scanFrom_zero_cons, outcome_beforeComment h]
      by_cases hhyphen : c = '-'
      · have hbehind : ∃ d ∈ text, d ≠ '-' :=
          (List.or_exists_of_exists_mem_cons hother).resolve_left (not_not.mpr hhyphen)
        rw [if_pos hhyphen]
        exact scan_beforeComment h hrest hbehind
      · have hclose : c ≠ '>' := by
          rintro rfl
          exact hno List.mem_cons_self
        have hstays : ¬ commentClose <:+: text :=
          fun hin => hrest (hin.subset (by decide))
        rw [if_neg hhyphen, if_neg hclose]
        exact scan_comment (enter_state ctx _) hstays

/-- What the first character of a name leads to, the rest of the name does not leave. -/
lemma endsAtClose_scan_openTag (hno : ∀ d ∈ c :: text, d ∉ markupChars) :
    (((fresh.enter .tagOpen).openTag c).scan text).EndsAtClose := by
  obtain ⟨hc, htext⟩ := List.forall_mem_cons.mp hno
  have hopen : '<' ∉ text := fun hmem => htext '<' hmem (by decide)
  have hclose : '>' ∉ text := fun hmem => htext '>' hmem (by decide)
  rw [openTag]
  split_ifs with hconstruct hname hbracket
  · change ((fresh.enter .unsupportedConstruct).scan text).EndsAtClose
    rw [(passes_unsupportedConstruct rfl hclose).scan_eq]
    exact endsAtClose_enter (by simp)
  · have hgoes : GoesOn _ (Context.scan ⟨.elementName, none, "".push c, ""⟩ text) :=
      (goesOn_trail rfl rfl htext).2
    exact endsAtClose_of_insideTag hgoes.insideTag hgoes.quote
  · subst hbracket
    exact absurd (by decide) hc
  · change ((fresh.enter .text).scan text).EndsAtClose
    rw [(passes_text rfl hopen).scan_eq]
    exact endsAtClose_enter (by simp)

/-- Just behind `<` a character that no delimiter starts with is read on its own. -/
lemma scan_tagOpen_cons (hopen : ¬ ['!', '-', '-'] <+: c :: text) (hclose : '>' ∉ text) :
    (fresh.enter .tagOpen).scan (c :: text) = ((fresh.enter .tagOpen).openTag c).scan text := by
  have hend : ¬ ['/', '>'] <+: c :: text := by
    intro hend
    obtain ⟨-, rest, rfl⟩ := List.cons_prefix_cons.mp hend
    exact hclose List.mem_cons_self
  have hstep : (fresh.enter .tagOpen).outcome c text = ((fresh.enter .tagOpen).openTag c, 0) := by
    simp only [outcome, delimiter?, next, enter_state, if_neg hopen, if_neg hend, Option.getD_none]
  rw [scan, scanFrom_zero_cons, hstep, scan]

/-- A name that starts with `!--` opens a comment, unless hyphens are all there is behind it. -/
lemma scan_hyphensName_cases {tail : List Char} (hclose : '>' ∉ tail) :
    OpensComment ('!' :: '-' :: '-' :: tail) ∧
        (fresh.enter .tagOpen).scan ('!' :: '-' :: '-' :: tail) = fresh.enter .comment ∨
      ¬ OpensComment ('!' :: '-' :: '-' :: tail) ∧
        ((fresh.enter .tagOpen).scan ('!' :: '-' :: '-' :: tail)).EndsAtClose := by
  have hbefore : (fresh.enter .beforeComment).state = .beforeComment := rfl
  have hscan : (fresh.enter .tagOpen).scan ('!' :: '-' :: '-' :: tail)
      = (fresh.enter .beforeComment).scan tail := by
    rw [scan, scanFrom_zero_cons, outcome_openHyphens rfl]
    rfl
  rw [hscan, opensComment_cons_iff]
  by_cases hother : ∃ d ∈ tail, d ≠ '-'
  · exact Or.inl ⟨hother, scan_beforeComment hbefore hclose hother⟩
  · have hhyphens : ∀ d ∈ tail, d = '-' :=
      fun d hd => by_contra fun hne => hother ⟨d, hd, hne⟩
    refine Or.inr ⟨hother, ?_⟩
    rw [scan_hyphens hbefore hhyphens]
    exact endsAtClose_enter (by simp)

/-- **Where a name leads.**  Just behind `<`, text without a meaning in markup opens a comment, or
it leads to a place that a `>` ends. -/
lemma scan_name_cases (hno : ∀ c ∈ text, c ∉ markupChars) :
    OpensComment text ∧ (fresh.enter .tagOpen).scan text = fresh.enter .comment ∨
      ¬ OpensComment text ∧ ((fresh.enter .tagOpen).scan text).EndsAtClose := by
  have hclose : '>' ∉ text := fun hmem => hno '>' hmem (by decide)
  by_cases hopen : ['!', '-', '-'] <+: text
  · obtain ⟨tail, rfl⟩ := hopen
    exact scan_hyphensName_cases fun hmem => hclose (List.mem_append_right _ hmem)
  · refine Or.inr ⟨fun h => hopen h.1, ?_⟩
    cases text with
    | nil => exact endsAtClose_enter (by simp)
    | cons c text =>
        rw [scan_tagOpen_cons hopen fun hmem => hclose (List.mem_cons_of_mem c hmem)]
        exact endsAtClose_scan_openTag hno

/-! ## Where the text between two names leads -/

/-- Text without tags, and the opening of an end tag, lead to free text again. -/
lemma scan_body (hbody : '<' ∉ body) : fresh.scan (body ++ ['<', '/']) = fresh := by
  rw [(passes_text rfl hbody).scan_append]
  decide

/-- What a `>` ends is over behind the body. -/
lemma EndsAtClose.scan_body (h : ctx.EndsAtClose) (hbody : '<' ∉ body) :
    ctx.scan ('>' :: (body ++ ['<', '/'])) = fresh := by
  rw [scan, scanFrom_zero_cons, h, ← scan, Context.scan_body hbody]

/-- An occurrence of a piece, with no other in front of it. -/
lemma exists_first_occurrence {piece : List Char} : ∀ {text : List Char}, piece <:+: text →
    ∃ front back, text = front ++ (piece ++ back) ∧ ∀ i < front.length, ¬ piece <+: text.drop i
  | [], h => ⟨[], [], by rw [List.infix_nil.mp h]; rfl, fun i hi => absurd hi (Nat.not_lt_zero i)⟩
  | c :: text, h => by
      by_cases hhead : piece <+: c :: text
      · obtain ⟨back, hback⟩ := hhead
        exact ⟨[], back, hback.symm, fun i hi => absurd hi (Nat.not_lt_zero i)⟩
      · have htail : piece <:+: text := (List.infix_cons_iff.mp h).resolve_left hhead
        obtain ⟨front, back, hsplit, hfirst⟩ := exists_first_occurrence htail
        refine ⟨c :: front, back, by rw [hsplit]; rfl, fun i hi => ?_⟩
        cases i with
        | zero => exact hhead
        | succ i => exact hfirst i (Nat.lt_of_succ_lt_succ hi)

/-- A closing delimiter does not reach across a `<`. -/
lemma not_infix_commentClose_append_cons {rest : List Char} (hbody : ¬ commentClose <:+: body)
    (hrest : ¬ commentClose <:+: rest) : ¬ commentClose <:+: body ++ '<' :: rest := by
  rintro ⟨before, after, hwhole⟩
  have hoccurs : commentClose <+: (body ++ '<' :: rest).drop before.length := by
    rw [← hwhole, List.append_assoc, List.drop_left]
    exact List.prefix_append _ _
  rcases prefix_drop_of_not_mem (by decide) (by decide) hoccurs with hfront | ⟨j, -, hback⟩
  · exact hbody (hfront.isInfix.trans (List.drop_suffix _ _).isInfix)
  · exact hrest (hback.isInfix.trans (List.drop_suffix _ _).isInfix)

/-- A comment is over behind the body if there is a `-->` in it, and else it goes on. -/
lemma scan_comment_body (hbody : '<' ∉ body) :
    (fresh.enter .comment).scan ('>' :: (body ++ ['<', '/']))
      = if commentClose <:+: body then fresh else fresh.enter .comment := by
  have hcomment : (fresh.enter .comment).state = .comment := rfl
  split
  · next hclose =>
      obtain ⟨front, back, rfl, hfirst⟩ := exists_first_occurrence hclose
      have hsplit : '>' :: (front ++ (commentClose ++ back) ++ ['<', '/'])
          = ('>' :: front) ++ (commentClose ++ (back ++ ['<', '/'])) := by
        simp only [List.cons_append, List.append_assoc]
      have hnone : ∀ i < ('>' :: front).length,
          ¬ commentClose <+: ('>' :: (front ++ (commentClose ++ back) ++ ['<', '/'])).drop i := by
        intro i hi hoccurs
        cases i with
        | zero => exact absurd (List.cons_prefix_cons.mp hoccurs).1 (by decide)
        | succ i =>
            have hlt : i < front.length := Nat.lt_of_succ_lt_succ hi
            rcases prefix_drop_of_not_mem (by decide) (by decide) hoccurs
              with hin | ⟨j, hbehind, -⟩
            · exact hfirst i hlt hin
            · rw [List.length_append] at hbehind
              omega
      have hback : '<' ∉ back := fun hmem => hbody (by simp [hmem])
      rw [hsplit] at hnone ⊢
      rw [scan_comment_append_close hcomment hnone]
      exact scan_body hback
  · next hopen =>
      refine scan_comment hcomment fun hin => ?_
      rcases List.infix_cons_iff.mp hin with hhead | htail
      · exact absurd (List.cons_prefix_cons.mp hhead).1 (by decide)
      · exact not_infix_commentClose_append_cons hopen (by decide) htail

end Context

/-- The name has opened a comment, and the text behind its tag does not end it. -/
def LeavesCommentOpen (tag body : List Char) : Prop := OpensComment tag ∧ ¬ commentClose <:+: body

instance (tag body : List Char) : Decidable (LeavesCommentOpen tag body) :=
  inferInstanceAs (Decidable (OpensComment tag ∧ ¬ commentClose <:+: body))

/-- **Where the second name stands.**  Behind a tag with an escaped name, text without tags and the
opening of an end tag, the scanner is in free text, or in the comment that the name has opened. -/
lemma Context.scan_behind_name {tag body : List Char} (hbody : '<' ∉ body) :
    ((fresh.enter .tagOpen).scan (escapeChars tag)).scan ('>' :: (body ++ ['<', '/']))
      = if LeavesCommentOpen tag body then fresh.enter .comment else fresh := by
  have hno : ∀ c ∈ escapeChars tag, c ∉ markupChars :=
    fun c hc hmem => not_mem_escapeChars hmem _ hc
  rcases scan_name_cases hno with ⟨hopen, hname⟩ | ⟨hopen, hname⟩
  · rw [opensComment_escapeChars_iff] at hopen
    rw [hname, scan_comment_body hbody]
    by_cases hclose : commentClose <:+: body
    · rw [if_pos hclose, if_neg fun hleaves => hleaves.2 hclose]
    · rw [if_neg hclose, if_pos ⟨hopen, hclose⟩]
  · rw [opensComment_escapeChars_iff] at hopen
    rw [hname.scan_body hbody, if_neg fun hleaves => hopen hleaves.1]

/-! ## Texts that a comment shows like free text does -/

/-- Every delimiter of a comment holds a character with a meaning. -/
lemma hasDelimiter_eq_false_of_not_mem {cs : List Char} (h : ∀ c ∈ cs, c ∉ '&' :: markupChars) :
    hasDelimiter cs = false := by
  have hmeaning : ∀ delimiter ∈ commentDelimiters, '<' ∈ delimiter ∨ '>' ∈ delimiter := by decide
  refine hasDelimiter_eq_false_iff.mpr fun delimiter hmem hin => ?_
  rcases hmeaning delimiter hmem with hopen | hclose
  · exact h '<' (hin.subset hopen) (by decide)
  · exact h '>' (hin.subset hclose) (by decide)

/-- **Stripping a text is escaping it** exactly if either leaves it as it is: none of its characters
has a meaning, and no blank stands at its ends. -/
lemma stripDelimiters_eq_escape_iff {s : String} : stripDelimiters s = escape s ↔
    (∀ c ∈ s.toList, c ∉ '&' :: markupChars) ∧ NoBlankEnds s.toList := by
  have hchars : stripDelimiters s = escape s ↔
      stripDelimiterChars s.toList = escapeChars s.toList := by
    rw [stripDelimiters, escape, String.ofList_inj]
  rw [hchars]
  have hstripped := strippedFrom_stripDelimiterChars s.toList
  constructor
  · intro heq
    -- stripping makes no text longer, and escaping makes none shorter
    have hplain : ∀ c ∈ s.toList, c ∉ '&' :: markupChars :=
      not_mem_of_length_escapeChars_le (heq ▸ hstripped.sublist.length_le)
    rw [escapeChars_eq_self hplain] at heq
    exact ⟨hplain, heq ▸ hstripped.noBlankEnds⟩
  · rintro ⟨hplain, hends⟩
    rw [escapeChars_eq_self hplain,
      stripDelimiterChars_eq_self (hasDelimiter_eq_false_of_not_mem hplain) hends]

/-! ## Documents -/

/-- The document of two values between three literals. -/
lemma renderParts_of_two_values {settings : Settings} {config : Config}
    (hcheck : settings.check = .ok config) {front middle : String} (back : String) {v w : Value}
    (hv : v.IsPlain) (hw : w.IsPlain) {first second : String}
    (hfirst : renderAt config v (Context.fresh.feed front).site = first)
    (hsecond : renderAt config w (((Context.fresh.feed front).feed first).feed middle).site
      = second) :
    renderParts settings [front, middle, back] [v, w]
      = .ok (front ++ first ++ middle ++ second ++ back) := by
  subst hfirst hsecond
  have hpieces : Builder.woven [front, middle, back] [v, w]
      = [.literal front, .value v, .literal middle, .value w, .literal back] := rfl
  have hstart : ((Builder.start config).append front).document = front := String.empty_append
  rw [Builder.renderParts_eq_document hcheck rfl, hpieces,
    Builder.addAll_cons (Builder.add_literal front), Builder.addResolved_literal,
    Builder.addAll_cons (Builder.add_value hv), Builder.addAll_cons (Builder.add_literal middle),
    Builder.addAll_cons (Builder.add_value hw), Builder.addAll_cons (Builder.add_literal back)]
  simp only [Builder.addAll, Builder.addResolved_document, hstart]
  rfl

/-- A pair of tags around a text, with these names. -/
def tagPair (first body second : String) : String :=
  "<" ++ first ++ ">" ++ body ++ "</" ++ second ++ ">"

lemma tagPair_right_inj {first body second other : String} :
    tagPair first body second = tagPair first body other ↔ second = other := by
  rw [tagPair, tagPair, String.append_left_inj, String.append_right_inj]

/-- How the second name of a pair of tags is written: it is escaped like the first, except where the
first has opened a comment that is still open. -/
def secondName (tag body : String) : String :=
  if LeavesCommentOpen tag.toList body.toList then stripDelimiters tag else escape tag

/-- The scanner in front of the second name. -/
lemma feed_behind_name {tag body : String} (hbody : '<' ∉ body.toList) :
    ((Context.fresh.feed "<").feed (escape tag)).feed (">" ++ body ++ "</")
      = if LeavesCommentOpen tag.toList body.toList then Context.fresh.enter .comment
        else .fresh := by
  have hmiddle : (">" ++ body ++ "</").toList = '>' :: (body.toList ++ ['<', '/']) := by simp
  rw [← Context.scan_behind_name hbody, ← hmiddle]
  simp only [Context.feed, escape, String.toList_ofList]
  rfl

/-- Both names are written the same way exactly if no comment is open at the second, or a comment
shows the name like free text does. -/
lemma secondName_eq_escape_iff {tag body : String} : secondName tag body = escape tag ↔
    (LeavesCommentOpen tag.toList body.toList →
      (∀ c ∈ tag.toList, c ∉ '&' :: markupChars) ∧ NoBlankEnds tag.toList) := by
  rw [secondName]
  split
  · next hleaves => rw [stripDelimiters_eq_escape_iff, forall_prop_of_true hleaves]
  · next hover => exact iff_of_true rfl fun hleaves => absurd hleaves hover

/-- **A value as the name in a pair of tags.**  Between the tags stands text without `<`.  The first
name is escaped.  So is the second, except where the first has opened a comment that is still open:
there the name is stripped of the delimiters of comments instead.  The names are written alike
exactly if there is no such comment, or the name holds no character with a meaning and has no blank
at either end. -/
theorem renderParts_tagName_pair {settings : Settings} {config : Config}
    (hcheck : settings.check = .ok config) (tag body : String) (hbody : '<' ∉ body.toList) :
    let document := renderParts settings ["<", ">" ++ body ++ "</", ">"] [.str tag, .str tag]
    document = .ok (tagPair (escape tag) body (secondName tag body)) ∧
      (document = .ok (tagPair (escape tag) body (escape tag)) ↔
        (LeavesCommentOpen tag.toList body.toList →
          (∀ c ∈ tag.toList, c ∉ '&' :: markupChars) ∧ NoBlankEnds tag.toList)) := by
  intro document
  have hplain : (Value.str tag).IsPlain := by simp [Value.IsPlain]
  have htext : ∀ site : Site, site.kind = .text → renderAt config (.str tag) site = escape tag := by
    intro site hsite
    rw [renderAt, hsite]
    rfl
  have hfirst : renderAt config (.str tag) (Context.fresh.feed "<").site = escape tag :=
    htext _ (by decide)
  have hsecond : renderAt config (.str tag)
      (((Context.fresh.feed "<").feed (escape tag)).feed (">" ++ body ++ "</")).site
        = secondName tag body := by
    rw [feed_behind_name hbody, secondName]
    split
    · rfl
    · exact htext _ rfl
  have hdocument : document = .ok (tagPair (escape tag) body (secondName tag body)) := by
    simp only [document, renderParts_of_two_values hcheck ">" hplain hplain hfirst hsecond, tagPair,
      String.append_assoc]
  refine ⟨hdocument, ?_⟩
  rw [hdocument, Except.ok.injEq, tagPair_right_inj, secondName_eq_escape_iff]

/-- A name that goes on into attributes, and one that opens a comment, which the text ends. -/
theorem renderParts_tagName_pair_around_comment :
    renderParts .default ["<", ">" ++ "a" ++ "</", ">"] [.str "p id=< ", .str "p id=< "]
        = .ok "<p id=&lt; >a</p id=&lt; >" ∧
      renderParts .default ["<", ">" ++ "-->" ++ "</", ">"] [.str "!--&", .str "!--&"]
        = .ok "<!--&amp;>--></!--&amp;>" ∧
      renderParts .default ["<", ">" ++ "-- >" ++ "</", ">"] [.str "!--a", .str "!--a"]
        = .ok "<!--a>-- ></!--a>" := by
  have hcheck : Settings.default.check = .ok .default := rfl
  obtain ⟨hattributes, -⟩ := renderParts_tagName_pair hcheck "p id=< " "a" (by decide)
  obtain ⟨hclosed, -⟩ := renderParts_tagName_pair hcheck "!--&" "-->" (by decide)
  obtain ⟨hopen, -⟩ := renderParts_tagName_pair hcheck "!--a" "-- >" (by decide)
  refine ⟨hattributes.trans ?_, hclosed.trans ?_, hopen.trans ?_⟩
  all_goals decide +kernel

/-- In the comment that the name `!--&` opens, its ampersand is not escaped. -/
theorem tagName_pair_differs_in_comment :
    renderParts .default ["<", ">" ++ "" ++ "</", ">"] [.str "!--&", .str "!--&"]
        = .ok "<!--&amp;></!--&>" ∧
      renderParts .default ["<", ">" ++ "" ++ "</", ">"] [.str "!--&", .str "!--&"]
        ≠ .ok ("<" ++ escape "!--&" ++ ">" ++ "" ++ "</" ++ escape "!--&" ++ ">") := by
  decide +kernel

end SafeMarkup
