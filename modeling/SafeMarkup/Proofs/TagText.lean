import SafeMarkup.Proofs.Escape
import SafeMarkup.Proofs.Pieces
import SafeMarkup.Proofs.Reachable
import SafeMarkup.Proofs.Tag

/-!
# Escaped text inside a tag

A value that supplies no attributes is written into a tag as escaped text.  It may hold blanks, `=`
and `/`, so it can go through every state of the tag, start attributes and give them values; but it
holds neither the end of the tag nor a quote.  So the text begins and ends in the same tag, outside
quotes, and only a name of the element that was still being read can grow.

* `TagPart.next_of_not_mem_markupChars` — a character without a meaning in markup leads from a part
  outside quotes to another one.
* `Context.GoesOn` — the scanner is in the same tag, outside quotes.
* `Context.goesOn_trail` — it is so behind every step through a text without markup.
* **`Builder.add_value_goesOn`** — a value that is written as text leaves its tag open.
-/

namespace SafeMarkup

/-! ## Parts of a tag outside quotes -/

lemma ofChar?_eq_none_of_not_mem_markupChars {c : Char} (hc : c ∉ markupChars) :
    Quote.ofChar? c = none := by
  have hsingle : c ≠ '\'' := by
    rintro rfl
    exact hc (by decide)
  have hdouble : c ≠ '"' := by
    rintro rfl
    exact hc (by decide)
  rw [Quote.ofChar?, if_neg hsingle, if_neg hdouble]

/-- A part of a tag that is not a quoted value. -/
def TagPart.Unquoted (part : TagPart) : Prop := ∀ quote, part ≠ quoted quote

lemma TagPart.next_of_not_mem_markupChars {part : TagPart} {c : Char} (hpart : part.Unquoted)
    (hc : c ∉ markupChars) : ∃ behind, part.next c = some behind ∧ behind.Unquoted := by
  have hclose : c ≠ '>' := by
    rintro rfl
    exact hc (by decide)
  cases part with
  | quoted quote => exact absurd rfl (hpart quote)
  | elementName =>
      simp only [next, if_neg hclose]
      split_ifs <;> exact ⟨_, rfl, by simp [Unquoted]⟩
  | between =>
      simp only [next, if_neg hclose]
      split_ifs <;> exact ⟨_, rfl, by simp [Unquoted]⟩
  | unquoted =>
      simp only [next, if_neg hclose]
      split_ifs <;> exact ⟨_, rfl, by simp [Unquoted]⟩
  | valueDue =>
      simp only [next, if_neg hclose, ofChar?_eq_none_of_not_mem_markupChars hc]
      split_ifs <;> exact ⟨_, rfl, by simp [Unquoted]⟩

namespace Context

variable {ctx mid after : Context} {c : Char}

lemma tagPart_unquoted (hquote : ctx.quote = none) : ctx.tagPart.Unquoted := by
  intro quote
  unfold tagPart
  split
  · simp
  · simp
  · next h => simp [hquote] at h
  · simp
  · simp

lemma quote_eq_none_of_tagPart (h : ctx.QuoteInValue) (hpart : ctx.tagPart.Unquoted) :
    ctx.quote = none := by
  by_cases hstate : ctx.state = .attributeValue
  · cases hquote : ctx.quote with
    | none => rfl
    | some quote => exact absurd (by simp only [tagPart, hstate, hquote]) (hpart quote)
  · exact h hstate

/-! ## The same tag -/

/-- From `ctx` to `after` the scanner stays in a tag and outside quotes.  The name of the element
is the same, unless it was still being read: then it may have grown. -/
structure GoesOn (ctx after : Context) : Prop where
  insideTag : after.state.insideTag = true
  quote : after.quote = none
  elementName : ctx.state ≠ .elementName →
    after.state ≠ .elementName ∧ after.elementName = ctx.elementName
  elementName_prefix : ctx.elementName.toList <+: after.elementName.toList

lemma GoesOn.refl (h : ctx.state.insideTag = true) (hquote : ctx.quote = none) : GoesOn ctx ctx :=
  ⟨h, hquote, fun hname => ⟨hname, rfl⟩, List.prefix_refl _⟩

lemma GoesOn.trans (h : GoesOn ctx mid) (h' : GoesOn mid after) : GoesOn ctx after where
  insideTag := h'.insideTag
  quote := h'.quote
  elementName hname := by
    obtain ⟨hmid, hsame⟩ := h.elementName hname
    obtain ⟨hafter, hsame'⟩ := h'.elementName hmid
    exact ⟨hafter, hsame'.trans hsame⟩
  elementName_prefix := h.elementName_prefix.trans h'.elementName_prefix

/-- While the name of an element is read, a step can only add to it. -/
lemma elementName_prefix_next (hstate : ctx.state = .elementName) (hclose : c ≠ '>') :
    ctx.elementName.toList <+: (ctx.next c).elementName.toList := by
  simp only [next, hstate, if_neg hclose]
  split_ifs
  · exact List.prefix_refl _
  · exact List.prefix_refl _
  · rw [String.toList_push]
    exact List.prefix_append _ _

lemma goesOn_next (h : ctx.state.insideTag = true) (hquote : ctx.quote = none)
    (hc : c ∉ markupChars) : GoesOn ctx (ctx.next c) := by
  obtain ⟨part, hpart, hunquoted⟩ :=
    TagPart.next_of_not_mem_markupChars (tagPart_unquoted hquote) hc
  have hstays : StaysInTag ctx part (ctx.next c) := by
    have hfollows := next_tagPart h c
    rwa [hpart] at hfollows
  have hkept : (ctx.next c).QuoteInValue := QuoteInValue.next (fun _ => hquote) c
  refine ⟨hstays.insideTag, ?_, hstays.elementName, ?_⟩
  · exact quote_eq_none_of_tagPart hkept (hstays.tagPart ▸ hunquoted)
  · by_cases hname : ctx.state = .elementName
    · refine elementName_prefix_next hname ?_
      rintro rfl
      exact hc (by decide)
    · have hsame : (ctx.next c).elementName = ctx.elementName := (hstays.elementName hname).2
      exact ⟨[], by rw [hsame, List.append_nil]⟩

/-- **A text without markup goes on in its tag**, behind every one of its characters. -/
theorem goesOn_trail : ∀ {text : List Char} {ctx : Context}, ctx.state.insideTag = true →
    ctx.quote = none → (∀ c ∈ text, c ∉ markupChars) →
      (∀ mid ∈ ctx.trail text, GoesOn ctx mid) ∧ GoesOn ctx (ctx.scan text)
  | [], ctx, h, hquote, _ => ⟨fun mid hmid => absurd hmid List.not_mem_nil, .refl h hquote⟩
  | c :: text, ctx, h, hquote, hno => by
      obtain ⟨htag, hcomment⟩ := not_ahead_of_insideTag h
      have hstep : GoesOn ctx (ctx.next c) := goesOn_next h hquote (hno c List.mem_cons_self)
      obtain ⟨htrail, hlast⟩ := goesOn_trail hstep.insideTag hstep.quote
        fun d hd => hno d (List.mem_cons_of_mem c hd)
      rw [trail_cons htag hcomment, scan_cons htag hcomment, List.forall_mem_cons]
      exact ⟨⟨hstep, fun mid hmid => hstep.trans (htrail mid hmid)⟩, hstep.trans hlast⟩

end Context

/-! ## Values that are written as text -/

namespace Builder

variable {b : Builder} {v : Value}

/-- The states of a tag in which a value is no attribute value. -/
def namingStates : List ScanState :=
  [.elementName, .afterElementName, .attributeName, .afterAttributeName, .selfClosingTag]

lemma insideTag_of_mem_namingStates {state : ScanState} (h : state ∈ namingStates) :
    state.insideTag = true := by
  simp only [namingStates, List.mem_cons, List.not_mem_nil, or_false] at h
  rcases h with rfl | rfl | rfl | rfl | rfl <;> rfl

lemma renderAt_of_mem_namingStates (hstate : b.context.state ∈ namingStates)
    (hmarkup : b.site.kind = .text → markupOf? b.config.markupSeparator v = none)
    (hattributes : b.site.kind = .startTag → attributesOf? b.config.nestedGroups
      b.config.attributeSeparator b.context.elementName v = none) :
    renderAt b.config v b.site = escape v.written := by
  by_cases hplace : b.context.state = .afterElementName
  · have hsite : b.site = .inTag b.context.elementName := by
      simp only [site, Context.site, hplace]
    have hkind : b.site.kind = .startTag := by rw [hsite]; rfl
    have helement : b.site.element = some b.context.elementName := by rw [hsite]; rfl
    simp only [renderAt, hkind, renderInTag, helement, Option.getD_some, hattributes hkind,
      Option.getD_none]
  · have hkind : b.site.kind = .text := by
      simp only [namingStates, List.mem_cons, List.not_mem_nil, or_false, hplace, false_or]
        at hstate
      rcases hstate with h | h | h | h <;> simp only [site, Context.site, h] <;> rfl
    simp only [renderAt, hkind, renderText, hmarkup hkind, Option.getD_none]

/-- **Text never closes its tag.**  Where the scanner reads names in a tag, a value that has
neither markup of its own nor attributes for the place is appended as escaped text.  That text holds
no angle bracket and no quote, and on the way through it and behind it the scanner is in the same
tag and outside quotes: the name of the element has not changed, unless it was still being read,
when the old name starts the new one. -/
theorem add_value_goesOn (hb : b.Reachable) (hstate : b.context.state ∈ namingStates)
    (hplain : v.IsPlain)
    (hmarkup : b.site.kind = .text → markupOf? b.config.markupSeparator v = none)
    (hattributes : b.site.kind = .startTag → attributesOf? b.config.nestedGroups
      b.config.attributeSeparator b.context.elementName v = none) :
    ∃ after, b.add (.value v) = .ok after ∧
      after.document = b.document ++ escape v.written ∧
      after.context = b.context.feed (escape v.written) ∧
      (∀ c ∈ markupChars, c ∉ (escape v.written).toList) ∧
      (∀ mid ∈ b.context.trail (escape v.written).toList, b.context.GoesOn mid) ∧
      b.context.GoesOn after.context := by
  have htext : Piece.resolvedText b.config b.site (.value v) = escape v.written :=
    renderAt_of_mem_namingStates hstate hmarkup hattributes
  have hquote : b.context.quote = none := by
    refine hb.quoteInValue fun hvalue => ?_
    rw [hvalue] at hstate
    exact absurd hstate (by decide)
  have hno : ∀ c ∈ markupChars, c ∉ (escape v.written).toList :=
    fun c hc => not_mem_escape hc _
  have hplainText : ∀ c ∈ (escape v.written).toList, c ∉ markupChars :=
    fun c hc hmem => hno c hmem hc
  obtain ⟨htrail, hlast⟩ := Context.goesOn_trail (insideTag_of_mem_namingStates hstate) hquote
    hplainText
  refine ⟨_, add_value hplain, ?_, ?_, hno, htrail, ?_⟩
  · rw [addResolved_document, htext]
  · rw [addResolved_context, htext]
  · rw [addResolved_context, htext]
    exact hlast

/-- The name of an element is still being read, and the value looks like the rest of a tag. -/
theorem add_value_goesOn_from_name :
    let opened := ((start .default).attemptAll [.literal "<x-"]).2
    let v : Value := .str "y z='>'"
    opened.Reachable ∧ opened.context.state ∈ namingStates ∧
      ∃ after, opened.add (.value v) = .ok after ∧
        after.document = "<x-y z=&apos;&gt;&apos;" ∧ opened.context.GoesOn after.context ∧
        after.context = ⟨.attributeValue, none, "x-y", "z"⟩ := by
  intro opened v
  have hreach : opened.Reachable := ⟨.default, [.literal "<x-"], rfl⟩
  have hstate : opened.context.state ∈ namingStates := by decide +kernel
  have htext : opened.site.kind ≠ .startTag := by decide +kernel
  obtain ⟨after, hadd, hdocument, hcontext, _, _, hgoes⟩ :=
    add_value_goesOn (v := v) hreach hstate (by simp [Value.IsPlain, v]) (fun _ => rfl)
      fun hkind => absurd hkind htext
  refine ⟨hreach, hstate, after, hadd, ?_, hgoes, ?_⟩
  · rw [hdocument]
    decide +kernel
  · rw [hcontext]
    decide +kernel

end Builder

end SafeMarkup
