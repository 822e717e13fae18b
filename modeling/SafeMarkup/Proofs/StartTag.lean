import Mathlib.Data.Bool.AllAny
import SafeMarkup.Proofs.TagRun

/-!
# The grammar of start tags

A start tag is an element name and any number of attributes, each behind a gap: a bare name, a
name with a quoted value, or a name with an unquoted one.  The types of this file are that grammar;
their fields carry what a text has to be to be a part of it.  Behind every tag of the grammar the
scanner knows the element, and of the attributes no more than the one that is being written.

* `ElementName`, `AttributeName`, `Gap`, `Blanks`, `UnquotedText` — the words of the grammar.
* `AttributeSource`, `StartTag` — attributes and tags as they are written.
* `AttributeSource.behind`, `StartTag.behind` — where the scanner stands behind them.
* `passes_startTag` — the scanner gets there from the start of a document.
* **`feed_startTag`** — what the next value is part of, wherever the tag is left off.
-/

namespace SafeMarkup

/-! ## Words -/

/-- Any number of blanks. -/
structure Blanks where
  text : String
  isBlank_of_mem : ∀ c ∈ text.toList, isBlank c = true

/-- At least one blank. -/
structure Gap extends Blanks where
  nonempty : text.toList ≠ []

/-- The name of an element. -/
structure ElementName where
  text : String
  startsName_head : ∃ c ∈ text.toList.head?, Context.startsName c = true
  plain_tail : ∀ c ∈ text.toList.tail, isBlank c = false ∧ c ≠ '/' ∧ c ≠ '>'

/-- The name of an attribute. -/
structure AttributeName where
  text : String
  nonempty : text.toList ≠ []
  namePart_of_mem : ∀ c ∈ text.toList, NamePart c

/-- A value that no quotes surround. -/
structure UnquotedText where
  text : String
  ofChar?_head : ∃ c ∈ text.toList.head?, Quote.ofChar? c = none
  plain : ∀ c ∈ text.toList, isBlank c = false ∧ c ≠ '>'

/-- A text that can stand between two quotes. -/
structure QuotedText (quote : Quote) where
  text : String
  not_mem : quote.char ∉ text.toList

/-- A quote as text. -/
def Quote.mark (quote : Quote) : String := String.singleton quote.char

@[simp] lemma Quote.toList_mark (quote : Quote) : quote.mark.toList = [quote.char] :=
  String.toList_singleton _

/-! ## Attributes and tags -/

/-- A name up to its value: the name, and an equals sign with blanks around it. -/
structure NamedValue where
  name : AttributeName
  before : Blanks
  after : Blanks

/-- A name up to its value, as it is written. -/
def NamedValue.written (n : NamedValue) : String :=
  n.name.text ++ n.before.text ++ "=" ++ n.after.text

/-- An attribute as it may be written. -/
inductive AttributeSource where
  | bare (name : AttributeName)
  | quoted (named : NamedValue) (quote : Quote) (value : QuotedText quote)
  | unquoted (named : NamedValue) (value : UnquotedText)

namespace AttributeSource

/-- An attribute, as it is written. -/
def written : AttributeSource → String
  | bare name => name.text
  | quoted named quote value => named.written ++ quote.mark ++ value.text ++ quote.mark
  | unquoted named value => named.written ++ value.text

/-- Whether the attribute has a value in quotes. -/
def isQuoted : AttributeSource → Bool
  | quoted _ _ _ => true
  | bare _ | unquoted _ _ => false

/-- Where the scanner stands behind an attribute: a name and an unquoted value may go on, a quoted
value is over. -/
def behind (element : String) : AttributeSource → Context
  | bare name => ⟨.attributeName, none, element, name.text⟩
  | quoted _ _ _ => ⟨.afterAttributeValue, none, element, ""⟩
  | unquoted named _ => ⟨.attributeValue, none, element, named.name.text⟩

end AttributeSource

/-- A start tag without its end: an element and its attributes, each behind a gap. -/
structure StartTag where
  element : ElementName
  attributes : List (Gap × AttributeSource)

namespace StartTag

/-- A start tag, as it is written. -/
def written (tag : StartTag) : String :=
  "<" ++ tag.element.text ++ String.join (tag.attributes.map fun a => a.1.text ++ a.2.written)

/-- Where the scanner stands behind a tag: behind its last attribute, if it has one. -/
def behind (tag : StartTag) : Context :=
  tag.attributes.foldl (fun _ a => a.2.behind tag.element.text)
    ⟨.elementName, none, tag.element.text, ""⟩

/-- The tag leaves off behind the name of the element or behind a quoted value. -/
def EndsClosed (tag : StartTag) : Prop := ∀ a ∈ tag.attributes.getLast?, a.2.isQuoted = true

end StartTag

namespace Context

variable {ctx : Context} {element : String}

/-! ## Through an attribute -/

lemma passes_namedValue (h : ctx.AwaitsName) (n : NamedValue) :
    Passes ctx n.written.toList ((ctx.named n.name.text.toList).enter .beforeAttributeValue) := by
  have htext : n.written.toList
      = n.name.text.toList ++ ((n.before.text.toList ++ ['=']) ++ n.after.text.toList) := by
    simp [NamedValue.written]
  rw [htext]
  refine (passes_name h n.name.nonempty n.name.namePart_of_mem).append ?_
  refine (passes_blanks_equals rfl n.before.isBlank_of_mem).append ?_
  exact passes_blanks (by simp [skippingStates]) n.after.isBlank_of_mem

lemma passes_unquoted (h : ctx.state = .beforeAttributeValue) (value : UnquotedText) :
    Passes ctx value.text.toList { ctx with state := .attributeValue, quote := none } := by
  obtain ⟨c, hhead, hquote⟩ := value.ofChar?_head
  obtain ⟨rest, htext⟩ := List.head?_eq_some_iff.mp hhead
  have hplain := value.plain
  rw [htext] at hplain ⊢
  obtain ⟨⟨hblank, hclose⟩, hrest⟩ := List.forall_mem_cons.mp hplain
  refine .cons_of_insideTag (by rw [h]; rfl) ?_
  have hnext : ctx.next c = { ctx with state := .attributeValue, quote := none } := by
    simp only [next, h, hblank, Bool.false_eq_true, if_false, hclose, hquote]
  rw [hnext]
  refine passes_self_of_insideTag rfl fun d hd => ?_
  obtain ⟨hdblank, hdclose⟩ := hrest d hd
  simp only [next, hdblank, Bool.false_eq_true, if_false, hdclose]

lemma passes_attributeSource (h : ctx.AwaitsName) (hquote : ctx.quote = none)
    (a : AttributeSource) : Passes ctx a.written.toList (a.behind ctx.elementName) := by
  have hnamed : ∀ name : AttributeName,
      ctx.named name.text.toList = ⟨.attributeName, none, ctx.elementName, name.text⟩ := by
    intro name
    rw [named, hquote, String.ofList_toList]
  cases a with
  | bare name =>
      rw [AttributeSource.written, AttributeSource.behind, ← hnamed]
      exact passes_name h name.nonempty name.namePart_of_mem
  | quoted n quote value =>
      have htext : (AttributeSource.quoted n quote value).written.toList
          = n.written.toList ++ quote.char :: (value.text.toList ++ [quote.char]) := by
        simp [AttributeSource.written]
      rw [htext]
      exact (passes_namedValue h n).append (passes_quoted rfl value.not_mem)
  | unquoted n value =>
      have htext : (AttributeSource.unquoted n value).written.toList
          = n.written.toList ++ value.text.toList := by
        simp [AttributeSource.written]
      have hpasses := (passes_namedValue h n).append (passes_unquoted rfl value)
      rw [hnamed] at hpasses
      rw [htext]
      exact hpasses

/-! ## From one attribute to the next -/

/-- The scanner stands behind the name of an element, or behind one of its attributes. -/
structure BehindItem (ctx : Context) (element : String) : Prop where
  quote : ctx.quote = none
  elementName : ctx.elementName = element
  state : ctx.state = .elementName ∨ ctx.state = .attributeName ∨ ctx.state = .attributeValue ∨
    ctx.state = .afterAttributeValue

lemma BehindItem.insideTag (h : ctx.BehindItem element) : ctx.state.insideTag = true := by
  rcases h.state with h | h | h | h <;> rw [h] <;> rfl

lemma behindItem_behind (a : AttributeSource) : (a.behind element).BehindItem element := by
  cases a with
  | bare name => exact ⟨rfl, rfl, Or.inr (Or.inl rfl)⟩
  | quoted n quote value => exact ⟨rfl, rfl, Or.inr (Or.inr (Or.inr rfl))⟩
  | unquoted n value => exact ⟨rfl, rfl, Or.inr (Or.inr (Or.inl rfl))⟩

/-- Behind an item a blank makes place for a name, and what has been read of an earlier attribute
plays no part any more. -/
lemma BehindItem.next_of_isBlank (h : ctx.BehindItem element) {c : Char}
    (hblank : isBlank c = true) :
    (ctx.next c).AwaitsName ∧ (ctx.next c).quote = none ∧ (ctx.next c).elementName = element := by
  obtain ⟨hquote, hname, hstate⟩ := h
  rcases hstate with hstate | hstate | hstate | hstate
  · simp only [next, hstate, if_pos hblank]
    exact ⟨Or.inl rfl, hquote, hname⟩
  · simp only [next, hstate, if_pos hblank]
    exact ⟨Or.inr (Or.inl rfl), hquote, hname⟩
  · simp only [next, hstate, hquote, if_pos hblank]
    exact ⟨Or.inr (Or.inr rfl), rfl, hname⟩
  · simp only [next, hstate, betweenAttributes, if_pos hblank]
    exact ⟨Or.inl rfl, hquote, hname⟩

lemma BehindItem.passes_gap (h : ctx.BehindItem element) (gap : Gap) :
    ∃ mid, Passes ctx gap.text.toList mid ∧ mid.AwaitsName ∧ mid.quote = none ∧
      mid.elementName = element := by
  have hblank := gap.isBlank_of_mem
  cases htext : gap.text.toList with
  | nil => exact absurd htext gap.nonempty
  | cons c rest =>
      rw [htext] at hblank
      obtain ⟨hfirst, hrest⟩ := List.forall_mem_cons.mp hblank
      obtain ⟨hawaits, hquote, hname⟩ := h.next_of_isBlank hfirst
      obtain ⟨mid, hpasses, hmid⟩ := passes_blanks_of_awaitsName hawaits hrest
      refine ⟨mid, .cons_of_insideTag h.insideTag hpasses, ?_⟩
      rcases hmid with rfl | rfl
      · exact ⟨hawaits, hquote, hname⟩
      · exact ⟨Or.inl rfl, hquote, hname⟩

/-- Through any number of attributes: where the scanner stands in the end depends on the last one
only. -/
lemma passes_attributes : ∀ (attributes : List (Gap × AttributeSource)) {ctx : Context},
    ctx.BehindItem element →
      let behind := attributes.foldl (fun _ a => a.2.behind element) ctx
      Passes ctx (String.join (attributes.map fun a => a.1.text ++ a.2.written)).toList behind ∧
        behind.BehindItem element
  | [], ctx, h => ⟨.nil ctx, h⟩
  | (gap, a) :: rest, ctx, h => by
      obtain ⟨mid, hgap, hawaits, hquote, hname⟩ := h.passes_gap gap
      have hattribute := passes_attributeSource hawaits hquote a
      rw [hname] at hattribute
      obtain ⟨hrest, hlast⟩ := passes_attributes rest (behindItem_behind a)
      refine ⟨?_, hlast⟩
      rw [List.map_cons, String.join_cons, String.toList_append, String.toList_append]
      exact (hgap.append hattribute).append hrest

/-! ## From the start of a document -/

lemma passes_elementName : ∀ {text : List Char} {ctx : Context}, ctx.state = .elementName →
    (∀ c ∈ text, isBlank c = false ∧ c ≠ '/' ∧ c ≠ '>') →
      Passes ctx text { ctx with elementName := ctx.elementName ++ String.ofList text }
  | [], ctx, _, _ => by
      rw [String.ofList_nil, String.append_empty]
      exact .nil ctx
  | c :: text, ctx, h, hplain => by
      obtain ⟨⟨hblank, hslash, hclose⟩, hrest⟩ := List.forall_mem_cons.mp hplain
      have hnext : ctx.next c = { ctx with elementName := ctx.elementName.push c } := by
        simp only [next, h, hblank, Bool.false_eq_true, if_false, hslash, hclose]
      have hname : ctx.elementName.push c ++ String.ofList text
          = ctx.elementName ++ String.ofList (c :: text) := by
        rw [← String.toList_inj]
        simp
      refine .cons_of_insideTag (by rw [h]; rfl) ?_
      rw [hnext, ← hname]
      exact passes_elementName h hrest

/-- A letter behind `<` starts the name of an element. -/
lemma passes_open (name : ElementName) :
    Passes fresh ('<' :: name.text.toList) ⟨.elementName, none, name.text, ""⟩ := by
  obtain ⟨c, hhead, hstarts⟩ := name.startsName_head
  obtain ⟨rest, htext⟩ := List.head?_eq_some_iff.mp hhead
  have hplain := name.plain_tail
  rw [htext, List.tail_cons] at hplain
  obtain ⟨hbang, hquestion, hslash⟩ : c ≠ '!' ∧ c ≠ '?' ∧ c ≠ '/' := by
    refine ⟨?_, ?_, ?_⟩ <;> rintro rfl <;> exact absurd hstarts (by decide)
  have hopen : fresh.next '<' = fresh.enter .tagOpen := rfl
  have hfirst : (fresh.enter .tagOpen).next c = ⟨.elementName, none, "".push c, ""⟩ := by
    simp only [next, enter_state, openTag, hbang, hquestion, or_self, if_false, hstarts, if_true]
    rfl
  have hstep : ∀ more, (fresh.enter .tagOpen).outcome c more
      = (⟨.elementName, none, "".push c, ""⟩, 0) := by
    intro more
    simp only [outcome, delimiter?, enter_state, List.cons_prefix_cons, hbang.symm, hslash.symm,
      false_and, if_false, Option.getD_none, hfirst]
  have hname : "".push c ++ String.ofList rest = name.text := by
    rw [← String.toList_inj, htext]
    simp
  rw [htext]
  refine .cons (fun _ => outcome_of_not_ahead (by simp [fresh]) (by simp [fresh])) ?_
  rw [hopen]
  refine .cons (fun more => by rw [hstep, hfirst]) ?_
  rw [hfirst, ← hname]
  exact passes_elementName rfl hplain

/-- **The scanner gets through a start tag** to the context behind its last part. -/
theorem passes_startTag (tag : StartTag) :
    Passes fresh tag.written.toList tag.behind ∧ tag.behind.BehindItem tag.element.text := by
  have hname : (⟨.elementName, none, tag.element.text, ""⟩ : Context).BehindItem tag.element.text :=
    ⟨rfl, rfl, Or.inl rfl⟩
  obtain ⟨hattributes, hlast⟩ := passes_attributes tag.attributes hname
  have htext : tag.written.toList = '<' :: tag.element.text.toList ++
      (String.join (tag.attributes.map fun a => a.1.text ++ a.2.written)).toList := by
    simp [StartTag.written]
  refine ⟨?_, hlast⟩
  rw [htext]
  exact (passes_open tag.element).append hattributes

/-- Behind the name of the element and behind a quoted value, a gap makes place for attributes. -/
lemma state_behind_of_endsClosed {tag : StartTag} (h : tag.EndsClosed) :
    tag.behind.state = .elementName ∨ tag.behind.state = .afterAttributeValue := by
  rcases List.eq_nil_or_concat tag.attributes with hnil | ⟨before, a, hlast⟩
  · left
    rw [StartTag.behind, hnil]
    rfl
  · right
    have hquoted : a.2.isQuoted = true := h a (by simp [hlast])
    rw [StartTag.behind, hlast, List.concat_eq_append, List.foldl_append]
    obtain ⟨gap, source⟩ := a
    cases source with
    | quoted n quote value => rfl
    | bare name => exact absurd hquoted (by simp [AttributeSource.isQuoted])
    | unquoted n value => exact absurd hquoted (by simp [AttributeSource.isQuoted])

lemma BehindItem.next_close (h : ctx.BehindItem element) : ctx.next '>' = fresh := by
  obtain ⟨hquote, _, hstate⟩ := h
  rcases hstate with hstate | hstate | hstate | hstate
  · simp only [next, hstate]
    rfl
  · simp only [next, hstate]
    rfl
  · simp only [next, hstate, hquote]
    rfl
  · simp only [next, hstate]
    rfl

/-- **What the next value is part of, wherever a start tag is left off.**  Behind any tag of the
grammar, a gap and a name with its equals sign make a value of that name due; behind an opening
quote and a text without it, the value goes on in these quotes; `>` ends the tag and leaves nothing
behind; and behind the name of the element or a quoted value, a gap makes place for attributes.
The element and the attribute are always those of the tag, whatever came before.  The tag and what
follows it may be read as one fragment or as two. -/
theorem feed_startTag (tag : StartTag) :
    let opened := fresh.feed tag.written
    (∀ tail : String, fresh.feed (tag.written ++ tail) = opened.feed tail) ∧
    (∀ (gap : Gap) (n : NamedValue),
      (opened.feed (gap.text ++ n.written)).site
        = .inValue tag.element.text n.name.text none) ∧
    (∀ (gap : Gap) (n : NamedValue) (quote : Quote) (value : QuotedText quote),
      (opened.feed (gap.text ++ n.written ++ quote.mark ++ value.text)).site
        = .inValue tag.element.text n.name.text (some quote)) ∧
    opened.feed ">" = fresh ∧
    (tag.EndsClosed → ∀ gap : Gap, (opened.feed gap.text).site = .inTag tag.element.text) := by
  obtain ⟨hpasses, hbehind⟩ := passes_startTag tag
  -- a gap and a name behind the tag, and the equals sign
  have hdue : ∀ (gap : Gap) (n : NamedValue), ∃ due, Passes tag.behind
      (gap.text.toList ++ n.written.toList) due ∧ due.state = .beforeAttributeValue ∧
        due.elementName = tag.element.text ∧ due.attributeName = n.name.text := by
    intro gap n
    obtain ⟨mid, hgap, hawaits, _, hname⟩ := hbehind.passes_gap gap
    exact ⟨_, hgap.append (passes_namedValue hawaits n), rfl, hname, String.ofList_toList⟩
  intro opened
  have hopened : opened = tag.behind := hpasses.scan_eq
  refine ⟨fun tail => ?_, fun gap n => ?_, fun gap n quote value => ?_, ?_, fun hclosed gap => ?_⟩
  · rw [feed, String.toList_append, hpasses.scan_append, feed, hopened]
  · obtain ⟨due, hread, hstate, helement, hattribute⟩ := hdue gap n
    rw [hopened, feed, String.toList_append, hread.scan_eq]
    simp only [site, hstate, helement, hattribute]
  · obtain ⟨due, hread, hstate, helement, hattribute⟩ := hdue gap n
    have hopen := hread.append (passes_openQuote hstate value.not_mem)
    have htext : (gap.text ++ n.written ++ quote.mark ++ value.text).toList
        = gap.text.toList ++ n.written.toList ++ quote.char :: value.text.toList := by
      simp
    rw [hopened, feed, htext, hopen.scan_eq]
    simp only [site, openQuote, helement, hattribute]
  · rw [hopened, ← hbehind.next_close]
    exact (passes_singleton hbehind.insideTag).scan_eq
  · have hread := passes_blanks_to_afterElementName (state_behind_of_endsClosed hclosed)
      gap.nonempty gap.isBlank_of_mem
    rw [hopened, feed, hread.scan_eq]
    simp only [site, enter_state, enter_elementName, hbehind.elementName]

/-- A tag with an attribute of each kind, the last one quoted, and a value that looks like its
end. -/
theorem feed_startTag_of_three_attributes :
    let blank : Gap := ⟨⟨"\t ", List.all_iff_forall_prop.mp rfl⟩, by decide⟩
    let id : AttributeName := ⟨"id", by decide, List.all_iff_forall_prop.mp rfl⟩
    let valueDue : NamedValue :=
      ⟨id, ⟨" ", List.all_iff_forall_prop.mp rfl⟩, ⟨"", List.all_iff_forall_prop.mp rfl⟩⟩
    let tag : StartTag := ⟨⟨"p-1", ⟨'p', rfl, rfl⟩, List.all_iff_forall_prop.mp rfl⟩,
      [(blank, .unquoted valueDue ⟨"a='", ⟨'a', rfl, rfl⟩, List.all_iff_forall_prop.mp rfl⟩),
        (blank, .bare ⟨"\"<", by decide, List.all_iff_forall_prop.mp rfl⟩),
        (blank, .quoted valueDue .single ⟨"/> ", by decide⟩)]⟩
    tag.written = "<p-1\t id =a='\t \"<\t id ='/> '" ∧ tag.EndsClosed ∧
      ((fresh.feed tag.written).feed "\t ").site = .inTag "p-1" ∧
      ((fresh.feed tag.written).feed "\t id =\">").site = .inValue "p-1" "id" (some .double) := by
  intro blank id valueDue tag
  have hclosed : tag.EndsClosed := by
    intro a ha
    obtain rfl := Option.some.inj ha
    rfl
  obtain ⟨_, _, hquoted, _, hgap⟩ := feed_startTag tag
  exact ⟨by decide, hclosed, hgap hclosed blank,
    hquoted blank valueDue .double ⟨">", by decide⟩⟩

end Context

end SafeMarkup
