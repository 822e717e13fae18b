import Mathlib.Data.List.Basic
import SafeMarkup.Proofs.Pieces
import SafeMarkup.Proofs.Tag

/-!
# Texts at the place of an attribute value

A text goes into an attribute value with a backslash in front of each double quote.  To the scanner
a backslash is a character like any other, so the quote behind it still ends a value in double
quotes; and behind a value, or in one without quotes, the quotes that the text brings with it open
nothing.  So a text can end the tag, and what decides is the text as it is appended.

* `substitute_singleton` — replacing a character is done one character at a time.
* `renderAt_str` — a text is quoted, whatever the attribute is.
* `endsTag_quoteValue_of_quoted`, … — texts that cannot end the tag.
* **`add_str_keepsTag_iff`** — exactly when the scanner stays in the tag of its element.
-/

namespace SafeMarkup

variable {s : String} {c : Char}

/-! ## The text that is appended -/

/-- Replacing a single character is done one character at a time. -/
lemma substitute_singleton (c : Char) (replacement : List Char) : ∀ text : List Char,
    substitute [c] replacement text = text.flatMap fun d => if d = c then replacement else [d]
  | [] => rfl
  | d :: rest => by
      have hrest := substitute_singleton c replacement rest
      have hhead : [c].isPrefixOf (d :: rest) = true ↔ d = c := by
        rw [List.isPrefixOf_iff_prefix, List.cons_prefix_cons, and_iff_left List.nil_prefix,
          eq_comm]
      rw [substitute] at hrest
      rw [substitute, substituteFrom, List.flatMap_cons, ← hrest]
      by_cases h : d = c
      · rw [if_pos (hhead.mpr h), if_pos h]
        rfl
      · rw [if_neg (mt hhead.mp h), if_neg h]
        rfl

/-- A character that does not occur is not replaced. -/
lemma substitute_of_not_mem {replacement text : List Char} (h : c ∉ text) :
    substitute [c] replacement text = text := by
  rw [substitute_singleton]
  induction text with
  | nil => rfl
  | cons d rest ih =>
      have hne : c ≠ d := List.ne_of_not_mem_cons h
      rw [List.flatMap_cons, if_neg hne.symm, ih (List.not_mem_of_not_mem_cons h)]
      rfl

lemma quoteValue_of_not_mem (h : '"' ∉ s.toList) (quote : Option Quote) :
    quoteValue s quote = if quote = none then "\"" ++ s ++ "\"" else s := by
  unfold quoteValue
  rw [substitute_of_not_mem h, String.ofList_toList]
  rcases quote with _ | _ | _ <;> rfl

/-- Where no quote has opened the value, the text brings a pair of double quotes. -/
lemma toList_quoteValue_none (s : String) : (quoteValue s none).toList
    = '"' :: (substitute ['"'] ['\\', '"'] s.toList ++ ['"']) := by
  simp [quoteValue]

/-- Quoting brings in backslashes and double quotes, and nothing else. -/
lemma mem_of_mem_quoteValue {quote : Option Quote} (hslash : c ≠ '\\') (hquote : c ≠ '"')
    (h : c ∈ (quoteValue s quote).toList) : c ∈ s.toList := by
  have hescaped : c ∈ substitute ['"'] ['\\', '"'] s.toList → c ∈ s.toList := by
    rw [substitute_singleton]
    intro hmem
    obtain ⟨d, hd, hc⟩ := List.mem_flatMap.mp hmem
    split_ifs at hc with heq
    · simp [hslash, hquote] at hc
    · rwa [List.mem_singleton.mp hc]
  unfold quoteValue at h
  rcases quote with _ | _ | _
  · simp only [String.toList_append, String.toList_ofList, List.mem_append] at h
    rcases h with (h | h) | h
    · exact absurd (by simpa using h) hquote
    · exact hescaped h
    · exact absurd (by simpa using h) hquote
  · exact h
  · exact hescaped (by simpa using h)

/-- A text is quoted, whatever the attribute is. -/
lemma renderAt_str {config : Config} {site : Site} (hsite : site.kind = .attributeValue) :
    renderAt config (.str s) site = quoteValue s site.quote := by
  have htext : ∀ name element, attributeText? name (.str s) element = some s := by
    intro name element
    simp only [attributeText?, Value.ownAttributeValue?, plainAttributeText, textItems?,
      Value.sequence?, Value.entries?]
    split_ifs <;> rfl
  simp only [renderAt, hsite, renderInValue, htext, Option.getD_some]

/-! ## Texts that cannot end the tag -/

namespace TagPart

lemma endsTag_quoteValue_of_no_close (part : TagPart) (quote : Option Quote)
    (h : '>' ∉ s.toList) : part.endsTag (quoteValue s quote).toList = false :=
  endsTag_eq_false_of_not_mem part fun hmem =>
    h (mem_of_mem_quoteValue (by decide) (by decide) hmem)

/-- In quotes, a text without that quote. -/
lemma endsTag_quoteValue_of_quoted {quote : Quote} (h : quote.char ∉ s.toList) :
    (quoted quote).endsTag (quoteValue s (some quote)).toList = false := by
  have htext : quoteValue s (some quote) = s := by
    cases quote with
    | single => rfl
    | double => exact quoteValue_of_not_mem h (some .double)
  rw [htext, ← List.append_nil s.toList, endsTag_quoted_append [] h]
  rfl

/-- Before a value, a text without double quotes: it is read as a value in double quotes. -/
lemma endsTag_quoteValue_of_valueDue (h : '"' ∉ s.toList) :
    valueDue.endsTag (quoteValue s none).toList = false := by
  have htext : (quoteValue s none).toList = '"' :: (s.toList ++ ['"']) := by
    rw [quoteValue_of_not_mem h, if_pos rfl]
    simp
  have hopen : valueDue.next '"' = some (quoted .double) := by decide
  rw [htext, endsTag, hopen]
  exact endsTag_quoted_append ['"'] h

end TagPart

/-! ## The builder behind a text -/

namespace Context

variable {ctx : Context}

lemma site_kind_eq_attributeValue_iff : ctx.site.kind = .attributeValue ↔
    ctx.state = .beforeAttributeValue ∨ ctx.state = .attributeValue ∨
      ctx.state = .afterAttributeValue := by
  unfold site
  cases ctx.state <;> simp [Site.inTag, Site.inValue, Site.comment, Site.text]

/-- The states at an attribute value are states of a tag whose name is complete. -/
lemma insideTag_of_site_kind (h : ctx.site.kind = .attributeValue) :
    ctx.state.insideTag = true ∧ ctx.state ≠ .elementName := by
  rcases site_kind_eq_attributeValue_iff.mp h with hstate | hstate | hstate
  all_goals
    rw [hstate]
    decide

/-- A quote at the site is the one that the scanner is in. -/
lemma tagPart_of_site_quote {quote : Quote} (h : ctx.site.quote = some quote) :
    ctx.tagPart = .quoted quote := by
  unfold site at h
  unfold tagPart
  cases hstate : ctx.state with
  | attributeValue =>
      rw [hstate] at h
      have hquote : ctx.quote = some quote := h
      rw [hquote]
  | _ =>
      rw [hstate] at h
      exact absurd h (by simp [Site.inTag, Site.inValue, Site.comment, Site.text])

end Context

namespace Builder

/-- **When a text at an attribute value keeps the tag open.**  A text is always appended, and
quoted for the site.  The scanner then stays in the tag of its element, and never gets into free
text on its way, exactly if what is appended holds no `>` outside quotes, read from the part of the
tag that the site is in.  That is so for a text without `>`, for a text in quotes that does not
hold the quote, and for a text without double quotes where the value has not started. -/
theorem add_str_keepsTag_iff (b : Builder) (hsite : b.site.kind = .attributeValue) (s : String) :
    ∃ after, b.add (.value (.str s)) = .ok after ∧
      after.document = b.document ++ quoteValue s b.site.quote ∧
      after.context = b.context.feed (quoteValue s b.site.quote) ∧
      (b.context.KeepsTag (quoteValue s b.site.quote).toList ↔
        b.context.tagPart.endsTag (quoteValue s b.site.quote).toList = false) ∧
      ('>' ∉ s.toList → b.context.KeepsTag (quoteValue s b.site.quote).toList) ∧
      (∀ quote, b.site.quote = some quote → quote.char ∉ s.toList →
        b.context.KeepsTag (quoteValue s b.site.quote).toList) ∧
      (b.context.state = .beforeAttributeValue → '"' ∉ s.toList →
        b.context.KeepsTag (quoteValue s b.site.quote).toList) := by
  obtain ⟨htag, hname⟩ := Context.insideTag_of_site_kind hsite
  have hkeeps : b.context.KeepsTag (quoteValue s b.site.quote).toList ↔
      b.context.tagPart.endsTag (quoteValue s b.site.quote).toList = false :=
    Context.keepsTag_iff htag hname
  have htext : Piece.resolvedText b.config b.site (.value (.str s)) = quoteValue s b.site.quote :=
    renderAt_str hsite
  refine ⟨_, add_value ⟨by simp, by simp⟩, ?_, ?_, hkeeps, fun hclose => ?_,
    fun quote hquote hno => ?_, fun hdue hno => ?_⟩
  · rw [addResolved_document, htext]
  · rw [addResolved_context, htext]
  · rw [hkeeps]
    exact TagPart.endsTag_quoteValue_of_no_close _ _ hclose
  · rw [hkeeps, hquote, Context.tagPart_of_site_quote hquote]
    exact TagPart.endsTag_quoteValue_of_quoted hno
  · have hpart : b.context.tagPart = .valueDue := by simp only [Context.tagPart, hdue]
    have hquote : b.site.quote = none := by
      unfold site Context.site
      rw [hdue]
      rfl
    rw [hkeeps, hquote, hpart]
    exact TagPart.endsTag_quoteValue_of_valueDue hno

/-- A `>` between double quotes, with the other quote in front of it. -/
theorem add_str_keepsTag_around_close :
    let opened := ((start .default).addAll [.literal "<a title=\""]).1
    let appended := (quoteValue "'>" opened.site.quote).toList
    opened.site.kind = .attributeValue ∧ opened.site.quote = some .double ∧
      Quote.double.char ∉ "'>".toList ∧ opened.context.KeepsTag appended ∧
      ∃ after, opened.add (.value (.str "'>")) = .ok after ∧
        after.document = "<a title=\"'>" := by
  intro opened appended
  have hsite : opened.site.kind = .attributeValue := by decide +kernel
  have hquote : opened.site.quote = some .double := by decide +kernel
  have hno : Quote.double.char ∉ "'>".toList := by decide
  obtain ⟨after, hadd, hdocument, _, _, _, hquoted, _⟩ := add_str_keepsTag_iff opened hsite "'>"
  refine ⟨hsite, hquote, hno, hquoted .double hquote hno, after, hadd, ?_⟩
  rw [hdocument]
  decide +kernel

/-- In double quotes, a text that holds a double quote and then `>` ends the tag. -/
theorem text_with_quote_ends_tag :
    let opened := ((start .default).addAll [.literal "<a title=\""]).1
    let behind := ((start .default).addAll [.literal "<a title=\"", .value (.str "\">")]).1
    opened.site = .inValue "a" "title" (some .double) ∧
      behind.document = "<a title=\"\\\">" ∧ behind.context = .fresh ∧ behind.site = .text := by
  decide +kernel

end Builder

end SafeMarkup
