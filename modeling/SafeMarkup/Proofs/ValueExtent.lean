import Mathlib.Data.List.Chain
import SafeMarkup.Proofs.AttributeSite
import SafeMarkup.Proofs.TagRun

/-!
# How far a quoted value reaches

A value that is written between quotes reaches as far as its text does not hold the quote.  The
backslash that the writer puts in front of a double quote is a character of the value to the
scanner, so the double quote behind it ends the value.  What is left of the text is then read as
markup of the tag, and could open a value again.

Between single quotes it can: nothing is put in front of a single quote.  Between double quotes it
cannot.  A double quote opens a value only where one is due, and behind the backslash that comes
with every double quote of the text none is: there the scanner is within a name, an unquoted value,
or text.

* `Context.InQuotes` — within a value in quotes; `InQuotes.of_next` says which steps lead there.
* `Context.StaysThrough`, `Context.ReadsValue` — a text that stays within a value, and one that is
  a value of its own.
* `EscapedQuotes` — every double quote has a backslash in front of it.
* `staysThrough_iff`, `readsValue_iff` — the texts that stay within a value, and those that are one.
* **`not_inQuotes_scanFrom`** — outside double quotes, such a text never gets into them.
* **`Builder.add_value_extent`** — how far a value reaches.
-/

namespace SafeMarkup

variable {s : String} {c prev : Char} {text : List Char}

/-! ## The text between the quotes -/

/-- Every double quote has a backslash in front of it; `prev` is what stands in front of the
text. -/
def EscapedQuotes (prev : Char) (text : List Char) : Prop :=
  List.IsChain (fun before c => c = '"' → before = '\\') (prev :: text)

lemma escapedQuotes_cons :
    EscapedQuotes prev (c :: text) ↔ (c = '"' → prev = '\\') ∧ EscapedQuotes c text :=
  List.isChain_cons_cons

lemma escapedQuotes_substitute : ∀ (text : List Char) (prev : Char),
    EscapedQuotes prev (substitute ['"'] ['\\', '"'] text)
  | [], prev => List.isChain_singleton prev
  | c :: rest, prev => by
      have hrest := fun prev => escapedQuotes_substitute rest prev
      rw [substitute_singleton] at hrest ⊢
      rw [List.flatMap_cons]
      by_cases hquote : c = '"'
      · rw [if_pos hquote]
        refine escapedQuotes_cons.mpr ⟨fun h => absurd h (by decide), ?_⟩
        exact escapedQuotes_cons.mpr ⟨fun _ => rfl, hrest _⟩
      · rw [if_neg hquote]
        exact escapedQuotes_cons.mpr ⟨fun h => absurd h hquote, hrest _⟩

/-- What stands behind a part of the text is escaped as well. -/
lemma EscapedQuotes.of_append {front : List Char} (h : EscapedQuotes prev (front ++ c :: text)) :
    EscapedQuotes c text :=
  List.IsChain.suffix h ⟨prev :: front, rfl⟩

lemma EscapedQuotes.of_prefix {front : List Char} (h : EscapedQuotes prev text)
    (hfront : front <+: text) : EscapedQuotes prev front :=
  List.IsChain.prefix h (List.cons_prefix_cons.mpr ⟨rfl, hfront⟩)

lemma mem_substitute_quote_iff :
    '"' ∈ substitute ['"'] ['\\', '"'] text ↔ '"' ∈ text := by
  constructor
  · intro hmem
    by_contra hno
    rw [substitute_of_not_mem hno] at hmem
    exact hno hmem
  · intro hmem
    rw [substitute_singleton]
    exact List.mem_flatMap.mpr ⟨'"', hmem, by simp⟩

/-- The quote around a value occurs in the text that is written exactly if the value has it. -/
lemma char_mem_quoteValue_iff (quote : Quote) :
    quote.char ∈ (quoteValue s (some quote)).toList ↔ quote.char ∈ s.toList := by
  cases quote with
  | single => rfl
  | double =>
      simp only [quoteValue, String.toList_ofList]
      exact mem_substitute_quote_iff

lemma eq_char_of_ofChar? {quote : Quote} (h : Quote.ofChar? c = some quote) : c = quote.char := by
  rw [Quote.ofChar?] at h
  split_ifs at h with hsingle hdouble
  · rw [← Option.some.inj h]
    exact hsingle
  · rw [← Option.some.inj h]
    exact hdouble

namespace Context

variable {ctx : Context} {quote : Quote} {rest : List Char}

/-- Within a value that the quote has opened. -/
def InQuotes (ctx : Context) (quote : Quote) : Prop :=
  ctx.state = .attributeValue ∧ ctx.quote = some quote

/-- The scanner does not move, wherever in the text it stands. -/
def StaysThrough (ctx : Context) (text : List Char) : Prop :=
  ∀ front, front <+: text → ctx.scan front = ctx

/-- The text is read as one value in double quotes: from its first character on the scanner is
within the value, and with the last one it is behind it. -/
def ReadsValue (ctx : Context) (text : List Char) : Prop :=
  (∀ front, front <+: text → front ≠ [] → front ≠ text → (ctx.scan front).InQuotes .double) ∧
    (ctx.scan text).state = .afterAttributeValue

lemma InQuotes.openQuote_eq (h : ctx.InQuotes quote) : ctx.openQuote quote = ctx := by
  obtain ⟨hstate, hquote⟩ := h
  rw [openQuote, ← hstate, ← hquote]

lemma inQuotes_openQuote (ctx : Context) (quote : Quote) : (ctx.openQuote quote).InQuotes quote :=
  ⟨rfl, rfl⟩

lemma not_inQuotes_endValue (ctx : Context) (quote : Quote) : ¬ ctx.endValue.InQuotes quote :=
  fun h => absurd h.1 (by simp [endValue])

/-! ## Texts that stay within a value -/

/-- The first quote ends the value. -/
lemma scan_through_quote (h : ctx.InQuotes quote) {front : List Char} (hno : quote.char ∉ front)
    (rest : List Char) : ctx.scan (front ++ quote.char :: rest) = ctx.endValue.scan rest := by
  have hfront : Passes ctx front ctx := h.openQuote_eq ▸ passes_within_quotes hno
  have hend : ctx.next quote.char = ctx.endValue := by
    rw [← h.openQuote_eq, next_closeQuote]
    rfl
  have hinside : ctx.state.insideTag = true := by rw [h.1]; rfl
  obtain ⟨htag, hcomment⟩ := not_ahead_of_insideTag hinside
  rw [hfront.scan_append, scan_cons htag hcomment, hend]

/-- **A text stays within a value** exactly if it does not hold the quote. -/
lemma staysThrough_iff (h : ctx.InQuotes quote) : ctx.StaysThrough text ↔ quote.char ∉ text := by
  constructor
  · intro hstays hmem
    obtain ⟨front, rest, rfl, hno⟩ := List.eq_append_cons_of_mem hmem
    have hsame := hstays (front ++ [quote.char]) (by simp)
    rw [scan_through_quote h hno] at hsame
    have hstate : ctx.state = .afterAttributeValue := by rw [← hsame]; rfl
    exact absurd (h.1.symm.trans hstate) (by decide)
  · intro hno front hfront
    have hnot : quote.char ∉ front := fun hmem => hno (hfront.subset hmem)
    exact (h.openQuote_eq ▸ passes_within_quotes hnot : Passes ctx front ctx).scan_eq

/-- **A text between double quotes is one value** exactly if it holds none. -/
lemma readsValue_iff (h : ctx.state = .beforeAttributeValue) :
    ctx.ReadsValue ('"' :: (text ++ ['"'])) ↔ '"' ∉ text := by
  have hinside : ctx.state.insideTag = true := by rw [h]; rfl
  obtain ⟨htag, hcomment⟩ := not_ahead_of_insideTag hinside
  have hopen : ∀ rest, ctx.scan ('"' :: rest) = (ctx.openQuote .double).scan rest := by
    intro rest
    rw [scan_cons htag hcomment]
    exact congrArg (fun ctx : Context => ctx.scan rest) (next_openQuote h .double)
  have hin := inQuotes_openQuote ctx .double
  constructor
  · rintro ⟨hwithin, -⟩ hmem
    -- the first double quote of the text ends the value, and more follows
    obtain ⟨front, rest, rfl, hno⟩ := List.eq_append_cons_of_mem hmem
    have hend : (ctx.openQuote .double).scan (front ++ ['"']) = ctx.endValue :=
      scan_through_quote hin hno []
    have hquoted := hwithin ('"' :: (front ++ ['"'])) (by simp) (by simp) (by simp)
    rw [hopen, hend] at hquoted
    exact absurd hquoted (not_inQuotes_endValue ctx .double)
  · intro hno
    refine ⟨fun front hfront hne hpart => ?_, ?_⟩
    · cases front with
      | nil => exact absurd rfl hne
      | cons c front =>
          obtain ⟨rfl, hbehind⟩ := List.cons_prefix_cons.mp hfront
          -- a proper part ends in front of the last quote
          have hwithin : front <+: text := by
            rcases List.prefix_concat_iff.mp hbehind with heq | hwithin
            · exact absurd (congrArg _ heq) hpart
            · exact hwithin
          rw [hopen, (staysThrough_iff hin).mpr hno front hwithin]
          exact hin
    · have hend : (ctx.openQuote .double).scan (text ++ ['"']) = ctx.endValue :=
        scan_through_quote hin hno []
      rw [hopen, hend]
      rfl

/-! ## What opens a value in quotes -/

lemma state_betweenAttributes_ne (ctx : Context) (c : Char) :
    (ctx.betweenAttributes c).state ≠ .attributeValue := by
  rw [betweenAttributes]
  split_ifs <;> simp [fresh]

lemma state_openTag_ne (ctx : Context) (c : Char) : (ctx.openTag c).state ≠ .attributeValue := by
  rw [openTag]
  split_ifs <;> simp

/-- **What leads into quotes**: a step within them, or the quote itself where a value is due. -/
lemma InQuotes.of_next (h : (ctx.next c).InQuotes quote) :
    ctx.InQuotes quote ∨ ctx.state = .beforeAttributeValue ∧ c = quote.char := by
  have hfresh : ¬ fresh.InQuotes quote := fun h => absurd h.1 (by decide)
  have hbetween : ¬ (ctx.betweenAttributes c).InQuotes quote :=
    fun h => state_betweenAttributes_ne ctx c h.1
  have hnot : ∀ {other : Context}, other.state ≠ .attributeValue → ¬ other.InQuotes quote :=
    fun hstate h => hstate h.1
  cases hstate : ctx.state with
  | attributeValue =>
      left
      simp only [next, hstate] at h
      split at h <;> split_ifs at h
      · exact absurd h (not_inQuotes_endValue ctx quote)
      · exact h
      · exact absurd h (not_inQuotes_endValue ctx quote)
      · exact absurd h hfresh
      · exact h
  | beforeAttributeValue =>
      simp only [next, hstate] at h
      split_ifs at h
      · exact Or.inl h
      · exact absurd h hfresh
      · exact Or.inr ⟨rfl, eq_char_of_ofChar? h.2⟩
  | afterElementName | afterAttributeValue | selfClosingTag =>
      simp only [next, hstate] at h
      exact absurd h hbetween
  | tagOpen =>
      simp only [next, hstate] at h
      exact absurd h.1 (state_openTag_ne ctx c)
  | attributeName =>
      simp only [next, hstate] at h
      split_ifs at h
      · exact absurd h (hnot (by simp))
      · exact absurd h hbetween
      · exact absurd h (hnot (by simp))
  | afterAttributeName =>
      simp only [next, hstate] at h
      split_ifs at h
      · exact absurd h (hnot (by simp [hstate]))
      · exact absurd h hbetween
  | elementName =>
      simp only [next, hstate] at h
      split_ifs at h
      · exact absurd h (hnot (by simp))
      · exact absurd h (hnot (by simp))
      · exact absurd h hfresh
      · exact absurd h (hnot (by simp))
  | comment =>
      simp only [next, hstate] at h
      exact absurd h (hnot (by simp [hstate]))
  | text | unsupportedConstruct | beforeComment =>
      simp only [next, hstate] at h
      split_ifs at h <;> exact absurd h (hnot (by simp [hstate]))

/-- A backslash does not leave a value due. -/
lemma state_next_backslash (ctx : Context) : (ctx.next '\\').state ≠ .beforeAttributeValue := by
  have hblank : isBlank '\\' = false := by decide
  cases hstate : ctx.state with
  | attributeValue =>
      simp only [next, hstate]
      split <;> split_ifs <;> simp [endValue, fresh, hstate]
  | _ => simp [next, hstate, betweenAttributes, openTag, hblank, startsName]

/-- **Outside double quotes, text with escaped quotes never gets into them.**  Where characters are
passed over as part of a delimiter, no value is due; and where one is, there is no backslash in
front of the text. -/
lemma not_inQuotes_scanFrom : ∀ (text : List Char) (skip : ℕ) (ctx : Context) (prev : Char),
    EscapedQuotes prev text → ¬ ctx.InQuotes .double →
      (ctx.state = .beforeAttributeValue → skip = 0 ∧ prev ≠ '\\') →
        ¬ (scanFrom skip ctx text).InQuotes .double
  | [], _, _, _, _, hout, _ => hout
  | c :: rest, skip + 1, ctx, prev, hescaped, hout, hdue =>
      not_inQuotes_scanFrom rest skip ctx c (escapedQuotes_cons.mp hescaped).2 hout
        fun hstate => absurd (hdue hstate).1 (Nat.succ_ne_zero skip)
  | c :: rest, 0, ctx, prev, hescaped, hout, hdue => by
      obtain ⟨hquote, hrest⟩ := escapedQuotes_cons.mp hescaped
      rw [scanFrom_zero_cons]
      -- behind a delimiter the scanner is in text or in front of a comment
      have hdelimiter : ∀ {state} (more : ℕ), state ≠ .attributeValue →
          state ≠ .beforeAttributeValue →
            ¬ (scanFrom more (ctx.enter state) rest).InQuotes .double := fun more hvalue hbefore =>
        not_inQuotes_scanFrom rest more _ c hrest (fun h => hvalue h.1)
          fun hstate => absurd hstate hbefore
      rcases outcome_cases ctx c rest with heq | ⟨-, -, heq⟩ | ⟨-, -, heq⟩ | ⟨-, -, heq⟩
      · rw [heq]
        refine not_inQuotes_scanFrom rest 0 _ c hrest (fun hin => ?_) fun hstate => ⟨rfl, ?_⟩
        · rcases hin.of_next with hin | ⟨hstate, hc⟩
          · exact hout hin
          · exact (hdue hstate).2 (hquote hc)
        · rintro rfl
          exact state_next_backslash ctx hstate
      · rw [heq]
        exact hdelimiter 2 (by decide) (by decide)
      · rw [heq]
        exact hdelimiter 1 (by decide) (by decide)
      · rw [heq]
        exact hdelimiter 2 (by decide) (by decide)

/-- Text with escaped quotes that holds one leaves the value in double quotes for good. -/
lemma not_inQuotes_scan (h : ctx.InQuotes .double) (hescaped : EscapedQuotes prev text)
    (hmem : '"' ∈ text) : ¬ (ctx.scan text).InQuotes .double := by
  obtain ⟨front, rest, rfl, hno⟩ := List.eq_append_cons_of_mem hmem
  have hend : ctx.scan (front ++ '"' :: rest) = ctx.endValue.scan rest :=
    scan_through_quote h hno rest
  rw [hend]
  exact not_inQuotes_scanFrom rest 0 _ '"' hescaped.of_append (not_inQuotes_endValue ctx .double)
    fun hstate => absurd hstate (by simp [endValue])

end Context

namespace Builder

/-- **How far a value reaches.**  Between quotes, the scanner stays where it is throughout the text
that is appended exactly if the text of the value does not hold the quote.  In double quotes it
does not get back either: behind a double quote of the text it is never again within double
quotes.  Where a value is due, the text that is appended is read as one value in double quotes
exactly if the text of the value holds none. -/
theorem add_value_extent (b : Builder) {v : Value} {r : String} (hv : v.IsPlain)
    (hr : (attributeText? b.context.attributeName v b.context.elementName).getD v.written = r) :
    (∀ quote, b.context.state = .attributeValue → b.context.quote = some quote →
      ∃ after appended, b.add (.value v) = .ok after ∧ appended = quoteValue r (some quote) ∧
        after.document = b.document ++ appended ∧ after.context = b.context.feed appended ∧
        (b.context.StaysThrough appended.toList ↔ quote.char ∉ r.toList) ∧
        (quote = .double → '"' ∈ r.toList → after.context ≠ b.context ∧
          ∀ front, front <+: appended.toList → '"' ∈ front →
            ¬ (b.context.scan front).InQuotes .double)) ∧
    (b.context.state = .beforeAttributeValue →
      ∃ after appended, b.add (.value v) = .ok after ∧ appended = quoteValue r none ∧
        after.document = b.document ++ appended ∧ after.context = b.context.feed appended ∧
        (b.context.ReadsValue appended.toList ↔ '"' ∉ r.toList)) := by
  constructor
  · intro quote hstate hquote
    have hin : b.context.InQuotes quote := ⟨hstate, hquote⟩
    have hsite : b.site = .inValue b.context.elementName b.context.attributeName (some quote) := by
      rw [site, Context.site, hstate, hquote]
    have htext : Piece.resolvedText b.config b.site (.value v) = quoteValue r (some quote) := by
      rw [hsite, ← hr]
      rfl
    refine ⟨_, _, add_value hv, rfl, ?_, ?_, ?_, ?_⟩
    · rw [addResolved_document, htext]
    · rw [addResolved_context, htext]
    · rw [Context.staysThrough_iff hin, char_mem_quoteValue_iff]
    · rintro rfl hmem
      have hescaped : EscapedQuotes '"' (quoteValue r (some .double)).toList := by
        simp only [quoteValue, String.toList_ofList]
        exact escapedQuotes_substitute r.toList '"'
      have hleaves : ∀ front, front <+: (quoteValue r (some .double)).toList → '"' ∈ front →
          ¬ (b.context.scan front).InQuotes .double := fun front hfront hmem =>
        Context.not_inQuotes_scan hin (hescaped.of_prefix hfront) hmem
      refine ⟨fun hsame => ?_, hleaves⟩
      have hout : ¬ (b.context.feed (quoteValue r (some .double))).InQuotes .double :=
        hleaves _ (List.prefix_refl _) ((char_mem_quoteValue_iff .double).mpr hmem)
      rw [addResolved_context, htext] at hsame
      rw [hsame] at hout
      exact hout hin
  · intro hstate
    have hsite : b.site = .inValue b.context.elementName b.context.attributeName none := by
      rw [site, Context.site, hstate]
    have htext : Piece.resolvedText b.config b.site (.value v) = quoteValue r none := by
      rw [hsite, ← hr]
      rfl
    refine ⟨_, _, add_value hv, rfl, ?_, ?_, ?_⟩
    · rw [addResolved_document, htext]
    · rw [addResolved_context, htext]
    · rw [toList_quoteValue_none, Context.readsValue_iff hstate, mem_substitute_quote_iff]

/-- Between single quotes a text can end its value and open one of the same name again: the scanner
is where it was, although it has been elsewhere. -/
theorem add_value_extent_reopened :
    let opened := ((start .default).addAll [.literal "<a title='"]).1
    let text := "' title='"
    opened.context.state = .attributeValue ∧ opened.context.quote = some .single ∧
      ¬ opened.context.StaysThrough text.toList ∧
      ∃ after, opened.add (.value (.str text)) = .ok after ∧ after.context = opened.context := by
  intro opened text
  have hplain : (Value.str text).IsPlain := ⟨by simp, by simp⟩
  have hstate : opened.context.state = .attributeValue := by decide +kernel
  have hquote : opened.context.quote = some .single := by decide +kernel
  have hr : (attributeText? opened.context.attributeName (.str text)
      opened.context.elementName).getD (Value.str text).written = text := by decide +kernel
  obtain ⟨after, appended, hadd, happended, -, hcontext, hstays, -⟩ :=
    (add_value_extent opened hplain hr).1 .single hstate hquote
  have hsame : appended = text := happended
  rw [hsame] at hstays hcontext
  refine ⟨hstate, hquote, fun h => hstays.mp h (by decide), after, hadd, ?_⟩
  rw [hcontext]
  decide +kernel

end Builder

end SafeMarkup
