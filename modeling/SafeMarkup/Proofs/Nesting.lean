import SafeMarkup.Proofs.Documents
import SafeMarkup.Proofs.FreeText

/-!
# Documents inside documents

A document that is done is trusted markup, and may be a value of another document.  There it is read
as one text, while it was read piece by piece when it was built.  If it stands in free text, and
ends in free text for both readers, that makes no difference to the outer document: it comes out as
if the literals and values of the inner one had been written down in its place.

* `joinLiterals` — the literals of two documents that follow one another.
* `addAll_woven_joinLiterals` — pieces may be put together at a border in free text.
* `SameWay`, `addAll_of_sameWay` — builders that go on in the same way add the same text.
* **`renderParts_nested_eq_flattened`** — a nested document may be written out.
-/

namespace SafeMarkup

/-- The literals of two documents that follow one another: the last literal of the first and the
first of the second become one. -/
def joinLiterals : List String → List String → List String
  | [], second => second
  | [last], [] => [last]
  | [last], literal :: rest => (last ++ literal) :: rest
  | literal :: next :: more, second => literal :: joinLiterals (next :: more) second

lemma length_joinLiterals : ∀ {first second : List String} {m n : ℕ},
    first.length = m + 1 → second.length = n + 1 →
      (joinLiterals first second).length = m + n + 1
  | [last], literal :: rest, m, n, hfirst, hsecond => by
      simp only [List.length_cons, List.length_nil] at hfirst hsecond
      simp only [joinLiterals, List.length_cons]
      omega
  | literal :: next :: more, second, m, n, hfirst, hsecond => by
      simp only [List.length_cons] at hfirst
      have hrest : (joinLiterals (next :: more) second).length = (m - 1) + n + 1 :=
        length_joinLiterals (by simp only [List.length_cons]; omega) hsecond
      simp only [joinLiterals, List.length_cons, hrest]
      omega

namespace Builder

variable {b b' : Builder} {v : Value} {first second : List String} {vs ws : List Value}

/-! ## Borders -/

lemma append_append_of_state_text {s t : String} (h : (b.context.feed s).state = .text) :
    (b.append s).append t = b.append (s ++ t) := by
  refine append_append ?_
  rw [Context.feed, Context.feed, Context.feed, String.toList_append,
    Context.scan_append_of_state_text h]

/-- **Pieces may be put together at a border in free text.** -/
lemma addAll_woven_joinLiterals : ∀ {first : List String} {vs : List Value} {b : Builder},
    first.length = vs.length + 1 → second ≠ [] →
      (b.addAll (woven first vs)).1.context.state = .text →
      b.addAll (woven (joinLiterals first second) (vs ++ ws))
        = (b.addAll (woven first vs)).1.addAll (woven second ws)
  | [last], [], b, _, hsecond, htext => by
      obtain ⟨literal, rest, rfl⟩ := List.exists_cons_of_ne_nil hsecond
      -- what comes behind the first literal does not depend on it
      obtain ⟨tail, htail⟩ : ∃ tail, ∀ text, woven (text :: rest) ws = .literal text :: tail := by
        cases ws with
        | nil => exact ⟨_, fun _ => rfl⟩
        | cons w ws => exact ⟨_, fun _ => rfl⟩
      have hlast : (b.addAll (woven [last] [])).1 = b.append last := by
        rw [show woven [last] [] = [.literal last] from rfl, addAll_cons (add_literal last),
          addResolved_literal]
        rfl
      rw [hlast] at htext
      rw [List.nil_append, joinLiterals, hlast, htail, htail, addAll_cons (add_literal _),
        addAll_cons (add_literal _), addResolved_literal, addResolved_literal,
        append_append_of_state_text htext]
  | literal :: next :: more, v :: vs, b, hlength, hsecond, htext => by
      obtain ⟨behind, hadd, hrun⟩ := addAll_woven_cons b literal (next :: more) v vs
      obtain ⟨behind', hadd', hrun'⟩ := addAll_woven_cons b literal
        (joinLiterals (next :: more) second) v (vs ++ ws)
      obtain rfl : behind' = behind := Except.ok.inj (hadd'.symm.trans hadd)
      rw [hrun] at htext
      rw [joinLiterals, List.cons_append, hrun', hrun]
      exact addAll_woven_joinLiterals (Nat.succ.inj hlength) hsecond htext

lemma woven_append_value : ∀ {first : List String} {vs : List Value},
    first.length = vs.length + 1 →
      woven (first ++ second) (vs ++ v :: ws) = woven first vs ++ .value v :: woven second ws
  | [_], [], _ => rfl
  | literal :: next :: more, w :: vs, hlength => by
      have hrest : woven (next :: more ++ second) (vs ++ v :: ws)
          = woven (next :: more) vs ++ .value v :: woven second ws :=
        woven_append_value (Nat.succ.inj hlength)
      exact congrArg (Piece.literal literal :: Piece.value w :: ·) hrest

/-- The run of a document with a value goes through the value. -/
lemma addAll_woven_append_value (hlength : first.length = vs.length + 1)
    (hadd : (b.addAll (woven first vs)).1.add (.value v) = .ok b') :
    b.addAll (woven (first ++ second) (vs ++ v :: ws)) = b'.addAll (woven second ws) := by
  rw [woven_append_value hlength, addAll_append _ (snd_addAll_woven first vs b), addAll_cons hadd]

/-! ## Builders that go on in the same way -/

/-- Two builders that differ in what they have done, but not in what they will do. -/
structure SameWay (b b' : Builder) : Prop where
  config : b'.config = b.config
  context : b'.context = b.context

lemma SameWay.addResolved (h : SameWay b b') (piece : Piece) :
    piece.resolvedText b'.config b'.site = piece.resolvedText b.config b.site ∧
      SameWay (b.addResolved piece) (b'.addResolved piece) := by
  have htext : piece.resolvedText b'.config b'.site = piece.resolvedText b.config b.site := by
    rw [site, site, h.config, h.context]
  exact ⟨htext, h.config, by rw [addResolved_context, addResolved_context, h.context, htext]⟩

/-- **Builders that go on in the same way add the same text.** -/
lemma addAll_of_sameWay : ∀ (pieces : List Piece) {b b' : Builder}, SameWay b b' →
    ∃ added, (b.addAll pieces).1.document = b.document ++ added ∧
      (b'.addAll pieces).1.document = b'.document ++ added ∧
      SameWay (b.addAll pieces).1 (b'.addAll pieces).1
  | [], b, b', h => ⟨"", by simp [addAll], by simp [addAll], h⟩
  | piece :: rest, b, b', h => by
      cases hresolve : piece.resolve with
      | error e =>
          have hstop : ∀ d : Builder, d.addAll (piece :: rest) = (d, some e) := by
            intro d
            rw [addAll, add, hresolve]
            rfl
          rw [hstop, hstop]
          exact ⟨"", by simp, by simp, h⟩
      | ok resolved =>
          have hadd : ∀ d : Builder, d.add piece = .ok (d.addResolved resolved) := by
            intro d
            rw [add, hresolve]
            rfl
          obtain ⟨htext, hbehind⟩ := h.addResolved resolved
          obtain ⟨added, hdocument, hdocument', hway⟩ := addAll_of_sameWay rest hbehind
          rw [addAll_cons (hadd b), addAll_cons (hadd b')]
          refine ⟨resolved.resolvedText b.config b.site ++ added, ?_, ?_, hway⟩
          · rw [hdocument, addResolved_document, String.append_assoc]
          · rw [hdocument', addResolved_document, htext, String.append_assoc]

/-! ## Free text -/

/-- Trusted markup goes into free text as it is. -/
lemma add_html_of_state_text (h : b.context.state = .text) (markup : String) :
    ∃ behind, b.add (.value (.html markup)) = .ok behind ∧
      behind.config = b.config ∧ behind.context = b.context.feed markup ∧
      behind.document = b.document ++ markup := by
  have hplain : (Value.html markup).IsPlain := by simp [Value.IsPlain]
  have hsite : b.site = .text := by rw [site, Context.site, h]
  have htext : Piece.resolvedText b.config b.site (.value (.html markup)) = markup := by
    rw [hsite]
    rfl
  refine ⟨_, add_value hplain, rfl, ?_, ?_⟩
  · rw [addResolved_context, htext]
  · rw [addResolved_document, htext]

/-- A run in free text adds what it would add to an empty document. -/
lemma addAll_of_state_text {config : Config} (hb : b.Reachable) (hconfig : b.config = config)
    (hstate : b.context.state = .text) (pieces : List Piece) :
    (b.addAll pieces).1.document
        = b.document ++ ((start config).addAll pieces).1.document ∧
      (b.addAll pieces).1.context = ((start config).addAll pieces).1.context := by
  have hway : SameWay (start config) b := ⟨hconfig, hb.context_eq_fresh hstate⟩
  obtain ⟨added, hstart, hadded, hbehind⟩ := addAll_of_sameWay pieces hway
  rw [start, String.empty_append] at hstart
  exact ⟨by rw [hadded, start, hstart], hbehind.context⟩

end Builder

open Builder in
/-- **A nested document may be written out.**  Take a document with another document among its
values, both with one configuration.  If the inner document stands in free text, and both those who
build it piece by piece and those who read it as one text come to free text at its end, then the
outer document is the same with the literals and values of the inner one in its place, where the
literals next to it become one with the first and the last literal of the inner document. -/
theorem renderParts_nested_eq_flattened {settings : Settings} {config : Config}
    {literals inner : List String} {values innerValues : List Value} {document : String} {k : ℕ}
    (hcheck : settings.check = .ok config)
    (hlength : literals.length = values.length + 1)
    (hinner : renderParts settings inner innerValues = .ok document)
    (hvalue : values[k]? = some (.html document))
    (hsite : ((start config).addAll (woven (literals.take (k + 1)) (values.take k))).1.context.state
      = .text)
    (hend : ((start config).addAll (woven inner innerValues)).1.context.state = .text)
    (hwhole : (Context.fresh.feed document).state = .text) :
    ∃ whole, renderParts settings literals values = .ok whole ∧
      renderParts settings
          (joinLiterals (joinLiterals (literals.take (k + 1)) inner) (literals.drop (k + 1)))
          (values.take k ++ innerValues ++ values.drop (k + 1))
        = .ok whole := by
  obtain ⟨hk, hnested⟩ := List.getElem?_eq_some_iff.mp hvalue
  set first := literals.take (k + 1)
  set second := literals.drop (k + 1)
  set vs := values.take k
  set ws := values.drop (k + 1)
  have hliterals : literals = first ++ second := (List.take_append_drop (k + 1) literals).symm
  have hvalues : values = vs ++ .html document :: ws := by
    rw [← hnested, ← List.drop_eq_getElem_cons hk, List.take_append_drop]
  have hfirst : first.length = vs.length + 1 := by
    simp only [first, vs, List.length_take]
    omega
  have hsecond : second.length = ws.length + 1 := by
    simp only [second, ws, List.length_drop]
    omega
  have hinnerLength : inner.length = innerValues.length + 1 := length_of_renderParts_eq_ok hinner
  -- in front of the nested document, behind it in the outer one, and behind what it was built of
  set b := ((start config).addAll (woven first vs)).1
  have hb : b.Reachable := reachable_addAll config _
  obtain ⟨whole, hadd, hconfig, hcontext, hdocument⟩ := add_html_of_state_text hsite document
  set built := (b.addAll (woven inner innerValues)).1
  have hbConfig : b.config = config := addAll_config _ _
  obtain ⟨hbuilt, hbuiltContext⟩ := addAll_of_state_text hb hbConfig hsite
    (woven inner innerValues)
  have hinnerDocument : ((start config).addAll (woven inner innerValues)).1.document = document :=
    Except.ok.inj ((renderParts_eq_document hcheck hinnerLength).symm.trans hinner)
  have hsame : SameWay whole built := by
    have hread : whole.context = .fresh := by
      rw [hcontext, hb.context_eq_fresh hsite]
      exact (Context.nothingKept_fresh.feed document).eq_fresh hwhole
    refine ⟨by rw [hconfig, addAll_config], ?_⟩
    rw [hbuiltContext, hread, (reachable_addAll config _).context_eq_fresh hend]
  obtain ⟨added, hwholeAdded, hbuiltAdded, -⟩ := addAll_of_sameWay (woven second ws) hsame
  -- the outer document goes through the nested one, the flattened one through its pieces
  have houter : (start config).addAll (woven literals values) = whole.addAll (woven second ws) := by
    rw [hliterals, hvalues]
    exact addAll_woven_append_value hfirst hadd
  have hborder : (start config).addAll (woven (joinLiterals first inner) (vs ++ innerValues))
      = b.addAll (woven inner innerValues) :=
    addAll_woven_joinLiterals hfirst (List.ne_nil_of_length_eq_add_one hinnerLength) hsite
  have hjoined : (joinLiterals first inner).length = (vs ++ innerValues).length + 1 := by
    rw [List.length_append]
    exact length_joinLiterals hfirst hinnerLength
  have hflattened : (start config).addAll
      (woven (joinLiterals (joinLiterals first inner) second) (vs ++ innerValues ++ ws))
        = built.addAll (woven second ws) := by
    rw [addAll_woven_joinLiterals hjoined (List.ne_nil_of_length_eq_add_one hsecond), hborder]
    rw [hborder, hbuiltContext]
    exact hend
  have hlengths : (joinLiterals (joinLiterals first inner) second).length
      = (vs ++ innerValues ++ ws).length + 1 := by
    rw [List.length_append]
    exact length_joinLiterals hjoined hsecond
  refine ⟨whole.document ++ added, ?_, ?_⟩
  · rw [renderParts_eq_document hcheck hlength, houter, hwholeAdded]
  · rw [renderParts_eq_document hcheck hlengths, hflattened, hbuiltAdded, hbuilt, hinnerDocument,
      hdocument]

/-- An inner document with borders that look like those of a comment, and a value in the place of
a name. -/
theorem renderParts_nested_eq_flattened_at_hyphens :
    let literals := ["<p id=", "> a -", "--><!-- ", " -->"]
    let inner := ["-><b>", "</b><", ">-"]
    let innerValues := [.str "<", .str "hr"]
    let document := "-><b>&lt;</b><hr>-"
    let values := [.str "x", .html document, .str "y"]
    renderParts .default inner innerValues = .ok document ∧
      renderParts .default literals values
        = .ok "<p id=\"x\"> a --><b>&lt;</b><hr>---><!-- y -->" ∧
      renderParts .default ["<p id=", "> a --><b>", "</b><", ">---><!-- ", " -->"]
          [.str "x", .str "<", .str "hr", .str "y"]
        = .ok "<p id=\"x\"> a --><b>&lt;</b><hr>---><!-- y -->" := by
  intro literals inner innerValues document values
  have hinner : renderParts .default inner innerValues = .ok document := by decide +kernel
  have houter : renderParts .default literals values
      = .ok "<p id=\"x\"> a --><b>&lt;</b><hr>---><!-- y -->" := by decide +kernel
  have hvalue : values[1]? = some (.html document) := rfl
  have hlength : literals.length = values.length + 1 := rfl
  have hcheck : Settings.default.check = .ok .default := rfl
  obtain ⟨whole, hnested, hflattened⟩ := renderParts_nested_eq_flattened hcheck hlength hinner hvalue
    (by decide +kernel) (by decide +kernel) (by decide +kernel)
  obtain rfl : "<p id=\"x\"> a --><b>&lt;</b><hr>---><!-- y -->" = whole :=
    Except.ok.inj (houter.symm.trans hnested)
  exact ⟨hinner, houter, hflattened⟩

end SafeMarkup
