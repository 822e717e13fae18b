import Mathlib.Data.Bool.AllAny
import SafeMarkup.Document
import SafeMarkup.Proofs.Fragments
import SafeMarkup.Proofs.Pieces
import SafeMarkup.Proofs.TemplateText

/-!
# Three ways to one document

A document can be written down as literals with values between them, as literals with fields
between them, or as template text.  The last is read in other pieces than the others: a doubled
brace ends a chunk, so that the scanner reads one literal as several fragments.  No delimiter ends
in a brace, and so this makes no difference.

* `writeTemplate`, `Slot.fill?` — template text for literals and fields, and the fields of its
  slots.
* `append_append_of_clean`, `not_cutsDelimiter_of_isBrace` — appending text in two parts.
* `addTemplate_doubleBraces` — literal text of a template is appended as a whole.
* **`renderTemplate_writeTemplate`** — the three ways lead to one document or one error.
-/

namespace SafeMarkup

/-- Literals and the fields between them as the text of a template. -/
def writeTemplate : List String → List Slot → List Char
  | [], _ => []
  | literal :: rest, [] => doubleBraces literal.toList ++ writeTemplate rest []
  | literal :: rest, slot :: more =>
    doubleBraces literal.toList ++ (slot.written ++ writeTemplate rest more)

/-- The field that stands in a slot, if its value is there. -/
def Slot.fill? (values : TemplateValues) (slot : Slot) : Option Field :=
  (values.find? slot.name).map fun v =>
    ⟨v, slot.conversion.map String.singleton, slot.spec.getD ""⟩

/-! ## Cuts behind a brace -/

/-- A brace is part of no delimiter. -/
lemma Context.not_cutsDelimiter_of_isBrace {c : Char} (hc : isBrace c = true)
    (before after : List Char) : ¬ CutsDelimiter (before ++ [c]) after := by
  rintro ⟨delimiter, hmem, k, hk, hpos, hsuffix, _⟩
  have hne : delimiter.take k ≠ [] := by
    intro hnil
    have hlength : (delimiter.take k).length = k := List.length_take_of_le (Nat.le_of_lt hk)
    rw [hnil] at hlength
    exact absurd hlength (Nat.ne_of_lt hpos)
  have hlast : (delimiter.take k).getLast hne = c := by
    rw [hsuffix.getLast hne, List.getLast_append_singleton]
  have hchar : c ∈ delimiter := List.mem_of_mem_take (hlast ▸ List.getLast_mem hne)
  simp only [aheadDelimiters, List.mem_cons, List.not_mem_nil, or_false] at hmem
  rcases hmem with rfl | rfl <;> simp only [List.mem_cons, List.not_mem_nil, or_false] at hchar <;>
    rcases hchar with rfl | rfl | rfl <;> exact absurd hc (by decide)

namespace Builder

variable {b : Builder}

lemma append_append_of_clean {s t : String} (hclean : ¬ Context.CutsDelimiter s.toList t.toList) :
    (b.append s).append t = b.append (s ++ t) := by
  refine append_append ?_
  rw [Context.feed, Context.feed, Context.feed, String.toList_append, Context.scan_append hclean]

end Builder

/-! ## Template text, chunk by chunk -/

section

variable {values : TemplateValues} {b : Builder} {text rest before tail : List Char}

lemma addTemplate_of_literal {literal : String}
    (h : nextChunk? text = .ok (some (⟨literal, none⟩, rest))) :
    addTemplate values b (String.ofList text)
      = addTemplate values (b.append literal) (String.ofList rest) := by
  rw [addTemplate, addTemplate, String.toList_ofList, String.toList_ofList, chunks_cons h]
  rfl

lemma addTemplate_of_field {literal : String} {f : TemplateField} {v : Value}
    (h : nextChunk? text = .ok (some (⟨literal, some f⟩, rest)))
    (hvalue : values.find? f.name = some v) :
    addTemplate values b (String.ofList text)
      = match (b.append literal).add (.field v (f.conversion.map String.singleton) f.spec) with
        | .error e => (b.append literal, some (.field e))
        | .ok next => addTemplate values next (String.ofList rest) := by
  rw [addTemplate, String.toList_ofList, chunks_cons h]
  simp only [addChunks, hvalue]
  cases (b.append literal).add (.field v (f.conversion.map String.singleton) f.spec) with
  | error e => rfl
  | ok next => simp only [addTemplate, String.toList_ofList]

/-- Text without braces that stands at the end, or in front of a field, may be appended on its
own. -/
lemma addTemplate_of_plain (htail : tail = [] ∨ ∃ slot more, tail = Slot.written slot ++ more)
    (hplain : ∀ c ∈ before, isBrace c = false) :
    addTemplate values b (String.ofList (before ++ tail))
      = addTemplate values (b.append (String.ofList before)) (String.ofList tail) := by
  rcases htail with rfl | ⟨slot, more, rfl⟩
  · rw [List.append_nil]
    by_cases hne : before = []
    · subst hne
      rw [String.ofList_nil, Builder.append_empty]
    · exact addTemplate_of_literal (nextChunk?_of_plain hne hplain)
  · have hwhole := chunks_cons (nextChunk?_slot hplain slot more)
    have hslot := chunks_cons (nextChunk?_slot (List.forall_mem_nil _) slot more)
    rw [List.nil_append] at hslot
    rw [addTemplate, addTemplate, String.toList_ofList, String.toList_ofList, hwhole, hslot]
    simp only [addChunks, String.ofList_nil, Builder.append_empty]

lemma addTemplate_append_doubleBraces (values : TemplateValues)
    (htail : tail = [] ∨ ∃ slot more, tail = Slot.written slot ++ more) :
    ∀ (literal before : List Char) (b : Builder), (∀ c ∈ before, isBrace c = false) →
      addTemplate values b (String.ofList (before ++ (doubleBraces literal ++ tail)))
        = addTemplate values (b.append (String.ofList (before ++ literal))) (String.ofList tail)
  | [], before, b, hplain => by
      rw [List.append_nil]
      exact addTemplate_of_plain htail hplain
  | c :: literal, before, b, hplain => by
      -- a brace ends the chunk, and any other character goes to the text in front
      by_cases hc : isBrace c = true
      · set first := String.ofList (before ++ [c]) with hfirst
        have hchunk : nextChunk? (before ++ c :: c :: (doubleBraces literal ++ tail))
            = .ok (some (⟨first, none⟩, doubleBraces literal ++ tail)) :=
          nextChunk?_doubled hplain hc _
        have hrest := addTemplate_append_doubleBraces values htail literal [] (b.append first)
          (List.forall_mem_nil _)
        rw [List.nil_append, List.nil_append] at hrest
        have hclean : ¬ Context.CutsDelimiter first.toList (String.ofList literal).toList := by
          rw [hfirst, String.toList_ofList]
          exact Context.not_cutsDelimiter_of_isBrace hc before _
        have hbraces : doubleBraces (c :: literal) = c :: c :: doubleBraces literal := by
          rw [doubleBraces, List.flatMap_cons, if_pos hc]
          rfl
        rw [hbraces, List.cons_append, List.cons_append, addTemplate_of_literal hchunk, hrest,
          Builder.append_append_of_clean hclean, hfirst, ← String.ofList_append,
          List.append_cons before c literal]
      · have hplain' : ∀ d ∈ before ++ [c], isBrace d = false := by
          intro d hd
          rcases List.mem_append.mp hd with hd | hd
          · exact hplain d hd
          · rw [List.mem_singleton.mp hd]
            exact Bool.eq_false_iff.mpr hc
        have hbraces : doubleBraces (c :: literal) = c :: doubleBraces literal := by
          rw [doubleBraces, List.flatMap_cons, if_neg hc]
          rfl
        rw [hbraces, List.cons_append, List.append_cons before c (doubleBraces literal ++ tail),
          List.append_cons before c literal]
        exact addTemplate_append_doubleBraces values htail literal (before ++ [c]) b hplain'

/-- **Literal text of a template is appended as a whole**, in however many chunks it is read. -/
lemma addTemplate_doubleBraces
    (htail : tail = [] ∨ ∃ slot more, tail = Slot.written slot ++ more) (literal : String) :
    addTemplate values b (String.ofList (doubleBraces literal.toList ++ tail))
      = addTemplate values (b.append literal) (String.ofList tail) := by
  have hread := addTemplate_append_doubleBraces values htail literal.toList [] b
    (List.forall_mem_nil _)
  rwa [List.nil_append, List.nil_append, String.ofList_toList] at hread

/-! ## Whole templates -/

/-- A template is appended as its literals and fields are, up to the same error. -/
lemma addTemplate_writeTemplate : ∀ {literals : List String} {slots : List Slot}
    {fields : List Field} {b : Builder}, literals.length = slots.length + 1 →
      slots.map (Slot.fill? values) = fields.map some →
        let run := b.addAll (weave literals (fields.map Field.toPiece))
        addTemplate values b (String.ofList (writeTemplate literals slots))
          = (run.1, run.2.map .field)
  | [], _, _, _, hlength, _ => absurd hlength (by simp)
  | _ :: _ :: _, [], _, _, hlength, _ => absurd hlength (by simp)
  | _ :: _, _ :: _, [], _, _, hfields => absurd hfields (by simp)
  | [_], [], _ :: _, _, _, hfields => absurd hfields (by simp)
  | [literal], [], [], b, _, _ => by
      rw [writeTemplate, writeTemplate, addTemplate_doubleBraces (Or.inl rfl), List.map_nil, weave,
        weave, Builder.addAll, Builder.add_literal, Builder.addResolved_literal]
      rfl
  | literal :: rest, slot :: more, field :: others, b, hlength, hfields => by
      obtain ⟨hfield, hothers⟩ := List.cons.inj hfields
      obtain ⟨v, hvalue, rfl⟩ := Option.map_eq_some_iff.mp hfield
      let piece : Piece := .field v (slot.conversion.map String.singleton) (slot.spec.getD "")
      have hread : addTemplate values b
          (String.ofList (writeTemplate (literal :: rest) (slot :: more)))
            = match (b.append literal).add piece with
              | .error e => (b.append literal, some (.field e))
              | .ok next => addTemplate values next (String.ofList (writeTemplate rest more)) := by
        have hchunk := nextChunk?_slot (List.forall_mem_nil _) slot (writeTemplate rest more)
        rw [List.nil_append, String.ofList_nil] at hchunk
        rw [writeTemplate, addTemplate_doubleBraces (Or.inr ⟨slot, _, rfl⟩),
          addTemplate_of_field hchunk hvalue, Builder.append_empty]
        rfl
      intro run
      have hrun : run
          = (b.append literal).addAll (piece :: weave rest (others.map Field.toPiece)) := by
        simp only [run, List.map_cons, weave, Builder.addAll, Builder.add_literal,
          Builder.addResolved_literal]
        rfl
      rw [hread, hrun, Builder.addAll]
      cases (b.append literal).add piece with
      | error e => rfl
      | ok next => exact addTemplate_writeTemplate (Nat.succ.inj hlength) hothers

/-! ## Fields that are values -/

lemma add_field_of_plain (b : Builder) (v : Value) :
    b.add (.field v none "") = b.add (.value v) := by
  have hresolve : Piece.resolve (.field v none "") = Piece.resolve (.value v) := by
    cases v <;> rfl
  rw [Builder.add, Builder.add, hresolve]

lemma addAll_weave_of_plain : ∀ (literals : List String) {fields : List Field} (b : Builder),
    (∀ f ∈ fields, f.conversion = none ∧ f.spec = "") →
      b.addAll (weave literals (fields.map Field.toPiece))
        = b.addAll (weave literals (fields.map fun f => .value f.value))
  | [], _, _, _ => rfl
  | literal :: rest, [], b, _ => rfl
  | literal :: rest, f :: fields, b, hplain => by
      obtain ⟨⟨hconversion, hspec⟩, hrest⟩ := List.forall_mem_cons.mp hplain
      have hpiece : f.toPiece = .field f.value none "" := by
        rw [Field.toPiece, hconversion, hspec]
      rw [List.map_cons, List.map_cons, weave, weave, Builder.addAll, Builder.addAll,
        Builder.add_literal]
      simp only [Builder.addAll, hpiece, add_field_of_plain]
      cases (b.addResolved (.literal literal)).add (.value f.value) with
      | error e => rfl
      | ok next => exact addAll_weave_of_plain rest next hrest

end

/-! ## The three ways -/

section

variable {settings : Settings} {values : TemplateValues} {literals : List String}
  {slots : List Slot} {fields : List Field}

/-- **Three ways to one document.**  Take literals and fields, each field with a value by its name,
a conversion by one character, if any, and a specification without braces.  The template with the
literals, their braces doubled, and the fields in their written form renders to the same document as
the literals and the fields themselves, or fails with the same error; and if no field has a
conversion or a specification, so do the literals and the values. -/
theorem renderTemplate_writeTemplate (settings : Settings)
    (hlength : literals.length = slots.length + 1)
    (hfields : slots.map (Slot.fill? values) = fields.map some) :
    renderTemplate settings (String.ofList (writeTemplate literals slots)) values
        = renderFields settings literals fields ∧
      ((∀ slot ∈ slots, slot.conversion = none ∧ slot.spec.getD "" = "") →
        renderFields settings literals fields
          = renderParts settings literals (fields.map Field.value)) := by
  refine ⟨?_, fun hplain => ?_⟩
  · rw [renderTemplate, renderFields, renderPieces]
    cases startWith settings with
    | error e => rfl
    | ok builder =>
        simp only [bind, Except.bind, addTemplate_writeTemplate hlength hfields, Builder.build]
        rcases builder.addAll (weave literals (fields.map Field.toPiece)) with ⟨final, _ | e⟩
        · rfl
        · rfl
  · have hcount : literals.length = (fields.map Field.value).length + 1 := by
      have hsame := congrArg List.length hfields
      simp only [List.length_map] at hsame ⊢
      omega
    have hvalues : ∀ f ∈ fields, f.conversion = none ∧ f.spec = "" := by
      intro f hf
      have hmem : some f ∈ slots.map (Slot.fill? values) := hfields ▸ List.mem_map_of_mem hf
      obtain ⟨slot, hslot, hfill⟩ := List.mem_map.mp hmem
      obtain ⟨v, _, rfl⟩ := Option.map_eq_some_iff.mp hfill
      obtain ⟨hconversion, hspec⟩ := hplain slot hslot
      exact ⟨by rw [hconversion]; rfl, hspec⟩
    have hbuild : ∀ builder : Builder,
        builder.build (weave literals (fields.map Field.toPiece))
          = builder.build (weave literals ((fields.map Field.value).map .value)) := by
      intro builder
      rw [Builder.build, Builder.build, addAll_weave_of_plain literals builder hvalues,
        List.map_map]
      rfl
    rw [renderFields, renderParts, if_pos hcount, renderPieces, renderPieces]
    simp only [hbuild]

/-- Doubled braces next to the delimiters of comments, with a conversion and two specifications
between them; and the same literals around a value. -/
theorem renderTemplate_writeTemplate_of_two_fields :
    let literals := ["<p a=\x7b", "\x7d><!--\x7b-", "-->\x7b"]
    let values : TemplateValues := [("", .str "it's -->"), ("n m", .str "b")]
    let slots : List Slot :=
      [⟨"n m", some 'r', some ">4", List.all_iff_forall_prop.mp rfl, by decide,
          List.all_iff_forall_prop.mp rfl⟩,
        ⟨"", none, some "comment", List.all_iff_forall_prop.mp rfl, by decide,
          List.all_iff_forall_prop.mp rfl⟩]
    let fields : List Field := [⟨.str "b", some "r", ">4"⟩, ⟨.str "it's -->", none, "comment"⟩]
    let plain : Slot := ⟨"", none, none, List.all_iff_forall_prop.mp rfl, by decide,
      List.all_iff_forall_prop.mp rfl⟩
    let template := "<p a=\x7b\x7b\x7bn m!r:>4\x7d\x7d\x7d><!--\x7b\x7b-\x7b:comment\x7d-->\x7b\x7b"
    String.ofList (writeTemplate literals slots) = template ∧
      renderTemplate .default template values = .ok "<p a=\x7b\" 'b'\"\x7d><!--\x7b-it's-->\x7b" ∧
      renderFields .default literals fields = .ok "<p a=\x7b\" 'b'\"\x7d><!--\x7b-it's-->\x7b" ∧
      renderTemplate .default (String.ofList (writeTemplate literals [plain, plain])) values
        = renderParts .default literals [.str "it's -->", .str "it's -->"] := by
  intro literals values slots fields plain template
  have htext : String.ofList (writeTemplate literals slots) = template := by decide +kernel
  have hsame : renderTemplate .default (String.ofList (writeTemplate literals slots)) values
      = renderFields .default literals fields := (renderTemplate_writeTemplate .default rfl rfl).1
  have hdocument : renderFields .default literals fields
      = .ok "<p a=\x7b\" 'b'\"\x7d><!--\x7b-it's-->\x7b" := by decide +kernel
  have hplain : [plain, plain].map (Slot.fill? values)
      = [⟨.str "it's -->", none, ""⟩, ⟨.str "it's -->", none, ""⟩].map some := rfl
  have hlength : literals.length = [plain, plain].length + 1 := rfl
  obtain ⟨hfields, hparts⟩ := renderTemplate_writeTemplate .default hlength hplain
  rw [htext, hdocument] at hsame
  exact ⟨htext, hsame, hdocument, hfields.trans (hparts (by simp [plain]))⟩

end

end SafeMarkup
