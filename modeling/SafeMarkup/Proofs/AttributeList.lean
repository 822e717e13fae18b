import Mathlib.Data.Bool.AllAny
import SafeMarkup.Proofs.AttributeReading
import SafeMarkup.Proofs.AttributeTable
import SafeMarkup.Proofs.Escape
import SafeMarkup.Proofs.Pieces
import SafeMarkup.Proofs.Reachable

/-!
# Attribute lists are read back

A value that is a mapping, or a sequence of mappings, is written as an attribute list.  Writing and
reading have nothing in common: the one checks names, escapes values, sorts and joins, and the other
goes through the states of a tag.  Still the scanner finds what was written and no more, since a
name that is accepted is one name to it, and an escaped value holds no quote.

* `Value.mappings?` — the mappings that a value stands for.
* `AttributeText` — texts of attributes in double quotes, with any blanks around them.
* `AttributeText.passes` — how such a text is read.
* **`add_mappings_reads`** — attribute lists keep the tag and are read back.
-/

namespace SafeMarkup

/-! ## Names that are accepted -/

lemma namePart_of_isNameChar {c : Char} (h : isNameChar c = true) : NamePart c := by
  simp only [isNameChar, nameBreakers, Bool.and_eq_true, Bool.not_eq_true', List.contains_eq_mem,
    decide_eq_false_iff_not, List.mem_cons, List.not_mem_nil, or_false, not_or] at h
  obtain ⟨⟨⟨_, _, _, hclose, hslash, hequals⟩, hblank⟩, _⟩ := h
  exact ⟨hblank, hslash, hclose, hequals⟩

/-- An accepted name is one name to the scanner. -/
lemma name_of_isAttributeName {name : String} (h : isAttributeName name = true) :
    name.toList ≠ [] ∧ ∀ c ∈ name.toList, NamePart c := by
  rw [isAttributeName, Bool.and_eq_true, List.all_eq_true] at h
  obtain ⟨hne, hall⟩ := h
  exact ⟨by simpa using hne, fun c hc => namePart_of_isNameChar (hall c hc)⟩

/-! ## Values that stand for mappings -/

/-- The mappings that a value stands for: it is one itself, or a sequence of them. -/
def Value.mappings? (v : Value) : Option (List (List (Value × Value))) :=
  match v.entries? with
  | some entries => some [entries]
  | none => v.sequence?.bind fun items => items.mapM Value.entries?

/-- The attributes that each of some mappings asks for. -/
def attributeTables (groups : List String) (element : String)
    (mappings : List (List (Value × Value))) : List AttributeTable :=
  mappings.map fun entries => collect element (flatten groups entries)

section

variable {groups : List String} {separator element : String} {v : Value}
  {entries : List (Value × Value)} {mappings : List (List (Value × Value))}

lemma suppliedAttributes?_of_entries (h : v.entries? = some entries) :
    suppliedAttributes? groups element v = some (serialize groups element entries) := by
  cases v with
  | dict _ =>
      obtain rfl := Option.some.inj h
      rfl
  | _ => exact absurd h (by simp [Value.entries?])

lemma mapM_suppliedAttributes? : ∀ {items : List Value} {mappings : List (List (Value × Value))},
    items.mapM Value.entries? = some mappings →
      items.mapM (suppliedAttributes? groups element)
        = some (mappings.map (serialize groups element))
  | [], mappings, h => by
      obtain rfl := Option.some.inj h
      rfl
  | item :: items, mappings, h => by
      rw [List.mapM_cons] at h
      obtain ⟨entries, hentries, h⟩ := Option.bind_eq_some_iff.mp h
      obtain ⟨rest, hrest, h⟩ := Option.bind_eq_some_iff.mp h
      obtain rfl := Option.some.inj h
      rw [List.mapM_cons, suppliedAttributes?_of_entries hentries, mapM_suppliedAttributes? hrest]
      rfl

lemma isPlain_of_mappings? (h : v.mappings? = some mappings) : v.IsPlain := by
  constructor <;> rintro text rfl <;> exact absurd h (by simp [Value.mappings?, Value.entries?,
    Value.sequence?])

/-- What is written for mappings: the list of each, with the separator between them. -/
lemma attributesOf?_of_mappings (h : v.mappings? = some mappings) :
    attributesOf? groups separator element v
      = some (separator.intercalate
          ((attributeTables groups element mappings).map writeAttributes)) := by
  rw [attributeTables, List.map_map]
  cases hentries : v.entries? with
  | some entries =>
      simp only [Value.mappings?, hentries] at h
      obtain rfl := Option.some.inj h
      simp only [attributesOf?, suppliedAttributes?_of_entries hentries]
      rw [List.map_singleton, String.intercalate_singleton]
      rfl
  | none =>
      simp only [Value.mappings?, hentries] at h
      obtain ⟨items, hitems, hmappings⟩ := Option.bind_eq_some_iff.mp h
      have hnone : suppliedAttributes? groups element v = none := by
        cases v with
        | list _ | tuple _ => rfl
        | _ => exact absurd hitems (by simp [Value.sequence?])
      simp only [attributesOf?, hnone, hitems, Option.bind_some,
        mapM_suppliedAttributes? hmappings, Option.map_some]
      rfl

end

/-! ## Texts of attributes -/

/-- A text of attributes as they are written, with any blanks between them. -/
inductive AttributeText : List Char → AttributeTable → Prop
  | nil : AttributeText [] []
  | blanks {blanks text : List Char} {rows : AttributeTable}
      (hblank : ∀ c ∈ blanks, isBlank c = true) (h : AttributeText text rows) :
      AttributeText (blanks ++ text) rows
  | entry {row : String × String} {text : List Char} {rows : AttributeTable}
      (hname : isAttributeName row.1 = true) (h : AttributeText text rows) :
      AttributeText ((writeAttribute row).toList ++ text) (row :: rows)

lemma toList_writeAttribute (row : String × String) : (writeAttribute row).toList
    = row.1.toList ++ '=' :: Quote.double.char ::
      ((escape row.2).toList ++ [Quote.double.char]) := by
  simp [writeAttribute, Quote.char]

namespace AttributeText

variable {text : List Char} {rows : AttributeTable}

lemma append {more : List Char} {others : AttributeTable} (h : AttributeText text rows)
    (h' : AttributeText more others) : AttributeText (text ++ more) (rows ++ others) := by
  induction h with
  | nil => exact h'
  | blanks hblank _ ih =>
      rw [List.append_assoc]
      exact .blanks hblank ih
  | entry hname _ ih =>
      rw [List.append_assoc]
      exact .entry hname ih

lemma intercalate {α : Type} {separator : String} {write : α → String}
    {rows : α → AttributeTable} : ∀ {items : List α},
      (1 < items.length → ∀ c ∈ separator.toList, isBlank c = true) →
      (∀ item ∈ items, AttributeText (write item).toList (rows item)) →
        AttributeText (separator.intercalate (items.map write)).toList (items.flatMap rows)
  | [], _, _ => .nil
  | [item], _, h => by
      rw [List.map_singleton, String.intercalate_singleton, List.flatMap_singleton]
      exact h item List.mem_cons_self
  | item :: next :: items, hseparator, h => by
      have hblank : ∀ c ∈ separator.toList, isBlank c = true := hseparator (by simp)
      obtain ⟨hitem, hrest⟩ := List.forall_mem_cons.mp h
      have htail := intercalate (fun _ => hblank) hrest
      rw [List.map_cons, List.map_cons, String.intercalate_cons_cons, String.toList_append,
        String.toList_append, List.flatMap_cons, List.append_assoc]
      exact hitem.append (.blanks hblank htail)

lemma close_not_mem (h : AttributeText text rows) : '>' ∉ text := by
  induction h with
  | nil => exact List.not_mem_nil
  | blanks hblank _ ih =>
      intro hmem
      rcases List.mem_append.mp hmem with hmem | hmem
      · exact absurd (hblank '>' hmem) (by decide)
      · exact ih hmem
  | @entry row text rows hname _ ih =>
      obtain ⟨_, hchars⟩ := name_of_isAttributeName hname
      have hvalue : '>' ∉ (escape row.2).toList := not_mem_escape (by decide) row.2
      intro hmem
      rcases List.mem_append.mp hmem with hmem | hmem
      · rw [toList_writeAttribute] at hmem
        simp only [List.mem_append, List.mem_cons, List.not_mem_nil, or_false] at hmem
        rcases hmem with hmem | hmem | hmem | hmem | hmem
        · exact (hchars '>' hmem).2.2.1 rfl
        · exact absurd hmem (by decide)
        · exact absurd hmem (by decide)
        · exact hvalue hmem
        · exact absurd hmem (by decide)
      · exact ih hmem

end AttributeText

lemma attributeText_writeAttributes {table : AttributeTable}
    (h : ∀ row ∈ table, isAttributeName row.1 = true) :
    AttributeText (writeAttributes table).toList table := by
  have hone : ∀ row ∈ table, AttributeText (writeAttribute row).toList [row] := by
    intro row hrow
    rw [← List.append_nil (writeAttribute row).toList]
    exact .entry (h row hrow) .nil
  have hblank : ∀ c ∈ " ".toList, isBlank c = true := List.all_iff_forall_prop.mp rfl
  have hall := AttributeText.intercalate (fun _ => hblank) hone
  rwa [List.flatMap_singleton'] at hall

lemma canonical_of_mem_attributeTables {groups : List String} {element : String}
    {mappings : List (List (Value × Value))} {table : AttributeTable}
    (h : table ∈ attributeTables groups element mappings) : table.Canonical := by
  obtain ⟨entries, _, rfl⟩ := List.mem_map.mp h
  exact canonical_collect _ _

lemma attributeText_intercalate {separator : String} {tables : List AttributeTable}
    (hcanonical : ∀ table ∈ tables, table.Canonical)
    (hblank : 1 < tables.length → ∀ c ∈ separator.toList, isBlank c = true) :
    AttributeText (separator.intercalate (tables.map writeAttributes)).toList tables.flatten := by
  have hall := AttributeText.intercalate hblank fun table htable =>
    attributeText_writeAttributes (hcanonical table htable).isAttributeName
  rwa [List.flatMap_id'] at hall

namespace Context

variable {ctx : Context} {text : List Char}

/-- The scanner stands between two attributes, or behind the name of the element. -/
structure BetweenAttributes (ctx : Context) : Prop where
  quote : ctx.quote = none
  state : ctx.state = .afterElementName ∨ ctx.state = .afterAttributeValue

lemma BetweenAttributes.awaitsName (h : ctx.BetweenAttributes) : ctx.AwaitsName := by
  rcases h.state with hstate | hstate
  · exact Or.inl hstate
  · exact Or.inr (Or.inr hstate)

lemma BetweenAttributes.passes_blanks (h : ctx.BetweenAttributes)
    (hblank : ∀ c ∈ text, isBlank c = true) :
    ∃ after, Passes ctx text after ∧ after.BetweenAttributes := by
  obtain ⟨after, hpasses, hafter⟩ := passes_blanks_of_awaitsName h.awaitsName hblank
  refine ⟨after, hpasses, ?_⟩
  rcases hafter with rfl | rfl
  · exact h
  · exact ⟨h.quote, Or.inl rfl⟩

end Context

/-- What is read of a row that was written. -/
def AttributeRead.ofRow (row : String × String) : AttributeRead := ⟨row.1, some .double, row.2⟩

open Context in
/-- **A text of attributes is read back**, from between two attributes to between two attributes. -/
lemma AttributeText.passes {text : List Char} {rows : AttributeTable}
    (h : AttributeText text rows) : ∀ {ctx : Context}, ctx.BetweenAttributes →
      ∃ after, Passes ctx text after ∧ after.BetweenAttributes ∧
        ∀ rest, readAttributes (ctx.moves (text ++ rest))
          = rows.map .ofRow ++ readAttributes (after.moves rest) := by
  induction h with
  | nil => exact fun {ctx} hctx => ⟨ctx, .nil ctx, hctx, fun rest => rfl⟩
  | @blanks blanks text rows hblank _ ih =>
      intro ctx hctx
      obtain ⟨mid, hblanks, hmid⟩ := hctx.passes_blanks hblank
      obtain ⟨after, htext, hafter, hread⟩ := ih hmid
      have hno : '=' ∉ blanks := fun hmem => absurd (hblank '=' hmem) (by decide)
      refine ⟨after, hblanks.append htext, hafter, fun rest => ?_⟩
      rw [List.append_assoc, readAttributes_of_no_equals hblanks hno, hread]
  | @entry row text rows hname _ ih =>
      intro ctx hctx
      obtain ⟨hne, hchars⟩ := name_of_isAttributeName hname
      have hvalue : Quote.double.char ∉ (escape row.2).toList := not_mem_escape (by decide) row.2
      have hentry := passes_attribute hctx.awaitsName hne hchars hvalue
      set behind := ((ctx.named row.1.toList).enter .beforeAttributeValue).endValue
      have hbetween : behind.BetweenAttributes := ⟨rfl, Or.inr rfl⟩
      obtain ⟨after, htext, hafter, hread⟩ := ih hbetween
      rw [toList_writeAttribute]
      refine ⟨after, hentry.append htext, hafter, fun rest => ?_⟩
      have hattribute := readAttributes_attribute hctx.awaitsName hne hchars hvalue (text ++ rest)
      rw [hread, String.ofList_toList, String.ofList_toList, unescape_escape] at hattribute
      rw [List.map_cons, List.cons_append, AttributeRead.ofRow, ← hattribute]
      simp

namespace Builder

variable {b : Builder} {v : Value} {mappings : List (List (Value × Value))}

/-- What is appended for mappings in the place for attributes. -/
lemma resolvedText_of_mappings (hstate : b.context.state = .afterElementName)
    (hv : v.mappings? = some mappings) :
    Piece.resolvedText b.config b.site (.value v)
      = b.config.attributeSeparator.intercalate
          ((attributeTables b.config.nestedGroups b.context.elementName mappings).map
            writeAttributes) := by
  have hsite : b.site = .inTag b.context.elementName := by simp only [site, Context.site, hstate]
  rw [Piece.resolvedText, hsite]
  change renderInTag b.config v b.context.elementName = _
  rw [renderInTag, attributesOf?_of_mappings hv, Option.getD_some]

/-- **Attribute lists are read back.**  In the place for the attributes of a tag, a mapping or a
sequence of mappings is appended as attribute lists; if there are several, there may only be blanks
between them.  The scanner then stays in the tag of its element, outside any value, and what it
goes through on its way are exactly the attributes that were collected: those of each mapping
sorted by name, one mapping after the other, with their texts in double quotes. -/
theorem add_mappings_reads (hb : b.Reachable) (hstate : b.context.state = .afterElementName)
    (hv : v.mappings? = some mappings)
    (hblank : 1 < mappings.length →
      ∀ c ∈ b.config.attributeSeparator.toList, isBlank c = true) :
    let tables := attributeTables b.config.nestedGroups b.context.elementName mappings
    ∃ after text, b.add (.value v) = .ok after ∧
      after.document = b.document ++ text ∧
      after.context = b.context.feed text ∧
      b.context.KeepsTag text.toList ∧
      after.context.BetweenAttributes ∧
      (∀ table ∈ tables, table.Pairwise fun row row' => row.1 < row'.1) ∧
      b.context.attributesIn text = tables.flatten.map .ofRow := by
  intro tables
  have hcanonical : ∀ table ∈ tables, table.Canonical :=
    fun _ => canonical_of_mem_attributeTables
  have hlength : tables.length = mappings.length := List.length_map _
  set text := b.config.attributeSeparator.intercalate (tables.map writeAttributes)
  have hadded : Piece.resolvedText b.config b.site (.value v) = text :=
    resolvedText_of_mappings hstate hv
  -- the text that is appended is one of attributes, and so it is read back
  have hattributes : AttributeText text.toList tables.flatten :=
    attributeText_intercalate hcanonical (by rwa [hlength])
  have hbetween : b.context.BetweenAttributes := by
    refine ⟨hb.quoteInValue ?_, Or.inl hstate⟩
    rw [hstate]
    decide
  obtain ⟨after, hpasses, hafter, hread⟩ := hattributes.passes hbetween
  have hkeeps : b.context.KeepsTag text.toList := by
    rw [Context.keepsTag_iff (by rw [hstate]; rfl) (by rw [hstate]; decide)]
    exact TagPart.endsTag_eq_false_of_not_mem _ hattributes.close_not_mem
  refine ⟨_, text, add_value (isPlain_of_mappings? hv), ?_, ?_, hkeeps, ?_, ?_, ?_⟩
  · rw [addResolved_document, hadded]
  · rw [addResolved_context, hadded]
  · rw [addResolved_context, hadded, Context.feed, hpasses.scan_eq]
    exact hafter
  · exact fun table htable => (hcanonical table htable).sorted
  · have hall := hread []
    have hnone : readAttributes (after.moves []) = [] := rfl
    rwa [hnone, List.append_nil, List.append_nil] at hall

/-- A group, a name that is refused, a value that leaves its attribute out, and texts that look
like markup. -/
theorem add_mappings_reads_of_two_mappings :
    let opened := ((start .default).attemptAll [.literal "<a-b "]).2
    let first : List (Value × Value) :=
      [(.str "title", .str "\"><b c='&'"),
        (.str "data", .dict [(.str "y", .str "d=e"), (.str "x", .bool false)]),
        (.str "on load", .str "f"), (.str "hidden", .bool false)]
    let second : List (Value × Value) := [(.str "ä", .str "")]
    let v : Value := .list [.dict first, .dict second]
    opened.Reachable ∧ opened.context.state = .afterElementName ∧
      v.mappings? = some [first, second] ∧
      (∀ c ∈ opened.config.attributeSeparator.toList, isBlank c = true) ∧
      ∃ after text, opened.add (.value v) = .ok after ∧
        opened.context.attributesIn text
          = [⟨"data-x", some .double, "false"⟩, ⟨"data-y", some .double, "d=e"⟩,
            ⟨"title", some .double, "\"><b c='&'"⟩, ⟨"ä", some .double, ""⟩] := by
  intro opened first second v
  have hreach : opened.Reachable := ⟨.default, [.literal "<a-b "], rfl⟩
  have hstate : opened.context.state = .afterElementName := by decide +kernel
  have hblank : ∀ c ∈ opened.config.attributeSeparator.toList, isBlank c = true :=
    List.all_iff_forall_prop.mp (by decide +kernel)
  obtain ⟨after, text, hadd, _, _, _, _, _, hread⟩ :=
    add_mappings_reads (v := v) hreach hstate rfl fun _ => hblank
  refine ⟨hreach, hstate, rfl, hblank, after, text, hadd, ?_⟩
  rw [hread]
  decide +kernel

end Builder

end SafeMarkup
