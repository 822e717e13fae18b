import Mathlib.Tactic.SplitIfs
import SafeMarkup.Proofs.Overflow

/-!
# Documents in two forms

The members of a JSON object are rendered in two forms, and the document is put together from what
comes of them.  That works because nothing else depends on the form.

**Errors.**  The two forms of a value are of one kind, and whether a specification suits a value
depends on the kind, on the specification, and for an integer on its size; so a template has a
document for both forms or the same error for both (`addTemplate_fault_eq`).

**Documents.**  Where all strings are in characters and no integer is the code of half of a
surrogate pair, the two forms are one, and the document is the one that is rendered from it
(`renderForms_of_isWhole`).
-/

namespace SafeMarkup

/-! ## Failing alike -/

/-- Two computations fail alike: both succeed, or both fail with the same error. -/
inductive FailAlike {ε α β : Type} : Except ε α → Except ε β → Prop
  | ok (a : α) (b : β) : FailAlike (.ok a) (.ok b)
  | error (e : ε) : FailAlike (.error e) (.error e)

section

variable {ε α β γ δ : Type} {x : Except ε α} {y : Except ε β}

lemma failAlike_refl : ∀ x : Except ε α, FailAlike x x
  | .ok a => .ok a a
  | .error e => .error e

lemma failAlike_bind {f : α → Except ε γ} {g : α → Except ε δ} (h : ∀ a, FailAlike (f a) (g a)) :
    FailAlike (x >>= f) (x >>= g) := by
  cases x with
  | ok a => exact h a
  | error e => exact .error e

lemma FailAlike.map {f : α → γ} {g : β → δ} (h : FailAlike x y) :
    FailAlike (x.map f) (y.map g) := by
  cases h with
  | ok a b => exact .ok _ _
  | error e => exact .error e

end

/-! ## Layouts -/

/-- Whether a text can be laid out does not depend on the text. -/
lemma failAlike_formatText (spec : FormatSpec) (cs ds : List Char) :
    FailAlike (formatText spec cs) (formatText spec ds) := by
  simp only [formatText]
  rcases spec.sign with _ | sign
  · dsimp only
    split_ifs
    · exact .error _
    · exact .error _
    · exact .error _
    · cases spec.precision <;> exact .ok _ _
  · cases sign <;> exact .error _

lemma failAlike_formatStr (s t spec : String) :
    FailAlike (Value.formatStr s spec) (Value.formatStr t spec) := by
  refine failAlike_bind fun parsed => ?_
  split_ifs
  · exact failAlike_formatText _ _ _
  · exact .error _

/-- Whether a character code can be laid out as a character does not depend on the code. -/
lemma failAlike_formatCharacter {spec : FormatSpec} {m n : ℤ} (hm : ¬ NoCharacter m)
    (hn : ¬ NoCharacter n) : FailAlike (formatCharacter spec m) (formatCharacter spec n) := by
  obtain ⟨first, hfirst⟩ := formatCharacter_eq spec hm
  obtain ⟨second, hsecond⟩ := formatCharacter_eq spec hn
  rw [hfirst, hsecond]
  split_ifs
  · exact .error _
  · exact .error _
  · exact .ok _ _

namespace Json

lemma failAlike_formatSurrogate (code : ℤ) (spec : String) :
    FailAlike (formatSurrogate .first code spec) (formatSurrogate .second code spec) := by
  refine failAlike_bind fun parsed => ?_
  by_cases hcode : parsed.code = 'c'
  · have hinteger : integerCodes.contains parsed.code = true := by
      rw [hcode]
      decide
    simp only [formatInt, hinteger, if_pos hcode, if_true]
    split_ifs
    · exact .error _
    · exact .error _
    · exact failAlike_formatCharacter (not_noCharacter_toNat _) (not_noCharacter_toNat _)
  · simp only [if_neg hcode]
    exact failAlike_refl _

/-- **A specification suits both forms of a value** or neither. -/
lemma failAlike_format_toValue (document : Json) (spec : String) :
    FailAlike ((document.toValue .first).format spec) ((document.toValue .second).format spec) := by
  by_cases hempty : spec.isEmpty = true
  · unfold Value.format
    rw [if_pos hempty, if_pos hempty]
    exact .ok _ _
  cases document with
  | integer n =>
      simp only [toValue, integerValue]
      split_ifs
      · simp only [Value.format, if_neg hempty]
        exact (failAlike_formatSurrogate n spec).map
      · exact failAlike_refl _
  | string text =>
      simp only [toValue, textValue]
      split_ifs <;> simp only [Value.format, if_neg hempty]
      · exact (failAlike_formatStr _ _ spec).map
      · exact (failAlike_formatStr _ _ spec).map
  | array items =>
      simp only [toValue, listValue]
      cases items.mapM text? with
      | none =>
          simp only [Value.format, if_neg hempty, Value.kindName]
          exact .error _
      | some texts =>
          dsimp only
          split_ifs <;> simp only [Value.format, if_neg hempty, Value.kindName]
          · exact .error _
          · exact .error _
  | object members =>
      simp only [toValue, Value.format, if_neg hempty, Value.kindName]
      exact .error _
  | _ =>
      simp only [toValue]
      exact failAlike_refl _

end Json

/-! ## Templates -/

/-- Two values that no specification tells apart by an error. -/
def Value.FormatAlike (v w : Value) : Prop := ∀ spec, FailAlike (v.format spec) (w.format spec)

lemma formatAlike_str (s t : String) : (Value.str s).FormatAlike (.str t) := by
  intro spec
  simp only [Value.format]
  split_ifs
  · exact .ok _ _
  · exact (failAlike_formatStr s t spec).map

/-- A conversion makes texts of values, or leaves them as they are. -/
lemma convertValue_alike {v w : Value} (h : v.FormatAlike w) (conversion : Option String) :
    (∃ e, convertValue conversion v = .error e ∧ convertValue conversion w = .error e) ∨
      ∃ v' w', convertValue conversion v = .ok v' ∧ convertValue conversion w = .ok w' ∧
        v'.FormatAlike w' := by
  unfold convertValue
  split
  · exact Or.inr ⟨_, _, rfl, rfl, h⟩
  · exact Or.inr ⟨_, _, rfl, rfl, formatAlike_str _ _⟩
  · exact Or.inr ⟨_, _, rfl, rfl, formatAlike_str _ _⟩
  · exact Or.inr ⟨_, _, rfl, rfl, formatAlike_str _ _⟩
  · exact Or.inl ⟨_, rfl, rfl⟩

lemma failAlike_resolveField {v w : Value} (h : v.FormatAlike w) (conversion : Option String)
    (spec : String) :
    FailAlike (resolveField v conversion spec) (resolveField w conversion spec) := by
  unfold resolveField
  rcases convertValue_alike h conversion with ⟨e, hv, hw⟩ | ⟨v', w', hv, hw, halike⟩
  · rw [hv, hw]
    exact .error e
  · rw [hv, hw]
    simp only [bind, Except.bind]
    split_ifs
    · exact .ok _ _
    · exact .ok _ _
    · exact .ok _ _
    · have hspec := halike spec
      generalize v'.format spec = x at hspec ⊢
      generalize w'.format spec = y at hspec ⊢
      cases hspec with
      | ok _ _ => exact .ok _ _
      | error e => exact .error _

/-- A field can be appended if it has a text, whatever the document is so far. -/
lemma failAlike_add_field {v w : Value} (h : v.FormatAlike w) (b c : Builder)
    (conversion : Option String) (spec : String) :
    FailAlike (b.add (.field v conversion spec)) (c.add (.field w conversion spec)) :=
  (failAlike_resolveField h conversion spec).map.map

/-- Two lists of values with the same names, and values that no specification tells apart. -/
def NamedAlike (vs ws : TemplateValues) : Prop :=
  ∀ name, Option.Rel Value.FormatAlike (vs.find? name) (ws.find? name)

lemma addChunks_fault_eq {vs ws : TemplateValues} (h : NamedAlike vs ws) :
    ∀ (read : List Chunk) (b c : Builder), (addChunks vs b read).2 = (addChunks ws c read).2
  | [], _, _ => rfl
  | chunk :: rest, b, c => by
      simp only [addChunks]
      cases chunk.field with
      | none => exact addChunks_fault_eq h rest _ _
      | some f =>
          have hname := h f.name
          dsimp only
          generalize vs.find? f.name = v at hname ⊢
          generalize ws.find? f.name = w at hname ⊢
          cases hname with
          | none => rfl
          | some halike =>
              have hadd := failAlike_add_field halike (b.append chunk.literal)
                (c.append chunk.literal) (f.conversion.map String.singleton) f.spec
              dsimp only
              generalize Builder.add (b.append _) _ = x at hadd ⊢
              generalize Builder.add (c.append _) _ = y at hadd ⊢
              cases hadd with
              | ok next other => exact addChunks_fault_eq h rest next other
              | error e => rfl

lemma addTemplate_fault_eq {vs ws : TemplateValues} (h : NamedAlike vs ws) (b c : Builder)
    (template : String) : (addTemplate vs b template).2 = (addTemplate ws c template).2 := by
  have hfault := addChunks_fault_eq h (chunks template.toList).1 b c
  simp only [addTemplate]
  generalize addChunks vs b (chunks template.toList).1 = x at hfault ⊢
  generalize addChunks ws c (chunks template.toList).1 = y at hfault ⊢
  obtain ⟨after, fault⟩ := x
  obtain ⟨other, fault'⟩ := y
  obtain rfl : fault = fault' := hfault
  cases fault <;> rfl

namespace Json

lemma namedValues_cons (standIn : StandIn) (name : CodeText) (value : Json)
    (rest : List (CodeText × Json)) : namedValues standIn ((name, value) :: rest) =
      if name.isWhole then (name.form standIn, value.toValue standIn) :: namedValues standIn rest
      else namedValues standIn rest := by
  simp only [namedValues, List.filter_cons]
  split_ifs <;> rfl

/-- The two forms of the members of an object have the same names. -/
lemma namedAlike_namedValues : ∀ members : List (CodeText × Json),
    NamedAlike (namedValues .first members) (namedValues .second members)
  | [], _ => .none
  | (name, value) :: rest, other => by
      rw [namedValues_cons, namedValues_cons]
      split_ifs with hwhole
      · obtain ⟨s, rfl⟩ := CodeText.isWhole_iff.mp hwhole
        rw [CodeText.form_ofString, CodeText.form_ofString]
        by_cases hname : s = other
        · simp only [TemplateValues.find?, List.find?_cons, hname, decide_true, Option.map_some]
          exact .some (failAlike_format_toValue value)
        · simp only [TemplateValues.find?, List.find?_cons, hname, decide_false]
          exact namedAlike_namedValues rest other
      · exact namedAlike_namedValues rest other

/-- **A template fails alike** for the two forms of its values. -/
theorem addTemplate_namedValues_fault_eq (members : List (CodeText × Json)) (b : Builder)
    (template : String) : (addTemplate (namedValues .first members) b template).2
      = (addTemplate (namedValues .second members) b template).2 :=
  addTemplate_fault_eq (namedAlike_namedValues members) b b template

end Json

/-! ## Documents without halves -/

namespace Json

mutual

/-- Whether all strings of a document are in characters, and none of its integers is the code of
half of a surrogate pair. -/
def isWhole : Json → Bool
  | .integer n => !isSurrogateCode n
  | .string text => text.isWhole
  | .array items => areWhole items
  | .object members => haveWhole members
  | .null | .bool _ | .real _ => true

/-- The same for the items of an array. -/
def areWhole : List Json → Bool
  | [] => true
  | item :: rest => item.isWhole && areWhole rest

/-- The same for the members of an object. -/
def haveWhole : List (CodeText × Json) → Bool
  | [] => true
  | (name, value) :: rest => name.isWhole && value.isWhole && haveWhole rest

end

lemma textValue_eq_of_isWhole {text : CodeText} (h : text.isWhole = true) :
    textValue .first text = textValue .second text := by
  obtain ⟨s, rfl⟩ := CodeText.isWhole_iff.mp h
  simp only [textValue, h, if_true, CodeText.form_ofString]

/-- The strings among items without halves are in characters. -/
lemma all_isWhole_of_mapM_text? : ∀ {items : List Json} {texts : List CodeText},
    areWhole items = true → items.mapM text? = some texts → texts.all CodeText.isWhole = true
  | [], texts, _, h => by
      obtain rfl : [] = texts := Option.some.inj h
      rfl
  | item :: rest, texts, hwhole, h => by
      rw [areWhole, Bool.and_eq_true] at hwhole
      rw [List.mapM_cons] at h
      obtain ⟨text, htext, h⟩ := Option.bind_eq_some_iff.mp h
      obtain ⟨more, hmore, h⟩ := Option.bind_eq_some_iff.mp h
      obtain rfl : text :: more = texts := Option.some.inj h
      have hitem : text.isWhole = true := by
        cases item with
        | string t =>
            rw [← Option.some.inj htext]
            exact hwhole.1
        | _ => exact absurd htext (by simp [text?])
      rw [List.all_cons, hitem, all_isWhole_of_mapM_text? hwhole.2 hmore, Bool.and_self]

lemma listValue_of_areWhole {items : List Json} (h : areWhole items = true) (standIn : StandIn)
    (values : List Value) : listValue standIn items values = .list values := by
  rw [listValue]
  split
  · rfl
  · next texts htexts => rw [if_pos (all_isWhole_of_mapM_text? h htexts)]

mutual

/-- **The two forms of a document without halves are one.** -/
lemma toValue_eq_of_isWhole : ∀ {document : Json}, document.isWhole = true →
    document.toValue .first = document.toValue .second
  | .null, _ | .bool _, _ | .real _, _ => rfl
  | .integer n, h => by
      rw [isWhole, Bool.not_eq_true'] at h
      simp only [toValue, integerValue, h, Bool.false_eq_true, if_false]
  | .string text, h => textValue_eq_of_isWhole h
  | .array items, h => by
      rw [toValue, toValue, listValue_of_areWhole h, listValue_of_areWhole h,
        toValues_eq_of_areWhole h]
  | .object members, h => by
      rw [toValue, toValue, toEntries_eq_of_haveWhole h]

lemma toValues_eq_of_areWhole : ∀ {items : List Json}, areWhole items = true →
    toValues .first items = toValues .second items
  | [], _ => rfl
  | item :: rest, h => by
      rw [areWhole, Bool.and_eq_true] at h
      rw [toValues, toValues, toValue_eq_of_isWhole h.1, toValues_eq_of_areWhole h.2]

lemma toEntries_eq_of_haveWhole : ∀ {members : List (CodeText × Json)},
    haveWhole members = true → toEntries .first members = toEntries .second members
  | [], _ => rfl
  | (name, value) :: rest, h => by
      simp only [haveWhole, Bool.and_eq_true] at h
      obtain ⟨⟨hname, hvalue⟩, hrest⟩ := h
      rw [toEntries, toEntries, textValue_eq_of_isWhole hname, toValue_eq_of_isWhole hvalue,
        toEntries_eq_of_haveWhole hrest]

end

/-- The two forms of the members of an object without halves are one. -/
lemma namedValues_eq_of_isWhole {members : List (CodeText × Json)}
    (h : isWhole (.object members) = true) :
    namedValues .first members = namedValues .second members := by
  rw [isWhole] at h
  induction members with
  | nil => rfl
  | cons member rest ih =>
      obtain ⟨name, value⟩ := member
      simp only [haveWhole, Bool.and_eq_true] at h
      obtain ⟨⟨hname, hvalue⟩, hrest⟩ := h
      obtain ⟨s, rfl⟩ := CodeText.isWhole_iff.mp hname
      rw [namedValues_cons, namedValues_cons, CodeText.form_ofString, CodeText.form_ofString,
        toValue_eq_of_isWhole hvalue, ih hrest]

end Json

/-- The document of a template with the members of a JSON object as its values. -/
def renderForms (settings : Settings) (template : String) (members : List (CodeText × Json)) :
    Except DocumentError CodeText := do
  let first ← renderTemplate settings template (Json.namedValues .first members)
  let second ← renderTemplate settings template (Json.namedValues .second members)
  return .ofForms first second

/-- An error of the document is one of the template with the values in one of their forms. -/
lemma exists_of_renderForms_eq_error {settings : Settings} {template : String}
    {members : List (CodeText × Json)} {e : DocumentError}
    (h : renderForms settings template members = .error e) :
    ∃ standIn, renderTemplate settings template (Json.namedValues standIn members) = .error e := by
  rw [renderForms] at h
  cases hfirst : renderTemplate settings template (Json.namedValues .first members) with
  | error error =>
      rw [hfirst] at h
      obtain rfl := Except.error.inj h
      exact ⟨.first, hfirst⟩
  | ok first =>
      rw [hfirst] at h
      cases hsecond : renderTemplate settings template (Json.namedValues .second members) with
      | error error =>
          rw [hsecond] at h
          obtain rfl := Except.error.inj h
          exact ⟨.second, hsecond⟩
      | ok second =>
          rw [hsecond] at h
          exact nomatch h

/-- **The document of values without halves** is rendered from these values. -/
theorem renderForms_of_isWhole (settings : Settings) (template : String)
    {members : List (CodeText × Json)} (h : Json.isWhole (.object members) = true) :
    renderForms settings template members =
      (renderTemplate settings template (Json.namedValues .first members)).map .ofString := by
  rw [renderForms, ← Json.namedValues_eq_of_isWhole h]
  cases renderTemplate settings template (Json.namedValues .first members) with
  | error e => rfl
  | ok document => exact congrArg Except.ok CodeText.ofForms_self

end SafeMarkup
