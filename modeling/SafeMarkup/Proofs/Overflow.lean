import Mathlib.Algebra.Ring.Nat
import Mathlib.Tactic.Lemma
import SafeMarkup.Command.Run

/-!
# Numbers that do not fit

Of all that can go wrong with a format specification, three things do not end a run with a message:
an integer that is no character code, one that is too large to be looked at as one, and one for
which there is no binary number.  They come up for integers only, and only for those that are
negative or beyond the last character code.  An object that lays itself out may fail in any way, but
those that stand for parts of a document lay themselves out as texts and character codes do.

* `NoOverflow` — an error, if there is one, is none of the three.
* `noOverflow_parse`, `noOverflow_formatBinary`, … — the parts of formatting that have no such
  error.
* `Binary64.ofInt?_ne_none` — small integers are binary numbers.
* **`Value.format_overflow`** — the values that do not fit.
* **`addTemplate_overflow`** — such a value is among those of the template.
* `Json.addTemplate_namedValues_overflow` — and, if these come from a document, in the document.
-/

namespace SafeMarkup

/-- An error, if there is one, is not that a number does not fit. -/
def NoOverflow {α : Type} (x : Except FormatError α) : Prop :=
  ∀ e, x = .error e → e.isOverflow = false

section

variable {α β : Type} {x : Except FormatError α} {e : FormatError}

lemma noOverflow_ok (a : α) : NoOverflow (.ok a : Except FormatError α) := by
  intro e h
  exact absurd h (by simp)

lemma noOverflow_error (he : e.isOverflow = false) :
    NoOverflow (.error e : Except FormatError α) := by
  intro e' h
  rw [← Except.error.inj h]
  exact he

lemma NoOverflow.bind {f : α → Except FormatError β} (h : NoOverflow x)
    (hf : ∀ a, NoOverflow (f a)) : NoOverflow (x >>= f) := by
  cases x with
  | error e => exact noOverflow_error (h e rfl)
  | ok a => exact hf a

lemma NoOverflow.map {f : α → β} (h : NoOverflow x) : NoOverflow (x.map f) := by
  cases x with
  | error e => exact noOverflow_error (h e rfl)
  | ok a => exact noOverflow_ok (f a)

end

/-! ## Specifications -/

lemma noOverflow_readCountFrom : ∀ (cs : List Char) (count : ℕ),
    NoOverflow (readCountFrom count cs)
  | [], count => noOverflow_ok _
  | c :: rest, count => by
      rw [readCountFrom]
      cases decimalDigit? c with
      | none => exact noOverflow_ok _
      | some d =>
          dsimp only
          split
          · exact noOverflow_error rfl
          · exact noOverflow_readCountFrom rest _

lemma noOverflow_readCount (cs : List Char) : NoOverflow (readCount cs) :=
  (noOverflow_readCountFrom cs 0).map

lemma noOverflow_splitGrouping (cs : List Char) : NoOverflow (splitGrouping cs) := by
  unfold splitGrouping
  dsimp only
  split_ifs
  · exact noOverflow_error rfl
  · exact noOverflow_error rfl
  · exact noOverflow_ok _
  · exact noOverflow_ok _
  · exact noOverflow_ok _

lemma noOverflow_splitPrecision (cs : List Char) : NoOverflow (splitPrecision cs) := by
  unfold splitPrecision
  split
  · exact noOverflow_ok _
  · next rest _ =>
      have hcount := noOverflow_readCount rest
      split
      · next e he => exact noOverflow_error (hcount e he)
      · exact noOverflow_error rfl
      · exact noOverflow_ok _

lemma noOverflow_checkGrouping (grouping : Option Grouping) (code : Char) :
    NoOverflow (checkGrouping grouping code) := by
  unfold checkGrouping
  split
  · split
    · exact noOverflow_ok _
    · exact noOverflow_error rfl
  · exact noOverflow_ok _

/-- A specification can be wrong in many ways, but is not too large. -/
lemma noOverflow_parse (kind : String) (defaultCode : Char) (defaultAlign : Alignment)
    (spec : String) : NoOverflow (FormatSpec.parse kind defaultCode defaultAlign spec) := by
  unfold FormatSpec.parse
  dsimp only
  refine (noOverflow_readCount _).bind fun width => ?_
  refine (noOverflow_splitGrouping _).bind fun grouping => ?_
  refine (noOverflow_splitPrecision _).bind fun precision => ?_
  have hcode : ∀ code : Char, NoOverflow (Except.ok code : Except FormatError Char) := noOverflow_ok
  split
  · exact (hcode _).bind fun _ => (noOverflow_checkGrouping _ _).bind fun _ => noOverflow_ok _
  · exact (hcode _).bind fun _ => (noOverflow_checkGrouping _ _).bind fun _ => noOverflow_ok _
  · exact (noOverflow_error rfl).bind fun _ =>
      (noOverflow_checkGrouping _ _).bind fun _ => noOverflow_ok _

/-! ## Small integers are binary numbers -/

namespace Binary64

/-- A pattern below that of infinity is not infinite, whatever its sign. -/
lemma shape_ofMagnitude_ne_infinite {magnitude : ℕ} (h : magnitude < 2047 * Nat.pow 2 52)
    (negative : Bool) : (ofMagnitude negative magnitude).shape ≠ .infinite := by
  have hfraction : Nat.pow 2 52 = 4503599627370496 := rfl
  have hexponent : Nat.pow 2 11 = 2048 := rfl
  have hsign : Nat.pow 2 63 = 9223372036854775808 := rfl
  have hbiased : (ofMagnitude negative magnitude).biasedExponent ≠ 2047 := by
    simp only [biasedExponent, ofMagnitude, UInt64.toNat_ofNat', hfraction, hexponent, hsign] at h ⊢
    split <;> omega
  unfold shape
  rw [if_neg hbiased]
  split <;> simp

lemma roundQuotient_one (n : ℕ) : roundQuotient n 1 = n := by
  simp [roundQuotient, Nat.mod_one]

section

variable {num : ℕ}

lemma log2_le (hzero : num ≠ 0) (h : num < 2 ^ 53) : num.log2 ≤ 52 := by
  have := (Nat.log2_lt hzero).mpr h
  omega

/-- A number that is shifted to have a digit more than `m` is at least `2 ^ m`. -/
lemma pow_le_shifted (hzero : num ≠ 0) {m : ℕ} (hm : num.log2 ≤ m) :
    Nat.pow 2 m ≤ num * Nat.pow 2 (m - num.log2) := by
  calc Nat.pow 2 m = 2 ^ num.log2 * 2 ^ (m - num.log2) := by
        rw [← Nat.pow_add, Nat.add_sub_cancel' hm, Nat.pow_eq]
    _ ≤ num * Nat.pow 2 (m - num.log2) := Nat.mul_le_mul_right _ (Nat.log2_self_le hzero)

/-- The scale of a number of at most fifty-three binary digits makes it fifty-three. -/
lemma scaleOf_one (hzero : num ≠ 0) (h : num < 2 ^ 53) :
    scaleOf num 1 = (num.log2 : ℤ) - 52 := by
  have hk := log2_le hzero h
  have hone : Nat.log2 1 = 0 := by decide
  have hguess : ((num.log2 : ℤ) - ((0 : ℕ) : ℤ) - 53).toNat = 0 := by omega
  have hshift : (-((num.log2 : ℤ) - ((0 : ℕ) : ℤ) - 53)).toNat = 53 - num.log2 := by omega
  have hdigits : Nat.pow 2 53 ≤ num * Nat.pow 2 (53 - num.log2) :=
    pow_le_shifted hzero (by omega)
  have hden : 1 * Nat.pow 2 0 = 1 := rfl
  simp only [scaleOf, hone, hguess, hshift, hden, Nat.div_one]
  rw [if_neg (not_lt.mpr hdigits)]
  omega

/-- With its scale, the number has at most fifty-three binary digits. -/
lemma shifted_lt (hk : num.log2 ≤ 52) : num * Nat.pow 2 (52 - num.log2) < Nat.pow 2 53 := by
  calc num * Nat.pow 2 (52 - num.log2) < 2 ^ (num.log2 + 1) * 2 ^ (52 - num.log2) :=
        Nat.mul_lt_mul_of_pos_right Nat.lt_log2_self (Nat.two_pow_pos _)
    _ = Nat.pow 2 53 := by
        rw [← Nat.pow_add, (by omega : num.log2 + 1 + (52 - num.log2) = 53)]

lemma shape_ofRatio_one_ne_infinite (h : num < 2 ^ 53) (negative : Bool) :
    (ofRatio negative num 1).shape ≠ .infinite := by
  by_cases hzero : num = 0
  · rw [ofRatio, if_pos hzero]
    exact shape_ofMagnitude_ne_infinite (by decide) negative
  · have hk := log2_le hzero h
    have hlow : Nat.pow 2 52 ≤ num * Nat.pow 2 (52 - num.log2) := pow_le_shifted hzero hk
    have hhigh := shifted_lt hk
    have hscale : (-((num.log2 : ℤ) - 52)).toNat = 52 - num.log2 := by omega
    have hunit : ((num.log2 : ℤ) - 52).toNat = 0 := by omega
    have hden : 1 * Nat.pow 2 0 = 1 := rfl
    have hmagnitude : ((num.log2 : ℤ) - 52 + 1075).toNat * Nat.pow 2 52
        + (num * Nat.pow 2 (52 - num.log2) - Nat.pow 2 52) < 2047 * Nat.pow 2 52 := by
      have hbiased : ((num.log2 : ℤ) - 52 + 1075).toNat ≤ 1075 := by omega
      have hfraction : Nat.pow 2 53 = 2 * Nat.pow 2 52 := rfl
      have hscaled := Nat.mul_le_mul_right (Nat.pow 2 52) hbiased
      omega
    rw [ofRatio, if_neg hzero]
    simp only [scaleOf_one hzero h, hscale, hunit, hden, roundQuotient_one]
    rw [if_neg (not_lt.mpr hlow), if_pos hmagnitude]
    exact shape_ofMagnitude_ne_infinite hmagnitude negative

end

/-- An integer of at most fifty-three binary digits is a binary number. -/
lemma ofInt?_ne_none {n : ℤ} (h : n.natAbs < 2 ^ 53) : ofInt? n ≠ none := by
  simp only [ofInt?, if_neg (shape_ofRatio_one_ne_infinite h _)]
  simp

end Binary64

/-! ## Values -/

section

variable {spec : FormatSpec} {n : ℤ} {e : FormatError} {v : Value}

/-- The integers that are no character codes. -/
def NoCharacter (n : ℤ) : Prop := n < 0 ∨ 0x110000 ≤ n

lemma not_noCharacter_toNat (c : Char) : ¬ NoCharacter c.toNat := by
  have hvalid : c.toNat < 0xd800 ∨ 0xdfff < c.toNat ∧ c.toNat < 0x110000 := c.valid
  simp only [NoCharacter]
  omega

lemma noOverflow_formatBinary (spec : FormatSpec) (presentation : Presentation) (upper : Bool)
    (x : Binary64) : NoOverflow (formatBinary spec presentation upper x) := by
  unfold formatBinary
  split
  · exact noOverflow_error rfl
  · exact noOverflow_ok _

lemma noOverflow_formatText (spec : FormatSpec) (cs : List Char) :
    NoOverflow (formatText spec cs) := by
  unfold formatText
  split
  · exact noOverflow_error rfl
  · exact noOverflow_error rfl
  · split_ifs
    · exact noOverflow_error rfl
    · exact noOverflow_error rfl
    · exact noOverflow_error rfl
    · split <;> exact noOverflow_ok _

lemma noOverflow_formatStr (s spec : String) : NoOverflow (Value.formatStr s spec) := by
  refine (noOverflow_parse _ _ _ _).bind fun parsed => ?_
  split
  · exact noOverflow_formatText _ _
  · exact noOverflow_error rfl

lemma noOverflow_formatFloat (x : Binary64) (spec : String) :
    NoOverflow (Value.formatFloat x spec) := by
  refine (noOverflow_parse _ _ _ _).bind fun parsed => ?_
  split
  · exact noOverflow_formatBinary _ _ _ _
  · exact noOverflow_error rfl

/-- A character code is laid out as its character, if the specification suits characters. -/
lemma formatCharacter_eq (spec : FormatSpec) (h : ¬ NoCharacter n) :
    ∃ laidOut, formatCharacter spec n =
      if spec.sign.isSome then .error .signForCharacter
      else if spec.alternate then .error .alternateForCharacter else .ok laidOut := by
  obtain ⟨hlow, hhigh⟩ := not_or.mp h
  have hlong : Nat.pow 2 63 = 9223372036854775808 := rfl
  have hrange : (n < -(Nat.pow 2 63) || Nat.pow 2 63 ≤ n) = false := by
    simp only [hlong, Bool.or_eq_false_iff, decide_eq_false_iff_not]
    omega
  have hcode : (n < 0 || 0x110000 ≤ n) = false := by
    simp only [Bool.or_eq_false_iff, decide_eq_false_iff_not]
    omega
  exact ⟨_, by rw [formatCharacter, hrange, hcode, if_neg Bool.false_ne_true,
    if_neg Bool.false_ne_true]⟩

lemma noOverflow_formatCharacter (h : ¬ NoCharacter n) : NoOverflow (formatCharacter spec n) := by
  obtain ⟨laidOut, hlaid⟩ := formatCharacter_eq spec h
  rw [hlaid]
  split_ifs
  · exact noOverflow_error rfl
  · exact noOverflow_error rfl
  · exact noOverflow_ok _

/-- A character code can be laid out as a character, and as a binary number. -/
lemma noOverflow_formatInt (kind : String) (h : ¬ NoCharacter n) :
    NoOverflow (formatInt kind spec n) := by
  unfold formatInt
  split_ifs
  · exact noOverflow_error rfl
  · exact noOverflow_error rfl
  · exact noOverflow_formatCharacter h
  · exact noOverflow_ok _
  · obtain ⟨hlow, hhigh⟩ := not_or.mp h
    split
    · exact noOverflow_error rfl
    · exact noOverflow_error rfl
    · split
      · next hnone => exact absurd hnone (Binary64.ofInt?_ne_none (by omega))
      · exact noOverflow_formatBinary _ _ _ _

lemma noOverflow_formatInteger (kind spec : String) (h : ¬ NoCharacter n) :
    NoOverflow (Value.formatInteger kind n spec) :=
  (noOverflow_parse _ _ _ _).bind fun _ => noOverflow_formatInt kind h

/-- No number is found not to fit where the value lays itself out. -/
def Value.OwnLayoutFits (v : Value) : Prop :=
  ∀ provider layOut, v = .object provider → provider.layOut = some layOut →
    ∀ spec, NoOverflow (layOut spec)

/-- **The values that do not fit** are integers that are no character codes. -/
theorem Value.format_overflow {spec : String} (hv : v.OwnLayoutFits)
    (h : v.format spec = .error e) (he : e.isOverflow = true) :
    ∃ n, v = .int n ∧ NoCharacter n := by
  have hnot : ∀ {x : Except FormatError String}, NoOverflow x → x ≠ .error e := by
    intro x hx herror
    exact absurd (hx e herror) (by simp [he])
  unfold format at h
  split at h
  · exact absurd h (by simp)
  · split at h
    · exact absurd h (hnot (noOverflow_formatStr _ _).map)
    · next n =>
        by_contra hno
        have hcode : ¬ NoCharacter n := fun hcode => hno ⟨n, rfl, hcode⟩
        exact hnot (noOverflow_formatInteger _ _ hcode).map h
    · next b =>
        have hcode : ¬ NoCharacter (if b then 1 else 0) := by cases b <;> simp [NoCharacter]
        exact absurd h (hnot (noOverflow_formatInteger _ _ hcode).map)
    · exact absurd h (hnot (noOverflow_formatFloat _ _).map)
    · next provider =>
        split at h
        · next layOut hown => exact absurd h (hnot (hv provider layOut rfl hown spec))
        · exact absurd h (hnot (noOverflow_error rfl))
    · exact absurd h (hnot (noOverflow_error rfl))

/-! ## Fields and templates -/

/-- A conversion makes a text of a value, or leaves it as it is. -/
lemma convertValue_cases {conversion : Option String} {w : Value}
    (h : convertValue conversion v = .ok w) : w = v ∨ ∃ s, w = .str s := by
  unfold convertValue at h
  split at h
  · exact Or.inl (Except.ok.inj h).symm
  · exact Or.inr ⟨_, (Except.ok.inj h).symm⟩
  · exact Or.inr ⟨_, (Except.ok.inj h).symm⟩
  · exact Or.inr ⟨_, (Except.ok.inj h).symm⟩
  · exact absurd h (by simp)

lemma resolveField_overflow {conversion : Option String} {spec : String} (hv : v.OwnLayoutFits)
    (h : resolveField v conversion spec = .error (.format e)) (he : e.isOverflow = true) :
    ∃ n, v = .int n ∧ NoCharacter n := by
  unfold resolveField at h
  cases hconvert : convertValue conversion v with
  | error fault =>
      rw [hconvert] at h
      have hfault : fault = .format e := Except.error.inj h
      unfold convertValue at hconvert
      split at hconvert
      all_goals simp [hfault] at hconvert
  | ok w =>
      rw [hconvert] at h
      have hformat : w.format spec = .error e := by
        simp only [bind, Except.bind, pure, Except.pure] at h
        split_ifs at h
        split at h
        · exact absurd h (by simp)
        · next e' hlaid => rw [hlaid, FieldError.format.inj (Except.error.inj h)]
      rcases convertValue_cases hconvert with rfl | ⟨s, rfl⟩
      · exact Value.format_overflow hv hformat he
      · have hown : (Value.str s).OwnLayoutFits :=
          fun provider _ hobject => absurd hobject (by simp)
        obtain ⟨n, hint, -⟩ := Value.format_overflow hown hformat he
        exact absurd hint (by simp)

/-- A field that cannot be appended has no text. -/
lemma resolveField_of_add_error {b : Builder} {conversion : Option String} {spec : String}
    {fault : FieldError} (h : b.add (.field v conversion spec) = .error fault) :
    resolveField v conversion spec = .error fault := by
  rw [Builder.add, Piece.resolve] at h
  cases hfield : resolveField v conversion spec with
  | error e =>
      rw [hfield] at h
      exact congrArg _ (Except.error.inj h)
  | ok piece =>
      rw [hfield] at h
      exact absurd h (by simp [Except.map])

lemma TemplateValues.mem_of_find? {values : TemplateValues} {name : String}
    (h : values.find? name = some v) : (name, v) ∈ values := by
  obtain ⟨row, hrow, rfl⟩ := Option.map_eq_some_iff.mp h
  have hname : row.1 = name := by simpa using List.find?_some hrow
  rw [← hname]
  exact List.mem_of_find?_eq_some hrow

lemma addChunks_overflow {values : TemplateValues}
    (hvalues : ∀ entry ∈ values, entry.2.OwnLayoutFits) (he : e.isOverflow = true) :
    ∀ (read : List Chunk) {b after : Builder},
      addChunks values b read = (after, some (.field (.format e))) →
        ∃ name n, (name, Value.int n) ∈ values ∧ NoCharacter n
  | [], b, after, h => absurd h (by simp [addChunks])
  | chunk :: rest, b, after, h => by
      rw [addChunks] at h
      split at h
      · exact addChunks_overflow hvalues he rest h
      · next f _ =>
          split at h
          · exact absurd h (by simp)
          · next v hfind =>
              split at h
              · next fault hadd =>
                  have hfault : fault = .format e := by simpa using (Prod.mk.inj h).2
                  have hmem := TemplateValues.mem_of_find? hfind
                  obtain ⟨n, rfl, hcode⟩ := resolveField_overflow (hvalues _ hmem)
                    (resolveField_of_add_error (hadd.trans (congrArg _ hfault))) he
                  exact ⟨f.name, n, hmem, hcode⟩
              · exact addChunks_overflow hvalues he rest h

/-- **The number that does not fit** is among the values of the template. -/
theorem addTemplate_overflow {values : TemplateValues} {b after : Builder} {template : String}
    (hvalues : ∀ entry ∈ values, entry.2.OwnLayoutFits)
    (h : addTemplate values b template = (after, some (.field (.format e))))
    (he : e.isOverflow = true) : ∃ name n, (name, Value.int n) ∈ values ∧ NoCharacter n := by
  rw [addTemplate] at h
  split at h
  · next read fault _ =>
      split at h
      · next behind error hadd =>
          have herror : error = .field (.format e) := by simpa using (Prod.mk.inj h).2
          exact addChunks_overflow hvalues he read (hadd.trans (by rw [herror]))
      · -- a fault of the template itself is none of a field
        have hfault := (Prod.mk.inj h).2
        cases fault <;> exact absurd hfault (by simp)

/-! ## Values from documents -/

namespace Json

/-- The character that stands in for a half is a character code, and so is the code of the half. -/
lemma noOverflow_formatSurrogate (standIn : StandIn) (hn : isSurrogateCode n = true)
    (spec : String) : NoOverflow (formatSurrogate standIn n spec) := by
  refine (noOverflow_parse _ _ _ _).bind fun parsed => noOverflow_formatInt "int" ?_
  split
  · exact not_noCharacter_toNat _
  · simp only [isSurrogateCode, Bool.and_eq_true, decide_eq_true_eq] at hn
    simp only [NoCharacter]
    omega

/-- What stands for a part of a document lays itself out as texts and character codes do. -/
lemma ownLayoutFits_toValue (standIn : StandIn) (document : Json) :
    (document.toValue standIn).OwnLayoutFits := by
  intro provider layOut hobject hown spec
  cases document with
  | integer n =>
      rw [toValue, integerValue] at hobject
      split_ifs at hobject with hn
      rw [← Value.object.inj hobject] at hown
      rw [← Option.some.inj hown]
      exact (noOverflow_formatSurrogate standIn hn spec).map
  | string text =>
      rw [toValue, textValue] at hobject
      split_ifs at hobject
      rw [← Value.object.inj hobject] at hown
      rw [← Option.some.inj hown]
      exact (noOverflow_formatStr _ spec).map
  | array items =>
      rw [toValue, listValue] at hobject
      split at hobject
      · exact absurd hobject (by simp)
      · split_ifs at hobject
        rw [← Value.object.inj hobject] at hown
        exact absurd hown (by simp)
  | _ => exact absurd hobject (by simp [toValue])

/-- A value that is an integer comes from one. -/
lemma eq_integer_of_toValue {standIn : StandIn} {document : Json}
    (h : document.toValue standIn = .int n) : document = .integer n := by
  cases document with
  | integer m =>
      rw [toValue, integerValue] at h
      split_ifs at h
      rw [Value.int.inj h]
  | string text =>
      rw [toValue, textValue] at h
      split_ifs at h
  | array items =>
      rw [toValue, listValue] at h
      split at h
      · exact absurd h (by simp)
      · split_ifs at h
  | _ => exact absurd h (by simp [toValue])

/-- **The number that does not fit** is an integer of the document. -/
theorem addTemplate_namedValues_overflow {standIn : StandIn} {members : List (CodeText × Json)}
    {b after : Builder} {template : String}
    (h : addTemplate (namedValues standIn members) b template
      = (after, some (.field (.format e)))) (he : e.isOverflow = true) :
    ∃ name n, (name, Json.integer n) ∈ members ∧ NoCharacter n := by
  have hvalues : ∀ entry ∈ namedValues standIn members, entry.2.OwnLayoutFits := by
    intro entry hentry
    obtain ⟨m, -, rfl⟩ := List.mem_map.mp hentry
    exact ownLayoutFits_toValue standIn m.2
  obtain ⟨name, n, hmem, hcode⟩ := addTemplate_overflow hvalues h he
  obtain ⟨m, hm, hentry⟩ := List.mem_map.mp hmem
  refine ⟨m.1, n, ?_, hcode⟩
  rw [← eq_integer_of_toValue (Prod.mk.inj hentry).2]
  exact (List.mem_filter.mp hm).1

end Json

end

end SafeMarkup
