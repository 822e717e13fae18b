import Mathlib.Data.List.TakeWhile
import SafeMarkup.Proofs.Results
import SafeMarkup.Template

/-!
# Reading template text

A template is read chunk by chunk, and a chunk is never empty, so the reader comes to the end of the
text or to a fault.  What it makes of a text that was written as a template is the template: literal
text with its braces doubled, and fields with what their parts may hold.

* `length_nextChunk?_lt`, `chunks_cons` — the chunks of a text are its first chunk and those of the
  rest.
* `Slot`, `Slot.written` — fields as they are written.
* `nextChunk?_doubled`, `nextChunk?_slot`, `nextChunk?_of_plain` — the chunks that literal text and
  fields come to.
-/

namespace SafeMarkup

variable {text rest before : List Char}

/-! ## Every chunk takes something -/

lemma length_readName_lt : ∀ {text : List Char} {inBrackets : Bool}
    {r : List Char × NameEnd × List Char}, readName inBrackets text = .ok r →
      r.2.2.length < text.length
  | [], _, _, h => absurd h (by simp [readName])
  | c :: text, inBrackets, r, h => by
      have hmore : ∀ inside,
          (readName inside text).map (fun r => (c :: r.1, r.2.1, r.2.2)) = .ok r →
            r.2.2.length < (c :: text).length := by
        intro inside hread
        obtain ⟨r', hr', rfl⟩ := exists_of_map_eq_ok hread
        have hlt : r'.2.2.length < text.length := length_readName_lt hr'
        exact Nat.lt_succ_of_lt hlt
      have hend : ∀ ending, (Except.ok ([], ending, text) : Except TemplateFault _) = .ok r →
          r.2.2.length < (c :: text).length := by
        intro ending hread
        obtain rfl := Except.ok.inj hread
        exact Nat.lt_succ_self _
      rw [readName] at h
      split_ifs at h
      · exact hmore _ h
      · exact hend _ h
      · exact hend _ h
      · exact hend _ h
      · exact hmore _ h

lemma length_readSpec_lt : ∀ {text : List Char} {depth : ℕ} {r : List Char × List Char},
    readSpec depth text = .ok r → r.2.length < text.length
  | [], _, _, h => absurd h (by simp [readSpec])
  | c :: text, depth, r, h => by
      have hmore : ∀ depth, (readSpec depth text).map (fun r => (c :: r.1, r.2)) = .ok r →
          r.2.length < (c :: text).length := by
        intro depth hread
        obtain ⟨r', hr', rfl⟩ := exists_of_map_eq_ok hread
        have hlt : r'.2.length < text.length := length_readSpec_lt hr'
        exact Nat.lt_succ_of_lt hlt
      unfold readSpec at h
      split_ifs at h
      · exact hmore _ h
      · cases depth with
        | zero =>
            obtain rfl := Except.ok.inj h
            exact Nat.lt_succ_self _
        | succ outer => exact hmore _ h
      · exact hmore _ h

lemma length_readField_lt {r : TemplateField × List Char} (h : readField text = .ok r) :
    r.2.length < text.length := by
  rw [readField] at h
  obtain ⟨⟨name, ending, behind⟩, hname, h⟩ := exists_of_bind_eq_ok h
  have hbehind : behind.length < text.length := length_readName_lt hname
  have hspec : ∀ {more : List Char} {conversion : Option Char}, more.length ≤ behind.length →
      (readSpec 0 more >>= fun s =>
        pure (⟨String.ofList name, conversion, String.ofList s.1⟩, s.2)) = Except.ok r →
      r.2.length < text.length := by
    intro more conversion hle hread
    obtain ⟨s, hs, hr⟩ := exists_of_bind_eq_ok hread
    obtain rfl := Except.ok.inj hr
    calc s.2.length
        < more.length := length_readSpec_lt hs
      _ ≤ behind.length := hle
      _ < text.length := hbehind
  cases ending with
  | brace =>
      obtain rfl := Except.ok.inj h
      exact hbehind
  | colon => exact hspec (Nat.le_refl _) h
  | mark =>
      rcases behind with _ | ⟨c, _ | ⟨d, more⟩⟩
      · exact absurd h (by simp)
      · exact absurd h (by simp)
      · have hle : more.length ≤ (c :: d :: more).length := Nat.le_add_right _ 2
        simp only at h
        split_ifs at h
        · obtain rfl := Except.ok.inj h
          exact Nat.lt_of_le_of_lt hle hbehind
        · exact hspec hle h

/-- Every chunk takes at least one character. -/
lemma length_nextChunk?_lt {chunk : Chunk} (h : nextChunk? text = .ok (some (chunk, rest))) :
    rest.length < text.length := by
  have hle : (text.dropWhile fun c => !isBrace c).length ≤ text.length :=
    List.length_dropWhile_le _ _
  unfold nextChunk? at h
  split at h
  · cases text with
    | nil => exact absurd h (by simp)
    | cons c text =>
        obtain ⟨_, rfl⟩ := Prod.mk.inj (Option.some.inj (Except.ok.inj h))
        exact Nat.zero_lt_succ _
  · exact absurd h (by simp)
  · next c d more hdrop =>
    rw [hdrop] at hle
    split_ifs at h
    · obtain ⟨_, rfl⟩ := Prod.mk.inj (Option.some.inj (Except.ok.inj h))
      exact Nat.lt_of_lt_of_le (Nat.lt_add_of_pos_right Nat.two_pos) hle
    · obtain ⟨r, hr, heq⟩ := exists_of_map_eq_ok h
      obtain ⟨_, rfl⟩ := Prod.mk.inj (Option.some.inj heq)
      have hlt : r.2.length < (d :: more).length := length_readField_lt hr
      exact Nat.lt_of_lt_of_le (Nat.lt_succ_of_lt hlt) hle

/-- More chunks than there are characters are never asked for. -/
lemma chunksUpTo_eq : ∀ {limit limit' : ℕ} {text : List Char}, text.length < limit →
    text.length < limit' → chunksUpTo limit text = chunksUpTo limit' text
  | 0, _, _, h, _ => absurd h (Nat.not_lt_zero _)
  | _, 0, _, _, h => absurd h (Nat.not_lt_zero _)
  | limit + 1, limit' + 1, text, h, h' => by
      rw [chunksUpTo, chunksUpTo]
      cases hnext : nextChunk? text with
      | error fault => rfl
      | ok found =>
          rcases found with _ | ⟨chunk, rest⟩
          · rfl
          · have hlt : rest.length < text.length := length_nextChunk?_lt hnext
            have hrest : chunksUpTo limit rest = chunksUpTo limit' rest :=
              chunksUpTo_eq (by omega) (by omega)
            simp only [hrest]

/-- **The chunks of a text are its first chunk and the chunks of the rest.** -/
theorem chunks_cons {chunk : Chunk} (h : nextChunk? text = .ok (some (chunk, rest))) :
    chunks text = (chunk :: (chunks rest).1, (chunks rest).2) := by
  have hlt : rest.length < text.length := length_nextChunk?_lt h
  have hrest : chunksUpTo text.length rest = chunks rest :=
    chunksUpTo_eq hlt (Nat.lt_succ_self _)
  rw [chunks, chunksUpTo, h]
  simp only [hrest]

/-! ## Literal text -/

/-- Literal text as it stands in a template. -/
def doubleBraces (text : List Char) : List Char :=
  text.flatMap fun c => if isBrace c then [c, c] else [c]

lemma nextChunk?_of_plain (hne : text ≠ []) (hplain : ∀ c ∈ text, isBrace c = false) :
    nextChunk? text = .ok (some (⟨String.ofList text, none⟩, [])) := by
  have hdrop : (text.dropWhile fun c => !isBrace c) = [] :=
    List.dropWhile_eq_nil_iff.mpr fun c hc => by simp [hplain c hc]
  simp only [nextChunk?, hdrop, List.isEmpty_eq_false_iff.mpr hne, Bool.false_eq_true, if_false]

section

variable {c : Char} (hplain : ∀ c ∈ before, isBrace c = false)

include hplain

lemma takeWhile_dropWhile_of_plain (hc : isBrace c = true) (rest : List Char) :
    ((before ++ c :: rest).takeWhile fun c => !isBrace c) = before ∧
      ((before ++ c :: rest).dropWhile fun c => !isBrace c) = c :: rest := by
  have hpass : ∀ d ∈ before, (!isBrace d) = true := fun d hd => by simp [hplain d hd]
  constructor
  · rw [List.takeWhile_append_of_pos hpass, List.takeWhile_cons_of_neg (by simp [hc]),
      List.append_nil]
  · rw [List.dropWhile_append_of_pos hpass, List.dropWhile_cons_of_neg (by simp [hc])]

lemma nextChunk?_doubled (hc : isBrace c = true) (rest : List Char) :
    nextChunk? (before ++ c :: c :: rest)
      = .ok (some (⟨String.ofList (before ++ [c]), none⟩, rest)) := by
  obtain ⟨htake, hdrop⟩ := takeWhile_dropWhile_of_plain hplain hc (c :: rest)
  simp only [nextChunk?, htake, hdrop, if_true]

/-- A brace that a field can be read behind is no doubled brace. -/
lemma nextChunk?_field {field : TemplateField} {more : List Char}
    (hread : readField text = .ok (field, more)) :
    nextChunk? (before ++ '\x7b' :: text)
      = .ok (some (⟨String.ofList before, some field⟩, more)) := by
  cases text with
  | nil => exact absurd hread (by simp [readField, readName, bind, Except.bind])
  | cons d rest =>
      have hd : '\x7b' ≠ d := by
        rintro rfl
        exact absurd hread (by simp [readField, readName, bind, Except.bind])
      have hopen : isBrace '\x7b' = true := rfl
      obtain ⟨htake, hdrop⟩ := takeWhile_dropWhile_of_plain hplain hopen (d :: rest)
      simp only [nextChunk?, htake, hdrop, if_neg hd, hread]
      rfl

end

/-! ## Fields -/

/-- Characters that the name of a field is kept free of: braces and brackets, and what ends a
name. -/
def nameEnders : List Char := ['\x7b', '\x7d', '[', ']', '!', ':']

/-- A field as it is written. -/
structure Slot where
  name : String
  conversion : Option Char
  /-- The specification, if there is a colon. -/
  spec : Option String
  name_plain : ∀ c ∈ name.toList, c ∉ nameEnders
  conversion_ne : conversion ≠ some '\x00'
  spec_plain : ∀ c ∈ (spec.getD "").toList, isBrace c = false

namespace Slot

/-- The parts of a field behind its name, up to the closing brace. -/
def tail (slot : Slot) : List Char :=
  (slot.conversion.elim [] fun c => ['!', c]) ++
    (slot.spec.elim [] fun text => ':' :: text.toList) ++ ['\x7d']

/-- A field as it stands in a template. -/
def written (slot : Slot) : List Char := '\x7b' :: (slot.name.toList ++ slot.tail)

/-- A field as it is read. -/
def toField (slot : Slot) : TemplateField := ⟨slot.name, slot.conversion, slot.spec.getD ""⟩

end Slot

lemma readName_of_plain {ending : NameEnd} {c : Char}
    (hstop : readName false (c :: rest) = .ok ([], ending, rest)) : ∀ {name : List Char},
      (∀ d ∈ name, d ∉ nameEnders) →
        readName false (name ++ c :: rest) = .ok (name, ending, rest)
  | [], _ => hstop
  | d :: name, hplain => by
      obtain ⟨hd, hrest⟩ := List.forall_mem_cons.mp hplain
      simp only [nameEnders, List.mem_cons, List.not_mem_nil, or_false, not_or] at hd
      obtain ⟨hopen, hclose, hbracket, _, hmark, hcolon⟩ := hd
      rw [List.cons_append, readName]
      simp only [Bool.false_eq_true, if_false, if_neg hclose, if_neg hcolon, if_neg hmark,
        if_neg hopen, decide_eq_false hbracket]
      rw [readName_of_plain hstop hrest]
      rfl

lemma readSpec_of_plain : ∀ {spec : List Char}, (∀ c ∈ spec, isBrace c = false) →
    readSpec 0 (spec ++ '\x7d' :: rest) = .ok (spec, rest)
  | [], _ => rfl
  | c :: spec, hplain => by
      obtain ⟨hc, hrest⟩ := List.forall_mem_cons.mp hplain
      simp only [isBrace, Bool.or_eq_false_iff, decide_eq_false_iff_not] at hc
      rw [List.cons_append, readSpec]
      simp only [if_neg hc.1, if_neg hc.2]
      rw [readSpec_of_plain hrest]
      rfl

/-- **A field is read as it was written**, and what follows it is left. -/
theorem readField_slot (slot : Slot) (rest : List Char) :
    readField (slot.name.toList ++ slot.tail ++ rest) = .ok (slot.toField, rest) := by
  obtain ⟨name, conversion, spec, hname, hconversion, hspec⟩ := slot
  have hends : ∀ c ending behind, readName false (c :: behind) = .ok ([], ending, behind) →
      readName false (name.toList ++ c :: behind) = .ok (name.toList, ending, behind) :=
    fun _ _ _ hstop => readName_of_plain hstop hname
  have hread : ∀ text, spec = some text →
      readSpec 0 (text.toList ++ '\x7d' :: rest) = .ok (text.toList, rest) := by
    rintro text rfl
    exact readSpec_of_plain hspec
  rcases conversion with _ | c
  · rcases spec with _ | text
    · have hend := hends '\x7d' .brace rest rfl
      simp [readField, Slot.tail, Slot.toField, hend, bind, Except.bind, pure, Except.pure]
    · have hend := hends ':' .colon (text.toList ++ '\x7d' :: rest) rfl
      simp [readField, Slot.tail, Slot.toField, hend, hread text rfl, bind, Except.bind, pure,
        Except.pure]
  · have hc : conversionOf c = some c := if_neg fun h => hconversion (congrArg some h)
    rcases spec with _ | text
    · have hend := hends '!' .mark (c :: '\x7d' :: rest) rfl
      simp [readField, Slot.tail, Slot.toField, hend, hc, bind, Except.bind, pure, Except.pure]
    · have hend := hends '!' .mark (c :: ':' :: (text.toList ++ '\x7d' :: rest)) rfl
      simp [readField, Slot.tail, Slot.toField, hend, hc, hread text rfl, bind, Except.bind, pure,
        Except.pure]

lemma nextChunk?_slot (hplain : ∀ c ∈ before, isBrace c = false) (slot : Slot)
    (rest : List Char) :
    nextChunk? (before ++ (slot.written ++ rest))
      = .ok (some (⟨String.ofList before, some slot.toField⟩, rest)) :=
  nextChunk?_field hplain (readField_slot slot rest)

end SafeMarkup
