import SafeMarkup.Text.WideUnits

/-!
# Texts with halves of surrogate pairs

A surrogate pair makes up one character.  A string can hold a half without the other one all the
same, and then no encoding can say it.

Such a text is worked with in two forms, both of which are text in characters.  In either form some
other character stands in for each half, one for private use: it means nothing in markup, is no
blank, does not show, and except next to others for private use it has the place of the half in the
order of characters.  Where the two forms of a text differ, it holds a half.

* `CodePoint`, `CodeText` — a character or a half, and texts of them.
* `CodeText.form`, `CodeText.ofForms` — the forms of a text, and the text of two forms.
* `SurrogateFault`, `CodeText.surrogateFault?` — where a text cannot be encoded.
* `ofForms_form` says that the two forms determine a text, and `surrogateFault?_eq_none_iff` that
  what can be encoded is text in characters.
-/

namespace SafeMarkup

/-- A code point. -/
inductive CodePoint where
  | char (c : Char)
  /-- Half of a surrogate pair without the other half, by its place among the halves. -/
  | half (index : Fin 0x800)
  deriving DecidableEq, Repr, Inhabited

namespace CodePoint

/-- The number of a code point. -/
def toNat : CodePoint → Nat
  | char c => c.toNat
  | half index => 0xd800 + index

/-- The code point with a number. -/
def ofNat (code : Nat) : CodePoint :=
  if code.isValidChar then char (Char.ofNat code) else half (Fin.ofNat 0x800 code)

theorem ofNat_toNat (c : Char) : ofNat c.toNat = char c := by
  have hvalid : c.toNat.isValidChar := c.valid
  rw [ofNat, if_pos hvalid, Char.ofNat_toNat]

/-- Whether a code point is a character. -/
def isChar : CodePoint → Bool
  | char _ => true
  | half _ => false

end CodePoint

/-- A text by its code points. -/
abbrev CodeText := List CodePoint

/-- A text in characters. -/
def CodeText.ofString (s : String) : CodeText := s.toList.map .char

/-- The text that code units and code points stand for. -/
def CodeText.ofUnits (units : List Nat) : CodeText := (joinPairs units).map .ofNat

/-- Whether a text holds no half. -/
def CodeText.isWhole (text : CodeText) : Bool := text.all CodePoint.isChar

/-- A text in characters, with the replacement character for each half. -/
def CodeText.replaced (text : CodeText) : String :=
  String.ofList (text.map fun p => charOfCode p.toNat)

/-! ## The two forms of a text -/

/-- The two ways in which characters stand in for halves. -/
inductive StandIn where
  | first
  | second
  deriving DecidableEq, Repr, Inhabited

namespace StandIn

/-- The number of the character that stands in for the first half. -/
def base : StandIn → Nat
  | first => 0xe000
  | second => 0xe800

/-- The character that a code point is worked with as. -/
def char (standIn : StandIn) : CodePoint → Char
  | .char c => c
  | .half index => Char.ofNat (standIn.base + index)

end StandIn

/-- The code point that has these two forms. -/
def CodePoint.ofForms (first second : Char) : CodePoint :=
  if first = second then char first else half (Fin.ofNat 0x800 first.toNat)

namespace CodeText

/-- A form of a text. -/
def form (standIn : StandIn) (text : CodeText) : String := String.ofList (text.map standIn.char)

/-- The text that has these two forms. -/
def ofForms (first second : String) : CodeText :=
  List.zipWith CodePoint.ofForms first.toList second.toList

end CodeText

/-! ## What cannot be encoded -/

/-- The first place where a text cannot be encoded. -/
structure SurrogateFault where
  /-- The position of the first half. -/
  start : Nat
  /-- How many halves stand there, at least one. -/
  count : Nat
  /-- The first of them. -/
  half : CodePoint
  deriving DecidableEq, Repr, Inhabited

/-- The wording of a fault: a single half is shown, several are given by their positions. -/
def SurrogateFault.message (fault : SurrogateFault) : String :=
  let place :=
    if fault.count = 1 then
      "character '" ++ String.ofList (numericEscape fault.half.toNat) ++ "' in position "
        ++ toString fault.start
    else
      "characters in position " ++ toString fault.start ++ "-"
        ++ toString (fault.start + fault.count - 1)
  "'" ++ Encoding.utf8.name ++ "' codec can't encode " ++ place ++ ": surrogates not allowed"

/-- The first place where a text cannot be encoded, if there is one. -/
def CodeText.surrogateFault? (text : CodeText) : Option SurrogateFault :=
  match text.dropWhile CodePoint.isChar with
  | [] => none
  | half :: rest =>
    some ⟨(text.takeWhile CodePoint.isChar).length,
      1 + (rest.takeWhile fun p => !p.isChar).length, half⟩

/-- A text with the halves in it escaped. -/
def CodeText.escaped (text : CodeText) : String :=
  String.ofList (text.flatMap fun
    | .char c => [c]
    | .half index => numericEscape (CodePoint.half index).toNat)

/-! ## Laws -/

namespace CodeText

variable {text : CodeText} {s : String}

/-- The number of a character that stands in for a half. -/
theorem toNat_char_half (standIn : StandIn) (index : Fin 0x800) :
    (standIn.char (.half index)).toNat = standIn.base + index := by
  have hvalid : (standIn.base + index).isValidChar := by
    have hlt := index.isLt
    cases standIn <;> exact Or.inr ⟨by simp only [StandIn.base]; omega,
      by simp only [StandIn.base]; omega⟩
  rw [StandIn.char, Char.ofNat, dif_pos hvalid]
  rfl

theorem ofForms_char : ∀ p : CodePoint,
    CodePoint.ofForms (StandIn.first.char p) (StandIn.second.char p) = p
  | .char c => if_pos rfl
  | .half index => by
    have hfirst := toNat_char_half .first index
    have hsecond := toNat_char_half .second index
    have hlt := index.isLt
    have hne : StandIn.first.char (.half index) ≠ StandIn.second.char (.half index) := by
      intro hsame
      rw [hsame, hsecond] at hfirst
      simp only [StandIn.base] at hfirst
      omega
    have hindex : Fin.ofNat 0x800 (StandIn.first.base + index) = index := by
      apply Fin.ext
      simp only [Fin.ofNat, StandIn.base]
      omega
    rw [CodePoint.ofForms, if_neg hne, hfirst, hindex]

/-- **The two forms determine a text.** -/
theorem ofForms_form : ofForms (text.form .first) (text.form .second) = text := by
  simp only [ofForms, form, String.toList_ofList]
  induction text with
  | nil => rfl
  | cons p rest ih => rw [List.map_cons, List.map_cons, List.zipWith_cons_cons, ofForms_char, ih]

/-- A text in characters is each of its forms. -/
theorem ofForms_self : ofForms s s = ofString s := by
  simp only [ofForms, ofString]
  induction s.toList with
  | nil => rfl
  | cons c rest ih =>
    rw [List.zipWith_cons_cons, ih, CodePoint.ofForms, if_pos rfl, List.map_cons]

theorem ofString_append (s t : String) : ofString (s ++ t) = ofString s ++ ofString t := by
  simp [ofString]

theorem form_append (standIn : StandIn) (text more : CodeText) :
    form standIn (text ++ more) = text.form standIn ++ more.form standIn := by
  simp [form]

theorem form_ofString (standIn : StandIn) : (ofString s).form standIn = s := by
  have hform : (ofString s).map standIn.char = s.toList := by
    rw [ofString, List.map_map]
    exact List.map_id'' (fun _ => rfl) _
  rw [form, hform, String.ofList_toList]

theorem ofString_inj {t : String} (h : ofString s = ofString t) : s = t := by
  rw [← form_ofString (s := s) .first, h, form_ofString]

theorem replaced_ofString : (ofString s).replaced = s := by
  have hchars : (ofString s).map (fun p => charOfCode p.toNat) = s.toList := by
    rw [ofString, List.map_map]
    exact List.map_id'' charOfCode_toNat _
  rw [replaced, hchars, String.ofList_toList]

/-- A text without halves is one in characters. -/
theorem isWhole_iff : text.isWhole = true ↔ ∃ s, text = ofString s := by
  constructor
  · intro h
    induction text with
    | nil => exact ⟨"", rfl⟩
    | cons p rest ih =>
      simp only [isWhole, List.all_cons, Bool.and_eq_true] at h
      obtain ⟨s, rfl⟩ := ih h.2
      cases p with
      | char c => exact ⟨String.ofList (c :: s.toList), by simp [ofString]⟩
      | half index => exact absurd h.1 (by simp [CodePoint.isChar])
  · rintro ⟨s, rfl⟩
    simp [isWhole, ofString, CodePoint.isChar]

/-- **What can be encoded is text in characters.** -/
theorem surrogateFault?_eq_none_iff : text.surrogateFault? = none ↔ text.isWhole = true := by
  have hdrop : text.dropWhile CodePoint.isChar = [] ↔ text.isWhole = true := by
    induction text with
    | nil => simp [isWhole]
    | cons p rest ih =>
      cases p with
      | char c =>
        rw [List.dropWhile_cons_of_pos rfl, ih, isWhole, isWhole, List.all_cons]
        rfl
      | half index => simp [isWhole, CodePoint.isChar]
  rw [← hdrop, surrogateFault?]
  split <;> simp [*]

end CodeText

end SafeMarkup
