/-!
# Finding and replacing a piece of text

Occurrences are taken from left to right and do not overlap: the search goes on behind the
occurrence it has found.

* `occursIn` — whether a piece occurs.
* `substitute` — every occurrence replaced; `erase` is the case of the empty replacement.
* `occursIn_iff_infix` says what an occurrence is; `erase_of_not_occursIn` and
  `length_erase_lt` say that erasing changes a text exactly where the piece occurs.
-/

namespace SafeMarkup

/-- Whether `piece` occurs in the text. -/
def occursIn (piece : List Char) : List Char → Bool
  | [] => piece.isEmpty
  | c :: rest => piece.isPrefixOf (c :: rest) || occursIn piece rest

/-- Replaces the occurrences of `piece`, the first `skip` characters being part of an occurrence
that has been replaced already. -/
def substituteFrom (piece replacement : List Char) : Nat → List Char → List Char
  | _, [] => []
  | skip + 1, _ :: rest => substituteFrom piece replacement skip rest
  | 0, c :: rest =>
    if piece.isPrefixOf (c :: rest) then
      replacement ++ substituteFrom piece replacement (piece.length - 1) rest
    else
      c :: substituteFrom piece replacement 0 rest

/-- Replaces every occurrence of `piece`, from left to right. -/
def substitute (piece replacement text : List Char) : List Char :=
  substituteFrom piece replacement 0 text

/-- Deletes every occurrence of `piece`, from left to right, once over. -/
def erase (piece text : List Char) : List Char :=
  substitute piece [] text

/-! ## What erasing changes -/

theorem occursIn_iff_infix {piece text : List Char} :
    occursIn piece text = true ↔ piece <:+: text := by
  induction text with
  | nil => simp [occursIn, List.isEmpty_iff]
  | cons c rest ih =>
    rw [occursIn, Bool.or_eq_true, ih, List.isPrefixOf_iff_prefix, List.infix_cons_iff]

theorem length_substituteFrom_nil_le (piece : List Char) :
    ∀ (skip : Nat) (text : List Char),
      (substituteFrom piece [] skip text).length ≤ text.length
  | _, [] => by simp [substituteFrom]
  | skip + 1, c :: rest => by
    have h := length_substituteFrom_nil_le piece skip rest
    simp only [substituteFrom, List.length_cons]
    omega
  | 0, c :: rest => by
    have h := length_substituteFrom_nil_le piece (piece.length - 1) rest
    have h₀ := length_substituteFrom_nil_le piece 0 rest
    simp only [substituteFrom]
    split
    · simp only [List.nil_append, List.length_cons]
      omega
    · simp only [List.length_cons]
      omega

/-- Erasing never makes a text longer. -/
theorem length_erase_le (piece text : List Char) : (erase piece text).length ≤ text.length :=
  length_substituteFrom_nil_le piece 0 text

/-- A text without the piece stays as it is. -/
theorem erase_of_not_occursIn {piece text : List Char} (h : occursIn piece text = false) :
    erase piece text = text := by
  induction text with
  | nil => rfl
  | cons c rest ih =>
    simp only [occursIn, Bool.or_eq_false_iff] at h
    have hrest := ih h.2
    simp only [erase, substitute] at hrest
    simp [erase, substitute, substituteFrom, h.1, hrest]

/-- Erasing a piece that occurs makes the text shorter. -/
theorem length_erase_lt {piece text : List Char} (hpiece : piece ≠ [])
    (h : occursIn piece text = true) : (erase piece text).length < text.length := by
  induction text with
  | nil => simp [occursIn, List.isEmpty_iff, hpiece] at h
  | cons c rest ih =>
    simp only [occursIn, Bool.or_eq_true] at h
    simp only [erase, substitute, substituteFrom]
    split
    · have := length_substituteFrom_nil_le piece (piece.length - 1) rest
      simp only [List.nil_append, List.length_cons]
      omega
    · next hno =>
      have hrest := ih (h.resolve_left hno)
      simp only [erase, substitute] at hrest
      simp only [List.length_cons]
      omega

end SafeMarkup
