import SafeMarkup.Json.Reader
import SafeMarkup.Proofs.ByteText

/-!
# Strings of documents

A string is written in printable ASCII, character by character: a few characters have an escape of
one letter, printable ones stand for themselves, and all others are written by the numbers of their
units.  The reader collects units, from escapes and characters alike, and puts them together at the
end.

* `hexNumber?_hexDigits` — numbers in hexadecimal, and back.
* `Json.WrittenAs`, `Json.writtenAs_escapeChar` — the three ways in which a character is written.
* `Json.readCodes_escapeChar` — a character is read as its units, whatever stands behind it.
* **`Json.readString_escapeChars`** — a string is read back.
* **`Json.parse_quote`** — and so is a document that is a string.
* `Json.isPrintableAscii_of_mem_quote` — a string is written in printable ASCII.
-/

namespace SafeMarkup

/-- A character is ASCII and more than a control character. -/
def IsPrintableAscii (c : Char) : Prop := 32 ≤ c.toNat ∧ c.toNat < 127

instance : DecidablePred IsPrintableAscii := fun c =>
  inferInstanceAs (Decidable (32 ≤ c.toNat ∧ c.toNat < 127))

/-! ## Digits -/

lemma hexValue?_hexDigit (n : ℕ) : hexValue? (hexDigit n) = some (n % 16) := by
  have hall : ∀ d < 16, hexValue? (Nat.digitChar d) = some d := by decide
  exact hall (n % 16) (Nat.mod_lt n (by decide))

lemma isPrintableAscii_hexDigit (n : ℕ) : IsPrintableAscii (hexDigit n) := by
  have hall : ∀ d < 16, IsPrintableAscii (Nat.digitChar d) := by decide
  exact hall (n % 16) (Nat.mod_lt n (by decide))

lemma hexNumber?_concat (digits : List Char) (c : Char) :
    hexNumber? (digits ++ [c])
      = (hexNumber? digits).bind fun n => (hexValue? c).map (16 * n + ·) := by
  simp [hexNumber?, List.foldlM_append]

/-- A number that is written in hexadecimal is read, as far as the digits go. -/
lemma hexNumber?_hexDigits : ∀ width n : ℕ, hexNumber? (hexDigits width n) = some (n % 16 ^ width)
  | 0, n => by
      rw [Nat.pow_zero, Nat.mod_one]
      rfl
  | width + 1, n => by
      rw [hexDigits, hexNumber?_concat, hexNumber?_hexDigits width (n / 16), hexValue?_hexDigit,
        Nat.pow_succ', Nat.mod_mul, Nat.add_comm]
      rfl

lemma isPrintableAscii_of_mem_hexDigits {c : Char} : ∀ {width n : ℕ}, c ∈ hexDigits width n →
    IsPrintableAscii c
  | 0, _, h => absurd h List.not_mem_nil
  | width + 1, n, h => by
      rw [hexDigits, List.mem_append, List.mem_singleton] at h
      rcases h with h | rfl
      · exact isPrintableAscii_of_mem_hexDigits h
      · exact isPrintableAscii_hexDigit n

namespace Json

variable {c e : Char} {tail : List Char} {opening unit : ℕ}

/-! ## How characters are written -/

/-- How a character of a string may be written. -/
inductive WrittenAs (c : Char) : List Char → Prop where
  /-- By a backslash and a letter. -/
  | short (e : Char) (hread : shortEscape? e = some c) (hunit : e ≠ 'u')
      (hascii : IsPrintableAscii e) (hlow : c.toNat < 0x10000) : WrittenAs c ['\\', e]
  /-- By itself. -/
  | plain (hquote : c ≠ '"') (hback : c ≠ '\\') (hascii : IsPrintableAscii c) : WrittenAs c [c]
  /-- By the numbers of its units. -/
  | numbers : WrittenAs c ((splitSurrogates c).flatMap hexEscape)

lemma writtenAs_escapeChar (c : Char) : WrittenAs c (escapeChar c) := by
  rw [escapeChar]
  split_ifs with hquote hback hn hr ht hf hb hplain
  · subst hquote
    exact .short '"' rfl (by decide) (by decide) (by decide)
  · subst hback
    exact .short '\\' rfl (by decide) (by decide) (by decide)
  · subst hn
    exact .short 'n' rfl (by decide) (by decide) (by decide)
  · subst hr
    exact .short 'r' rfl (by decide) (by decide) (by decide)
  · subst ht
    exact .short 't' rfl (by decide) (by decide) (by decide)
  · subst hf
    exact .short 'f' rfl (by decide) (by decide) (by decide)
  · subst hb
    exact .short 'b' rfl (by decide) (by decide) (by decide)
  · rw [Bool.and_eq_true, decide_eq_true_eq, decide_eq_true_eq] at hplain
    have hlow : 32 ≤ c.toNat := UInt32.le_iff_toNat_le.mp hplain.1
    have hhigh : c.toNat ≤ 126 := UInt32.le_iff_toNat_le.mp hplain.2
    exact .plain hquote hback ⟨hlow, Nat.lt_succ_of_le hhigh⟩
  · exact .numbers

/-- What is written for a character is printable ASCII. -/
lemma WrittenAs.isPrintableAscii {written : List Char} (h : WrittenAs c written) {d : Char}
    (hd : d ∈ written) : IsPrintableAscii d := by
  cases h with
  | short e _ _ hascii _ =>
      rcases List.mem_pair.mp hd with rfl | rfl
      · decide
      · exact hascii
  | plain _ _ hascii => rwa [List.mem_singleton.mp hd]
  | numbers =>
      obtain ⟨unit, -, hmem⟩ := List.mem_flatMap.mp hd
      rw [hexEscape, List.mem_cons, List.mem_cons] at hmem
      rcases hmem with rfl | rfl | hmem
      · decide
      · decide
      · exact isPrintableAscii_of_mem_hexDigits hmem

/-- A string is written in printable ASCII. -/
lemma isPrintableAscii_of_mem_quote {s : String} (h : c ∈ (quote s).toList) :
    IsPrintableAscii c := by
  rw [quote, String.toList_ofList, List.mem_cons, List.mem_append, List.mem_singleton] at h
  rcases h with rfl | h | rfl
  · decide
  · obtain ⟨c', -, hmem⟩ := List.mem_flatMap.mp h
    exact (writtenAs_escapeChar c').isPrintableAscii hmem
  · decide

/-! ## How they are read -/

lemma readCodes_shortEscape (hunit : e ≠ 'u') (h : shortEscape? e = some c) :
    readCodes opening ('\\' :: e :: tail)
      = (readCodes opening tail).map fun r => (c.toNat :: r.1, r.2) := by
  rw [readCodes]
  · rw [if_neg hunit, h]
  · exact fun _ _ _ _ _ _ h' => absurd h' hunit

lemma readCodes_hexEscape (hunit : unit < 0x10000) (htail : tail ≠ []) :
    readCodes opening (hexEscape unit ++ tail)
      = (readCodes opening tail).map fun r => (unit :: r.1, r.2) := by
  obtain ⟨next, rest, rfl⟩ := List.exists_cons_of_ne_nil htail
  have hdigits : hexNumber? (hexDigits 4 unit) = some unit := by
    have hfits : unit < 16 ^ 4 := hunit
    rw [hexNumber?_hexDigits, Nat.mod_eq_of_lt hfits]
  have hfour : hexDigits 4 unit = [hexDigit (unit / 16 / 16 / 16), hexDigit (unit / 16 / 16),
    hexDigit (unit / 16), hexDigit unit] := rfl
  rw [hfour] at hdigits
  rw [hexEscape, hfour, List.cons_append, List.cons_append, List.cons_append, List.cons_append,
    List.cons_append, List.cons_append, List.nil_append, readCodes, hdigits]

lemma readCodes_plain (hquote : c ≠ '"') (hback : c ≠ '\\') (hascii : IsPrintableAscii c) :
    readCodes opening (c :: tail)
      = (readCodes opening tail).map fun r => (c.toNat :: r.1, r.2) := by
  have hcontrol : ¬ c < ' ' := fun hlt =>
    absurd (UInt32.lt_iff_toNat_lt.mp hlt) (Nat.not_lt.mpr hascii.1)
  rw [readCodes, if_neg hcontrol]
  · exact hquote
  · exact fun h => absurd h hback
  · exact fun _ _ _ _ _ _ h => absurd h hback
  · exact fun _ _ h => absurd h hback

/-- Units are read in their order, each from its escape. -/
lemma readCodes_hexEscapes (htail : tail ≠ []) : ∀ units : List ℕ,
    (∀ unit ∈ units, unit < 0x10000) → readCodes opening (units.flatMap hexEscape ++ tail)
      = (readCodes opening tail).map fun r => (units ++ r.1, r.2)
  | [], _ => by
      rw [List.flatMap_nil, List.nil_append]
      cases readCodes opening tail <;> rfl
  | unit :: units, h => by
      obtain ⟨hunit, hunits⟩ := List.forall_mem_cons.mp h
      have hbehind : units.flatMap hexEscape ++ tail ≠ [] :=
        List.append_ne_nil_of_right_ne_nil _ htail
      rw [List.flatMap_cons, List.append_assoc, readCodes_hexEscape hunit hbehind,
        readCodes_hexEscapes htail units hunits]
      cases readCodes opening tail <;> rfl

/-- A character is read as the units that stand for it.  Something has to stand behind it, as the
reader looks at the character behind an escape by number. -/
lemma readCodes_escapeChar (c : Char) (htail : tail ≠ []) :
    readCodes opening (escapeChar c ++ tail)
      = (readCodes opening tail).map fun r => (splitSurrogates c ++ r.1, r.2) := by
  have hwritten := writtenAs_escapeChar c
  generalize escapeChar c = written at hwritten
  cases hwritten with
  | short e hread hunit _ hlow =>
      rw [splitSurrogates_of_lt hlow]
      exact readCodes_shortEscape hunit hread
  | plain hquote hback hascii =>
      rw [splitSurrogates_of_lt (Nat.lt_trans hascii.2 (by decide))]
      exact readCodes_plain hquote hback hascii
  | numbers => exact readCodes_hexEscapes htail _ fun _ => lt_of_mem_splitSurrogates

lemma readCodes_escapeChars (rest : List Char) : ∀ cs : List Char,
    readCodes opening (escapeChars cs ++ '"' :: rest) = .ok (cs.flatMap splitSurrogates, rest)
  | [] => by rw [escapeChars, List.flatMap_nil, List.nil_append, readCodes, List.flatMap_nil]
  | c :: cs => by
      have hbehind : escapeChars cs ++ '"' :: rest ≠ [] :=
        List.append_ne_nil_of_right_ne_nil _ (List.cons_ne_nil _ _)
      rw [escapeChars, List.flatMap_cons, ← escapeChars, List.append_assoc,
        readCodes_escapeChar c hbehind, readCodes_escapeChars rest cs, List.flatMap_cons]
      rfl

/-- The units of a text are put together to the text. -/
lemma ofUnits_flatMap (s : String) :
    CodeText.ofUnits (s.toList.flatMap splitSurrogates) = .ofString s := by
  rw [CodeText.ofUnits, joinPairs_flatMap, List.map_map]
  exact List.map_congr_left fun c _ => CodePoint.ofNat_toNat c

/-- **A string is read back**, whatever stands behind it. -/
theorem readString_escapeChars (s : String) (rest : List Char) :
    readString (escapeChars s.toList ++ '"' :: rest) = .ok (.ofString s, rest) := by
  rw [readString, readCodes_escapeChars, Except.map, ofUnits_flatMap]

/-- A document that is a string is read back from its characters. -/
lemma parseChars_quote (s : String) :
    parseChars (quote s).toList = .ok (.string (.ofString s)) := by
  have htext : readText (escapeChars s.toList ++ ['"']) = .ok (.ofString s, []) := by
    rw [readText, readString_escapeChars]
  rw [quote, String.toList_ofList, parseChars, skipSpace, List.dropWhile_cons_of_neg (by decide),
    readValue, htext]
  rfl

/-- **A document that is a string is read back.** -/
theorem parse_quote (s : String) : parse (quote s) = .ok (.string (.ofString s)) := by
  have hquote := parseChars_quote s
  rw [quote, String.toList_ofList] at hquote
  rw [parse, quote, String.toList_ofList]
  exact hquote

example : quote "é\n𝄞" = "\"\\u00e9\\n\\ud834\\udd1e\"" := by decide

end Json

end SafeMarkup
