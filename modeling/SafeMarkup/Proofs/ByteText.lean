import Mathlib.Algebra.Ring.Nat
import Mathlib.Data.List.Basic
import Mathlib.Tactic.Lemma
import SafeMarkup.Text.Utf8
import SafeMarkup.Text.WideUnits

/-!
# Text in bytes

Text comes as bytes in five encodings, and each has a reader.  This file gives the writers and says
that the readers undo them, for every text: what is written in an encoding is read back in it,
whatever the position that a fault would be reported at.

* `joinPairs_flatMap`, `joinSurrogates_flatMap` — characters beyond sixteen bits as pairs of units,
  and back.
* `ByteOrder.bytes`, `ByteOrder.value_bytes` — numbers in bytes, and back.
* `encodeUtf16`, `encodeUtf32` — the writers of the wide encodings; their readers undo them in
  `decodeUtf16_encodeUtf16` and `decodeUtf32_encodeUtf32`.
* `Utf8.Announces` — what the reader of UTF-8 knows behind the first byte of a character;
  `Utf8.decodeFrom_encode` says that it reads what is written.
* `encodeUtf16_big_cons` and its like — what a character of ASCII is in bytes.
* `Encoding.encode` — a text in any of the encodings.
-/

namespace SafeMarkup

/-! ## Code points and units -/

/-- Code points of characters lie below the halves of surrogate pairs or above them. -/
lemma toNat_ranges (c : Char) : c.toNat < 0xd800 ∨ 0xdfff < c.toNat ∧ c.toNat < 0x110000 := c.valid

lemma not_isHighSurrogate_toNat (c : Char) : isHighSurrogate c.toNat = false := by
  have h := toNat_ranges c
  simp only [isHighSurrogate, Bool.and_eq_false_iff, decide_eq_false_iff_not]
  omega

lemma splitSurrogates_of_lt {c : Char} (h : c.toNat < 0x10000) : splitSurrogates c = [c.toNat] := by
  rw [splitSurrogates, if_pos h]

/-- A pair of halves counts from the first code point beyond sixteen bits. -/
lemma joinPair_halves (n : ℕ) :
    joinPair (0xd800 + n / 0x400) (0xdc00 + n % 0x400) = 0x10000 + n := by
  change 0x10000 + (0xd800 + n / 0x400 - 0xd800) * 0x400 + (0xdc00 + n % 0x400 - 0xdc00) = _
  omega

/-- A character is written in units of sixteen bits. -/
lemma lt_of_mem_splitSurrogates {c : Char} {unit : ℕ} (h : unit ∈ splitSurrogates c) :
    unit < 0x10000 := by
  have hc := toNat_ranges c
  rw [splitSurrogates] at h
  split_ifs at h with hlow
  · rw [List.mem_singleton] at h
    omega
  · rw [List.mem_pair] at h
    omega

/-- The units of a character are read as the character, whatever stands behind them. -/
lemma joinPairs_splitSurrogates_append (c : Char) (units : List ℕ) :
    joinPairs (splitSurrogates c ++ units) = c.toNat :: joinPairs units := by
  by_cases hlow : c.toNat < 0x10000
  · rw [splitSurrogates_of_lt hlow, List.singleton_append]
    cases units with
    | nil => simp only [joinPairs]
    | cons unit units =>
        rw [joinPairs, not_isHighSurrogate_toNat, Bool.false_and, if_neg Bool.false_ne_true]
  · have hc := toNat_ranges c
    have hpair : (isHighSurrogate (0xd800 + (c.toNat - 0x10000) / 0x400) &&
        isLowSurrogate (0xdc00 + (c.toNat - 0x10000) % 0x400)) = true := by
      simp only [isHighSurrogate, isLowSurrogate, Bool.and_eq_true, decide_eq_true_eq]
      omega
    have hjoin := joinPair_halves (c.toNat - 0x10000)
    rw [Nat.add_sub_cancel' (Nat.not_lt.mp hlow)] at hjoin
    rw [splitSurrogates, if_neg hlow, List.cons_append, List.cons_append, List.nil_append,
      joinPairs, if_pos hpair, hjoin]

/-- **Units of sixteen bits are read as the text that they were made of.** -/
theorem joinPairs_flatMap (cs : List Char) :
    joinPairs (cs.flatMap splitSurrogates) = cs.map Char.toNat := by
  induction cs with
  | nil => rw [List.flatMap_nil, joinPairs, List.map_nil]
  | cons c cs ih =>
      rw [List.flatMap_cons, joinPairs_splitSurrogates_append, ih, List.map_cons]

theorem joinSurrogates_flatMap (cs : List Char) :
    joinSurrogates (cs.flatMap splitSurrogates) = cs := by
  rw [joinSurrogates, joinPairs_flatMap, List.map_map]
  exact List.map_id'' charOfCode_toNat _

/-! ## Numbers in bytes -/

/-- A number in so many bytes, the last digit first. -/
def littleBytes : ℕ → ℕ → List UInt8
  | 0, _ => []
  | width + 1, n => UInt8.ofNat n :: littleBytes width (n / 256)

/-- A number in so many bytes. -/
def ByteOrder.bytes (order : ByteOrder) (width n : ℕ) : List UInt8 :=
  match order with
  | .little => littleBytes width n
  | .big => (littleBytes width n).reverse

lemma length_littleBytes : ∀ width n : ℕ, (littleBytes width n).length = width
  | 0, _ => rfl
  | width + 1, n => by rw [littleBytes, List.length_cons, length_littleBytes width]

lemma littleBytes_zero : ∀ width : ℕ, littleBytes width 0 = List.replicate width 0
  | 0 => rfl
  | width + 1 => by
      rw [littleBytes, Nat.zero_div, littleBytes_zero width, List.replicate_succ]
      rfl

/-- A number of one byte has zeros in the others. -/
lemma littleBytes_of_lt {width n : ℕ} (h : n < 256) :
    littleBytes (width + 1) n = UInt8.ofNat n :: List.replicate width 0 := by
  rw [littleBytes, Nat.div_eq_of_lt h, littleBytes_zero]

lemma foldr_littleBytes : ∀ {width n : ℕ}, n < 256 ^ width →
    (littleBytes width n).foldr (fun b m => 256 * m + b.toNat) 0 = n
  | 0, n, h => by
      rw [Nat.pow_zero, Nat.lt_one_iff] at h
      rw [h, littleBytes, List.foldr_nil]
  | width + 1, n, h => by
      have hdiv : n / 256 < 256 ^ width := Nat.div_lt_of_lt_mul (by rwa [Nat.pow_succ'] at h)
      rw [littleBytes, List.foldr_cons, foldr_littleBytes hdiv, UInt8.toNat_ofNat']
      exact Nat.div_add_mod n 256

lemma ByteOrder.length_bytes (order : ByteOrder) (width n : ℕ) :
    (order.bytes width n).length = width := by
  cases order with
  | little => exact length_littleBytes width n
  | big => rw [bytes, List.length_reverse, length_littleBytes]

/-- A number that fits is read back. -/
lemma ByteOrder.value_bytes (order : ByteOrder) {width n : ℕ} (h : n < 256 ^ width) :
    order.value (order.bytes width n) = n := by
  cases order with
  | little => exact foldr_littleBytes h
  | big =>
      rw [bytes, value, List.foldl_reverse]
      exact foldr_littleBytes h

/-! ## UTF-16 and UTF-32 -/

/-- The bytes of a text in UTF-16. -/
def encodeUtf16 (order : ByteOrder) (cs : List Char) : List UInt8 :=
  (cs.flatMap splitSurrogates).flatMap (order.bytes 2)

/-- The bytes of a text in UTF-32. -/
def encodeUtf32 (order : ByteOrder) (cs : List Char) : List UInt8 :=
  cs.flatMap fun c => order.bytes 4 c.toNat

lemma units16From_flatMap (order : ByteOrder) : ∀ (units : List ℕ) (position : ℕ),
    (∀ unit ∈ units, unit < 0x10000) →
      units16From order position (units.flatMap (order.bytes 2)) = .ok units
  | [], position, _ => by rw [List.flatMap_nil, units16From]
  | unit :: units, position, h => by
      obtain ⟨hunit, hunits⟩ := List.forall_mem_cons.mp h
      obtain ⟨a, b, hbytes⟩ := List.length_eq_two.mp (order.length_bytes 2 unit)
      have hvalue : order.value [a, b] = unit := by rw [← hbytes, order.value_bytes hunit]
      rw [List.flatMap_cons, hbytes, List.cons_append, List.cons_append, List.nil_append,
        units16From, units16From_flatMap order units _ hunits, hvalue]
      rfl

/-- **UTF-16 is read back.** -/
theorem decodeUtf16_encodeUtf16 (order : ByteOrder) (start : ℕ) (cs : List Char) :
    decodeUtf16 order start (encodeUtf16 order cs) = .ok cs := by
  have hunits : ∀ unit ∈ cs.flatMap splitSurrogates, unit < 0x10000 := by
    intro unit hmem
    obtain ⟨c, -, hunit⟩ := List.mem_flatMap.mp hmem
    exact lt_of_mem_splitSurrogates hunit
  rw [decodeUtf16, encodeUtf16, units16From_flatMap order _ start hunits, Except.map,
    joinSurrogates_flatMap]

example : encodeUtf16 .big ['<', '𝄞'] = [0x00, 0x3c, 0xd8, 0x34, 0xdd, 0x1e] := by decide

/-- **UTF-32 is read back.** -/
theorem decodeUtf32_encodeUtf32 (order : ByteOrder) : ∀ (cs : List Char) (position : ℕ),
    decodeUtf32 order position (encodeUtf32 order cs) = .ok cs
  | [], position => by rw [encodeUtf32, List.flatMap_nil, decodeUtf32]
  | c :: cs, position => by
      have hcode : c.toNat < 0x110000 := by
        have hc := toNat_ranges c
        omega
      obtain ⟨a, b, d, e, hbytes⟩ : ∃ a b d e, order.bytes 4 c.toNat = [a, b, d, e] := by
        have hlength := order.length_bytes 4 c.toNat
        generalize order.bytes 4 c.toNat = bytes at hlength
        match bytes, hlength with
        | [a, b, d, e], _ => exact ⟨a, b, d, e, rfl⟩
      have hvalue : order.value [a, b, d, e] = c.toNat := by
        rw [← hbytes, order.value_bytes (Nat.lt_trans hcode (by decide))]
      rw [encodeUtf32, List.flatMap_cons, hbytes]
      simp only [List.cons_append, List.nil_append, decodeUtf32, hvalue, if_pos hcode]
      rw [← encodeUtf32, decodeUtf32_encodeUtf32 order cs, charOfCode_toNat]
      rfl

/-! ## UTF-8 -/

namespace Utf8

variable {l : Lead} {m n : ℕ} {b : UInt8} {lenient : Bool} {position : ℕ} {rest : List UInt8}

/-- A byte behind the first of a character, with the last six bits of a number. -/
def tailByte (m : ℕ) : UInt8 := UInt8.ofNat (m % 64 + 128)

lemma toNat_ofNat_of_lt (h : m < 256) : (UInt8.ofNat m).toNat = m := by
  rw [UInt8.toNat_ofNat', Nat.mod_eq_of_lt h]

lemma toNat_tailByte (m : ℕ) : (tailByte m).toNat = m % 64 + 128 :=
  toNat_ofNat_of_lt (by omega)

/-- The byte with the last six bits of a number may come next, and not as half of a surrogate
pair. -/
structure Lead.Takes (l : Lead) (m : ℕ) : Prop where
  low_le : l.low ≤ m % 64 + 128
  le_high : m % 64 + 128 ≤ l.high
  notHalf : l.first = 0xed → l.seen = 1 → m % 64 < 32

/-- The character behind that byte. -/
def Lead.take (l : Lead) (m : ℕ) : Lead :=
  ⟨l.value * 64 + m % 64, l.due - 1, 0x80, 0xbf, l.seen + 1, l.first, l.surrogate⟩

lemma Lead.Takes.next?_eq (h : l.Takes m) (lenient : Bool) :
    l.next? lenient (tailByte m) = some (l.take m) := by
  have hhalf : (lenient && decide (l.first = 0xed) && decide (l.seen = 1) &&
      decide (0xa0 ≤ m % 64 + 128) && decide (m % 64 + 128 ≤ 0xbf)) = false := by
    rw [Bool.eq_false_iff]
    intro hall
    simp only [Bool.and_eq_true, decide_eq_true_eq] at hall
    obtain ⟨⟨⟨⟨-, hfirst⟩, hseen⟩, hlow⟩, -⟩ := hall
    have hlt := h.notHalf hfirst hseen
    omega
  have hbits : (m % 64 + 128) % 64 = m % 64 := by omega
  simp only [Lead.next?, toNat_tailByte, hhalf, Bool.false_or, Bool.or_false, hbits, h.low_le,
    h.le_high, decide_true, Bool.and_true, if_true, Lead.take]

/-- From the second byte behind the first on, every byte with six bits may follow. -/
lemma Lead.takes_take (hseen : 1 ≤ l.seen) (m m' : ℕ) : (l.take m).Takes m' where
  low_le := by simp [Lead.take]
  le_high := by
    simp only [Lead.take]
    omega
  notHalf _ h := absurd h (by simp only [Lead.take]; omega)

/-- The value of a character with the bits of some more bytes. -/
def joinTail (value : ℕ) (tail : List ℕ) : ℕ := tail.foldl (fun v m => v * 64 + m % 64) value

/-- The bytes that are due are read one after the other, and end the character. -/
lemma decodeFrom_tail : ∀ (tail : List ℕ) (position : ℕ) {m : ℕ} {l : Lead}, l.Takes m →
    1 ≤ l.seen → l.due = tail.length + 1 →
      decodeFrom lenient position (some l) ((m :: tail).map tailByte ++ rest)
        = (decodeFrom lenient (position + tail.length + 1) none rest).map
            (charOfCode (joinTail l.value (m :: tail)) :: ·)
  | [], position, m, l, h, _, hdue => by
      have hlast : (l.take m).due = 0 := by rw [Lead.take, hdue, List.length_nil]
      rw [List.map_singleton, List.singleton_append]
      simp only [decodeFrom, h.next?_eq, if_pos hlast]
      rfl
  | m' :: tail, position, m, l, h, hseen, hdue => by
      have htake : (l.take m).due = tail.length + 1 := by
        rw [Lead.take, hdue, List.length_cons]
        rfl
      have hmore : ¬ (l.take m).due = 0 := by omega
      have hread := decodeFrom_tail tail (position + 1) (Lead.takes_take hseen m m')
        (Nat.le_add_left 1 l.seen) htake
      rw [List.map_cons, List.cons_append]
      simp only [decodeFrom, h.next?_eq, if_neg hmore]
      rw [hread, List.length_cons, Nat.add_right_comm position]
      rfl

/-- The first byte of a character announces `due` more, the first of them with the bits of `m`. -/
structure Announces (b : UInt8) (value due m : ℕ) (l : Lead) : Prop where
  le_toNat : 128 ≤ b.toNat
  lead?_eq : lead? b = some l
  takes : l.Takes m
  value_eq : l.value = value
  due_eq : l.due = due
  le_seen : 1 ≤ l.seen

lemma exists_announces {value due low high : ℕ} (hle : 128 ≤ b.toNat)
    (hlead : lead? b = some ⟨value, due, low, high, 1, b, false⟩) (hlow : low ≤ m % 64 + 128)
    (hhigh : m % 64 + 128 ≤ high) (hhalf : b.toNat = 0xed → m % 64 < 32) :
    ∃ l, Announces b value due m l := by
  refine ⟨_, hle, hlead, ⟨hlow, hhigh, fun hfirst _ => hhalf ?_⟩, rfl, rfl, Nat.le_refl 1⟩
  exact congrArg UInt8.toNat hfirst

lemma exists_announces_two (hlow : 0x80 ≤ n) (hhigh : n < 0x800) :
    ∃ l, Announces (UInt8.ofNat (n / 64 % 32 + 192)) (n / 64) 1 n l := by
  have hb : (UInt8.ofNat (n / 64 % 32 + 192)).toNat = n / 64 + 0xc0 := by
    rw [toNat_ofNat_of_lt (by omega)]
    omega
  generalize UInt8.ofNat (n / 64 % 32 + 192) = b at hb
  have hlead : lead? b = some ⟨n / 64, 1, 0x80, 0xbf, 1, b, false⟩ := by
    simp only [lead?, hb, Bool.and_eq_true, decide_eq_true_eq]
    rw [if_pos (by omega), Nat.add_sub_cancel]
  exact exists_announces (by omega) hlead (by omega) (by omega) (by omega)

lemma exists_announces_three (hlow : 0x800 ≤ n) (hhigh : n < 0x10000)
    (hno : n < 0xd800 ∨ 0xdfff < n) :
    ∃ l, Announces (UInt8.ofNat (n / 4096 % 16 + 224)) (n / 4096) 2 (n / 64) l := by
  have hb : (UInt8.ofNat (n / 4096 % 16 + 224)).toNat = n / 4096 + 0xe0 := by
    rw [toNat_ofNat_of_lt (by omega)]
    omega
  generalize UInt8.ofNat (n / 4096 % 16 + 224) = b at hb
  generalize hvalue : n / 4096 = value at hb
  obtain ⟨low, high, hlead, hbounds⟩ : ∃ low high,
      lead? b = some ⟨value, 2, low, high, 1, b, false⟩ ∧
        low ≤ n / 64 % 64 + 128 ∧ n / 64 % 64 + 128 ≤ high := by
    simp only [lead?, hb, Bool.and_eq_true, decide_eq_true_eq]
    rw [if_neg (by omega)]
    split_ifs
    · obtain rfl : value = 0 := by omega
      exact ⟨0xa0, 0xbf, rfl, by omega⟩
    · -- higher bytes behind this one are left to the halves of surrogate pairs
      obtain rfl : value = 0xd := by omega
      exact ⟨0x80, 0x9f, rfl, by omega⟩
    · exact ⟨0x80, 0xbf, by rw [Nat.add_sub_cancel], by omega⟩
    all_goals omega
  exact exists_announces (by omega) hlead hbounds.1 hbounds.2 (by omega)

lemma exists_announces_four (hlow : 0x10000 ≤ n) (hhigh : n < 0x110000) :
    ∃ l, Announces (UInt8.ofNat (n / 262144 % 8 + 240)) (n / 262144) 3 (n / 4096) l := by
  have hb : (UInt8.ofNat (n / 262144 % 8 + 240)).toNat = n / 262144 + 0xf0 := by
    rw [toNat_ofNat_of_lt (by omega)]
    omega
  generalize UInt8.ofNat (n / 262144 % 8 + 240) = b at hb
  generalize hvalue : n / 262144 = value at hb
  obtain ⟨low, high, hlead, hbounds⟩ : ∃ low high,
      lead? b = some ⟨value, 3, low, high, 1, b, false⟩ ∧
        low ≤ n / 4096 % 64 + 128 ∧ n / 4096 % 64 + 128 ≤ high := by
    simp only [lead?, hb, Bool.and_eq_true, decide_eq_true_eq]
    rw [if_neg (by omega), if_neg (by omega), if_neg (by omega), if_neg (by omega)]
    split_ifs
    · obtain rfl : value = 0 := by omega
      exact ⟨0x90, 0xbf, rfl, by omega⟩
    · obtain rfl : value = 4 := by omega
      exact ⟨0x80, 0x8f, rfl, by omega⟩
    · exact ⟨0x80, 0xbf, by rw [Nat.add_sub_cancel], by omega⟩
    all_goals omega
  exact exists_announces (by omega) hlead hbounds.1 hbounds.2 (by omega)

/-- A character of several bytes is read, whatever stands behind it. -/
lemma Announces.exists_decodeFrom {value : ℕ} {c : Char} (tail : List ℕ)
    (h : Announces b value (tail.length + 1) m l) (hvalue : joinTail value (m :: tail) = c.toNat)
    (lenient : Bool) (position : ℕ) (rest : List UInt8) :
    ∃ behind, decodeFrom lenient position none (b :: ((m :: tail).map tailByte ++ rest))
      = (decodeFrom lenient behind none rest).map (c :: ·) := by
  have hle := h.le_toNat
  rw [decodeFrom, if_neg (by omega), h.lead?_eq]
  refine ⟨position + 1 + tail.length + 1, ?_⟩
  rw [← charOfCode_toNat c, ← hvalue, ← h.value_eq]
  exact decodeFrom_tail tail (position + 1) h.takes h.le_seen h.due_eq

/-- A character that is written is read, whatever stands behind it. -/
lemma decodeFrom_utf8EncodeChar (lenient : Bool) (position : ℕ) (c : Char) (rest : List UInt8) :
    ∃ behind, decodeFrom lenient position none (String.utf8EncodeChar c ++ rest)
      = (decodeFrom lenient behind none rest).map (c :: ·) := by
  have hc := toNat_ranges c
  rw [String.utf8EncodeChar.eq_1, show c.val.toNat = c.toNat from rfl]
  generalize hn : c.toNat = n at hc
  split_ifs with hone htwo hthree
  · refine ⟨position + 1, ?_⟩
    rw [List.singleton_append, decodeFrom, toNat_ofNat_of_lt (by omega), if_pos (by omega), ← hn,
      charOfCode_toNat]
  · obtain ⟨l, hl⟩ := exists_announces_two (n := n) (by omega) (by omega)
    refine hl.exists_decodeFrom [] ?_ lenient position rest
    simp only [joinTail, List.foldl_cons, List.foldl_nil]
    omega
  · obtain ⟨l, hl⟩ := exists_announces_three (n := n) (by omega) (by omega) (by omega)
    refine hl.exists_decodeFrom [n] ?_ lenient position rest
    simp only [joinTail, List.foldl_cons, List.foldl_nil]
    omega
  · obtain ⟨l, hl⟩ := exists_announces_four (n := n) (by omega) (by omega)
    refine hl.exists_decodeFrom [n / 64, n] ?_ lenient position rest
    simp only [joinTail, List.foldl_cons, List.foldl_nil]
    omega

lemma decodeFrom_flatMap (lenient : Bool) : ∀ (cs : List Char) (position : ℕ),
    decodeFrom lenient position none (cs.flatMap String.utf8EncodeChar) = .ok cs
  | [], position => by rw [List.flatMap_nil, decodeFrom]
  | c :: cs, position => by
      obtain ⟨behind, hread⟩ := decodeFrom_utf8EncodeChar lenient position c
        (cs.flatMap String.utf8EncodeChar)
      rw [List.flatMap_cons, hread, decodeFrom_flatMap lenient cs]
      rfl

/-- The bytes of a text are those of its characters. -/
lemma encode_eq (text : String) : encode text = text.toList.flatMap String.utf8EncodeChar := by
  rw [encode, String.toUTF8, ← String.utf8Encode_toList, List.utf8Encode,
    List.toList_data_toByteArray]

/-- **UTF-8 is read back**, by the strict reader and by the lenient one. -/
theorem decodeFrom_encode (lenient : Bool) (text : String) :
    decodeFrom lenient 0 none (encode text) = .ok text.toList := by
  rw [encode_eq, decodeFrom_flatMap]

end Utf8

/-! ## Characters of ASCII -/

section Ascii

variable {c : Char} (h : c.toNat < 128) (cs : List Char)

include h

/-- A character of ASCII is one byte. -/
lemma utf8EncodeChar_of_ascii : String.utf8EncodeChar c = [UInt8.ofNat c.toNat] := by
  rw [String.utf8EncodeChar.eq_1, show c.val.toNat = c.toNat from rfl]
  exact if_pos (Nat.le_of_lt_succ h)

lemma encodeUtf16_cons_of_ascii (order : ByteOrder) :
    encodeUtf16 order (c :: cs) = order.bytes 2 c.toNat ++ encodeUtf16 order cs := by
  rw [encodeUtf16, List.flatMap_cons, splitSurrogates_of_lt (by omega), List.singleton_append,
    List.flatMap_cons, encodeUtf16]

lemma encodeUtf16_big_cons :
    encodeUtf16 .big (c :: cs) = 0 :: UInt8.ofNat c.toNat :: encodeUtf16 .big cs := by
  rw [encodeUtf16_cons_of_ascii h, ByteOrder.bytes, littleBytes_of_lt (by omega)]
  rfl

lemma encodeUtf16_little_cons :
    encodeUtf16 .little (c :: cs) = UInt8.ofNat c.toNat :: 0 :: encodeUtf16 .little cs := by
  rw [encodeUtf16_cons_of_ascii h, ByteOrder.bytes, littleBytes_of_lt (by omega)]
  rfl

lemma encodeUtf32_big_cons :
    encodeUtf32 .big (c :: cs) = 0 :: 0 :: 0 :: UInt8.ofNat c.toNat :: encodeUtf32 .big cs := by
  rw [encodeUtf32, List.flatMap_cons, ByteOrder.bytes, littleBytes_of_lt (by omega)]
  rfl

lemma encodeUtf32_little_cons :
    encodeUtf32 .little (c :: cs)
      = UInt8.ofNat c.toNat :: 0 :: 0 :: 0 :: encodeUtf32 .little cs := by
  rw [encodeUtf32, List.flatMap_cons, ByteOrder.bytes, littleBytes_of_lt (by omega)]
  rfl

end Ascii

/-! ## The five encodings -/

/-- The bytes of a text. -/
def Encoding.encode : Encoding → String → List UInt8
  | utf8, text => Utf8.encode text
  | utf16 order, text => encodeUtf16 order text.toList
  | utf32 order, text => encodeUtf32 order text.toList

/-- Texts one behind the other are written one behind the other. -/
lemma Encoding.encode_append (encoding : Encoding) (front back : String) :
    encoding.encode (front ++ back) = encoding.encode front ++ encoding.encode back := by
  cases encoding with
  | utf8 => simp only [encode, Utf8.encode_eq, String.toList_append, List.flatMap_append]
  | utf16 order => simp only [encode, encodeUtf16, String.toList_append, List.flatMap_append]
  | utf32 order => simp only [encode, encodeUtf32, String.toList_append, List.flatMap_append]

end SafeMarkup
