import SafeMarkup.Markup
import SafeMarkup.Proofs.JsonText

/-!
# Kept markup

Markup is kept as a string of JSON, and comes back as text or as bytes.  Bytes do not say which
encoding they are in: a byte order mark names it, and without one the zeros among the first bytes
have to show it.  They do so for every document that starts with two characters of ASCII, and what
is kept is such a document, the empty markup included.

* `Json.decodeAs_encode` — text in bytes is read back, where its encoding is known.
* `Json.ShowsEncoding` — what the beginning of a text has to be for the zeros to show the encoding.
* `Json.textOfBytes_encode`, `Json.textOfBytes_encode_mark` — such a text is read from its bytes,
  without a byte order mark and with one.
* **`Markup.fromJson_toJson`** — markup comes back from what is kept of it, as text and as bytes in
  each encoding.
-/

namespace SafeMarkup

namespace Json

variable {a b c : UInt8} {bytes : List UInt8} {x y : Char} {cs : List Char} {text : String}

/-- **Text in bytes is read back** in each of the encodings. -/
theorem decodeAs_encode (encoding : Encoding) (start : ℕ) (text : String) :
    decodeAs encoding start (encoding.encode text) = .ok text.toList := by
  cases encoding with
  | utf8 => exact Utf8.decodeFrom_encode true text
  | utf16 order => exact decodeUtf16_encodeUtf16 order start text.toList
  | utf32 order => exact decodeUtf32_encodeUtf32 order text.toList start

/-! ## Bytes without a mark -/

/-- The bytes of byte order marks that are not zero are beyond ASCII. -/
lemma ne_of_ascii (h : a.toNat < 128) (hb : 128 ≤ b.toNat) : b ≠ a := by
  rintro rfl
  exact absurd h (Nat.not_lt.mpr hb)

lemma textOfBytes_of_no_mark
    (h : byteOrderMarks.find? (fun m => m.1.isPrefixOf bytes) = none) :
    textOfBytes bytes = decodeAs (shownEncoding bytes) 0 bytes := by
  rw [textOfBytes, h]

lemma textOfBytes_of_ascii (ha : a.toNat < 128) (hzero : 0 ≠ a) :
    textOfBytes (a :: bytes) = decodeAs (shownEncoding (a :: bytes)) 0 (a :: bytes) := by
  have hbig : 0xfe ≠ a := ne_of_ascii ha (by decide)
  have hlittle : 0xff ≠ a := ne_of_ascii ha (by decide)
  have hutf8 : 0xef ≠ a := ne_of_ascii ha (by decide)
  apply textOfBytes_of_no_mark
  simp [byteOrderMarks, hzero, hbig, hlittle, hutf8]

lemma textOfBytes_of_zero (hc : c.toNat < 128) :
    textOfBytes (0 :: b :: c :: bytes)
      = decodeAs (shownEncoding (0 :: b :: c :: bytes)) 0 (0 :: b :: c :: bytes) := by
  have hthird : 0xfe ≠ c := ne_of_ascii hc (by decide)
  apply textOfBytes_of_no_mark
  simp [byteOrderMarks, hthird]

lemma shownEncoding_of_no_zeros (ha : a ≠ 0) (hb : b ≠ 0) :
    shownEncoding (a :: b :: bytes) = .utf8 := by
  match bytes with
  | [] => rw [shownEncoding, if_neg ha, if_neg hb]
  | [_] => rfl
  | _ :: _ :: _ => rw [shownEncoding, if_neg ha, if_neg hb]

/-! ## Texts that show their encoding -/

/-- A character of ASCII other than NUL: among its bytes is one that is not zero. -/
def IsShown (x : Char) : Prop := 0 < x.toNat ∧ x.toNat < 128

/-- A text starts with two characters of ASCII, and neither is NUL. -/
def ShowsEncoding (text : String) : Prop :=
  ∃ x y cs, text.toList = x :: y :: cs ∧ IsShown x ∧ IsShown y

lemma IsShown.toNat_byte (h : IsShown x) : (UInt8.ofNat x.toNat).toNat = x.toNat :=
  Utf8.toNat_ofNat_of_lt (Nat.lt_trans h.2 (by decide))

lemma IsShown.byte_lt (h : IsShown x) : (UInt8.ofNat x.toNat).toNat < 128 := by
  rw [h.toNat_byte]
  exact h.2

lemma IsShown.byte_ne_zero (h : IsShown x) : UInt8.ofNat x.toNat ≠ 0 := by
  intro hzero
  have hnat : x.toNat = 0 := by rw [← h.toNat_byte, hzero, UInt8.toNat_zero]
  exact absurd hnat (Nat.pos_iff_ne_zero.mp h.1)

lemma textOfBytes_encodeUtf8 (htext : text.toList = x :: y :: cs) (hx : IsShown x)
    (hy : IsShown y) :
    textOfBytes (Utf8.encode text) = decodeAs .utf8 0 (Utf8.encode text) := by
  rw [Utf8.encode_eq, htext, List.flatMap_cons, List.flatMap_cons, utf8EncodeChar_of_ascii hx.2,
    utf8EncodeChar_of_ascii hy.2, List.singleton_append, List.singleton_append,
    textOfBytes_of_ascii hx.byte_lt hx.byte_ne_zero.symm,
    shownEncoding_of_no_zeros hx.byte_ne_zero hy.byte_ne_zero]

lemma textOfBytes_encodeUtf16 (hx : IsShown x) (hy : IsShown y) : ∀ order : ByteOrder,
    textOfBytes (encodeUtf16 order (x :: y :: cs))
      = decodeAs (.utf16 order) 0 (encodeUtf16 order (x :: y :: cs))
  | .big => by
      rw [encodeUtf16_big_cons hx.2, encodeUtf16_big_cons hy.2, textOfBytes_of_zero (by decide),
        shownEncoding, if_pos rfl, if_neg hx.byte_ne_zero]
  | .little => by
      have hthird : ¬ (UInt8.ofNat y.toNat = 0 && (0 : UInt8) = 0) = true := by
        simp [hy.byte_ne_zero]
      rw [encodeUtf16_little_cons hx.2, encodeUtf16_little_cons hy.2,
        textOfBytes_of_ascii hx.byte_lt hx.byte_ne_zero.symm, shownEncoding,
        if_neg hx.byte_ne_zero, if_pos rfl, if_neg hthird]

lemma textOfBytes_encodeUtf32 (hx : IsShown x) : ∀ order : ByteOrder,
    textOfBytes (encodeUtf32 order (x :: cs))
      = decodeAs (.utf32 order) 0 (encodeUtf32 order (x :: cs))
  | .big => by
      rw [encodeUtf32_big_cons hx.2, textOfBytes_of_zero (by decide), shownEncoding, if_pos rfl,
        if_pos rfl]
  | .little => by
      rw [encodeUtf32_little_cons hx.2, textOfBytes_of_ascii hx.byte_lt hx.byte_ne_zero.symm,
        shownEncoding, if_neg hx.byte_ne_zero, if_pos rfl, if_pos (by decide)]

/-- **A text that shows its encoding is read from its bytes** in each of the encodings. -/
theorem textOfBytes_encode (encoding : Encoding) (h : ShowsEncoding text) :
    textOfBytes (encoding.encode text) = .ok text.toList := by
  obtain ⟨x, y, cs, htext, hx, hy⟩ := h
  rw [← decodeAs_encode encoding 0 text]
  cases encoding with
  | utf8 => exact textOfBytes_encodeUtf8 htext hx hy
  | utf16 order =>
      rw [Encoding.encode, htext]
      exact textOfBytes_encodeUtf16 hx hy order
  | utf32 order =>
      rw [Encoding.encode, htext]
      exact textOfBytes_encodeUtf32 hx order

/-! ## Bytes behind a mark -/

/-- A byte order mark names the encoding of the bytes behind it.  Only the mark of UTF-16 in little
order may be taken for another, as with two zeros behind it it is that of UTF-32. -/
lemma textOfBytes_mark (encoding : Encoding)
    (h : encoding = .utf16 .little → ¬ [0, 0] <+: bytes) :
    ∃ start, textOfBytes (encoding.encode "\ufeff" ++ bytes) = decodeAs encoding start bytes := by
  match encoding, h with
  | .utf8, _ => exact ⟨3, rfl⟩
  | .utf16 .big, _ => exact ⟨2, rfl⟩
  | .utf16 .little, h =>
      refine ⟨2, ?_⟩
      change textOfBytes (0xff :: 0xfe :: bytes) = decodeAs (.utf16 .little) 2 bytes
      simp [textOfBytes, byteOrderMarks, h rfl]
  | .utf32 .big, _ => exact ⟨4, rfl⟩
  | .utf32 .little, _ => exact ⟨4, rfl⟩

/-- **A text that shows its encoding is read from its bytes behind a byte order mark**, which is no
part of the text. -/
theorem textOfBytes_encode_mark (encoding : Encoding) (h : ShowsEncoding text) :
    textOfBytes (encoding.encode ("\ufeff" ++ text)) = .ok text.toList := by
  obtain ⟨x, y, cs, htext, hx, -⟩ := h
  have hzeros : encoding = .utf16 .little → ¬ [0, 0] <+: encoding.encode text := by
    rintro rfl
    rw [Encoding.encode, htext, encodeUtf16_little_cons hx.2, List.cons_prefix_cons]
    exact fun h => hx.byte_ne_zero h.1.symm
  obtain ⟨start, hread⟩ := textOfBytes_mark encoding hzeros
  rw [encoding.encode_append, hread, decodeAs_encode]

end Json

/-! ## What is kept of markup -/

namespace Markup

/-- What is kept is written in ASCII. -/
lemma isPrintableAscii_of_mem_toJson {m : Markup} {x : Char} (h : x ∈ m.toJson.toList) :
    IsPrintableAscii x :=
  Json.isPrintableAscii_of_mem_quote h

/-- What is kept shows its encoding: there are two quotes at least. -/
lemma showsEncoding_toJson (m : Markup) : Json.ShowsEncoding m.toJson := by
  have hshown : ∀ x ∈ m.toJson.toList, Json.IsShown x := by
    intro x hmem
    obtain ⟨hlow, hhigh⟩ := isPrintableAscii_of_mem_toJson hmem
    exact ⟨Nat.lt_of_lt_of_le (by decide) hlow, Nat.lt_trans hhigh (by decide)⟩
  have hquoted : ∃ x y cs, m.toJson.toList = x :: y :: cs := by
    rw [toJson, Json.quote, String.toList_ofList]
    obtain ⟨y, cs, hbehind⟩ := List.exists_cons_of_ne_nil
      (List.append_ne_nil_of_right_ne_nil (Json.escapeChars m.content.toList)
        (List.cons_ne_nil '"' []))
    exact ⟨'"', y, cs, congrArg _ hbehind⟩
  obtain ⟨x, y, cs, htext⟩ := hquoted
  rw [htext, List.forall_mem_cons, List.forall_mem_cons] at hshown
  exact ⟨x, y, cs, htext, hshown.1, hshown.2.1⟩

/-- The document that is kept holds the markup. -/
lemma ofDocument_content (m : Markup) :
    ofDocument (.ok (.string (.ofString m.content))) = .ok m := by
  rw [ofDocument, CodeText.replaced_ofString]

lemma fromJsonBytes_of_textOfBytes {m : Markup} {bytes : List UInt8}
    (h : Json.textOfBytes bytes = .ok m.toJson.toList) : fromJsonBytes bytes = .ok m := by
  rw [fromJsonBytes, h]
  change ofDocument (Json.parseChars (Json.quote m.content).toList) = _
  rw [Json.parseChars_quote, ofDocument_content]

/-- **Markup comes back from what is kept of it.**  It is kept as ASCII, and read from the text
itself and from the text in bytes: in each encoding, with a byte order mark and without. -/
theorem fromJson_toJson (m : Markup) :
    (∀ x ∈ m.toJson.toList, x.toNat < 128) ∧ fromJson m.toJson = .ok m ∧
      ∀ encoding : Encoding, fromJsonBytes (encoding.encode m.toJson) = .ok m ∧
        fromJsonBytes (encoding.encode ("\ufeff" ++ m.toJson)) = .ok m := by
  have hshows := showsEncoding_toJson m
  refine ⟨?_, ?_, fun encoding => ⟨?_, ?_⟩⟩
  · intro x hmem
    have hascii := isPrintableAscii_of_mem_toJson hmem
    exact Nat.lt_trans hascii.2 (by decide)
  · rw [fromJson, toJson, Json.parse_quote, ofDocument_content]
  · exact fromJsonBytes_of_textOfBytes (Json.textOfBytes_encode encoding hshows)
  · exact fromJsonBytes_of_textOfBytes (Json.textOfBytes_encode_mark encoding hshows)

end Markup

end SafeMarkup
