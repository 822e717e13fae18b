import SafeMarkup.Proofs.CommentSite
import SafeMarkup.Proofs.Documents

/-!
# Values at the borders of a comment's text

Inside a comment a value is stripped of the delimiters that it holds.  What is left can still be a
part of one: a hyphen in front of the value `->` makes a `-->` with it, and the scanner, which looks
for delimiters in one fragment at a time, does not see it, while a reader of the document does.
This file says exactly when that happens, and between which literals it happens with no value.

* `closers` — what ends a comment for a reader.
* `ReachesInto` — a piece occurs in a document such that it has a character of an inserted text.
* `CutsCloser` — the border between two texts falls inside a closing delimiter.
* `prefix_drop_of_not_mem` — a piece does not reach across a character that it does not hold.
* `exists_reachesInto_iff` — a closing delimiter that reaches into a text without one is cut.
* **`renderParts_comment_closer_iff`** — when a closing delimiter reaches into an inserted value.
-/

namespace SafeMarkup

/-- What ends a comment for a reader. -/
def closers : List (List Char) := [commentClose, commentCloseBang]

/-- The piece occurs in the whole of three texts such that one of its characters, at least, is in
the text in the middle. -/
def ReachesInto (piece before inserted after : List Char) : Prop :=
  ∃ i j, piece <+: (before ++ inserted ++ after).drop i ∧ i ≤ j ∧ j < i + piece.length ∧
    before.length ≤ j ∧ j < before.length + inserted.length

/-- The border between two texts falls inside a closing delimiter: one ends with the first `k`
characters of it, and the other starts with the rest. -/
def CutsCloser (before after : List Char) : Prop :=
  ∃ closer ∈ closers, ∃ k < closer.length, 0 < k ∧
    closer.take k <:+ before ∧ closer.drop k <+: after

/-- A text that ends inside a closing delimiter. -/
def EndsInCloser (text : List Char) : Prop :=
  ∃ closer ∈ closers, ∃ k < closer.length, 0 < k ∧ closer.take k <:+ text

/-- A text that starts inside a closing delimiter. -/
def StartsInCloser (text : List Char) : Prop :=
  ∃ closer ∈ closers, ∃ k < closer.length, 0 < k ∧ closer.drop k <+: text

instance (before after : List Char) : Decidable (CutsCloser before after) :=
  inferInstanceAs (Decidable (∃ closer ∈ closers, ∃ k < closer.length, 0 < k ∧
    closer.take k <:+ before ∧ closer.drop k <+: after))

instance (text : List Char) : Decidable (EndsInCloser text) :=
  inferInstanceAs (Decidable (∃ closer ∈ closers, ∃ k < closer.length, 0 < k ∧
    closer.take k <:+ text))

instance (text : List Char) : Decidable (StartsInCloser text) :=
  inferInstanceAs (Decidable (∃ closer ∈ closers, ∃ k < closer.length, 0 < k ∧
    closer.drop k <+: text))

/-- A stripped text holds nothing that ends a comment. -/
lemma not_infix_stripDelimiterChars_of_mem_closers {closer : List Char} (h : closer ∈ closers)
    (text : List Char) : ¬ closer <:+: stripDelimiterChars text :=
  not_infix_stripDelimiterChars (List.mem_cons_of_mem commentOpen h) text

lemma toList_stripDelimiters (text : String) :
    (stripDelimiters text).toList = stripDelimiterChars text.toList :=
  String.toList_ofList

section

variable {piece before inserted after : List Char} {i k : ℕ}

/-! ## Occurrences at a border -/

/-- A piece that starts in front of a border, and ends behind it, is cut by the border. -/
lemma exists_cut_of_prefix_drop (h : piece <+: (before ++ after).drop i) (hi : i < before.length)
    (hend : before.length < i + piece.length) :
    ∃ k < piece.length, 0 < k ∧ piece.take k <:+ before ∧ piece.drop k <+: after := by
  rw [List.drop_append_of_le_length (Nat.le_of_lt hi)] at h
  have hlength : (before.drop i).length = before.length - i := List.length_drop
  obtain ⟨rest, hrest⟩ : before.drop i <+: piece :=
    List.prefix_of_prefix_length_le (List.prefix_append _ _) h (by omega)
  refine ⟨before.length - i, by omega, by omega, ?_, ?_⟩
  · rw [← hrest, ← hlength, List.take_left]
    exact List.drop_suffix i before
  · rw [← hrest, ← hlength, List.drop_left]
    rw [← hrest] at h
    exact (List.prefix_append_right_inj _).mp h

lemma mem_of_prefix_cons {c : Char} (h : piece <+: c :: after) (hne : piece ≠ []) : c ∈ piece := by
  cases piece with
  | nil => exact absurd rfl hne
  | cons d piece =>
      obtain ⟨rfl, -⟩ := List.cons_prefix_cons.mp h
      exact List.mem_cons_self

/-- A piece does not reach across a character that it does not hold. -/
lemma prefix_drop_of_not_mem {c : Char} (hc : c ∉ piece) (hne : piece ≠ [])
    (h : piece <+: (before ++ c :: after).drop i) :
    piece <+: before.drop i ∨ ∃ j, i = before.length + (j + 1) ∧ piece <+: after.drop j := by
  by_cases hfront : i < before.length
  · by_cases hend : before.length < i + piece.length
    · obtain ⟨k, hk, _, _, hcut⟩ := exists_cut_of_prefix_drop h hfront hend
      have hrest : piece.drop k ≠ [] := by
        rw [Ne, List.drop_eq_nil_iff]
        omega
      exact absurd (List.mem_of_mem_drop (mem_of_prefix_cons hcut hrest)) hc
    · rw [List.drop_append_of_le_length (Nat.le_of_lt hfront)] at h
      have hlength : (before.drop i).length = before.length - i := List.length_drop
      exact Or.inl (List.prefix_of_prefix_length_le h (List.prefix_append _ _) (by omega))
  · obtain ⟨m, rfl⟩ := Nat.exists_eq_add_of_le (Nat.le_of_not_lt hfront)
    rw [List.drop_length_add_append] at h
    cases m with
    | zero => exact absurd (mem_of_prefix_cons h hne) hc
    | succ j => exact Or.inr ⟨j, rfl, h⟩

/-- A piece that is cut by a border occurs there. -/
lemma prefix_drop_of_cut (hk : k ≤ piece.length) (hbefore : piece.take k <:+ before)
    (hafter : piece.drop k <+: after) :
    k ≤ before.length ∧ piece <+: (before ++ after).drop (before.length - k) := by
  obtain ⟨front, rfl⟩ := hbefore
  obtain ⟨back, rfl⟩ := hafter
  have htake : (piece.take k).length = k := List.length_take_of_le hk
  have hlength : (front ++ piece.take k).length = front.length + k := by
    rw [List.length_append, htake]
  refine ⟨by omega, ?_⟩
  rw [hlength, Nat.add_sub_cancel, List.append_assoc, List.drop_left, ← List.append_assoc,
    List.take_append_drop]
  exact List.prefix_append _ _

/-- A piece that reaches into a text where it does not occur is cut by a border of the text. -/
lemma ReachesInto.exists_cut (h : ReachesInto piece before inserted after)
    (hfree : ¬ piece <:+: inserted) :
    ∃ k < piece.length, 0 < k ∧
      (piece.take k <:+ before ∧ piece.drop k <+: inserted ++ after ∨
        piece.take k <:+ inserted ∧ piece.drop k <+: after) := by
  obtain ⟨i, j, hoccurs, hij, hji, hbefore, hinserted⟩ := h
  rw [List.append_assoc] at hoccurs
  by_cases hfront : i < before.length
  · obtain ⟨k, hk, hpos, hcut⟩ := exists_cut_of_prefix_drop hoccurs hfront (by omega)
    exact ⟨k, hk, hpos, Or.inl hcut⟩
  -- the occurrence starts in the inserted text, so that it has to leave it at the back
  obtain ⟨i, rfl⟩ := Nat.exists_eq_add_of_le (Nat.le_of_not_lt hfront)
  rw [List.drop_length_add_append] at hoccurs
  by_cases hback : inserted.length < i + piece.length
  · obtain ⟨k, hk, hpos, hcut⟩ := exists_cut_of_prefix_drop hoccurs (by omega) hback
    exact ⟨k, hk, hpos, Or.inr hcut⟩
  · rw [List.drop_append_of_le_length (by omega)] at hoccurs
    have hlength : (inserted.drop i).length = inserted.length - i := List.length_drop
    have hwithin : piece <+: inserted.drop i :=
      List.prefix_of_prefix_length_le hoccurs (List.prefix_append _ _) (by omega)
    exact absurd (hwithin.isInfix.trans (List.drop_suffix i inserted).isInfix) hfree

/-- A piece that is cut by the front border of a text reaches into the text. -/
lemma reachesInto_of_cut_front (hne : inserted ≠ []) (hk : k < piece.length)
    (hbefore : piece.take k <:+ before) (hafter : piece.drop k <+: inserted ++ after) :
    ReachesInto piece before inserted after := by
  have hlength : 0 < inserted.length := List.length_pos_of_ne_nil hne
  obtain ⟨hle, hoccurs⟩ := prefix_drop_of_cut (Nat.le_of_lt hk) hbefore hafter
  rw [← List.append_assoc] at hoccurs
  exact ⟨before.length - k, before.length, hoccurs, by omega, by omega, by omega, by omega⟩

/-- A piece that is cut by the back border of a text reaches into the text. -/
lemma reachesInto_of_cut_back (hk : k < piece.length) (hpos : 0 < k)
    (hinserted : piece.take k <:+ inserted) (hafter : piece.drop k <+: after) :
    ReachesInto piece before inserted after := by
  obtain ⟨hle, hoccurs⟩ := prefix_drop_of_cut (Nat.le_of_lt hk) hinserted hafter
  have hwhole : piece <+:
      (before ++ inserted ++ after).drop (before.length + (inserted.length - k)) := by
    rw [List.append_assoc, List.drop_length_add_append]
    exact hoccurs
  exact ⟨_, before.length + inserted.length - 1, hwhole, by omega, by omega, by omega, by omega⟩

/-- **A closing delimiter reaches into a text that holds none** exactly if a border of the text
falls inside one. -/
lemma exists_reachesInto_iff (hfree : ∀ closer ∈ closers, ¬ closer <:+: inserted) :
    (∃ closer ∈ closers, ReachesInto closer before inserted after) ↔
      inserted ≠ [] ∧ (CutsCloser before (inserted ++ after) ∨ CutsCloser inserted after) := by
  constructor
  · rintro ⟨closer, hmem, hreach⟩
    refine ⟨?_, ?_⟩
    · rintro rfl
      obtain ⟨_, _, _, _, _, hbefore, hinserted⟩ := hreach
      rw [List.length_nil] at hinserted
      omega
    · obtain ⟨k, hk, hpos, hcut | hcut⟩ := hreach.exists_cut (hfree closer hmem)
      · exact Or.inl ⟨closer, hmem, k, hk, hpos, hcut⟩
      · exact Or.inr ⟨closer, hmem, k, hk, hpos, hcut⟩
  · rintro ⟨hne, ⟨closer, hmem, k, hk, _, hcut⟩ | ⟨closer, hmem, k, hk, hpos, hcut⟩⟩
    · exact ⟨closer, hmem, reachesInto_of_cut_front hne hk hcut.1 hcut.2⟩
    · exact ⟨closer, hmem, reachesInto_of_cut_back hk hpos hcut.1 hcut.2⟩

end

/-! ## Documents -/

/-- A value in a comment goes into the document stripped. -/
lemma renderParts_of_comment {settings : Settings} {config : Config}
    (hcheck : settings.check = .ok config) {p : String}
    (hp : (Context.fresh.feed p).state = .comment) (s : String) {v : Value}
    (hraw : ∀ raw, v ≠ .unescaped raw) :
    renderParts settings [p, s] [v] = .ok (p ++ stripDelimiters v.commentText ++ s) := by
  have hsite : ((Builder.start config).append p).site.kind = .comment :=
    Context.site_kind_eq_comment_iff.mpr (Or.inr hp)
  obtain ⟨piece, hadd, hpiece⟩ := Builder.add_value_of_comment hsite hraw
  have hstart : ((Builder.start config).append p).document = p := String.empty_append
  rw [Builder.renderParts_of_add hcheck hadd, Builder.addResolved_document, hpiece, hstart]

/-- What is left of a closing delimiter on either side of a border holds no delimiter, and has no
blanks at its ends. -/
lemma stripDelimiterChars_half : ∀ closer ∈ closers, ∀ k < closer.length, 0 < k →
    stripDelimiterChars (closer.take k) = closer.take k ∧
      stripDelimiterChars (closer.drop k) = closer.drop k := by
  decide +kernel

/-- There is no value that a closing delimiter reaches into exactly if neither literal leaves a half
of one to the value. -/
lemma forall_not_reachesInto_iff (before after : List Char) :
    (∀ v : Value, (∀ raw, v ≠ .unescaped raw) → ∀ closer ∈ closers,
        ¬ ReachesInto closer before (stripDelimiterChars v.commentText.toList) after) ↔
      ¬ EndsInCloser before ∧ ¬ StartsInCloser after := by
  constructor
  · intro h
    -- the value that breaks the comment is the missing half, which is inserted as it is
    have hwhole : ∀ text : List Char, stripDelimiterChars text = text →
        ∀ closer ∈ closers, ¬ ReachesInto closer before text after := by
      intro text htext
      have hstr := h (.str (String.ofList text)) (by simp)
      rwa [show (Value.str (String.ofList text)).commentText.toList = text from
        String.toList_ofList, htext] at hstr
    constructor
    · rintro ⟨closer, hmem, k, hk, hpos, hends⟩
      have hne : closer.drop k ≠ [] := by
        rw [Ne, List.drop_eq_nil_iff]
        omega
      exact hwhole _ (stripDelimiterChars_half closer hmem k hk hpos).2 closer hmem
        (reachesInto_of_cut_front hne hk hends (List.prefix_append _ _))
    · rintro ⟨closer, hmem, k, hk, hpos, hstarts⟩
      exact hwhole _ (stripDelimiterChars_half closer hmem k hk hpos).1 closer hmem
        (reachesInto_of_cut_back hk hpos (List.suffix_refl _) hstarts)
  · rintro ⟨hends, hstarts⟩ v - closer hmem hreach
    obtain ⟨k, hk, hpos, hcut | hcut⟩ :=
      hreach.exists_cut (not_infix_stripDelimiterChars_of_mem_closers hmem _)
    · exact hends ⟨closer, hmem, k, hk, hpos, hcut.1⟩
    · exact hstarts ⟨closer, hmem, k, hk, hpos, hcut.2⟩

/-- **Which values end a comment together with the text around them.**  Behind a literal that leads
into the text of a comment a value is inserted stripped.  A closing delimiter of the document then
has a character of what was inserted exactly if that is not empty and one of its borders falls
inside the delimiter.  And no value can be reached so exactly if the literal in front does not end
inside a closing delimiter, and the literal behind does not start inside one. -/
theorem renderParts_comment_closer_iff {settings : Settings} {config : Config}
    (hcheck : settings.check = .ok config) {p : String}
    (hp : (Context.fresh.feed p).state = .comment) (s : String) :
    (∀ v : Value, (∀ raw, v ≠ .unescaped raw) →
      let inserted := stripDelimiters v.commentText
      renderParts settings [p, s] [v] = .ok (p ++ inserted ++ s) ∧
        ((∃ closer ∈ closers, ReachesInto closer p.toList inserted.toList s.toList) ↔
          inserted.toList ≠ [] ∧
            (CutsCloser p.toList (inserted.toList ++ s.toList) ∨
              CutsCloser inserted.toList s.toList))) ∧
    ((∀ v : Value, (∀ raw, v ≠ .unescaped raw) → ∀ closer ∈ closers,
        ¬ ReachesInto closer p.toList (stripDelimiters v.commentText).toList s.toList) ↔
      ¬ EndsInCloser p.toList ∧ ¬ StartsInCloser s.toList) := by
  simp only [toList_stripDelimiters]
  refine ⟨fun v hraw => ⟨renderParts_of_comment hcheck hp s hraw, ?_⟩,
    forall_not_reachesInto_iff p.toList s.toList⟩
  exact exists_reachesInto_iff fun closer hmem =>
    not_infix_stripDelimiterChars_of_mem_closers hmem _

/-- Behind a hyphen, the comment `->x` ends the comment, and the number `-5` does not. -/
theorem renderParts_comment_closer_behind_hyphen :
    let p := "<!-- -"
    let s := " -->"
    (Context.fresh.feed p).state = .comment ∧
      renderParts .default [p, s] [.comment " ->x"] = .ok "<!-- -->x -->" ∧
      (∃ closer ∈ closers, ReachesInto closer p.toList "->x".toList s.toList) ∧
      renderParts .default [p, s] [.int (-5)] = .ok "<!-- --5 -->" ∧
      ¬ ∃ closer ∈ closers, ReachesInto closer p.toList "-5".toList s.toList := by
  intro p s
  have hcheck : Settings.default.check = .ok .default := rfl
  have hp : (Context.fresh.feed p).state = .comment := by decide +kernel
  obtain ⟨hvalues, -⟩ := renderParts_comment_closer_iff hcheck hp s
  obtain ⟨hbroken, hreached⟩ := hvalues (.comment " ->x") (by simp)
  obtain ⟨hwhole, hmissed⟩ := hvalues (.int (-5)) (by simp)
  have hends : stripDelimiters (Value.commentText (.comment " ->x")) = "->x" := by decide +kernel
  have hstays : stripDelimiters (Value.commentText (.int (-5))) = "-5" := by decide +kernel
  rw [hends] at hbroken hreached
  rw [hstays] at hwhole hmissed
  refine ⟨hp, hbroken, hreached.mpr (by decide +kernel), hwhole, fun h => ?_⟩
  exact absurd (hmissed.mp h) (by decide +kernel)

/-- With blanks around it no value ends the comment. -/
example : ¬ EndsInCloser "<!-- ".toList ∧ ¬ StartsInCloser " -->".toList := by decide +kernel

/-- A hyphen of the literal in front and the value `->` end the comment. -/
theorem value_completes_comment_close :
    (Context.fresh.feed "<!-- -").state = .comment ∧
      renderParts .default ["<!-- -", " -->"] [.str "->"] = .ok "<!-- --> -->" ∧
      ReachesInto commentClose "<!-- -".toList "->".toList " -->".toList := by
  refine ⟨by decide +kernel, by decide +kernel, 5, 6, ?_⟩
  decide +kernel

end SafeMarkup
