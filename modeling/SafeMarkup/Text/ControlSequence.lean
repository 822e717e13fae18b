import SafeMarkup.Text.CodePoint

/-!
# Control sequences

A control sequence tells a terminal to change colours or to move.  It starts with the escape
character and an opening bracket, goes on with parameters, and ends with a letter; it has no meaning
for a reader that is no terminal.

* `controlSequenceLength` — the length of the sequence at the front of a text.
* `dropControlSequences` — a text without its sequences.
* `dropControlSequences_append` and `dropControlSequences_ofString` say that text without the escape
  character stays as it is.
-/

namespace SafeMarkup

/-- The character that every control sequence starts with. -/
def escapeChar : Char := '\x1b'

/-- Whether a code point can be part of the parameters of a control sequence. -/
def CodePoint.isParameter : CodePoint → Bool
  | char c => c.isDigit || c = ';' || c = '?'
  | half _ => false

/-- The length of the control sequence at the front of a text; it is zero where none stands. -/
def controlSequenceLength : CodeText → Nat
  | .char start :: .char '[' :: rest =>
    let parameters := rest.takeWhile CodePoint.isParameter
    match rest.drop parameters.length with
    | .char final :: _ => if start = escapeChar && final.isAlpha then parameters.length + 3 else 0
    | _ => 0
  | _ => 0

/-- Drops the control sequences of a text, its first `skip` code points being part of one that has
been found already. -/
def dropSequencesFrom : Nat → CodeText → CodeText
  | _, [] => []
  | skip + 1, _ :: rest => dropSequencesFrom skip rest
  | 0, p :: rest =>
    match controlSequenceLength (p :: rest) with
    | 0 => p :: dropSequencesFrom 0 rest
    | length + 1 => dropSequencesFrom length rest

/-- A text without its control sequences.  They are found from left to right in one pass, so the
code points around a sequence form no new one. -/
def dropControlSequences (text : CodeText) : CodeText := dropSequencesFrom 0 text

/-! ## What dropping changes -/

/-- Without the escape character at the front no control sequence stands there. -/
theorem controlSequenceLength_of_ne {p : CodePoint} (h : p ≠ .char escapeChar) (rest : CodeText) :
    controlSequenceLength (p :: rest) = 0 := by
  unfold controlSequenceLength
  split
  · next heq =>
    obtain ⟨rfl, -⟩ := List.cons.inj heq
    dsimp only
    split
    · rw [if_neg]
      simp only [Bool.and_eq_true, decide_eq_true_eq, not_and]
      rintro rfl
      exact absurd rfl h
    · rfl
  · rfl

/-- A control sequence does not start before the escape character. -/
theorem dropControlSequences_append (text : CodeText) : ∀ {front : CodeText},
    .char escapeChar ∉ front →
      dropControlSequences (front ++ text) = front ++ dropControlSequences text
  | [], _ => rfl
  | p :: front, h => by
    rw [List.mem_cons, not_or] at h
    have hkept := dropControlSequences_append text h.2
    simp only [dropControlSequences] at hkept ⊢
    rw [List.cons_append, dropSequencesFrom, controlSequenceLength_of_ne (Ne.symm h.1)]
    simp only [hkept, List.cons_append]

/-- A text without the escape character stays as it is. -/
theorem dropControlSequences_eq_self {text : CodeText} (h : .char escapeChar ∉ text) :
    dropControlSequences text = text := by
  have hkept := dropControlSequences_append [] h
  have hnil : dropControlSequences [] = [] := rfl
  rwa [hnil, List.append_nil] at hkept

/-- The same for a text in characters. -/
theorem dropControlSequences_ofString {s : String} (h : escapeChar ∉ s.toList) :
    dropControlSequences (.ofString s) = .ofString s := by
  refine dropControlSequences_eq_self fun hmem => h ?_
  obtain ⟨c, hc, hsame⟩ := List.mem_map.mp hmem
  rwa [← CodePoint.char.inj hsame]

end SafeMarkup
