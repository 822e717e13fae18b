import SafeMarkup.Proofs.Transparency

/-!
# Literals and values make a document

A value always has a text.  So literals with one value fewer between them make a document, whatever
the values are, and nothing else does.

* `addAll_append`, `addAll_woven_cons` — a run goes through its parts.
* `snd_addAll_woven` — literals and values have no error.
* **`renderParts_eq_document`** — what they come to; `length_of_renderParts_eq_ok` says that there
  has to be one literal more.
-/

namespace SafeMarkup.Builder

variable {b : Builder} {literals : List String} {vs : List Value}

/-! ## Runs -/

@[simp] lemma addAll_config : ∀ (pieces : List Piece) (b : Builder),
    (b.addAll pieces).1.config = b.config
  | [], _ => rfl
  | piece :: rest, b => by
      rw [addAll, add]
      cases piece.resolve with
      | error e => rfl
      | ok resolved => exact addAll_config rest _

lemma addAll_append (qs : List Piece) : ∀ {ps : List Piece} {b : Builder},
    (b.addAll ps).2 = none → b.addAll (ps ++ qs) = (b.addAll ps).1.addAll qs
  | [], _, _ => rfl
  | piece :: ps, b, hnone => by
      cases hadd : b.add piece with
      | error e =>
          rw [addAll, hadd] at hnone
          exact absurd hnone (by simp)
      | ok behind =>
          rw [addAll_cons hadd] at hnone
          rw [List.cons_append, addAll_cons hadd, addAll_cons hadd]
          exact addAll_append qs hnone

/-! ## Literals and values -/

/-- A value always has a text. -/
lemma exists_add_value (b : Builder) (v : Value) : ∃ behind, b.add (.value v) = .ok behind := by
  cases v <;> exact ⟨_, rfl⟩

lemma addAll_woven_cons (b : Builder) (literal : String) (rest : List String) (v : Value)
    (vs : List Value) : ∃ behind, (b.append literal).add (.value v) = .ok behind ∧
      b.addAll (woven (literal :: rest) (v :: vs)) = behind.addAll (woven rest vs) := by
  obtain ⟨behind, hadd⟩ := exists_add_value (b.append literal) v
  refine ⟨behind, hadd, ?_⟩
  have hpieces : woven (literal :: rest) (v :: vs)
      = .literal literal :: .value v :: woven rest vs := rfl
  rw [hpieces, addAll_cons (add_literal literal), addResolved_literal, addAll_cons hadd]

/-- Literals and values have no error. -/
lemma snd_addAll_woven : ∀ (literals : List String) (vs : List Value) (b : Builder),
    (b.addAll (woven literals vs)).2 = none
  | [], _, _ => rfl
  | literal :: rest, [], b => by
      have hpieces : woven (literal :: rest) [] = .literal literal :: woven rest [] := rfl
      rw [hpieces, addAll_cons (add_literal literal)]
      exact snd_addAll_woven rest [] _
  | literal :: rest, v :: vs, b => by
      obtain ⟨behind, _, hrun⟩ := addAll_woven_cons b literal rest v vs
      rw [hrun]
      exact snd_addAll_woven rest vs behind

/-- Literals with one value fewer between them make a document. -/
lemma renderParts_eq_document {settings : Settings} {config : Config}
    (hcheck : settings.check = .ok config) (hlength : literals.length = vs.length + 1) :
    renderParts settings literals vs
      = .ok ((start config).addAll (woven literals vs)).1.document := by
  have hrun : (start config).addAll (woven literals vs)
      = (((start config).addAll (woven literals vs)).1, none) := by
    rw [← snd_addAll_woven literals vs (start config)]
  have hbuild : (start config).build (woven literals vs)
      = .ok ((start config).addAll (woven literals vs)).1.document := by
    rw [build, hrun]
  rw [renderParts, if_pos hlength, renderPieces, startWith_of_check hcheck, ← woven]
  simp only [bind, Except.bind, hbuild]

/-- The document of a value between two literals. -/
lemma renderParts_of_add {settings : Settings} {config : Config}
    (hcheck : settings.check = .ok config) {front back : String} {v : Value} {behind : Builder}
    (hadd : ((start config).append front).add (.value v) = .ok behind) :
    renderParts settings [front, back] [v] = .ok (behind.document ++ back) := by
  obtain ⟨behind', hadd', hrun⟩ := addAll_woven_cons (start config) front [back] v []
  obtain rfl : behind = behind' := Except.ok.inj (hadd.symm.trans hadd')
  rw [renderParts_eq_document hcheck rfl, hrun]
  rfl

/-- There is no other way to a document. -/
lemma length_of_renderParts_eq_ok {settings : Settings} {document : String}
    (h : renderParts settings literals vs = .ok document) :
    literals.length = vs.length + 1 := by
  by_contra hlength
  rw [renderParts, if_neg hlength] at h
  exact absurd h (by simp)

end SafeMarkup.Builder
