import Mathlib.Tactic.Lemma

/-!
# Results and failures

Readers and checks of all kinds return a result or an error, and are put together from others.  What
the whole returns says what its parts have returned.

* `exists_of_bind_eq_ok`, `exists_of_map_eq_ok` — the parts of a computation that succeeds.
* `exists_of_mapError_eq_error`, `mapError_eq_ok_iff` — errors that are passed on in another form.
* `exists_eq_error_iff` — what does not succeed fails.
-/

namespace SafeMarkup

variable {ε ε' α β : Type} {x : Except ε α}

lemma exists_of_map_eq_ok {f : α → β} {b : β} (h : x.map f = .ok b) :
    ∃ a, x = .ok a ∧ f a = b := by
  cases x with
  | error e => exact absurd h (by simp [Except.map])
  | ok a => exact ⟨a, rfl, Except.ok.inj h⟩

lemma exists_of_bind_eq_ok {f : α → Except ε β} {b : β} (h : x >>= f = .ok b) :
    ∃ a, x = .ok a ∧ f a = .ok b := by
  cases x with
  | error e => exact absurd h (by simp [bind, Except.bind])
  | ok a => exact ⟨a, rfl, h⟩

lemma mapError_eq_ok_iff {f : ε → ε'} {a : α} : x.mapError f = .ok a ↔ x = .ok a := by
  cases x with
  | error e => exact iff_of_false (fun h => nomatch h) (fun h => nomatch h)
  | ok b =>
    -- the two sides are results with different errors
    exact ⟨fun h => congrArg Except.ok (Except.ok.inj h),
      fun h => congrArg Except.ok (Except.ok.inj h)⟩

lemma exists_of_mapError_eq_error {f : ε → ε'} {e : ε'} (h : x.mapError f = .error e) :
    ∃ e', e = f e' := by
  cases x with
  | error e' => exact ⟨e', (Except.error.inj h).symm⟩
  | ok a => exact nomatch h

lemma exists_eq_error_iff : (∃ e, x = .error e) ↔ ¬ ∃ a, x = .ok a := by
  cases x <;> simp

end SafeMarkup
