import SafeMarkup.Proofs.Scan

/-!
# Progress

A state may hand a character on without consuming it, and in a tag that can come round:
`selfClosingTag` hands on to `afterElementName`, that to `afterAttributeName`, and that enters
`selfClosingTag` again.  That reading gets on is a matter of the characters as well as of the
states.  A limit of reactions is there for a step that would not end; it is never reached.

* `reactions` — what the states do with a character in turn, within the limit.
* `SettlesWithin.reactionsWithin` — a character that is consumed within `n` reactions has no more
  than `n`, and the last of them consumes it.
* `ReadsFrom` — reading as a loop over an index, with its reactions counted.
* `readsFrom_scan` — the loop ends behind the last character, where reading the fragment leads.
* **`reads_within_three_reactions`** — every step gets on, and so does reading as a whole.
-/

namespace SafeMarkup.Context

variable {ctx : Context} {c : Char} {rest : List Char} {n : ℕ} {out : Context × ℕ}

/-! ## The reactions of a step -/

/-- What the states do with a character in turn, until one consumes it or the budget is used up. -/
def reactionsWithin (c : Char) (rest : List Char) : ℕ → Context → List Reaction
  | 0, _ => []
  | budget + 1, ctx =>
    match ctx.react c rest with
    | .consume after more => [.consume after more]
    | .handOver mid => .handOver mid :: reactionsWithin c rest budget mid

/-- The reactions of a step. -/
def reactions (ctx : Context) (c : Char) (rest : List Char) : List Reaction :=
  reactionsWithin c rest reactionLimit ctx

/-- A character that is consumed within `n` reactions has no more of them, and the last one
consumes it. -/
lemma SettlesWithin.reactionsWithin (h : SettlesWithin c rest n ctx out) :
    ∀ {budget : ℕ}, n ≤ budget → (reactionsWithin c rest budget ctx).length ≤ n ∧
      (reactionsWithin c rest budget ctx).getLast? = some (.consume out.1 out.2) := by
  induction h with
  | consume h =>
      intro budget hn
      obtain ⟨k, rfl⟩ : ∃ k, budget = k + 1 := ⟨budget - 1, by omega⟩
      simp [Context.reactionsWithin, h]
  | handOver h _ ih =>
      intro budget hn
      obtain ⟨k, rfl⟩ : ∃ k, budget = k + 1 := ⟨budget - 1, by omega⟩
      obtain ⟨hlength, hlast⟩ := ih (Nat.le_of_succ_le_succ hn)
      simp only [Context.reactionsWithin, h, List.length_cons, List.getLast?_cons, hlast]
      exact ⟨Nat.succ_le_succ hlength, rfl⟩

/-- At most three reactions belong to a step. -/
lemma length_reactions_le (ctx : Context) (c : Char) (rest : List Char) :
    (ctx.reactions c rest).length ≤ 3 :=
  ((settlesWithin_three ctx c rest).reactionsWithin (by decide)).1

/-- The last reaction of a step consumes the character, and is all that there is to the step. -/
lemma getLast?_reactions (ctx : Context) (c : Char) (rest : List Char) :
    (ctx.reactions c rest).getLast?
      = some (.consume (ctx.step c rest).1 (ctx.step c rest).2) := by
  rw [step_eq]
  exact ((settlesWithin_three ctx c rest).reactionsWithin (by decide)).2

/-! ## The loop -/

/-- Reading as a loop from an index on: while the index is in the fragment a step is made there, and
moves the index by as many characters as it consumes.  The loop ends at the end of the fragment and
nowhere else.  The second number counts its reactions. -/
inductive ReadsFrom (fragment : List Char) : ℕ → Context → ℕ → Context → Prop
  | done (ctx : Context) : ReadsFrom fragment fragment.length ctx 0 ctx
  | step {index count : ℕ} {ctx after : Context} (h : index < fragment.length)
      (hrest : ReadsFrom fragment
        (index + 1 + (ctx.step fragment[index] (fragment.drop (index + 1))).2)
        (ctx.step fragment[index] (fragment.drop (index + 1))).1 count after) :
      ReadsFrom fragment index ctx
        ((ctx.reactions fragment[index] (fragment.drop (index + 1))).length + count) after

/-- Characters that have been consumed already are passed over. -/
lemma scanFrom_eq_scan_drop : ∀ (skip : ℕ) (ctx : Context) (text : List Char),
    scanFrom skip ctx text = ctx.scan (text.drop skip)
  | 0, _, _ => rfl
  | _ + 1, _, [] => rfl
  | skip + 1, ctx, _ :: rest => by
      rw [scanFrom, List.drop_succ_cons]
      exact scanFrom_eq_scan_drop skip ctx rest

section

variable {fragment : List Char} {index : ℕ} (h : index < fragment.length)
include h

/-- A step in a fragment stays within it. -/
lemma add_step_snd_le :
    index + 1 + (ctx.step fragment[index] (fragment.drop (index + 1))).2 ≤ fragment.length := by
  have hle := outcome_snd_le ctx fragment[index] (fragment.drop (index + 1))
  rw [← step_eq, List.length_drop] at hle
  omega

/-- Reading from an index on is a step there, and then reading from behind what it consumes. -/
lemma scan_drop :
    ctx.scan (fragment.drop index)
      = (ctx.step fragment[index] (fragment.drop (index + 1))).1.scan (fragment.drop
          (index + 1 + (ctx.step fragment[index] (fragment.drop (index + 1))).2)) := by
  rw [List.drop_eq_getElem_cons h, scan, scanFrom, scanFrom_eq_scan_drop, List.drop_drop]

end

/-- **The loop ends behind the last character**, where reading leads.  By induction on what is left
of the fragment, as every step consumes some of it. -/
theorem readsFrom_scan (fragment : List Char) (index : ℕ) (ctx : Context)
    (h : index ≤ fragment.length) :
    ∃ count, ReadsFrom fragment index ctx count (ctx.scan (fragment.drop index)) ∧
      count ≤ 3 * (fragment.length - index) := by
  by_cases hend : index = fragment.length
  · subst hend
    rw [List.drop_length]
    exact ⟨0, .done ctx, Nat.zero_le _⟩
  have hin : index < fragment.length := Nat.lt_of_le_of_ne h hend
  obtain ⟨count, hreads, hcount⟩ := readsFrom_scan fragment _
    (ctx.step fragment[index] (fragment.drop (index + 1))).1 (add_step_snd_le hin)
  rw [← scan_drop hin] at hreads
  have hstep := length_reactions_le ctx fragment[index] (fragment.drop (index + 1))
  exact ⟨_, .step hin hreads, by omega⟩
  termination_by fragment.length - index

/-- **Reading gets on.**  Whatever the context, a step at any index of a fragment takes at most
three reactions, of which the last consumes the character and perhaps more, but no more than there
is.  So reading ends on every fragment, exactly behind its last character, with at most three
reactions for each character. -/
theorem reads_within_three_reactions (ctx : Context) (fragment : String) :
    (∀ (index : ℕ) (h : index < fragment.toList.length),
      let c := fragment.toList[index]
      let rest := fragment.toList.drop (index + 1)
      (ctx.reactions c rest).length ≤ 3 ∧
        (ctx.reactions c rest).getLast?
          = some (.consume (ctx.step c rest).1 (ctx.step c rest).2) ∧
        index + 1 + (ctx.step c rest).2 ≤ fragment.toList.length) ∧
    ∃ count, ReadsFrom fragment.toList 0 ctx count (ctx.feed fragment) ∧
      count ≤ 3 * fragment.toList.length := by
  constructor
  · intro index h c rest
    exact ⟨length_reactions_le ctx c rest, getLast?_reactions ctx c rest, add_step_snd_le h⟩
  · exact readsFrom_scan fragment.toList 0 ctx (Nat.zero_le _)

/-- Behind a slash and the name `a/` of an attribute, a letter passes through three states. -/
theorem reads_within_three_reactions_behind_slash :
    let ctx : Context := ⟨.selfClosingTag, some .double, "a/", "="⟩
    0 < "x>".toList.length ∧ (ctx.reactions 'x' ['>']).length = 3 ∧
      (ctx.reactions 'x' ['>']).getLast?
        = some (.consume (ctx.step 'x' ['>']).1 (ctx.step 'x' ['>']).2) ∧
      ∃ count, ReadsFrom "x>".toList 0 ctx count (ctx.feed "x>") ∧ count ≤ 3 * 2 := by
  intro ctx
  obtain ⟨hsteps, hreads⟩ := reads_within_three_reactions ctx "x>"
  have hin : 0 < "x>".toList.length := by decide
  exact ⟨hin, by decide, (hsteps 0 hin).2.1, hreads⟩

end SafeMarkup.Context
