import Mathlib.Data.List.Basic
import SafeMarkup.Proofs.Step

/-!
# The way through a fragment

Reading a fragment is a run of steps.  A statement about the whole run, such as that the scanner
never leaves a tag, needs the contexts in between as well as the last one.

* `scanFrom_zero_cons`, `scan_cons`, `trail_cons` — a run starts with a step.
* `scan_invariant` — what every step keeps, reading a fragment keeps.
* `Passes` — a text that is read character by character, whatever stands behind it.
* `scan_eq_self` — characters that do not move the scanner one by one do not move it together.
* `trail` — the contexts that reading a fragment passes through; `getLastD_trail` says that the way
  ends where reading leads.
-/

namespace SafeMarkup.Context

variable {ctx : Context} {c : Char} {rest text : List Char}

/-! ## Runs start with a step -/

lemma scanFrom_zero_cons (ctx : Context) (c : Char) (rest : List Char) :
    scanFrom 0 ctx (c :: rest)
      = scanFrom (ctx.outcome c rest).2 (ctx.outcome c rest).1 rest := by
  rw [scanFrom, step_eq]

/-- Where the state does not look ahead, reading is the transition and then the rest. -/
lemma scan_cons (htag : ctx.state ≠ .tagOpen) (hcomment : ctx.state ≠ .comment) :
    ctx.scan (c :: rest) = (ctx.next c).scan rest := by
  rw [scan, scanFrom_zero_cons, outcome_of_not_ahead htag hcomment, scan]

/-! ## What steps keep -/

lemma scanFrom_invariant {P : Context → Prop}
    (hstep : ∀ ctx c rest, P ctx → P (ctx.outcome c rest).1) :
    ∀ (text : List Char) (skip : ℕ) (ctx : Context), P ctx → P (scanFrom skip ctx text)
  | [], _, _, h => h
  | _ :: rest, skip + 1, ctx, h => scanFrom_invariant hstep rest skip ctx h
  | c :: rest, 0, ctx, h => by
      rw [scanFrom_zero_cons]
      exact scanFrom_invariant hstep rest _ _ (hstep ctx c rest h)

/-- What every step keeps, reading a fragment keeps. -/
lemma scan_invariant {P : Context → Prop}
    (hstep : ∀ ctx c rest, P ctx → P (ctx.outcome c rest).1) (h : P ctx) (text : List Char) :
    P (ctx.scan text) :=
  scanFrom_invariant hstep text 0 ctx h

/-! ## Texts that are read character by character -/

/-- The scanner gets from one context to another by the transitions of the characters of a text,
whatever stands behind the text. -/
inductive Passes : Context → List Char → Context → Prop
  | nil (ctx : Context) : Passes ctx [] ctx
  | cons {ctx after : Context} {c : Char} {text : List Char}
      (hstep : ∀ rest, ctx.outcome c rest = (ctx.next c, 0)) (h : Passes (ctx.next c) text after) :
      Passes ctx (c :: text) after

lemma Passes.append {mid after : Context} {more : List Char} (h : Passes ctx text mid)
    (h' : Passes mid more after) : Passes ctx (text ++ more) after := by
  induction h with
  | nil ctx => exact h'
  | cons hstep _ ih => exact .cons hstep (ih h')

lemma Passes.scan_append {after : Context} (h : Passes ctx text after) (rest : List Char) :
    ctx.scan (text ++ rest) = after.scan rest := by
  induction h with
  | nil ctx => rfl
  | cons hstep _ ih =>
      rw [List.cons_append, scan, scanFrom_zero_cons, hstep]
      exact ih

lemma Passes.scan_eq {after : Context} (h : Passes ctx text after) : ctx.scan text = after := by
  have happend := h.scan_append []
  rwa [List.append_nil] at happend

/-- Characters that do not move the scanner one by one do not move it together. -/
lemma passes_self (htag : ctx.state ≠ .tagOpen) (hcomment : ctx.state ≠ .comment) :
    ∀ {text : List Char}, (∀ c ∈ text, ctx.next c = ctx) → Passes ctx text ctx
  | [], _ => .nil ctx
  | c :: rest, hstay => by
      refine .cons (fun _ => outcome_of_not_ahead htag hcomment) ?_
      rw [hstay c List.mem_cons_self]
      exact passes_self htag hcomment fun d hd => hstay d (List.mem_cons_of_mem c hd)

lemma scan_eq_self (htag : ctx.state ≠ .tagOpen) (hcomment : ctx.state ≠ .comment)
    (hstay : ∀ c ∈ text, ctx.next c = ctx) : ctx.scan text = ctx :=
  (passes_self htag hcomment hstay).scan_eq

/-! ## The contexts on the way -/

/-- The contexts behind the steps of `scanFrom`, in their order. -/
def trailFrom : ℕ → Context → List Char → List Context
  | _, _, [] => []
  | skip + 1, ctx, _ :: rest => trailFrom skip ctx rest
  | 0, ctx, c :: rest =>
    (ctx.step c rest).1 :: trailFrom (ctx.step c rest).2 (ctx.step c rest).1 rest

/-- The contexts that reading a fragment passes through, one behind each step. -/
def trail (ctx : Context) (fragment : List Char) : List Context :=
  trailFrom 0 ctx fragment

lemma trail_cons (htag : ctx.state ≠ .tagOpen) (hcomment : ctx.state ≠ .comment) :
    ctx.trail (c :: rest) = ctx.next c :: (ctx.next c).trail rest := by
  rw [trail, trailFrom, step_eq, outcome_of_not_ahead htag hcomment, trail]

lemma getLastD_trailFrom : ∀ (fragment : List Char) (skip : ℕ) (ctx : Context),
    (trailFrom skip ctx fragment).getLastD ctx = scanFrom skip ctx fragment
  | [], _, _ => rfl
  | _ :: rest, skip + 1, ctx => getLastD_trailFrom rest skip ctx
  | c :: rest, 0, ctx => by
      rw [trailFrom, List.getLastD_cons, scanFrom]
      exact getLastD_trailFrom rest _ _

/-- The way through a fragment ends where reading it leads. -/
lemma getLastD_trail (ctx : Context) (fragment : List Char) :
    (ctx.trail fragment).getLastD ctx = ctx.scan fragment :=
  getLastD_trailFrom fragment 0 ctx

end SafeMarkup.Context
