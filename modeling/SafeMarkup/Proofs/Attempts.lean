import SafeMarkup.Builder
import SafeMarkup.Proofs.Fragments

/-!
# Runs in which pieces fail

A piece that has no text adds nothing, and the run goes on behind it.  What the document consists
of, and where the scanner stands, then only depends on the pieces that had a text: nothing of the
others is left.

In the model a field can fail, by its conversion or its format.  An object may fail as well when it
is asked for its markup or its attributes, with an error of its own.  So the statements are about
any way to write a piece that sees the configuration, the site and the piece; the one of builders is
one of them.

* `Writer` — a way to write pieces that may fail, and `Piece.write`, the one of builders.
* `Attempt`, `Builder.attemptAllWith` — a run with a writer, and what the pieces came to.
* `Builder.BuiltFrom` — document and scanner are those of the same texts.
* `Builder.BuiltFrom.attemptWith`, `Builder.BuiltFrom.attemptAllWith` — a piece keeps them
  together, and so does a run.
* `Builder.attemptAllWith_kept` — a run without the pieces that failed.
* **`Builder.document_attemptAllWith_eq_join`** — all of that about a run from the start.
-/

namespace SafeMarkup

/-- A way to write a piece at a site.  There are reports whether there is a text or not. -/
abbrev Writer (ε : Type) := Config → Site → Piece → List LogEntry × Except ε String

/-- How builders write a piece. -/
def Piece.write : Writer FieldError := fun config site piece =>
  match piece.resolve with
  | .error e => ([], .error e)
  | .ok resolved => (resolved.report config site, .ok (resolved.resolvedText config site))

/-- What the attempt of a piece came to. -/
structure Attempt (ε : Type) where
  /-- The text that was added, or why there is none. -/
  added : Except ε String
  /-- The site behind the piece. -/
  site : Site

namespace Attempt

variable {ε : Type}

/-- The text that was added, if there is one. -/
def text? (a : Attempt ε) : Option String := a.added.toOption

@[simp] lemma text?_ok (text : String) (site : Site) :
    (⟨.ok text, site⟩ : Attempt ε).text? = some text := rfl

@[simp] lemma text?_error (e : ε) (site : Site) :
    (⟨.error e, site⟩ : Attempt ε).text? = none := rfl

/-- Whether there is a text. -/
def succeeded (a : Attempt ε) : Bool := a.text?.isSome

/-- The pieces of a run that have a text. -/
def kept (pieces : List Piece) (attempts : List (Attempt ε)) : List Piece :=
  ((pieces.zip attempts).filter fun call => call.2.succeeded).map Prod.fst

lemma filterMap_text?_cons (a : Attempt ε) (rest : List (Attempt ε)) :
    (a :: rest).filterMap text? = a.text?.toList ++ rest.filterMap text? := by
  cases h : a.text? with
  | none => rw [List.filterMap_cons_none h, Option.toList_none, List.nil_append]
  | some text => rw [List.filterMap_cons_some h, Option.toList_some, List.singleton_append]

/-- What an attempt came to as a step of a builder. -/
def toStep (a : Attempt FieldError) : Builder.Step :=
  match a.added with
  | .ok text => ⟨text, a.site, none⟩
  | .error e => ⟨"", a.site, some e⟩

end Attempt

namespace Builder

variable {ε : Type} {w : Writer ε} {b : Builder} {piece : Piece} {texts : List String}

/-- Attempts a piece with a writer. -/
def attemptWith (w : Writer ε) (b : Builder) (piece : Piece) : Attempt ε × Builder :=
  let (reports, written) := w b.config b.site piece
  let reported := { b with log := b.log ++ reports }
  match written with
  | .error e => (⟨.error e, b.site⟩, reported)
  | .ok text => (⟨.ok text, (reported.append text).site⟩, reported.append text)

/-- Attempts pieces one after the other, and goes on behind those that fail. -/
def attemptAllWith (w : Writer ε) (b : Builder) : List Piece → List (Attempt ε) × Builder
  | [] => ([], b)
  | piece :: rest =>
    let (first, next) := attemptWith w b piece
    let (attempts, final) := attemptAllWith w next rest
    (first :: attempts, final)

lemma attemptAllWith_cons (w : Writer ε) (b : Builder) (piece : Piece) (rest : List Piece) :
    b.attemptAllWith w (piece :: rest) =
      ((b.attemptWith w piece).1 :: ((b.attemptWith w piece).2.attemptAllWith w rest).1,
        ((b.attemptWith w piece).2.attemptAllWith w rest).2) := rfl

/-! ## The attempts of builders -/

lemma attempt_eq_attemptWith (b : Builder) (piece : Piece) : b.attempt piece =
    ((b.attemptWith Piece.write piece).1.toStep, (b.attemptWith Piece.write piece).2) := by
  cases hresolve : piece.resolve with
  | error e => simp [attempt, attemptWith, Piece.write, hresolve, Attempt.toStep]
  | ok resolved =>
      simp [attempt, attemptWith, Piece.write, hresolve, Attempt.toStep, addResolved, append, site]

/-- The attempts of builders are those with their own writer. -/
lemma attemptAll_eq_attemptAllWith : ∀ (pieces : List Piece) (b : Builder), b.attemptAll pieces =
    ((b.attemptAllWith Piece.write pieces).1.map Attempt.toStep,
      (b.attemptAllWith Piece.write pieces).2)
  | [], _ => rfl
  | piece :: rest, b => by
      simp only [attemptAll, attempt_eq_attemptWith, attemptAll_eq_attemptAllWith rest,
        attemptAllWith, List.map_cons]

/-! ## One piece -/

lemma attemptWith_of_error {e : ε} (h : (w b.config b.site piece).2 = .error e) :
    attemptWith w b piece
      = (⟨.error e, b.site⟩, { b with log := b.log ++ (w b.config b.site piece).1 }) := by
  simp only [attemptWith, h]

lemma attemptWith_of_ok {text : String} (h : (w b.config b.site piece).2 = .ok text) :
    attemptWith w b piece = (⟨.ok text, (b.append text).site⟩,
      { b.append text with log := b.log ++ (w b.config b.site piece).1 }) := by
  simp only [attemptWith, h]
  rfl

/-- Document and scanner are those of the same texts: the one is what they come to, and the other
has read them one by one. -/
structure BuiltFrom (b : Builder) (texts : List String) : Prop where
  document : b.document = String.join texts
  context : b.context = texts.foldl Context.feed .fresh

lemma builtFrom_start (config : Config) : (start config).BuiltFrom [] := ⟨rfl, rfl⟩

/-- **A piece keeps document and scanner together**, whether it fails or not. -/
lemma BuiltFrom.attemptWith (h : b.BuiltFrom texts) (w : Writer ε) (piece : Piece) :
    (b.attemptWith w piece).2.BuiltFrom (texts ++ (b.attemptWith w piece).1.text?.toList) ∧
      (b.attemptWith w piece).1.site = (b.attemptWith w piece).2.site := by
  cases hwritten : (w b.config b.site piece).2 with
  | error e =>
      rw [attemptWith_of_error hwritten, Attempt.text?_error, Option.toList_none, List.append_nil]
      exact ⟨⟨h.document, h.context⟩, rfl⟩
  | ok text =>
      rw [attemptWith_of_ok hwritten, Attempt.text?_ok, Option.toList_some]
      refine ⟨⟨?_, ?_⟩, rfl⟩
      · change b.document ++ text = String.join (texts ++ [text])
        rw [h.document]
        simp
      · change b.context.feed text = (texts ++ [text]).foldl Context.feed .fresh
        rw [h.context, List.foldl_concat]

/-! ## A run -/

/-- **A run keeps document and scanner together**, and behind every piece the site is the one that
the texts up to there lead to. -/
lemma BuiltFrom.attemptAllWith (w : Writer ε) : ∀ (pieces : List Piece) {b : Builder}
    {texts : List String}, b.BuiltFrom texts →
      (b.attemptAllWith w pieces).2.BuiltFrom
        (texts ++ (b.attemptAllWith w pieces).1.filterMap Attempt.text?) ∧
      ∀ k a, (b.attemptAllWith w pieces).1[k]? = some a →
        a.site = ((texts ++ ((b.attemptAllWith w pieces).1.take (k + 1)).filterMap
          Attempt.text?).foldl Context.feed .fresh).site
  | [], _, texts, h => by
      rw [Builder.attemptAllWith, List.filterMap_nil, List.append_nil]
      exact ⟨h, fun k a ha => absurd ha (by simp)⟩
  | piece :: rest, b, texts, h => by
      obtain ⟨hnext, hsite⟩ := h.attemptWith w piece
      obtain ⟨hfinal, hsites⟩ := BuiltFrom.attemptAllWith w rest hnext
      rw [attemptAllWith_cons, Attempt.filterMap_text?_cons, ← List.append_assoc]
      refine ⟨hfinal, fun k a ha => ?_⟩
      rw [List.take_succ_cons, Attempt.filterMap_text?_cons, ← List.append_assoc]
      cases k with
      | zero =>
          have ha : (b.attemptWith w piece).1 = a := Option.some.inj ha
          rw [← ha, hsite, site, hnext.context, List.take_zero, List.filterMap_nil,
            List.append_nil]
      | succ k => exact hsites k a ha

@[simp] lemma length_attemptAllWith (w : Writer ε) : ∀ (pieces : List Piece) (b : Builder),
    (b.attemptAllWith w pieces).1.length = pieces.length
  | [], _ => rfl
  | _ :: rest, _ => congrArg Nat.succ (length_attemptAllWith w rest _)

/-! ## A run without what failed -/

lemma kept_cons_of_ok {text : String} {site : Site} {rest : List Piece}
    {attempts : List (Attempt ε)} :
    Attempt.kept (piece :: rest) (⟨.ok text, site⟩ :: attempts)
      = piece :: Attempt.kept rest attempts := rfl

/-- **What failed may be left out.**  The other pieces come to the same, and so does the document.
Only the reports differ. -/
lemma attemptAllWith_kept (w : Writer ε) : ∀ (pieces : List Piece) (b : Builder)
    (log : List LogEntry),
      let run := b.attemptAllWith w pieces
      let again := { b with log := log }.attemptAllWith w (Attempt.kept pieces run.1)
      again.1 = run.1.filter Attempt.succeeded ∧ again.2.document = run.2.document
  | [], _, _ => ⟨rfl, rfl⟩
  | piece :: rest, b, log => by
      rw [attemptAllWith_cons]
      cases hwritten : (w b.config b.site piece).2 with
      | error e =>
          rw [attemptWith_of_error hwritten]
          exact attemptAllWith_kept w rest { b with log := b.log ++ (w b.config b.site piece).1 } log
      | ok text =>
          -- the run without what failed is the same up to its reports, and so is the next text
          have hagain : (w b.config { b with log := log }.site piece).2 = .ok text := hwritten
          obtain ⟨hattempts, hdocument⟩ := attemptAllWith_kept w rest
            { b.append text with log := b.log ++ (w b.config b.site piece).1 }
            (log ++ (w b.config b.site piece).1)
          rw [attemptWith_of_ok hwritten]
          dsimp only
          rw [kept_cons_of_ok, attemptAllWith_cons, attemptWith_of_ok hagain]
          refine ⟨?_, hdocument⟩
          rw [List.filter_cons_of_pos rfl, ← hattempts]
          rfl

/-- **A run in which pieces fail.**  The attempts of builders are those with their own writer, and
with any writer, whatever the configuration, the document is what the texts come to that were
added, and the site behind every piece is the one of a scanner that has read just these texts one
by one.  Without the pieces that failed, the others come to the same texts, sites and document. -/
theorem document_attemptAllWith_eq_join :
    (∀ (pieces : List Piece) (b : Builder), b.attemptAll pieces =
      ((b.attemptAllWith Piece.write pieces).1.map Attempt.toStep,
        (b.attemptAllWith Piece.write pieces).2)) ∧
    ∀ (ε : Type) (w : Writer ε) (config : Config) (pieces : List Piece),
      let run := (start config).attemptAllWith w pieces
      run.1.length = pieces.length ∧
      run.2.document = String.join (run.1.filterMap Attempt.text?) ∧
      (∀ k a, run.1[k]? = some a → a.site = ((Context.fresh.feedAll
        ((run.1.take (k + 1)).filterMap Attempt.text?)).getLastD .fresh).site) ∧
      let again := (start config).attemptAllWith w (Attempt.kept pieces run.1)
      again.1 = run.1.filter Attempt.succeeded ∧ again.2.document = run.2.document := by
  refine ⟨attemptAll_eq_attemptAllWith, fun ε w config pieces => ?_⟩
  obtain ⟨hbuilt, hsites⟩ := (builtFrom_start config).attemptAllWith w pieces
  refine ⟨length_attemptAllWith w pieces _, hbuilt.document, fun k a ha => ?_,
    attemptAllWith_kept w pieces (start config) []⟩
  rw [Context.getLastD_feedAll, hsites k a ha, List.nil_append]

/-- A conversion that there is not leaves the tag open where it was. -/
example : ((start .default).attemptAll
    [.literal "<p id=", .field (.int 1) (some "x") "", .value (.int 2)]).1 =
      [⟨"<p id=", .inValue "p" "id" none, none⟩,
        ⟨"", .inValue "p" "id" none, some (.unknownConversion "x")⟩,
        ⟨"\"2\"", .inValue "p" "" none, none⟩] := by
  decide +kernel

end Builder

end SafeMarkup
