import SafeMarkup.Entity
import SafeMarkup.Proofs.TagRun

/-!
# Reading attributes back

The scanner is no reader of attributes: it keeps one name at a time and no value at all.  But it
says of every character what it is part of, and so the attributes of a text can be read off its
steps.  A name is the one that the scanner holds where an equals sign makes a value due; the value
is what stands between the quotes, or up to the end of an unquoted value, with its references read.

* `Move`, `Context.moves` — the steps through a text, with their characters.
* `AttributeRead`, `Context.attributesIn` — the attributes of a text, in their order.
* `Passes.moves_append` — the steps through a text and what follows it.
* **`readAttributes_attribute`** — what is read of an attribute with its value in quotes.
-/

namespace SafeMarkup

/-- A step of the scanner: the character that was read, and the context behind it. -/
structure Move where
  char : Char
  after : Context

/-- An equals sign makes a value due. -/
def Move.startsValue (m : Move) : Bool := m.char = '=' && m.after.state = .beforeAttributeValue

/-- An attribute as it was read. -/
structure AttributeRead where
  name : String
  /-- The quote around the value. -/
  quote : Option Quote
  /-- The value, its references being read. -/
  value : String
  deriving DecidableEq, Repr

/-- The characters up to the end of the value that steps start in. -/
def valueChars (moves : List Move) : List Char :=
  (moves.takeWhile fun m => m.after.state = .attributeValue).map Move.char

/-- The quote and the characters of the value that is due where steps start. -/
def readValue (moves : List Move) : Option Quote × List Char :=
  match moves.dropWhile fun m => m.after.state = .beforeAttributeValue with
  | [] => (none, [])
  | m :: rest =>
    match m.after.quote with
    | some quote => (some quote, valueChars rest)
    | none => (none, valueChars (m :: rest))

/-- The attributes that steps go through. -/
def readAttributes : List Move → List AttributeRead
  | [] => []
  | m :: rest =>
    if m.startsValue then
      ⟨m.after.attributeName, (readValue rest).1, unescape (String.ofList (readValue rest).2)⟩
        :: readAttributes rest
    else readAttributes rest

lemma readAttributes_append {moves : List Move} (h : ∀ m ∈ moves, m.startsValue = false)
    (rest : List Move) : readAttributes (moves ++ rest) = readAttributes rest := by
  induction moves with
  | nil => rfl
  | cons m moves ih =>
      obtain ⟨hm, hmoves⟩ := List.forall_mem_cons.mp h
      rw [List.cons_append, readAttributes, hm]
      exact ih hmoves

namespace Context

variable {ctx after : Context} {c : Char} {text rest : List Char}

/-- The steps of `scanFrom`. -/
def movesFrom : ℕ → Context → List Char → List Move
  | _, _, [] => []
  | skip + 1, ctx, _ :: rest => movesFrom skip ctx rest
  | 0, ctx, c :: rest =>
    ⟨c, (ctx.step c rest).1⟩ :: movesFrom (ctx.step c rest).2 (ctx.step c rest).1 rest

/-- The steps through a text. -/
def moves (ctx : Context) (text : List Char) : List Move :=
  movesFrom 0 ctx text

/-- The attributes of a text that is read from a context. -/
def attributesIn (ctx : Context) (text : String) : List AttributeRead :=
  readAttributes (ctx.moves text.toList)

/-! ## The steps through a text -/

lemma moves_cons (hstep : ctx.outcome c rest = (ctx.next c, 0)) :
    ctx.moves (c :: rest) = ⟨c, ctx.next c⟩ :: (ctx.next c).moves rest := by
  rw [moves, movesFrom, step_eq, hstep, moves]

lemma Passes.moves_append (h : Passes ctx text after) (rest : List Char) :
    ctx.moves (text ++ rest) = ctx.moves text ++ after.moves rest := by
  induction h with
  | nil ctx => rfl
  | cons hstep _ ih => rw [List.cons_append, moves_cons (hstep _), moves_cons (hstep _), ih,
      List.cons_append]

lemma Passes.char_mem (h : Passes ctx text after) : ∀ m ∈ ctx.moves text, m.char ∈ text := by
  induction h with
  | nil ctx => exact fun m hm => absurd hm List.not_mem_nil
  | cons hstep _ ih =>
      rw [moves_cons (hstep _), List.forall_mem_cons]
      exact ⟨List.mem_cons_self, fun m hm => List.mem_cons_of_mem _ (ih m hm)⟩

lemma moves_self (h : ctx.state.insideTag = true) :
    ∀ {text : List Char}, (∀ c ∈ text, ctx.next c = ctx) →
      ctx.moves text = text.map fun c => ⟨c, ctx⟩
  | [], _ => rfl
  | c :: text, hstay => by
      obtain ⟨hc, hrest⟩ := List.forall_mem_cons.mp hstay
      obtain ⟨htag, hcomment⟩ := not_ahead_of_insideTag h
      rw [moves_cons (outcome_of_not_ahead htag hcomment), hc, moves_self h hrest, List.map_cons]

/-! ## What is read -/

lemma readAttributes_of_no_equals (h : Passes ctx text after) (hno : '=' ∉ text)
    (rest : List Char) :
    readAttributes (ctx.moves (text ++ rest)) = readAttributes (after.moves rest) := by
  rw [h.moves_append]
  refine readAttributes_append (fun m hm => ?_) _
  have hchar : m.char ≠ '=' := by
    intro heq
    exact hno (heq ▸ h.char_mem m hm)
  simp [Move.startsValue, hchar]

lemma moves_quoted {quote : Quote} (hno : quote.char ∉ text) (rest : List Char) :
    (ctx.openQuote quote).moves (text ++ quote.char :: rest)
      = (text.map fun c => ⟨c, ctx.openQuote quote⟩)
        ++ ⟨quote.char, ctx.endValue⟩ :: ctx.endValue.moves rest := by
  have hstay : ∀ c ∈ text, (ctx.openQuote quote).next c = ctx.openQuote quote :=
    fun c hc => next_within_quotes fun h => hno (h ▸ hc)
  have hclose : (ctx.openQuote quote).moves (quote.char :: rest) = _ :: _ :=
    moves_cons (outcome_of_not_ahead (by simp [openQuote]) (by simp [openQuote]))
  rw [(passes_within_quotes hno).moves_append, moves_self rfl hstay, hclose, next_closeQuote]

lemma readValue_quoted (h : ctx.state = .beforeAttributeValue) {quote : Quote}
    (hno : quote.char ∉ text) (rest : List Char) :
    readValue (ctx.moves (quote.char :: (text ++ quote.char :: rest))) = (some quote, text) := by
  have hopen : ctx.moves (quote.char :: (text ++ quote.char :: rest)) = _ :: _ :=
    moves_cons (outcome_of_not_ahead (by simp [h]) (by simp [h]))
  rw [hopen, next_openQuote h, moves_quoted hno, readValue,
    List.dropWhile_cons_of_neg (by simp [openQuote])]
  refine Prod.ext rfl ?_
  change valueChars _ = text
  rw [valueChars, List.takeWhile_append_of_pos (by simp [openQuote]),
    List.takeWhile_cons_of_neg (by simp [endValue]), List.append_nil, List.map_map]
  exact List.map_id text

/-- Equals signs within a value make no other value due. -/
lemma readAttributes_quoted (h : ctx.state = .beforeAttributeValue) {quote : Quote}
    (hno : quote.char ∉ text) (rest : List Char) :
    readAttributes (ctx.moves (quote.char :: (text ++ quote.char :: rest)))
      = readAttributes (ctx.endValue.moves rest) := by
  have hopen : ctx.moves (quote.char :: (text ++ quote.char :: rest)) = _ :: _ :=
    moves_cons (outcome_of_not_ahead (by simp [h]) (by simp [h]))
  have hsplit := List.append_cons
    (⟨quote.char, ctx.openQuote quote⟩ :: text.map fun c => (⟨c, ctx.openQuote quote⟩ : Move))
    ⟨quote.char, ctx.endValue⟩ (ctx.endValue.moves rest)
  rw [hopen, next_openQuote h, moves_quoted hno, ← List.cons_append, hsplit]
  refine readAttributes_append (fun m hm => ?_) _
  have hafter : m.after.state ≠ .beforeAttributeValue := by
    simp only [List.cons_append, List.mem_cons, List.mem_append, List.mem_map, List.not_mem_nil,
      or_false] at hm
    rcases hm with rfl | ⟨c, _, rfl⟩ | rfl <;> simp [openQuote, endValue]
  simp [Move.startsValue, hafter]

/-- **What is read of an attribute in double quotes.** -/
lemma readAttributes_attribute (h : ctx.AwaitsName) {name value : List Char} (hne : name ≠ [])
    (hname : ∀ c ∈ name, NamePart c) {quote : Quote} (hvalue : quote.char ∉ value)
    (rest : List Char) :
    readAttributes (ctx.moves (name ++ '=' :: quote.char :: (value ++ quote.char :: rest)))
      = ⟨String.ofList name, some quote, unescape (String.ofList value)⟩
        :: readAttributes (((ctx.named name).enter .beforeAttributeValue).endValue.moves rest) := by
  have hno : '=' ∉ name := fun hmem => (hname '=' hmem).2.2.2 rfl
  have hdue : (ctx.named name).moves ('=' :: quote.char :: (value ++ quote.char :: rest))
      = _ :: _ := moves_cons (outcome_of_not_ahead (by simp [named]) (by simp [named]))
  rw [readAttributes_of_no_equals (passes_name h hne hname) hno, hdue, next_equals (Or.inl rfl),
    readAttributes, if_pos (by simp [Move.startsValue, named, enter]), readValue_quoted rfl hvalue,
    readAttributes_quoted rfl hvalue]
  rfl

end Context

end SafeMarkup
