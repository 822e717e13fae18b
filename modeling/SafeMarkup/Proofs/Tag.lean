import Mathlib.Data.List.Basic
import SafeMarkup.Proofs.Scan

/-!
# Where a start tag ends

Eight states of the scanner are states of a start tag.  For the question where the tag ends they
are too many: all that matters of a character is which of five parts of the tag it belongs to, and
only a `>` outside quotes ends the tag.

* `ScanState.insideTag` — the eight states.
* `TagPart`, `TagPart.next` — the five parts, and how a character leads from one to the next.
* `TagPart.endsTag` — whether a text ends the tag.
* `next_tagPart` — a step of the scanner is a step from part to part.
* **`keepsTag_iff`** — the scanner stays in the tag of its element exactly as long as the text does
  not end the tag in this sense.
-/

namespace SafeMarkup

/-- The states of a start tag. -/
def ScanState.insideTag : ScanState → Bool
  | .elementName | .afterElementName | .attributeName | .afterAttributeName
  | .beforeAttributeValue | .attributeValue | .afterAttributeValue | .selfClosingTag => true
  | .text | .tagOpen | .beforeComment | .comment | .unsupportedConstruct => false

/-- The part of a start tag that the next character belongs to. -/
inductive TagPart where
  | elementName
  /-- Names of attributes, with blanks and slashes. -/
  | between
  /-- Behind `=`, before the value. -/
  | valueDue
  | quoted (quote : Quote)
  | unquoted
  deriving DecidableEq, Repr

namespace TagPart

/-- The part behind a character; none if the character ends the tag.  A quote only counts where a
value is due, and a blank or `=` only outside quotes. -/
def next : TagPart → Char → Option TagPart
  | elementName, c =>
    if c = '>' then none else if isBlank c ∨ c = '/' then some between else some elementName
  | between, c =>
    if c = '>' then none else if c = '=' then some valueDue else some between
  | valueDue, c =>
    if c = '>' then none
    else if isBlank c then some valueDue
    else match Quote.ofChar? c with
      | some quote => some (quoted quote)
      | none => some unquoted
  | quoted quote, c => if c = quote.char then some between else some (quoted quote)
  | unquoted, c =>
    if c = '>' then none else if isBlank c then some between else some unquoted

/-- Whether a text ends the tag: it holds a `>` that no quotes surround. -/
def endsTag : TagPart → List Char → Bool
  | _, [] => false
  | part, c :: rest =>
    match part.next c with
    | none => true
    | some behind => behind.endsTag rest

end TagPart

namespace Context

variable {ctx : Context} {c : Char} {text : List Char}

/-- The part of the tag that the scanner is in. -/
def tagPart (ctx : Context) : TagPart :=
  match ctx.state, ctx.quote with
  | .elementName, _ => .elementName
  | .beforeAttributeValue, _ => .valueDue
  | .attributeValue, some quote => .quoted quote
  | .attributeValue, none => .unquoted
  | _, _ => .between

lemma not_ahead_of_insideTag (h : ctx.state.insideTag = true) :
    ctx.state ≠ .tagOpen ∧ ctx.state ≠ .comment := by
  constructor <;> intro hstate <;> rw [hstate] at h <;> exact absurd h (by decide)

/-! ## A step from part to part -/

/-- A step inside a tag that does not end it: the scanner is still in the tag, in the part that
follows, and the name of the element is complete once it has been left. -/
structure StaysInTag (ctx : Context) (part : TagPart) (after : Context) : Prop where
  insideTag : after.state.insideTag = true
  tagPart : after.tagPart = part
  elementName : ctx.state ≠ .elementName →
    after.state ≠ .elementName ∧ after.elementName = ctx.elementName

/-- What the transition comes to where the part of the tag is known. -/
def FollowsPart (ctx after : Context) : Option TagPart → Prop
  | none => after = fresh
  | some part => StaysInTag ctx part after

/-- Another state of the tag, the element being the same. -/
lemma staysInTag_enter {state : ScanState} {part : TagPart} (htag : state.insideTag = true)
    (hname : state ≠ .elementName) (hpart : (ctx.enter state).tagPart = part) :
    StaysInTag ctx part (ctx.enter state) :=
  ⟨htag, hpart, fun _ => ⟨hname, rfl⟩⟩

/-- A character that changes nothing. -/
lemma staysInTag_self {part : TagPart} (h : ctx.state.insideTag = true)
    (hpart : ctx.tagPart = part) : StaysInTag ctx part ctx :=
  ⟨h, hpart, fun hname => ⟨hname, rfl⟩⟩

lemma followsPart_betweenAttributes (ctx : Context) (c : Char) :
    FollowsPart ctx (ctx.betweenAttributes c) (TagPart.between.next c) := by
  simp only [betweenAttributes, TagPart.next]
  by_cases hclose : c = '>'
  · subst hclose
    rfl
  by_cases heq : c = '='
  · subst heq
    exact staysInTag_enter rfl (by decide) rfl
  rw [if_neg hclose, if_neg hclose, if_neg heq, if_neg heq]
  split_ifs with hblank hslash
  · exact staysInTag_enter rfl (by decide) rfl
  · exact staysInTag_enter rfl (by decide) rfl
  · exact ⟨rfl, rfl, fun _ => ⟨by simp, rfl⟩⟩

lemma followsPart_elementName (h : ctx.state = .elementName) (c : Char) :
    FollowsPart ctx (ctx.next c) (TagPart.elementName.next c) := by
  have hstays : ∀ part after, after.state.insideTag = true → after.tagPart = part →
      StaysInTag ctx part after := fun _ _ htag hpart => ⟨htag, hpart, fun hname => absurd h hname⟩
  simp only [next, h, TagPart.next]
  by_cases hclose : c = '>'
  · subst hclose
    rfl
  rw [if_neg hclose, if_neg hclose]
  by_cases hblank : isBlank c = true
  · rw [if_pos hblank, if_pos (Or.inl hblank)]
    exact hstays _ _ rfl rfl
  by_cases hslash : c = '/'
  · rw [if_neg hblank, if_pos hslash, if_pos (Or.inr hslash)]
    exact hstays _ _ rfl rfl
  · rw [if_neg hblank, if_neg hslash, if_neg (not_or.mpr ⟨hblank, hslash⟩)]
    exact hstays _ _ rfl rfl

/-- Blanks are neither the end of a tag nor an equals sign. -/
lemma next_between_of_isBlank (hblank : isBlank c = true) :
    TagPart.between.next c = some .between := by
  have hclose : c ≠ '>' := by rintro rfl; exact absurd hblank (by decide)
  have heq : c ≠ '=' := by rintro rfl; exact absurd hblank (by decide)
  simp only [TagPart.next, if_neg hclose, if_neg heq]

lemma followsPart_attributeName (h : ctx.state = .attributeName) (c : Char) :
    FollowsPart ctx (ctx.next c) (TagPart.between.next c) := by
  simp only [next, h]
  by_cases hblank : isBlank c = true
  · rw [if_pos hblank, next_between_of_isBlank hblank]
    exact staysInTag_enter rfl (by decide) rfl
  by_cases hend : c = '/' ∨ c = '>' ∨ c = '='
  · rw [if_neg hblank, if_pos hend]
    exact followsPart_betweenAttributes ctx c
  · obtain ⟨_, hclose, heq⟩ : c ≠ '/' ∧ c ≠ '>' ∧ c ≠ '=' := by tauto
    rw [if_neg hblank, if_neg hend, TagPart.next, if_neg hclose, if_neg heq]
    exact ⟨rfl, rfl, fun _ => ⟨by simp, rfl⟩⟩

lemma followsPart_afterAttributeName (h : ctx.state = .afterAttributeName) (c : Char) :
    FollowsPart ctx (ctx.next c) (TagPart.between.next c) := by
  simp only [next, h]
  by_cases hblank : isBlank c = true
  · rw [if_pos hblank, next_between_of_isBlank hblank]
    exact staysInTag_self (by rw [h]; rfl) (by simp only [tagPart, h])
  · rw [if_neg hblank]
    exact followsPart_betweenAttributes ctx c

lemma followsPart_beforeAttributeValue (h : ctx.state = .beforeAttributeValue) (c : Char) :
    FollowsPart ctx (ctx.next c) (TagPart.valueDue.next c) := by
  simp only [next, h, TagPart.next]
  by_cases hclose : c = '>'
  · subst hclose
    rfl
  rw [if_neg hclose, if_neg hclose]
  by_cases hblank : isBlank c = true
  · rw [if_pos hblank, if_pos hblank]
    exact staysInTag_self (by rw [h]; rfl) (by simp only [tagPart, h])
  · rw [if_neg hblank, if_neg hblank]
    cases Quote.ofChar? c with
    | some quote => exact ⟨rfl, rfl, fun _ => ⟨by simp, rfl⟩⟩
    | none => exact ⟨rfl, rfl, fun _ => ⟨by simp, rfl⟩⟩

lemma followsPart_attributeValue (h : ctx.state = .attributeValue) (c : Char) :
    FollowsPart ctx (ctx.next c) (ctx.tagPart.next c) := by
  have hin : ctx.state.insideTag = true := by rw [h]; rfl
  have hend : StaysInTag ctx .between ctx.endValue :=
    ⟨rfl, rfl, fun _ => ⟨by simp [endValue], rfl⟩⟩
  cases hquote : ctx.quote with
  | some quote =>
      have hpart : ctx.tagPart = .quoted quote := by simp only [tagPart, h, hquote]
      rw [hpart]
      simp only [next, h, hquote, TagPart.next]
      by_cases hq : c = quote.char
      · rw [if_pos hq, if_pos hq]
        exact hend
      · rw [if_neg hq, if_neg hq]
        exact staysInTag_self hin hpart
  | none =>
      have hpart : ctx.tagPart = .unquoted := by simp only [tagPart, h, hquote]
      rw [hpart]
      simp only [next, h, hquote, TagPart.next]
      by_cases hclose : c = '>'
      · subst hclose
        rfl
      rw [if_neg hclose, if_neg hclose]
      split_ifs
      · exact hend
      · exact staysInTag_self hin hpart

/-- **The scanner goes from part to part.** -/
lemma next_tagPart (h : ctx.state.insideTag = true) (c : Char) :
    FollowsPart ctx (ctx.next c) (ctx.tagPart.next c) := by
  have hbetween : ctx.next c = ctx.betweenAttributes c → ctx.tagPart = .between →
      FollowsPart ctx (ctx.next c) (ctx.tagPart.next c) := by
    intro hnext hpart
    rw [hnext, hpart]
    exact followsPart_betweenAttributes ctx c
  cases hstate : ctx.state with
  | elementName =>
      rw [show ctx.tagPart = .elementName by simp only [tagPart, hstate]]
      exact followsPart_elementName hstate c
  | attributeName =>
      rw [show ctx.tagPart = .between by simp only [tagPart, hstate]]
      exact followsPart_attributeName hstate c
  | afterAttributeName =>
      rw [show ctx.tagPart = .between by simp only [tagPart, hstate]]
      exact followsPart_afterAttributeName hstate c
  | beforeAttributeValue =>
      rw [show ctx.tagPart = .valueDue by simp only [tagPart, hstate]]
      exact followsPart_beforeAttributeValue hstate c
  | attributeValue => exact followsPart_attributeValue hstate c
  | afterElementName =>
      exact hbetween (by simp only [next, hstate]) (by simp only [tagPart, hstate])
  | afterAttributeValue =>
      exact hbetween (by simp only [next, hstate]) (by simp only [tagPart, hstate])
  | selfClosingTag =>
      exact hbetween (by simp only [next, hstate]) (by simp only [tagPart, hstate])
  | _ => exact absurd h (by rw [hstate]; decide)

/-! ## Whole texts -/

/-- A text leaves the scanner in the tag of its element: it never gets into free text, and the
element is the same in the end. -/
def KeepsTag (ctx : Context) (text : List Char) : Prop :=
  (∀ mid ∈ ctx.trail text, mid.state ≠ .text) ∧
    (ctx.scan text).state.insideTag = true ∧ (ctx.scan text).elementName = ctx.elementName

instance : Decidable (ctx.KeepsTag text) :=
  inferInstanceAs (Decidable ((∀ mid ∈ ctx.trail text, mid.state ≠ .text) ∧
    (ctx.scan text).state.insideTag = true ∧ (ctx.scan text).elementName = ctx.elementName))

lemma keepsTag_cons (h : ctx.state.insideTag = true)
    (hname : (ctx.next c).elementName = ctx.elementName) :
    ctx.KeepsTag (c :: text) ↔ (ctx.next c).state ≠ .text ∧ (ctx.next c).KeepsTag text := by
  obtain ⟨htag, hcomment⟩ := not_ahead_of_insideTag h
  simp only [KeepsTag, trail_cons htag hcomment, scan_cons htag hcomment, List.forall_mem_cons,
    hname, and_assoc]

/-- **When a text ends the tag.**  Once the name of the element is complete, a text leaves the
scanner in the tag exactly if no `>` outside quotes ends it. -/
theorem keepsTag_iff : ∀ {text : List Char} {ctx : Context}, ctx.state.insideTag = true →
    ctx.state ≠ .elementName → (ctx.KeepsTag text ↔ ctx.tagPart.endsTag text = false)
  | [], ctx, h, _ => by
      refine iff_of_true ⟨fun mid hmid => absurd hmid List.not_mem_nil, h, rfl⟩ rfl
  | c :: text, ctx, h, hname => by
      -- by induction on the text: a step ends the tag in free text, or it stays in the tag, with
      -- the name of the element complete, in front of the rest
      have hstep : FollowsPart ctx (ctx.next c) (ctx.tagPart.next c) := next_tagPart h c
      rw [TagPart.endsTag]
      cases hpart : ctx.tagPart.next c with
      | none =>
          rw [hpart] at hstep
          have hafter : ctx.next c = fresh := hstep
          obtain ⟨htag, hcomment⟩ := not_ahead_of_insideTag h
          refine iff_of_false (fun hkeeps => ?_) (by simp)
          refine hkeeps.1 (ctx.next c) ?_ (by rw [hafter]; rfl)
          rw [trail_cons htag hcomment]
          exact List.mem_cons_self
      | some part =>
          rw [hpart] at hstep
          have hstays : StaysInTag ctx part (ctx.next c) := hstep
          obtain ⟨hname', hsame⟩ := hstays.elementName hname
          have htext : (ctx.next c).state ≠ .text := by
            intro hstate
            have hin := hstays.insideTag
            rw [hstate] at hin
            exact absurd hin (by decide)
          rw [keepsTag_cons h hsame, and_iff_right htext,
            keepsTag_iff hstays.insideTag hname', hstays.tagPart]

end Context

/-! ## Texts that do not end a tag -/

namespace TagPart

/-- Without a `>` a tag goes on. -/
lemma endsTag_eq_false_of_not_mem : ∀ {text : List Char} (part : TagPart), '>' ∉ text →
    part.endsTag text = false
  | [], _, _ => rfl
  | c :: text, part, hno => by
      obtain ⟨hclose, hrest⟩ : c ≠ '>' ∧ '>' ∉ text := by
        constructor
        · rintro rfl
          exact hno List.mem_cons_self
        · exact fun h => hno (List.mem_cons_of_mem c h)
      rw [endsTag]
      have hsome : ∃ behind, part.next c = some behind := by
        cases part with
        | quoted quote =>
            simp only [next]
            split_ifs <;> exact ⟨_, rfl⟩
        | valueDue =>
            simp only [next, if_neg hclose]
            cases Quote.ofChar? c <;> split_ifs <;> exact ⟨_, rfl⟩
        | _ =>
            simp only [next, if_neg hclose]
            split_ifs <;> exact ⟨_, rfl⟩
      obtain ⟨behind, hbehind⟩ := hsome
      rw [hbehind]
      exact endsTag_eq_false_of_not_mem behind hrest

/-- Within quotes only the quote counts. -/
lemma endsTag_quoted_append {quote : Quote} : ∀ {text : List Char} (rest : List Char),
    quote.char ∉ text → (quoted quote).endsTag (text ++ rest) = (quoted quote).endsTag rest
  | [], _, _ => rfl
  | c :: text, rest, hno => by
      have hother : c ≠ quote.char := by
        rintro rfl
        exact hno List.mem_cons_self
      rw [List.cons_append, endsTag, next, if_neg hother]
      exact endsTag_quoted_append rest fun h => hno (List.mem_cons_of_mem c h)

end TagPart

end SafeMarkup
