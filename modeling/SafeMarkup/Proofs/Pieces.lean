import Mathlib.Tactic.Lemma
import SafeMarkup.Builder

/-!
# What a piece does to a builder

* `addResolved_context`, … — the fields of a builder behind a resolved piece; `addResolved_literal`
  says that a literal is just appended.
* `add_value`, `add_comment`, … — pieces that need no resolving always have a text.
* `Value.commentText` — the text of a value where it goes into a comment.
* `Value.IsPlain` — a value that is written for its site.
-/

namespace SafeMarkup

/-- The text of a value where it goes into a comment: that of a value marked as a comment is the
text it was marked with. -/
def Value.commentText : Value → String
  | .comment text => text
  | other => other.written

/-- A value that is neither vouched for nor marked as a comment. -/
def Value.IsPlain (v : Value) : Prop :=
  (∀ text, v ≠ .unescaped text) ∧ ∀ text, v ≠ .comment text

namespace Builder

variable {b : Builder}

@[simp] lemma addResolved_context (b : Builder) (piece : Piece) :
    (b.addResolved piece).context = b.context.feed (piece.resolvedText b.config b.site) := rfl

@[simp] lemma addResolved_config (b : Builder) (piece : Piece) :
    (b.addResolved piece).config = b.config := rfl

@[simp] lemma addResolved_document (b : Builder) (piece : Piece) :
    (b.addResolved piece).document = b.document ++ piece.resolvedText b.config b.site := rfl

@[simp] lemma append_empty (b : Builder) : b.append "" = b := by
  rw [append, String.append_empty]
  rfl

/-- Text may be appended in two parts if it is read so. -/
lemma append_append {s t : String}
    (h : b.context.feed (s ++ t) = (b.context.feed s).feed t) :
    (b.append s).append t = b.append (s ++ t) := by
  simp only [append, h, String.append_assoc]

/-- A literal is appended without a report. -/
lemma addResolved_literal (b : Builder) (text : String) :
    b.addResolved (.literal text) = b.append text := by
  rw [addResolved, Piece.report, List.append_nil]
  rfl

/-- A plain value is appended as it is. -/
lemma add_value {v : Value} (h : v.IsPlain) :
    b.add (.value v) = .ok (b.addResolved (.value v)) := by
  cases v with
  | unescaped text => exact absurd rfl (h.1 text)
  | comment text => exact absurd rfl (h.2 text)
  | _ => rfl

lemma add_literal (text : String) : b.add (.literal text) = .ok (b.addResolved (.literal text)) :=
  rfl

lemma add_comment (text : String) : b.add (.comment text) = .ok (b.addResolved (.comment text)) :=
  rfl

lemma add_value_comment (text : String) :
    b.add (.value (.comment text)) = .ok (b.addResolved (.comment text)) := rfl

end Builder

end SafeMarkup
