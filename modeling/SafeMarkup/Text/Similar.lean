import SafeMarkup.Text.Order

/-!
# Similar texts

Two texts are compared by what they share: their longest common block, and then in the same way what
stands in front of it in both, and what stands behind it in both.

* `longestBlock` — where the longest common block of two texts starts.
* `sharedCount` — how many characters two texts share.
* `closeTexts` — the texts that are similar to a given one.
-/

namespace SafeMarkup

/-- How many characters two texts have in common at their front. -/
def commonFront : List Char → List Char → Nat
  | a :: as, b :: bs => if a = b then commonFront as bs + 1 else 0
  | _, _ => 0

/-- A block of characters that two texts have in common. -/
structure Block where
  /-- Where it starts in the first text. -/
  first : Nat
  /-- Where it starts in the second text. -/
  second : Nat
  size : Nat
  deriving DecidableEq, Repr, Inhabited

/-- The longer one of two blocks, and the first of them if they are equally long. -/
def Block.longer (a b : Block) : Block := if a.size < b.size then b else a

/-- The longest common block of two texts.  Of several, it is the one that starts first in the first
text, and then in the second. -/
def longestBlock (as bs : List Char) : Block :=
  let blocks := (List.range as.length).flatMap fun i =>
    (List.range bs.length).map fun j => ⟨i, j, commonFront (as.drop i) (bs.drop j)⟩
  blocks.foldl Block.longer ⟨0, 0, 0⟩

/-- How many characters two texts share, looking at most `depth` blocks deep. -/
def sharedWithin : Nat → List Char → List Char → Nat
  | 0, _, _ => 0
  | depth + 1, as, bs =>
    let block := longestBlock as bs
    if block.size = 0 then 0
    else sharedWithin depth (as.take block.first) (bs.take block.second) + block.size
      + sharedWithin depth (as.drop (block.first + block.size))
          (bs.drop (block.second + block.size))

/-- How many characters two texts share.  Every block takes a character of the first text away, so
its length bounds the depth. -/
def sharedCount (as bs : List Char) : Nat := sharedWithin as.length as bs

/-- A text with its similarity to another one: of `total` characters in both, `shared` pairs. -/
structure Similarity where
  text : String
  shared : Nat
  total : Nat
  deriving DecidableEq, Repr, Inhabited

namespace Similarity

/-- How similar a text is to the given one. -/
def measure (given text : String) : Similarity :=
  ⟨text, sharedCount text.toList given.toList, text.length + given.length⟩

/-- Whether three fifths of the characters or more are shared. -/
def isClose (s : Similarity) : Bool := 3 * s.total ≤ 10 * s.shared

/-- Whether one text comes before another in a list of suggestions: the more similar one, and of two
equally similar ones the later in the order of texts. -/
def precedes (a b : Similarity) : Bool :=
  if a.shared * b.total = b.shared * a.total then b.text ≤ a.text
  else b.shared * a.total < a.shared * b.total

end Similarity

/-- The texts that are similar to a given one, three at most, in the order of texts. -/
def closeTexts (given : String) (texts : List String) : List String :=
  let close := (texts.map (Similarity.measure given)).filter Similarity.isClose
  sortTexts (((close.mergeSort Similarity.precedes).take 3).map Similarity.text)

end SafeMarkup
