/-!
# Blank characters

White space in the broad sense of the Unicode standard: the characters with the property
`White_Space`, and the four information separators U+001C to U+001F besides.  Tags end names at
blanks, and the text of a comment loses the blanks at its two ends.

* `isBlank` — the class, as a table of code point ranges.
* `trimBlanks` — text without the blanks at its ends.
-/

namespace SafeMarkup

/-- The code points of blank characters, as closed ranges in increasing order. -/
def blankRanges : List (Nat × Nat) :=
  [(0x09, 0x0d), (0x1c, 0x20), (0x85, 0x85), (0xa0, 0xa0), (0x1680, 0x1680), (0x2000, 0x200a),
    (0x2028, 0x2029), (0x202f, 0x202f), (0x205f, 0x205f), (0x3000, 0x3000)]

/-- Whether a character is blank. -/
def isBlank (c : Char) : Bool :=
  blankRanges.any fun r => r.1 ≤ c.toNat && c.toNat ≤ r.2

/-- The text without leading blanks. -/
def dropBlanks (cs : List Char) : List Char :=
  cs.dropWhile isBlank

/-- The text without the blanks at either end. -/
def trimBlanks (cs : List Char) : List Char :=
  (dropBlanks (dropBlanks cs).reverse).reverse

end SafeMarkup
