import SafeMarkup.Text.Encoding

/-!
# Text in units of two and four bytes

UTF-16 and UTF-32, in either byte order.  Two units of UTF-16 that make up a surrogate pair are
one character; a half without its other half counts as a code point of its own.

* `joinPairs`, `joinSurrogates` — code units to code points, and to characters.
* `decodeUtf16`, `decodeUtf32` — bytes to text, or the first fault.
* `splitSurrogates` — a code point as code units of sixteen bits.
-/

namespace SafeMarkup

/-- Whether a code unit is the first half of a surrogate pair. -/
def isHighSurrogate (n : Nat) : Bool := 0xd800 ≤ n && n < 0xdc00

/-- Whether a code unit is the second half of a surrogate pair. -/
def isLowSurrogate (n : Nat) : Bool := 0xdc00 ≤ n && n < 0xe000

/-- The code point of a surrogate pair. -/
def joinPair (high low : Nat) : Nat := 0x10000 + (high - 0xd800) * 0x400 + (low - 0xdc00)

/-- The code points that a sequence of code units or code points stands for.  Halves that make up a
pair are joined, and all else stays as it is. -/
def joinPairs : List Nat → List Nat
  | [] => []
  | [n] => [n]
  | high :: low :: rest =>
    if isHighSurrogate high && isLowSurrogate low then joinPair high low :: joinPairs rest
    else high :: joinPairs (low :: rest)

/-- The characters that a sequence of code units stands for. -/
def joinSurrogates (units : List Nat) : List Char := (joinPairs units).map charOfCode

/-- The code units of sixteen bits that a character is written with. -/
def splitSurrogates (c : Char) : List Nat :=
  let n := c.toNat
  if n < 0x10000 then [n]
  else [0xd800 + (n - 0x10000) / 0x400, 0xdc00 + (n - 0x10000) % 0x400]

/-- The value of bytes in the given order. -/
def ByteOrder.value (order : ByteOrder) (bytes : List UInt8) : Nat :=
  match order with
  | .big => bytes.foldl (fun n b => 256 * n + b.toNat) 0
  | .little => bytes.foldr (fun b n => 256 * n + b.toNat) 0

/-- The units of two bytes, read from a position on. -/
def units16From (order : ByteOrder) : Nat → List UInt8 → Except EncodingFault (List Nat)
  | _, [] => .ok []
  | position, [b] => .error ⟨.utf16 order, .truncated, position, 1, b⟩
  | position, a :: b :: rest =>
    (units16From order (position + 2) rest).map (order.value [a, b] :: ·)

/-- Reads UTF-16; `start` is the position of the first byte. -/
def decodeUtf16 (order : ByteOrder) (start : Nat) (bytes : List UInt8) :
    Except EncodingFault (List Char) :=
  (units16From order start bytes).map joinSurrogates

/-- Reads UTF-32; the first argument is the position of the first byte. -/
def decodeUtf32 (order : ByteOrder) : Nat → List UInt8 → Except EncodingFault (List Char)
  | _, [] => .ok []
  | position, a :: b :: c :: d :: rest =>
    let code := order.value [a, b, c, d]
    if code < 0x110000 then
      (decodeUtf32 order (position + 4) rest).map (charOfCode code :: ·)
    else .error ⟨.utf32 order, .outOfRange, position, 4, a⟩
  | position, a :: rest => .error ⟨.utf32 order, .truncated, position, rest.length + 1, a⟩

end SafeMarkup
