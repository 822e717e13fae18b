import SafeMarkup.Text.Encoding

/-!
# UTF-8

A reader that takes one byte at a time.  Between characters it expects a first byte; within a
character it knows how many bytes are due and in which range the next one has to lie, so that a
sequence is refused at the first byte that rules it out.

A file is text only if it holds no halves of surrogate pairs.  JSON text is read more leniently:
there such a half counts as one character.

* `Utf8.Lead`, `Utf8.lead?` — what a first byte announces.
* `Utf8.decode` — bytes to text, or the first fault.
* `Utf8.encode` — text to bytes.
-/

namespace SafeMarkup.Utf8

/-- A character of which some bytes are still due. -/
structure Lead where
  /-- The value of the bits read so far. -/
  value : Nat
  /-- How many more bytes are due. -/
  due : Nat
  /-- The least value the next byte may have. -/
  low : Nat
  /-- The greatest value the next byte may have. -/
  high : Nat
  /-- How many bytes have been read. -/
  seen : Nat
  /-- The first byte. -/
  first : UInt8
  /-- Whether the bytes read so far can only be half of a surrogate pair. -/
  surrogate : Bool
  deriving DecidableEq, Repr, Inhabited

/-- What the first byte of a character of several bytes announces. -/
def lead? (b : UInt8) : Option Lead :=
  let n := b.toNat
  if 0xc2 ≤ n && n ≤ 0xdf then some ⟨n - 0xc0, 1, 0x80, 0xbf, 1, b, false⟩
  else if n = 0xe0 then some ⟨0, 2, 0xa0, 0xbf, 1, b, false⟩
  else if n = 0xed then some ⟨0xd, 2, 0x80, 0x9f, 1, b, false⟩
  else if 0xe1 ≤ n && n ≤ 0xef then some ⟨n - 0xe0, 2, 0x80, 0xbf, 1, b, false⟩
  else if n = 0xf0 then some ⟨0, 3, 0x90, 0xbf, 1, b, false⟩
  else if n = 0xf4 then some ⟨4, 3, 0x80, 0x8f, 1, b, false⟩
  else if 0xf1 ≤ n && n ≤ 0xf3 then some ⟨n - 0xf0, 3, 0x80, 0xbf, 1, b, false⟩
  else none

/-- The fault of a character that goes wrong behind the bytes read so far.  Half of a surrogate
pair is wrong from its second byte on. -/
def Lead.broken (l : Lead) (position : Nat) (reason : EncodingReason) : EncodingFault :=
  if l.surrogate then ⟨.utf8, .invalidContinuation, position - l.seen, 1, l.first⟩
  else ⟨.utf8, reason, position - l.seen, l.seen, l.first⟩

/-- One more byte of a character: the character as it stands then, or `none` if the byte cannot
follow. -/
def Lead.next? (l : Lead) (lenient : Bool) (b : UInt8) : Option Lead :=
  let n := b.toNat
  let half := lenient && l.first = 0xed && l.seen = 1 && 0xa0 ≤ n && n ≤ 0xbf
  if half || (l.low ≤ n && n ≤ l.high) then
    some ⟨l.value * 64 + n % 64, l.due - 1, 0x80, 0xbf, l.seen + 1, l.first, l.surrogate || half⟩
  else none

/-- Reads bytes from a position on, `pending` being the character they are in the middle of. -/
def decodeFrom (lenient : Bool) :
    Nat → Option Lead → List UInt8 → Except EncodingFault (List Char)
  | _, none, [] => .ok []
  | position, some l, [] => .error (l.broken position .unexpectedEnd)
  | position, none, b :: rest =>
    if b.toNat < 0x80 then
      (decodeFrom lenient (position + 1) none rest).map (charOfCode b.toNat :: ·)
    else
      match lead? b with
      | none => .error ⟨.utf8, .invalidStart, position, 1, b⟩
      | some l => decodeFrom lenient (position + 1) (some l) rest
  | position, some l, b :: rest =>
    match l.next? lenient b with
    | none => .error (l.broken position .invalidContinuation)
    | some l' =>
      if l'.due = 0 then
        (decodeFrom lenient (position + 1) none rest).map (charOfCode l'.value :: ·)
      else decodeFrom lenient (position + 1) (some l') rest

/-- The text that bytes stand for. -/
def decode (bytes : List UInt8) : Except EncodingFault (List Char) :=
  decodeFrom false 0 none bytes

/-- The text that bytes stand for, halves of surrogate pairs being allowed. -/
def decodeLenient (bytes : List UInt8) : Except EncodingFault (List Char) :=
  decodeFrom true 0 none bytes

/-- The bytes of a text. -/
def encode (text : String) : List UInt8 :=
  text.toUTF8.data.toList

end SafeMarkup.Utf8
