/-!
# Text from bytes

The text of a file. It is in UTF-8, and a carriage return, alone or ahead of a line feed, ends a line
like a line feed. Bytes that are no text are refused with the place of the first that is wrong.

## Termination

Decoding runs over the bytes and keeps the character that is being read as its state; unifying line
ends runs over the characters.
-/

namespace Faceted.Text

/-- What is wrong with bytes. -/
inductive DecodingReason where
  /-- No character begins with the byte. -/
  | start
  /-- The byte does not go on with a character. -/
  | continuation
  /-- The bytes end inside a character. -/
  | ended
deriving DecidableEq, Repr

/-- Why bytes are no text: the character that is wrong begins with the byte `first` at a position and
goes on to the position before `stop`. -/
structure DecodingFault where
  first : UInt8
  position : Nat
  stop : Nat
  reason : DecodingReason
deriving DecidableEq, Repr

/-- A character that is being read: its first byte and where that is, how many bytes it still needs,
between which numbers the next of them has to be, and what its bits are so far. -/
structure OpenChar where
  first : UInt8
  position : Nat
  left : Nat
  low : Nat
  high : Nat
  bits : Nat

/-- The character that begins with a byte above those of ASCII. Characters are written as short as
they can be, and there are none from U+D800 to U+DFFF and above U+10FFFF. -/
def openChar? (first : UInt8) (position : Nat) : Option OpenChar :=
  let n := first.toNat
  let char (left low high bits : Nat) : Option OpenChar := some ⟨first, position, left, low, high, bits⟩
  if n < 0xC2 then none
  else if n < 0xE0 then char 1 0x80 0xBF (n - 0xC0)
  else if n < 0xF0 then
    char 2 (if n = 0xE0 then 0xA0 else 0x80) (if n = 0xED then 0x9F else 0xBF) (n - 0xE0)
  else if n < 0xF5 then
    char 3 (if n = 0xF0 then 0x90 else 0x80) (if n = 0xF4 then 0x8F else 0xBF) (n - 0xF0)
  else none

/-- The characters of bytes from a position on, of which one may be being read. -/
def decodeFrom (position : Nat) (current : Option OpenChar) :
    List UInt8 → Except DecodingFault (List Char)
  | [] => match current with
    | none => .ok []
    | some char => .error ⟨char.first, char.position, position, .ended⟩
  | b :: bs => match current with
    | none =>
      if b.toNat < 0x80 then (decodeFrom (position + 1) none bs).map (Char.ofNat b.toNat :: ·)
      else match openChar? b position with
        | none => .error ⟨b, position, position + 1, .start⟩
        | some char => decodeFrom (position + 1) (some char) bs
    | some char =>
      if char.low ≤ b.toNat && b.toNat ≤ char.high then
        let bits := char.bits * 64 + b.toNat % 64
        if char.left ≤ 1 then (decodeFrom (position + 1) none bs).map (Char.ofNat bits :: ·)
        else decodeFrom (position + 1)
          (some { char with left := char.left - 1, low := 0x80, high := 0xBF, bits := bits }) bs
      else .error ⟨char.first, char.position, position, .continuation⟩

/-- Every line end that has a carriage return made into a line feed. -/
def unifyLineEnds : List Char → List Char
  | [] => []
  | '\r' :: '\n' :: cs => '\n' :: unifyLineEnds cs
  | '\r' :: cs => '\n' :: unifyLineEnds cs
  | c :: cs => c :: unifyLineEnds cs

/-- The text of bytes. -/
def decode (bytes : List UInt8) : Except DecodingFault (List Char) :=
  (decodeFrom 0 none bytes).map unifyLineEnds

end Faceted.Text
