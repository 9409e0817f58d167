/-!
# Base 64

Bytes written with sixty-four characters, six bits each. Reading passes over every other character
and stops where a group of four has been filled up with equals signs.

## Termination

Reading runs over the characters.
-/

namespace Faceted.Text.Base64

/-- The six bits that a character stands for. -/
def sixBits? (c : Char) : Option Nat :=
  if c.isUpper then some (c.toNat - 'A'.toNat)
  else if c.isLower then some (c.toNat - 'a'.toNat + 26)
  else if c.isDigit then some (c.toNat - '0'.toNat + 52)
  else if c = '+' then some 62
  else if c = '/' then some 63
  else none

/-- Reads on inside a group of which `place` characters have been read. `carry` holds their bits that
have not been given out, `pads` counts the equals signs since the last of them. -/
def decodeFrom (place carry pads : Nat) : List Char → Option (List UInt8)
  | [] => if place = 0 then some [] else none
  | c :: cs =>
    if c = '=' then
      if 2 ≤ place && 4 ≤ place + pads + 1 then some []
      else decodeFrom place carry (if 2 ≤ place then pads + 1 else pads) cs
    else match sixBits? c with
      | none => decodeFrom place carry pads cs
      | some n =>
        match place with
        | 0 => decodeFrom 1 n 0 cs
        | 1 => (decodeFrom 2 (n % 16) 0 cs).map (UInt8.ofNat (carry * 4 + n / 16) :: ·)
        | 2 => (decodeFrom 3 (n % 4) 0 cs).map (UInt8.ofNat (carry * 16 + n / 4) :: ·)
        | _ => (decodeFrom 0 0 0 cs).map (UInt8.ofNat (carry * 64 + n) :: ·)

/-- The bytes that a text stands for, none if its last group is not complete. -/
def decode? (cs : List Char) : Option (List UInt8) := decodeFrom 0 0 0 cs

end Faceted.Text.Base64
