import Faceted.Text.Printable
import Faceted.Number.Integer

/-!
# Quoted text

A text between quotes, on one line and in printable characters only. Single quotes are used unless
the text holds a single quote and no double quote. The quote in use and the backslash are escaped
by a backslash; what cannot be printed is written by its number.
-/

namespace Faceted.Text

open Faceted.Number

/-- The quote for a text: single, unless only that would need an escape. -/
def quoteFor (cs : List Char) : Char :=
  if cs.contains '\'' && !cs.contains '"' then '"' else '\''

/-- A character by its number, in the shortest of the three fixed widths. -/
def numbered (n : Nat) : List Char :=
  if n ≤ 0xFF then '\\' :: 'x' :: hexText 2 n
  else if n ≤ 0xFFFF then '\\' :: 'u' :: hexText 4 n
  else '\\' :: 'U' :: hexText 8 n

/-- A character inside quotes. -/
def escaped (quote c : Char) : List Char :=
  if c = quote || c = '\\' then ['\\', c]
  else if c = '\t' then ['\\', 't']
  else if c = '\n' then ['\\', 'n']
  else if c = '\r' then ['\\', 'r']
  else if isPrintable c then [c]
  else numbered c.toNat

/-- A text in quotes. -/
def quoted (cs : List Char) : List Char :=
  let q := quoteFor cs
  q :: cs.flatMap (escaped q) ++ [q]

/-- A string in quotes. -/
def quotedString (s : String) : String := String.ofList (quoted s.toList)

/-- Bytes in quotes, after the letter `b`. Bytes outside ASCII are written by their number. -/
def quotedBytes (bs : List UInt8) : List Char :=
  let cs := bs.map fun b => Char.ofNat b.toNat
  let q := quoteFor cs
  let one (c : Char) : List Char := if 0x7F ≤ c.toNat then numbered c.toNat else escaped q c
  'b' :: q :: cs.flatMap one ++ [q]

/-- A list of strings, each in quotes, between brackets. -/
def quotedList (ss : List String) : String :=
  "[" ++ join ", " (ss.map quotedString) ++ "]"

end Faceted.Text
