import Faceted.Fault
import Faceted.Yaml.Cursor

/-!
# Scalars in quotes

In single quotes, a quote is written twice and all else once. In double quotes a backslash begins an
escape. In both, a line end with the blanks around it counts as a space, and an escaped line end as
nothing.

## Termination

Reading takes one character per step; what has to be kept in mind between characters is a `State`.
-/

namespace Faceted.Yaml.Quoted

open Faceted.Number

/-- What the characters that were read last make of the next one. -/
inductive State where
  /-- They stand for themselves. -/
  | text
  /-- They are blanks, in reverse, and a line may end after them. -/
  | blanks (reversed : List Char)
  /-- A line has ended, with an escape if `first` is absent, and then these lines did, in
  reverse. -/
  | folding (first : Option Char) (reversed : List Char)
  /-- A quote in single quotes. -/
  | quote
  /-- A backslash in double quotes. -/
  | escape
  /-- An escape by number that has `left` digits to come. -/
  | code (left value : Nat)
deriving Repr

/-- The text that is due when a character comes that is neither a blank nor a line end. -/
def State.due : State → List Char
  | .blanks reversed => reversed.reverse
  | .folding (some first) reversed => foldLines first reversed.reverse
  | .folding none reversed => reversed.reverse
  | _ => []

/-- The state after a blank. -/
def State.blank (c : Char) : State → State
  | .blanks reversed => .blanks (c :: reversed)
  | .folding first reversed => .folding first reversed
  | _ => .blanks [c]

/-- The state after a line end. -/
def State.line (c : Char) : State → State
  | .folding first reversed => .folding first (c :: reversed)
  | _ => .folding (some c) []

/-- The characters that an escape of one letter stands for. -/
def escapes : List (Char × Nat) :=
  [('0', 0x00), ('a', 0x07), ('b', 0x08), ('t', 0x09), ('\t', 0x09), ('n', 0x0A), ('v', 0x0B),
    ('f', 0x0C), ('r', 0x0D), ('e', 0x1B), (' ', 0x20), ('"', 0x22), ('\\', 0x5C), ('/', 0x2F),
    ('N', 0x85), ('_', 0xA0), ('L', 0x2028), ('P', 0x2029)]

/-- The number of hexadecimal digits of an escape by number. -/
def codeLengths : List (Char × Nat) := [('x', 2), ('u', 4), ('U', 8)]

/-- The character with a number. Half of a surrogate pair is no character and is replaced. -/
def charOfCode (n : Nat) : Except Fault Char :=
  if 0x10FFFF < n then .error (.noSuchCharacter n)
  else if 0xD800 ≤ n && n ≤ 0xDFFF then .ok (Char.ofNat 0xFFFD)
  else .ok (Char.ofNat n)

/-- Reads the rest of a scalar in quotes: its text, and what follows the closing quote. -/
def read (double : Bool) : State → List Char → Except Fault (List Char × List Char)
  | .quote, [] => .ok ([], [])
  | _, [] => .error .malformedDocument
  | .quote, c :: cs =>
    if c = '\'' then do
      let (text, rest) ← read double .text cs
      pure (c :: text, rest)
    else .ok ([], c :: cs)
  | .escape, c :: cs =>
    match codeLengths.lookup c, escapes.lookup c with
    | some n, _ => read double (.code n 0) cs
    | none, some n => do
      let (text, rest) ← read double .text cs
      pure (Char.ofNat n :: text, rest)
    | none, none =>
      if isBreak c && !atMarker cs then read double (.folding none []) cs
      else .error .malformedDocument
  | .code left value, c :: cs =>
    match asciiDigit? 16 c with
    | none => .error .malformedDocument
    | some d =>
      if left ≤ 1 then do
        let char ← charOfCode (16 * value + d)
        let (text, rest) ← read double .text cs
        pure (char :: text, rest)
      else read double (.code (left - 1) (16 * value + d)) cs
  | state, c :: cs =>
    if isSpaceOrTab c then read double (state.blank c) cs
    else if isBreak c then
      if atMarker cs then .error .malformedDocument
      else read double (state.line (breakChar c)) cs
    else if c = '"' && double then .ok (state.due, cs)
    else do
      let (text, rest) ←
        if c = '\'' && !double then read double .quote cs
        else if c = '\\' && double then read double .escape cs
        else do
          let (text, rest) ← read double .text cs
          pure (c :: text, rest)
      pure (state.due ++ text, rest)

/-- Reads the scalar whose opening quote is the character here: its text, and the place after it. -/
def scan (double : Bool) (cursor : Cursor) : Except Fault (List Char × Cursor) := do
  let (text, rest) ← read double .text (cursor.rest.drop 1)
  pure (text, cursor.skipTo rest)

end Faceted.Yaml.Quoted
