import Faceted.Number.Integer

/-!
# Places in templates

A template is a text with places that arguments are written to. A place begins with a percent sign.
There may follow the name of an argument in brackets, flags, a width, a point with a precision, and a
letter for the size of numbers, which means nothing; a letter that says how the argument is written
ends it. A star for the width or the precision takes the number from the arguments. Two percent signs
stand for one.

## Termination

The pieces of a template are read from what is left of it, which gets shorter with each of them.
-/

namespace Faceted.Template

open Faceted.Number

/-- A number in a place: one that stands there, or one that is taken from the arguments. -/
inductive Amount where
  | given (n : Nat)
  | taken
deriving DecidableEq, Repr

/-- How a place is filled up, and what a number there shows. -/
structure Flags where
  /-- What is written stands at the left end. -/
  left : Bool
  /-- A number is filled up with zeros. -/
  zeros : Bool
  /-- A number that is not negative has a plus sign. -/
  plus : Bool
  /-- A number that is not negative has a blank for its sign. -/
  blank : Bool
  /-- A number shows its base, its point and its zeros. -/
  full : Bool
deriving DecidableEq, Repr

/-- A place for an argument. -/
structure Place where
  name : Option String
  flags : Flags
  width : Amount
  precision : Option Amount
  letter : Char
deriving DecidableEq, Repr

/-- A part of a template: a character as it is, or a place. -/
inductive Piece where
  | char (c : Char)
  | place (p : Place)
deriving DecidableEq, Repr

/-! ## Reading -/

/-- A name up to the bracket that closes it, and what follows. Brackets in a name come in pairs;
`depth` of them are open. -/
def spanName? (depth : Nat) : List Char → Option (List Char × List Char)
  | [] => none
  | c :: cs =>
    if c = ')' && depth = 0 then some ([], cs)
    else
      let depth := if c = ')' then depth - 1 else if c = '(' then depth + 1 else depth
      (spanName? depth cs).map fun r => (c :: r.1, r.2)

/-- The name that a place begins with, if it does, and what follows. -/
def readName? : List Char → Option (Option String × List Char)
  | '(' :: cs => (spanName? 0 cs).map fun r => (some (String.ofList r.1), r.2)
  | cs => some (none, cs)

/-- The flags of a place and what follows them. -/
def spanFlags (f : Flags) : List Char → Flags × List Char
  | '-' :: cs => spanFlags { f with left := true } cs
  | '0' :: cs => spanFlags { f with zeros := true } cs
  | '+' :: cs => spanFlags { f with plus := true } cs
  | ' ' :: cs => spanFlags { f with blank := true } cs
  | '#' :: cs => spanFlags { f with full := true } cs
  | cs => (f, cs)

/-- A number that is at most `most`, and what follows it. No digits at all are zero. -/
def readAmount? (most : Nat) : List Char → Option (Amount × List Char)
  | '*' :: cs => some (.taken, cs)
  | cs =>
    let n := (readNat? 10 (cs.takeWhile Char.isDigit)).getD 0
    if n ≤ most then some (.given n, cs.dropWhile Char.isDigit) else none

/-- The greatest width that can stand in a place. -/
def mostWidth : Nat := Nat.pow 2 63 - 1

/-- The greatest precision that can stand in a place. -/
def mostPrecision : Nat := Nat.pow 2 31 - 1

/-- The precision of a place, if it has one, and what follows. -/
def readPrecision? : List Char → Option (Option Amount × List Char)
  | '.' :: cs => (readAmount? mostPrecision cs).map fun r => (some r.1, r.2)
  | cs => some (none, cs)

/-- Past the letter for the size of numbers. -/
def passSize : List Char → List Char
  | c :: cs => if c = 'h' || c = 'l' || c = 'L' then cs else c :: cs
  | [] => []

/-- The place that begins after a percent sign, and what follows it. -/
def readPlace? (cs : List Char) : Option (Place × List Char) := do
  let (name, cs) ← readName? cs
  let (flags, cs) := spanFlags ⟨false, false, false, false, false⟩ cs
  let (width, cs) ← readAmount? mostWidth cs
  let (precision, cs) ← readPrecision? cs
  match passSize cs with
  | letter :: cs => some (⟨name, flags, width, precision, letter⟩, cs)
  | [] => none

/-- The pieces of a template, none if a place in it is not complete. -/
def pieces? (cs : List Char) : Option (List Piece) :=
  match cs with
  | [] => some []
  | '%' :: '%' :: rest => (pieces? rest).map (.char '%' :: ·)
  | '%' :: rest => match readPlace? rest with
    | none => none
    | some (place, after) =>
      if _h : after.length < rest.length then (pieces? after).map (.place place :: ·) else none
  | c :: rest => (pieces? rest).map (.char c :: ·)
termination_by cs.length
decreasing_by all_goals simp only [List.length_cons]; omega

end Faceted.Template
