import Faceted.Fault
import Faceted.Yaml.Cursor

/-!
# Scalars in blocks

Lines that stand as they are, or are folded into one. A header says how they are indented, if that
is not to be seen from the first of them, and what becomes of the line ends after the last.

## Termination

Looking ahead runs over the rest. Each round of `lines` takes a line that is not empty.
-/

namespace Faceted.Yaml.Block

open Faceted.Number

/-- What becomes of the line ends after the last line. -/
inductive Chomping where
  | strip
  | clip
  | keep
deriving DecidableEq, Repr

/-- The header of a block. -/
structure Header where
  chomping : Chomping
  /-- How much further in the lines are than what is around them. -/
  indent : Option Nat
deriving DecidableEq, Repr

/-- The chomping that a character asks for. -/
def chomping? (c : Char) : Option Chomping :=
  if c = '+' then some .keep else if c = '-' then some .strip else none

/-- The parts of a header, each at most once and in either order, and what follows them. -/
def headerParts (cs : List Char) : Header × List Char :=
  let indicator (cs : List Char) : Option Chomping × List Char := match cs with
    | c :: rest => match chomping? c with
      | some chomping => (some chomping, rest)
      | none => (none, cs)
    | [] => (none, [])
  let indentation (cs : List Char) : Option Nat × List Char := match cs with
    | c :: rest => match asciiDigit? 10 c with
      | some d => (some d, rest)
      | none => (none, cs)
    | [] => (none, [])
  match indicator cs with
  | (some chomping, rest) =>
    let (indent, rest) := indentation rest
    (⟨chomping, indent⟩, rest)
  | (none, _) =>
    let (indent, rest) := indentation cs
    match indent with
    | none => (⟨.clip, none⟩, rest)
    | some _ =>
      let (chomping, rest) := indicator rest
      (⟨chomping.getD .clip, indent⟩, rest)

/-- Reads a header with the rest of its line, in which only a comment may stand, and gives the place
after that line. -/
def header (cursor : Cursor) : Except Fault (Header × Cursor) :=
  let (header, rest) := headerParts cursor.rest
  if header.indent = some 0 || !atSpace rest then .error .malformedDocument
  else
    let rest := rest.dropWhile (· = ' ')
    let rest := if rest.head? = some '#' then rest.dropWhile (!isBreak ·) else rest
    if atLineEnd rest then .ok (header, cursor.skipTo (rest.drop 1)) else .error .malformedDocument

/-- Empty lines ahead of the first line: their number of characters, their line ends, and the
greatest column that spaces reach. -/
def firstLines : Nat → List Char → Nat × List Char × Nat
  | _, [] => (0, [], 0)
  | column, c :: cs =>
    if c = ' ' then
      let (n, breaks, widest) := firstLines (column + 1) cs
      (n + 1, breaks, max (column + 1) widest)
    else if isBreak c then
      let (n, breaks, widest) := firstLines 0 cs
      (n + 1, breakChar c :: breaks, widest)
    else (0, [], 0)

/-- Empty lines between lines, and the indentation of the next line: the number of characters and
the line ends. -/
def emptyLines (indent : Nat) : Nat → List Char → Nat × List Char
  | _, [] => (0, [])
  | column, c :: cs =>
    if c = ' ' && column < indent then
      let (n, breaks) := emptyLines indent (column + 1) cs
      (n + 1, breaks)
    else if isBreak c then
      let (n, breaks) := emptyLines indent 0 cs
      (n + 1, breakChar c :: breaks)
    else (0, [])

/-- The lines of a block: their text, the line end of the last one, those of the empty lines after
it, and the place after them. -/
structure Lines where
  text : List Char
  lineEnd : List Char
  breaks : List Char
  cursor : Cursor

/-- What stands between two lines, with `breaks` for the empty lines between them. Folding leaves
lines alone that begin with a blank. -/
def between (folded : Bool) (line next lineEnd breaks : List Char) : List Char :=
  let plain (cs : List Char) : Bool := !((cs.head?.map isSpaceOrTab).getD false)
  if folded && lineEnd = ['\n'] && plain line && plain next then
    (if breaks.isEmpty then [' '] else [])
  else lineEnd

/-- The lines that stand at the column `indent`, with `ahead` for the empty lines before them. -/
def lines (folded : Bool) (indent : Nat) (ahead : List Char) (cursor : Cursor) : Lines :=
  let line := cursor.rest.takeWhile (!isBreak ·)
  if _h : cursor.column = indent ∧ 0 < line.length ∧ cursor.rest ≠ [] then
    let after := cursor.skip line.length
    let lineEnd := (after.rest.take 1).map breakChar
    let start := after.skip 1
    let (n, breaks) := emptyLines indent start.column start.rest
    let next := start.skip n
    if next.column = indent && !next.rest.isEmpty then
      let more := lines folded indent breaks next
      { more with text := ahead ++ line ++ between folded line next.rest lineEnd breaks ++ more.text }
    else ⟨ahead ++ line, lineEnd, breaks, next⟩
  else ⟨[], [], ahead, cursor⟩
termination_by cursor.rest.length
decreasing_by
  exact Nat.lt_of_le_of_lt (Cursor.length_rest_skip_le _ _)
    (Nat.lt_of_le_of_lt (Cursor.length_rest_skip_le _ _)
      (Cursor.length_rest_skip_lt _h.2.1 _h.2.2))

/-- The text of a block, with the line ends after its last line as the header asks. -/
def Lines.chomped (lines : Lines) : Chomping → List Char
  | .strip => lines.text
  | .clip => lines.text ++ lines.lineEnd
  | .keep => lines.text ++ lines.lineEnd ++ lines.breaks

/-- Reads the block whose first character is here. `outer` is the column of what is around it. -/
def scan (folded : Bool) (outer : Int) (cursor : Cursor) : Except Fault (List Char × Cursor) := do
  let (header, start) ← header (cursor.skip 1)
  let least := (max (outer + 1) 1).toNat
  let (indent, n, breaks) := match header.indent with
    | some more =>
      let indent := least + more - 1
      let (n, breaks) := emptyLines indent start.column start.rest
      (indent, n, breaks)
    | none =>
      let (n, breaks, widest) := firstLines start.column start.rest
      (max least widest, n, breaks)
  let lines := lines folded indent breaks (start.skip n)
  pure (lines.chomped header.chomping, lines.cursor)

end Faceted.Yaml.Block
