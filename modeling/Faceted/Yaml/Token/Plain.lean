import Faceted.Yaml.Cursor

/-!
# Plain scalars

A scalar without quotes: chunks of characters with spaces or line ends between them. It ends before
a comment, before what would be an indicator, and where a line is indented too little.

## Termination

Looking ahead runs over the rest. Each round of `read` takes a chunk that is not empty.
-/

namespace Faceted.Yaml.Plain

/-- The characters that divide collections in brackets. -/
def dividers : List Char := [',', '[', ']', '\x7b', '\x7d']

/-- The chunk ends before this character. `flow` says that there are brackets around it. -/
def endsChunk (flow : Bool) (c : Char) (cs : List Char) : Bool :=
  isSpaceOrTab c || isBreak c ||
    (c = ':' && (atBlank cs || (flow && (cs.head?.map dividers.contains).getD false))) ||
    (flow && (c = '?' || dividers.contains c))

/-- The number of characters of the chunk that comes first. -/
def chunk (flow : Bool) : List Char → Nat
  | [] => 0
  | c :: cs => if endsChunk flow c cs then 0 else chunk flow cs + 1

/-- What lies between two chunks: its number of characters, the text that it counts as, whether a
line ended in it, and whether the scalar ends with it whatever comes next. -/
structure Gap where
  count : Nat
  text : List Char
  broken : Bool
  last : Bool
deriving Repr

/-- Empty lines and the spaces ahead of a line: their number of characters, their line ends, and
whether they stop at a marker. The flag says that a line begins here. -/
def emptyLines : Bool → List Char → Nat × List Char × Bool
  | _, [] => (0, [], false)
  | lineStart, c :: cs =>
    if lineStart && atMarker (c :: cs) then (0, [], true)
    else if c = ' ' then
      let (n, breaks, marker) := emptyLines false cs
      (n + 1, breaks, marker)
    else if isBreak c then
      let (n, breaks, marker) := emptyLines true cs
      (n + 1, breakChar c :: breaks, marker)
    else (0, [], false)

/-- The gap at the head of a text. -/
def gap (cs : List Char) : Gap :=
  let spaces := cs.takeWhile (· = ' ')
  match cs.drop spaces.length with
  | [] => ⟨spaces.length, spaces, false, spaces.isEmpty⟩
  | c :: rest =>
    if isBreak c then
      let (n, breaks, marker) := emptyLines true rest
      ⟨spaces.length + 1 + n, foldLines (breakChar c) breaks, true, marker⟩
    else ⟨spaces.length, spaces, false, spaces.isEmpty⟩

/-- Reads a plain scalar, lines of which must have at least `indent` columns ahead of them unless
there are brackets around it. Gives the text, whether a line ended after the last chunk, and the
place after it. The gap is the one ahead of the next chunk. -/
def read (flow : Bool) (indent : Int) (ahead : Gap) (cursor : Cursor) : List Char × Bool × Cursor :=
  let n := if cursor.rest.head? = some '#' then 0 else chunk flow cursor.rest
  if _h : 0 < n ∧ cursor.rest ≠ [] then
    let text := ahead.text ++ cursor.rest.take n
    let after := cursor.skip n
    let gap := gap after.rest
    let next := after.skip gap.count
    if gap.last || (!flow && next.column < indent) then (text, gap.broken, next)
    else
      let (more, broken, last) := read flow indent gap next
      (text ++ more, broken, last)
  else ([], ahead.broken, cursor)
termination_by cursor.rest.length
decreasing_by
  exact Nat.lt_of_le_of_lt (Cursor.length_rest_skip_le _ _)
    (Cursor.length_rest_skip_lt _h.1 _h.2)

/-- Reads the plain scalar that begins here. -/
def scan (flow : Bool) (indent : Int) (cursor : Cursor) : List Char × Bool × Cursor :=
  read flow indent ⟨0, [], false, false⟩ cursor

end Faceted.Yaml.Plain
