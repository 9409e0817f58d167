/-!
# Places in a document

A cursor stands before the rest of a document and knows its line and column. The functions on the
rest ask what comes next: the end of a line, a blank, the marker between two documents.

A document holds no carriage returns: the line ends of a file are unified when it is read.

## Termination

A cursor moves by a number of characters; looking ahead runs over the rest.
-/

namespace Faceted.Yaml

/-! ## Looking ahead -/

/-- The character ends a line. -/
def isBreak (c : Char) : Bool :=
  c = '\n' || c = Char.ofNat 0x85 || c = Char.ofNat 0x2028 || c = Char.ofNat 0x2029

/-- The character is a space or a tab. -/
def isSpaceOrTab (c : Char) : Bool := c = ' ' || c = '\t'

/-- What a line end counts as in a scalar. -/
def breakChar (c : Char) : Char := if c = Char.ofNat 0x85 then '\n' else c

/-- A line ends here, or the document does. -/
def atLineEnd : List Char → Bool
  | [] => true
  | c :: _ => isBreak c

/-- A space comes here, or a line ends. -/
def atSpace : List Char → Bool
  | [] => true
  | c :: _ => c = ' ' || isBreak c

/-- A space or a tab comes here, or a line ends. -/
def atBlank : List Char → Bool
  | [] => true
  | c :: _ => isSpaceOrTab c || isBreak c

/-- A marker of three equal characters comes here, by itself. -/
def atMark (mark : Char) : List Char → Bool
  | a :: b :: c :: cs => a = mark && b = mark && c = mark && atBlank cs
  | _ => false

/-- The marker of the start or of the end of a document comes here. -/
def atMarker (cs : List Char) : Bool := atMark '-' cs || atMark '.' cs

/-- A letter of ASCII, a digit of ASCII, a dash or a low line. -/
def isNameChar (c : Char) : Bool := c.isAlphanum || c = '-' || c = '_'

/-! ## Line ends in scalars -/

/-- What a line end and the empty lines after it come to inside a scalar: one line end alone is a
space, more of them are one less. -/
def foldLines (first : Char) (more : List Char) : List Char :=
  if first ≠ '\n' then first :: more
  else if more.isEmpty then [' ']
  else more

/-! ## Cursors -/

/-- A place in a document: what comes, how many characters came before, and the line and column.
Lines and columns count from zero. -/
structure Cursor where
  rest : List Char
  index : Nat
  line : Nat
  column : Nat
deriving Repr

namespace Cursor

/-- The cursor before a document. -/
def start (cs : List Char) : Cursor := ⟨cs, 0, 0, 0⟩

/-- The place after a character, with what follows it. A byte order mark has no width. -/
def pass (cursor : Cursor) (c : Char) (rest : List Char) : Cursor :=
  if isBreak c then ⟨rest, cursor.index + 1, cursor.line + 1, 0⟩
  else if c = Char.ofNat 0xFEFF then ⟨rest, cursor.index + 1, cursor.line, cursor.column⟩
  else ⟨rest, cursor.index + 1, cursor.line, cursor.column + 1⟩

theorem rest_pass (cursor : Cursor) (c : Char) (rest : List Char) :
    (cursor.pass c rest).rest = rest := by
  unfold pass
  split
  · rfl
  · split <;> rfl

/-- The place `n` characters on, or the end of the document. -/
def skip : Nat → Cursor → Cursor
  | 0, cursor => cursor
  | n + 1, cursor => match cursor.rest with
    | [] => cursor
    | c :: cs => skip n (cursor.pass c cs)

/-- Skipping drops characters from the rest. -/
theorem rest_skip (n : Nat) (cursor : Cursor) : (cursor.skip n).rest = cursor.rest.drop n := by
  induction n generalizing cursor with
  | zero => simp [skip]
  | succ n ih =>
    cases h : cursor.rest with
    | nil => simp [skip, h]
    | cons c cs => simp [skip, h, ih, rest_pass]

/-- Skipping over some characters leaves fewer of them. -/
theorem length_rest_skip_lt {n : Nat} {cursor : Cursor} (hn : 0 < n) (hne : cursor.rest ≠ []) :
    (cursor.skip n).rest.length < cursor.rest.length := by
  have := List.length_pos_iff.2 hne
  rw [rest_skip, List.length_drop]
  omega

/-- Skipping never leaves more characters. -/
theorem length_rest_skip_le (n : Nat) (cursor : Cursor) :
    (cursor.skip n).rest.length ≤ cursor.rest.length := by
  rw [rest_skip, List.length_drop]
  omega

/-- The place where a rest begins, when that rest ends this one. -/
def skipTo (rest : List Char) (cursor : Cursor) : Cursor :=
  cursor.skip (cursor.rest.length - rest.length)

end Cursor

end Faceted.Yaml
