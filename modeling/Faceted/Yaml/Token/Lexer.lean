import Faceted.Yaml.Token.Name
import Faceted.Yaml.Token.Plain
import Faceted.Yaml.Token.Quoted
import Faceted.Yaml.Token.Block

/-!
# The tokens of a document

Cuts a document into tokens. Indentation opens and closes blocks. That something is the key of a
mapping is seen only at the colon after it, so the place of everything that may become a key is kept
until then; a key stands on one line and has at most 1024 characters. Where the document breaks off,
tokens that depend on what would have come are lost with it.

## Termination

Each round of `tokensFrom` leaves fewer characters than it found; a round that does not is refused.
-/

namespace Faceted.Yaml

/-- The place of something that may become the key of a mapping: inside how many brackets it stands,
how many tokens came before it, where it begins, and whether it has to become a key. -/
structure PendingKey where
  level : Nat
  position : Nat
  index : Nat
  line : Nat
  column : Nat
  required : Bool
deriving Repr

/-- The state of the lexer. -/
structure Lexer where
  cursor : Cursor
  /-- The tokens found, in reverse. -/
  found : List Token
  /-- The number of open brackets. -/
  level : Nat
  /-- The columns of the open blocks, the innermost first. -/
  blocks : List Nat
  /-- A key may begin here. -/
  keyAllowed : Bool
  pending : List PendingKey
deriving Repr

namespace Lexer

/-- The state before a document. A byte order mark at its start is passed over. -/
def start (cs : List Char) : Lexer :=
  let cursor := Cursor.start cs
  ⟨if cs.head? = some (Char.ofNat 0xFEFF) then cursor.skip 1 else cursor, [], 0, [], true, []⟩

/-- The column of the innermost block, `-1` outside all blocks. -/
def indent (lexer : Lexer) : Int := (lexer.blocks.head?.map Int.ofNat).getD (-1)

/-- Adds a token and moves to another place. -/
def pushAt (lexer : Lexer) (token : Token) (cursor : Cursor) : Lexer :=
  { lexer with found := token :: lexer.found, cursor := cursor }

/-- Puts a token in after the first `position` ones. -/
def insert (lexer : Lexer) (position : Nat) (token : Token) : Lexer :=
  let later := lexer.found.length - position
  { lexer with found := lexer.found.take later ++ token :: lexer.found.drop later }

/-! ## Blocks -/

/-- Closes the blocks that begin to the right of a column. Brackets keep all blocks open. -/
def closeBlocks (lexer : Lexer) (column : Int) : Lexer :=
  if lexer.level ≠ 0 then lexer
  else
    let closed := lexer.blocks.takeWhile fun (b : Nat) => decide (column < b)
    { lexer with
      found := closed.map (fun _ => Token.blockEnd) ++ lexer.found
      blocks := lexer.blocks.drop closed.length }

/-- Opens a block at a column if that is to the right of the innermost block: its mark is put in
after the first `position` tokens. -/
def openBlock (lexer : Lexer) (column position : Nat) (mark : Token) : Lexer :=
  if lexer.level = 0 && lexer.indent < column then
    { lexer.insert position mark with blocks := column :: lexer.blocks }
  else lexer

/-! ## Keys -/

/-- Gives up the keys that the test holds for, which is a fault if one of them is required. -/
def dropKeys (lexer : Lexer) (test : PendingKey → Bool) : Except Fault Lexer :=
  if lexer.pending.any fun k => test k && k.required then .error .malformedDocument
  else .ok { lexer with pending := lexer.pending.filter fun k => !test k }

/-- Gives up the key that is pending inside the same brackets. -/
def dropKey (lexer : Lexer) : Except Fault Lexer := lexer.dropKeys fun k => k.level == lexer.level

/-- The key is too far back for a colon that comes next. -/
def isStale (lexer : Lexer) (key : PendingKey) : Bool :=
  key.line != lexer.cursor.line || 1024 < lexer.cursor.index - key.index

/-- Gives up the keys that a colon would come too late for. -/
def dropStaleKeys (lexer : Lexer) : Except Fault Lexer := lexer.dropKeys lexer.isStale

/-- Keeps in mind that what begins here may become a key. At the column of the innermost block it
has to. -/
def saveKey (lexer : Lexer) : Except Fault Lexer :=
  if lexer.keyAllowed then do
    let lexer ← lexer.dropKey
    let cursor := lexer.cursor
    let key : PendingKey := ⟨lexer.level, lexer.found.length, cursor.index, cursor.line,
      cursor.column, lexer.level = 0 && lexer.indent = cursor.column⟩
    pure { lexer with pending := key :: lexer.pending }
  else .ok lexer

/-! ## Tokens -/

/-- The number of characters of spaces, line ends and comments ahead of the next token. -/
def spaceAhead : Bool → List Char → Nat
  | _, [] => 0
  | comment, c :: cs =>
    if isBreak c then spaceAhead false cs + 1
    else if comment || c = '#' then spaceAhead true cs + 1
    else if c = ' ' then spaceAhead false cs + 1
    else 0

/-- Goes on to the next token: keys that are too far back are given up, and blocks to the right of
it are closed. On a new line a key may begin. -/
def advance (lexer : Lexer) : Except Fault Lexer := do
  let n := spaceAhead false lexer.cursor.rest
  let broken := (lexer.cursor.rest.take n).any isBreak
  let lexer ← dropStaleKeys { lexer with
    cursor := lexer.cursor.skip n
    keyAllowed := lexer.keyAllowed || (lexer.level = 0 && broken) }
  pure (lexer.closeBlocks lexer.cursor.column)

/-- A mark between documents, or a directive, closes all blocks. -/
def betweenDocuments (lexer : Lexer) : Except Fault Lexer := do
  let lexer ← (lexer.closeBlocks (-1)).dropKey
  pure { lexer with keyAllowed := false }

/-- An opening bracket. -/
def openBracket (lexer : Lexer) (token : Token) : Except Fault Lexer := do
  let lexer ← lexer.saveKey
  pure { lexer.pushAt token (lexer.cursor.skip 1) with level := lexer.level + 1, keyAllowed := true }

/-- A closing bracket. -/
def closeBracket (lexer : Lexer) (token : Token) : Except Fault Lexer := do
  let lexer ← lexer.dropKey
  if lexer.level = 0 then .error .malformedDocument
  else
    pure { lexer.pushAt token (lexer.cursor.skip 1) with
      level := lexer.level - 1
      keyAllowed := false }

/-- A comma between brackets. -/
def comma (lexer : Lexer) : Except Fault Lexer := do
  let lexer ← lexer.dropKey
  pure { lexer.pushAt .flowEntry (lexer.cursor.skip 1) with keyAllowed := true }

/-- A dash, or a question mark, by itself: an entry of a sequence, or a key, that opens a block where
it is the first one. -/
def blockIndicator (lexer : Lexer) (mark token : Token) (keyAllowed : Bool) : Except Fault Lexer := do
  if lexer.level = 0 && !lexer.keyAllowed then .error .malformedDocument
  else
    let lexer ← (lexer.openBlock lexer.cursor.column lexer.found.length mark).dropKey
    pure { lexer.pushAt token (lexer.cursor.skip 1) with keyAllowed := keyAllowed }

/-- A colon. If there is a pending key, its token is put in where it began. -/
def colon (lexer : Lexer) : Except Fault Lexer :=
  match lexer.pending.find? fun k => k.level == lexer.level with
  | some key =>
    let lexer := { lexer with pending := lexer.pending.filter fun k => k.level != lexer.level }
    let lexer := (lexer.insert key.position .key).openBlock key.column key.position .blockMappingStart
    .ok { lexer.pushAt .value (lexer.cursor.skip 1) with keyAllowed := false }
  | none => lexer.blockIndicator .blockMappingStart .value (lexer.level = 0)

/-- A token that may become a key, after which no key may begin. -/
def keyToken (lexer : Lexer) (scan : Cursor → Except Fault (Token × Cursor)) : Except Fault Lexer := do
  let lexer ← lexer.saveKey
  let (token, cursor) ← scan lexer.cursor
  pure { lexer.pushAt token cursor with keyAllowed := false }

/-- A scalar in a block. -/
def blockScalar (lexer : Lexer) (folded : Bool) : Except Fault Lexer := do
  let lexer ← lexer.dropKey
  let (text, cursor) ← Block.scan folded lexer.indent lexer.cursor
  pure { lexer.pushAt (.scalar text false) cursor with keyAllowed := true }

/-- A plain scalar. -/
def plain (lexer : Lexer) : Except Fault Lexer := do
  let lexer ← lexer.saveKey
  let (text, broken, cursor) := Plain.scan (lexer.level != 0) (lexer.indent + 1) lexer.cursor
  pure { lexer.pushAt (.scalar text true) cursor with keyAllowed := broken }

/-- The characters that no plain scalar begins with. -/
def indicators : List Char :=
  ['-', '?', ':', ',', '[', ']', '\x7b', '\x7d', '#', '&', '*', '!', '|', '>', '\'', '"', '%', '@',
    Char.ofNat 0x60]

/-- A plain scalar begins with this character. A dash, a question mark and a colon may begin one if
no blank follows. -/
def beginsPlain (lexer : Lexer) (c : Char) (cs : List Char) : Bool :=
  !(isSpaceOrTab c || indicators.contains c) ||
    (!atBlank cs && (c = '-' || (lexer.level = 0 && (c = '?' || c = ':'))))

/-- The token that begins with this character. -/
def token (lexer : Lexer) (c : Char) (cs : List Char) : Except Fault Lexer :=
  let lineStart := lexer.cursor.column = 0
  let alone := lexer.level ≠ 0 || atBlank cs
  if lineStart && c = '%' then do
    let lexer ← lexer.betweenDocuments
    let (directive, cursor) ← scanDirective lexer.cursor
    pure (lexer.pushAt (.directive directive) cursor)
  else if lineStart && atMark '-' (c :: cs) then do
    let lexer ← lexer.betweenDocuments
    pure (lexer.pushAt .documentStart (lexer.cursor.skip 3))
  else if lineStart && atMark '.' (c :: cs) then do
    let lexer ← lexer.betweenDocuments
    pure (lexer.pushAt .documentEnd (lexer.cursor.skip 3))
  else if c = '[' then lexer.openBracket .flowSequenceStart
  else if c = '\x7b' then lexer.openBracket .flowMappingStart
  else if c = ']' then lexer.closeBracket .flowSequenceEnd
  else if c = '\x7d' then lexer.closeBracket .flowMappingEnd
  else if c = ',' then lexer.comma
  else if c = '-' && atBlank cs then lexer.blockIndicator .blockSequenceStart .blockEntry true
  else if c = '?' && alone then lexer.blockIndicator .blockMappingStart .key (lexer.level = 0)
  else if c = ':' && alone then lexer.colon
  else if c = '*' then lexer.keyToken fun cursor => do
    let (name, cursor) ← scanName cursor
    pure (.reference name, cursor)
  else if c = '&' then lexer.keyToken fun cursor => do
    let (name, cursor) ← scanName cursor
    pure (.anchor name, cursor)
  else if c = '!' then lexer.keyToken fun cursor => do
    let (handle, suffix, cursor) ← scanTag cursor
    pure (.tag handle suffix, cursor)
  else if c = '|' && lexer.level = 0 then lexer.blockScalar false
  else if c = '>' && lexer.level = 0 then lexer.blockScalar true
  else if c = '\'' || c = '"' then lexer.keyToken fun cursor => do
    let (text, cursor) ← Quoted.scan (c = '"') cursor
    pure (.scalar text false, cursor)
  else if lexer.beginsPlain c cs then lexer.plain
  else .error .malformedDocument

/-- Takes the next token; none at the end of the document. -/
def step (lexer : Lexer) : Except Fault (Option Lexer) := do
  let ahead ← lexer.advance
  match ahead.cursor.rest with
  | [] => pure none
  | c :: cs => (ahead.token c cs).map some

/-- The lexer at the end of a document, where all blocks are closed. -/
def finish (lexer : Lexer) : Except Fault Lexer := do ((← lexer.advance).closeBlocks (-1)).dropKey

/-- The number of tokens that are sure to come first: no key can be put in ahead of them any more. -/
def settled (lexer : Lexer) : Nat :=
  (lexer.pending.filter (!lexer.isStale ·)).foldl (fun n key => min n key.position) lexer.found.length

/-- The tokens that are settled, and a fault in the place of all others. -/
def broken (lexer : Lexer) (fault : Fault) : List Token :=
  lexer.found.reverse.take lexer.settled ++ [.broken fault]

/-- The tokens of the rest of a document. -/
def tokensFrom (lexer : Lexer) : List Token :=
  match lexer.step with
  | .error fault => lexer.broken fault
  | .ok none => match lexer.finish with
    | .error fault => lexer.broken fault
    | .ok last => last.found.reverse
  | .ok (some next) =>
    if _h : next.cursor.rest.length < lexer.cursor.rest.length then tokensFrom next
    else lexer.broken .malformedDocument
termination_by lexer.cursor.rest.length

end Lexer

/-- The tokens of a document. -/
def Token.scan (cs : List Char) : List Token := (Lexer.start cs).tokensFrom

end Faceted.Yaml
