import Faceted.Yaml.Meaning
import Faceted.Yaml.Node.OfTokens
import Faceted.Yaml.Token.Lexer

/-!
# Documents

A document may have directives ahead of it and marks at its ends. A text holds one document at most;
a text without one means nothing, as an empty document does. Collections may be inside of each other to
a greatest depth.

## Termination

Reading directives and counting levels run over the tokens.
-/

namespace Faceted.Yaml

/-- The character may occur in a document. -/
def isAllowed (c : Char) : Bool :=
  let n := c.toNat
  n = 0x09 || n = 0x0A || n = 0x0D || (0x20 ≤ n && n ≤ 0x7E) || n = 0x85 ||
    (0xA0 ≤ n && n ≤ 0xD7FF) || (0xE000 ≤ n && n ≤ 0xFFFD) || 0x10000 ≤ n

/-- The most collections that may be inside of each other. -/
def mostLevels : Nat := 490

/-- The token begins a collection. -/
def Token.opens : Token → Bool
  | .blockSequenceStart | .blockMappingStart | .flowSequenceStart | .flowMappingStart => true
  | _ => false

/-- The token ends a collection. -/
def Token.closes : Token → Bool
  | .blockEnd | .flowSequenceEnd | .flowMappingEnd => true
  | _ => false

/-- The tokens up to the one that begins a collection too deep. `left` is the number of levels that may
still be begun. -/
def withinLevels : Nat → List Token → List Token
  | _, [] => []
  | left, t :: ts =>
    if t.opens then
      match left with
      | 0 => [.broken .endless]
      | left + 1 => t :: withinLevels left ts
    else t :: withinLevels (if t.closes then left + 1 else left) ts

/-- Reads the directives of a document: the handles that they declare, and the tokens after them.
The flag says that the version of the format has been given. -/
def directives (version : Bool) (handles : Handles) :
    List Token → Except Fault (Handles × List Token)
  | .directive (.version major _) :: ts =>
    if version || major ≠ 1 then .error .malformedDocument else directives true handles ts
  | .directive (.handle handle full) :: ts =>
    if (handles.lookup handle).isSome then .error .malformedDocument
    else directives version ((handle, full) :: handles) ts
  | .directive .unknown :: ts => directives version handles ts
  | ts => .ok (handles, ts)

/-- Nothing but marks of its end comes after a document. -/
def finish (ts : List Token) : Except Fault Unit :=
  match ts.dropWhile (· = .documentEnd) with
  | [] => .ok ()
  | ts => do
    let (_, rest) ← directives false [] ts
    .error (Node.refusal rest)

/-- Reads a node and the end of its document. -/
def onlyNode (handles : Handles) (ts : List Token) : Except Fault Node := do
  let node ← Node.parse handles .entry [] ts
  finish node.rest
  pure node.result

/-- Reads a document after the mark of its start. -/
def content (handles : Handles) (ts : List Token) : Except Fault Node :=
  match ts with
  | [] => .ok .empty
  | .directive _ :: _ | .documentStart :: _ | .documentEnd :: _ => do
    finish ts
    pure .empty
  | _ => onlyNode handles ts

/-- The node of the only document among tokens; the empty node if there is none. -/
def Node.ofTokens (ts : List Token) : Except Fault Node :=
  match ts with
  | [] => .ok .empty
  | .directive _ :: _ | .documentStart :: _ => do
    match ← directives false [] ts with
    | (handles, .documentStart :: rest) => content (handles ++ defaultHandles) rest
    | (_, rest) => .error (Node.refusal rest)
  | _ => onlyNode defaultHandles ts

/-- The value of a text. -/
def read (cs : List Char) : Except Fault Value := do
  if cs.all isAllowed then (← Node.ofTokens (withinLevels mostLevels (Token.scan cs))).value
  else .error .malformedDocument

end Faceted.Yaml
