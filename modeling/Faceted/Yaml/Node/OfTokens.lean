import Faceted.Fault
import Faceted.Yaml.Token
import Faceted.Yaml.Resolution

/-!
# The node of a document

Reads the tokens of a document as its node. A name may be used from the node on that is given it, also
inside that node; a name that nothing has, and one that is given twice, are refused. The first fault
counts, of the tokens or of what they say.

## Termination

A function that reads a node, or what is inside brackets or a block, gives the tokens after it with a
proof that they are fewer.
-/

namespace Faceted.Yaml

/-- The names that have been given. -/
abbrev Names := List String

/-- The handles of tags and what they stand for. -/
abbrev Handles := List (String × String)

/-- The handles that need no directive. -/
def defaultHandles : Handles := [("!", "!"), ("!!", Tag.standard)]

/-- What was read, the names that have been given, and the tokens after it, which are fewer than
`n`. -/
structure Parsed (α : Type) (n : Nat) where
  result : α
  names : Names
  rest : List Token
  short : rest.length < n

/-- What was read from fewer tokens was read from more. -/
def Parsed.widen {α : Type} {n m : Nat} (p : Parsed α n) (h : n ≤ m) : Parsed α m :=
  ⟨p.result, p.names, p.rest, Nat.lt_of_lt_of_le p.short h⟩

/-- The result made into something else. -/
def Parsed.map {α β : Type} {n : Nat} (f : α → β) (p : Parsed α n) : Parsed β n :=
  ⟨f p.result, p.names, p.rest, p.short⟩

namespace Node

/-- The name and the tag ahead of a node, and the tokens after them. -/
structure Properties (n : Nat) where
  anchor : Option String
  tag : Option (Option String × String)
  /-- The tag comes after the name. -/
  lastIsTag : Bool
  rest : List Token
  short : rest.length + (if anchor.isSome || tag.isSome then 1 else 0) ≤ n

/-- Reads the name and the tag ahead of a node, in either order. -/
def properties : (ts : List Token) → Properties ts.length
  | .anchor name :: .tag handle suffix :: ts => ⟨some name, some (handle, suffix), true, ts, by simp⟩
  | .tag handle suffix :: .anchor name :: ts => ⟨some name, some (handle, suffix), false, ts, by simp⟩
  | .anchor name :: ts => ⟨some name, none, false, ts, by simp⟩
  | .tag handle suffix :: ts => ⟨none, some (handle, suffix), false, ts, by simp⟩
  | ts => ⟨none, none, false, ts, by simp⟩

/-- The tag that properties ask for; none if the node is to be read as what it looks like. -/
def Properties.tag? {n : Nat} (handles : Handles) (p : Properties n) :
    Except Fault (Option String) :=
  match p.tag with
  | none => .ok none
  | some (none, full) => .ok (if full = "!" then none else some full)
  | some (some handle, suffix) => match handles.lookup handle with
    | none => .error .malformedDocument
    | some full => .ok (if full ++ suffix = "!" then none else some (full ++ suffix))

/-- The tag of a scalar. A text without a tag is read as what it looks like if it is plain, or if the
properties say so by an empty tag. -/
def scalarTag (name : Option String) (plain : Bool) (text : List Char) : Tag :=
  match name with
  | some name => .ofName name
  | none => if plain then .ofPlain text else .string

/-- The tag of a sequence or mapping. -/
def collectionTag (name : Option String) (usual : Tag) : Tag :=
  match name with
  | some name => .ofName name
  | none => usual

/-- One more name, which nothing may have yet. -/
def give (anchor : Option String) (names : Names) : Except Fault Names :=
  match anchor with
  | none => .ok names
  | some name => if names.contains name then .error .malformedDocument else .ok (name :: names)

/-- A node with its name, if it has one. -/
def withName (anchor : Option String) (node : Node) : Node :=
  match anchor with
  | none => node
  | some name => .named name node

/-- The fault of tokens that are not what should come. -/
def refusal : List Token → Fault
  | .broken fault :: _ => fault
  | _ => .malformedDocument

/-- Tokens have to go on. -/
def goesOn : List Token → Except Fault Unit
  | .broken fault :: _ => .error fault
  | _ => .ok ()

/-- Where a node may stand: inside a block, and there where a sequence needs no indentation. -/
structure Context where
  block : Bool
  sequence : Bool

/-- Inside brackets. -/
def Context.flow : Context := ⟨false, false⟩

/-- An entry of a sequence in a block. -/
def Context.entry : Context := ⟨true, false⟩

/-- A key or value of a mapping in a block. -/
def Context.field : Context := ⟨true, true⟩

/-- The first token is one of these. -/
def startsWith (tokens : List Token) (ts : List Token) : Bool :=
  (ts.head?.map tokens.contains).getD false

mutual

/-- Reads a node. -/
def parse (handles : Handles) (context : Context) (names : Names) (ts : List Token) :
    Except Fault (Parsed Node ts.length) :=
  match ts with
  | .reference name :: rest =>
    if names.contains name then .ok ⟨.reference name, names, rest, by simp⟩
    else .error .malformedDocument
  | ts => do
    let p := properties ts
    if !p.lastIsTag then goesOn p.rest
    let tag ← p.tag? handles
    goesOn p.rest
    let names ← give p.anchor names
    if hp : p.anchor.isSome || p.tag.isSome then
      have shorter : p.rest.length < ts.length := by
        have := p.short
        simp only [hp, if_true] at this
        omega
      match ← parseContent handles context tag p.tag.isSome names p.rest with
      | some found =>
        pure ⟨withName p.anchor found.result, found.names, found.rest,
          Nat.lt_trans found.short shorter⟩
      | none =>
        pure ⟨withName p.anchor (.scalar (scalarTag tag true []) []), names, p.rest, shorter⟩
    else
      match ← parseContent handles context none false names ts with
      | some found => pure found
      | none => .error (refusal ts)
termination_by (ts.length, 2)

/-- Reads a node after its properties, if there is one. -/
def parseContent (handles : Handles) (context : Context) (tag : Option String) (tagged : Bool)
    (names : Names) (ts : List Token) : Except Fault (Option (Parsed Node ts.length)) :=
  match ts with
  | .scalar text plain :: rest =>
    .ok (some ⟨.scalar (scalarTag tag (plain || tagged) text) text, names, rest, by simp⟩)
  | .flowSequenceStart :: rest => do
    let items ← parseFlowSequence handles true names rest
    pure (some ((items.map (.sequence (collectionTag tag .sequence))).widen (by simp)))
  | .flowMappingStart :: rest => do
    let entries ← parseFlowMapping handles true names rest
    pure (some ((entries.map (.mapping (collectionTag tag .mapping))).widen (by simp)))
  | .blockSequenceStart :: rest =>
    if context.block then do
      let items ← parseBlockSequence handles names rest
      pure (some ((items.map (.sequence (collectionTag tag .sequence))).widen (by simp)))
    else .ok none
  | .blockMappingStart :: rest =>
    if context.block then do
      let entries ← parseBlockMapping handles names rest
      pure (some ((entries.map (.mapping (collectionTag tag .mapping))).widen (by simp)))
    else .ok none
  | .blockEntry :: rest =>
    if context.sequence then do
      let items ← parseEntries handles names rest
      pure (some ((items.map (.sequence (collectionTag tag .sequence))).widen (by simp)))
    else .ok none
  | .broken fault :: _ => .error fault
  | _ => .ok none
termination_by (ts.length, 1)

/-- Reads a node, or the empty one if what comes first is one of the tokens `ends`. -/
def parseOptional (handles : Handles) (context : Context) (ends : List Token) (names : Names)
    (ts : List Token) : Except Fault (Parsed Node (ts.length + 1)) :=
  if startsWith ends ts then .ok ⟨.empty, names, ts, by simp⟩
  else do
    let node ← parse handles context names ts
    pure (node.widen (by simp))
termination_by (ts.length, 3)

/-- Reads the value of an entry after its key, if there is one. -/
def parseValue (handles : Handles) (context : Context) (ends : List Token) (names : Names)
    (ts : List Token) : Except Fault (Parsed Node (ts.length + 1)) :=
  match ts with
  | .value :: rest => do
    let node ← parseOptional handles context ends names rest
    pure (node.widen (by simp))
  | .broken fault :: _ => .error fault
  | ts => .ok ⟨.empty, names, ts, by simp⟩
termination_by (ts.length, 0)

/-- Reads the entries of a block sequence, and its end. -/
def parseBlockSequence (handles : Handles) (names : Names) (ts : List Token) :
    Except Fault (Parsed (List Node) ts.length) :=
  match ts with
  | .blockEntry :: rest => do
    let item ← parseOptional handles .entry [.blockEntry, .blockEnd] names rest
    have := item.short
    let more ← parseBlockSequence handles item.names item.rest
    pure ((more.map (item.result :: ·)).widen (by simp only [List.length_cons]; omega))
  | .blockEnd :: rest => .ok ⟨[], names, rest, by simp⟩
  | ts => .error (refusal ts)
termination_by (ts.length, 0)

/-- Reads the entries of a sequence that is not indented, after the dash of the first one. -/
def parseEntries (handles : Handles) (names : Names) (ts : List Token) :
    Except Fault (Parsed (List Node) (ts.length + 1)) := do
  let item ← parseOptional handles .entry [.blockEntry, .key, .value, .blockEnd] names ts
  have short := item.short
  match h : item.rest with
  | .blockEntry :: rest =>
    have : rest.length < ts.length := by
      rw [h, List.length_cons] at short
      omega
    let more ← parseEntries handles item.names rest
    pure ((more.map (item.result :: ·)).widen (by omega))
  | .broken fault :: _ => throw fault
  | rest => pure ⟨[item.result], item.names, rest, by rw [← h]; exact short⟩
termination_by (ts.length, 4)

/-- Reads the entries of a block mapping, and its end. -/
def parseBlockMapping (handles : Handles) (names : Names) (ts : List Token) :
    Except Fault (Parsed (List (Node × Node)) ts.length) :=
  match ts with
  | .key :: rest => do
    let key ← parseOptional handles .field [.key, .value, .blockEnd] names rest
    have := key.short
    let value ← parseValue handles .field [.key, .value, .blockEnd] key.names key.rest
    have := value.short
    let more ← parseBlockMapping handles value.names value.rest
    pure ((more.map ((key.result, value.result) :: ·)).widen (by simp only [List.length_cons]; omega))
  | .blockEnd :: rest => .ok ⟨[], names, rest, by simp⟩
  | ts => .error (refusal ts)
termination_by (ts.length, 0)

/-- Reads the items of a sequence in brackets, and its end. A comma comes ahead of each item but the
first. An item may be an entry of a mapping with no other one. -/
def parseFlowSequence (handles : Handles) (first : Bool) (names : Names) (ts : List Token) :
    Except Fault (Parsed (List Node) ts.length) :=
  match ts with
  | .flowSequenceEnd :: rest => .ok ⟨[], names, rest, by simp⟩
  | .flowEntry :: .flowSequenceEnd :: rest =>
    if first then .error .malformedDocument else .ok ⟨[], names, rest, by simp only [List.length_cons]; omega⟩
  | .flowEntry :: rest =>
    if first then .error .malformedDocument
    else do
      let items ← parseFlowItem handles names rest
      pure (items.widen (by simp))
  | ts => if first then parseFlowItem handles names ts else .error (refusal ts)
termination_by (ts.length, 5)

/-- Reads an item of a sequence in brackets, and the items after it. -/
def parseFlowItem (handles : Handles) (names : Names) (ts : List Token) :
    Except Fault (Parsed (List Node) ts.length) :=
  match ts with
  | .key :: rest => do
    let key ← parseOptional handles .flow [.value, .flowEntry, .flowSequenceEnd] names rest
    have := key.short
    let value ← parseValue handles .flow [.flowEntry, .flowSequenceEnd] key.names key.rest
    have := value.short
    let more ← parseFlowSequence handles false value.names value.rest
    let node : Node := .mapping .mapping [(key.result, value.result)]
    pure ((more.map (node :: ·)).widen (by simp only [List.length_cons]; omega))
  | ts => do
    let item ← parse handles .flow names ts
    have := item.short
    let more ← parseFlowSequence handles false item.names item.rest
    pure ((more.map (item.result :: ·)).widen (by omega))
termination_by (ts.length, 4)

/-- Reads the entries of a mapping in brackets, and its end. A comma comes ahead of each entry but the
first. -/
def parseFlowMapping (handles : Handles) (first : Bool) (names : Names) (ts : List Token) :
    Except Fault (Parsed (List (Node × Node)) ts.length) :=
  match ts with
  | .flowMappingEnd :: rest => .ok ⟨[], names, rest, by simp⟩
  | .flowEntry :: .flowMappingEnd :: rest =>
    if first then .error .malformedDocument else .ok ⟨[], names, rest, by simp only [List.length_cons]; omega⟩
  | .flowEntry :: rest =>
    if first then .error .malformedDocument
    else do
      let entries ← parseFlowField handles names rest
      pure (entries.widen (by simp))
  | ts => if first then parseFlowField handles names ts else .error (refusal ts)
termination_by (ts.length, 5)

/-- Reads an entry of a mapping in brackets, and the entries after it. A node alone is a key. -/
def parseFlowField (handles : Handles) (names : Names) (ts : List Token) :
    Except Fault (Parsed (List (Node × Node)) ts.length) :=
  match ts with
  | .key :: rest => do
    let key ← parseOptional handles .flow [.value, .flowEntry, .flowMappingEnd] names rest
    have := key.short
    let value ← parseValue handles .flow [.flowEntry, .flowMappingEnd] key.names key.rest
    have := value.short
    let more ← parseFlowMapping handles false value.names value.rest
    pure ((more.map ((key.result, value.result) :: ·)).widen (by simp only [List.length_cons]; omega))
  | ts => do
    let key ← parse handles .flow names ts
    have := key.short
    let more ← parseFlowMapping handles false key.names key.rest
    pure ((more.map ((key.result, Node.empty) :: ·)).widen (by omega))
termination_by (ts.length, 4)

end

end Node

end Faceted.Yaml
