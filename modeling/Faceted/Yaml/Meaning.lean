import Faceted.Yaml.Graph
import Faceted.Yaml.Scalar

/-!
# Values of documents

What the nodes of a document mean under their tags. The entries of a mapping whose key is tagged as a
merge stand for the entries of other mappings, which come ahead of its own, so that its own entries
win.

A document is read level by level: first its root, then what the root holds, then what is inside of
that. The first fault counts. A node is read once, however many names stand for it.

## Termination

Merging takes a merge out of the graph in each step, and reading a level takes a node that nobody has
read; both have the number of steps that this allows. The default of a mapping may be the mapping
itself, so looking for its text has as many steps as there are nodes.
-/

namespace Faceted.Yaml

/-! ## Nodes that have been read -/

/-- What a node means; the parts are given by their numbers. -/
inductive Content where
  | scalar (s : Scalar)
  | list (items : List Nat)
  | pairs (items : List (Nat × Nat))
  | map (entries : Entries Nat)
  | set (members : List Key)
deriving Repr

/-- A document that is being read: its graph, what its nodes have been found to mean, and the nodes
that have been met but not been gone into, the last one first. -/
structure Work where
  graph : Graph
  contents : Array (Option Content)
  waiting : List Nat
deriving Repr

/-- A step of reading a document. -/
abbrev Step (α : Type) := StateT Work (Except Fault) α

namespace Step

/-- A step that fails since the document is malformed. -/
def malformed {α : Type} : Step α := throw .malformedDocument

/-- The node with a number. -/
def cell (n : Nat) : Step Cell := return (← get).graph.cell n

/-- Puts another node in the place of one. -/
def setCell (n : Nat) (cell : Cell) : Step Unit :=
  modify fun work => { work with graph := work.graph.setCell n cell }

/-- What a node means, if it has been read. -/
def content? (n : Nat) : Step (Option Content) := return (← get).contents.getD n none

/-- Says what a node means. -/
def setContent (n : Nat) (content : Content) : Step Unit :=
  modify fun work => { work with contents := work.contents.setIfInBounds n (some content) }

/-! ## Scalars -/

/-- The text of a node that is read as a scalar: of a mapping it is that of its default. -/
def text : Nat → Nat → Step (List Char)
  | 0, _ => throw .endless
  | steps + 1, n => do
    match (← cell n).form with
    | .scalar text => pure text
    | .sequence _ => malformed
    | .mapping entries =>
      let graph := (← get).graph
      match entries.find? fun entry => (graph.cell entry.1).tag = .default with
      | some entry => text steps entry.2
      | none => malformed

/-- The scalar that a node means. -/
def readScalar (n : Nat) : Step Scalar := do
  let cell ← cell n
  match scalar? (n + 1) cell.tag with
  | none => malformed
  | some read =>
    let text ← text ((← get).graph.cells.size + 1) n
    match cell.tag, cell.form with
    | .moment, .mapping _ => throw .mappingNotMoment
    | _, _ => liftM (read text)

/-- Meets a node: a scalar is read at once, anything else has to wait. -/
def meet (n : Nat) : Step Unit := do
  if (← content? n).isSome then return
  let wait (content : Content) : Step Unit := do
    setContent n content
    modify fun work => { work with waiting := n :: work.waiting }
  match (← cell n).tag with
  | .sequence => wait (.list [])
  | .pairs => wait (.pairs [])
  | .mapping => wait (.map [])
  | .set => wait (.set [])
  | _ => setContent n (.scalar (← readScalar n))

/-! ## Merging -/

/-- The entries of a node that has to be a mapping. -/
def entries (n : Nat) : Step (List (Nat × Nat)) := do
  match (← cell n).form with
  | .mapping entries => pure entries
  | _ => malformed

/-- Gives a mapping other entries. -/
def setEntries (n : Nat) (entries : List (Nat × Nat)) : Step Unit := do
  setCell n { ← cell n with form := .mapping entries }

/-- Takes the first merge out of a mapping, and gives the node that is to be merged in. -/
def takeMerge (n : Nat) : Step (Option Nat) := do
  let all ← entries n
  let graph := (← get).graph
  let own := all.takeWhile fun entry => (graph.cell entry.1).tag ≠ .merge
  match all.drop own.length with
  | [] => pure none
  | merge :: rest =>
    setEntries n (own ++ rest)
    pure (some merge.2)

/-- The keys of a mapping that are tagged as its default become strings. -/
def nameDefaults (n : Nat) : Step Unit := do
  for entry in ← entries n do
    let key ← cell entry.1
    if key.tag = .default then setCell entry.1 { key with tag := .string }

/-- Puts what a mapping merges in ahead of its own entries. Those of the first mapping in a sequence
win. -/
def merge : Nat → Nat → Step Unit
  | 0, _ => throw .endless
  | steps + 1, n => do
    let merged (node : Nat) : Step (List (Nat × Nat)) := do
      let _ ← entries node
      merge steps node
      entries node
    match ← takeMerge n with
    | none => nameDefaults n
    | some node =>
      let found ← match (← cell node).form with
        | .sequence items => do pure (← items.mapM merged).reverse.flatten
        | _ => merged node
      merge steps n
      setEntries n (found ++ (← entries n))

/-! ## Levels -/

/-- The key that a node is, which has been met. -/
def key (n : Nat) : Step Key := do
  match ← content? n with
  | some (.scalar s) => pure (.scalar s)
  | _ => malformed

/-- Meets the keys and values of entries, and gives them in order, each key once. -/
def meetEntries (entries : List (Nat × Nat)) : Step (Entries Nat) :=
  entries.foldlM (fun found entry => do
    meet entry.1
    let key ← key entry.1
    meet entry.2
    pure (Entries.put key entry.2 found)) []

/-- Merges what a mapping has to merge in, and meets its keys and values. -/
def mapping (n : Nat) : Step (Entries Nat) := do
  let _ ← entries n
  merge ((← get).graph.entryCount + 1) n
  meetEntries (← entries n)

/-- The items of a node that has to be a sequence. -/
def items (n : Nat) : Step (List Nat) := do
  match (← cell n).form with
  | .sequence items => pure items
  | _ => malformed

/-- Meets the key and the value of a mapping with no other entry. -/
def pair (n : Nat) : Step (Nat × Nat) := do
  match ← entries n with
  | [entry] =>
    meet entry.1
    meet entry.2
    pure entry
  | _ => malformed

/-- Goes into a node that has been waiting. -/
def enter (n : Nat) : Step Unit := do
  match (← cell n).tag with
  | .sequence =>
    let items ← items n
    items.forM meet
    setContent n (.list items)
  | .pairs => setContent n (.pairs (← (← items n).mapM pair))
  | .set => setContent n (.set (Entries.keys (← mapping n)))
  | _ => setContent n (.map (← mapping n))

/-- Goes into what has been waiting, level by level. -/
def levels : Nat → Step Unit
  | 0 => pure ()
  | steps + 1 => do
    let level := (← get).waiting.reverse
    if level.isEmpty then pure ()
    else
      modify fun work => { work with waiting := [] }
      level.forM enter
      levels steps

/-- Reads the document whose root has a number. -/
def document (root : Nat) : Step Unit := do
  meet root
  levels ((← get).graph.cells.size + 1)

end Step

/-! ## Values -/

/-- The value of what a node means, given those of the parts. -/
def Content.value (values : Array Value) : Content → Value :=
  let part (n : Nat) : Value := values.getD n .endless
  fun
  | .scalar s => .scalar s
  | .list items => .list (items.map part)
  | .pairs items => .list (items.map fun item => .tuple [part item.1, part item.2])
  | .map entries => .map (entries.map fun entry => (entry.1, part entry.2))
  | .set members => .set members

/-- The levels that are written out of a document that holds itself. -/
def shownLevels : Nat := 16

/-- The values of nodes, in which the parts have the values that are given, or new ones if they come
earlier. -/
def valuesOf (contents : Array (Option Content)) (order : List Nat) (values : Array Value) :
    Array Value :=
  order.foldl (fun values n => match contents.getD n none with
    | some content => values.setIfInBounds n (content.value values)
    | none => values) values

/-- The value of a node with all that it holds. -/
def Node.value (node : Node) : Except Fault Value := do
  let (root, graph) := Graph.empty.place none node
  let size := graph.cells.size
  let (_, work) ← (Step.document root).run ⟨graph, Array.replicate size none, []⟩
  let pass := valuesOf work.contents graph.ended.reverse
  let passes := if node.isLooped [] then shownLevels else 1
  pure ((passes.repeat pass (Array.replicate size .endless)).getD root .endless)

end Faceted.Yaml
