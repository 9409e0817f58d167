import Faceted.Yaml.Node

/-!
# Documents as graphs

A document whose nodes are numbered. A name stands for the number of the node that has it, so that a
node may be a part of several others, and even of itself.

## Termination

Placing a node recurses on it.
-/

namespace Faceted.Yaml

/-- What a node consists of; the parts are given by their numbers. -/
inductive Form where
  | scalar (text : List Char)
  | sequence (items : List Nat)
  | mapping (entries : List (Nat × Nat))
deriving Repr

/-- A node and its tag. -/
structure Cell where
  tag : Tag
  form : Form
deriving Repr

instance : Inhabited Cell := ⟨⟨.null, .scalar []⟩⟩

/-- The nodes of a document by number, the numbers of those with a name, and the numbers in the order
in which the nodes ended, the last one first. -/
structure Graph where
  cells : Array Cell
  names : List (String × Nat)
  ended : List Nat
deriving Repr

namespace Graph

/-- The graph without nodes. -/
def empty : Graph := ⟨#[], [], []⟩

/-- The node with a number. -/
def cell (graph : Graph) (n : Nat) : Cell := graph.cells.getD n default

/-- The graph with another node in the place of one. -/
def setCell (n : Nat) (cell : Cell) (graph : Graph) : Graph :=
  { graph with cells := graph.cells.setIfInBounds n cell }

/-- The graph with one more node, which is still to be filled in, and the number of that node. -/
def reserve (name : Option String) (graph : Graph) : Nat × Graph :=
  let n := graph.cells.size
  let names := match name with
    | none => graph.names
    | some name => (name, n) :: graph.names
  (n, { graph with cells := graph.cells.push default, names })

/-- The graph in which a node has been filled in and has ended. -/
def finish (n : Nat) (cell : Cell) (graph : Graph) : Graph :=
  { graph.setCell n cell with ended := n :: graph.ended }

mutual

/-- Places a node and its parts, and gives its number. -/
def place (name : Option String) : Node → Graph → Nat × Graph
  | .scalar tag text, graph =>
    let (n, graph) := graph.reserve name
    (n, graph.finish n ⟨tag, .scalar text⟩)
  | .sequence tag items, graph =>
    let (n, graph) := graph.reserve name
    let (ns, graph) := placeAll items graph
    (n, graph.finish n ⟨tag, .sequence ns⟩)
  | .mapping tag entries, graph =>
    let (n, graph) := graph.reserve name
    let (es, graph) := placeEntries entries graph
    (n, graph.finish n ⟨tag, .mapping es⟩)
  | .named name node, graph => place (some name) node graph
  | .reference name, graph => ((graph.names.lookup name).getD 0, graph)

/-- Places nodes. -/
def placeAll : List Node → Graph → List Nat × Graph
  | [], graph => ([], graph)
  | node :: nodes, graph =>
    let (n, graph) := place none node graph
    let (ns, graph) := placeAll nodes graph
    (n :: ns, graph)

/-- Places the keys and values of entries. -/
def placeEntries : List (Node × Node) → Graph → List (Nat × Nat) × Graph
  | [], graph => ([], graph)
  | (key, value) :: entries, graph =>
    let (k, graph) := place none key graph
    let (v, graph) := place none value graph
    let (es, graph) := placeEntries entries graph
    ((k, v) :: es, graph)

end

/-- The number of entries in all mappings. -/
def entryCount (graph : Graph) : Nat :=
  (graph.cells.toList.flatMap fun cell => match cell.form with
    | .mapping entries => entries
    | _ => []).length

end Graph

namespace Node

mutual

/-- A name is used inside the node that has it. `around` are the names of the nodes around this one. -/
def isLooped (around : List String) : Node → Bool
  | .scalar _ _ => false
  | .sequence _ items => areLooped around items
  | .mapping _ entries => entriesLooped around entries
  | .named name node => isLooped (name :: around) node
  | .reference name => around.contains name

/-- One of the nodes is looped. -/
def areLooped (around : List String) : List Node → Bool
  | [] => false
  | node :: nodes => isLooped around node || areLooped around nodes

/-- A node of one of the entries is looped. -/
def entriesLooped (around : List String) : List (Node × Node) → Bool
  | [] => false
  | (key, value) :: entries =>
    isLooped around key || isLooped around value || entriesLooped around entries

end

end Node

end Faceted.Yaml
