/-!
# Nodes

The tree of a document before its scalars are read: texts, sequences and mappings, each with a tag
that says how it is to be read. A node may have a name, and the name stand in other places for it.
-/

namespace Faceted.Yaml

/-- How a node is to be read. -/
inductive Tag where
  | null
  | bool
  | int
  | float
  | string
  | binary
  | moment
  | sequence
  | mapping
  | set
  /-- A sequence of mappings with one entry each, read as pairs. -/
  | pairs
  /-- The key under which other mappings are merged in. -/
  | merge
  /-- The key of a value that stands for its whole mapping. -/
  | default
  /-- A tag that nobody knows. -/
  | unknown
deriving DecidableEq, Repr

namespace Tag

/-- What the tags of the format itself begin with. -/
def standard : String := "tag:yaml.org,2002:"

/-- The tags of the format itself, by name. -/
def names : List (String × Tag) :=
  [("null", .null), ("bool", .bool), ("int", .int), ("float", .float), ("str", .string),
    ("binary", .binary), ("timestamp", .moment), ("seq", .sequence), ("map", .mapping),
    ("set", .set), ("omap", .pairs), ("pairs", .pairs), ("merge", .merge), ("value", .default)]

/-- The tag with a name in full. -/
def ofName (name : String) : Tag :=
  ((names.find? fun n => standard ++ n.1 = name).map Prod.snd).getD .unknown

end Tag

/-- A node of a document. -/
inductive Node where
  | scalar (tag : Tag) (text : List Char)
  | sequence (tag : Tag) (items : List Node)
  | mapping (tag : Tag) (entries : List (Node × Node))
  /-- A node with a name. -/
  | named (name : String) (node : Node)
  /-- The node that has been given a name, which may be one around this place. -/
  | reference (name : String)
deriving Repr

namespace Node

/-- What stands where nothing is written. -/
def empty : Node := .scalar .null []

end Node

end Faceted.Yaml
