import Faceted.Path
import Faceted.Fault

/-!
# Trees of files

The files and directories below a working directory, and the few things that are done to them. A
place is the list of names that lead to it from the working directory; places above it start with
double points and always are directories. Names and paths have a greatest length.

The tree does not know the names of the working directory and of those above it. So the places that
absolute paths lead to, which start with a slash, are apart from all others, and a path that goes up
and comes back by these names leads to a place of its own.

## Termination

Walking goes through the names of a path; making directories recurses on the names from the last one
back.
-/

namespace Faceted

/-- A directory, or a file with what it holds. -/
inductive FileNode where
  | dir
  | file (content : List UInt8)
deriving DecidableEq, Repr

/-- The files and directories by place. -/
structure FileTree where
  nodes : List (List String × FileNode)
deriving Repr

namespace FileTree

open Faceted.Text

/-- A working directory with nothing in it. -/
def empty : FileTree := ⟨[]⟩

/-- What is at a place. -/
def node? (tree : FileTree) (place : List String) : Option FileNode :=
  if place.all (fun n => n = ".." || n = "/") then some .dir else tree.nodes.lookup place

/-- The place that a name leads to. An empty name and a single point lead nowhere else, and there is
nothing above the root. -/
def enter (place : List String) (name : String) : List String :=
  if name = "" || name = "." then place
  else if name = ".." then
    (if place.all (fun n => n = "..") then place ++ [".."]
    else if place = ["/"] then place
    else place.dropLast)
  else place ++ [name]

/-- The most bytes that a name may have. -/
def mostNameBytes : Nat := 255

/-- The most bytes that a path may have. -/
def mostPathBytes : Nat := 4095

/-- The place that names lead to, through directories that are there. -/
def walk (tree : FileTree) (place : List String) : List String → Except FileFault (List String)
  | [] => .ok place
  | name :: names =>
    match tree.node? place with
    | some .dir =>
      if mostNameBytes < name.utf8ByteSize then .error .tooLong else walk tree (enter place name) names
    | some (.file _) => .error .notDirectory
    | none => .error .missing

/-- A text can be looked up as a path. -/
def checkText (text : String) : Except FileFault Unit :=
  if text.toList.contains (Char.ofNat 0) then .error .unusable
  else if mostPathBytes < text.utf8ByteSize then .error .tooLong
  else .ok ()

/-- The place of a path. -/
def locate (tree : FileTree) (path : Path) : Except FileFault (List String) := do
  checkText path.text
  tree.walk (if path.root.isEmpty then [] else ["/"]) path.parts

/-- What a text names when it is looked up as it stands: whatever comes before a slash has to be a
directory, also at the end of the text. -/
def lookUp (tree : FileTree) (text : String) : Except FileFault FileNode := do
  checkText text
  if text.isEmpty then throw .missing
  let names := (splitOn '/' text.toList).map String.ofList
  let place ← tree.walk (if text.startsWith "/" then ["/"] else []) names
  match tree.node? place with
  | some node => pure node
  | none => throw .missing

/-- What a path names. -/
def at? (tree : FileTree) (path : Path) : Option FileNode :=
  match tree.locate path with
  | .ok place => tree.node? place
  | .error _ => none

/-- A directory is there. -/
def isDir (tree : FileTree) (path : Path) : Bool := tree.at? path = some .dir

/-- Puts something at a place. -/
def put (tree : FileTree) (place : List String) (node : FileNode) : FileTree :=
  if (tree.nodes.lookup place).isSome then
    ⟨tree.nodes.map fun n => if n.1 = place then (place, node) else n⟩
  else ⟨tree.nodes ++ [(place, node)]⟩

/-- Makes one directory, where nothing may be yet. -/
def makeDir (tree : FileTree) (path : Path) : Except FileFault FileTree := do
  let place ← tree.locate path
  match tree.node? place with
  | some _ => .error .exists
  | none => pure (tree.put place .dir)

/-- A directory that is there already is as good as one that is made. -/
def orPresent (tree : FileTree) (path : Path) (fault : FileFault) : Except FileFault Unit :=
  if tree.isDir path then .ok () else .error fault

/-- Makes a directory, given by its names from the last one back, and those above it that are
missing. What has been made stays when there is a fault after it. -/
def makeDirsBack (root : String) (tree : FileTree) : List String → FileTree × Except FileFault Unit
  | [] => (tree, .ok ())
  | name :: above =>
    let path : Path := ⟨root, (name :: above).reverse⟩
    match tree.makeDir path with
    | .ok made => (made, .ok ())
    | .error .missing =>
      match makeDirsBack root tree above with
      | (tree, .error fault) => (tree, .error fault)
      | (tree, .ok ()) => match tree.makeDir path with
        | .ok made => (made, .ok ())
        | .error .missing => (tree, .error .missing)
        | .error fault => (tree, tree.orPresent path fault)
    | .error fault => (tree, tree.orPresent path fault)

/-- Makes a directory and those above it that are missing. -/
def makeDirs (tree : FileTree) (path : Path) : FileTree × Except FileFault Unit :=
  makeDirsBack path.root tree path.parts.reverse

/-- Makes the directories above a path, and goes on with the tree that has them. -/
def withDirs (tree : FileTree) (path : Path) (next : FileTree → Except FileFault FileTree) :
    FileTree × Except FileFault Unit :=
  match tree.makeDirs path.parent with
  | (made, .error fault) => (made, .error fault)
  | (made, .ok ()) => match next made with
    | .ok tree => (tree, .ok ())
    | .error fault => (made, .error fault)

/-- Writes a file, in place of the one that is there. -/
def write (tree : FileTree) (path : Path) (content : List UInt8) : Except FileFault FileTree := do
  let place ← tree.locate path
  match tree.node? place with
  | some .dir => .error .isDirectory
  | _ => pure (tree.put place (.file content))

/-- What a file holds. -/
def read (tree : FileTree) (path : Path) : Except FileFault (List UInt8) := do
  match tree.node? (← tree.locate path) with
  | some .dir => .error .isDirectory
  | some (.file content) => pure content
  | none => .error .missing

/-- Writes at the end of a file, which is made if it is not there. -/
def append (tree : FileTree) (path : Path) (content : List UInt8) : Except FileFault FileTree := do
  let place ← tree.locate path
  match tree.node? place with
  | some .dir => .error .isDirectory
  | some (.file old) => pure (tree.put place (.file (old ++ content)))
  | none => pure (tree.put place (.file content))

/-- The files below the working directory, by path in the order of their characters. -/
def files (tree : FileTree) : List (String × List UInt8) :=
  let found := tree.nodes.filterMap fun n => match n.2 with
    | .file content => if n.1.head? = some ".." || n.1.head? = some "/" then none
      else some (Text.join "/" n.1, content)
    | .dir => none
  found.mergeSort fun a b => decide (a.1 ≤ b.1)

end FileTree

end Faceted
