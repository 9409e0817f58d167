import Faceted.Settings
import Faceted.Filter.Reading
import Faceted.FileTree
import Faceted.Text.Decoding
import Faceted.Value.Merge
import Faceted.Yaml

/-!
# Settings and filters in files

A file holds a mapping; an empty one holds the empty mapping. Settings may be spread over files, of
which a later one overrides an earlier one.
-/

namespace Faceted

/-- The mapping that a file holds. -/
def Mapping.ofFile (tree : FileTree) (path : Path) : Except Fault Mapping :=
  match tree.read path with
  | .error fault => .error (.file fault)
  | .ok bytes => match Text.decode bytes with
    | .error fault => .error (.undecodable fault)
    | .ok text => do
      match ← Yaml.read text with
      | .scalar .null => pure []
      | .map m => pure m
      | _ => .error (.rootNotMapping path.text)

namespace Settings

/-- The file that settings are read from when none is named. -/
def defaultPath : Path := .ofString "config/default.yml"

/-- The settings in files. -/
def ofFiles (environment : Option String) (tree : FileTree) (paths : List Path) :
    Except Fault Settings := do
  let layers ← (if paths.isEmpty then [defaultPath] else paths).mapM (Mapping.ofFile tree)
  ofMapping environment (← Mapping.mergeRead layers)

end Settings

/-- The filters in a file. -/
def FilterState.ofFile (dates : DateReader) (registry : Registry) (tree : FileTree) (path : Path) :
    Except Fault FilterState := do
  FilterState.read dates registry (← Mapping.ofFile tree path)

end Faceted
