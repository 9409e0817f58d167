import Faceted.Text.Blank
import Faceted.Calendar

/-!
# Paths

A path is a root, empty for a relative path, and the names between the slashes. Empty names and
single points are dropped; a double point stays, since what it means depends on the directories that
are there.
-/

namespace Faceted

open Faceted.Text

/-- The path of a file or directory. -/
structure Path where
  root : String
  parts : List String
deriving DecidableEq, Repr

namespace Path

/-- The root of a path by the number of slashes that it starts with. -/
def rootOf : Nat → String
  | 0 => ""
  | 2 => "//"
  | _ => "/"

/-- The path that a text names. -/
def ofString (s : String) : Path :=
  let cs := s.toList
  let names := (splitOn '/' cs).map String.ofList
  ⟨rootOf (cs.takeWhile (· == '/')).length, names.filter fun n => n != "" && n != "."⟩

/-- The text of a path. -/
def text (p : Path) : String :=
  if p.parts.isEmpty then (if p.root.isEmpty then "." else p.root)
  else p.root ++ join "/" p.parts

/-- The last name of a path, empty if there is none. -/
def name (p : Path) : String := p.parts.getLast?.getD ""

/-- The path of the directory that holds what the path names. -/
def parent (p : Path) : Path := ⟨p.root, p.parts.dropLast⟩

/-- A path inside a directory; an absolute path stays as it is. -/
def inside (dir p : Path) : Path := if p.root.isEmpty then ⟨dir.root, dir.parts ++ p.parts⟩ else p

/-- The log file of an action that began at a moment: in a directory of the action's name. -/
def logFile (dir : Path) (action : String) (now : Moment) : Path :=
  (dir.inside (ofString action)).inside
    (ofString (action ++ "_" ++ String.ofList now.stamp ++ ".log"))

end Path

end Faceted
