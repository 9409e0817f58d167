import Std.Time.Format
import Faceted.DateText
import Faceted.Program

/-!
# The program at a terminal

Runs the program with the words of the command line, the clock, and the files that the words name.
There is no way to the search proxy from here, so that a command which needs it is aborted; bodies
can be compiled without it. No file `.env` is looked at.
-/

namespace Faceted.Terminal

open Faceted.Text

/-- The names that a word of the command line may give to a file. -/
def fileNames (word : String) : List String :=
  word :: (Usage.splitOption word).2.toList

/-- Adds what is at a path of the disk to a tree. -/
def look (tree : FileTree) (path : Path) : IO FileTree := do
  match ← (IO.FS.readBinFile path.text).toBaseIO with
  | .ok bytes =>
    pure (tree.withDirs path (·.write path bytes.toList)).1
  | .error (.noFileOrDirectory ..) => pure tree
  | .error _ => pure (tree.makeDirs path).1

/-- The tree of the files that a command line names. -/
def files (words : List String) : IO FileTree :=
  (Settings.defaultPath :: (words.flatMap fileNames).map Path.ofString).foldlM look .empty

/-- The moment that a clock on the wall shows. -/
def moment : IO Moment := do
  let now ← Std.Time.PlainDateTime.now
  pure ⟨⟨now.year.toInt.toNat, now.month.val.toNat, now.day.val.toNat⟩, now.hour.val.toNat,
    now.minute.val.toNat, now.time.second.val.toNat, 0, none⟩

/-- The answer to whatever is asked of the search proxy. -/
def respond (known : Unit) (question : Option HttpPost) : Except Fault HttpResponse × Unit :=
  match question with
  | none => (.ok ⟨none, .ok .null, []⟩, known)
  | some post => (.error (.transport ("No connection to " ++ post.url)), known)

/-- Writes the files to the disk that are not in a tree as they are. -/
def save (old : FileTree) (new : FileTree) : IO Unit := do
  for (name, content) in new.files do
    let path := Path.ofString name
    if old.at? path ≠ some (.file content) then
      IO.FS.createDirAll path.parent.text
      IO.FS.writeBinFile name ⟨content.toArray⟩

/-- What a command line that is misused or asks for help is answered with. -/
def usage : String :=
  "Usage: facet-search [--config FILE] (search | suggest FACET | export OUTPUT | compile) [OPTION]\n"

/-- Runs the program and gives its exit code. -/
def run (words : List String) : IO UInt32 := do
  let environment ← IO.getEnv BackendSettings.apiPathVariable
  let tree ← files words
  let now ← moment
  let dates := DateText.reader now.date.year
  let (_, finished, _) := (Program.run environment now dates tree words).run respond ()
  save tree finished.tree
  IO.print finished.out
  IO.eprint finished.err
  match finished.ending with
  | .misuse => IO.eprint usage
  | .helped => IO.print usage
  | .failed fault => IO.eprint ("Error: " ++ fault.message ++ "\n")
  | _ => pure ()
  pure finished.ending.code.toUInt32

end Faceted.Terminal

/-- The program. -/
def main (words : List String) : IO UInt32 := Faceted.Terminal.run words
