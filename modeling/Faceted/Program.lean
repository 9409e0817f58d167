import Faceted.Backend.Http
import Faceted.Command.Usage

/-!
# The program

A run of the program: the words of its command line are read, the settings are read, the journal is
set up, and the command is run with the search proxy as its backend. What goes wrong before the
command begins ends the program with the fault itself; what goes wrong in the command aborts it.

The environment is that of the process with the variables of a file `.env` added to it, if there is such a
file. Reading that file, and what can go wrong then, is left to whoever runs the program, and so are the
texts of the help and of the answers to misuse.
-/

namespace Faceted

/-- What is asked of the search proxy: a post, or nothing more for the end of all calls. -/
abbrev HttpDialogue := Dialogue (Option HttpPost) (Except Fault HttpResponse)

/-- Carries the calls of a dialogue to the search proxy. -/
def HttpClient.carry {α : Type} (client : HttpClient) : BackendDialogue α → HttpDialogue α
  | .done result => .done result
  | .ask call next =>
    match client.post? call with
    | .error fault => client.carry (next ⟨.error fault, client.records call⟩)
    | .ok none => .ask none fun response =>
      client.carry (next ⟨response.map fun _ => ⟨.null, []⟩, client.records call⟩)
    | .ok (some post) => .ask (some post) fun response =>
      client.carry (next ⟨response.bind (client.accept call), client.records call⟩)

namespace Program

/-- How a run of the program ends. -/
inductive Ending where
  /-- The command line is misused. -/
  | misuse
  /-- The command line asks for help. -/
  | helped
  /-- Something went wrong before the command began. -/
  | failed (fault : Fault)
  /-- The command was aborted. -/
  | aborted
  /-- The command printed this. -/
  | printed (text : String)
deriving Repr

/-- The exit code of an ending. -/
def Ending.code : Ending → Nat
  | .misuse => 2
  | .helped => 0
  | .failed _ => 1
  | .aborted => 1
  | .printed _ => 0

/-- A run of the program that has ended: how, the files after it, and what it wrote to the standard
output and to the standard error. -/
structure Finished where
  ending : Ending
  tree : FileTree
  out : String
  err : String
deriving Repr

/-- A run that ends before a command begins. -/
def Finished.early (ending : Ending) (tree : FileTree) : Finished := ⟨ending, tree, "", ""⟩

/-- A run that ends with a command. -/
def Finished.ofCommand : Option String × Workplace → Finished
  | (some text, place) => ⟨.printed text, place.tree, place.printed, place.shown⟩
  | (none, place) => ⟨.aborted, place.tree, place.printed, place.shown ++ "Aborted!\n"⟩

/-- How the journal of a command is set up. -/
def journalSetup (settings : LogSettings) (command : Command) : Journal.Setup :=
  ⟨settings.level.name, some command.action.name, settings.toFile, settings.dir⟩

/-- Runs a command with settings. -/
def runCommand (settings : Settings) (command : Command) (now : Moment) (dates : DateReader)
    (tree : FileTree) : HttpDialogue Finished :=
  match (journalSetup settings.log command).run now .unset tree with
  | (_, tree, .error fault) => .done (.early (.failed fault) tree)
  | (journal, tree, .ok ()) =>
    settings.client.carry
      ((command.run settings none ⟨journal, now, dates, tree, "", ""⟩).map .ofCommand)

/-- The end of a run whose command line is refused. -/
def Ending.ofRefusal : Usage.Refusal → Ending
  | .misuse => .misuse
  | .help => .helped
  | .fault fault => .failed fault

/-- Runs the program with the words of its command line. -/
def run (environment : Option String) (now : Moment) (dates : DateReader) (tree : FileTree)
    (words : List String) : HttpDialogue Finished :=
  match Usage.line tree words with
  | .error refusal => .done (.early (.ofRefusal refusal) tree)
  | .ok line =>
    match Settings.ofFiles environment tree line.settings with
    | .error fault => .done (.early (.failed fault) tree)
    | .ok settings =>
      match Usage.command tree line.name line.rest with
      | .error refusal => .done (.early (.ofRefusal refusal) tree)
      | .ok command => runCommand settings command now dates tree

end Program

end Faceted
