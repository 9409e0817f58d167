import Faceted.FileTree
import Faceted.Severity
import Faceted.Text.Case

/-!
# The journal

Where log records go. Setting up the journal closes the handlers that were there before and puts others
in their place: one for the console, with a least severity of its own, and one for a log file when there
is to be one, which takes everything from debugging records up. A record goes to each handler at most
once, as one line with the time and four letters of its severity. Before any setup the console shows what
matters most.
-/

namespace Faceted

open Faceted.Text Faceted.Number

/-- A place that records are written to, with the least number of a severity that it takes. -/
inductive LogHandler where
  | console (least : Int)
  | file (least : Int) (path : Path)
deriving DecidableEq, Repr

/-- The least number of a severity that a handler takes. -/
def LogHandler.least : LogHandler → Int
  | .console n => n
  | .file n _ => n

/-- The least number of a severity that is looked at, zero for none of its own, the handlers, whether
records are handed on to whoever listens above, and the handlers that have been closed. -/
structure Journal where
  least : Int
  handlers : List LogHandler
  handsOn : Bool
  closed : List LogHandler
deriving DecidableEq, Repr

namespace Journal

/-- A journal that has not been set up. -/
def unset : Journal := ⟨0, [], true, []⟩

/-- One more handler. -/
def add (journal : Journal) (handler : LogHandler) : Journal :=
  { journal with handlers := journal.handlers ++ [handler] }

/-- Takes a handler out of the journal and closes it. -/
def dismiss (journal : Journal) (handler : LogHandler) : Journal :=
  { journal with handlers := journal.handlers.erase handler, closed := journal.closed ++ [handler] }

/-- Takes all handlers out of the journal and closes them, one after the other. -/
def dismissAll (journal : Journal) : Journal := journal.handlers.foldl dismiss journal

/-- The numbers of severities by name. -/
def levelNumbers : List (String × Int) :=
  [("CRITICAL", 50), ("FATAL", 50), ("ERROR", 40), ("WARN", 30), ("WARNING", 30), ("INFO", 20),
    ("DEBUG", 10), ("NOTSET", 0)]

/-- The number of a severity by name, in any case; that of information for any other text. -/
def levelNumber (level : String) : Int :=
  let name := uppercase (if level.isEmpty then "INFO" else level)
  (levelNumbers.lookup name).getD Severity.info.number

/-- How a journal is to be set up. -/
structure Setup where
  level : String
  action : Option String
  toFile : Bool
  dir : String
deriving Repr

/-- The log file of a setup, if there is to be one. -/
def Setup.path? (setup : Setup) (now : Moment) : Option Path :=
  match setup.action with
  | some action =>
    if setup.toFile && !action.isEmpty then
      some ((Path.ofString (if setup.dir.isEmpty then "log" else setup.dir)).logFile action now)
    else none
  | none => none

/-- The handler for the console of a setup. -/
def Setup.console (setup : Setup) : LogHandler := .console (levelNumber setup.level)

/-- Sets up a journal in place of the one before: the log file is made, with the directories that are
missing, and everything from debugging records up is looked at then. When it cannot be made, only the
handlers have been replaced. -/
def Setup.run (setup : Setup) (now : Moment) (journal : Journal) (tree : FileTree) :
    Journal × FileTree × Except Fault Unit :=
  let fresh := journal.dismissAll.add setup.console
  match setup.path? now with
  | none => ({ fresh with least := levelNumber setup.level, handsOn := false }, tree, .ok ())
  | some path =>
    match tree.withDirs path (·.append path []) with
    | (tree, .ok ()) =>
      let debug := Severity.debug.number
      ({ fresh.add (.file debug path) with least := debug, handsOn := false }, tree, .ok ())
    | (tree, .error fault) => (fresh, tree, .error (.file fault))

/-! ## Writing -/

/-- The name of a severity by number. -/
def numberName (n : Int) : String :=
  if n = 50 then "CRITICAL"
  else if n = 40 then "ERROR"
  else if n = 30 then "WARNING"
  else if n = 20 then "INFO"
  else if n = 10 then "DEBUG"
  else if n = 0 then "NOTSET"
  else "Level " ++ intString n

/-- Four letters for a severity by number. -/
def shortName (n : Int) : List Char :=
  if n = 10 then "DEBG".toList
  else if n = 50 then "ERRO".toList
  else (numberName n).toList.take 4

/-- The line of a record. -/
def line (now : Moment) (number : Int) (message : String) : String :=
  String.ofList (now.logText ++ " [".toList ++ shortName number ++ "] ".toList) ++ message ++ "\n"

/-- A record is looked at. Without a least severity of its own a journal looks at warnings. -/
def takes (journal : Journal) (number : Int) : Bool :=
  decide ((if journal.least = 0 then Severity.warning.number else journal.least) ≤ number)

/-- Writes a line to one handler: what the console shows, and the files after it. A file that is
gone takes nothing. -/
def writeTo (number : Int) (text : String) (state : String × FileTree) :
    LogHandler → String × FileTree
  | .console least => if least ≤ number then (state.1 ++ text, state.2) else state
  | .file least path =>
    if least ≤ number then
      match state.2.append path text.toUTF8.toList with
      | .ok tree => (state.1, tree)
      | .error _ => state
    else state

/-- Writes a record: what the console shows, and the files after it. Without any handler the console
shows the message of a warning or worse. -/
def write (journal : Journal) (now : Moment) (tree : FileTree) (number : Int) (message : String) :
    String × FileTree :=
  if !journal.takes number then ("", tree)
  else if journal.handlers.isEmpty then
    (if Severity.warning.number ≤ number then message ++ "\n" else "", tree)
  else journal.handlers.foldl (writeTo number (line now number message)) ("", tree)

/-- Writes records one after the other. -/
def writeAll (journal : Journal) (now : Moment) (tree : FileTree) :
    List LogRecord → String × FileTree
  | [] => ("", tree)
  | r :: rs =>
    let (shown, tree) := journal.write now tree r.severity.number r.message
    let (more, tree) := writeAll journal now tree rs
    (shown ++ more, tree)

end Journal

end Faceted
