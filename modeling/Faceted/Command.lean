import Faceted.Dialogue
import Faceted.Journal
import Faceted.Json
import Faceted.Listing
import Faceted.Service.Settings
import Faceted.Settings.File

/-!
# Commands

A command reads its filters, asks the service for one operation and prints what comes of it. It
either has all of its output printed or is aborted with nothing printed and a record that says why.
A service that was made for the command is closed after it, however it ended.
-/

namespace Faceted

/-- What a command does. -/
inductive Action where
  /-- Prints a page of the documents that are found. -/
  | search (page : Int)
  /-- Prints the values of a facet. -/
  | suggest (facet : String) (typed : Option String) (limit : Int)
  /-- Writes all documents that are found to a file. -/
  | save (path : Path)
  /-- Prints the body of a search. -/
  | compile (page : Int)
deriving Repr

namespace Action

/-- The name of a command. -/
def name : Action → String
  | .search _ => "search"
  | .suggest _ _ _ => "suggest"
  | .save _ => "export"
  | .compile _ => "compile"

/-- The name of a command at the head of a sentence. -/
def title : Action → String
  | .search _ => "Search"
  | .suggest _ _ _ => "Suggest"
  | .save _ => "Export"
  | .compile _ => "Compile"

/-- The operation that a command asks for. -/
def operation (context : SearchContext) : Action → Service.Operation
  | .search page => .search context page
  | .suggest facet typed limit => .suggest context facet typed limit
  | .save path => .save context path
  | .compile page => .body context page

/-- The number of documents ahead of the page that a command shows. -/
def offset (pageSize : Int) : Action → Int
  | .search page => (page - 1) * pageSize
  | _ => 0

end Action

/-- A command: what it does, the file with its filters, and the label of its sort option. -/
structure Command where
  action : Action
  filters : Option Path
  sort : Option String
deriving Repr

/-- What a command works with: the journal, the clock, the reader of dates, the files, what the console
has shown of the journal, and what has been printed. -/
structure Workplace where
  journal : Journal
  now : Moment
  dates : DateReader
  tree : FileTree
  shown : String
  printed : String

/-- Writes records to the journal. -/
def Workplace.log (place : Workplace) (records : List LogRecord) : Workplace :=
  let (shown, tree) := place.journal.writeAll place.now place.tree records
  { place with tree := tree, shown := place.shown ++ shown }

/-- Prints a text, if there is one. -/
def Workplace.print (place : Workplace) : Except Fault String → Workplace
  | .ok text => { place with printed := place.printed ++ text }
  | .error _ => place

/-- The answer of a backend, and the records that it made of the call. -/
structure BackendReply where
  answer : Except Fault BackendAnswer
  records : List LogRecord
deriving Repr

/-- A computation that calls the backend. -/
abbrev BackendDialogue := Dialogue BackendCall BackendReply

namespace Command

/-- The filters and the sort option of a command. The label of a sort option may be left empty. -/
def context (command : Command) (settings : Settings) (dates : DateReader) (tree : FileTree) :
    Except Fault SearchContext := do
  let filters ← match command.filters with
    | some path => FilterState.ofFile dates settings.facets.registry tree path
    | none => pure []
  let sort ← match command.sort with
    | some label => if label.isEmpty then pure none else (settings.facets.sort label).map some
    | none => pure none
  pure ⟨filters, sort, some settings.backend.index⟩

/-- The text that is printed for the outcome of an operation. -/
def output (command : Command) (pageSize : Int) : Service.Outcome → Except Fault String
  | .page page => Listing.pageWritten page [] (command.action.offset pageSize)
  | .suggestions suggestions => Listing.suggestionsWritten suggestions
  | .body body => Json.document body
  | .saved _ _ => .ok ""
  | .closed => .ok ""

/-- Carries an operation of the service out: its outcome, the service, and the workplace. -/
def carryOut (service : Service) (operation : Service.Operation) (place : Workplace) :
    BackendDialogue (Except Fault Service.Outcome × Service × Workplace) :=
  match service.issue operation with
  | (.refused fault, service, records) => .done (.error fault, service, place.log records)
  | (.answered outcome, service, records) => .done (.ok outcome, service, place.log records)
  | (.sent call pending, service, records) => .ask call fun reply =>
    let place := (place.log records).log reply.records
    let (result, tree, records) := service.complete place.tree pending reply.answer
    .done (result, service, { place with tree := tree }.log records)

/-- Runs a command with a service: the text that is printed when everything else is done, the service, and
the workplace. -/
def perform (command : Command) (settings : Settings) (service : Service) (place : Workplace) :
    BackendDialogue (Except Fault String × Service × Workplace) :=
  match command.context settings place.dates place.tree with
  | .error fault => .done (.error fault, service, place)
  | .ok context =>
    (carryOut service (command.action.operation context) place).map fun (result, service, place) =>
      let text := result.bind (command.output service.pageSize)
      (text, service, place.print text)

/-- The workplace after a command, with a record of the fault that it failed for. -/
def report (command : Command) (result : Except Fault String) (place : Workplace) : Workplace :=
  match result with
  | .ok _ => place
  | .error fault => place.log
      (LogRecord.filled .error "%s failed: %s" [.str command.action.title, .str fault.message])

/-- Runs a command: the text that is printed, none if the command is aborted, and the workplace. A
`prebuilt` service is used as it is; else one is made, and closed in the end. -/
def run (command : Command) (settings : Settings) (prebuilt : Option Service) (place : Workplace) :
    BackendDialogue (Option String × Workplace) :=
  (command.perform settings (prebuilt.getD settings.service) place).bind
    fun (result, service, place) =>
      let place := command.report result place
      match prebuilt with
      | some _ => .done (result.toOption, place)
      | none => (carryOut service .close place).map fun (_, _, place) => (result.toOption, place)

end Command

end Faceted
