import Faceted.Query.Request
import Faceted.Query.Suggestion
import Faceted.Page
import Faceted.FileTree
import Faceted.Backend

/-!
# The search service

The operations of the service, each in two steps: it is *issued*, which checks it, builds its body
and says which call of the backend it needs; and it is *completed* with what the backend answered.
Between the two steps anything may happen, other operations included.

Searches are numbered when they are issued. A search that is completed when a newer one has been
issued gives a stale page. An operation that is refused makes no call and takes no number.
-/

namespace Faceted

open Faceted.Number

/-- The search service: what it compiles filters with, the index for suggestions, the number of
documents on a page, and the number of the last search. -/
structure Service where
  compiler : Compiler
  index : String
  pageSize : Int
  generation : Nat
deriving Repr

namespace Service

/-- What the service can be asked for. -/
inductive Operation where
  /-- The body of a search for a page, without sending it. -/
  | body (context : SearchContext) (page : Int)
  /-- A page of the documents that are found. -/
  | search (context : SearchContext) (page : Int)
  /-- The values of a facet, with some typed text. -/
  | suggest (context : SearchContext) (facet : String) (typed : Option String) (limit : Int)
  /-- A file with all documents that are found. -/
  | save (context : SearchContext) (path : Path)
  /-- The end of the service. -/
  | close
deriving Repr

/-- What an operation keeps in mind while its call is in flight. -/
inductive Pending where
  | search (page : Int) (number : Nat)
  | suggest (facet : String) (spec : FieldSpec) (typed : Option String)
  | save (path : Path)
  | close
deriving Repr

/-- What an operation gives. -/
inductive Outcome where
  | body (body : Value)
  | page (page : SearchPage)
  | suggestions (suggestions : List TermSuggestion)
  | saved (path : Path) (content : List UInt8)
  | closed
deriving Repr

/-- What issuing an operation comes to. -/
inductive Issued where
  | refused (fault : Fault)
  | answered (outcome : Outcome)
  | sent (call : BackendCall) (pending : Pending)
deriving Repr

/-! ## Issuing -/

/-- The body of a search for a page. Pages count from one. -/
def pageBody (service : Service) (context : SearchContext) (page : Int) : Except Fault Value :=
  if page < 1 then .error .pageTooSmall
  else context.searchBody service.compiler ((page - 1) * service.pageSize) service.pageSize

/-- The records of building the body of a search. -/
def pageRecords (service : Service) (context : SearchContext) (page : Int) : List LogRecord :=
  if page < 1 then [] else service.compiler.records context.filters none

/-- The facet of suggestions. -/
def suggestFacet (service : Service) (facet : String) (limit : Int) : Except Fault FieldSpec := do
  let spec ← service.compiler.registry.require facet
  if spec.kind ≠ .terms then .error (.notTermsFacet facet)
  else if limit ≤ 0 then .error .limitTooSmall
  else pure spec

/-- The index that suggestions come from: that of the context, unless it is empty. -/
def suggestIndex (service : Service) (context : SearchContext) : String :=
  match context.index with
  | some index => if index.isEmpty then service.index else index
  | none => service.index

/-- Issues an operation: what comes of it, the service after it, and the log records. -/
def issue (service : Service) : Operation → Issued × Service × List LogRecord
  | .body context page =>
    match service.pageBody context page with
    | .ok body => (.answered (.body body), service, service.pageRecords context page)
    | .error fault => (.refused fault, service, service.pageRecords context page)
  | .search context page =>
    match service.pageBody context page with
    | .ok body =>
      let next := { service with generation := service.generation + 1 }
      (.sent (.search body) (.search page next.generation), next, service.pageRecords context page)
    | .error fault => (.refused fault, service, service.pageRecords context page)
  | .suggest context facet typed limit =>
    match service.suggestFacet facet limit with
    | .error fault => (.refused fault, service, [])
    | .ok spec =>
      let records := Suggestion.bodyRecords service.compiler context.filters spec typed limit
      match Suggestion.body service.compiler context.filters spec typed limit with
      | .ok body =>
        (.sent (.proxySearch (service.suggestIndex context) body) (.suggest facet spec typed),
          service, records)
      | .error fault => (.refused fault, service, records)
  | .save context path =>
    let records := service.compiler.records context.filters none
    match context.exportBody service.compiler with
    | .ok body => (.sent (.download path.name body) (.save path), service, records)
    | .error fault => (.refused fault, service, records)
  | .close => (.sent .close .close, service, [])

/-! ## Completing -/

/-- The records of a search that is complete. -/
def searchRecords (service : Service) (page : Int) (number : Nat) (result : SearchPage) :
    List LogRecord :=
  let superseded := if result.stale then
      LogRecord.filled .debug "Search superseded: generation=%d latest=%d"
        [.int number, .int service.generation]
    else []
  superseded ++ LogRecord.filled .info "Search completed: total=%d hits=%d page=%d"
    [.int result.total, .int result.hits.length, .int page]

/-- A page that has been read, with the mark of staleness: it is fresh if the number of its search is
that of the last one. -/
def marked (service : Service) (number : Nat) (result : SearchPage) : SearchPage :=
  { result with stale := number != service.generation }

/-- The page of a search, with the mark of staleness. -/
def completeSearch (service : Service) (page : Int) (number : Nat) (payload : Value) :
    Except Fault SearchPage × List LogRecord :=
  match SearchPage.read payload with
  | .ok result =>
    let result := service.marked number result
    (.ok result, service.searchRecords page number result)
  | .error fault => (.error fault, [])

/-- The suggestions of a response. -/
def completeSuggest (facet : String) (spec : FieldSpec) (typed : Option String) (payload : Value) :
    Except Fault (List TermSuggestion) × List LogRecord :=
  match Suggestion.read payload spec with
  | .ok suggestions =>
    (.ok suggestions, LogRecord.filled .info "Suggestions: facet=%s typed=%r count=%d"
      [.str facet, .ofOption typed, .int suggestions.length])
  | .error fault => (.error fault, [])

/-- Writes an export, making the directories that are missing. A directory that has been made stays
when the file cannot be written. -/
def completeSave (tree : FileTree) (path : Path) (content : List UInt8) :
    Except Fault Unit × FileTree × List LogRecord :=
  match tree.withDirs path (·.write path content) with
  | (made, .error fault) => (.error (.file fault), made, [])
  | (written, .ok ()) =>
    (.ok (), written, LogRecord.filled .info "CSV saved to %s (%d bytes)" [.str path.text, .int content.length])

/-- Completes an operation with the answer of the backend: its result, the files after it, and the
log records. A failure of closing is a warning only. -/
def complete (service : Service) (tree : FileTree) (pending : Pending)
    (answer : Except Fault BackendAnswer) : Except Fault Outcome × FileTree × List LogRecord :=
  match pending, answer with
  | .close, .ok _ => (.ok .closed, tree, [])
  | .close, .error fault =>
    (.ok .closed, tree, LogRecord.filled .warning "Search backend close failed: %s" [.str fault.message])
  | _, .error fault => (.error fault, tree, [])
  | .search page number, .ok answer =>
    let (result, records) := service.completeSearch page number answer.payload
    (result.map .page, tree, records)
  | .suggest facet spec typed, .ok answer =>
    let (result, records) := completeSuggest facet spec typed answer.payload
    (result.map .suggestions, tree, records)
  | .save path, .ok answer =>
    let (result, written, records) := completeSave tree path answer.content
    (result.map fun _ => .saved path answer.content, written, records)

end Service

end Faceted
