import Faceted.Filter
import Faceted.Wildcard
import Faceted.Template

/-!
# Compiling filters into a query

Each filter becomes one clause. Terms become a choice between exact terms and patterns on the
untokenised sub-field, years become a range, free text becomes a query over the full-text fields.
Then the facet's extra clause is added, and around both goes the nested clause of a dotted field, so
that the extra clause is inside the nested scope too. The clauses of all filters hold together; no
clause at all matches every document, and a single one stands alone.

An override takes the place of the filters on its own facet.
-/

namespace Faceted

open Faceted.Text Faceted.Number

/-- What an entry selects, when its value fits its kind. -/
inductive Selection where
  | terms (values : List String)
  | dates (min max : Value)
  | text (query : String)
deriving Repr

/-- What an entry selects. A kind of another name is taken for free text. -/
def FilterEntry.selection? (entry : FilterEntry) : Option Selection :=
  match entry.kind, entry.value with
  | .terms, .tuple xs => (Value.strings? xs).map .terms
  | .terms, .list xs => (Value.strings? xs).map .terms
  | .dates, .years min max => some (.dates min max)
  | .query, .scalar (.str s) => some (.text s)
  | .other _, .scalar (.str s) => some (.text s)
  | _, _ => none

/-- What filters are compiled against. -/
structure Compiler where
  registry : Registry
  fulltextFields : List String
deriving Repr

namespace Compiler

/-- The fields of free text unless others are set. -/
def defaultFulltextFields : List String := ["ocr"]

/-- The format of the bounds of a range of years. -/
def yearFormat : String := "yyyy"

/-- A bound of a range, none for null. -/
def bound? : Value → Option Value
  | .scalar .null => none
  | v => some v

/-- The clause of one term: a pattern around a marked substring, or the exact term. -/
def termClause (field value : String) : Clause Value :=
  match Wildcard.decode? value with
  | some raw => .wildcard (rawField field) ("*" ++ raw ++ "*") true
  | none => .terms (rawField field) [value]

/-- The clause of a selection on a field; an empty list of terms selects nothing. -/
def baseClause (compiler : Compiler) (field : String) : Selection → Option (Clause Value)
  | .terms [] => none
  | .terms values => some (.bool [] (values.map (termClause field)))
  | .dates min max => some (.range field (bound? min) (bound? max) (some yearFormat))
  | .text query => some (.simpleQueryString query compiler.fulltextFields)

/-- A clause together with the extra clause of the facet. -/
def withExtra (extra : Option (Clause String)) (query : Clause Value) : Clause Value :=
  match extra with
  | some extra => .bool [query, extra.mapBounds .str] []
  | none => query

/-- A clause inside the nested object that the field lives in. -/
def inScope (field : String) (query : Clause Value) : Clause Value :=
  match nestedPath field with
  | some path => .nested path query
  | none => query

/-- The kind of an entry is that of its facet, and its value fits. -/
def select (field : String) (entry : FilterEntry) : Except Fault Selection :=
  if entry.kind ≠ entry.spec.kind then
    .error (.kindMismatch field entry.kind.name entry.spec.kind.name)
  else match entry.selection? with
    | some selection => .ok selection
    | none => do throw (.invalidValue field entry.kind.name (← entry.value.exactlyWritten))

/-- The clause of one entry on a field, none when the entry selects nothing. -/
def compileOne (compiler : Compiler) (field : String) (entry : FilterEntry) :
    Except Fault (Option (Clause Value)) := do
  let selection ← select field entry
  pure ((compiler.baseClause field selection).map fun base =>
    inScope field (withExtra entry.spec.extra base))

/-- The clauses of entries, each on the field of its own facet. -/
def compileEach (compiler : Compiler) : List FilterEntry → Except Fault (List (Clause Value))
  | [] => .ok []
  | entry :: entries => do
    let clause ← compiler.compileOne entry.spec.field entry
    let clauses ← compiler.compileEach entries
    pure (clause.toList ++ clauses)

/-- Clauses that have to hold together. -/
def conjunction : List (Clause Value) → Clause Value
  | [] => .matchAll
  | [clause] => clause
  | clauses => .bool clauses []

/-- The entries that count: those on other facets than the override's, then the override. -/
def effective (state : FilterState) : Option FilterEntry → List FilterEntry
  | none => FilterState.entries state
  | some override =>
    (FilterState.entries state).filter (fun e => e.spec ≠ override.spec) ++ [override]

/-- The clause of a filter state with an optional override. -/
def compile (compiler : Compiler) (state : FilterState) (override : Option FilterEntry) :
    Except Fault (Clause Value) :=
  (compiler.compileEach (effective state override)).map conjunction

/-! ## Log records -/

/-- The records of compiling one entry on a field: one if it selects nothing. -/
def recordsOne (compiler : Compiler) (field : String) (entry : FilterEntry) : List LogRecord :=
  match compiler.compileOne field entry with
  | .ok none => LogRecord.filled .debug "Skipping empty terms filter: field=%s" [.str field]
  | _ => []

/-- The records of compiling a filter state: one for each entry that selects nothing, up to the
first fault, and one at the end if there is no fault. -/
def records (compiler : Compiler) (state : FilterState) (override : Option FilterEntry) :
    List LogRecord :=
  let entries := effective state override
  let compiles (e : FilterEntry) : Bool := (compiler.compileOne e.spec.field e).isOk
  let skips := (entries.takeWhile compiles).flatMap fun e => compiler.recordsOne e.spec.field e
  match compiler.compileEach entries with
  | .ok clauses => skips ++ LogRecord.filled .debug "Compiled %d filter clause(s) from %d entries"
      [.int clauses.length, .int entries.length]
  | .error _ => skips

end Compiler

/-! ## Highlighting -/

/-- How the excerpts of a field are asked for. -/
def highlightOptions : Value :=
  .object [("number_of_fragments", .int 2), ("fragment_size", .int 50)]

/-- The request for excerpts from the fields of free-text filters. -/
def highlight (state : FilterState) : Value :=
  let fields := (FilterState.entries state).filter fun e => e.kind = .query
  .object [("fields", .list (fields.map fun e => .object [(e.spec.field, highlightOptions)]))]

end Faceted
