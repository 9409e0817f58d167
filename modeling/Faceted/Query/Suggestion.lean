import Faceted.Query
import Faceted.Text.Case

/-!
# Term suggestions

A suggestion request lists the values of a facet that are left under all other filters. When the
user has typed some text, the query is narrowed by a pattern on the facet, and the list of values by
a regular expression that finds the text in either case: each character becomes a class of its lower
and upper forms.

The response holds the list of values where the request asked for it, inside the nested aggregation
of a dotted field. With an extra clause the counts are those of a sub-aggregation. Values that do not
occur are left out.
-/

namespace Faceted

open Faceted.Text Faceted.Number

/-- A value of a facet and how many documents have it. -/
structure TermSuggestion where
  term : String
  count : Int
deriving DecidableEq, Repr

namespace Suggestion

/-- The name of the aggregation of terms. -/
def aggregationName : String := "termsList"

/-- The name of the sub-aggregation of the extra clause. -/
def extraName : String := "extra"

/-- The number of suggestions unless another is asked for. -/
def defaultLimit : Int := 15

/-! ## The regular expression -/

/-- A character inside a class; those that are special there stand after a backslash. -/
def classMember (c : Char) : List Char :=
  if ['\\', ']', '^', '-', '['].contains c then ['\\', c] else [c]

/-- The class of a character and its upper-case form. -/
def caseClass (upper : Char → List Char) (c : Char) : List Char :=
  '[' :: (c :: upper c).flatMap classMember ++ [']']

/-- The regular expression for values that hold a text in either case: what lower case makes of the
text, each character of it with its upper-case form. -/
def casePattern (lower : List Char → List Char) (upper : Char → List Char) (typed : String) : String :=
  String.ofList (".*".toList ++ (lower typed.toList).flatMap (caseClass upper) ++ ".*".toList)

/-- The regular expression by the full case mappings. -/
def includePattern (typed : String) : String := casePattern lower upperChar typed

/-! ## The request -/

/-- The typed text, if there is any. -/
def typedText? (typed : Option String) : Option String := typed.filter (!·.isEmpty)

/-- The filters on other facets. -/
def otherFilters (state : FilterState) (facet : FieldSpec) : FilterState :=
  state.filter fun e => e.2.spec ≠ facet

/-- The filter on the facet that typed text stands for. -/
def override? (facet : FieldSpec) (typed : Option String) : Option FilterEntry :=
  (typedText? typed).map fun text => .terms facet [Wildcard.encode text]

/-- How the values are ordered. -/
def orderValue : BucketOrder → Value
  | .keyAscending => .object [("_key", .str "asc")]
  | _ => .object [("_count", .str "desc")]

/-- The aggregation of terms. -/
def termsAggregation (facet : FieldSpec) (typed : Option String) (limit : Int) : Value :=
  let pattern := match typedText? typed with
    | some text => [("include", .str (includePattern text))]
    | none => []
  .object ([("field", .str (rawField facet.field)), ("size", .int limit),
    ("order", orderValue facet.order)] ++ pattern)

/-- The aggregation of terms with the sub-aggregation of the extra clause. -/
def listAggregation (facet : FieldSpec) (typed : Option String) (limit : Int) : Value :=
  let extra := match facet.extra with
    | some clause => [("aggs", .object [(extraName, .object [("filter", clause.toValue)])])]
    | none => []
  .object ([("terms", termsAggregation facet typed limit)] ++ extra)

/-- All aggregations of a request, inside the nested one of a dotted field. -/
def aggregations (facet : FieldSpec) (typed : Option String) (limit : Int) : Value :=
  let inner := .object [(aggregationName, listAggregation facet typed limit)]
  match facet.path with
  | some path => .object [(path, .object [("nested", .object [("path", .str path)]), ("aggs", inner)])]
  | none => inner

/-- The body of a suggestion request. -/
def body (compiler : Compiler) (state : FilterState) (facet : FieldSpec) (typed : Option String)
    (limit : Int) : Except Fault Value := do
  let query ← compiler.compile (otherFilters state facet) (override? facet typed)
  pure (.object [("size", .int 0), ("query", query.toValue),
    ("aggs", aggregations facet typed limit)])

/-- The records of building a suggestion request. -/
def bodyRecords (compiler : Compiler) (state : FilterState) (facet : FieldSpec)
    (typed : Option String) (limit : Int) : List LogRecord :=
  let others := otherFilters state facet
  let override := override? facet typed
  let compiled := compiler.records others override
  match compiler.compile others override with
  | .ok _ => compiled ++ LogRecord.filled .debug "Suggestion query: field=%s typed=%r limit=%d"
      [.str facet.field, .ofOption typed, .int limit]
  | .error _ => compiled

/-! ## The response -/

/-- The mapping under a name of a mapping. -/
def part? (name : String) : Value → Option Mapping
  | .map m => (Entries.find? name m).bind Value.mapping?
  | _ => none

/-- The aggregations of a response in which the list of values has to be. -/
def scope (payload : Value) (facet : FieldSpec) : Except Fault Mapping :=
  match part? "aggregations" payload with
  | none => .error .noAggregations
  | some outer => match facet.path with
    | none => .ok outer
    | some path => match part? path (.map outer) with
      | none => .error (.noNestedAggregation path)
      | some inner => .ok inner

/-- The buckets of a response, those that are no mapping left out. -/
def buckets (payload : Value) (facet : FieldSpec) : Except Fault (List Mapping) := do
  let inner ← scope payload facet
  match (part? aggregationName (.map inner)).bind (Entries.find? "buckets") with
  | some (.list bs) => pure (bs.filterMap Value.mapping?)
  | _ => .error (.noBuckets facet.field)

/-- The whole number that a count stands for. -/
def readCount : Value → Except Fault Int
  | .scalar (.int n) => .ok n
  | .scalar (.bool b) => .ok (if b then 1 else 0)
  | .scalar (.float x) =>
    if x.isNaN then .error .notANumber
    else if x.isInfinite then .error .infiniteInteger
    else .ok x.truncate
  | .scalar (.str s) => match readInt s.toList with
    | .ok n => .ok n
    | .error f => .error (.ofIntFault s f)
  | v => .error (.notNumeric v.qualifiedClassName)

/-- The count of a bucket: that of the sub-aggregation if it is asked for and there. -/
def bucketCount (useExtra : Bool) (bucket : Mapping) : Value :=
  let zero : Value := .int 0
  match useExtra, part? extraName (.map bucket) with
  | true, some extra => (Entries.find? "doc_count" extra).getD zero
  | _, _ => (Entries.find? "doc_count" bucket).getD zero

/-- The suggestion that a bucket holds. -/
def readBucket (useExtra : Bool) (bucket : Mapping) : Except Fault TermSuggestion := do
  let term ← ((Entries.find? "key" bucket).getD (.str "")).written
  let count ← readCount (bucketCount useExtra bucket)
  pure ⟨term, count⟩

/-- The suggestions of buckets up to the first fault, and that fault. Counts that are not above zero
are left out. -/
def readBuckets (useExtra : Bool) : List Mapping → List TermSuggestion × Option Fault
  | [] => ([], none)
  | bucket :: rest =>
    match readBucket useExtra bucket with
    | .error fault => ([], some fault)
    | .ok suggestion =>
      let (suggestions, fault) := readBuckets useExtra rest
      (if 0 < suggestion.count then suggestion :: suggestions else suggestions, fault)

/-- The suggestions of a response up to the first fault, and that fault. A response without buckets
is a fault of its own. -/
def readLazily (payload : Value) (facet : FieldSpec) :
    Except Fault (List TermSuggestion × Option Fault) := do
  let bs ← buckets payload facet
  pure (readBuckets facet.extra.isSome bs)

/-- All suggestions of a response. -/
def read (payload : Value) (facet : FieldSpec) : Except Fault (List TermSuggestion) := do
  match ← readLazily payload facet with
  | (suggestions, none) => pure suggestions
  | (_, some fault) => .error fault

end Suggestion

end Faceted
