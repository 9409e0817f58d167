import Faceted.Clause
import Faceted.Fault
import Faceted.Value.Text

/-!
# Facets

A facet is a field that documents can be filtered by: its kind, the order of its suggestions, a
fixed clause that goes with every query on it, and a label. A dot in the field name means that the
field lives inside a nested object. The registry holds the facets by name, in order.
-/

namespace Faceted

open Faceted.Text

/-- What a filter on a facet selects by. A kind of another name can be given by hand; it is never
accepted from settings. -/
inductive FilterKind where
  | terms
  | dates
  | query
  | other (name : String)
deriving DecidableEq, Repr

namespace FilterKind

/-- The name of a kind. -/
def name : FilterKind → String
  | .terms => "terms"
  | .dates => "dates"
  | .query => "query"
  | .other name => name

/-- The kind with a name. -/
def ofName (name : String) : FilterKind :=
  if name = "terms" then .terms
  else if name = "dates" then .dates
  else if name = "query" then .query
  else .other name

/-- The names of the three kinds. -/
def names : List String := ["dates", "query", "terms"]

end FilterKind

/-- The order of term suggestions: by term, or the most frequent first. Any other order given by
hand counts as the second. -/
inductive BucketOrder where
  | keyAscending
  | countDescending
  | other (name : String)
deriving DecidableEq, Repr

namespace BucketOrder

/-- The name of an order. -/
def name : BucketOrder → String
  | .keyAscending => "key_asc"
  | .countDescending => "count_desc"
  | .other name => name

/-- The order with a name. -/
def ofName (name : String) : BucketOrder :=
  if name = "key_asc" then .keyAscending
  else if name = "count_desc" then .countDescending
  else .other name

/-- The names of the two orders. -/
def names : List String := ["count_desc", "key_asc"]

end BucketOrder

/-- A field to filter by. -/
structure FieldSpec where
  field : String
  kind : FilterKind
  order : BucketOrder
  /-- The clause that goes with every query on the field. -/
  extra : Option (Clause String)
  label : Option String
deriving DecidableEq, Repr

/-- The path of the nested object that a field lives in: what comes before the first dot. -/
def nestedPath (field : String) : Option String :=
  let cs := field.toList
  if cs.contains '.' then some (String.ofList (cs.takeWhile (· != '.'))) else none

/-- The untokenised sub-field, for exact terms and patterns. -/
def rawField (field : String) : String := field ++ ".raw"

/-- The path of the nested object that the facet lives in. -/
def FieldSpec.path (spec : FieldSpec) : Option String := nestedPath spec.field

/-! ## Exact text -/

namespace Clause

/-- The exact text of a list of strings as a tuple. -/
def exactStrings (ss : List String) : List Char := exactTuple (ss.map fun s => quoted s.toList)

/-- The text of an argument with its name. -/
def argument (name : String) (text : List Char) : List Char := name.toList ++ '=' :: text

/-- The exact text of a truth value. -/
def exactBool (b : Bool) : List Char := (Scalar.bool b).exact

mutual

/-- The exact text of a clause: its class and its parts by name. -/
def exact : Clause String → List Char
  | .matchAll => "MatchAll()".toList
  | .bool must should => bracketed "Bool(".toList
    [argument "must" (exactTuple (exactAll must)),
     argument "should" (exactTuple (exactAll should))] [')']
  | .nested path query => bracketed "Nested(".toList
    [argument "path" (quoted path.toList), argument "query" (exact query)] [')']
  | .range field gte lte format => bracketed "Range(".toList
    [argument "field" (quoted field.toList), argument "gte" (exactOption gte),
     argument "lte" (exactOption lte), argument "format" (exactOption format)] [')']
  | .wildcard field value caseInsensitive => bracketed "Wildcard(".toList
    [argument "field" (quoted field.toList), argument "value" (quoted value.toList),
     argument "case_insensitive" (exactBool caseInsensitive)] [')']
  | .terms field values => bracketed "Terms(".toList
    [argument "field" (quoted field.toList), argument "values" (exactStrings values)] [')']
  | .term field value => bracketed "Term(".toList
    [argument "field" (quoted field.toList), argument "value" (quoted value.toList)] [')']
  | .simpleQueryString query fields => bracketed "SimpleQueryString(".toList
    [argument "query" (quoted query.toList), argument "fields" (exactStrings fields)] [')']

/-- The exact texts of clauses. -/
def exactAll : List (Clause String) → List (List Char)
  | [] => []
  | c :: cs => exact c :: exactAll cs

end

end Clause

/-- The exact text of a facet: its class and its parts by name. -/
def FieldSpec.exact (spec : FieldSpec) : List Char :=
  bracketed "FieldSpec(".toList
    [Clause.argument "field" (quoted spec.field.toList),
     Clause.argument "kind" (quoted spec.kind.name.toList),
     Clause.argument "order" (quoted spec.order.name.toList),
     Clause.argument "extra_query_field" ((spec.extra.map Clause.exact).getD "None".toList),
     Clause.argument "label" (exactOption spec.label)] [')']

/-! ## The registry -/

/-- The facets by name, in order. -/
structure Registry where
  specs : List (String × FieldSpec)
deriving Repr

namespace Registry

/-- The facet of a name. -/
def find? (registry : Registry) (key : String) : Option FieldSpec := registry.specs.lookup key

/-- The facet of a name, which has to be there. -/
def require (registry : Registry) (key : String) : Except Fault FieldSpec :=
  match registry.find? key with
  | some spec => .ok spec
  | none => .error (.unknownFacet key)

/-- The names in order. -/
def keys (registry : Registry) : List String := registry.specs.map Prod.fst

/-- The number of facets. -/
def size (registry : Registry) : Nat := registry.specs.length

/-- The exact text of the registry. -/
def text (registry : Registry) : String :=
  let one (s : String × FieldSpec) : List Char := quoted s.1.toList ++ ':' :: ' ' :: s.2.exact
  String.ofList (bracketed "FacetRegistry(\x7b".toList (registry.specs.map one) "\x7d)".toList)

end Registry

end Faceted
