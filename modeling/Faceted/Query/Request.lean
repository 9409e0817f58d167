import Faceted.Query
import Faceted.Settings.Facets
import Faceted.Value.Parts

/-!
# Request bodies

The bodies of a document search and of an export of the same documents. Both hold the same compiled
query and the same sort, so that an export has every document that the pages of a search show. A sort
expression can be used if each of its items is a mapping or makes one up; this is looked at when the
filters have been compiled.
-/

namespace Faceted

/-- What a request depends on besides its paging. -/
structure SearchContext where
  filters : FilterState
  sort : Option SortOption
  index : Option String
deriving Repr

/-- The mappings that the items of a sort expression make up. -/
def SortOption.mappings (option : SortOption) : Except Fault (List Mapping) :=
  option.expression.mapM Value.toMapping

namespace SearchContext

/-- The sort field of a body, left out without a sort. -/
def sortField (context : SearchContext) : Except Fault (List (String × Value)) :=
  match context.sort with
  | some option => option.mappings.map fun ms => [("sort", .list (ms.map .map))]
  | none => .ok []

/-- The body of a document search: `size` documents from the position `start` on. -/
def searchBody (compiler : Compiler) (context : SearchContext) (start size : Int) :
    Except Fault Value := do
  let query ← compiler.compile context.filters none
  let sort ← context.sortField
  pure (.object ([("size", .int size), ("from", .int start), ("query", query.toValue)] ++ sort ++
    [("track_total_hits", .bool true), ("highlight", highlight context.filters)]))

/-- The body of an export. -/
def exportBody (compiler : Compiler) (context : SearchContext) : Except Fault Value := do
  let query ← compiler.compile context.filters none
  let sort ← context.sortField
  pure (.object ([("query", query.toValue)] ++ sort))

end SearchContext

end Faceted
