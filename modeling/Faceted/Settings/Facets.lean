import Faceted.Settings.Check
import Faceted.Clause.Reading
import Faceted.Facet

/-!
# Settings of the facets and sorts

The section `facets`, a mapping from names to facets, and the optional section `sorts`, a list of
labelled sort expressions, which are passed on to the search engine as they are.
-/

namespace Faceted

open Faceted.Text Faceted.Number Settings

/-- A sort that can be chosen by its label. Its expression is made of mappings if it comes from
settings, and of anything at all if it is made by hand. -/
structure SortOption where
  label : String
  expression : List Value
deriving Repr

/-- The facets and the sorts. -/
structure FacetSettings where
  registry : Registry
  sorts : List SortOption
deriving Repr

/-- The keys that a facet may have. -/
def FieldSpec.allowedKeys : List String :=
  ["extra_query_field", "field", "kind", "label", "order"]

/-- The clause that goes with every query on a facet. -/
def FieldSpec.readExtra (key : String) : Value → Except Fault (Option (Clause String))
  | .scalar .null => .ok none
  | v => (Clause.read key v).map some

/-- Reads one facet. -/
def FieldSpec.read (key : String) (v : Value) : Except Fault FieldSpec := do
  let part ← requireObject key v
  let unknown ← Mapping.namesOutside FieldSpec.allowedKeys part
  if !unknown.isEmpty then throw (.unknownNames key .keys unknown)
  let field ← requireString (key ++ ".field") (← requireEntry (key ++ ".field") "field" part)
  let kind ← requireChoice (key ++ ".kind") FilterKind.names
    (← requireEntry (key ++ ".kind") "kind" part)
  let order ← requireChoice (key ++ ".order") BucketOrder.names
    (entryOr "order" (.str "count_desc") part)
  let extra ← FieldSpec.readExtra (key ++ ".extra_query_field")
    (Mapping.findOrNull "extra_query_field" part)
  let label ← optionalString (key ++ ".label") (Mapping.findOrNull "label" part)
  pure ⟨trimmed field, .ofName kind, .ofName order, extra, label⟩

/-- The mappings among values, if they all are. -/
def SortOption.mappings? (xs : List Value) : Option (List Mapping) := xs.mapM Value.mapping?

/-- A sort expression: a mapping, or a list of them. -/
def SortOption.readExpression (key : String) : Value → Except Fault (List Mapping)
  | .map m => .ok [m]
  | .list xs => match SortOption.mappings? xs with
    | some ms => .ok ms
    | none => .error (.wrongShape key .objects)
  | _ => .error (.wrongShape key .objects)

/-- Reads one sort. -/
def SortOption.read (key : String) (v : Value) : Except Fault SortOption := do
  let part ← requireObject key v
  let label ← requireString (key ++ ".label") (← requireEntry (key ++ ".label") "label" part)
  if (trimmed label).isEmpty then throw (.emptyLabel key)
  let expression ← SortOption.readExpression (key ++ ".expression")
    (← requireEntry (key ++ ".expression") "expression" part)
  pure ⟨trimmed label, expression.map .map⟩

namespace FacetSettings

/-- Reads the facets of a mapping, in order. -/
def readSpecs : Mapping → Except Fault (List (String × FieldSpec))
  | [] => .ok []
  | (.scalar (.str key), v) :: m => do
    let spec ← FieldSpec.read ("facets." ++ key) v
    let specs ← readSpecs m
    pure ((key, spec) :: specs)
  | _ :: _ => .error .facetNotNamed

/-- Reads the sorts of a list, from the position `index` on. -/
def readSorts (index : Nat) : List Value → Except Fault (List SortOption)
  | [] => .ok []
  | x :: xs => do
    let option ← SortOption.read ("sorts[" ++ String.ofList (natText index) ++ "]") x
    let options ← readSorts (index + 1) xs
    pure (option :: options)

/-- Reads the section `facets`. -/
def readRegistry (raw : Mapping) : Except Fault Registry := do
  let part ← requiredSection "facets" raw
  pure ⟨← readSpecs part⟩

/-- Reads the section `sorts`; what counts as false stands for no sorts. -/
def readSortSection (raw : Mapping) : Except Fault (List SortOption) :=
  let v := Mapping.findOrNull "sorts" raw
  if !v.isTruthy then .ok []
  else match v with
    | .list xs => readSorts 0 xs
    | _ => .error (.wrongShape "sorts" .list)

/-- Reads the sections `facets` and `sorts`. -/
def read (raw : Mapping) : Except Fault FacetSettings := do
  let registry ← readRegistry raw
  let sorts ← readSortSection raw
  pure ⟨registry, sorts⟩

/-- The rules that a facet keeps. -/
def checkSpec (key : String) (spec : FieldSpec) : Except Fault Unit := do
  keep (!isBlankString spec.field) (.facetFieldNamed key)
  keep (spec.field.toList.head? != some '.' && spec.field.toList.getLast? != some '.')
    (.facetFieldDotInside key)

/-- The rules that each of the facets keeps. -/
def checkSpecs : List (String × FieldSpec) → Except Fault Unit
  | [] => .ok ()
  | (key, spec) :: specs => do
    checkSpec key spec
    checkSpecs specs

/-- No two of the strings are equal. -/
def allDistinct : List String → Bool
  | [] => true
  | s :: ss => !ss.contains s && allDistinct ss

/-- The rules that the facets and sorts keep. -/
def check (settings : FacetSettings) : Except Fault Unit := do
  keep (!settings.registry.specs.isEmpty) .someFacet
  checkSpecs settings.registry.specs
  keep (allDistinct (settings.sorts.map SortOption.label)) .sortLabelsUnique

/-- The sort with a label. -/
def sort (settings : FacetSettings) (label : String) : Except Fault SortOption :=
  match settings.sorts.find? (·.label == label) with
  | some option => .ok option
  | none => .error (.unknownSort label)

end FacetSettings

end Faceted
