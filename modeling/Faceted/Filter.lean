import Faceted.Facet

/-!
# Filters

One active filter is a facet, a kind and the user's value. The value can be any value: its shape is
looked at when the filter is compiled. A filter state holds the filters by key, in order.
-/

namespace Faceted

/-- One active filter. -/
structure FilterEntry where
  spec : FieldSpec
  kind : FilterKind
  value : Value
deriving Repr

/-- The active filters by key, in order. -/
abbrev FilterState := Entries FilterEntry

namespace FilterEntry

/-- A filter by terms, each an exact term or a marked substring. -/
def terms (spec : FieldSpec) (values : List String) : FilterEntry :=
  ⟨spec, .terms, .tuple (values.map .str)⟩

/-- A filter by years. -/
def dates (spec : FieldSpec) (range : DateRange) : FilterEntry :=
  ⟨spec, .dates, .years (.ofOption range.min) (.ofOption range.max)⟩

/-- A filter by free text. -/
def query (spec : FieldSpec) (text : String) : FilterEntry := ⟨spec, .query, .str text⟩

end FilterEntry

/-- The filters of a state, in order. -/
def FilterState.entries (state : FilterState) : List FilterEntry := state.map Prod.snd

end Faceted
