import Faceted.Query.Suggestion
import Faceted.Proofs.Basic

/-!
# The body of a suggestion request

A body holds the compiled query beside the aggregations. The list of values is asked for among these,
inside of the nested aggregation of a dotted field; its parameters have a pattern exactly when some
text was typed.
-/

namespace Faceted.Suggestion

/-! ## The typed text -/

theorem typedText?_eq_none {typed : Option String} (h : typed = none ∨ typed = some "") :
    typedText? typed = none := by
  rcases h with rfl | rfl <;> rfl

theorem typedText?_eq_some {text : String} (h : text ≠ "") : typedText? (some text) = some text := by
  simp [typedText?, Option.filter, h]

/-! ## Parts of objects -/

theorem part?_cons_self (name : String) (part : Mapping) (rest : Mapping) :
    part? name (.map ((.str name, .map part) :: rest)) = some part := by
  rw [part?, Entries.find?_cons_self]
  rfl

theorem part?_cons_of_ne {name other : String} (h : name ≠ other) (v : Value) (rest : Mapping) :
    part? name (.map ((.str other, v) :: rest)) = part? name (.map rest) := by
  rw [part?, part?, Entries.find?_cons_of_ne h]

/-! ## The list of values -/

/-- The body with given aggregations and a query. -/
def bodyOf (aggs : Value) (query : Clause Value) : Value :=
  .object [("size", .int 0), ("query", query.toValue), ("aggs", aggs)]

/-- The parameters of the list of values among the aggregations of a request: inside of the nested
aggregation of a dotted field. -/
def listParameters? (facet : FieldSpec) (aggs : Value) : Option Mapping := do
  let inner ← match facet.path with
    | some path => (part? path aggs).bind fun nested => part? "aggs" (.map nested)
    | none => aggs.mapping?
  let list ← part? "termsList" (.map inner)
  part? "terms" (.map list)

/-- The parameters of the list of values: the field, the limit and the order, and a pattern if some
text was typed. -/
def listParameters (facet : FieldSpec) (typed : Option String) (limit : Int) : Mapping :=
  [(.str "field", .str (rawField facet.field)), (.str "size", .int limit),
    (.str "order", orderValue facet.order)] ++
  ((typedText? typed).map fun text => (Key.str "include", Value.str (includePattern text))).toList

theorem termsAggregation_eq (facet : FieldSpec) (typed : Option String) (limit : Int) :
    termsAggregation facet typed limit = .map (listParameters facet typed limit) := by
  unfold termsAggregation listParameters
  cases typedText? typed <;> rfl

/-- **The list of values is asked for with its parameters where the field of the facet lives.** -/
theorem listParameters?_aggregations (facet : FieldSpec) (typed : Option String) (limit : Int) :
    listParameters? facet (aggregations facet typed limit)
      = some (listParameters facet typed limit) := by
  have hlist : ∃ list, listAggregation facet typed limit = .map list ∧
      part? "terms" (.map list) = some (listParameters facet typed limit) := by
    refine ⟨_, rfl, ?_⟩
    rw [List.cons_append, List.map_cons, termsAggregation_eq]
    exact part?_cons_self _ _ _
  obtain ⟨list, hl, ht⟩ := hlist
  have hinner : part? "termsList" (.map [(.str "termsList", .map list)]) = some list :=
    part?_cons_self _ _ _
  unfold listParameters? aggregations
  cases facet.path with
  | none =>
    simp only [hl, Value.object, List.map_cons, List.map_nil, aggregationName, Value.mapping?,
      Option.bind_eq_bind, Option.bind_some, hinner, ht]
  | some path =>
    simp only [hl, Value.object, List.map_cons, List.map_nil, aggregationName, part?_cons_self,
      part?_cons_of_ne (show "aggs" ≠ "nested" by decide), Option.bind_eq_bind, Option.bind_some,
      hinner, ht]

theorem find?_include_listParameters (facet : FieldSpec) (typed : Option String) (limit : Int) :
    Entries.find? "include" (listParameters facet typed limit)
      = (typedText? typed).map fun text => .str (includePattern text) := by
  unfold listParameters
  rw [List.cons_append, Entries.find?_cons_of_ne (by decide), List.cons_append,
    Entries.find?_cons_of_ne (by decide), List.cons_append, Entries.find?_cons_of_ne (by decide),
    List.nil_append]
  cases typedText? typed with
  | none => rfl
  | some text => exact Entries.find?_cons_self _ _ _

end Faceted.Suggestion
