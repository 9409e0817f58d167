import Faceted.Proofs.Suggestion.Request

/-!
# A facet's own filters and its suggestions

The suggestions of a facet do not depend on the filters on it: not on how many there are, under which
keys, nor on whether their values fit.

The filters on the facet are left out twice, once by the request and once by the compiler when it is
given an override on the same facet. The second time changes nothing (`effective_otherFilters`), and
what is compiled depends on the entries alone and not on their keys (`compile_congr`).
-/

namespace Faceted

/-! ## What the compiler looks at -/

namespace Compiler

/-- The query depends on the entries that count alone: on other states it is the same, and so is the
fault. -/
theorem compile_congr {s t : FilterState} {override : Option FilterEntry}
    (h : effective s override = effective t override) (compiler : Compiler) :
    compiler.compile s override = compiler.compile t override := by
  rw [compile, compile, h]

end Compiler

namespace Suggestion

open Compiler

/-- The entries of a state on other facets. -/
def othersOf (facet : FieldSpec) (state : FilterState) : List FilterEntry :=
  (FilterState.entries state).filter fun e => e.spec ≠ facet

theorem entries_otherFilters (state : FilterState) (facet : FieldSpec) :
    FilterState.entries (otherFilters state facet) = othersOf facet state := by
  rw [othersOf, FilterState.entries, FilterState.entries, otherFilters, List.filter_map]
  rfl

/-- Without an override all other filters count. -/
theorem effective_none_otherFilters (state : FilterState) (facet : FieldSpec) :
    effective (otherFilters state facet) none = othersOf facet state := by
  rw [effective, entries_otherFilters]

/-- An override on the facet takes away the same filters as the request does. -/
theorem effective_some_eq (state : FilterState) (override : FilterEntry) :
    effective state (some override) = othersOf override.spec state ++ [override] := rfl

theorem effective_some_otherFilters (state : FilterState) (override : FilterEntry) :
    effective (otherFilters state override.spec) (some override)
      = effective state (some override) := by
  rw [effective_some_eq, effective_some_eq, othersOf, entries_otherFilters, othersOf,
    List.filter_filter]
  simp

/-! ## The body -/

/-- The body is the compiled query beside the aggregations, which do not depend on the filters. -/
theorem body_eq (compiler : Compiler) (state : FilterState) (facet : FieldSpec)
    (typed : Option String) (limit : Int) :
    body compiler state facet typed limit =
      (compiler.compile (otherFilters state facet) (override? facet typed)).map
        (bodyOf (aggregations facet typed limit)) := by
  unfold body
  cases compiler.compile (otherFilters state facet) (override? facet typed) <;> rfl

/-- **The filters on a facet never count for its suggestions.** -/
theorem body_congr {s t : FilterState} {facet : FieldSpec} (h : othersOf facet s = othersOf facet t)
    (compiler : Compiler) (typed : Option String) (limit : Int) :
    body compiler s facet typed limit = body compiler t facet typed limit := by
  rw [body_eq, body_eq]
  refine congrArg _ (compile_congr ?_ compiler)
  cases override? facet typed with
  | none => rw [effective_none_otherFilters, effective_none_otherFilters, h]
  | some override =>
    -- the override may be on any facet here: the filters that it takes away are the same on both sides
    rw [effective_some_eq, effective_some_eq, othersOf, othersOf, entries_otherFilters,
      entries_otherFilters, h]

/--
**The filters on a facet never influence its suggestions.**

Two states with the same filters on other facets, in the same order, give the same body, or the same
fault. With some typed text the query is what the state compiles to with the text as an override on the
facet, be it the whole state or the state without the filters on the facet. Without any text it is what
the state without them compiles to, and no pattern is sent.
-/
theorem body_ignores_own_filters (compiler : Compiler) (facet : FieldSpec) (typed : Option String)
    (limit : Int) :
    (∀ s t : FilterState, othersOf facet s = othersOf facet t →
      body compiler s facet typed limit = body compiler t facet typed limit) ∧
    ∃ aggs parameters, listParameters? facet aggs = some parameters ∧
      ∀ state : FilterState,
        (∀ text, typed = some text → text ≠ "" →
          Entries.find? "include" parameters = some (.str (includePattern text)) ∧
          body compiler state facet typed limit
            = (compiler.compile state (some (.terms facet [Wildcard.encode text]))).map (bodyOf aggs) ∧
          body compiler state facet typed limit
            = (compiler.compile (state.filter fun e => e.2.spec ≠ facet)
                (some (.terms facet [Wildcard.encode text]))).map (bodyOf aggs)) ∧
        (typed = none ∨ typed = some "" →
          Entries.find? "include" parameters = none ∧
          body compiler state facet typed limit
            = (compiler.compile (state.filter fun e => e.2.spec ≠ facet) none).map (bodyOf aggs)) := by
  refine ⟨fun s t h => body_congr h compiler typed limit, aggregations facet typed limit,
    listParameters facet typed limit, listParameters?_aggregations facet typed limit, ?_⟩
  intro state
  refine ⟨?_, ?_⟩
  · rintro text rfl hne
    have ht := typedText?_eq_some hne
    have ho : override? facet (some text) = some (.terms facet [Wildcard.encode text]) := by
      rw [override?, ht]
      rfl
    have hothers : body compiler state facet (some text) limit
        = (compiler.compile (otherFilters state facet)
            (some (.terms facet [Wildcard.encode text]))).map
          (bodyOf (aggregations facet (some text) limit)) := by
      rw [body_eq, ho]
    refine ⟨?_, ?_, hothers⟩
    · rw [find?_include_listParameters, ht]
      rfl
    · rw [hothers]
      exact congrArg _ (compile_congr (effective_some_otherFilters state (.terms facet _)) compiler)
  · intro h
    have ht := typedText?_eq_none h
    refine ⟨?_, ?_⟩
    · rw [find?_include_listParameters, ht]
      rfl
    · rw [body_eq, override?, ht]
      rfl

/-- A filter of the wrong kind on the facet, and another key for the filter on the year: with a text
typed, with an empty one and with none. -/
theorem body_ignores_own_filters_unfit :
    let party : FieldSpec := ⟨"party", .terms, .countDescending, none, none⟩
    let year : FieldSpec := ⟨"year", .dates, .countDescending, none, none⟩
    let compiler : Compiler := ⟨⟨[("party", party), ("year", year)]⟩, ["ocr"]⟩
    let since := FilterEntry.dates year ⟨some "1960", none⟩
    let s : FilterState := [(.str "party", ⟨party, .dates, .null⟩), (.str "year", since)]
    let t : FilterState := [(.str "since", since)]
    othersOf party s = othersOf party t ∧
      body compiler s party (some "jan") 15 = body compiler t party (some "jan") 15 ∧
      (∃ aggs, body compiler s party (some "jan") 15
        = (compiler.compile s (some (.terms party [Wildcard.encode "jan"]))).map (bodyOf aggs)) ∧
      ∃ aggs, body compiler s party (some "") 15
        = (compiler.compile (s.filter fun e => e.2.spec ≠ party) none).map (bodyOf aggs) := by
  intro party year compiler since s t
  have h : othersOf party s = othersOf party t := by
    simp [othersOf, FilterState.entries, s, t, since, FilterEntry.dates, party, year]
  obtain ⟨hsame, aggs, _, -, htyped⟩ := body_ignores_own_filters compiler party (some "jan") 15
  obtain ⟨-, empty, _, -, hempty⟩ := body_ignores_own_filters compiler party (some "") 15
  exact ⟨h, hsame s t h, ⟨aggs, ((htyped s).1 "jan" rfl (by decide)).2.1⟩,
    ⟨empty, ((hempty s).2 (Or.inr rfl)).2⟩⟩

end Suggestion

end Faceted
