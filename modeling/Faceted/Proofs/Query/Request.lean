import Faceted.DateText
import Faceted.Proofs.Entries
import Faceted.Proofs.Query.Document
import Faceted.Proofs.Query.Expression
import Faceted.Query.Suggestion

/-!
# Bodies of requests

Whatever the settings and the filters are, once they have been read: each body that is made of them can be
built, holds plain values only, and has a JSON text; and the clauses in it are put together from those of
the facets' extra clauses (`read_filters_are_sent`).

The clauses of a body stand under its query, and under the filters of its aggregations, at any depth
(`bodyClauses`). The names of aggregations and of fields are those of facets, so that they may be any
strings, and do not tell where a clause is.
-/

namespace Faceted

open Value Clause

/-! ## The clauses of a body -/

namespace Request

mutual

/-- The clauses in one aggregation: its filter, and those in the aggregations inside of it. -/
def aggregationClauses : Value → List Value
  | .map m => partClauses m
  | _ => []

/-- The clauses in the parts of an aggregation. -/
def partClauses : List (Key × Value) → List Value
  | [] => []
  | (k, v) :: m =>
    (if k = .str "filter" then [v] else if k = .str "aggs" then namedClauses v else []) ++ partClauses m

/-- The clauses in aggregations by name. -/
def namedClauses : Value → List Value
  | .map m => allNamedClauses m
  | _ => []

/-- The clauses in entries, each of which is an aggregation. -/
def allNamedClauses : List (Key × Value) → List Value
  | [] => []
  | (_, v) :: m => aggregationClauses v ++ allNamedClauses m

end

/-- The clauses of a body: its query, and those in its aggregations. -/
def bodyClauses (body : Value) : List Value :=
  (body.at? [.str "query"]).toList ++ ((body.at? [.str "aggs"]).map namedClauses).getD []

/-- The body can be sent: it holds plain values only, it has a JSON text, and its clauses are put together
from the given ones. -/
structure Sendable (given : List Value) (body : Value) : Prop where
  plain : body.IsPlain
  written : ∃ text, Json.document body = .ok text
  composed : AllComposed (bodyClauses body) given

theorem Sendable.of_plain {given : List Value} {body : Value} (plain : body.IsPlain)
    (composed : AllComposed (bodyClauses body) given) : Sendable given body :=
  ⟨plain, Json.exists_document plain, composed⟩

end Request

open Request

/-! ## Searches and exports -/

theorem isPlain_highlight (state : FilterState) : (highlight state).IsPlain := by
  have hoptions : highlightOptions.IsPlain := by
    refine isPlain_object ?_
    simp only [List.forall_mem_cons]
    exact ⟨.int (Number.lt_pow_of_lt (by decide : 2 < Nat.pow 10 1) (by decide)),
      .int (Number.lt_pow_of_lt (by decide : 50 < Nat.pow 10 2) (by decide)), List.forall_mem_nil _⟩
  refine isPlain_field (.list fun x hx => ?_)
  obtain ⟨e, -, rfl⟩ := List.mem_map.mp hx
  exact isPlain_field hoptions

namespace SearchContext

variable {compiler : Compiler} {context : SearchContext} {query : Clause Value} {given : List Value}

theorem sendable_searchBody (hquery : compiler.compile context.filters none = .ok query)
    (hsent : query.Sent given) (hsort : context.sort = none) {start size : Int}
    (hstart : start.natAbs < Nat.pow 10 Number.digitLimit)
    (hsize : size.natAbs < Nat.pow 10 Number.digitLimit) :
    ∃ body, context.searchBody compiler start size = .ok body ∧ Sendable given body := by
  refine ⟨_, searchBody_eq_ok_iff.mpr ⟨query, none, hquery, .unsorted hsort, rfl⟩, .of_plain ?_ ?_⟩
  · refine isPlain_object ?_
    simp only [Option.toList_none, List.map_nil, List.cons_append, List.nil_append, List.forall_mem_cons]
    exact ⟨.int hsize, .int hstart, hsent.plain, .bool true, isPlain_highlight _, List.forall_mem_nil _⟩
  · exact .singleton hsent.composed

theorem sendable_exportBody (hquery : compiler.compile context.filters none = .ok query)
    (hsent : query.Sent given) (hsort : context.sort = none) :
    ∃ body, context.exportBody compiler = .ok body ∧ Sendable given body := by
  refine ⟨_, exportBody_eq_ok_iff.mpr ⟨query, none, hquery, .unsorted hsort, rfl⟩, .of_plain ?_ ?_⟩
  · exact isPlain_field hsent.plain
  · exact .singleton hsent.composed

end SearchContext

/-! ## Suggestions -/

namespace Suggestion

variable {compiler : Compiler} {state : FilterState} {facet : FieldSpec} {typed : Option String}
  {limit : Int}

theorem isPlain_orderValue (order : BucketOrder) : (orderValue order).IsPlain := by
  unfold orderValue
  split
  · exact isPlain_field (.str "asc")
  · exact isPlain_field (.str "desc")

theorem isPlain_termsAggregation (hlimit : limit.natAbs < Nat.pow 10 Number.digitLimit) (facet : FieldSpec)
    (typed : Option String) : (termsAggregation facet typed limit).IsPlain := by
  refine isPlain_object ?_
  simp only [List.forall_mem_append, List.forall_mem_cons]
  refine ⟨⟨.str _, .int hlimit, isPlain_orderValue _, List.forall_mem_nil _⟩, ?_⟩
  split
  · exact List.forall_mem_singleton.mpr (.str _)
  · exact List.forall_mem_nil _

theorem isPlain_listAggregation (hlimit : limit.natAbs < Nat.pow 10 Number.digitLimit) (facet : FieldSpec)
    (typed : Option String) : (listAggregation facet typed limit).IsPlain := by
  refine isPlain_object ?_
  simp only [List.forall_mem_append, List.forall_mem_singleton]
  refine ⟨isPlain_termsAggregation hlimit facet typed, ?_⟩
  split
  · next clause _ =>
    exact List.forall_mem_singleton.mpr (isPlain_field (isPlain_field (isPlain_toValue .str clause)))
  · exact List.forall_mem_nil _

theorem isPlain_aggregations (hlimit : limit.natAbs < Nat.pow 10 Number.digitLimit) (facet : FieldSpec)
    (typed : Option String) : (aggregations facet typed limit).IsPlain := by
  have hinner : (Value.object [(aggregationName, listAggregation facet typed limit)]).IsPlain :=
    isPlain_field (isPlain_listAggregation hlimit facet typed)
  unfold aggregations
  split
  · next path _ =>
    refine isPlain_field (isPlain_object ?_)
    simp only [List.forall_mem_cons]
    exact ⟨isPlain_field (.str path), hinner, List.forall_mem_nil _⟩
  · exact hinner

/-- The clauses in the aggregations of a request: that of the facet's extra clause, if it has one. -/
theorem namedClauses_aggregations (facet : FieldSpec) (typed : Option String) (limit : Int) :
    namedClauses (aggregations facet typed limit) = facet.extra.toList.map Clause.toValue := by
  have hlist : aggregationClauses (listAggregation facet typed limit) =
      facet.extra.toList.map Clause.toValue := by
    unfold listAggregation
    cases facet.extra with
    | none => simp [Value.object, aggregationClauses, partClauses]
    | some clause => simp [Value.object, aggregationClauses, partClauses, namedClauses, allNamedClauses]
  unfold aggregations
  split
  · simp [Value.object, namedClauses, allNamedClauses, aggregationClauses, partClauses, hlist]
  · simp [Value.object, namedClauses, allNamedClauses, hlist]

theorem sendable_body {query : Clause Value} {given : List Value}
    (hquery : compiler.compile (otherFilters state facet) (override? facet typed) = .ok query)
    (hsent : query.Sent given) (hlimit : limit.natAbs < Nat.pow 10 Number.digitLimit) :
    ∃ body, Suggestion.body compiler state facet typed limit = .ok body ∧
      Sendable (given ++ facet.extra.toList.map Clause.toValue) body := by
  refine ⟨_, by rw [Suggestion.body, hquery, ok_bind]; rfl, .of_plain ?_ ?_⟩
  · refine isPlain_object ?_
    simp only [List.forall_mem_cons]
    exact ⟨.int (Number.lt_pow_of_lt (by decide : 0 < Nat.pow 10 1) (by decide)), hsent.plain,
      isPlain_aggregations hlimit facet typed, List.forall_mem_nil _⟩
  · refine .append (.singleton hsent.composed) ?_
    rw [← namedClauses_aggregations facet typed limit]
    exact allComposed_self _

theorem fits_otherFilters (hfits : ∀ e ∈ FilterState.entries state, e.Fits) (facet : FieldSpec) :
    ∀ e ∈ FilterState.entries (otherFilters state facet), e.Fits := by
  intro e he
  obtain ⟨named, hnamed, rfl⟩ := List.mem_map.mp he
  exact hfits _ (List.mem_map.mpr ⟨named, List.mem_of_mem_filter hnamed, rfl⟩)

theorem fits_override (hkind : facet.kind = .terms) (typed : Option String) :
    ∀ o ∈ override? facet typed, o.Fits := by
  intro o ho
  obtain ⟨text, -, rfl⟩ := Option.map_eq_some_iff.mp ho
  exact .terms hkind _

end Suggestion

/-! ## What has been read -/

namespace Compiler

theorem exists_sent {compiler : Compiler} {state : FilterState} {override : Option FilterEntry}
    (hfits : ∀ e ∈ FilterState.entries state, e.Fits) (hoverride : ∀ o ∈ override, o.Fits) :
    ∃ query, compiler.compile state override = .ok query ∧
      query.Sent ((effective state override).flatMap FilterEntry.extraDocuments) := by
  have hall : ∀ e, Counts state override e → e.Fits := by
    rintro e (⟨he, -⟩ | he)
    · exact hfits e he
    · exact hoverride e he
  obtain ⟨query, hquery⟩ : ∃ query, compiler.compile state override = .ok query := exists_compile hall
  exact ⟨query, hquery, sent_compile (fun e he => hall e (mem_effective_iff.mp he)) hquery⟩

/--
**Whatever is read can be sent.**

Filters that have been read against settings compile, with any terms in the place of those on one terms
facet of the registry. What they are sent as, alone or in the body of a search, an export or a suggestion
request, can be built, holds plain values only, so that there is no null in it, and has a JSON text. The
sort is left out of this, since it is not read with the filters; and the window of a search and the number of
suggestions play no part, as long as these integers can be written. The clauses of each body are put together from
those of the extra clauses of the entries that count, and each combination that is not inside of one of
them has exactly one operator, with at least one clause.
-/
theorem read_filters_are_sent {dates : DateReader} {raw filters : Mapping} {settings : FacetSettings}
    {state : FilterState} (hsettings : FacetSettings.read raw = .ok settings)
    (hread : FilterState.read dates settings.registry filters = .ok state) (fulltextFields : List String) :
    (∀ override : Option FilterEntry,
      (∀ o ∈ override, ∃ name spec values, settings.registry.find? name = some spec ∧ spec.kind = .terms ∧
        o = .terms spec values) →
      ∃ query, compile ⟨settings.registry, fulltextFields⟩ state override = .ok query ∧
        query.toValue.IsPlain ∧ (∃ text, Json.document query.toValue = .ok text) ∧
        Composed query.toValue ((effective state override).flatMap FilterEntry.extraDocuments)) ∧
    ((highlight state).IsPlain ∧ ∃ text, Json.document (highlight state) = .ok text) ∧
    (∀ context : SearchContext, context.filters = state → context.sort = none →
      (∀ start size : Int, start.natAbs < Nat.pow 10 Number.digitLimit →
        size.natAbs < Nat.pow 10 Number.digitLimit →
        ∃ body, context.searchBody ⟨settings.registry, fulltextFields⟩ start size = .ok body ∧
          Sendable ((effective state none).flatMap FilterEntry.extraDocuments) body) ∧
      ∃ body, context.exportBody ⟨settings.registry, fulltextFields⟩ = .ok body ∧
        Sendable ((effective state none).flatMap FilterEntry.extraDocuments) body) ∧
    ∀ (name : String) (facet : FieldSpec) (typed : Option String) (limit : Int),
      settings.registry.find? name = some facet → facet.kind = .terms →
      limit.natAbs < Nat.pow 10 Number.digitLimit →
      ∃ body, Suggestion.body ⟨settings.registry, fulltextFields⟩ state facet typed limit = .ok body ∧
        Sendable ((effective (Suggestion.otherFilters state facet) (Suggestion.override? facet typed)).flatMap
          FilterEntry.extraDocuments ++ facet.extra.toList.map Clause.toValue) body := by
  have hfits := FilterState.fits_of_read (FacetSettings.wellFormed_of_read hsettings) hread
  refine ⟨?_, ⟨isPlain_highlight state, Json.exists_document (isPlain_highlight state)⟩, ?_, ?_⟩
  · intro override hoverride
    have hterms : ∀ o ∈ override, o.Fits := by
      intro o ho
      obtain ⟨_, spec, values, -, hkind, rfl⟩ := hoverride o ho
      exact .terms hkind values
    obtain ⟨query, hquery, hsent⟩ := exists_sent hfits hterms
    exact ⟨query, hquery, hsent.plain, Json.exists_document hsent.plain, hsent.composed⟩
  · rintro context rfl hsort
    have hnone : ∀ o ∈ (none : Option FilterEntry), o.Fits := nofun
    obtain ⟨query, hquery, hsent⟩ := exists_sent hfits hnone
    exact ⟨fun _ _ hstart hsize => SearchContext.sendable_searchBody hquery hsent hsort hstart hsize,
      SearchContext.sendable_exportBody hquery hsent hsort⟩
  · intro name facet typed limit _ hkind hlimit
    obtain ⟨query, hquery, hsent⟩ := exists_sent (Suggestion.fits_otherFilters hfits facet)
      (Suggestion.fits_override hkind typed)
    exact Suggestion.sendable_body hquery hsent hlimit

/-- Terms on a facet with an extra clause, and years: the query of a search is the only clause of its body
and has the document of the extra clause in it once, that of a suggestion request for the same facet has
it in the aggregation alone. -/
theorem read_filters_are_sent_party :
    let dates : DateReader := DateText.reader 2025
    let extra : Clause String := .term "type" "mp"
    let party : FieldSpec := ⟨"party", .terms, .countDescending, some extra, none⟩
    let date : FieldSpec := ⟨"date", .dates, .countDescending, none, none⟩
    let settings : FacetSettings := ⟨⟨[("party", party), ("date", date)]⟩, []⟩
    let filters : Mapping := [(.str "party", .str "PS"), (.str "date", .object [("min", .int 1981)])]
    let state : FilterState := [(.str "party", .terms party ["PS"]),
      (.str "date", .dates date ⟨some "1981", none⟩)]
    FacetSettings.read (FacetSettings.document settings.registry) = .ok settings ∧
      FilterState.read dates settings.registry filters = .ok state ∧
      (∃ query, compile ⟨settings.registry, ["ocr"]⟩ state (some (.terms party [])) = .ok query ∧
        query.toValue.IsPlain) ∧
      (∃ body, SearchContext.searchBody ⟨settings.registry, ["ocr"]⟩ ⟨state, none, none⟩ 0 20 = .ok body ∧
        Sendable [extra.toValue] body) ∧
      ∃ body, Suggestion.body ⟨settings.registry, ["ocr"]⟩ state party none 15 = .ok body ∧
        Sendable [extra.toValue] body := by
  intro dates extra party date settings filters state
  have hsettings : FacetSettings.read (FacetSettings.document settings.registry) = .ok settings := by
    refine FacetSettings.read_document ?_
    simp only [Registry.WellFormed, settings, List.forall_mem_cons]
    refine ⟨⟨by decide, Or.inl rfl, Or.inr rfl, ?_⟩, ⟨by decide, Or.inr (Or.inl rfl), Or.inr rfl, ?_⟩,
      by simp⟩
    · simp [party, extra, Clause.WellFormed]
    · simp [date]
  have hread : FilterState.read dates settings.registry filters = .ok state := by cbv
  obtain ⟨hcompile, -, hsearch, hsuggest⟩ := read_filters_are_sent hsettings hread ["ocr"]
  have hfind : settings.registry.find? "party" = some party := by
    simp [Registry.find?, settings]
  have hshort : ∀ n, n < Nat.pow 10 2 → n < Nat.pow 10 Number.digitLimit := fun _ hn =>
    Number.lt_pow_of_lt hn (by decide)
  have hparty : (FilterEntry.terms party ["PS"]).extraDocuments = [extra.toValue] := rfl
  have hdate : (FilterEntry.dates date ⟨some "1981", none⟩).extraDocuments = [] := rfl
  have hdiffer : date ≠ party := by simp [date, party]
  refine ⟨hsettings, hread, ?_, ?_, ?_⟩
  · obtain ⟨query, hquery, hplain, -⟩ := hcompile (some (.terms party []))
      (by rintro _ ⟨⟩; exact ⟨"party", party, [], hfind, rfl, rfl⟩)
    exact ⟨query, hquery, hplain⟩
  · obtain ⟨body, hbody, hsendable⟩ := (hsearch ⟨state, none, none⟩ rfl rfl).1 0 20
      (hshort _ (by decide)) (hshort _ (by decide))
    refine ⟨body, hbody, ?_⟩
    simpa [effective, FilterState.entries, state, hparty, hdate] using hsendable
  · obtain ⟨body, hbody, hsendable⟩ := hsuggest "party" party none 15 hfind rfl (hshort _ (by decide))
    refine ⟨body, hbody, ?_⟩
    have hothers : Suggestion.otherFilters state party =
        [(.str "date", .dates date ⟨some "1981", none⟩)] := by
      simp [Suggestion.otherFilters, state, FilterEntry.terms, FilterEntry.dates, hdiffer]
    have hoverride : Suggestion.override? party none = none := rfl
    rw [hothers, hoverride] at hsendable
    have hextra : party.extra.toList.map Clause.toValue = [extra.toValue] := rfl
    simpa [effective, FilterState.entries, hdate, hextra] using hsendable

end Compiler

end Faceted
