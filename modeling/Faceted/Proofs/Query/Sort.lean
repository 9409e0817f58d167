import Faceted.DateText
import Faceted.Proofs.Query.Request
import Faceted.Proofs.Settings.Accepted
import Faceted.Service.Settings

/-!
# Sorts in the bodies of searches

The expression of a sort is passed on as it stands in the settings, and all that is checked there is that it
is made of mappings: whatever they hold is accepted (`exists_ofMapping_withExpressions`).

So it is the expression, besides the two numbers of the window, that decides whether the body of a search
has a JSON text (`sorted_body_written_iff`); the query and the highlighting are plain. A date in an
expression has none (`sort_not_written_date`).
-/

namespace Faceted

open Value

/-! ## Bodies -/

namespace SearchContext

variable {compiler : Compiler} {context : SearchContext} {query : Clause Value}

/-- The body of a search has a JSON text if its sort and its window have one. -/
theorem exists_searchBody (hquery : compiler.compile context.filters none = .ok query)
    (hplain : query.toValue.IsPlain) {sort : Option Value} (hsort : context.SortsBy sort) (start size : Int) :
    ∃ body, context.searchBody compiler start size = .ok body ∧
      (body.HasJson ↔ (∀ v ∈ sort, v.HasJson) ∧
        size.natAbs < Nat.pow 10 Number.digitLimit ∧ start.natAbs < Nat.pow 10 Number.digitLimit) := by
  refine ⟨_, searchBody_eq_ok_iff.mpr ⟨query, sort, hquery, hsort, rfl⟩, ?_⟩
  have htotal : (Value.bool true).HasJson := (IsPlain.bool true).hasJson
  have hhighlight : (highlight context.filters).HasJson := (isPlain_highlight _).hasJson
  rw [hasJson_object_iff, List.forall_mem_append, List.forall_mem_append, List.forall_mem_map]
  simp only [List.forall_mem_cons, hasJson_int_iff, hplain.hasJson, htotal, hhighlight, Option.mem_toList]
  simp [and_comm]

end SearchContext

/-! ## Settings -/

namespace Settings

/-- The settings with other expressions for the sorts, under the same labels. -/
def withExpressions (settings : Settings) (expression : SortOption → List Mapping) : Settings :=
  { settings with
    facets.sorts := settings.facets.sorts.map fun option =>
      { option with expression := (expression option).map .map } }

/-- **Accepted settings are accepted with any other expressions**: all that is checked of an expression is
that it is made of mappings. -/
theorem exists_ofMapping_withExpressions {environment : Option String} {raw : Mapping} {settings : Settings}
    (h : ofMapping environment raw = .ok settings) (expression : SortOption → List Mapping) :
    ∃ other, ofMapping none other = .ok (settings.withExpressions expression) := by
  obtain ⟨hlog, hbackend, hfacets⟩ := wellFormed_of_ofMapping h
  refine ⟨_, ofMapping_document ⟨hlog, hbackend, ?_⟩⟩
  have hlabels : (settings.withExpressions expression).facets.sorts.map SortOption.label =
      settings.facets.sorts.map SortOption.label := by
    rw [withExpressions, List.map_map]
    rfl
  -- what is required of a sort is about its label, which it keeps
  refine ⟨hfacets.some, hfacets.facets, hfacets.fields, ?_, by rw [hlabels]; exact hfacets.labels⟩
  exact List.forall_mem_map.mpr fun option hoption =>
    ⟨(hfacets.sorts option hoption).label, (hfacets.sorts option hoption).trimmed, expression option, rfl⟩

/--
**Whether a search with a sort can be written is up to the sort and the numbers.**

The sorts of settings that are accepted can be used. With filters that are read and a page from one on, the
body of the search can be built with each of them, and with any other sort that can be used. It has a JSON text
exactly if the mappings that the expression of the sort makes up have one and the size of a page and the
position of the first document can be written.
-/
theorem sorted_body_written_iff {environment : Option String} {raw filters : Mapping} {settings : Settings}
    {dates : DateReader} {state : FilterState} (hsettings : ofMapping environment raw = .ok settings)
    (hread : FilterState.read dates settings.facets.registry filters = .ok state) {page : Int} (hpage : 1 ≤ page)
    (index : Option String) :
    (∀ option ∈ settings.facets.sorts, ∃ ms : List Mapping, option.expression = ms.map .map ∧
      option.mappings = .ok ms) ∧
    ∀ (option : SortOption) (ms : List Mapping), option.mappings = .ok ms →
      ∃ body, settings.service.pageBody ⟨state, some option, index⟩ page = .ok body ∧
        ((∃ text, Json.document body = .ok text) ↔ (∀ m ∈ ms, (Value.map m).HasJson) ∧
          settings.service.pageSize.natAbs < Nat.pow 10 Number.digitLimit ∧
          ((page - 1) * settings.service.pageSize).natAbs < Nat.pow 10 Number.digitLimit) := by
  obtain ⟨-, -, hfacets⟩ := wellFormed_of_ofMapping hsettings
  refine ⟨fun option hoption => ?_, fun option ms hms => ?_⟩
  · obtain ⟨ms, hms⟩ := (hfacets.sorts option hoption).expression
    exact ⟨ms, hms, SortOption.mappings_of_map hms⟩
  · have hfits : ∀ e ∈ FilterState.entries state, e.Fits := FilterState.fits_of_read hfacets.facets hread
    have hnone : ∀ o ∈ (none : Option FilterEntry), o.Fits := nofun
    let context : SearchContext := ⟨state, some option, index⟩
    obtain ⟨query, hquery, hsent⟩ : ∃ query,
        settings.service.compiler.compile context.filters none = .ok query ∧ query.Sent _ :=
      Compiler.exists_sent hfits hnone
    obtain ⟨body, hbody, hjson⟩ := SearchContext.exists_searchBody hquery hsent.plain (.sorted rfl hms)
      ((page - 1) * settings.service.pageSize) settings.service.pageSize
    refine ⟨body, ?_, ?_⟩
    · rw [Service.pageBody, if_neg (by omega), hbody]
    · rw [Json.exists_document_iff, hjson]
      simp [hasJson_list_iff]

/-- A facet for parties, with nothing but what it has to have. -/
def partyFacet : FieldSpec := ⟨"party", .terms, .countDescending, none, none⟩

/-- Settings with this facet and the given sorts. -/
def ofSorts (sorts : List SortOption) : Settings :=
  { log := ⟨.info, false, "log"⟩
    backend := ⟨"http://archive", "idx", "search", BackendSettings.defaultTimeout, 20, ["ocr"]⟩
    facets := ⟨⟨[("party", partyFacet)]⟩, sorts⟩ }

theorem wellFormed_ofSorts {sorts : List SortOption} (hsorts : ∀ option ∈ sorts, option.Labelled)
    (hlabels : (sorts.map SortOption.label).Nodup) : (ofSorts sorts).WellFormed := by
  have hparty : partyFacet.WellFormed := ⟨by decide, Or.inl rfl, Or.inr rfl, nofun⟩
  have hnamed : partyFacet.Named := ⟨by decide, by decide, by decide⟩
  have hbackend : (ofSorts []).backend.WellFormed :=
    ⟨⟨"archive", Or.inl rfl⟩, by decide, by decide, by decide, by decide⟩
  exact ⟨⟨Severity.name_mem _, nofun⟩, hbackend, List.cons_ne_nil _ _,
    List.forall_mem_singleton.mpr hparty, List.forall_mem_singleton.mpr hnamed, hsorts, hlabels⟩

/-- Settings with a sort by year, and a second page: its body has a JSON text. -/
theorem sorted_body_written_iff_year :
    let dates : DateReader := DateText.reader 2025
    let ms : List Mapping := [[(.str "date", .str "desc")], [(.str "year", .int 1)]]
    let year : SortOption := ⟨"Year", ms.map .map⟩
    let settings := ofSorts [year]
    let state : FilterState := [(.str "party", .terms partyFacet ["PS"])]
    ofMapping none settings.document = .ok settings ∧
      FilterState.read dates settings.facets.registry [(.str "party", .str "PS")] = .ok state ∧
      year.mappings = .ok ms ∧ ∃ body, settings.service.pageBody ⟨state, some year, none⟩ 2 = .ok body ∧
        ∃ text, Json.document body = .ok text := by
  intro dates ms year settings state
  have hyear : year.Labelled := ⟨by decide, by decide, ms, rfl⟩
  have hsettings : ofMapping none settings.document = .ok settings :=
    ofMapping_document (wellFormed_ofSorts (List.forall_mem_singleton.mpr hyear) (by decide))
  have hread : FilterState.read dates settings.facets.registry [(.str "party", .str "PS")] = .ok state := by cbv
  have hms : year.mappings = .ok ms := rfl
  obtain ⟨-, hbodies⟩ := sorted_body_written_iff hsettings hread (by decide : (1 : Int) ≤ 2) none
  obtain ⟨body, hbody, hjson⟩ := hbodies year ms hms
  have hshort : ∀ n, n < Nat.pow 10 2 → n < Nat.pow 10 Number.digitLimit := fun _ hn =>
    Number.lt_pow_of_lt hn (by decide)
  refine ⟨hsettings, hread, hms, body, hbody, hjson.mpr ⟨?_, hshort _ (by decide), hshort _ (by decide)⟩⟩
  simp only [ms, hasJson_map_iff, List.forall_mem_cons]
  exact ⟨⟨⟨.scalar (.str _), .scalar (.str _)⟩, List.forall_mem_nil _⟩,
    ⟨⟨.scalar (.str _), hasJson_int_iff.mpr (hshort _ (by decide))⟩, List.forall_mem_nil _⟩,
    List.forall_mem_nil _⟩

/-- A date in the expression of a sort: the settings are accepted, the body of a search is built, and it has
no JSON text. -/
theorem sort_not_written_date :
    let dates : DateReader := DateText.reader 2025
    let missing : Value := .object [("order", .str "desc"), ("missing", .scalar (.date ⟨2020, 1, 1⟩))]
    let date : SortOption := ⟨"Date", [.map [(.str "date", missing)]]⟩
    let settings := ofSorts [date]
    ofMapping none settings.document = .ok settings ∧ date ∈ settings.facets.sorts ∧
      FilterState.read dates settings.facets.registry [] = .ok [] ∧
      ∃ body, settings.service.pageBody ⟨[], some date, none⟩ 1 = .ok body ∧
        Json.document body = .error (.notWritable "date") := by
  intro dates missing date settings
  have hdate : date.Labelled := ⟨by decide, by decide, [[(.str "date", missing)]], rfl⟩
  have hsettings : ofMapping none settings.document = .ok settings :=
    ofMapping_document (wellFormed_ofSorts (List.forall_mem_singleton.mpr hdate) (by decide))
  exact ⟨hsettings, List.mem_singleton_self _, rfl, _, rfl, by decide +kernel⟩

end Settings

end Faceted
