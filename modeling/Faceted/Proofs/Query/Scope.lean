import Faceted.DateText
import Faceted.Proofs.Clause.Leaves
import Faceted.Proofs.Filter.Reading
import Mathlib

/-!
# Which scope a field is searched in

A field of a nested object is found only inside of the nested clause of this object, where it has to be
called by its whole name. The leaves of a compiled query are those of the entries that count, one after
the other, each inside of the nested clause of its facet if the field is dotted (`leaves_compile`). So
the names that the compiler makes of the facet's field are always in scope. Free text is searched in
fields that are set once for all facets: it is inside of the nested clause too, but its fields need not
be (`own_leaves_in_scope`).
-/

namespace Faceted

open Clause

/-! ## The leaves of an entry -/

/-- The leaf of one term on a field. -/
def Selection.termLeaf (field value : String) : Leaf :=
  if Wildcard.isMarked value then .wildcard (field ++ ".raw") else .terms (field ++ ".raw")

/-- The leaves of a selection on a field. -/
def Selection.leaves (fulltextFields : List String) (field : String) : Selection → List Leaf
  | .terms values => values.map (Selection.termLeaf field)
  | .dates _ _ => [.range field]
  | .text _ => [.text fulltextFields]

/-- Nothing is selected: there are no terms to choose from. -/
def Selection.isNothing : Selection → Bool
  | .terms values => values.isEmpty
  | .dates _ _ => false
  | .text _ => false

theorem Selection.isNothing_iff {selection : Selection} :
    selection.isNothing ↔ selection = .terms [] := by
  cases selection <;> simp [isNothing]

namespace FilterEntry

/-- The leaves of what an entry selects, in the scope of its facet. -/
def ownLeaves (fulltextFields : List String) (entry : FilterEntry) : List Placed :=
  match entry.selection? with
  | none => []
  | some selection => (selection.leaves fulltextFields entry.spec.field).map fun leaf =>
      ⟨entry.spec.path.toList, leaf⟩

/-- The leaves of the extra clause that goes with an entry, in the scope of its facet. An entry that
selects nothing goes without it. -/
def extraLeaves (entry : FilterEntry) : List Placed :=
  match entry.selection? with
  | none => []
  | some selection =>
    if selection.isNothing then []
    else entry.spec.extra.toList.flatMap fun extra => extra.leaves.map (Placed.within entry.spec.path)

variable {entry : FilterEntry} {selection : Selection} {fulltextFields : List String}
  {placed : Placed}

theorem ownLeaves_of_selects (h : entry.Selects selection) :
    entry.ownLeaves fulltextFields = (selection.leaves fulltextFields entry.spec.field).map fun leaf =>
      ⟨entry.spec.path.toList, leaf⟩ := by
  rw [ownLeaves, Compiler.selection?_eq_some_iff.mpr h]

theorem extraLeaves_of_selects (h : entry.Selects selection) (hne : selection ≠ .terms []) :
    entry.extraLeaves = entry.spec.extra.toList.flatMap fun extra =>
      extra.leaves.map (Placed.within entry.spec.path) := by
  rw [extraLeaves, Compiler.selection?_eq_some_iff.mpr h]
  exact if_neg fun he => hne (Selection.isNothing_iff.mp he)

theorem mem_ownLeaves_iff : placed ∈ entry.ownLeaves fulltextFields ↔
    ∃ selection leaf, entry.Selects selection ∧
      leaf ∈ selection.leaves fulltextFields entry.spec.field ∧
      placed = ⟨entry.spec.path.toList, leaf⟩ := by
  unfold ownLeaves
  simp only [← Compiler.selection?_eq_some_iff]
  cases entry.selection? with
  | none => simp
  | some selection => simp [eq_comm]

end FilterEntry

namespace Compiler

variable {compiler : Compiler}

/-! ## The leaves of a compiled query -/

theorem leaves_termClause (field value : String) :
    (termClause field value).leaves = [⟨[], Selection.termLeaf field value⟩] := by
  unfold termClause Selection.termLeaf Wildcard.isMarked
  cases Wildcard.decode? value <;> rfl

theorem allLeaves_termClauses (field : String) (values : List String) :
    allLeaves (values.map (termClause field))
      = values.map fun value => ⟨[], Selection.termLeaf field value⟩ := by
  induction values with
  | nil => rfl
  | cons value values ih =>
    rw [List.map_cons, allLeaves, leaves_termClause, ih, List.map_cons, List.singleton_append]

theorem leaves_baseClause {field : String} {selection : Selection} {base : Clause Value}
    (h : compiler.baseClause field selection = some base) :
    base.leaves = (selection.leaves compiler.fulltextFields field).map fun leaf => ⟨[], leaf⟩ := by
  cases selection with
  | terms values =>
    cases values with
    | nil => cases h
    | cons value values =>
      obtain rfl := Option.some.inj h
      rw [Clause.leaves, allLeaves_termClauses, Selection.leaves, List.map_map]
      rfl
  | dates min max =>
    obtain rfl := Option.some.inj h
    rfl
  | text query =>
    obtain rfl := Option.some.inj h
    rfl

theorem leaves_withExtra (extra : Option (Clause String)) (query : Clause Value) :
    (withExtra extra query).leaves = query.leaves ++ extra.toList.flatMap Clause.leaves := by
  cases extra with
  | none => simp [withExtra]
  | some extra => simp [withExtra, Clause.leaves, allLeaves, leaves_mapBounds]

theorem leaves_inScope (field : String) (query : Clause Value) :
    (inScope field query).leaves = query.leaves.map (Placed.within (nestedPath field)) := by
  unfold inScope
  cases nestedPath field with
  | none => rw [Placed.within_none, List.map_id]
  | some path => rw [Clause.leaves]

/-- The clause of an entry has the leaves of what it selects, and then those of the extra clause. -/
theorem allLeaves_compileOne {entry : FilterEntry} {clause : Option (Clause Value)}
    (h : compiler.compileOne entry.spec.field entry = .ok clause) :
    allLeaves clause.toList = entry.ownLeaves compiler.fulltextFields ++ entry.extraLeaves := by
  obtain ⟨selection, -, hs, rfl⟩ := compileOne_eq_ok_iff.mp h
  cases hb : compiler.baseClause entry.spec.field selection with
  | none =>
    obtain rfl := baseClause_eq_none_iff.mp hb
    rw [FilterEntry.ownLeaves, FilterEntry.extraLeaves, selection?_eq_some_iff.mpr hs]
    rfl
  | some base =>
    have hne : selection ≠ .terms [] := by
      intro he
      rw [baseClause_eq_none_iff.mpr he] at hb
      cases hb
    -- the nested clause is the outermost one, so that it puts its path before both kinds of leaves
    rw [FilterEntry.ownLeaves_of_selects hs, FilterEntry.extraLeaves_of_selects hs hne, Option.map_some,
      Option.toList_some, allLeaves, allLeaves, List.append_nil, leaves_inScope, leaves_withExtra,
      leaves_baseClause hb, List.map_append, List.map_map, List.map_flatMap]
    simp [Function.comp_def, Placed.within, FieldSpec.path]

theorem allLeaves_compileEach : ∀ {entries : List FilterEntry} {clauses : List (Clause Value)},
    compiler.compileEach entries = .ok clauses →
      allLeaves clauses = entries.flatMap fun e =>
        e.ownLeaves compiler.fulltextFields ++ e.extraLeaves
  | [], clauses, h => by
    obtain rfl := Except.ok.inj h
    rfl
  | entry :: entries, clauses, h => by
    obtain ⟨clause, hc, h⟩ := bind_eq_ok_iff.mp h
    obtain ⟨rest, hr, h⟩ := bind_eq_ok_iff.mp h
    obtain rfl := Except.ok.inj h
    rw [allLeaves_append, allLeaves_compileOne hc, allLeaves_compileEach hr, List.flatMap_cons]

theorem leaves_conjunction (clauses : List (Clause Value)) :
    (conjunction clauses).leaves = allLeaves clauses := by
  match clauses with
  | [] => rfl
  | [clause] => simp [conjunction, allLeaves]
  | first :: second :: clauses => simp [conjunction, Clause.leaves, allLeaves]

/-- **The leaves of a compiled query are those of the entries that count**, each in the scope of its
facet. -/
theorem leaves_compile {state : FilterState} {override : Option FilterEntry} {query : Clause Value}
    (h : compiler.compile state override = .ok query) :
    query.leaves = (effective state override).flatMap fun e =>
      e.ownLeaves compiler.fulltextFields ++ e.extraLeaves := by
  obtain ⟨clauses, hc, rfl⟩ := map_eq_ok_iff.mp h
  rw [leaves_conjunction, allLeaves_compileEach hc]

end Compiler

/-! ## In scope -/

/-- Every name that a selection makes of its field begins with the field; only free text is searched
elsewhere. -/
theorem Selection.fields_of_mem_leaves {selection : Selection} {fulltextFields : List String}
    {field : String} {leaf : Leaf} (h : leaf ∈ selection.leaves fulltextFields field) :
    (∀ f ∈ leaf.fields, ∃ suffix, f = field ++ suffix) ∨
      (leaf = .text fulltextFields ∧ ∃ query, selection = .text query) := by
  cases selection with
  | terms values =>
    obtain ⟨value, -, rfl⟩ := List.mem_map.mp h
    refine Or.inl fun f hf => ⟨".raw", ?_⟩
    unfold Selection.termLeaf at hf
    split at hf
    · exact List.mem_singleton.mp hf
    · exact List.mem_singleton.mp hf
  | dates min max =>
    obtain rfl := List.mem_singleton.mp h
    refine Or.inl fun f hf => ⟨"", ?_⟩
    rw [List.mem_singleton.mp hf, String.append_empty]
  | text query => exact Or.inr ⟨List.mem_singleton.mp h, query, rfl⟩

namespace FilterEntry

variable {entry : FilterEntry} {fulltextFields : List String} {placed : Placed}

/-- Underneath the nested clause of a facet, what begins with the facet's field begins with the path. -/
theorem fields_of_mem_ownLeaves (h : placed ∈ entry.ownLeaves fulltextFields) :
    ∀ path ∈ placed.scopes, ∀ f ∈ placed.leaf.fields, (∃ rest, f = path ++ "." ++ rest) ∨
      (placed.leaf = .text fulltextFields ∧ ∃ query, entry.Selects (.text query)) := by
  obtain ⟨selection, leaf, hs, hleaf, rfl⟩ := mem_ownLeaves_iff.mp h
  intro path hpath f hf
  obtain ⟨-, rest, hfield⟩ := nestedPath_eq_some_iff.mp (Option.mem_toList.mp hpath)
  rcases Selection.fields_of_mem_leaves hleaf with hfields | ⟨htext, query, rfl⟩
  · obtain ⟨suffix, rfl⟩ := hfields f hf
    exact Or.inl ⟨rest ++ suffix, by rw [hfield, String.append_assoc]⟩
  · exact Or.inr ⟨htext, query, hs⟩

/-- What the entry of a dotted facet selects is underneath the nested clause of the facet's path. -/
theorem path_of_mem_ownLeaves (h : placed ∈ entry.ownLeaves fulltextFields)
    (hdot : '.' ∈ entry.spec.field.toList) : ∃ path ∈ placed.scopes, entry.spec.path = some path := by
  obtain ⟨_, leaf, -, -, rfl⟩ := mem_ownLeaves_iff.mp h
  obtain ⟨path, hpath⟩ : ∃ path, entry.spec.path = some path := by
    rw [← Option.ne_none_iff_exists']
    exact fun hnone => nestedPath_eq_none_iff.mp hnone hdot
  exact ⟨path, by simp [hpath], hpath⟩

/-- Free text of a known kind is of the third kind. -/
theorem kind_eq_query_of_selects {query : String} (hs : entry.Selects (.text query))
    (hk : entry.kind.IsKnown) : entry.kind = .query := by
  cases hs with
  | query => rfl
  | other => simp [FilterKind.IsKnown] at hk

end FilterEntry

namespace Compiler

/-- What compiles has the kind of its facet. -/
theorem kind_eq_of_compileEach {compiler : Compiler} {entries : List FilterEntry}
    {clauses : List (Clause Value)} (h : compiler.compileEach entries = .ok clauses) :
    ∀ e ∈ entries, e.kind = e.spec.kind := by
  induction entries generalizing clauses with
  | nil => simp
  | cons entry entries ih =>
    obtain ⟨clause, hc, h⟩ := bind_eq_ok_iff.mp h
    obtain ⟨rest, hr, -⟩ := bind_eq_ok_iff.mp h
    obtain ⟨_, hkind, -⟩ := compileOne_eq_ok_iff.mp hc
    exact List.forall_mem_cons.mpr ⟨hkind, ih hr⟩

variable {raw filters : Mapping} {settings : FacetSettings} {state : FilterState}
  {override : Option FilterEntry}

/--
**What the compiler makes of a facet's field is in scope; free text need not be.**

Filters that have been read against settings compile with any terms in the place of those on one facet.
The leaves of the query are those of the entries that count and those of their extra clauses. A leaf of
the first kind that belongs to a dotted facet is underneath the nested clause of the facet's path. Each
name that it searches underneath a nested clause begins with the path of this clause and a dot, unless
it is one of the fields that free text is searched in whatever the facet. The further rules that settings
keep play no part in this.
-/
theorem own_leaves_in_scope {dates : DateReader} (hsettings : FacetSettings.read raw = .ok settings)
    (hread : FilterState.read dates settings.registry filters = .ok state)
    (hoverride : ∀ o ∈ override, o.spec.kind = .terms) (fulltextFields : List String) :
    ((∀ o ∈ override, ∃ values, o = .terms o.spec values) →
      ∃ query, compile ⟨settings.registry, fulltextFields⟩ state override = .ok query) ∧
    ∀ query, compile ⟨settings.registry, fulltextFields⟩ state override = .ok query →
      (query.leaves = (effective state override).flatMap fun e =>
        e.ownLeaves fulltextFields ++ e.extraLeaves) ∧
      ∀ e ∈ effective state override, ∀ placed ∈ e.ownLeaves fulltextFields,
        ('.' ∈ e.spec.field.toList → ∃ path ∈ placed.scopes, e.spec.path = some path) ∧
        ∀ path ∈ placed.scopes, ∀ f ∈ placed.leaf.fields, (∃ rest, f = path ++ "." ++ rest) ∨
          (e.kind = .query ∧ placed.leaf = .text fulltextFields) := by
  have hfits := FilterState.fits_of_read (FacetSettings.wellFormed_of_read hsettings) hread
  refine ⟨?_, ?_⟩
  · intro hterms
    refine exists_compile ?_
    rintro e (⟨he, -⟩ | he)
    · exact hfits e he
    · obtain ⟨values, ho⟩ := hterms e he
      rw [ho]
      exact .terms (hoverride e he) values
  · intro query hquery
    refine ⟨leaves_compile hquery, ?_⟩
    intro e he placed hplaced
    refine ⟨FilterEntry.path_of_mem_ownLeaves hplaced, ?_⟩
    -- what has been read is of a known kind; an override may be any entry, but it has compiled
    have hknown : e.kind.IsKnown := by
      obtain ⟨clauses, hc, -⟩ := map_eq_ok_iff.mp hquery
      rw [kind_eq_of_compileEach hc e he]
      rcases mem_effective_iff.mp he with ⟨hmem, -⟩ | ho
      · exact (hfits e hmem).isKnown
      · exact Or.inl (hoverride e ho)
    intro path hpath f hf
    rcases FilterEntry.fields_of_mem_ownLeaves hplaced path hpath f hf with hin | ⟨htext, _, hs⟩
    · exact Or.inl hin
    · exact Or.inr ⟨FilterEntry.kind_eq_query_of_selects hs hknown, htext⟩

/-- Terms and free text inside of one nested object, the terms with an extra clause, and terms on a
field of the document itself in the place of what has been read. -/
theorem own_leaves_in_scope_persons :
    let dates : DateReader := DateText.reader 2025
    let name : FieldSpec :=
      ⟨"persons.name", .terms, .keyAscending, some (.term "persons.type" "mp"), none⟩
    let bio : FieldSpec := ⟨"persons.bio", .query, .countDescending, none, none⟩
    let party : FieldSpec := ⟨"party", .terms, .countDescending, none, some "Party"⟩
    let settings : FacetSettings := ⟨⟨[("name", name), ("bio", bio), ("party", party)]⟩, []⟩
    let filters : Mapping := [(.str "name", .list [.str "Anna", .str "contains: jan"]),
      (.str "party", .str "RPR"), (.str "bio", .str "maire")]
    let state : FilterState := [(.str "name", .terms name ["Anna", Wildcard.encode "jan"]),
      (.str "party", .terms party ["RPR"]), (.str "bio", .query bio "maire")]
    let override : FilterEntry := .terms party ["PS"]
    FacetSettings.read (FacetSettings.document settings.registry) = .ok settings ∧
      FilterState.read dates settings.registry filters = .ok state ∧
      override.spec.kind = .terms ∧
      ∃ query, compile ⟨settings.registry, ["ocr"]⟩ state (some override) = .ok query ∧
        query.leaves = [⟨["persons"], .terms "persons.name.raw"⟩,
          ⟨["persons"], .wildcard "persons.name.raw"⟩, ⟨["persons"], .term "persons.type"⟩,
          ⟨["persons"], .text ["ocr"]⟩, ⟨[], .terms "party.raw"⟩] ∧
        ∀ e ∈ effective state (some override), ∀ placed ∈ e.ownLeaves ["ocr"],
          ∀ path ∈ placed.scopes, ∀ f ∈ placed.leaf.fields, (∃ rest, f = path ++ "." ++ rest) ∨
            (e.kind = .query ∧ placed.leaf = .text ["ocr"]) := by
  intro dates name bio party settings filters state override
  have hsettings : FacetSettings.read (FacetSettings.document settings.registry) = .ok settings := by
    refine FacetSettings.read_document ?_
    simp only [Registry.WellFormed, settings, List.forall_mem_cons]
    refine ⟨⟨by decide, Or.inl rfl, Or.inl rfl, ?_⟩, ⟨by decide, Or.inr (Or.inr rfl), Or.inr rfl, ?_⟩,
      ⟨by decide, Or.inl rfl, Or.inr rfl, ?_⟩, by simp⟩
    · simp [name, Clause.WellFormed]
    · simp [bio]
    · simp [party]
  have hread : FilterState.read dates settings.registry filters = .ok state := by cbv
  have hoverride : ∀ o ∈ some override, o.spec.kind = .terms := by
    rintro _ ⟨⟩
    rfl
  obtain ⟨hcompiles, hscope⟩ := own_leaves_in_scope hsettings hread hoverride ["ocr"]
  obtain ⟨query, hquery⟩ := hcompiles (by rintro _ ⟨⟩; exact ⟨_, rfl⟩)
  obtain ⟨hleaves, hown⟩ := hscope query hquery
  have heffective : effective state (some override)
      = [.terms name ["Anna", Wildcard.encode "jan"], .query bio "maire", override] := by
    simp [effective, FilterState.entries, state, override, FilterEntry.terms, FilterEntry.query, name,
      bio, party]
  have hterms : ∀ spec values, (FilterEntry.terms spec values).selection? = some (.terms values) :=
    fun spec values => selection?_eq_some_iff.mpr (.tuple spec values)
  have hpaths : name.path = some "persons" ∧ bio.path = some "persons" ∧ party.path = none := by decide
  have hmarks : Wildcard.isMarked "Anna" = false ∧ Wildcard.isMarked (Wildcard.encode "jan") = true ∧
      Wildcard.isMarked "PS" = false := by decide
  refine ⟨hsettings, hread, rfl, query, hquery, ?_, fun e he placed hplaced =>
    (hown e he placed hplaced).2⟩
  rw [hleaves, heffective]
  simp only [List.flatMap_cons, List.flatMap_nil, FilterEntry.ownLeaves, FilterEntry.extraLeaves, hterms,
    override]
  simp [FilterEntry.terms, FilterEntry.query, FilterEntry.selection?, Selection.leaves,
    Selection.termLeaf, Selection.isNothing, hpaths, hmarks]
  simp [name, bio, party, Clause.leaves, Placed.within]

/-- Free text of a facet inside of a nested object is searched in a field outside of it. -/
theorem free_text_out_of_scope :
    let dates : DateReader := DateText.reader 2025
    let bio : FieldSpec := ⟨"persons.bio", .query, .countDescending, none, none⟩
    let settings : FacetSettings := ⟨⟨[("bio", bio)]⟩, []⟩
    let state : FilterState := [(.str "bio", .query bio "maire")]
    FacetSettings.read (FacetSettings.document settings.registry) = .ok settings ∧
      settings.check = .ok () ∧
      FilterState.read dates settings.registry [(.str "bio", .str "maire")] = .ok state ∧
      compile ⟨settings.registry, ["ocr"]⟩ state none
        = .ok (.nested "persons" (.simpleQueryString "maire" ["ocr"])) ∧
      ¬∃ rest, "ocr" = "persons" ++ "." ++ rest := by
  intro dates bio settings state
  have hbio : bio.WellFormed := ⟨by decide, Or.inr (Or.inr rfl), Or.inr rfl, by simp [bio]⟩
  refine ⟨FacetSettings.read_document (by simpa [Registry.WellFormed, settings] using hbio), by cbv,
    by cbv, by cbv, ?_⟩
  rintro ⟨rest, h⟩
  have hstart := congrArg String.toList h
  simp at hstart

end Compiler

end Faceted
