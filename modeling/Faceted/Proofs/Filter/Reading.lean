import Faceted.Filter.Reading
import Faceted.Proofs.Query.Meaning
import Faceted.Proofs.Settings.Facets

/-!
# Filters that have been read

A filter fits its facet when it is made for the kind of it: from terms, from bounds of years or from
free text. A state compiles exactly when all filters that count can be compiled (`exists_compile_iff`),
as those can that fit. Every filter that is read against the facets of settings fits (`fits_of_read`):
settings know three kinds of facets, and for each of them reading makes a filter of this kind.
-/

namespace Faceted

/-- The filter is made for the kind of its facet. -/
inductive FilterEntry.Fits : FilterEntry → Prop where
  | terms {spec : FieldSpec} (kind : spec.kind = .terms) (values : List String) :
    Fits (.terms spec values)
  | dates {spec : FieldSpec} (kind : spec.kind = .dates) (range : DateRange) :
    Fits (.dates spec range)
  | query {spec : FieldSpec} (kind : spec.kind = .query) (text : String) :
    Fits (.query spec text)

namespace FilterEntry.Fits

variable {entry : FilterEntry}

theorem kind_eq (h : entry.Fits) : entry.kind = entry.spec.kind := by
  cases h with
  | terms kind => exact kind.symm
  | dates kind => exact kind.symm
  | query kind => exact kind.symm

theorem isKnown (h : entry.Fits) : entry.spec.kind.IsKnown := by
  cases h with
  | terms kind => exact Or.inl kind
  | dates kind => exact Or.inr (Or.inl kind)
  | query kind => exact Or.inr (Or.inr kind)

theorem selects (h : entry.Fits) : ∃ selection, entry.Selects selection := by
  cases h with
  | terms _ values => exact ⟨_, .tuple _ values⟩
  | dates => exact ⟨_, .dates ..⟩
  | query => exact ⟨_, .query ..⟩

end FilterEntry.Fits

/-! ## What compiles -/

/-- The filter can be compiled: it is of the kind of its facet, and its value stands for a selection. -/
def FilterEntry.IsUsable (entry : FilterEntry) : Prop :=
  entry.kind = entry.spec.kind ∧ ∃ selection, entry.Selects selection

theorem FilterEntry.Fits.isUsable {entry : FilterEntry} (h : entry.Fits) : entry.IsUsable :=
  ⟨h.kind_eq, h.selects⟩

namespace Compiler

variable {compiler : Compiler}

theorem exists_compileOne_iff {field : String} {entry : FilterEntry} :
    (∃ clause, compiler.compileOne field entry = .ok clause) ↔ entry.IsUsable := by
  constructor
  · rintro ⟨clause, h⟩
    obtain ⟨selection, hk, hs, -⟩ := compileOne_eq_ok_iff.mp h
    exact ⟨hk, selection, hs⟩
  · rintro ⟨hk, selection, hs⟩
    exact ⟨_, compileOne_eq_ok_iff.mpr ⟨selection, hk, hs, rfl⟩⟩

theorem exists_compileEach_iff {entries : List FilterEntry} :
    (∃ clauses, compiler.compileEach entries = .ok clauses) ↔ ∀ e ∈ entries, e.IsUsable := by
  induction entries with
  | nil => exact iff_of_true ⟨[], rfl⟩ (by simp)
  | cons entry entries ih =>
    rw [List.forall_mem_cons, ← ih]
    constructor
    · rintro ⟨_, h⟩
      obtain ⟨clause, hone, h⟩ := bind_eq_ok_iff.mp h
      obtain ⟨clauses, hrest, -⟩ := bind_eq_ok_iff.mp h
      exact ⟨exists_compileOne_iff.mp ⟨clause, hone⟩, clauses, hrest⟩
    · rintro ⟨hentry, clauses, hrest⟩
      obtain ⟨clause, hone⟩ : ∃ clause, compiler.compileOne entry.spec.field entry = .ok clause :=
        exists_compileOne_iff.mpr hentry
      rw [compileEach, hone, ok_bind, hrest, ok_bind]
      exact ⟨_, rfl⟩

/-- **A state compiles exactly when all filters that count can be compiled.** -/
theorem exists_compile_iff {state : FilterState} {override : Option FilterEntry} :
    (∃ query, compiler.compile state override = .ok query) ↔
      ∀ e, Counts state override e → e.IsUsable := by
  constructor
  · rintro ⟨_, h⟩ e he
    obtain ⟨clauses, h, -⟩ := map_eq_ok_iff.mp h
    exact exists_compileEach_iff.mp ⟨clauses, h⟩ e (mem_effective_iff.mpr he)
  · intro h
    obtain ⟨clauses, hclauses⟩ : ∃ clauses, compiler.compileEach (effective state override)
        = .ok clauses := exists_compileEach_iff.mpr fun e he => h e (mem_effective_iff.mp he)
    exact ⟨_, map_eq_ok_iff.mpr ⟨clauses, hclauses, rfl⟩⟩

/-- **Filters that fit compile**, with any override that fits. -/
theorem exists_compile {state : FilterState} {override : Option FilterEntry}
    (h : ∀ e, Counts state override e → e.Fits) :
    ∃ query, compiler.compile state override = .ok query :=
  exists_compile_iff.mpr fun e he => (h e he).isUsable

end Compiler

/-! ## Reading filters -/

namespace FilterState

variable {dates : DateReader}

theorem fits_of_readValue {spec : FieldSpec} (hk : spec.kind.IsKnown) {key : String} {v : Value}
    {entry : FilterEntry} (h : readValue dates spec key v = .ok (some entry)) : entry.Fits := by
  unfold readValue at h
  rcases hk with hk | hk | hk
  · rw [hk] at h
    obtain ⟨ss, -, h⟩ := bind_eq_ok_iff.mp h
    obtain rfl := Option.some.inj (Except.ok.inj h)
    exact .terms hk _
  · rw [hk] at h
    obtain ⟨range, -, h⟩ := bind_eq_ok_iff.mp h
    obtain rfl := Option.some.inj (Except.ok.inj h)
    exact .dates hk range
  · rw [hk] at h
    obtain ⟨s, -, h⟩ := bind_eq_ok_iff.mp h
    have h := Except.ok.inj h
    -- blank text makes no filter at all
    split at h
    · cases h
    · obtain rfl := Option.some.inj h
      exact .query hk _

/-- An entry is read by the facet that its key is the name of. -/
theorem exists_spec_of_readEntry {registry : Registry} {key : Key} {v : Value} {entry : FilterEntry}
    (h : readEntry dates registry key v = .ok (some entry)) :
    ∃ name spec, key.written = .ok name ∧ registry.require name = .ok spec ∧
      readValue dates spec name v = .ok (some entry) := by
  unfold readEntry at h
  split at h
  · cases h
  · obtain ⟨name, hname, h⟩ := bind_eq_ok_iff.mp h
    obtain ⟨spec, hspec, h⟩ := bind_eq_ok_iff.mp h
    exact ⟨name, spec, hname, hspec, h⟩

/-- What an entry under a key adds to a state. -/
def added (key : Key) (entry : Option FilterEntry) : FilterState := (entry.map fun e => (key, e)).toList

/-- What a document is read as: its first entry is read, then the others. -/
theorem read_cons (dates : DateReader) (registry : Registry) (named : Key × Value) (m : Mapping) :
    read dates registry (named :: m) =
      readEntry dates registry named.1 named.2 >>= fun entry => read dates registry m >>= fun state =>
        pure (added named.1 entry ++ state) := by
  obtain ⟨key, v⟩ := named
  rw [read]
  cases readEntry dates registry key v with
  | error fault => rfl
  | ok entry =>
    cases entry with
    | none => rfl
    | some entry => rfl

theorem read_cons_eq_ok {registry : Registry} {named : Key × Value} {m : Mapping} {state : FilterState}
    (h : read dates registry (named :: m) = .ok state) :
    ∃ entry rest, readEntry dates registry named.1 named.2 = .ok entry ∧ read dates registry m = .ok rest ∧
      state = (entry.map fun e => (named.1, e)).toList ++ rest := by
  rw [read_cons] at h
  obtain ⟨entry, hentry, h⟩ := bind_eq_ok_iff.mp h
  obtain ⟨rest, hrest, h⟩ := bind_eq_ok_iff.mp h
  exact ⟨entry, rest, hentry, hrest, (Except.ok.inj h).symm⟩

/-- **Every filter of a state is read from an entry of the document**, under the same key. -/
theorem exists_readEntry_of_mem {registry : Registry} {m : Mapping} {state : FilterState}
    (h : read dates registry m = .ok state) {key : Key} {entry : FilterEntry} (he : (key, entry) ∈ state) :
    ∃ v, (key, v) ∈ m ∧ readEntry dates registry key v = .ok (some entry) := by
  induction m generalizing state with
  | nil =>
    obtain rfl := Except.ok.inj h
    cases he
  | cons named m ih =>
    obtain ⟨first, rest, hfirst, hrest, rfl⟩ := read_cons_eq_ok h
    rcases List.mem_append.mp he with he | he
    · obtain ⟨found, rfl, hfound⟩ := Option.map_eq_some_iff.mp (Option.mem_toList.mp he)
      obtain ⟨rfl, rfl⟩ := Prod.mk.inj hfound
      exact ⟨named.2, List.mem_cons_self, hfirst⟩
    · obtain ⟨v, hv, hread⟩ := ih hrest he
      exact ⟨v, List.mem_cons_of_mem named hv, hread⟩

/-- **Every filter that is read fits its facet**, if the facets of the registry are well-formed. -/
theorem fits_of_read {registry : Registry} (hr : registry.WellFormed) {m : Mapping}
    {state : FilterState} (h : read dates registry m = .ok state) : ∀ e ∈ entries state, e.Fits := by
  intro e he
  obtain ⟨named, hnamed, rfl⟩ := List.mem_map.mp he
  obtain ⟨v, -, hread⟩ := exists_readEntry_of_mem h hnamed
  obtain ⟨name, spec, -, hspec, hvalue⟩ := exists_spec_of_readEntry hread
  exact fits_of_readValue (Registry.wellFormed_of_require hr hspec).kind hvalue

end FilterState

end Faceted
