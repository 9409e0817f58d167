import Faceted.DateText
import Faceted.Proofs.Filter.Reading
import Faceted.Proofs.KeyText
import Faceted.Proofs.Settings.Layers
import Mathlib

/-!
# Filters by facet

A facet is looked up under the text of a key, and its filter is kept under the key itself. So each filter of a
state that is read is one on the facet that its key is written like (`exists_facet_of_mem`). The key is the
name of this facet only if it is a string: any other key with the same text is another key, beside which the
name itself can stand.

`KeyedByFacet` says what it means that a state is kept by the names of its facets, and
`keyedByFacet_iff_strings` that this is so exactly if all of its keys are strings.
-/

namespace Faceted

/-! ## Distinct keys -/

/-- The entries of a mapping with distinct keys are named by different keys each. -/
theorem Mapping.HasDistinctKeys.pairwise {m : Mapping} (h : HasDistinctKeys m) :
    m.Pairwise fun a b => ¬Key.same a.1 b.1 = true := by
  induction m with
  | nil => exact .nil
  | cons e m ih =>
    obtain ⟨hfirst, -, hm⟩ := h
    exact .cons (Entries.get?_eq_none_iff.mp hfirst) (ih hm)

namespace FilterState

variable {dates : DateReader}

/-! ## The facet of a filter -/

/-- A filter that is read is one on the facet that it is read by, and of the kind of this facet if that is
one of the three that filters are made for. -/
theorem spec_of_readValue {spec : FieldSpec} {name : String} {v : Value} {entry : FilterEntry}
    (h : readValue dates spec name v = .ok (some entry)) :
    entry.spec = spec ∧ (entry.kind = spec.kind ↔ spec.kind.IsKnown) := by
  unfold readValue at h
  split at h
  · next hkind =>
    obtain ⟨ss, -, h⟩ := bind_eq_ok_iff.mp h
    obtain rfl := Option.some.inj (Except.ok.inj h)
    exact ⟨rfl, fun _ => Or.inl hkind, fun _ => hkind.symm⟩
  · next hkind =>
    obtain ⟨range, -, h⟩ := bind_eq_ok_iff.mp h
    obtain rfl := Option.some.inj (Except.ok.inj h)
    exact ⟨rfl, fun _ => Or.inr (Or.inl hkind), fun _ => hkind.symm⟩
  · next hterms hdates =>
    obtain ⟨s, -, h⟩ := bind_eq_ok_iff.mp h
    have h := Except.ok.inj h
    split at h
    · cases h
    · obtain rfl := Option.some.inj h
      refine ⟨rfl, fun hkind => Or.inr (Or.inr hkind.symm), ?_⟩
      rintro (hkind | hkind | hkind)
      · exact absurd hkind hterms
      · exact absurd hkind hdates
      · exact hkind.symm

variable {registry : Registry} {m : Mapping} {state : FilterState}

/-- **Each filter of a state is one on the facet that its key is written like.** -/
theorem exists_facet_of_mem (h : read dates registry m = .ok state) {key : Key} {entry : FilterEntry}
    (he : (key, entry) ∈ state) :
    ∃ name, key.written = .ok name ∧ registry.find? name = some entry.spec ∧
      (entry.kind = entry.spec.kind ↔ entry.spec.kind.IsKnown) := by
  obtain ⟨v, -, hread⟩ := exists_readEntry_of_mem h he
  obtain ⟨name, spec, hname, hrequire, hvalue⟩ := exists_spec_of_readEntry hread
  obtain ⟨rfl, hkind⟩ := spec_of_readValue hvalue
  exact ⟨name, hname, Registry.require_eq_ok_iff.mp hrequire, hkind⟩

/-- The keys of a state are keys of the document, in the same order. -/
theorem keys_sublist_of_read (h : read dates registry m = .ok state) :
    (Entries.keys state).Sublist (Entries.keys m) := by
  induction m generalizing state with
  | nil =>
    obtain rfl := Except.ok.inj h
    exact .slnil
  | cons named m ih =>
    obtain ⟨entry, rest, -, hrest, rfl⟩ := read_cons_eq_ok h
    cases entry with
    | none => exact (ih hrest).cons _
    | some entry => exact (ih hrest).cons_cons _

/-- **A state has one filter under each of its keys.** -/
theorem pairwise_keys_of_read (distinct : Mapping.HasDistinctKeys m) (h : read dates registry m = .ok state) :
    state.Pairwise fun a b => ¬Key.same a.1 b.1 = true := by
  have hkeys : (Entries.keys m).Pairwise fun k l => ¬Key.same k l = true :=
    List.pairwise_map.mpr distinct.pairwise
  exact List.pairwise_map.mp (hkeys.sublist (keys_sublist_of_read h))

/-! ## The names of facets -/

/-- The state is kept by the names of its facets: each key is the name of the facet that its filter is on,
the filter is of the kind of the facet, and no two filters are under keys that are written like one name. -/
structure KeyedByFacet (registry : Registry) (state : FilterState) : Prop where
  named : ∀ e ∈ state, ∃ name, e.1 = .str name ∧ registry.find? name = some e.2.spec
  kind : ∀ e ∈ state, e.2.kind = e.2.spec.kind
  once : state.Pairwise fun a b => a.1.written ≠ b.1.written

/--
**A state that is read is kept by the names of its facets exactly if all of its keys are strings**, and all
of its facets of a kind that filters are made for, which those of settings always are.

Each filter is one on the facet that its key is written like, and of the kind of this facet. Two filters can
be on one facet for all that: their keys differ, but have the same text, so that at least one of them is no
string.
-/
theorem keyedByFacet_iff_strings (distinct : Mapping.HasDistinctKeys m)
    (h : read dates registry m = .ok state) :
    (∀ e ∈ state, ∃ name, e.1.written = .ok name ∧ registry.find? name = some e.2.spec ∧
      (e.2.kind = e.2.spec.kind ↔ e.2.spec.kind.IsKnown)) ∧
    (state.Pairwise fun a b => ¬Key.same a.1 b.1 = true ∧
      (a.1.written = b.1.written → ¬∃ name other, a.1 = .str name ∧ b.1 = .str other)) ∧
    (KeyedByFacet registry state ↔
      ∀ e ∈ state, (∃ name, e.1 = .str name) ∧ e.2.spec.kind.IsKnown) := by
  have hfacet : ∀ e ∈ state, ∃ name, e.1.written = .ok name ∧
      registry.find? name = some e.2.spec ∧ (e.2.kind = e.2.spec.kind ↔ e.2.spec.kind.IsKnown) :=
    fun e he => exists_facet_of_mem h he
  have honce : state.Pairwise fun a b => ¬Key.same a.1 b.1 = true ∧
      (a.1.written = b.1.written → ¬∃ name other, a.1 = .str name ∧ b.1 = .str other) := by
    refine (pairwise_keys_of_read distinct h).imp ?_
    rintro ⟨_, _⟩ ⟨_, _⟩ hne
    refine ⟨hne, ?_⟩
    rintro heq ⟨name, other, rfl, rfl⟩
    -- strings are written as they are, so that these two are one key
    rw [Key.written_str, Key.written_str] at heq
    obtain rfl := Except.ok.inj heq
    exact hne (Key.same_str_self name)
  refine ⟨hfacet, honce, fun hkeyed e he => ?_, fun hall => ⟨fun e he => ?_, fun e he => ?_, ?_⟩⟩
  · obtain ⟨name, hname, -⟩ := hkeyed.named e he
    obtain ⟨-, -, -, hkind⟩ := hfacet e he
    exact ⟨⟨name, hname⟩, hkind.mp (hkeyed.kind e he)⟩
  · obtain ⟨⟨name, hname⟩, -⟩ := hall e he
    obtain ⟨written, hwritten, hfind, -⟩ := hfacet e he
    rw [hname, Key.written_str] at hwritten
    obtain rfl := Except.ok.inj hwritten
    exact ⟨name, hname, hfind⟩
  · obtain ⟨-, -, -, hkind⟩ := hfacet e he
    exact hkind.mpr (hall e he).2
  · refine honce.imp_of_mem fun {a b} ha hb hne heq => ?_
    obtain ⟨⟨name, hname⟩, -⟩ := hall a ha
    obtain ⟨⟨other, hother⟩, -⟩ := hall b hb
    exact hne.2 heq ⟨name, other, hname, hother⟩

/-- Two string keys: the state is kept by the names of the two facets. -/
theorem keyedByFacet_iff_strings_two :
    let dates : DateReader := DateText.reader 2025
    let party : FieldSpec := ⟨"party", .terms, .countDescending, none, none⟩
    let text : FieldSpec := ⟨"ocr", .query, .countDescending, none, none⟩
    let registry : Registry := ⟨[("1981", party), ("text", text)]⟩
    let filters : Mapping := [(.str "text", .str " grève "), (.str "1981", .str "PS")]
    let state : FilterState := [(.str "text", .query text "grève"), (.str "1981", .terms party ["PS"])]
    Mapping.HasDistinctKeys filters ∧ read dates registry filters = .ok state ∧ KeyedByFacet registry state := by
  intro dates party text registry filters state
  have hdistinct : Mapping.HasDistinctKeys filters := by
    simp [filters, Mapping.HasDistinctKeys, Value.HasDistinctKeys, Entries.get?, Key.same_str]
  have hread : read dates registry filters = .ok state := by cbv
  obtain ⟨-, -, hkeyed⟩ := keyedByFacet_iff_strings hdistinct hread
  refine ⟨hdistinct, hread, hkeyed.mpr ?_⟩
  simp only [state, List.forall_mem_cons]
  exact ⟨⟨⟨_, rfl⟩, Or.inr (Or.inr rfl)⟩, ⟨⟨_, rfl⟩, Or.inl rfl⟩, List.forall_mem_nil _⟩

/-- An integer and the string with the same text as keys: one facet has two filters, the first of them under
a key that is the name of no facet. -/
theorem not_keyedByFacet_integer :
    let dates : DateReader := DateText.reader 2025
    let party : FieldSpec := ⟨"party", .terms, .countDescending, none, none⟩
    let settings : FacetSettings := ⟨⟨[("1981", party)]⟩, []⟩
    let filters : Mapping := [(.scalar (.int 1981), .str "PS"), (.str "1981", .str "RPR")]
    let state : FilterState :=
      [(.scalar (.int 1981), .terms party ["PS"]), (.str "1981", .terms party ["RPR"])]
    FacetSettings.read (FacetSettings.document settings.registry) = .ok settings ∧
      Mapping.HasDistinctKeys filters ∧ read dates settings.registry filters = .ok state ∧
      ¬KeyedByFacet settings.registry state := by
  intro dates party settings filters state
  refine ⟨FacetSettings.read_document ?_, ?_, by cbv, fun hkeyed => ?_⟩
  · simp only [Registry.WellFormed, settings, List.forall_mem_singleton]
    exact ⟨by decide, Or.inl rfl, Or.inr rfl, by simp [party]⟩
  · simp only [filters, Mapping.HasDistinctKeys, Value.HasDistinctKeys, and_self, and_true, true_and]
    decide
  · obtain ⟨name, hname, -⟩ := hkeyed.named _ List.mem_cons_self
    cases hname

end FilterState

end Faceted
