import Faceted.Proofs.Clause.Roundtrip
import Faceted.Proofs.Facet
import Faceted.Proofs.Text.Blank
import Faceted.Proofs.Text.Case
import Faceted.Settings.Facets

/-!
# Facets in settings

A facet that is read from settings is well-formed: its field has no blank at either end, its kind is one
of three and its order one of two, and its extra clause is well-formed (`wellFormed_of_read`). Every such
facet is read back from a document of its own (`read_document`), so that these are exactly the facets
that settings can have.
-/

namespace Faceted

open Text Settings

/-! ## Well-formed facets -/

/-- The kind is one of the three that settings know. -/
def FilterKind.IsKnown (kind : FilterKind) : Prop :=
  kind = .terms ∨ kind = .dates ∨ kind = .query

/-- The order is one of the two that settings know. -/
def BucketOrder.IsKnown (order : BucketOrder) : Prop :=
  order = .keyAscending ∨ order = .countDescending

/-- The facet is one that settings can have. -/
structure FieldSpec.WellFormed (spec : FieldSpec) : Prop where
  field : trimmed spec.field = spec.field
  kind : spec.kind.IsKnown
  order : spec.order.IsKnown
  extra : ∀ clause ∈ spec.extra, clause.WellFormed

/-! ## What is read -/

theorem FilterKind.isKnown_ofName {name : String} (h : name ∈ FilterKind.names) :
    (FilterKind.ofName name).IsKnown := by
  simp only [FilterKind.names, List.mem_cons, List.not_mem_nil, or_false] at h
  rcases h with rfl | rfl | rfl
  · exact Or.inr (Or.inl rfl)
  · exact Or.inr (Or.inr rfl)
  · exact Or.inl rfl

theorem BucketOrder.isKnown_ofName {name : String} (h : name ∈ BucketOrder.names) :
    (BucketOrder.ofName name).IsKnown := by
  simp only [BucketOrder.names, List.mem_cons, List.not_mem_nil, or_false] at h
  rcases h with rfl | rfl
  · exact Or.inr rfl
  · exact Or.inl rfl

theorem Settings.mem_of_requireChoice {key choice : String} {choices : List String} {v : Value}
    (h : requireChoice key choices v = .ok choice) : choice ∈ choices := by
  obtain ⟨s, -, h⟩ := bind_eq_ok_iff.mp h
  dsimp only at h
  split at h
  · next hmem =>
    obtain rfl := Except.ok.inj h
    simpa using hmem
  · cases h

namespace FieldSpec

theorem wellFormed_of_readExtra {key : String} {v : Value} {extra : Option (Clause String)}
    (h : readExtra key v = .ok extra) : ∀ clause ∈ extra, clause.WellFormed := by
  unfold readExtra at h
  split at h
  · obtain rfl := Except.ok.inj h
    simp
  · obtain ⟨clause, hclause, rfl⟩ := map_eq_ok_iff.mp h
    rintro _ ⟨⟩
    exact Clause.wellFormed_of_read _ key clause hclause

/-- **A facet that is read is well-formed.** -/
theorem wellFormed_of_read {key : String} {v : Value} {spec : FieldSpec}
    (h : FieldSpec.read key v = .ok spec) : spec.WellFormed := by
  obtain ⟨part, -, h⟩ := bind_eq_ok_iff.mp h
  obtain ⟨unknown, -, h⟩ := bind_eq_ok_iff.mp h
  dsimp only at h
  split at h
  · cases h
  obtain ⟨_, -, h⟩ := bind_eq_ok_iff.mp h
  obtain ⟨field, -, h⟩ := bind_eq_ok_iff.mp h
  obtain ⟨_, -, h⟩ := bind_eq_ok_iff.mp h
  obtain ⟨kind, hkind, h⟩ := bind_eq_ok_iff.mp h
  obtain ⟨order, horder, h⟩ := bind_eq_ok_iff.mp h
  obtain ⟨extra, hextra, h⟩ := bind_eq_ok_iff.mp h
  obtain ⟨label, -, h⟩ := bind_eq_ok_iff.mp h
  obtain rfl := Except.ok.inj h
  exact ⟨trimmed_trimmed field, FilterKind.isKnown_ofName (mem_of_requireChoice hkind),
    BucketOrder.isKnown_ofName (mem_of_requireChoice horder), wellFormed_of_readExtra hextra⟩

end FieldSpec

/-- The facets of a registry are well-formed. -/
def Registry.WellFormed (registry : Registry) : Prop :=
  ∀ named ∈ registry.specs, named.2.WellFormed

namespace FacetSettings

/-- The facets of a mapping are read one after the other, and all keys are names. -/
theorem readSpecs_cons_eq_ok {e : Key × Value} {m : Mapping} {specs : List (String × FieldSpec)}
    (h : readSpecs (e :: m) = .ok specs) : ∃ key spec rest, e.1 = .str key ∧
      FieldSpec.read ("facets." ++ key) e.2 = .ok spec ∧ readSpecs m = .ok rest ∧
      specs = (key, spec) :: rest := by
  unfold readSpecs at h
  split at h
  · next heq => cases heq
  · next key v rest heq =>
    obtain ⟨rfl, rfl⟩ := List.cons.inj heq
    obtain ⟨spec, hspec, h⟩ := bind_eq_ok_iff.mp h
    obtain ⟨specs, hspecs, h⟩ := bind_eq_ok_iff.mp h
    exact ⟨key, spec, specs, rfl, hspec, hspecs, (Except.ok.inj h).symm⟩
  · cases h

theorem wellFormed_of_readSpecs {m : Mapping} {specs : List (String × FieldSpec)}
    (h : readSpecs m = .ok specs) : ∀ named ∈ specs, named.2.WellFormed := by
  induction m generalizing specs with
  | nil =>
    obtain rfl := Except.ok.inj h
    simp
  | cons e m ih =>
    obtain ⟨key, spec, rest, -, hspec, hrest, rfl⟩ := readSpecs_cons_eq_ok h
    exact List.forall_mem_cons.mpr ⟨FieldSpec.wellFormed_of_read hspec, ih hrest⟩

/-- Facets and sorts are read by themselves. -/
theorem read_eq_ok {raw : Mapping} {settings : FacetSettings} (h : read raw = .ok settings) :
    readRegistry raw = .ok settings.registry ∧ readSortSection raw = .ok settings.sorts := by
  obtain ⟨registry, hregistry, h⟩ := bind_eq_ok_iff.mp h
  obtain ⟨sorts, hsorts, h⟩ := bind_eq_ok_iff.mp h
  obtain rfl := Except.ok.inj h
  exact ⟨hregistry, hsorts⟩

/-- **Settings that are read have well-formed facets only.** -/
theorem wellFormed_of_read {raw : Mapping} {settings : FacetSettings}
    (h : FacetSettings.read raw = .ok settings) : settings.registry.WellFormed := by
  obtain ⟨part, -, hregistry⟩ := bind_eq_ok_iff.mp (read_eq_ok h).1
  obtain ⟨specs, hspecs, hregistry⟩ := bind_eq_ok_iff.mp hregistry
  rw [← Except.ok.inj hregistry]
  exact wellFormed_of_readSpecs hspecs

end FacetSettings

theorem Registry.wellFormed_of_require {registry : Registry} (hr : registry.WellFormed)
    {name : String} {spec : FieldSpec} (h : registry.require name = .ok spec) : spec.WellFormed := by
  obtain ⟨before, after, hspecs, -⟩ := List.lookup_eq_some_iff.mp (require_eq_ok_iff.mp h)
  exact hr (name, spec) (by simp [hspecs])

/-! ## The document of a facet -/

/-- A choice in lower case is read as it is. -/
theorem Settings.requireChoice_of_lower {choice : String} {choices : List String}
    (hmem : choice ∈ choices) (hascii : IsAscii choice.toList)
    (hlower : choice.toList.map Char.toLower = choice.toList) (htrim : trimmed choice = choice)
    (key : String) : requireChoice key choices (.str choice) = .ok choice := by
  have hcase : lowercase (trimmed choice) = choice := by
    rw [htrim, lowercase, lower_ascii hascii, hlower, String.ofList_toList]
  rw [requireChoice, requireString, ok_bind, hcase]
  simp only [List.contains_iff_mem, hmem, if_true]
  rfl

theorem FilterKind.requireChoice_name {kind : FilterKind} (h : kind.IsKnown) (key : String) :
    requireChoice key FilterKind.names (.str kind.name) = .ok kind.name := by
  rcases h with rfl | rfl | rfl <;>
    exact requireChoice_of_lower (by decide) (by decide) (by decide) (by decide) key

theorem BucketOrder.requireChoice_name {order : BucketOrder} (h : order.IsKnown) (key : String) :
    requireChoice key BucketOrder.names (.str order.name) = .ok order.name := by
  rcases h with rfl | rfl <;>
    exact requireChoice_of_lower (by decide) (by decide) (by decide) (by decide) key

theorem FilterKind.ofName_name {kind : FilterKind} (h : kind.IsKnown) : ofName kind.name = kind := by
  rcases h with rfl | rfl | rfl <;> rfl

theorem BucketOrder.ofName_name {order : BucketOrder} (h : order.IsKnown) :
    ofName order.name = order := by
  rcases h with rfl | rfl <;> rfl

namespace FieldSpec

/-- The document of an extra clause, null if there is none. -/
def extraDocument (extra : Option (Clause String)) : Value := (extra.map Clause.toValue).getD .null

theorem readExtra_extraDocument {extra : Option (Clause String)}
    (h : ∀ clause ∈ extra, clause.WellFormed) (key : String) :
    readExtra key (extraDocument extra) = .ok extra := by
  cases extra with
  | none => rfl
  | some clause =>
    -- no clause is written as null, which would stand for no extra clause
    obtain ⟨m, hm⟩ : ∃ m, clause.toValue = .map m := by cases clause <;> exact ⟨_, rfl⟩
    have hread := Clause.read_toValue clause key (h clause rfl)
    rw [extraDocument, Option.map_some, Option.getD_some, hm, readExtra, ← hm, hread]
    · rfl
    · simp

/-- A document that the facet is read from. -/
def document (spec : FieldSpec) : Value :=
  .object [("field", .str spec.field), ("kind", .str spec.kind.name), ("order", .str spec.order.name),
    ("extra_query_field", extraDocument spec.extra), ("label", .ofOption spec.label)]

/-- **A well-formed facet is read back from its document.** -/
theorem read_document {spec : FieldSpec} (h : spec.WellFormed) (key : String) :
    FieldSpec.read key spec.document = .ok spec := by
  have hnames : Mapping.namesOutside allowedKeys _ = .ok [] :=
    @Mapping.namesOutside_object allowedKeys [("field", .str spec.field),
      ("kind", .str spec.kind.name), ("order", .str spec.order.name),
      ("extra_query_field", extraDocument spec.extra), ("label", .ofOption spec.label)]
      (by simp [allowedKeys])
  have hlabel : optionalString (key ++ ".label") (.ofOption spec.label) = .ok spec.label := by
    cases spec.label <;> rfl
  rw [document, Value.object, FieldSpec.read, requireObject, ok_bind, hnames, ok_bind]
  simp only [List.isEmpty_nil, Bool.not_true, Bool.false_eq_true, if_false, List.map_cons, List.map_nil,
    requireEntry, entryOr, Mapping.findOrNull, Entries.find?_cons_self, Entries.find?_cons_of_ne, ne_eq,
    String.reduceEq, not_false_eq_true, ok_bind, requireString, Option.getD_some,
    FilterKind.requireChoice_name h.kind, BucketOrder.requireChoice_name h.order,
    readExtra_extraDocument h.extra, hlabel, FilterKind.ofName_name h.kind,
    BucketOrder.ofName_name h.order, h.field]
  rfl

end FieldSpec

namespace FacetSettings

/-- A document that the facets of a registry are read from. -/
def document (registry : Registry) : Mapping :=
  [(.str "facets", .object (registry.specs.map fun named => (named.1, named.2.document)))]

theorem readSpecs_documents {specs : List (String × FieldSpec)}
    (h : ∀ named ∈ specs, named.2.WellFormed) :
    readSpecs ((specs.map fun named => (named.1, named.2.document)).map fun f => (.str f.1, f.2))
      = .ok specs := by
  induction specs with
  | nil => rfl
  | cons named specs ih =>
    obtain ⟨hnamed, hspecs⟩ := List.forall_mem_cons.mp h
    rw [List.map_cons, List.map_cons, readSpecs, FieldSpec.read_document hnamed, ok_bind, ih hspecs]
    rfl

/-- **Settings can have any well-formed facets.** -/
theorem read_document {registry : Registry} (h : registry.WellFormed) :
    FacetSettings.read (document registry) = .ok ⟨registry, []⟩ := by
  have hspecs := readSpecs_documents h
  have hsection : requiredSection "facets" (document registry) = .ok _ := rfl
  rw [FacetSettings.read, readRegistry, hsection, ok_bind, hspecs]
  rfl

end FacetSettings

end Faceted
