import Faceted.Proofs.Clause.Mark
import Faceted.Proofs.Settings.Change

/-!
# Types of settings

Each setting is documented to be of some type (`Setting.type`). A value of another type has a fault of type
there (`Setting.exists_typeFault`), and for this fault a document is refused that could be read otherwise. Two
settings are lenient (`Setting.Lenient`):

* what counts as false stands for no sorts;
* the address of the backend is not looked at if the environment has one.

The mark of a pattern has no type at all: any value counts as true or as false there.
-/

namespace Faceted

open Text Number Settings

/-! ## Types -/

/-- What a setting is documented to be. -/
inductive ValueType where
  | object
  | clause
  | string
  | boolean
  | number
  | integer
  | list
  | strings
  | objects

/-- The value is of the type. Truth values are no numbers. That a clause goes on without an end is for its
reader to find out. -/
def ValueType.holds : ValueType → Value → Bool
  | .object, .map _ => true
  | .clause, .map _ => true
  | .clause, .endless => true
  | .string, .str _ => true
  | .boolean, .bool _ => true
  | .number, .int _ => true
  | .number, .float _ => true
  | .integer, .int _ => true
  | .list, .list _ => true
  | .strings, .list xs => xs.all fun x => x.str?.isSome
  | .objects, .map _ => true
  | .objects, .list xs => xs.all fun x => x.mapping?.isSome
  | _, _ => false

/-- The type of a setting. -/
def Setting.type : Setting → ValueType
  | .log | .backend | .facets | .facet _ | .sort _ => .object
  | .level | .dir | .apiPath | .index | .searchPath | .field _ | .kind _ | .order _ | .label _
  | .sortLabel _ => .string
  | .toFile => .boolean
  | .timeout => .number
  | .pageSize => .integer
  | .fulltextFields => .strings
  | .extra _ => .clause
  | .sorts => .list
  | .expression _ => .objects

/-! ## Checks -/

/-- The computation fails by a fault of type. -/
def Mistyped {α : Type} (x : Except Fault α) : Prop := ∃ fault, x = .error fault ∧ fault.sort = .type

namespace Mistyped

variable {α β : Type} {x : Except Fault α}

theorem bind (h : Mistyped x) (f : α → Except Fault β) : Mistyped (x >>= f) := by
  obtain ⟨fault, rfl, hsort⟩ := h
  exact ⟨fault, rfl, hsort⟩

theorem map (h : Mistyped x) (f : α → β) : Mistyped (x.map f) := by
  obtain ⟨fault, rfl, hsort⟩ := h
  exact ⟨fault, rfl, hsort⟩

theorem error (key : String) (wanted : Shape) :
    Mistyped (.error (.wrongShape key wanted) : Except Fault α) := ⟨_, rfl, rfl⟩

end Mistyped

namespace Settings

variable {key : String} {w : Value}

theorem mistyped_requireObject (h : ValueType.object.holds w = false) : Mistyped (requireObject key w) := by
  unfold requireObject
  split
  · cases h
  · exact .error key .object

theorem mistyped_requireString (h : ValueType.string.holds w = false) : Mistyped (requireString key w) := by
  unfold requireString
  split
  · cases h
  · exact .error key .string

theorem mistyped_optionalString (hnull : w ≠ .null) (h : ValueType.string.holds w = false) :
    Mistyped (optionalString key w) := by
  unfold optionalString
  split
  · exact absurd rfl hnull
  · exact (mistyped_requireString h).map some

theorem mistyped_requireBool (h : ValueType.boolean.holds w = false) : Mistyped (requireBool key w) := by
  unfold requireBool
  split
  · cases h
  · exact .error key .boolean

theorem mistyped_requireInteger (h : ValueType.integer.holds w = false) : Mistyped (requireInteger key w) := by
  unfold requireInteger
  split
  · cases h
  · exact .error key .number
  · exact .error key .integer

theorem mistyped_requireNumber (h : ValueType.number.holds w = false) : Mistyped (requireNumber key w) := by
  unfold requireNumber
  split
  · cases h
  · cases h
  · exact .error key .number

theorem mistyped_requireStringItems {xs : List Value} (h : (xs.all fun x => x.str?.isSome) = false)
    (index : Nat) : Mistyped (requireStringItems key index xs) := by
  induction xs generalizing index with
  | nil => cases h
  | cons x xs ih =>
    rw [requireStringItems]
    cases hx : ValueType.string.holds x with
    | false => exact (mistyped_requireString hx).bind _
    | true =>
      obtain ⟨s, rfl⟩ : ∃ s, x = .str s := by
        unfold ValueType.holds at hx
        split at hx <;> simp_all
      rw [requireString, ok_bind]
      exact (ih (by simpa [Value.str?] using h) (index + 1)).bind _

theorem mistyped_requireStrings (h : ValueType.strings.holds w = false) : Mistyped (requireStrings key w) := by
  unfold requireStrings
  split
  · exact mistyped_requireStringItems h 0
  · exact .error key .list

theorem mistyped_requireChoice (h : ValueType.string.holds w = false) (choices : List String) :
    Mistyped (requireChoice key choices w) := (mistyped_requireString h).bind _

theorem mistyped_requiredSection {name : String} (hnull : w ≠ .null) (h : ValueType.object.holds w = false) :
    Mistyped (requiredSection name [(.str name, w)]) := by
  rw [requiredSection, Mapping.findOrNull_singleton]
  split
  · exact absurd rfl hnull
  · exact mistyped_requireObject h

theorem mistyped_optionalSection {name : String} (hnull : w ≠ .null) (h : ValueType.object.holds w = false) :
    Mistyped (optionalSection name [(.str name, w)]) := by
  rw [optionalSection, Mapping.findOrNull_singleton]
  split
  · exact absurd rfl hnull
  · exact mistyped_requireObject h

end Settings

theorem FieldSpec.mistyped_readExtra {key : String} {w : Value} (hnull : w ≠ .null)
    (h : ValueType.clause.holds w = false) : Mistyped (readExtra key w) := by
  unfold readExtra
  split
  · exact absurd rfl hnull
  · refine Mistyped.map ?_ some
    unfold Clause.read
    split
    · cases h
    · cases h
    · exact .error key .object

/-- A clause that belongs to a facet has no fault exactly if it is of the grammar. -/
theorem FieldSpec.faultOf_readExtra_eq_none_iff {key : String} {m : Mapping} :
    faultOf (readExtra key (.map m)) = none ↔ Clause.Grammatical (.map m) := by
  have hextra : readExtra key (.map m) = (Clause.read key (.map m)).map some := rfl
  rcases Clause.verdict_read (.map m) with ⟨hgrammatical, c, hc⟩ | ⟨hnot, hr⟩
  · dsimp only at hc
    rw [hextra, hc key]
    exact iff_of_true rfl hgrammatical
  · obtain ⟨fault, hfault, -⟩ := hr key
    dsimp only at hfault
    rw [hextra, hfault]
    exact iff_of_false nofun hnot

theorem SortOption.all_mapping_of_mappings? {xs : List Value} {ms : List Mapping}
    (h : mappings? xs = some ms) : (xs.all fun x => x.mapping?.isSome) = true := by
  induction xs generalizing ms with
  | nil => rfl
  | cons x xs ih =>
    rw [mappings?, List.mapM_cons] at h
    obtain ⟨m, hm, h⟩ := Option.bind_eq_some_iff.mp h
    obtain ⟨rest, hrest, -⟩ := Option.bind_eq_some_iff.mp h
    rw [List.all_cons, hm, ih hrest]
    rfl

theorem SortOption.mistyped_readExpression {key : String} {w : Value}
    (h : ValueType.objects.holds w = false) : Mistyped (readExpression key w) := by
  unfold readExpression
  split
  · cases h
  · split
    · next hms => exact absurd (all_mapping_of_mappings? hms) (by simpa [ValueType.holds] using h)
    · exact .error key .objects
  · exact .error key .objects

/-! ## Settings -/

namespace Setting

/-- A setting that is not looked at closely, with a value that passes for it: what counts as false for the
sorts, and any address of the backend if the environment has one. -/
inductive Lenient (environment : Option String) : Setting → Value → Prop
  | sorts {w : Value} (falsy : w.isTruthy = false) : Lenient environment .sorts w
  | apiPath {w : Value} (overridden : trimmed (environment.getD "") ≠ "") : Lenient environment .apiPath w

variable {environment : Option String} {setting : Setting} {w : Value}

theorem fault?_of_lenient (h : setting.Lenient environment w) : setting.fault? environment w = none := by
  cases h with
  | sorts falsy =>
    rw [fault?, FacetSettings.readSortSection, Mapping.findOrNull_singleton, falsy]
    rfl
  | apiPath overridden =>
    have houter : (trimmed (environment.getD "")).isEmpty = false := by simpa using overridden
    rw [fault?, BackendSettings.readApiPath]
    simp only [houter]
    rfl

/-- **A value of another type is refused with a fault of type.** -/
theorem exists_typeFault (hnull : w ≠ .null) (htype : setting.type.holds w = false)
    (hstrict : ¬setting.Lenient environment w) :
    ∃ fault, setting.fault? environment w = some fault ∧ fault.sort = .type := by
  have hfault {α : Type} {x : Except Fault α} (h : Mistyped x) :
      ∃ fault, faultOf x = some fault ∧ fault.sort = .type := by
    obtain ⟨fault, hfault, hsort⟩ := h
    exact ⟨fault, faultOf_eq_some_iff.mpr hfault, hsort⟩
  cases setting with
  | log => exact hfault ((mistyped_optionalSection hnull htype).bind _)
  | backend | facets => exact hfault ((mistyped_requiredSection hnull htype).bind _)
  | facet | sort => exact hfault ((mistyped_requireObject htype).bind _)
  | level | kind | order => exact hfault (mistyped_requireChoice htype _)
  | dir | index | searchPath | field => exact hfault (mistyped_requireString htype)
  | label => exact hfault (mistyped_optionalString hnull htype)
  | sortLabel => exact hfault ((mistyped_requireString htype).bind _)
  | toFile => exact hfault (mistyped_requireBool htype)
  | timeout => exact hfault (mistyped_requireNumber htype)
  | pageSize => exact hfault (mistyped_requireInteger htype)
  | fulltextFields => exact hfault (mistyped_requireStrings htype)
  | extra => exact hfault (FieldSpec.mistyped_readExtra hnull htype)
  | expression => exact hfault (SortOption.mistyped_readExpression htype)
  | apiPath =>
    have houter : (trimmed (environment.getD "")).isEmpty = true := by
      by_contra hset
      exact hstrict (.apiPath (by simpa using hset))
    have hread : BackendSettings.readApiPath environment [(.str "api_path", w)] =
        requireString "backend.api_path" w := by
      rw [BackendSettings.readApiPath, requireEntry, Entries.find?_cons_self]
      simp only [houter, if_true, ok_bind]
    rw [fault?, hread]
    exact hfault (mistyped_requireString htype)
  | sorts =>
    have htruthy : w.isTruthy = true := by
      by_contra hfalsy
      exact hstrict (.sorts (by simpa using hfalsy))
    rw [fault?, FacetSettings.readSortSection, Mapping.findOrNull_singleton]
    simp only [htruthy, Bool.not_true, Bool.false_eq_true, if_false]
    split
    · cases htype
    · exact ⟨_, rfl, rfl⟩

end Setting

namespace Settings

variable {environment : Option String} {raw raw' : Mapping} {settings : Settings}

theorem ofMapping_of_read_error {fault : Fault} (h : read environment raw = .error fault) :
    ofMapping environment raw = .error fault := by
  rw [ofMapping, h]
  rfl

theorem read_unnamed {before after : Mapping} (h : read environment raw = .ok settings)
    (hpart : Entries.find? "facets" raw = some (.map (before ++ after))) {k : Key}
    (hk : ∀ key, k ≠ .str key) (v : Value) :
    read environment (Entries.put (.str "facets") (.map (before ++ (k, v) :: after)) raw) =
      .error .facetNotNamed := by
  obtain ⟨specs, hspecs⟩ := exists_specs h hpart
  refine faultOf_eq_some_iff.mp ?_
  rw [faultOf_read_put_self h (by decide)]
  have hread := FacetSettings.readSpecs_unnamed hspecs hk v
  show faultOf (FacetSettings.readRegistry [(.str "facets", .map (before ++ (k, v) :: after))]) = _
  rw [FacetSettings.readRegistry_of_map (Mapping.findOrNull_singleton "facets" _), hread]
  rfl

theorem sorts_of_falsy (h : read environment raw = .ok settings)
    (hfalsy : (Mapping.findOrNull "sorts" raw).isTruthy = false) : settings.facets.sorts = [] := by
  obtain ⟨-, hsorts⟩ := FacetSettings.read_eq_ok (read_eq_ok h).2.2
  rw [FacetSettings.readSortSection, hfalsy] at hsorts
  exact (Except.ok.inj hsorts).symm

/--
**Settings that can be read are of their types, but for three leniencies.**

Of a document that can be read:

* Each setting that is there and not null is of its type, unless it is a lenient one; and the facets are named
  by strings.
* With a value of another type for one of the settings, or with a facet that is not named by a string, it is
  refused with a fault of type.
* With what passes for a lenient setting it can be read. There are no sorts then if they are the setting.
* With any other mark at a pattern in the clause of a facet, to any depth, it can be read, and the mark is taken
  for the truth value that it counts as.
-/
theorem typed_of_read (h : read environment raw = .ok settings) :
    (∀ (setting : Setting) (w : Value), setting.find? raw = some w → w ≠ .null →
      setting.type.holds w = true ∨ setting.Lenient environment w) ∧
    (∀ part, Entries.find? "facets" raw = some (.map part) →
      ∀ k ∈ Entries.keys part, ∃ key, k = .str key) ∧
    (∀ (setting : Setting) (w : Value) (raw' : Mapping), setting.Replaced w raw raw' → w ≠ .null →
      setting.type.holds w = false → ¬setting.Lenient environment w →
        Mistyped (ofMapping environment raw')) ∧
    (∀ (before after : Mapping) (k : Key) (v : Value),
      Entries.find? "facets" raw = some (.map (before ++ after)) → (∀ key, k ≠ .str key) →
        Mistyped (ofMapping environment
          (Entries.put (.str "facets") (.map (before ++ (k, v) :: after)) raw))) ∧
    (∀ (setting : Setting) (w : Value) (raw' : Mapping), setting.Replaced w raw raw' →
      setting.Lenient environment w → ∃ settings', read environment raw' = .ok settings' ∧
        ((Mapping.findOrNull "sorts" raw').isTruthy = false → settings'.facets.sorts = [])) ∧
    ∀ (key : String) (v : Value) (mark : Value → Value), (Setting.extra key).find? raw = some v →
      Clause.Marking v mark → ∀ (w : Value) (raw' : Mapping), (Setting.extra key).Replaced (mark w) raw raw' →
        (∃ settings', read environment raw' = .ok settings') ∧
          ∀ inner, Clause.read inner (mark w) = Clause.read inner (mark (.bool w.isTruthy)) := by
  refine ⟨fun setting w hw hnull => ?_, fun part hpart => ?_,
    fun setting w raw' hw hnull htype hstrict => ?_, fun before after k v hpart hk => ?_,
    fun setting w raw' hw hlenient => ?_,
    fun key v mark hv hmark w raw' hw => ⟨?_, fun inner => Clause.read_marking hmark w inner⟩⟩
  · by_contra hnot
    obtain ⟨htype, hstrict⟩ := not_or.mp hnot
    obtain ⟨fault, hfault, -⟩ := Setting.exists_typeFault hnull (by simpa using htype) hstrict
    rw [← faultOf_read_of_replaced h (Value.replaced_of_follow? hw), h] at hfault
    cases hfault
  · obtain ⟨specs, hspecs⟩ := exists_specs h hpart
    exact FacetSettings.forall_key_of_readSpecs hspecs
  · obtain ⟨fault, hfault, hsort⟩ := Setting.exists_typeFault hnull htype hstrict
    rw [← faultOf_read_of_replaced h hw, faultOf_eq_some_iff] at hfault
    exact ⟨fault, ofMapping_of_read_error hfault, hsort⟩
  · exact ⟨_, ofMapping_of_read_error (read_unnamed h hpart hk v), rfl⟩
  · have hfault := Setting.fault?_of_lenient hlenient
    rw [← faultOf_read_of_replaced h hw, faultOf_eq_none_iff] at hfault
    obtain ⟨settings', hread⟩ := hfault
    exact ⟨settings', hread, sorts_of_falsy hread⟩
  · obtain ⟨⟨m, rfl⟩, hmap⟩ := hmark.exists_map
    obtain ⟨m', hm'⟩ := hmap w
    have hfine := faultOf_read_of_replaced h (Value.replaced_of_follow? hv)
    rw [h] at hfine
    have hgrammatical := FieldSpec.faultOf_readExtra_eq_none_iff.mp hfine.symm
    have hmarked := Clause.grammatical_of_marking hmark w hgrammatical
    rw [hm'] at hw hmarked
    have hfault := faultOf_read_of_replaced h hw
    rw [Setting.fault?, FieldSpec.faultOf_readExtra_eq_none_iff.mpr hmarked, faultOf_eq_none_iff] at hfault
    exact hfault

/-- A truth value that is written as a string, a list of fields with a number in it and a label that is a
truth value are refused, each in place of one that is fine. -/
theorem typed_of_read_three :
    let backend := Value.object [("api_path", .str "https://archive"), ("index", .str "idx")]
    let facet := Value.object [("field", .str "party"), ("kind", .str "terms")]
    let raw : Mapping := [(.str "log", .object []), (.str "backend", backend),
      (.str "facets", .object [("party", facet)])]
    (∃ settings, read none raw = .ok settings) ∧
      ∀ setting w, (setting, w) ∈ [(Setting.toFile, Value.str "yes"),
          (.fulltextFields, .list [.str "ocr", .int 1]), (.label "party", .bool true)] →
        ∃ raw', setting.Replaced w raw raw' ∧ Mistyped (ofMapping none raw') := by
  intro backend facet raw
  obtain ⟨settings, hread⟩ : ∃ settings, read none raw = .ok settings :=
    faultOf_eq_none_iff.mp (by decide +kernel)
  obtain ⟨-, -, hchanged, -⟩ := typed_of_read hread
  refine ⟨⟨settings, hread⟩, fun setting w hmem => ?_⟩
  simp only [List.mem_cons, Prod.mk.injEq, List.not_mem_nil, or_false] at hmem
  rcases hmem with ⟨rfl, rfl⟩ | ⟨rfl, rfl⟩ | ⟨rfl, rfl⟩
  · have hreplaced : Setting.toFile.Replaced (.str "yes") raw _ := .name rfl .last
    exact ⟨_, hreplaced, hchanged _ _ _ hreplaced nofun rfl nofun⟩
  · have hreplaced : Setting.fulltextFields.Replaced (.list [.str "ocr", .int 1]) raw _ := .name rfl .last
    exact ⟨_, hreplaced, hchanged _ _ _ hreplaced nofun rfl nofun⟩
  · have hreplaced : (Setting.label "party").Replaced (.bool true) raw _ := .name rfl (.name rfl .last)
    exact ⟨_, hreplaced, hchanged _ _ _ hreplaced nofun rfl nofun⟩

/-- **Sorts that are an object are accepted**, if there is nothing in it, and so is a mark that is a string. -/
theorem untyped_settings_accepted :
    let backend := Value.object [("api_path", .str "https://archive"), ("index", .str "idx")]
    let pattern := Value.object [("value", .str "*"), ("case_insensitive", .str "no")]
    let facet := Value.object [("field", .str "party"), ("kind", .str "terms"),
      ("extra_query_field", .object [("wildcard", .object [("role", pattern)])])]
    let raw : Mapping := [(.str "backend", backend), (.str "facets", .object [("party", facet)]),
      (.str "sorts", .object [])]
    Setting.sorts.find? raw = some (.object []) ∧ Setting.sorts.type.holds (.object []) = false ∧
      (ofMapping none raw).toOption.map (fun settings => (settings.facets.sorts.map SortOption.label,
        settings.facets.registry.specs.map fun named => named.2.extra)) =
          some ([], [some (.wildcard "role" "*" true)]) := by
  intro backend pattern facet raw
  exact ⟨rfl, rfl, by decide +kernel⟩

end Settings

end Faceted
