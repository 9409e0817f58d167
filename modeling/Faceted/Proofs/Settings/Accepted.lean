import Faceted.Proofs.Facet
import Faceted.Proofs.Settings.Facets
import Faceted.Settings

/-!
# Accepted settings

What the rest of the program relies on without another look: the settings that are accepted are
well-formed, each section of them (`wellFormed_of_ofMapping`).

* A section is read and then checked, so that each of its facts comes from its reader or from its check:
  `wellFormed_iff_check` for the log and the backend, `check_eq_ok_iff` and `labelled_of_read` for facets
  and sorts.
* A field that is checked comes apart at its first dot into a path and a rest that are both there
  (`FieldSpec.Named.path_cases`), and labels that differ make each sort the one that its label finds
  (`FacetSettings.sort_eq_ok_iff`).
* There are no further facts of this kind: all well-formed settings are accepted from a document of
  their own (`exists_ofMapping_iff`).
-/

namespace Faceted

open Text Number Settings

theorem Settings.keep_eq_ok_iff {holds : Bool} {rule : Rule} {u : Unit} :
    keep holds rule = .ok u ↔ holds = true := by
  cases holds <;> simp [keep]

/-! ## The log -/

/-- The severity is one of five by its name, and the directory of the log files is named when there are
log files. -/
structure LogSettings.WellFormed (settings : LogSettings) : Prop where
  level : settings.level.name ∈ ["DEBUG", "INFO", "WARNING", "ERROR", "CRITICAL"]
  dir : settings.toFile = true → trimmed settings.dir ≠ ""

theorem Severity.name_mem (level : Severity) :
    level.name ∈ ["DEBUG", "INFO", "WARNING", "ERROR", "CRITICAL"] := by
  cases level <;> decide

theorem Severity.name_ofSetting : ∀ {choice : String}, choice ∈ Severity.settings →
    (Severity.ofSetting choice).name = uppercase choice := by
  decide +kernel

/-- A choice that is read is the text of the setting, trimmed and in lower case. -/
theorem Settings.exists_text_of_requireChoice {key choice : String} {choices : List String} {v : Value}
    (h : requireChoice key choices v = .ok choice) :
    ∃ text, v = .str text ∧ choice = lowercase (trimmed text) := by
  obtain ⟨text, htext, h⟩ := bind_eq_ok_iff.mp h
  refine ⟨text, ?_, ?_⟩
  · unfold requireString at htext
    split at htext
    · rw [Except.ok.inj htext]
    · cases htext
  · dsimp only at h
    split at h
    · exact (Except.ok.inj h).symm
    · cases h

namespace LogSettings

theorem wellFormed_iff_check {settings : LogSettings} :
    settings.WellFormed ↔ settings.check = .ok () := by
  rw [check, keep_eq_ok_iff, Bool.not_eq_true', Bool.and_eq_false_imp]
  simp only [isBlankString_eq_false_iff]
  exact ⟨WellFormed.dir, fun h => ⟨Severity.name_mem _, h⟩⟩

/-- **The severity is the one that the section names**, in any case and between blanks. -/
theorem level_of_read {raw : Mapping} {settings : LogSettings} (h : read raw = .ok settings) :
    ∃ part text, optionalSection "log" raw = .ok part ∧ entryOr "level" (.str "INFO") part = .str text ∧
      settings.level.name = uppercase (lowercase (trimmed text)) := by
  obtain ⟨part, hpart, h⟩ := bind_eq_ok_iff.mp h
  obtain ⟨level, hlevel, h⟩ := bind_eq_ok_iff.mp h
  obtain ⟨toFile, -, h⟩ := bind_eq_ok_iff.mp h
  obtain ⟨dir, -, h⟩ := bind_eq_ok_iff.mp h
  obtain rfl := Except.ok.inj h
  obtain ⟨text, htext, hchoice⟩ := exists_text_of_requireChoice hlevel
  have hname := Severity.name_ofSetting (mem_of_requireChoice hlevel)
  exact ⟨part, text, hpart, htext, hname.trans (congrArg uppercase hchoice)⟩

end LogSettings

/-! ## The backend -/

/-- The address is one of the web, the index is named, the timeout is not one that has passed, a page
has documents, and free text has a field. -/
structure BackendSettings.WellFormed (settings : BackendSettings) : Prop where
  apiPath : ∃ rest, settings.apiPath = "http://" ++ rest ∨ settings.apiPath = "https://" ++ rest
  index : trimmed settings.index ≠ ""
  timeout : settings.timeout.isNonpositive = false
  pageSize : 1 ≤ settings.pageSize
  fulltextFields : settings.fulltextFields ≠ []

namespace BackendSettings

theorem exists_append_of_stripStart? {s p : String} :
    (stripStart? p.toList s.toList).isSome = true ↔ ∃ rest, s = p ++ rest := by
  rw [Option.isSome_iff_exists]
  constructor
  · rintro ⟨rest, h⟩
    refine ⟨String.ofList rest, ?_⟩
    rw [← String.toList_inj, eq_append_of_stripStart? h]
    simp
  · rintro ⟨rest, rfl⟩
    exact ⟨rest.toList, by rw [String.toList_append, stripStart?_append]⟩

theorem isUrl_iff {s : String} :
    isUrl s = true ↔ ∃ rest, s = "http://" ++ rest ∨ s = "https://" ++ rest := by
  rw [isUrl, Bool.or_eq_true, exists_append_of_stripStart?, exists_append_of_stripStart?, exists_or]

/-- An address of the web is not blank. -/
theorem trimmed_ne_empty_of_isUrl {s : String} (h : isUrl s = true) : trimmed s ≠ "" := by
  obtain ⟨rest, rfl | rfl⟩ := isUrl_iff.mp h
  · exact trimmed_ne_empty_of_mem (c := 'h') (by simp) (by decide)
  · exact trimmed_ne_empty_of_mem (c := 'h') (by simp) (by decide)

theorem wellFormed_iff_check {settings : BackendSettings} :
    settings.WellFormed ↔ settings.check = .ok () := by
  simp only [check, bind_eq_ok_iff, keep_eq_ok_iff, Bool.not_eq_true', isBlankString_eq_false_iff,
    decide_eq_true_eq, List.isEmpty_eq_false_iff, exists_and_left, exists_const]
  constructor
  · rintro ⟨apiPath, index, timeout, pageSize, fulltextFields⟩
    have hurl := isUrl_iff.mpr apiPath
    exact ⟨trimmed_ne_empty_of_isUrl hurl, hurl, index, timeout, by omega, fulltextFields⟩
  · rintro ⟨-, hurl, index, timeout, pageSize, fulltextFields⟩
    exact ⟨isUrl_iff.mp hurl, index, timeout, by omega, fulltextFields⟩

end BackendSettings

/-! ## Facets and sorts -/

/-- The field of a facet is there, and no dot is at either end of it. -/
structure FieldSpec.Named (spec : FieldSpec) : Prop where
  field : spec.field ≠ ""
  first : spec.field.toList.head? ≠ some '.'
  last : spec.field.toList.getLast? ≠ some '.'

/-- The label of a sort is there, and no blank is at either end of it. The expression is made of mappings. -/
structure SortOption.Labelled (option : SortOption) : Prop where
  label : option.label ≠ ""
  trimmed : Text.trimmed option.label = option.label
  expression : ∃ ms : List Mapping, option.expression = ms.map .map

/-- There is a facet, all facets are well-formed and named, and all sorts have labels of their own. -/
structure FacetSettings.WellFormed (settings : FacetSettings) : Prop where
  some : settings.registry.specs ≠ []
  facets : settings.registry.WellFormed
  fields : ∀ named ∈ settings.registry.specs, named.2.Named
  sorts : ∀ option ∈ settings.sorts, option.Labelled
  labels : (settings.sorts.map SortOption.label).Nodup

namespace FacetSettings

theorem checkSpec_eq_ok_iff {key : String} {spec : FieldSpec} (h : trimmed spec.field = spec.field) :
    checkSpec key spec = .ok () ↔ spec.Named := by
  simp only [checkSpec, bind_eq_ok_iff, keep_eq_ok_iff, Bool.not_eq_true', isBlankString_eq_false_iff,
    Bool.and_eq_true, bne_iff_ne, exists_and_left, exists_const, h]
  exact ⟨fun ⟨field, first, last⟩ => ⟨field, first, last⟩, fun ⟨field, first, last⟩ => ⟨field, first, last⟩⟩

theorem checkSpecs_eq_ok_iff {specs : List (String × FieldSpec)}
    (h : ∀ named ∈ specs, named.2.WellFormed) :
    checkSpecs specs = .ok () ↔ ∀ named ∈ specs, named.2.Named := by
  induction specs with
  | nil => simp [checkSpecs]
  | cons named specs ih =>
    obtain ⟨hnamed, hspecs⟩ := List.forall_mem_cons.mp h
    simp only [checkSpecs, bind_eq_ok_iff, exists_and_left, exists_const, ih hspecs,
      checkSpec_eq_ok_iff hnamed.field, List.forall_mem_cons]

theorem allDistinct_iff {ss : List String} : allDistinct ss = true ↔ ss.Nodup := by
  induction ss with
  | nil => simp [allDistinct]
  | cons s ss ih => simp [allDistinct, ih]

theorem check_eq_ok_iff {settings : FacetSettings} (h : settings.registry.WellFormed) :
    settings.check = .ok () ↔ settings.registry.specs ≠ [] ∧
      (∀ named ∈ settings.registry.specs, named.2.Named) ∧
      (settings.sorts.map SortOption.label).Nodup := by
  simp only [check, bind_eq_ok_iff, keep_eq_ok_iff, Bool.not_eq_true', List.isEmpty_eq_false_iff,
    exists_and_left, exists_const, checkSpecs_eq_ok_iff h, allDistinct_iff]

end FacetSettings

/-- A sort that is read has a label, and mappings. -/
theorem SortOption.labelled_of_read {key : String} {v : Value} {option : SortOption}
    (h : SortOption.read key v = .ok option) : option.Labelled := by
  obtain ⟨part, -, h⟩ := bind_eq_ok_iff.mp h
  obtain ⟨_, -, h⟩ := bind_eq_ok_iff.mp h
  obtain ⟨label, -, h⟩ := bind_eq_ok_iff.mp h
  split at h
  · cases h
  next hlabel =>
  obtain ⟨_, -, h⟩ := bind_eq_ok_iff.mp h
  obtain ⟨expression, -, h⟩ := bind_eq_ok_iff.mp h
  obtain rfl := Except.ok.inj h
  exact ⟨by simpa using hlabel, trimmed_trimmed label, expression, rfl⟩

namespace FacetSettings

theorem labelled_of_readSorts {index : Nat} {xs : List Value} {sorts : List SortOption}
    (h : readSorts index xs = .ok sorts) : ∀ option ∈ sorts, option.Labelled := by
  induction xs generalizing index sorts with
  | nil =>
    obtain rfl := Except.ok.inj h
    simp
  | cons x xs ih =>
    obtain ⟨option, hoption, h⟩ := bind_eq_ok_iff.mp h
    obtain ⟨options, hoptions, h⟩ := bind_eq_ok_iff.mp h
    obtain rfl := Except.ok.inj h
    exact List.forall_mem_cons.mpr ⟨SortOption.labelled_of_read hoption, ih hoptions⟩

theorem labelled_of_readSortSection {raw : Mapping} {sorts : List SortOption}
    (h : readSortSection raw = .ok sorts) : ∀ option ∈ sorts, option.Labelled := by
  unfold readSortSection at h
  extract_lets v at h
  clear_value v
  split at h
  · obtain rfl := Except.ok.inj h
    simp
  · split at h
    · exact labelled_of_readSorts h
    · cases h

theorem labelled_of_read {raw : Mapping} {settings : FacetSettings} (h : read raw = .ok settings) :
    ∀ option ∈ settings.sorts, option.Labelled :=
  labelled_of_readSortSection (read_eq_ok h).2

end FacetSettings

/-! ## What follows -/

/-- **The field of a facet has no dot, or comes apart at its first dot** into a path and a rest that are
both there. -/
theorem FieldSpec.Named.path_cases {spec : FieldSpec} (h : spec.Named) :
    (spec.path = none ∧ '.' ∉ spec.field.toList) ∨
      ∃ path rest, spec.path = some path ∧ path ≠ "" ∧ '.' ∉ path.toList ∧ rest ≠ "" ∧
        spec.field = path ++ "." ++ rest := by
  by_cases hdot : '.' ∈ spec.field.toList
  · obtain ⟨path, rest, hfield, hpath⟩ := eq_append_dot_of_mem hdot
    have hchars : spec.field.toList = path.toList ++ '.' :: rest.toList := by simp [hfield]
    refine Or.inr ⟨path, rest, nestedPath_eq_some_iff.mpr ⟨hpath, rest, hfield⟩, ?_, hpath, ?_, hfield⟩
    · rintro rfl
      exact h.first (by simp [hchars])
    · rintro rfl
      exact h.last (by simp [hchars])
  · exact Or.inl ⟨nestedPath_eq_none_iff.mpr hdot, hdot⟩

namespace FacetSettings

/-- **A label finds the sort that it is the label of**, if labels differ. -/
theorem sort_eq_ok_iff {settings : FacetSettings} (h : (settings.sorts.map SortOption.label).Nodup)
    {label : String} {option : SortOption} :
    settings.sort label = .ok option ↔ option ∈ settings.sorts ∧ option.label = label := by
  have hfind : settings.sorts.find? (·.label == label) = some option ↔
      option ∈ settings.sorts ∧ option.label = label := by
    rw [List.find?_eq_some_iff_append]
    constructor
    · rintro ⟨hlabel, before, after, hsorts, -⟩
      exact ⟨by simp [hsorts], by simpa using hlabel⟩
    · rintro ⟨hmem, rfl⟩
      obtain ⟨before, after, hsorts⟩ := List.append_of_mem hmem
      refine ⟨by simp, before, after, hsorts, fun other hother => ?_⟩
      -- a sort before it with the same label would be a second one
      rw [hsorts, List.map_append, List.map_cons, List.nodup_append] at h
      have hne := h.2.2 other.label (List.mem_map_of_mem hother) option.label List.mem_cons_self
      simpa using hne
  rw [sort, ← hfind]
  cases settings.sorts.find? (·.label == label) <;> simp

theorem sort_eq_error_iff {settings : FacetSettings} {label : String} {fault : Fault} :
    settings.sort label = .error fault ↔
      (∀ option ∈ settings.sorts, option.label ≠ label) ∧ fault = .unknownSort label := by
  have hnone : settings.sorts.find? (·.label == label) = none ↔
      ∀ option ∈ settings.sorts, option.label ≠ label := by
    simp
  rw [sort, ← hnone]
  cases settings.sorts.find? (·.label == label) with
  | none => simp [eq_comm]
  | some option => simp

end FacetSettings

/-! ## Documents of settings -/

/-- The document of the section `log`. -/
def LogSettings.document (settings : LogSettings) : Value :=
  .object [("level", .str settings.level.name), ("to_file", .bool settings.toFile),
    ("dir", .str settings.dir)]

/-- The document of the section `backend`. -/
def BackendSettings.document (settings : BackendSettings) : Value :=
  .object [("api_path", .str settings.apiPath), ("index", .str settings.index),
    ("search_path", .str settings.searchPath), ("timeout", .float settings.timeout),
    ("pagination_size", .int settings.pageSize), ("fulltext_fields", .strs settings.fulltextFields)]

/-- The document of a sort. -/
def SortOption.document (option : SortOption) : Value :=
  .object [("label", .str option.label), ("expression", .list option.expression)]

/-- A document that the settings are read from. -/
def Settings.document (settings : Settings) : Mapping :=
  [(.str "log", settings.log.document), (.str "backend", settings.backend.document),
    (.str "facets", .object (settings.facets.registry.specs.map fun named => (named.1, named.2.document))),
    (.str "sorts", .list (settings.facets.sorts.map SortOption.document))]

theorem Severity.requireChoice_name (level : Severity) (key : String) :
    requireChoice key Severity.settings (.str level.name) = .ok (lowercase level.name) := by
  have htrim : trimmed level.name = level.name := by cases level <;> decide
  have hmem : lowercase level.name ∈ Severity.settings := by cases level <;> decide +kernel
  rw [requireChoice, requireString, ok_bind, htrim]
  simp only [List.contains_iff_mem, hmem, if_true]
  rfl

theorem Severity.ofSetting_name (level : Severity) : ofSetting (lowercase level.name) = level := by
  cases level <;> decide +kernel

theorem LogSettings.read_document {settings : LogSettings} {raw : Mapping}
    (h : Mapping.findOrNull "log" raw = settings.document) : LogSettings.read raw = .ok settings := by
  rw [LogSettings.read, optionalSection, h, document, Value.object]
  simp only [requireObject, ok_bind, entryOr, List.map_cons, List.map_nil, Entries.find?_cons_self,
    Entries.find?_cons_of_ne, ne_eq, String.reduceEq, not_false_eq_true, Option.getD_some,
    Severity.requireChoice_name, requireBool, requireString, Severity.ofSetting_name]
  rfl

theorem Settings.requireStringItems_strs (key : String) (ss : List String) (index : Nat) :
    requireStringItems key index (ss.map .str) = .ok ss := by
  induction ss generalizing index with
  | nil => rfl
  | cons s ss ih =>
    rw [List.map_cons, requireStringItems, requireString, ok_bind, ih]
    rfl

theorem BackendSettings.read_document {settings : BackendSettings} {raw : Mapping}
    (h : Mapping.findOrNull "backend" raw = settings.document) :
    BackendSettings.read none raw = .ok settings := by
  have hblank : (trimmed "").isEmpty = true := by decide
  rw [BackendSettings.read, requiredSection, h, document, Value.object]
  simp only [requireObject, ok_bind, readApiPath, Option.getD_none, hblank, if_true, entryOr, requireEntry,
    List.map_cons, List.map_nil, Entries.find?_cons_self, Entries.find?_cons_of_ne, ne_eq, String.reduceEq,
    not_false_eq_true, Option.getD_some, requireString, requireNumber, requireInteger, Value.strs,
    requireStrings, requireStringItems_strs]
  rfl

theorem SortOption.mappings?_map (ms : List Mapping) : mappings? (ms.map .map) = some ms := by
  induction ms with
  | nil => rfl
  | cons m ms ih =>
    rw [mappings?] at ih ⊢
    rw [List.map_cons, List.mapM_cons, ih]
    rfl

theorem SortOption.read_document {option : SortOption} (h : option.Labelled) (key : String) :
    SortOption.read key option.document = .ok option := by
  have hlabel : option.label.isEmpty = false := by
    rw [Bool.eq_false_iff, ne_eq, String.isEmpty_iff]
    exact h.label
  obtain ⟨label, expression⟩ := option
  obtain ⟨ms, rfl⟩ := h.expression
  have htrimmed : trimmed label = label := h.trimmed
  rw [SortOption.read, document, Value.object]
  simp only [requireObject, ok_bind, requireEntry, List.map_cons, List.map_nil, Entries.find?_cons_self,
    Entries.find?_cons_of_ne, ne_eq, String.reduceEq, not_false_eq_true, requireString, hlabel,
    Bool.false_eq_true, if_false, readExpression, mappings?_map, htrimmed]
  rfl

namespace FacetSettings

theorem readSorts_documents {sorts : List SortOption} (h : ∀ option ∈ sorts, option.Labelled)
    (index : Nat) : readSorts index (sorts.map SortOption.document) = .ok sorts := by
  induction sorts generalizing index with
  | nil => rfl
  | cons option sorts ih =>
    obtain ⟨hoption, hsorts⟩ := List.forall_mem_cons.mp h
    rw [List.map_cons, readSorts, SortOption.read_document hoption, ok_bind, ih hsorts]
    rfl

theorem readSortSection_documents {sorts : List SortOption} (h : ∀ option ∈ sorts, option.Labelled)
    {raw : Mapping} (hraw : Mapping.findOrNull "sorts" raw = .list (sorts.map SortOption.document)) :
    readSortSection raw = .ok sorts := by
  rw [readSortSection, hraw]
  cases sorts with
  | nil => rfl
  | cons option sorts => exact readSorts_documents h 0

end FacetSettings

/-! ## All sections -/

namespace Settings

/-- All sections are well-formed. -/
structure WellFormed (settings : Settings) : Prop where
  log : settings.log.WellFormed
  backend : settings.backend.WellFormed
  facets : settings.facets.WellFormed

/-- Each section is read by itself. -/
theorem read_eq_ok {environment : Option String} {raw : Mapping} {settings : Settings}
    (h : read environment raw = .ok settings) :
    LogSettings.read raw = .ok settings.log ∧ BackendSettings.read environment raw = .ok settings.backend ∧
      FacetSettings.read raw = .ok settings.facets := by
  obtain ⟨log, hlog, h⟩ := bind_eq_ok_iff.mp h
  obtain ⟨backend, hbackend, h⟩ := bind_eq_ok_iff.mp h
  obtain ⟨facets, hfacets, h⟩ := bind_eq_ok_iff.mp h
  obtain rfl := Except.ok.inj h
  exact ⟨hlog, hbackend, hfacets⟩

/-- Settings are accepted that can be read and keep the rules. -/
theorem ofMapping_eq_ok_iff {environment : Option String} {raw : Mapping} {settings : Settings} :
    ofMapping environment raw = .ok settings ↔
      read environment raw = .ok settings ∧ settings.check = .ok () := by
  constructor
  · intro h
    obtain ⟨settings', hread, h⟩ := bind_eq_ok_iff.mp h
    obtain ⟨_, hcheck, h⟩ := bind_eq_ok_iff.mp h
    obtain rfl := Except.ok.inj h
    exact ⟨hread, hcheck⟩
  · rintro ⟨hread, hcheck⟩
    rw [ofMapping, hread, ok_bind, hcheck]
    rfl

/-- **Settings that are accepted are well-formed.** -/
theorem wellFormed_of_ofMapping {environment : Option String} {raw : Mapping} {settings : Settings}
    (h : ofMapping environment raw = .ok settings) : settings.WellFormed := by
  obtain ⟨hread, hcheck⟩ := ofMapping_eq_ok_iff.mp h
  obtain ⟨-, -, hread⟩ := read_eq_ok hread
  obtain ⟨_, hlog, hcheck⟩ := bind_eq_ok_iff.mp hcheck
  obtain ⟨_, hbackend, hfacets⟩ := bind_eq_ok_iff.mp hcheck
  have hregistry := FacetSettings.wellFormed_of_read hread
  obtain ⟨some, fields, labels⟩ := (FacetSettings.check_eq_ok_iff hregistry).mp hfacets
  exact ⟨LogSettings.wellFormed_iff_check.mpr hlog, BackendSettings.wellFormed_iff_check.mpr hbackend,
    some, hregistry, fields, FacetSettings.labelled_of_read hread, labels⟩

/-- **Settings that are well-formed are accepted** from a document of their own. -/
theorem ofMapping_document {settings : Settings} (h : settings.WellFormed) :
    ofMapping none settings.document = .ok settings := by
  have hlog : LogSettings.read settings.document = .ok settings.log := LogSettings.read_document rfl
  have hbackend : BackendSettings.read none settings.document = .ok settings.backend :=
    BackendSettings.read_document rfl
  have hspecs := FacetSettings.readSpecs_documents h.facets.facets
  have hregistry : FacetSettings.readRegistry settings.document = .ok settings.facets.registry := by
    have hsection : requiredSection "facets" settings.document = .ok _ := rfl
    rw [FacetSettings.readRegistry, hsection, ok_bind, hspecs]
    rfl
  have hsorts : FacetSettings.readSortSection settings.document = .ok settings.facets.sorts :=
    FacetSettings.readSortSection_documents h.facets.sorts rfl
  have hcheck := (FacetSettings.check_eq_ok_iff h.facets.facets).mpr
    ⟨h.facets.some, h.facets.fields, h.facets.labels⟩
  rw [ofMapping, read, hlog, ok_bind, hbackend, ok_bind, FacetSettings.read, hregistry, ok_bind, hsorts]
  simp only [ok_bind, check, LogSettings.wellFormed_iff_check.mp h.log,
    BackendSettings.wellFormed_iff_check.mp h.backend, hcheck, pure, Except.pure]

/-- **The settings that can be accepted are the well-formed ones.** -/
theorem exists_ofMapping_iff {settings : Settings} :
    (∃ environment raw, ofMapping environment raw = .ok settings) ↔ settings.WellFormed := by
  constructor
  · rintro ⟨environment, raw, h⟩
    exact wellFormed_of_ofMapping h
  · intro h
    exact ⟨none, settings.document, ofMapping_document h⟩

/--
**What the rest of the program relies on holds of all settings that are accepted.**

The severity is the one that the section `log` names, one of five in upper case; the sections are
well-formed; the field of each facet has no dot, or comes apart at its first dot into a path and a rest
that are both there; and each sort is found by its label, while any other label finds none.
-/
theorem invariants_of_ofMapping {environment : Option String} {raw : Mapping} {settings : Settings}
    (h : ofMapping environment raw = .ok settings) :
    (∃ part text, optionalSection "log" raw = .ok part ∧
      entryOr "level" (.str "INFO") part = .str text ∧
      settings.log.level.name = uppercase (lowercase (trimmed text))) ∧
    settings.log.WellFormed ∧ settings.backend.WellFormed ∧ settings.facets.WellFormed ∧
    (∀ named ∈ settings.facets.registry.specs,
      (named.2.path = none ∧ '.' ∉ named.2.field.toList) ∨
      ∃ path rest, named.2.path = some path ∧ path ≠ "" ∧ '.' ∉ path.toList ∧ rest ≠ "" ∧
        named.2.field = path ++ "." ++ rest) ∧
    (∀ option ∈ settings.facets.sorts, settings.facets.sort option.label = .ok option) ∧
    ∀ label, (∀ option ∈ settings.facets.sorts, option.label ≠ label) →
      settings.facets.sort label = .error (.unknownSort label) ∧
        (Fault.unknownSort label).sort = .value := by
  obtain ⟨log, backend, facets⟩ := wellFormed_of_ofMapping h
  refine ⟨?_, log, backend, facets, fun named hnamed => (facets.fields named hnamed).path_cases, ?_, ?_⟩
  · obtain ⟨settings', hread, h⟩ := bind_eq_ok_iff.mp h
    obtain ⟨_, -, h⟩ := bind_eq_ok_iff.mp h
    obtain rfl := Except.ok.inj h
    obtain ⟨_, hlog, hread⟩ := bind_eq_ok_iff.mp hread
    obtain ⟨_, -, hread⟩ := bind_eq_ok_iff.mp hread
    obtain ⟨_, -, hread⟩ := bind_eq_ok_iff.mp hread
    obtain rfl := Except.ok.inj hread
    exact LogSettings.level_of_read hlog
  · intro option hoption
    exact (FacetSettings.sort_eq_ok_iff facets.labels).mpr ⟨hoption, rfl⟩
  · intro label hlabel
    exact ⟨FacetSettings.sort_eq_error_iff.mpr ⟨hlabel, rfl⟩, rfl⟩

/-- Settings with a dotted facet, an extra clause on it, and two sorts, written with blanks and in the
wrong case: the facet has a path, the first sort is found, and no sort is found by its label in another
case. -/
theorem invariants_of_ofMapping_sorts :
    let term := Value.object [("term", .object [("role", .str "mp")])]
    let facet := Value.object
      [("field", .str " persons.profession "), ("kind", .str "TERMS"), ("extra_query_field", term)]
    let sorts := [Value.object [("label", .str " Date "), ("expression", .object [("date", .str "asc")])],
      .object [("label", .str "Party"), ("expression", .list [])]]
    let raw : Mapping := [(.str "log", .object [("level", .str " Warning ")]),
      (.str "backend", .object [("api_path", .str "https://archive"), ("index", .str "idx")]),
      (.str "facets", .object [("profession", facet)]), (.str "sorts", .list sorts)]
    ∃ settings, ofMapping none raw = .ok settings ∧ settings.WellFormed ∧
      settings.log.level.name = "WARNING" ∧
      settings.facets.registry.specs.map (fun named => named.2.path) = [some "persons"] ∧
      (∃ option, settings.facets.sort "Date" = .ok option) ∧
      settings.facets.sort "date" = .error (.unknownSort "date") := by
  intro term facet sorts raw
  have hread : (ofMapping none raw).toOption.map (fun settings => (settings.log.level.name,
      settings.facets.registry.specs.map (fun named => named.2.path),
      settings.facets.sorts.map SortOption.label))
        = some ("WARNING", [some "persons"], ["Date", "Party"]) := by
    decide +kernel
  cases h : ofMapping none raw with
  | error fault =>
    rw [h] at hread
    cases hread
  | ok settings =>
    rw [h] at hread
    simp only [Except.toOption, Option.map_some, Option.some.injEq, Prod.mk.injEq] at hread
    obtain ⟨hlevel, hpaths, hlabels⟩ := hread
    obtain ⟨-, log, backend, facets, -, hfound, hnone⟩ := invariants_of_ofMapping h
    obtain ⟨option, hoption, hlabel⟩ : ∃ option ∈ settings.facets.sorts, option.label = "Date" := by
      rw [← List.mem_map, hlabels]
      exact List.mem_cons_self
    refine ⟨settings, rfl, ⟨log, backend, facets⟩, hlevel, hpaths, ⟨option, ?_⟩, ?_⟩
    · rw [← hlabel]
      exact hfound option hoption
    · refine (hnone "date" fun other hother hdate => ?_).1
      have hmem : "date" ∈ settings.facets.sorts.map SortOption.label :=
        List.mem_map.mpr ⟨other, hother, hdate⟩
      rw [hlabels] at hmem
      simp at hmem

end Settings

end Faceted
