import Faceted.Proofs.Settings.Blame

/-!
# One changed setting

Settings that can be read are changed at one place, and what becomes of them is told by the check of this place
alone (`Settings.faultOf_read_of_replaced`): all that is read before it and after it is as it was.

* A place in a document is a path of names and positions. `Value.follow?` looks at it, and `Value.Replaced`
  gives it another value; a value put where it stands already changes nothing (`Value.replaced_of_follow?`).
* `Setting` lists the settings, with their paths and with the fault that a value has there (`Setting.fault?`).
* Each reader of a mapping of entries has a lemma: if the mapping can be read, then with another value under a
  name it fails by the fault of this value.
-/

namespace Faceted

open Text Number Settings

/-! ## Places -/

namespace Value

/-- A step from a value to a part of it. -/
inductive Step where
  | name (s : String)
  | item (index : Nat)

/-- The part of a value that a path leads to. -/
def follow? : List Step → Value → Option Value
  | [], v => some v
  | .name s :: path, .map m => (Entries.find? s m).bind (follow? path)
  | .item index :: path, .list xs => xs[index]?.bind (follow? path)
  | _ :: _, _ => none

/-- The second value is the first with `w` at the end of a path. The last name on the path need not be there
before. -/
inductive Replaced (w : Value) : List Step → Value → Value → Prop
  | here {v : Value} : Replaced w [] v w
  | last {s : String} {m : Mapping} : Replaced w [.name s] (.map m) (.map (Entries.put (.str s) w m))
  | name {s : String} {step : Step} {path : List Step} {m : Mapping} {v v' : Value}
    (found : Entries.find? s m = some v) (inside : Replaced w (step :: path) v v') :
    Replaced w (.name s :: step :: path) (.map m) (.map (Entries.put (.str s) v' m))
  | item {index : Nat} {path : List Step} {xs : List Value} {x x' : Value} (found : xs[index]? = some x)
    (inside : Replaced w path x x') : Replaced w (.item index :: path) (.list xs) (.list (xs.set index x'))

/-- **A value that is put where it stands changes nothing.** -/
theorem replaced_of_follow? {w : Value} : ∀ {path : List Step} {v : Value}, follow? path v = some w →
    Replaced w path v v
  | [], v, h => by
    obtain rfl := Option.some.inj h
    exact .here
  | [.name s], .map m, h => by
    obtain ⟨u, hu, hw⟩ := Option.bind_eq_some_iff.mp h
    obtain rfl := Option.some.inj hw
    have hput : Replaced u [.name s] (.map m) (.map (Entries.put (.str s) u m)) := .last
    rwa [Entries.put_of_find? hu] at hput
  | .name s :: step :: path, .map m, h => by
    obtain ⟨u, hu, hw⟩ := Option.bind_eq_some_iff.mp h
    have hput := Replaced.name hu (replaced_of_follow? hw)
    rwa [Entries.put_of_find? hu] at hput
  | .item index :: path, .list xs, h => by
    obtain ⟨x, hx, hw⟩ := Option.bind_eq_some_iff.mp h
    have hset := Replaced.item hx (replaced_of_follow? hw)
    obtain ⟨hindex, rfl⟩ := List.getElem?_eq_some_iff.mp hx
    rwa [List.set_getElem_self] at hset

end Value

/-! ## Entries that are read -/

namespace Settings

variable {name other : String}

theorem entryOr_put (absent v : Value) (m : Mapping) :
    entryOr name absent (Entries.put (.str other) v m) = if name = other then v else entryOr name absent m := by
  rw [entryOr, Entries.find?_put]
  split <;> rfl

theorem requireEntry_put (key : String) (v : Value) (m : Mapping) :
    requireEntry key name (Entries.put (.str other) v m) =
      if name = other then .ok v else requireEntry key name m := by
  rw [requireEntry, Entries.find?_put]
  by_cases h : name = other
  · rw [if_pos h, if_pos h]
  · rw [if_neg h, if_neg h, requireEntry]

theorem optionalSection_of_map {raw part : Mapping} (h : Mapping.findOrNull name raw = .map part) :
    optionalSection name raw = .ok part := by
  rw [optionalSection, h]
  rfl

theorem requiredSection_of_map {raw part : Mapping} (h : Mapping.findOrNull name raw = .map part) :
    requiredSection name raw = .ok part := by
  rw [requiredSection, h]
  rfl

end Settings

/-! ## Settings -/

/-- The settings, of facets by the name of the facet and of sorts by position. -/
inductive Setting where
  | log
  | level
  | toFile
  | dir
  | backend
  | apiPath
  | index
  | searchPath
  | timeout
  | pageSize
  | fulltextFields
  | facets
  | facet (name : String)
  | field (facet : String)
  | kind (facet : String)
  | order (facet : String)
  | extra (facet : String)
  | label (facet : String)
  | sorts
  | sort (index : Nat)
  | sortLabel (index : Nat)
  | expression (index : Nat)

namespace Setting

open Value.Step (name item)

/-- Where a setting stands in a document. -/
def path : Setting → List Value.Step
  | .log => [name "log"]
  | .level => [name "log", name "level"]
  | .toFile => [name "log", name "to_file"]
  | .dir => [name "log", name "dir"]
  | .backend => [name "backend"]
  | .apiPath => [name "backend", name "api_path"]
  | .index => [name "backend", name "index"]
  | .searchPath => [name "backend", name "search_path"]
  | .timeout => [name "backend", name "timeout"]
  | .pageSize => [name "backend", name "pagination_size"]
  | .fulltextFields => [name "backend", name "fulltext_fields"]
  | .facets => [name "facets"]
  | .facet key => [name "facets", name key]
  | .field key => [name "facets", name key, name "field"]
  | .kind key => [name "facets", name key, name "kind"]
  | .order key => [name "facets", name key, name "order"]
  | .extra key => [name "facets", name key, name "extra_query_field"]
  | .label key => [name "facets", name key, name "label"]
  | .sorts => [name "sorts"]
  | .sort i => [name "sorts", item i]
  | .sortLabel i => [name "sorts", item i, name "label"]
  | .expression i => [name "sorts", item i, name "expression"]

/-- The value of a setting in a document. -/
def find? (setting : Setting) (raw : Mapping) : Option Value := Value.follow? setting.path (.map raw)

/-- The second document is the first with another value for a setting. -/
def Replaced (setting : Setting) (w : Value) (raw raw' : Mapping) : Prop :=
  Value.Replaced w setting.path (.map raw) (.map raw')

/-- The key of a facet in faults. -/
def facetKey (key : String) : String := "facets." ++ key

/-- The key of a sort in faults. -/
def sortKey (i : Nat) : String := "sorts[" ++ String.ofList (natText i) ++ "]"

/-- The fault that a value has as a setting, if it has one. -/
def fault? (environment : Option String) : Setting → Value → Option Fault
  | .log, w => faultOf (LogSettings.read [(.str "log", w)])
  | .level, w => faultOf (requireChoice "log.level" Severity.settings w)
  | .toFile, w => faultOf (requireBool "log.to_file" w)
  | .dir, w => faultOf (requireString "log.dir" w)
  | .backend, w => faultOf (BackendSettings.read environment [(.str "backend", w)])
  | .apiPath, w => faultOf (BackendSettings.readApiPath environment [(.str "api_path", w)])
  | .index, w => faultOf (requireString "backend.index" w)
  | .searchPath, w => faultOf (requireString "backend.search_path" w)
  | .timeout, w => faultOf (requireNumber "backend.timeout" w)
  | .pageSize, w => faultOf (requireInteger "backend.pagination_size" w)
  | .fulltextFields, w => faultOf (requireStrings "backend.fulltext_fields" w)
  | .facets, w => faultOf (FacetSettings.readRegistry [(.str "facets", w)])
  | .facet key, w => faultOf (FieldSpec.read (facetKey key) w)
  | .field key, w => faultOf (requireString (facetKey key ++ ".field") w)
  | .kind key, w => faultOf (requireChoice (facetKey key ++ ".kind") FilterKind.names w)
  | .order key, w => faultOf (requireChoice (facetKey key ++ ".order") BucketOrder.names w)
  | .extra key, w => faultOf (FieldSpec.readExtra (facetKey key ++ ".extra_query_field") w)
  | .label key, w => faultOf (optionalString (facetKey key ++ ".label") w)
  | .sorts, w => faultOf (FacetSettings.readSortSection [(.str "sorts", w)])
  | .sort i, w => faultOf (SortOption.read (sortKey i) w)
  | .sortLabel i, w => faultOf do
    let label ← requireString (sortKey i ++ ".label") w
    if (trimmed label).isEmpty then throw (.emptyLabel (sortKey i))
  | .expression i, w => faultOf (SortOption.readExpression (sortKey i ++ ".expression") w)

end Setting

/-! ## The log -/

namespace LogSettings

variable {raw raw' part : Mapping} {settings : LogSettings} {w : Value}

theorem read_congr (h : Mapping.findOrNull "log" raw = Mapping.findOrNull "log" raw') :
    read raw = read raw' := by
  rw [read, read, optionalSection, optionalSection, h]

theorem faultOf_read_of_put {environment : Option String} {setting : Setting} {name : String}
    (hpath : setting.path = [.name "log", .name name]) (hread : read raw = .ok settings)
    (hpart : Mapping.findOrNull "log" raw = .map part)
    (h : Mapping.findOrNull "log" raw' = .map (Entries.put (.str name) w part)) :
    faultOf (read raw') = setting.fault? environment w := by
  rw [read, optionalSection_of_map hpart, ok_bind] at hread
  obtain ⟨level, hlevel, hread⟩ := bind_eq_ok_iff.mp hread
  obtain ⟨toFile, htoFile, hread⟩ := bind_eq_ok_iff.mp hread
  obtain ⟨dir, hdir, -⟩ := bind_eq_ok_iff.mp hread
  rw [read, optionalSection_of_map h, ok_bind]
  cases setting with
  | level | toFile | dir =>
    obtain ⟨-, rfl⟩ : True ∧ _ = name := by simpa [Setting.path] using hpath
    simp only [entryOr_put, String.reduceEq, if_true, if_false, hlevel, htoFile, hdir, ok_bind]
    exact faultOf_bind_pure
  | _ => simp [Setting.path] at hpath

end LogSettings

/-! ## The backend -/

namespace BackendSettings

variable {environment : Option String} {raw raw' part : Mapping} {settings : BackendSettings} {w : Value}

theorem read_congr (h : Mapping.findOrNull "backend" raw = Mapping.findOrNull "backend" raw') :
    read environment raw = read environment raw' := by
  rw [read, read, requiredSection, requiredSection, h]

theorem faultOf_read_of_put {setting : Setting} {name : String}
    (hpath : setting.path = [.name "backend", .name name]) (hread : read environment raw = .ok settings)
    (hpart : Mapping.findOrNull "backend" raw = .map part)
    (h : Mapping.findOrNull "backend" raw' = .map (Entries.put (.str name) w part)) :
    faultOf (read environment raw') = setting.fault? environment w := by
  rw [read, requiredSection_of_map hpart, ok_bind] at hread
  obtain ⟨apiPath, hapiPath, hread⟩ := bind_eq_ok_iff.mp hread
  obtain ⟨indexEntry, hindexEntry, hread⟩ := bind_eq_ok_iff.mp hread
  obtain ⟨index, hindex, hread⟩ := bind_eq_ok_iff.mp hread
  obtain ⟨searchPath, hsearchPath, hread⟩ := bind_eq_ok_iff.mp hread
  obtain ⟨timeout, htimeout, hread⟩ := bind_eq_ok_iff.mp hread
  obtain ⟨pageSize, hpageSize, hread⟩ := bind_eq_ok_iff.mp hread
  obtain ⟨fulltextFields, hfields, -⟩ := bind_eq_ok_iff.mp hread
  have hpathPut (hname : "api_path" ≠ name) :
      readApiPath environment (Entries.put (.str name) w part) = .ok apiPath := by
    simp only [readApiPath, requireEntry_put, if_neg hname]
    exact hapiPath
  have hpathSelf : readApiPath environment (Entries.put (.str "api_path") w part) =
      readApiPath environment [(.str "api_path", w)] := by
    simp only [readApiPath, requireEntry_put, if_true]
    rfl
  rw [read, requiredSection_of_map h, ok_bind]
  cases setting with
  | apiPath =>
    obtain ⟨-, rfl⟩ : True ∧ _ = name := by simpa [Setting.path] using hpath
    simp only [hpathSelf, requireEntry_put, entryOr_put, String.reduceEq, if_false, hindexEntry, hindex,
      hsearchPath, htimeout, hpageSize, hfields, ok_bind]
    exact faultOf_bind_pure
  | index | searchPath | timeout | pageSize | fulltextFields =>
    obtain ⟨-, rfl⟩ : True ∧ _ = name := by simpa [Setting.path] using hpath
    rw [hpathPut (by decide), ok_bind]
    simp only [requireEntry_put, entryOr_put, String.reduceEq, if_true, if_false, hindexEntry, hindex,
      hsearchPath, htimeout, hpageSize, hfields, ok_bind]
    exact faultOf_bind_pure
  | _ => simp [Setting.path] at hpath

end BackendSettings

/-! ## Facets -/

namespace FieldSpec

variable {part : Mapping} {spec : FieldSpec} {w : Value}

theorem faultOf_read_of_put {environment : Option String} {setting : Setting} {key name : String}
    (hpath : setting.path = [.name "facets", .name key, .name name])
    (hread : read (Setting.facetKey key) (.map part) = .ok spec) :
    faultOf (read (Setting.facetKey key) (.map (Entries.put (.str name) w part))) =
      setting.fault? environment w := by
  rw [read, requireObject, ok_bind] at hread
  obtain ⟨unknown, hunknown, hread⟩ := bind_eq_ok_iff.mp hread
  dsimp only at hread
  split at hread
  · cases hread
  next hnone =>
  obtain rfl : unknown = [] := by simpa using hnone
  obtain ⟨fieldEntry, hfieldEntry, hread⟩ := bind_eq_ok_iff.mp hread
  obtain ⟨field, hfield, hread⟩ := bind_eq_ok_iff.mp hread
  obtain ⟨kindEntry, hkindEntry, hread⟩ := bind_eq_ok_iff.mp hread
  obtain ⟨kind, hkind, hread⟩ := bind_eq_ok_iff.mp hread
  obtain ⟨order, horder, hread⟩ := bind_eq_ok_iff.mp hread
  obtain ⟨extra, hextra, hread⟩ := bind_eq_ok_iff.mp hread
  obtain ⟨label, hlabel, -⟩ := bind_eq_ok_iff.mp hread
  have hnames (hname : name ∈ allowedKeys) :
      Mapping.namesOutside allowedKeys (Entries.put (.str name) w part) = .ok [] :=
    Mapping.namesOutside_put (by decide) hunknown hname w
  rw [read, requireObject, ok_bind]
  cases setting with
  | field | kind | order | extra | label =>
    obtain ⟨rfl, rfl⟩ : _ = key ∧ _ = name := by simpa [Setting.path] using hpath
    rw [hnames (by decide), ok_bind]
    simp only [List.isEmpty_nil, Bool.not_true, Bool.false_eq_true, requireEntry_put, entryOr_put,
      Mapping.findOrNull_put, String.reduceEq, if_true, if_false, hfieldEntry, hfield, hkindEntry, hkind,
      horder, hextra, hlabel, ok_bind]
    exact faultOf_bind_pure
  | _ => simp [Setting.path] at hpath

end FieldSpec

namespace FacetSettings

variable {raw raw' part : Mapping} {registry : Registry}

theorem readRegistry_congr (h : Mapping.findOrNull "facets" raw = Mapping.findOrNull "facets" raw') :
    readRegistry raw = readRegistry raw' := by
  rw [readRegistry, readRegistry, requiredSection, requiredSection, h]

theorem forall_key_of_readSpecs {m : Mapping} {specs : List (String × FieldSpec)}
    (h : readSpecs m = .ok specs) : ∀ k ∈ Entries.keys m, ∃ key, k = .str key := by
  induction m generalizing specs with
  | nil => nofun
  | cons e m ih =>
    obtain ⟨key, spec, rest, hkey, -, hrest, -⟩ := readSpecs_cons_eq_ok h
    exact List.forall_mem_cons.mpr ⟨⟨key, hkey⟩, ih hrest⟩

theorem exists_spec_of_find? {m : Mapping} {specs : List (String × FieldSpec)} (h : readSpecs m = .ok specs)
    {key : String} {v : Value} (hv : Entries.find? key m = some v) :
    ∃ spec, FieldSpec.read (Setting.facetKey key) v = .ok spec := by
  induction m generalizing specs with
  | nil => cases hv
  | cons e m ih =>
    obtain ⟨name, spec, rest, hname, hspec, hrest, -⟩ := readSpecs_cons_eq_ok h
    rw [Entries.find?, Entries.get?] at hv
    split at hv
    · next hsame =>
      rw [Key.eq_str_of_same hsame] at hname
      cases hname
      exact ⟨spec, Option.some.inj hv ▸ hspec⟩
    · exact ih hrest hv

/-- Facets of which one is changed, or added, are read but for this one. -/
theorem faultOf_readSpecs_put {m : Mapping} {specs : List (String × FieldSpec)} (h : readSpecs m = .ok specs)
    (key : String) (v : Value) :
    faultOf (readSpecs (Entries.put (.str key) v m)) = faultOf (FieldSpec.read (Setting.facetKey key) v) := by
  induction m generalizing specs with
  | nil =>
    rw [Entries.put, readSpecs, readSpecs]
    exact faultOf_bind_pure
  | cons e m ih =>
    obtain ⟨name, spec, rest, hname, hspec, hrest, -⟩ := readSpecs_cons_eq_ok h
    rw [Entries.put]
    split
    · next hsame =>
      rw [Key.eq_str_of_same hsame, readSpecs, hrest]
      exact faultOf_bind_pure
    · obtain ⟨k, u⟩ := e
      obtain rfl : k = .str name := hname
      rw [readSpecs, hspec, ok_bind]
      exact faultOf_bind_pure.trans (ih hrest)

/-- A facet with a key that is no name is refused wherever it stands. -/
theorem readSpecs_unnamed {before after : Mapping} {specs : List (String × FieldSpec)}
    (h : readSpecs (before ++ after) = .ok specs) {k : Key} (hk : ∀ key, k ≠ .str key) (v : Value) :
    readSpecs (before ++ (k, v) :: after) = .error .facetNotNamed := by
  induction before generalizing specs with
  | nil =>
    rw [List.nil_append]
    unfold readSpecs
    split
    · next heq => cases heq
    · next key _ _ heq =>
      obtain ⟨heq, -⟩ := List.cons.inj heq
      exact absurd (congrArg Prod.fst heq) (hk key)
    · rfl
  | cons e before ih =>
    obtain ⟨name, spec, rest, hname, hspec, hrest, -⟩ := readSpecs_cons_eq_ok h
    obtain ⟨l, u⟩ := e
    obtain rfl : l = .str name := hname
    rw [List.cons_append, readSpecs, hspec, ok_bind, ih hrest]
    rfl

theorem readRegistry_of_map (h : Mapping.findOrNull "facets" raw = .map part) :
    readRegistry raw = readSpecs part >>= fun specs => pure ⟨specs⟩ := by
  rw [readRegistry, requiredSection_of_map h, ok_bind]

/-! ## Sorts -/

end FacetSettings

namespace SortOption

variable {part : Mapping} {option : SortOption} {w : Value}

theorem faultOf_read_of_put {environment : Option String} {setting : Setting} {i : Nat} {name : String}
    (hpath : setting.path = [.name "sorts", .item i, .name name])
    (hread : read (Setting.sortKey i) (.map part) = .ok option) :
    faultOf (read (Setting.sortKey i) (.map (Entries.put (.str name) w part))) =
      setting.fault? environment w := by
  rw [read, requireObject, ok_bind] at hread
  obtain ⟨labelEntry, hlabelEntry, hread⟩ := bind_eq_ok_iff.mp hread
  obtain ⟨label, hlabel, hread⟩ := bind_eq_ok_iff.mp hread
  dsimp only at hread
  split at hread
  · cases hread
  next hnamed =>
  obtain ⟨expressionEntry, hexpressionEntry, hread⟩ := bind_eq_ok_iff.mp hread
  obtain ⟨expression, hexpression, -⟩ := bind_eq_ok_iff.mp hread
  rw [read, requireObject, ok_bind]
  cases setting with
  | sortLabel =>
    obtain ⟨rfl, rfl⟩ : _ = i ∧ _ = name := by simpa [Setting.path] using hpath
    simp only [requireEntry_put, String.reduceEq, if_true, if_false, hexpressionEntry, hexpression, ok_bind]
    rw [Setting.fault?]
    cases requireString (Setting.sortKey _ ++ ".label") w with
    | error fault => rfl
    | ok label =>
      rw [ok_bind, ok_bind]
      split <;> rfl
  | expression =>
    obtain ⟨rfl, rfl⟩ : _ = i ∧ _ = name := by simpa [Setting.path] using hpath
    simp only [requireEntry_put, String.reduceEq, if_true, if_false, hlabelEntry, hlabel, hnamed, ok_bind]
    exact faultOf_bind_pure
  | _ => simp [Setting.path] at hpath

end SortOption

namespace FacetSettings

theorem readSortSection_congr {raw raw' : Mapping}
    (h : Mapping.findOrNull "sorts" raw = Mapping.findOrNull "sorts" raw') :
    readSortSection raw = readSortSection raw' := by
  rw [readSortSection, readSortSection, h]

theorem exists_option_of_getElem? {xs : List Value} {index : Nat} {options : List SortOption}
    (h : readSorts index xs = .ok options) {i : Nat} {x : Value} (hx : xs[i]? = some x) :
    ∃ option, SortOption.read (Setting.sortKey (index + i)) x = .ok option := by
  induction xs generalizing index i options with
  | nil => cases hx
  | cons y xs ih =>
    obtain ⟨option, hoption, h⟩ := bind_eq_ok_iff.mp h
    obtain ⟨rest, hrest, -⟩ := bind_eq_ok_iff.mp h
    cases i with
    | zero =>
      obtain rfl := Option.some.inj hx
      exact ⟨option, hoption⟩
    | succ i =>
      rw [List.getElem?_cons_succ] at hx
      rw [← Nat.add_assoc, Nat.add_right_comm]
      exact ih hrest hx

/-- Sorts of which one is changed are read but for this one. -/
theorem faultOf_readSorts_set {xs : List Value} {index : Nat} {options : List SortOption}
    (h : readSorts index xs = .ok options) {i : Nat} (hi : i < xs.length) (x : Value) :
    faultOf (readSorts index (xs.set i x)) = faultOf (SortOption.read (Setting.sortKey (index + i)) x) := by
  induction xs generalizing index i options with
  | nil => cases hi
  | cons y xs ih =>
    obtain ⟨option, hoption, h⟩ := bind_eq_ok_iff.mp h
    obtain ⟨rest, hrest, -⟩ := bind_eq_ok_iff.mp h
    cases i with
    | zero =>
      rw [List.set_cons_zero, readSorts, hrest]
      exact faultOf_bind_pure
    | succ i =>
      rw [List.set_cons_succ, readSorts, hoption, ok_bind]
      refine faultOf_bind_pure.trans ?_
      rw [ih hrest (Nat.lt_of_succ_lt_succ hi), ← Nat.add_assoc, Nat.add_right_comm]

theorem readSortSection_of_list {raw : Mapping} {xs : List Value}
    (h : Mapping.findOrNull "sorts" raw = .list xs) : readSortSection raw = readSorts 0 xs := by
  rw [readSortSection, h]
  cases xs <;> rfl

end FacetSettings

/-! ## All settings -/

namespace Settings

variable {environment : Option String} {raw raw' : Mapping} {settings : Settings} {w : Value}

/-- The fault of what stands under the name of a section. -/
def sectionFault? (environment : Option String) (name : String) (raw : Mapping) : Option Fault :=
  if name = "log" then faultOf (LogSettings.read raw)
  else if name = "backend" then faultOf (BackendSettings.read environment raw)
  else if name = "facets" then faultOf (FacetSettings.readRegistry raw)
  else faultOf (FacetSettings.readSortSection raw)

theorem sectionFault?_congr {name : String} (hname : name ∈ sections)
    (h : Mapping.findOrNull name raw = Mapping.findOrNull name raw') :
    sectionFault? environment name raw = sectionFault? environment name raw' := by
  simp only [sections, List.mem_cons, List.not_mem_nil, or_false] at hname
  rcases hname with rfl | rfl | rfl | rfl
  · exact congrArg faultOf (LogSettings.read_congr h)
  · exact congrArg faultOf (BackendSettings.read_congr h)
  · exact congrArg faultOf (FacetSettings.readRegistry_congr h)
  · exact congrArg faultOf (FacetSettings.readSortSection_congr h)

/-- The sections are read one after the other. -/
theorem faultOf_read (environment : Option String) (raw : Mapping) :
    faultOf (read environment raw) = (sectionFault? environment "log" raw).or
      ((sectionFault? environment "backend" raw).or
        ((sectionFault? environment "facets" raw).or (sectionFault? environment "sorts" raw))) := by
  have hfacets : faultOf (FacetSettings.read raw) =
      (sectionFault? environment "facets" raw).or (sectionFault? environment "sorts" raw) :=
    faultOf_bind fun registry _ => faultOf_bind_pure
  rw [← hfacets]
  exact faultOf_bind fun log _ => faultOf_bind fun backend _ => faultOf_bind_pure

/-- Settings of which one section is changed are read but for this one. -/
theorem faultOf_read_put (h : read environment raw = .ok settings) {name : String} (hname : name ∈ sections)
    (v : Value) : faultOf (read environment (Entries.put (.str name) v raw)) =
      sectionFault? environment name (Entries.put (.str name) v raw) := by
  have hfine := faultOf_eq_none_iff.mpr ⟨settings, h⟩
  simp only [faultOf_read, Option.or_eq_none_iff] at hfine
  obtain ⟨hlog, hbackend, hfacets, hsorts⟩ := hfine
  have hother {other : String} (hmem : other ∈ sections) (hne : other ≠ name) :
      sectionFault? environment other (Entries.put (.str name) v raw) =
        sectionFault? environment other raw :=
    sectionFault?_congr hmem (by rw [Mapping.findOrNull_put, if_neg hne])
  have hlog (hne : "log" ≠ name) := (hother (by decide) hne).trans hlog
  have hbackend (hne : "backend" ≠ name) := (hother (by decide) hne).trans hbackend
  have hfacets (hne : "facets" ≠ name) := (hother (by decide) hne).trans hfacets
  have hsorts (hne : "sorts" ≠ name) := (hother (by decide) hne).trans hsorts
  rw [faultOf_read]
  simp only [sections, List.mem_cons, List.not_mem_nil, or_false] at hname
  rcases hname with rfl | rfl | rfl | rfl
  · rw [hbackend (by decide), hfacets (by decide), hsorts (by decide)]
    simp only [Option.or_none]
  · rw [hlog (by decide), hfacets (by decide), hsorts (by decide)]
    simp only [Option.or_none, Option.none_or]
  · rw [hlog (by decide), hbackend (by decide), hsorts (by decide)]
    simp only [Option.or_none, Option.none_or]
  · rw [hlog (by decide), hbackend (by decide), hfacets (by decide)]
    simp only [Option.none_or]

theorem faultOf_read_put_self (h : read environment raw = .ok settings) {name : String}
    (hname : name ∈ sections) (v : Value) :
    faultOf (read environment (Entries.put (.str name) v raw)) =
      sectionFault? environment name [(.str name, v)] := by
  rw [faultOf_read_put h hname]
  refine sectionFault?_congr hname ?_
  rw [Mapping.findOrNull_put, if_pos rfl, Mapping.findOrNull, Entries.find?_cons_self, Option.getD_some]

section

variable {part : Mapping} {xs : List Value}

theorem exists_specs (h : read environment raw = .ok settings)
    (hpart : Entries.find? "facets" raw = some (.map part)) :
    ∃ specs, FacetSettings.readSpecs part = .ok specs := by
  obtain ⟨hregistry, -⟩ := FacetSettings.read_eq_ok (read_eq_ok h).2.2
  rw [FacetSettings.readRegistry_of_map (Mapping.findOrNull_of_find? hpart)] at hregistry
  obtain ⟨specs, hspecs, -⟩ := bind_eq_ok_iff.mp hregistry
  exact ⟨specs, hspecs⟩

/-- Settings of which one facet is changed are read but for this one. -/
theorem faultOf_read_put_facet (h : read environment raw = .ok settings)
    (hpart : Entries.find? "facets" raw = some (.map part)) (key : String) (v : Value) :
    faultOf (read environment (Entries.put (.str "facets") (.map (Entries.put (.str key) v part)) raw)) =
      faultOf (FieldSpec.read (Setting.facetKey key) v) := by
  obtain ⟨specs, hspecs⟩ := exists_specs h hpart
  rw [faultOf_read_put_self h (by decide), ← FacetSettings.faultOf_readSpecs_put hspecs]
  exact faultOf_bind_pure

theorem exists_options (h : read environment raw = .ok settings)
    (hxs : Entries.find? "sorts" raw = some (.list xs)) :
    ∃ options, FacetSettings.readSorts 0 xs = .ok options := by
  obtain ⟨-, hsorts⟩ := FacetSettings.read_eq_ok (read_eq_ok h).2.2
  rw [FacetSettings.readSortSection_of_list (Mapping.findOrNull_of_find? hxs)] at hsorts
  exact ⟨_, hsorts⟩

/-- Settings of which one sort is changed are read but for this one. -/
theorem faultOf_read_set_sort (h : read environment raw = .ok settings)
    (hxs : Entries.find? "sorts" raw = some (.list xs)) {i : Nat} (hi : i < xs.length) (x : Value) :
    faultOf (read environment (Entries.put (.str "sorts") (.list (xs.set i x)) raw)) =
      faultOf (SortOption.read (Setting.sortKey i) x) := by
  obtain ⟨options, hoptions⟩ := exists_options h hxs
  rw [faultOf_read_put h (by decide)]
  have hsection : Mapping.findOrNull "sorts" (Entries.put (.str "sorts") (.list (xs.set i x)) raw) =
      .list (xs.set i x) := by
    rw [Mapping.findOrNull_put, if_pos rfl]
  have hset := FacetSettings.faultOf_readSorts_set hoptions hi x
  rw [Nat.zero_add, ← FacetSettings.readSortSection_of_list hsection] at hset
  exact hset

end

/--
**Settings of which one is changed are refused for this one, or not at all.**

If a document can be read, then with another value for one of the settings it fails by the fault that the value
has there.
-/
theorem faultOf_read_of_replaced (hread : read environment raw = .ok settings) {setting : Setting}
    (h : setting.Replaced w raw raw') : faultOf (read environment raw') = setting.fault? environment w := by
  cases setting with
  | log | backend | facets | sorts =>
    cases h with
    | last => exact faultOf_read_put_self hread (by decide) w
  | level | toFile | dir =>
    cases h with
    | name found inside =>
      cases inside with
      | last =>
        rw [faultOf_read_put hread (by decide)]
        exact LogSettings.faultOf_read_of_put rfl (read_eq_ok hread).1 (Mapping.findOrNull_of_find? found)
          (by rw [Mapping.findOrNull_put, if_pos rfl])
  | apiPath | index | searchPath | timeout | pageSize | fulltextFields =>
    cases h with
    | name found inside =>
      cases inside with
      | last =>
        rw [faultOf_read_put hread (by decide)]
        exact BackendSettings.faultOf_read_of_put rfl (read_eq_ok hread).2.1
          (Mapping.findOrNull_of_find? found) (by rw [Mapping.findOrNull_put, if_pos rfl])
  | facet key =>
    cases h with
    | name found inside =>
      cases inside with
      | last => exact faultOf_read_put_facet hread found key w
  | field | kind | order | extra | label =>
    cases h with
    | name found inside =>
      cases inside with
      | name foundSpec last =>
        cases last with
        | last =>
          obtain ⟨specs, hspecs⟩ := exists_specs hread found
          obtain ⟨spec, hspec⟩ := FacetSettings.exists_spec_of_find? hspecs foundSpec
          rw [faultOf_read_put_facet hread found]
          exact FieldSpec.faultOf_read_of_put rfl hspec
  | sort i =>
    cases h with
    | name found inside =>
      cases inside with
      | item foundSort here =>
        cases here with
        | here =>
          obtain ⟨hi, -⟩ := List.getElem?_eq_some_iff.mp foundSort
          exact faultOf_read_set_sort hread found hi w
  | sortLabel i | expression i =>
    cases h with
    | name found inside =>
      cases inside with
      | item foundSort last =>
        cases last with
        | last =>
          obtain ⟨hi, -⟩ := List.getElem?_eq_some_iff.mp foundSort
          obtain ⟨options, hoptions⟩ := exists_options hread found
          obtain ⟨option, hoption⟩ := FacetSettings.exists_option_of_getElem? hoptions foundSort
          rw [Nat.zero_add] at hoption
          rw [faultOf_read_set_sort hread found hi]
          exact SortOption.faultOf_read_of_put rfl hoption

end Settings

end Faceted
