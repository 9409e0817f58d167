import Faceted.Proofs.Clause.Blame
import Faceted.Proofs.Double
import Faceted.Proofs.Settings.Accepted

/-!
# Faults of settings

What is wrong with settings is told by a fault that names the key path of a setting in one of the sections
(`Settings.BlamesSection`), with one exception.

* Each reader fails by a fault of the value that it reads (`Blames`), and so does each check of what has
  been read: the rules are about settings that are there.
* The time to wait for an answer is turned into a double. An integer that no double is near is refused with a
  fault that names no key (`ofMapping_of_overflows`), if what is read before it is as it should be
  (`Settings.Overflows`).
-/

namespace Faceted

open Text Number Settings

/-! ## Single settings -/

namespace Settings

variable {key : String}

theorem fails_requireObject (v : Value) : Fails (Blames key v) (requireObject key v) := by
  unfold requireObject
  split
  · exact .ok _
  · exact .error (.here rfl)

theorem requireObject_eq_ok_iff {v : Value} {part : Mapping} :
    requireObject key v = .ok part ↔ v = .map part := by
  unfold requireObject
  split <;> simp_all

theorem fails_requireString (v : Value) : Fails (Blames key v) (requireString key v) := by
  unfold requireString
  split
  · exact .ok _
  · exact .error (.here rfl)

theorem requireString_eq_ok_iff {v : Value} {s : String} :
    requireString key v = .ok s ↔ v = .str s := by
  unfold requireString
  split <;> simp_all

theorem fails_optionalString (v : Value) : Fails (Blames key v) (optionalString key v) := by
  unfold optionalString
  split
  · exact .ok _
  · exact (fails_requireString v).map _

theorem fails_requireBool (v : Value) : Fails (Blames key v) (requireBool key v) := by
  unfold requireBool
  split
  · exact .ok _
  · exact .error (.here rfl)

theorem fails_requireInteger (v : Value) : Fails (Blames key v) (requireInteger key v) := by
  unfold requireInteger
  split
  · exact .ok _
  · exact .error (.here rfl)
  · exact .error (.here rfl)

theorem fails_requireStringItems {xs : List Value} {index : Nat} {whole : List Value}
    (hdrop : whole.drop index = xs) :
    Fails (Blames key (.list whole)) (requireStringItems key index xs) := by
  induction xs generalizing index with
  | nil => exact .ok []
  | cons x xs ih =>
    obtain ⟨hfound, hrest⟩ := found_of_drop hdrop
    refine .bind ((fails_requireString x).mono fun _ => .item hfound) fun s _ => ?_
    exact .bind (ih hrest) fun ss _ => .ok _

theorem fails_requireStrings (v : Value) : Fails (Blames key v) (requireStrings key v) := by
  unfold requireStrings
  split
  · exact fails_requireStringItems rfl
  · exact .error (.here rfl)

theorem fails_requireChoice (choices : List String) (v : Value) :
    Fails (Blames key v) (requireChoice key choices v) := by
  refine .bind (fails_requireString v) fun s _ => ?_
  dsimp only
  split
  · exact .ok _
  · exact .error (.here rfl)

/-! ## Wrong types -/

theorem typed_requireString (v : Value) : Fails (fun fault => fault.sort = .type) (requireString key v) := by
  unfold requireString
  split
  · exact .ok _
  · exact .error rfl

theorem typed_requireStringItems (xs : List Value) (index : Nat) :
    Fails (fun fault => fault.sort = .type) (requireStringItems key index xs) := by
  induction xs generalizing index with
  | nil => exact .ok []
  | cons x xs ih => exact .bind (typed_requireString x) fun s _ => .bind (ih (index + 1)) fun ss _ => .ok _

theorem typed_requireStrings (v : Value) : Fails (fun fault => fault.sort = .type) (requireStrings key v) := by
  unfold requireStrings
  split
  · exact typed_requireStringItems _ 0
  · exact .error rfl

/-! ## Entries -/

variable {inner name : String} {m : Mapping}

theorem fails_requireEntry (hinner : inner = key ++ "." ++ name) :
    Fails (Blames key (.map m)) (requireEntry inner name m) := by
  unfold requireEntry
  split
  · exact .ok _
  · exact .error (.name rfl hinner)

theorem find?_of_requireEntry {v : Value} (h : requireEntry inner name m = .ok v) :
    Entries.find? name m = some v := by
  unfold requireEntry at h
  split at h
  · next hfind => rw [hfind, Except.ok.inj h]
  · cases h

/-- A setting that has to be there is blamed on its section if it is missing or wrong. -/
theorem fails_required {α β : Type} {P : Fault → Prop} {check : Value → Except Fault α}
    {next : α → Except Fault β} (hP : ∀ fault, Blames key (.map m) fault → P fault)
    (hinner : inner = key ++ "." ++ name) (hcheck : ∀ v, Fails (Blames inner v) (check v))
    (hnext : ∀ v a, Entries.find? name m = some v → check v = .ok a → Fails P (next a)) :
    Fails P (requireEntry inner name m >>= fun v => check v >>= next) := by
  refine .bind ((fails_requireEntry hinner).mono hP) fun v hv => ?_
  have hfind := find?_of_requireEntry hv
  subst hinner
  exact .bind ((hcheck v).mono fun fault hfault => hP fault (.find hfind hfault)) fun a ha =>
    hnext v a hfind ha

/-- A setting that may be absent is blamed on its section if it is wrong, as long as its default is not. -/
theorem fails_entryOr {α : Type} {check : Value → Except Fault α}
    (hinner : inner = key ++ "." ++ name) (hcheck : ∀ v, Fails (Blames inner v) (check v))
    {absent : Value} {a : α} (habsent : check absent = .ok a) :
    Fails (Blames key (.map m)) (check (entryOr name absent m)) := by
  rw [entryOr]
  cases hfind : Entries.find? name m with
  | none =>
    rw [Option.getD_none, habsent]
    exact .ok a
  | some v =>
    subst hinner
    exact (hcheck v).mono fun _ => .find hfind

theorem fails_keep {holds : Bool} {r : Rule} {v : Value} (h : Blames key v (.rule r)) :
    Fails (Blames key v) (keep holds r) := by
  unfold keep
  split
  · exact .ok ()
  · exact .error h

/-! ## Sections -/

theorem fails_requiredSection (name : String) (raw : Mapping) :
    Fails (Blames name (Mapping.findOrNull name raw)) (requiredSection name raw) := by
  unfold requiredSection
  split
  · exact .error (.here rfl)
  · exact fails_requireObject _

theorem findOrNull_of_requiredSection {raw part : Mapping} (h : requiredSection name raw = .ok part) :
    Mapping.findOrNull name raw = .map part := by
  unfold requiredSection at h
  split at h
  · cases h
  · exact requireObject_eq_ok_iff.mp h

/-- A section that is absent is blamed for what an empty one is. -/
theorem blames_null_of_empty {fault : Fault} (h : Blames key (.map []) fault) : Blames key .null fault := by
  cases h with
  | named names leads =>
    cases leads with
    | here => exact .here names
    | entry mem => cases mem
    | absent missing => exact .named names (.absent rfl)
  | endless h => cases h

theorem fails_optionalSection (name : String) (raw : Mapping) :
    Fails (Blames name (Mapping.findOrNull name raw)) (optionalSection name raw) := by
  unfold optionalSection
  split
  · exact .ok []
  · exact fails_requireObject _

theorem blames_of_optionalSection {raw part : Mapping} (h : optionalSection name raw = .ok part)
    {fault : Fault} (hfault : Blames key (.map part) fault) :
    Blames key (Mapping.findOrNull name raw) fault := by
  unfold optionalSection at h
  split at h
  · next hnull =>
    obtain rfl := Except.ok.inj h
    rw [hnull]
    exact blames_null_of_empty hfault
  · rwa [requireObject_eq_ok_iff.mp h]

end Settings

/-! ## The log -/

namespace LogSettings

theorem fails_read (raw : Mapping) :
    Fails (Blames "log" (Mapping.findOrNull "log" raw)) (read raw) := by
  refine .bind (fails_optionalSection "log" raw) fun part hsection => ?_
  have hpart (fault : Fault) : Blames "log" (.map part) fault → _ := blames_of_optionalSection hsection
  refine .bind ((fails_entryOr (by decide) (fails_requireChoice _)
    (Severity.requireChoice_name .info "log.level")).mono hpart) fun level _ => ?_
  refine .bind ((fails_entryOr (by decide) fails_requireBool rfl).mono hpart) fun toFile _ => ?_
  refine .bind ((fails_entryOr (by decide) fails_requireString rfl).mono hpart) fun dir _ => ?_
  exact .ok _

theorem fails_check (settings : LogSettings) (v : Value) : Fails (Blames "log" v) settings.check :=
  fails_keep (.name rfl (by decide : "log.dir" = "log" ++ "." ++ "dir"))

end LogSettings

/-! ## The backend -/

namespace BackendSettings

/-- The time to wait is an integer of such a size that no double is near, and what is read before it is as it
should be. -/
structure Overflows (environment : Option String) (part : Mapping) : Prop where
  apiPath : ∃ apiPath, readApiPath environment part = .ok apiPath
  index : ∃ index, Entries.find? "index" part = some (.str index)
  searchPath : ∃ searchPath, entryOr "search_path" (.str "search") part = .str searchPath
  timeout : ∃ n, Entries.find? "timeout" part = some (.int n) ∧ 2 ^ 1024 - 2 ^ 970 ≤ n.natAbs

theorem fails_readApiPath (environment : Option String) (part : Mapping) :
    Fails (Blames "backend" (.map part)) (readApiPath environment part) := by
  unfold readApiPath
  extract_lets outer
  split
  · refine .bind (fails_requireEntry (by decide)) fun v hv => ?_
    exact (fails_requireString v).mono fun _ hfault => .find (find?_of_requireEntry hv) hfault
  · exact .ok outer

/-- The fault is one of the section, or the time to wait is too large for a double. -/
def Faults (environment : Option String) (part : Mapping) (fault : Fault) : Prop :=
  Blames "backend" (.map part) fault ∨ fault = .beyondDoubles ∧ Overflows environment part

theorem fails_timeout {environment : Option String} {part : Mapping}
    (h : ∀ n, Entries.find? "timeout" part = some (.int n) → Double.ofInt? n = none →
      Overflows environment part) :
    Fails (Faults environment part)
      (requireNumber "backend.timeout" (entryOr "timeout" (.float defaultTimeout) part)) := by
  rw [entryOr]
  cases hfind : Entries.find? "timeout" part with
  | none => exact .ok _
  | some v =>
    have hkey {fault : Fault} (hfault : fault.key? = some "backend.timeout") :
        Faults environment part fault := Or.inl (.find hfind (.here hfault))
    rw [Option.getD_some]
    unfold requireNumber
    split
    · next n =>
      split
      · exact .ok _
      · next hn => exact .error (Or.inr ⟨rfl, h n hfind hn⟩)
    · exact .ok _
    · exact .error (hkey rfl)

theorem fails_read (environment : Option String) (raw : Mapping) :
    Fails (fun fault => Blames "backend" (Mapping.findOrNull "backend" raw) fault ∨
        fault = .beyondDoubles ∧
          ∃ part, Mapping.findOrNull "backend" raw = .map part ∧ Overflows environment part)
      (read environment raw) := by
  refine .bind ((fails_requiredSection "backend" raw).mono fun _ => Or.inl) fun part hpart => ?_
  rw [findOrNull_of_requiredSection hpart]
  have hblames (fault : Fault) : Blames "backend" (.map part) fault → Faults environment part fault :=
    Or.inl
  refine Fails.mono (P := Faults environment part) ?_ fun fault hfault =>
    hfault.imp_right fun ⟨hdoubles, hoverflows⟩ => ⟨hdoubles, part, rfl, hoverflows⟩
  refine .bind ((fails_readApiPath environment part).mono hblames) fun apiPath hpath => ?_
  refine fails_required hblames (by decide) fails_requireString fun v index hindex hv => ?_
  refine .bind ((fails_entryOr (by decide) fails_requireString rfl).mono hblames)
    fun searchPath hsearch => ?_
  refine .bind (fails_timeout fun n htimeout hn => ⟨⟨apiPath, hpath⟩, ?_, ?_, n, htimeout,
    Double.ofInt?_eq_none_iff.mp hn⟩) fun timeout _ => ?_
  · exact ⟨index, by rw [hindex, requireString_eq_ok_iff.mp hv]⟩
  · exact ⟨searchPath, requireString_eq_ok_iff.mp hsearch⟩
  have hfields : requireStrings "backend.fulltext_fields" (.strs ["ocr"]) = .ok ["ocr"] :=
    requireStringItems_strs _ ["ocr"] 0
  refine .bind ((fails_entryOr (by decide) fails_requireInteger rfl).mono hblames) fun pageSize _ => ?_
  exact .bind ((fails_entryOr (by decide) fails_requireStrings hfields).mono hblames) fun _ _ => .ok _

/-- **A time to wait that is too large for a double is refused with a fault that names no key.** -/
theorem read_of_overflows {environment : Option String} {raw part : Mapping}
    (hpart : Mapping.findOrNull "backend" raw = .map part) (h : Overflows environment part) :
    read environment raw = .error .beyondDoubles := by
  obtain ⟨⟨apiPath, hpath⟩, ⟨index, hindex⟩, ⟨searchPath, hsearch⟩, n, htimeout, hn⟩ := h
  rw [read, requiredSection, hpart]
  simp only [requireObject, ok_bind, hpath, requireEntry, hindex, requireString, hsearch]
  rw [entryOr, htimeout, Option.getD_some, requireNumber, Double.ofInt?_eq_none_iff.mpr hn]
  rfl

theorem fails_check (settings : BackendSettings) (v : Value) :
    Fails (Blames "backend" v) settings.check := by
  have hpath : "backend.api_path" = "backend" ++ "." ++ "api_path" := by decide
  have hindex : "backend.index" = "backend" ++ "." ++ "index" := by decide
  have htimeout : "backend.timeout" = "backend" ++ "." ++ "timeout" := by decide
  have hsize : "backend.pagination_size" = "backend" ++ "." ++ "pagination_size" := by decide
  have hfields : "backend.fulltext_fields" = "backend" ++ "." ++ "fulltext_fields" := by decide
  refine .bind (fails_keep (.name rfl hpath)) fun _ _ => ?_
  refine .bind (fails_keep (.name rfl hpath)) fun _ _ => ?_
  refine .bind (fails_keep (.name rfl hindex)) fun _ _ => ?_
  refine .bind (fails_keep (.name rfl htimeout)) fun _ _ => ?_
  exact .bind (fails_keep (.name rfl hsize)) fun _ _ => fails_keep (.name rfl hfields)

end BackendSettings

/-! ## Facets -/

namespace FieldSpec

theorem fails_readExtra {key : String} {v : Value} (h : v.isWritable = true) :
    Fails (Blames key v) (readExtra key v) := by
  unfold readExtra
  split
  · exact .ok none
  · exact (Clause.fails_read key v h).map _

theorem fails_read {key : String} {v : Value} (h : v.isWritable = true) :
    Fails (Blames key v) (read key v) := by
  refine .bind (fails_requireObject v) fun part hpart => ?_
  obtain rfl := requireObject_eq_ok_iff.mp hpart
  rw [Value.isWritable] at h
  obtain ⟨unknown, hunknown⟩ := Mapping.exists_namesOutside h allowedKeys
  rw [hunknown, ok_bind]
  dsimp only
  split
  · exact .error (.here rfl)
  refine fails_required (fun _ => id) (append_dotted (by decide) key) fails_requireString
    fun _ field _ _ => ?_
  refine fails_required (fun _ => id) (append_dotted (by decide) key) (fails_requireChoice _)
    fun _ kind _ _ => ?_
  refine .bind (fails_entryOr (append_dotted (by decide) key) (fails_requireChoice _)
    (BucketOrder.requireChoice_name (.inr rfl) _)) fun order _ => ?_
  have hextra : key ++ ".extra_query_field" = key ++ "." ++ "extra_query_field" :=
    append_dotted (by decide) key
  have hlabel : key ++ ".label" = key ++ "." ++ "label" := append_dotted (by decide) key
  refine .bind (fails_findOrNull hextra rfl fun v hv => ?_) fun extra _ => ?_
  · exact fails_readExtra (hv ▸ Mapping.isWritable_findOrNull h _)
  · exact .bind (fails_findOrNull hlabel rfl fun v _ => fails_optionalString v) fun label _ => .ok _

end FieldSpec

/-! ## Sorts -/

namespace SortOption

theorem fails_readExpression {key : String} (v : Value) : Fails (Blames key v) (readExpression key v) := by
  unfold readExpression
  split
  · exact .ok _
  · split
    · exact .ok _
    · exact .error (.here rfl)
  · exact .error (.here rfl)

theorem fails_read {key : String} (v : Value) : Fails (Blames key v) (read key v) := by
  refine .bind (fails_requireObject v) fun part hpart => ?_
  obtain rfl := requireObject_eq_ok_iff.mp hpart
  refine fails_required (fun _ => id) (append_dotted (by decide) key) fails_requireString
    fun _ label _ _ => ?_
  dsimp only
  split
  · exact .error (.name rfl (append_dotted (by decide : ".label" = "." ++ "label") key))
  exact fails_required (fun _ => id) (append_dotted (by decide) key) fails_readExpression
    fun _ expression _ _ => .ok _

end SortOption

namespace FacetSettings

theorem fails_readSpecs : ∀ m : Mapping, Value.entriesWritable m = true →
    ∀ whole : Mapping, (∀ e ∈ m, e ∈ whole) → Fails (Blames "facets" (.map whole)) (readSpecs m)
  | [], _, _, _ => .ok []
  | (k, v) :: m, h, whole, hwhole => by
    obtain ⟨hentry, hrest⟩ := List.forall_mem_cons.mp hwhole
    rw [Value.entriesWritable, Bool.and_eq_true, Bool.and_eq_true] at h
    unfold readSpecs
    split
    · next heq => cases heq
    · next name w rest heq =>
      obtain ⟨⟨rfl, rfl⟩, rfl⟩ : (k = .str name ∧ v = w) ∧ m = rest := by simpa using heq
      have hname : "facets." ++ name = "facets" ++ "." ++ (Key.str name).text := by
        rw [Key.text_str, show "facets" ++ "." = "facets." by decide]
      rw [hname]
      refine .bind ((FieldSpec.fails_read h.1.2).mono fun _ => .entry hentry) fun spec _ => ?_
      exact .bind (fails_readSpecs m h.2 whole hrest) fun specs _ => .ok _
    · exact .error (Blames.here rfl)

theorem fails_readSorts {xs : List Value} {index : Nat} {whole : List Value}
    (hdrop : whole.drop index = xs) : Fails (Blames "sorts" (.list whole)) (readSorts index xs) := by
  induction xs generalizing index with
  | nil => exact .ok []
  | cons x xs ih =>
    obtain ⟨hfound, hrest⟩ := found_of_drop hdrop
    have hkey : "sorts[" ++ String.ofList (natText index) ++ "]" = Clause.itemKey "sorts" index := by
      rw [Clause.itemKey, show "sorts" ++ "[" = "sorts[" by decide]
    rw [readSorts, hkey]
    refine .bind ((SortOption.fails_read x).mono fun _ => .item hfound) fun option _ => ?_
    exact .bind (ih hrest) fun options _ => .ok _

theorem fails_readSortSection (raw : Mapping) :
    Fails (Blames "sorts" (Mapping.findOrNull "sorts" raw)) (readSortSection raw) := by
  unfold readSortSection
  generalize Mapping.findOrNull "sorts" raw = v
  dsimp only
  split
  · exact .ok []
  · split
    · exact fails_readSorts rfl
    · exact .error (.here rfl)

theorem mem_of_readSpecs {m : Mapping} {specs : List (String × FieldSpec)} (h : readSpecs m = .ok specs)
    {facet : String} {spec : FieldSpec} (hmem : (facet, spec) ∈ specs) : ∃ v, (.str facet, v) ∈ m := by
  induction m generalizing specs with
  | nil =>
    obtain rfl := Except.ok.inj h
    cases hmem
  | cons e m ih =>
    obtain ⟨key, first, rest, hkey, -, hrest, rfl⟩ := readSpecs_cons_eq_ok h
    rcases List.mem_cons.mp hmem with hfirst | hmem
    · obtain ⟨rfl, -⟩ := Prod.mk.inj hfirst
      exact ⟨e.2, hkey ▸ List.mem_cons_self⟩
    · obtain ⟨v, hv⟩ := ih hrest hmem
      exact ⟨v, List.mem_cons_of_mem e hv⟩

theorem fails_checkSpecs {m : Mapping} {specs : List (String × FieldSpec)}
    (h : ∀ named ∈ specs, ∃ v, (.str named.1, v) ∈ m) :
    Fails (Blames "facets" (.map m)) (checkSpecs specs) := by
  induction specs with
  | nil => exact .ok ()
  | cons named specs ih =>
    obtain ⟨facet, spec⟩ := named
    obtain ⟨⟨v, hv⟩, hrest⟩ := List.forall_mem_cons.mp h
    have hkey : "facets." ++ facet ++ ".field"
        = "facets" ++ "." ++ (Key.str facet).text ++ "." ++ "field" := by
      rw [Key.text_str, show "facets" ++ "." = "facets." by decide,
        append_dotted (by decide : ".field" = "." ++ "field")]
    refine .bind ?_ fun _ _ => ih hrest
    refine .bind (fails_keep (.entry hv (.name rfl hkey))) fun _ _ => ?_
    exact fails_keep (.entry hv (.name rfl hkey))

end FacetSettings

/-! ## All settings -/

namespace Settings

/-- The names of the sections. -/
def sections : List String := ["log", "backend", "facets", "sorts"]

/-- The fault is that of one of the sections. -/
def BlamesSection (raw : Mapping) (fault : Fault) : Prop :=
  ∃ name ∈ sections, Blames name (Mapping.findOrNull name raw) fault

/-- The time to wait is an integer of such a size that no double is near, and what is read before it is as it
should be. -/
def Overflows (environment : Option String) (raw : Mapping) : Prop :=
  (∃ log, LogSettings.read raw = .ok log) ∧
    ∃ part, Mapping.findOrNull "backend" raw = .map part ∧ BackendSettings.Overflows environment part

variable {environment : Option String} {raw : Mapping}

theorem BlamesSection.isEndless_or_named {fault : Fault} (h : BlamesSection raw fault) :
    (∃ name ∈ sections, ∃ path, fault.key? = some path ∧
      Leads name (Mapping.findOrNull name raw) path) ∨
    fault = .endless ∧ Value.entriesEndless raw = true := by
  obtain ⟨name, hname, hblames⟩ := h
  cases hblames with
  | named names leads => exact Or.inl ⟨name, hname, _, names, leads⟩
  | endless hendless => exact Or.inr ⟨rfl, Mapping.entriesEndless_of_findOrNull hendless⟩

theorem fails_readFacets (h : Value.entriesWritable raw = true) :
    Fails (BlamesSection raw) (FacetSettings.read raw) := by
  have hfacets (fault : Fault) (hfault : Blames "facets" (Mapping.findOrNull "facets" raw) fault) :
      BlamesSection raw fault := ⟨"facets", by decide, hfault⟩
  have hsorts (fault : Fault) (hfault : Blames "sorts" (Mapping.findOrNull "sorts" raw) fault) :
      BlamesSection raw fault := ⟨"sorts", by decide, hfault⟩
  refine .bind (.mono ?_ hfacets) fun registry _ => ?_
  · refine .bind (fails_requiredSection "facets" raw) fun part hpart => ?_
    have hsection := findOrNull_of_requiredSection hpart
    have hwritable := Mapping.isWritable_findOrNull h "facets"
    rw [hsection] at hwritable ⊢
    exact .bind (FacetSettings.fails_readSpecs part hwritable part fun _ => id) fun specs _ => .ok _
  · exact .bind ((FacetSettings.fails_readSortSection raw).mono hsorts) fun sorts _ => .ok _

theorem fails_checkFacets {facets : FacetSettings} (h : FacetSettings.read raw = .ok facets) :
    Fails (BlamesSection raw) facets.check := by
  obtain ⟨part, hpart, hregistry⟩ := bind_eq_ok_iff.mp (FacetSettings.read_eq_ok h).1
  obtain ⟨specs, hspecs, hregistry⟩ := bind_eq_ok_iff.mp hregistry
  have hregistry : facets.registry.specs = specs := congrArg Registry.specs (Except.ok.inj hregistry).symm
  have hfacets (fault : Fault) (hfault : Blames "facets" (.map part) fault) : BlamesSection raw fault := by
    refine ⟨"facets", by decide, ?_⟩
    rwa [findOrNull_of_requiredSection hpart]
  have hsorts (fault : Fault) (hfault : Blames "sorts" (Mapping.findOrNull "sorts" raw) fault) :
      BlamesSection raw fault := ⟨"sorts", by decide, hfault⟩
  refine .bind ((fails_keep (.here rfl)).mono hfacets) fun _ _ => ?_
  refine .bind ((FacetSettings.fails_checkSpecs fun named hnamed => ?_).mono hfacets) fun _ _ => ?_
  · exact FacetSettings.mem_of_readSpecs hspecs (hregistry ▸ hnamed)
  · exact (fails_keep (.here rfl)).mono hsorts

theorem fails_ofMapping (h : Value.entriesWritable raw = true) :
    Fails (fun fault => BlamesSection raw fault ∨ fault = .beyondDoubles ∧ Overflows environment raw)
      (ofMapping environment raw) := by
  have hlog (fault : Fault) (hfault : Blames "log" (Mapping.findOrNull "log" raw) fault) :
      BlamesSection raw fault := ⟨"log", by decide, hfault⟩
  have hbackend (fault : Fault) (hfault : Blames "backend" (Mapping.findOrNull "backend" raw) fault) :
      BlamesSection raw fault := ⟨"backend", by decide, hfault⟩
  have hsection (fault : Fault) (hfault : BlamesSection raw fault) :
      BlamesSection raw fault ∨ fault = .beyondDoubles ∧ Overflows environment raw := Or.inl hfault
  refine .bind (.bind ?_ fun log hreadLog => .bind ?_ fun backend hreadBackend => .bind ?_
    fun facets hreadFacets => .ok _) fun settings hread => .bind (.mono ?_ hsection) fun _ _ => .ok _
  · exact ((LogSettings.fails_read raw).mono hlog).mono hsection
  · refine (BackendSettings.fails_read environment raw).mono fun fault hfault => ?_
    exact hfault.imp (hbackend fault) fun ⟨hdoubles, hpart⟩ => ⟨hdoubles, ⟨log, hreadLog⟩, hpart⟩
  · exact (fails_readFacets h).mono hsection
  · refine .bind ((LogSettings.fails_check settings.log _).mono hlog) fun _ _ => ?_
    refine .bind ((BackendSettings.fails_check settings.backend _).mono hbackend) fun _ _ => ?_
    exact fails_checkFacets (read_eq_ok hread).2.2

theorem ofMapping_of_overflows (h : Overflows environment raw) :
    ofMapping environment raw = .error .beyondDoubles := by
  obtain ⟨⟨log, hlog⟩, part, hpart, hoverflows⟩ := h
  rw [ofMapping, read, hlog, BackendSettings.read_of_overflows hpart hoverflows]
  rfl

/--
**What is refused names a setting.**

Where no integer is too long to be written: if settings are refused, the fault is one of type or of value,
it names a key path that begins with the name of a section and leads into this section, and its message
holds this path. There are two exceptions. One is a document that holds itself. The other is a time to wait
that is an integer beyond the doubles, with all that is read before it as it should be: it is always refused
with a fault that names nothing.
-/
theorem faults_name_settings (h : Value.entriesWritable raw = true) :
    (∀ fault, ofMapping environment raw = .error fault →
      (fault.sort = .type ∨ fault.sort = .value) ∧
          (∃ name ∈ sections, ∃ path, fault.key? = some path ∧ name.toList <+: path.toList ∧
            path.toList <:+: fault.message.toList ∧ Leads name (Mapping.findOrNull name raw) path) ∨
        fault = .beyondDoubles ∧ Overflows environment raw ∨
        fault = .endless ∧ Value.entriesEndless raw = true) ∧
    (Overflows environment raw → ofMapping environment raw = .error .beyondDoubles) := by
  refine ⟨fun fault hfault => ?_, ofMapping_of_overflows⟩
  rcases fails_ofMapping h fault hfault with hblames | hoverflows
  · rcases hblames.isEndless_or_named with ⟨name, hname, path, hpath, hleads⟩ | hendless
    · exact Or.inl ⟨Fault.sort_of_key? hpath, name, hname, path, hpath, hleads.isPrefix,
        Fault.infix_of_key? hpath, hleads⟩
    · exact Or.inr (Or.inr hendless)
  · exact Or.inr (Or.inl hoverflows)

/-- A clause that is wrong far inside of a facet is named by its path, and a time to wait of four hundred
digits is not named at all. -/
theorem faults_name_settings_nested :
    let clauses := Value.list [.object [("match_all", .null)], .object [("terms", .object [("role", .str "mp")])]]
    let extra := Value.object [("bool", .object [("must", clauses)])]
    let facet := Value.object
      [("field", .str "persons.id"), ("kind", .str "terms"), ("extra_query_field", extra)]
    let backend (timeout : Int) := Value.object [("api_path", .str "https://archive"),
      ("index", .str "idx"), ("timeout", .int timeout)]
    let raw (timeout : Int) : Mapping :=
      [(.str "backend", backend timeout), (.str "facets", .object [("person", facet)])]
    (∃ fault, ofMapping none (raw 30) = .error fault ∧ (fault.sort = .type ∨ fault.sort = .value) ∧
      "facets.person.extra_query_field.bool.must[1].terms.role".toList <:+: fault.message.toList) ∧
    ofMapping none (raw (Nat.pow 10 399)) = .error .beyondDoubles := by
  intro clauses extra facet backend raw
  refine ⟨?_, ?_⟩
  · obtain ⟨hfaults, -⟩ := @faults_name_settings none (raw 30) (by decide +kernel)
    have hrun : (match ofMapping none (raw 30) with
        | .error fault => fault.key?
        | .ok _ => none) = some "facets.person.extra_query_field.bool.must[1].terms.role" := by
      decide +kernel
    cases hread : ofMapping none (raw 30) with
    | ok settings =>
      rw [hread] at hrun
      cases hrun
    | error fault =>
      rw [hread] at hrun
      dsimp only at hrun
      rcases hfaults fault hread with ⟨hsort, name, -, path, hpath, -, hinfix, -⟩ | ⟨rfl, -⟩ | ⟨rfl, -⟩
      · obtain rfl := Option.some.inj (hpath.symm.trans hrun)
        exact ⟨fault, rfl, hsort, hinfix⟩
      · cases hrun
      · cases hrun
  · obtain ⟨-, hoverflows⟩ := @faults_name_settings none (raw (Nat.pow 10 399)) (by decide +kernel)
    have hlog : (LogSettings.read (raw (Nat.pow 10 399))).toOption.isSome = true := by decide +kernel
    cases hread : LogSettings.read (raw (Nat.pow 10 399)) with
    | error fault =>
      rw [hread] at hlog
      cases hlog
    | ok log =>
      exact hoverflows ⟨⟨log, hread⟩, _, rfl, ⟨_, rfl⟩, ⟨"idx", rfl⟩, ⟨"search", rfl⟩,
        _, rfl, by decide +kernel⟩

/-- **A time to wait that is an integer beyond the doubles is refused with a fault that is neither one of
type nor one of value, and that names no section.** -/
theorem overflow_names_no_setting :
    let facet := Value.object [("field", .str "party"), ("kind", .str "terms")]
    let backend := Value.object [("api_path", .str "https://archive"), ("index", .str "idx"),
      ("timeout", .int (Nat.pow 10 400))]
    let raw : Mapping := [(.str "backend", backend), (.str "facets", .object [("party", facet)])]
    Value.entriesWritable raw = true ∧ Value.entriesEndless raw = false ∧
      ∃ fault, ofMapping none raw = .error fault ∧ fault.sort ≠ .type ∧ fault.sort ≠ .value ∧
        ∀ name ∈ sections, ¬name.toList <:+: fault.message.toList := by
  intro facet backend raw
  have hrun : (match ofMapping none raw with
      | .error fault => some fault
      | .ok _ => none) = some .beyondDoubles := by
    decide +kernel
  cases hread : ofMapping none raw with
  | ok settings =>
    rw [hread] at hrun
    cases hrun
  | error fault =>
    rw [hread] at hrun
    obtain rfl := Option.some.inj hrun
    exact ⟨by decide +kernel, by decide +kernel, _, rfl, by decide, by decide, by decide +kernel⟩

end Settings

end Faceted
