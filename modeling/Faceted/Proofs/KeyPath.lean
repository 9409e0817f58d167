import Faceted.Clause.Reading
import Faceted.Proofs.Entries
import Faceted.Proofs.KeyText

/-!
# Key paths

A fault of a document names the key path of the part that is wrong: `Fault.key?` says which path this is,
and the message of the fault holds it as it stands (`Fault.infix_of_key?`).

* `Leads` says which paths lead into a value that stands at a key: along entries and items to what is
  there, and one step further to an entry that is not there.
* `Blames` is what each reader has to show of its faults: they name a path into the value that is read.
  A fault inside of a part is one inside of the whole (`Blames.entry`, `Blames.item`).
* `Fails` carries this through readings one after the other.
-/

namespace Faceted

open Text Number

/-! ## The keys of faults -/

/-- The key path of the setting that a rule is about. -/
def Rule.key : Rule → String
  | .logDirNamed => "log.dir"
  | .apiPathNamed | .apiPathIsUrl => "backend.api_path"
  | .indexNamed => "backend.index"
  | .timeoutPositive => "backend.timeout"
  | .pageSizePositive => "backend.pagination_size"
  | .fulltextFieldsNamed => "backend.fulltext_fields"
  | .someFacet => "facets"
  | .facetFieldNamed facet | .facetFieldDotInside facet => "facets." ++ facet ++ ".field"
  | .sortLabelsUnique => "sorts"

theorem Rule.exists_phrase_eq : ∀ r : Rule, ∃ rest, r.phrase = r.key ++ rest
  | .logDirNamed => ⟨" must not be empty when log.to_file is set", by decide⟩
  | .apiPathNamed | .indexNamed => ⟨" must not be empty", by decide⟩
  | .apiPathIsUrl => ⟨" must be an http(s) URL", by decide⟩
  | .timeoutPositive | .pageSizePositive => ⟨" must be positive", by decide⟩
  | .fulltextFieldsNamed => ⟨" must include at least one field", by decide⟩
  | .someFacet => ⟨" must include at least one facet", by decide⟩
  | .facetFieldNamed _ => ⟨" must not be empty", by simp [phrase, key, String.append_assoc]⟩
  | .facetFieldDotInside _ =>
    ⟨" must not start or end with a dot", by simp [phrase, key, String.append_assoc]⟩
  | .sortLabelsUnique => ⟨" labels must be unique", by decide⟩

namespace Fault

/-- The key path that a fault names, if it names one. -/
def key? : Fault → Option String
  | .wrongShape key _ | .noFieldName key | .missing key | .clauseCount key | .unknownClause key _
  | .fieldCount key | .unknownNames key _ _ | .notAmong key _ => some key
  | .noPath key => some (key ++ ".path")
  | .emptyLabel key => some (key ++ ".label")
  | .facetNotNamed => some "facets"
  | .rule r => some r.key
  | _ => none

theorem infix_foldl (key : String) (rest : List String) :
    key.toList <:+: (rest.foldl (· ++ ·) key).toList := by
  induction rest generalizing key with
  | nil => exact List.infix_refl _
  | cons text rest ih =>
    refine List.IsInfix.trans ?_ (ih (key ++ text))
    rw [String.toList_append]
    exact (List.prefix_append _ _).isInfix

/-- **The message of a fault holds the key path that the fault names.** -/
theorem infix_of_key? {fault : Fault} {key : String} (h : fault.key? = some key) :
    key.toList <:+: fault.message.toList := by
  cases fault with
  | wrongShape key wanted =>
    cases h
    exact infix_foldl key [" must be ", wanted.phrase]
  | noFieldName key =>
    cases h
    exact infix_foldl key [" field name must be a non-empty string"]
  | clauseCount key =>
    cases h
    exact infix_foldl key [" must contain exactly one clause type"]
  | unknownClause key type =>
    cases h
    exact infix_foldl key [" has unsupported clause type: ", type]
  | fieldCount key =>
    cases h
    exact infix_foldl key [" must target exactly one field"]
  | unknownNames key sort names =>
    cases h
    exact infix_foldl key [" has unknown ", sort.phrase, ": ", quotedList names]
  | notAmong key choices =>
    cases h
    exact infix_foldl key [" must be one of ", quotedList choices]
  | missing key =>
    cases h
    show key.toList <:+: ("Missing required config: " ++ key).toList
    rw [String.toList_append]
    exact (List.suffix_append _ _).isInfix
  | noPath key =>
    cases h
    have hmessage : (Fault.noPath key).message = key ++ ".path" ++ " must be a non-empty string" := by
      show key ++ ".path must be a non-empty string" = _
      simp [String.append_assoc]
    rw [hmessage]
    exact infix_foldl _ [_]
  | emptyLabel key =>
    cases h
    have hmessage : (Fault.emptyLabel key).message = key ++ ".label" ++ " must not be empty" := by
      show key ++ ".label must not be empty" = _
      simp [String.append_assoc]
    rw [hmessage]
    exact infix_foldl _ [_]
  | facetNotNamed =>
    cases h
    have hmessage : facetNotNamed.message = "facets" ++ " keys must be strings" := by decide
    rw [hmessage]
    exact infix_foldl _ [_]
  | rule r =>
    cases h
    obtain ⟨rest, hrest⟩ := r.exists_phrase_eq
    show r.key.toList <:+: r.phrase.toList
    rw [hrest]
    exact infix_foldl _ [_]
  | _ => cases h

/-- **A fault that names a key path is one of type or of value.** -/
theorem sort_of_key? {fault : Fault} {key : String} (h : fault.key? = some key) :
    fault.sort = .type ∨ fault.sort = .value := by
  cases fault <;> first | exact Or.inl rfl | exact Or.inr rfl | cases h

end Fault

/-! ## Keys -/

theorem Key.text_str (name : String) : (Key.str name).text = name := String.ofList_toList

theorem Key.written_of_isWritable {k : Key} (h : k.isWritable = true) : k.written = .ok k.text := by
  rw [written, if_pos h]

theorem Key.writtenAll_of_isWritable {ks : List Key} (h : ∀ k ∈ ks, k.isWritable = true) :
    Key.writtenAll ks = .ok (ks.map Key.text) := by
  induction ks with
  | nil => rfl
  | cons k ks ih =>
    obtain ⟨hk, hks⟩ := List.forall_mem_cons.mp h
    rw [writtenAll, written_of_isWritable hk, ih hks]
    rfl

/-- The value that a mapping has under a name; no other value has one. -/
def Value.entry? (name : String) : Value → Option Value
  | .map m => Entries.find? name m
  | _ => none

theorem Value.entriesEndless_of_mem {m : Mapping} {k : Key} {v : Value} (hmem : (k, v) ∈ m)
    (h : v.isEndless = true) : Value.entriesEndless m = true := by
  induction m with
  | nil => cases hmem
  | cons e m ih =>
    rw [Value.entriesEndless, Bool.or_eq_true]
    rcases List.mem_cons.mp hmem with rfl | hmem
    · exact Or.inl h
    · exact Or.inr (ih hmem)

theorem Value.areEndless_of_mem {xs : List Value} {x : Value} (hmem : x ∈ xs)
    (h : x.isEndless = true) : Value.areEndless xs = true := by
  induction xs with
  | nil => cases hmem
  | cons y xs ih =>
    rw [Value.areEndless, Bool.or_eq_true]
    rcases List.mem_cons.mp hmem with rfl | hmem
    · exact Or.inl h
    · exact Or.inr (ih hmem)

theorem Value.isWritable_of_mem {m : Mapping} (h : Value.entriesWritable m = true) {k : Key} {v : Value}
    (hmem : (k, v) ∈ m) : k.isWritable = true ∧ v.isWritable = true := by
  induction m with
  | nil => cases hmem
  | cons e m ih =>
    rw [Value.entriesWritable, Bool.and_eq_true, Bool.and_eq_true] at h
    rcases List.mem_cons.mp hmem with rfl | hmem
    · exact h.1
    · exact ih h.2 hmem

theorem Mapping.isWritable_findOrNull {m : Mapping} (h : Value.entriesWritable m = true) (name : String) :
    (Mapping.findOrNull name m).isWritable = true := by
  rw [findOrNull]
  cases hfind : Entries.find? name m with
  | none => rfl
  | some v => exact (Value.isWritable_of_mem h (Entries.mem_of_find? hfind)).2

theorem Mapping.entriesEndless_of_findOrNull {m : Mapping} {name : String}
    (h : (Mapping.findOrNull name m).isEndless = true) : Value.entriesEndless m = true := by
  rw [findOrNull] at h
  cases hfind : Entries.find? name m with
  | none =>
    rw [hfind] at h
    cases h
  | some v =>
    rw [hfind] at h
    exact Value.entriesEndless_of_mem (Entries.mem_of_find? hfind) h

theorem Mapping.exists_namesOutside {m : Mapping} (h : Value.entriesWritable m = true)
    (allowed : List String) : ∃ names, Mapping.namesOutside allowed m = .ok names := by
  have hkeys : ∀ k ∈ Entries.keys m, k.isWritable = true := by
    intro k hk
    obtain ⟨e, he, rfl⟩ := List.mem_map.mp hk
    exact (Value.isWritable_of_mem h he).1
  exact ⟨_, by rw [Mapping.namesOutside, Key.writtenAll_of_isWritable hkeys]; rfl⟩

/-- The names of a mapping cannot be looked at exactly if a key is too long. -/
theorem Mapping.namesOutside_eq_error_iff {allowed : List String} {m : Mapping} {fault : Fault} :
    Mapping.namesOutside allowed m = .error fault ↔
      fault = .tooLongToWrite ∧ ∃ k ∈ Entries.keys m, k.isWritable = false := by
  constructor
  · intro h
    rcases Mapping.namesOutside_cases allowed m with ⟨names, hnames⟩ | hlong
    · rw [hnames] at h
      cases h
    refine ⟨(Except.error.inj (hlong.symm.trans h)).symm, ?_⟩
    by_cases hkeys : ∀ k ∈ Entries.keys m, k.isWritable = true
    · rw [Mapping.namesOutside, Key.writtenAll_of_isWritable hkeys] at h
      cases h
    · simpa using hkeys
  · rintro ⟨rfl, k, hk, hlong⟩
    refine (Mapping.namesOutside_cases allowed m).resolve_left ?_
    rintro ⟨names, hnames⟩
    obtain ⟨written, hwritten, -⟩ := map_eq_ok_iff.mp hnames
    obtain ⟨name, -, hname⟩ := Key.written_of_writtenAll hwritten k hk
    rw [Key.written, hlong] at hname
    cases hname

/-! ## Paths into a value -/

theorem append_dotted {name dotted : String} (h : dotted = "." ++ name) (key : String) :
    key ++ dotted = key ++ "." ++ name := by
  rw [h, String.append_assoc]

/-- The path leads into the value that stands at a key: to the value itself, through one of its entries or
items, or to an entry that it does not have. -/
inductive Leads : String → Value → String → Prop
  | here {key : String} {v : Value} : Leads key v key
  | entry {key path : String} {m : Mapping} {k : Key} {v : Value} (mem : (k, v) ∈ m)
    (inside : Leads (key ++ "." ++ k.text) v path) : Leads key (.map m) path
  | item {key path : String} {xs : List Value} {x : Value} {index : Nat} (found : xs[index]? = some x)
    (inside : Leads (Clause.itemKey key index) x path) : Leads key (.list xs) path
  | absent {key name : String} {v : Value} (missing : v.entry? name = none) :
    Leads key v (key ++ "." ++ name)

/-- An entry stands under its name, whether it is there or not. -/
theorem Leads.name (key : String) (v : Value) (name : String) : Leads key v (key ++ "." ++ name) := by
  cases hentry : v.entry? name with
  | none => exact .absent hentry
  | some w =>
    cases v with
    | map m =>
      refine .entry (Entries.mem_of_find? hentry) ?_
      rw [Key.text_str]
      exact .here
    | _ => cases hentry

/-- A path begins with the key that it leads from. -/
theorem Leads.isPrefix {key path : String} {v : Value} (h : Leads key v path) :
    key.toList <+: path.toList := by
  induction h with
  | here => exact List.prefix_refl _
  | entry mem inside ih | item found inside ih =>
    refine List.IsPrefix.trans ?_ ih
    simp only [Clause.itemKey, String.toList_append, List.append_assoc]
    exact List.prefix_append _ _
  | absent missing =>
    simp only [String.toList_append, List.append_assoc]
    exact List.prefix_append _ _

/-! ## Blame -/

/-- The fault is that of the value at a key: it names a path into the value, or tells that a part of the
value goes on without an end. -/
inductive Blames (key : String) (v : Value) : Fault → Prop
  | named {fault : Fault} {path : String} (names : fault.key? = some path) (leads : Leads key v path) :
    Blames key v fault
  | endless (h : v.isEndless = true) : Blames key v .endless

namespace Blames

variable {key : String} {fault : Fault}

theorem here {v : Value} (h : fault.key? = some key) : Blames key v fault := .named h .here

theorem name {v : Value} {path name : String} (h : fault.key? = some path)
    (hpath : path = key ++ "." ++ name) : Blames key v fault :=
  .named h (hpath ▸ Leads.name key v name)

/-- **A fault of an entry is one of the mapping.** -/
theorem entry {m : Mapping} {k : Key} {v : Value} (hmem : (k, v) ∈ m)
    (h : Blames (key ++ "." ++ k.text) v fault) : Blames key (.map m) fault := by
  cases h with
  | named names leads => exact .named names (.entry hmem leads)
  | endless h => exact .endless (Value.entriesEndless_of_mem hmem h)

theorem find {m : Mapping} {name : String} {v : Value} (hfind : Entries.find? name m = some v)
    (h : Blames (key ++ "." ++ name) v fault) : Blames key (.map m) fault := by
  refine .entry (Entries.mem_of_find? hfind) ?_
  rwa [Key.text_str]

/-- **A fault of an item is one of the list.** -/
theorem item {xs : List Value} {x : Value} {index : Nat} (hfound : xs[index]? = some x)
    (h : Blames (Clause.itemKey key index) x fault) : Blames key (.list xs) fault := by
  cases h with
  | named names leads => exact .named names (.item hfound leads)
  | endless h => exact .endless (Value.areEndless_of_mem (List.mem_of_getElem? hfound) h)

end Blames

/-- The items of a list are gone through by position. -/
theorem found_of_drop {xs whole : List Value} {x : Value} {index : Nat}
    (h : whole.drop index = x :: xs) : whole[index]? = some x ∧ whole.drop (index + 1) = xs := by
  refine ⟨?_, ?_⟩
  · rw [← List.head?_drop, h, List.head?_cons]
  · rw [← List.tail_drop, h, List.tail_cons]

/-! ## Readings -/

/-- The computation fails by a fault of some kind, if it fails. -/
def Fails {α : Type} (P : Fault → Prop) (x : Except Fault α) : Prop := ∀ fault, x = .error fault → P fault

namespace Fails

variable {α β : Type} {P Q : Fault → Prop}

theorem ok (a : α) : Fails P (.ok a) := nofun

theorem error {fault : Fault} (h : P fault) : Fails P (.error fault : Except Fault α) := by
  rintro _ ⟨⟩
  exact h

theorem mono {x : Except Fault α} (hx : Fails P x) (h : ∀ fault, P fault → Q fault) : Fails Q x :=
  fun fault hfault => h fault (hx fault hfault)

theorem bind {x : Except Fault α} {f : α → Except Fault β} (hx : Fails P x)
    (hf : ∀ a, x = .ok a → Fails P (f a)) : Fails P (x >>= f) := by
  cases x with
  | error fault => exact .error (hx fault rfl)
  | ok a => exact hf a rfl

theorem map {x : Except Fault α} (hx : Fails P x) (f : α → β) : Fails P (x.map f) := by
  cases x with
  | error fault => exact .error (hx fault rfl)
  | ok a => exact .ok (f a)

end Fails

/-- The fault that a computation fails by, if it fails. -/
def faultOf {α : Type} : Except Fault α → Option Fault
  | .ok _ => none
  | .error fault => some fault

section

variable {α β : Type} {x : Except Fault α}

theorem faultOf_eq_some_iff {fault : Fault} : faultOf x = some fault ↔ x = .error fault := by
  cases x <;> simp [faultOf]

theorem faultOf_eq_none_iff : faultOf x = none ↔ ∃ a, x = .ok a := by
  cases x <;> simp [faultOf]

theorem faultOf_bind {f : α → Except Fault β} {next : Option Fault}
    (h : ∀ a, x = .ok a → faultOf (f a) = next) : faultOf (x >>= f) = (faultOf x).or next := by
  cases x with
  | error fault => rfl
  | ok a => exact h a rfl

theorem faultOf_bind_pure {f : α → β} : faultOf (x >>= fun a => pure (f a)) = faultOf x := by
  cases x <;> rfl

end

/-- A reading that takes null for nothing can be blamed on a mapping for the entry that it reads. -/
theorem fails_findOrNull {α : Type} {key inner name : String} {m : Mapping} {reads : Value → Except Fault α}
    {a : α} (hinner : inner = key ++ "." ++ name) (hnull : reads .null = .ok a)
    (hreads : ∀ v, v = Mapping.findOrNull name m → Fails (Blames inner v) (reads v)) :
    Fails (Blames key (.map m)) (reads (Mapping.findOrNull name m)) := by
  subst hinner
  specialize hreads _ rfl
  rw [Mapping.findOrNull] at hreads ⊢
  cases hfind : Entries.find? name m with
  | none =>
    rw [Option.getD_none, hnull]
    exact .ok a
  | some v =>
    rw [hfind] at hreads
    exact hreads.mono fun _ => .find hfind

end Faceted
