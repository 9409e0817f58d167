import Faceted.DateText
import Faceted.Proofs.Filter.Reading
import Faceted.Proofs.Settings.Blame

/-!
# Faults of filters

A filter document is refused for the first of its entries that no filter can be read from (`read_eq_error_iff`).
What is wrong with the entry is told by a fault that names the facet, or the bound of it, with two exceptions,
where the fault of a conversion comes through as it is (`Year.Escapes`, `FilterState.Escapes`):

* a text of digits that are not all decimal, or too many;
* an integer that is too long to be written, as a bound or among the names of bounds.

`faults_name_facets` puts the two together: a fault names no key exactly if it is one of these. The reader of dates
that is brought along has to answer every text with a year or with one of its two refusals
(`DateReader.NeverFails`).
-/

namespace Faceted

open Text Number

namespace Fault

/-- The key path that a fault of a filter names, if it names one. Beside what can be wrong with settings, a
facet may be unknown, and a bound no date. -/
def filterKey? : Fault → Option String
  | .unknownFacet key | .notDate key _ => some key
  | fault => fault.key?

theorem filterKey?_of_key? {fault : Fault} {key : String} (h : fault.key? = some key) :
    fault.filterKey? = some key := by
  cases fault with
  | unknownFacet | notDate => cases h
  | _ => exact h

theorem infix_of_filterKey? {fault : Fault} {key : String} (h : fault.filterKey? = some key) :
    key.toList <:+: fault.message.toList := by
  cases fault with
  | unknownFacet key =>
    cases h
    show key.toList <:+: ("Unknown facet: " ++ key).toList
    rw [String.toList_append]
    exact (List.suffix_append _ _).isInfix
  | notDate key text =>
    cases h
    exact infix_foldl key [" is not a valid date: ", text]
  | _ => exact infix_of_key? h

theorem sort_of_filterKey? {fault : Fault} {key : String} (h : fault.filterKey? = some key) :
    fault.sort = .type ∨ fault.sort = .value := by
  cases fault with
  | unknownFacet | notDate => exact Or.inr rfl
  | _ => exact sort_of_key? h

end Fault

/-- The reader finds a day, or says that there is none or that it is out of range. It does not fail itself. -/
def DateReader.NeverFails (dates : DateReader) : Prop := ∀ text fault, dates text ≠ .error (.failed fault)

/-! ## Single bounds -/

namespace Year

variable {dates : DateReader}

/-- What stands for a bound is refused with a fault that names no key: an integer that is too long, or a text
of digits that is no integer. -/
inductive Escapes : Value → Prop
  | integer {n : Int} (long : Nat.pow 10 digitLimit ≤ n.natAbs) : Escapes (.int n)
  | digits {s : String} (digits : ∀ c ∈ (trimmed s).toList, isDigit c = true)
    (unfit : (∃ c ∈ (trimmed s).toList, decimalValue? c = none) ∨ digitLimit < (trimmed s).toList.length) :
    Escapes (.str s)

variable {key : String}

theorem fails_ofText (hdates : dates.NeverFails) {s : String} (hne : trimmed s ≠ "") :
    Fails (fun fault => fault.filterKey? = some key ∨ Escapes (.str s)) (ofText dates key (trimmed s)) := by
  unfold ofText
  split
  · next hall =>
    have hdigits : ∀ c ∈ (trimmed s).toList, isDigit c = true := by simpa using hall
    split
    · exact .ok _
    · next f hf =>
      exact .error (Or.inr (.digits hdigits
        ((exists_readInt_error_iff (by simpa using hne) hdigits).mp ⟨f, hf⟩)))
  · next hall =>
    split
    · exact .ok _
    · exact .error (Or.inl rfl)
    · exact .error (Or.inl rfl)
    · next hfailed => exact absurd hfailed (hdates _ _)

/-- **The fault of a bound names the key of the bound**, unless the value is one of those that escape. -/
theorem fails_read (hdates : dates.NeverFails) (v : Value) :
    Fails (fun fault => fault.filterKey? = some key ∨ Escapes v) (read dates key v) := by
  unfold read
  split
  · exact .ok _
  · exact .error (Or.inl rfl)
  · next n =>
    split
    · next hlong =>
      refine .error (Or.inr (.integer (Nat.not_lt.mp fun hshort => ?_)))
      rw [exceedsDigits_eq_false_iff.mpr hshort] at hlong
      cases hlong
    · exact .ok _
  · exact .ok _
  · exact .ok _
  · next s =>
    dsimp only
    split
    · exact .ok _
    · next hne => exact (fails_ofText hdates (by simpa using hne)).map _
  · exact .error (Or.inl rfl)

/-- **A value that escapes is refused under any key with a fault that names none.** -/
theorem exists_fault_of_escapes {v : Value} (h : Escapes v) :
    ∃ fault, fault.filterKey? = none ∧ fault.sort = .value ∧ ∀ key, read dates key v = .error fault := by
  cases h with
  | @integer n long =>
    refine ⟨.tooLongToWrite, rfl, rfl, fun key => ?_⟩
    have hlong : exceedsDigits n = true := by
      rw [← Bool.not_eq_false, exceedsDigits_eq_false_iff]
      exact Nat.not_lt.mpr long
    rw [read, if_pos hlong]
  | @digits s digits unfit =>
    have hne : (trimmed s).toList ≠ [] := by
      rintro hnil
      simp [hnil] at unfit
    obtain ⟨f, hf⟩ := (exists_readInt_error_iff hne digits).mpr unfit
    refine ⟨.ofIntFault (trimmed s) f, by cases f <;> rfl, by cases f <;> rfl, fun key => ?_⟩
    have hall : (trimmed s).toList.all isDigit = true := by simpa using digits
    rw [read_str (by simpa using hne), ofText, if_pos hall, hf]
    rfl

end Year

/-! ## Filters -/

namespace FilterState

open Settings

variable {dates : DateReader} {registry : Registry} {spec : FieldSpec} {name : String} {v : Value} {fault : Fault}

/-- All that can be wrong with the bounds of a filter, in the order in which it is looked for. -/
inductive RefusesBounds (dates : DateReader) (name : String) : Value → Fault → Prop
  | shape {v : Value} (other : ∀ bounds, v ≠ .map bounds) : RefusesBounds dates name v (.wrongShape name .object)
  | long {bounds : Mapping} {k : Key} (mem : k ∈ Entries.keys bounds) (long : k.isWritable = false) :
    RefusesBounds dates name (.map bounds) .tooLongToWrite
  | unknown {bounds : Mapping} {names : List String}
    (unknown : Mapping.namesOutside ["max", "min"] bounds = .ok names) (some : names ≠ []) :
    RefusesBounds dates name (.map bounds) (.unknownNames name .bounds names)
  | min {bounds : Mapping} {fault : Fault} (known : Mapping.namesOutside ["max", "min"] bounds = .ok [])
    (wrong : Year.read dates (name ++ ".min") (Mapping.findOrNull "min" bounds) = .error fault) :
    RefusesBounds dates name (.map bounds) fault
  | max {bounds : Mapping} {fault : Fault} (known : Mapping.namesOutside ["max", "min"] bounds = .ok [])
    (fine : ∃ bound, Year.read dates (name ++ ".min") (Mapping.findOrNull "min" bounds) = .ok bound)
    (wrong : Year.read dates (name ++ ".max") (Mapping.findOrNull "max" bounds) = .error fault) :
    RefusesBounds dates name (.map bounds) fault

theorem readBounds_eq_error_iff : readBounds dates name v = .error fault ↔ RefusesBounds dates name v fault := by
  constructor
  · intro h
    rcases bind_eq_error_iff.mp h with hobject | ⟨bounds, hobject, hrest⟩
    · unfold requireObject at hobject
      split at hobject
      · cases hobject
      · next hother =>
        obtain rfl := Except.error.inj hobject
        exact .shape hother
    obtain rfl := requireObject_eq_ok_iff.mp hobject
    rcases bind_eq_error_iff.mp hrest with hnames | ⟨unknown, hnames, hrest⟩
    · obtain ⟨rfl, k, hk, hlong⟩ := Mapping.namesOutside_eq_error_iff.mp hnames
      exact .long hk hlong
    dsimp only at hrest
    split at hrest
    · next hsome =>
      obtain rfl := Except.error.inj hrest
      exact .unknown hnames (by simpa using hsome)
    · next hnone =>
      obtain rfl : unknown = [] := by simpa using hnone
      rcases bind_eq_error_iff.mp hrest with hwrong | ⟨min, hfine, hrest⟩
      · exact .min hnames hwrong
      · exact .max hnames ⟨min, hfine⟩ (bind_pure_eq_error_iff.mp hrest)
  · intro h
    cases h with
    | shape other =>
      have hobject : requireObject name v = .error (.wrongShape name .object) := by
        unfold requireObject
        split
        · next bounds => exact absurd rfl (other bounds)
        · rfl
      rw [readBounds, hobject]
      rfl
    | long mem long =>
      rw [readBounds, requireObject, ok_bind, Mapping.namesOutside_eq_error_iff.mpr ⟨rfl, _, mem, long⟩]
      rfl
    | @unknown _ names unknown some =>
      have hsome : names.isEmpty = false := by simpa using some
      simp only [readBounds, requireObject, ok_bind, unknown, hsome]
      rfl
    | min known wrong =>
      simp only [readBounds, requireObject, ok_bind, known, List.isEmpty_nil, wrong]
      rfl
    | max known fine wrong =>
      obtain ⟨bound, fine⟩ := fine
      simp only [readBounds, requireObject, ok_bind, known, List.isEmpty_nil, fine, wrong]
      rfl

/-- The bounds of a filter are refused with a fault that names no key: a name among them is an integer that
is too long, or the first bound that is refused escapes. -/
inductive Escapes (dates : DateReader) (name : String) : Value → Prop
  | long {bounds : Mapping} {k : Key} (mem : k ∈ Entries.keys bounds) (long : k.isWritable = false) :
    Escapes dates name (.map bounds)
  | min {bounds : Mapping} (known : Mapping.namesOutside ["max", "min"] bounds = .ok [])
    (wrong : Year.Escapes (Mapping.findOrNull "min" bounds)) : Escapes dates name (.map bounds)
  | max {bounds : Mapping} (known : Mapping.namesOutside ["max", "min"] bounds = .ok [])
    (fine : ∃ bound, Year.read dates (name ++ ".min") (Mapping.findOrNull "min" bounds) = .ok bound)
    (wrong : Year.Escapes (Mapping.findOrNull "max" bounds)) : Escapes dates name (.map bounds)

theorem exists_fault_of_escapes (h : Escapes dates name v) :
    ∃ fault, fault.filterKey? = none ∧ fault.sort = .value ∧
      readBounds dates name v = .error fault := by
  cases h with
  | long mem long =>
    exact ⟨.tooLongToWrite, rfl, rfl, readBounds_eq_error_iff.mpr (.long mem long)⟩
  | min known wrong =>
    obtain ⟨fault, hkey, hsort, hread⟩ := Year.exists_fault_of_escapes wrong
    exact ⟨fault, hkey, hsort, readBounds_eq_error_iff.mpr (.min known (hread _))⟩
  | max known fine wrong =>
    obtain ⟨fault, hkey, hsort, hread⟩ := Year.exists_fault_of_escapes wrong
    exact ⟨fault, hkey, hsort, readBounds_eq_error_iff.mpr (.max known fine (hread _))⟩

/-- The key of the first of two bounds that is refused. -/
inductive FirstWrong (dates : DateReader) (name : String) (bounds : Mapping) : String → Prop
  | min {fault : Fault}
    (wrong : Year.read dates (name ++ ".min") (Mapping.findOrNull "min" bounds) = .error fault) :
    FirstWrong dates name bounds (name ++ ".min")
  | max {fault : Fault}
    (fine : ∃ bound, Year.read dates (name ++ ".min") (Mapping.findOrNull "min" bounds) = .ok bound)
    (wrong : Year.read dates (name ++ ".max") (Mapping.findOrNull "max" bounds) = .error fault) :
    FirstWrong dates name bounds (name ++ ".max")

/-- The fault names a path into the value of a filter, which is the key of a bound if the value has only
bounds and the facet is one by years. -/
structure Names (dates : DateReader) (byYears : Prop) (name : String) (v : Value) (fault : Fault)
    (path : String) : Prop where
  key : fault.filterKey? = some path
  leads : Leads name v path
  bound : byYears → ∀ bounds, v = .map bounds → Mapping.namesOutside ["max", "min"] bounds = .ok [] →
    FirstWrong dates name bounds path

theorem exists_names_of_blames {byYears : Prop} (hnot : ¬byYears) (hsort : fault.sort = .type)
    (h : Blames name v fault) : ∃ path, Names dates byYears name v fault path := by
  cases h with
  | named names leads =>
    exact ⟨_, Fault.filterKey?_of_key? names, leads, fun hyears => absurd hyears hnot⟩
  | endless => cases hsort

/-- What is wrong with bounds is told by a fault that names a path into them, unless they escape. -/
theorem RefusesBounds.names_or_escapes (hdates : dates.NeverFails) {byYears : Prop}
    (h : RefusesBounds dates name v fault) :
    (∃ path, Names dates byYears name v fault path) ∨ Escapes dates name v := by
  have hmin : name ++ ".min" = name ++ "." ++ "min" := append_dotted (by decide) name
  have hmax : name ++ ".max" = name ++ "." ++ "max" := append_dotted (by decide) name
  cases h with
  | shape other => exact Or.inl ⟨name, rfl, .here, fun _ bounds hbounds => absurd hbounds (other bounds)⟩
  | long mem long => exact Or.inr (.long mem long)
  | unknown unknown some =>
    refine Or.inl ⟨name, rfl, .here, ?_⟩
    rintro - _ ⟨⟩ known
    exact absurd (Except.ok.inj (unknown.symm.trans known)) some
  | min known wrong =>
    refine (Year.fails_read hdates _ fault wrong).imp (fun hkey => ⟨_, hkey, ?_, ?_⟩) (.min known)
    · rw [hmin]
      exact .name name _ "min"
    · rintro - _ ⟨⟩ -
      exact .min wrong
  | max known fine wrong =>
    refine (Year.fails_read hdates _ fault wrong).imp (fun hkey => ⟨_, hkey, ?_, ?_⟩) (.max known fine)
    · rw [hmax]
      exact .name name _ "max"
    · rintro - _ ⟨⟩ -
      exact .max fine wrong

theorem fails_readStrings {byYears : Prop} (hnot : ¬byYears) :
    Fails (fun fault => ∃ path, Names dates byYears name v fault path) (readStrings name v) := by
  unfold readStrings
  split
  · exact .ok _
  · exact fun fault h => exists_names_of_blames hnot (typed_requireStrings v fault h)
      (fails_requireStrings v fault h)

/-- **The fault of a filter names a path into its value**, unless the filter is one by years and its bounds
escape. -/
theorem fails_readValue (hdates : dates.NeverFails) :
    Fails (fun fault => (∃ path, Names dates (spec.kind = .dates) name v fault path) ∨
      spec.kind = .dates ∧ Escapes dates name v) (readValue dates spec name v) := by
  unfold readValue
  split
  · next hkind =>
    exact .bind ((fails_readStrings (by simp [hkind])).mono fun _ => Or.inl) fun ss _ => .ok _
  · next hkind =>
    refine .bind (fun fault h => ?_) fun range _ => .ok _
    exact ((readBounds_eq_error_iff.mp h).names_or_escapes hdates).imp_right fun hescapes => ⟨hkind, hescapes⟩
  · next hnot =>
    refine .bind (fun fault h => Or.inl ?_) fun s _ => .ok _
    exact exists_names_of_blames hnot (typed_requireString v fault h) (fails_requireString v fault h)

theorem readValue_of_escapes (hkind : spec.kind = .dates) (h : Escapes dates name v) :
    ∃ fault, fault.filterKey? = none ∧ fault.sort = .value ∧
      readValue dates spec name v = .error fault := by
  obtain ⟨fault, hkey, hsort, hread⟩ := exists_fault_of_escapes h
  refine ⟨fault, hkey, hsort, ?_⟩
  simp only [readValue, hkind, hread]
  rfl

/-! ## Documents -/

variable {m : Mapping}

/-- The facet of an entry is one by years. -/
def ByYears (registry : Registry) (name : String) : Prop :=
  ∃ spec, registry.require name = .ok spec ∧ spec.kind = .dates

/-- **The fault of an entry names a path into it**, unless it is one by years and its bounds escape. -/
theorem fails_readEntry (hdates : dates.NeverFails) :
    Fails (fun fault => (∃ path, Names dates (ByYears registry name) name v fault path) ∨
      ByYears registry name ∧ Escapes dates name v) (readEntry dates registry (.str name) v) := by
  unfold readEntry
  split
  · exact .ok none
  · rw [Key.written_str, ok_bind]
    cases hspec : registry.require name with
    | error fault =>
      have hnot : ¬ByYears registry name := by
        rintro ⟨spec, hfound, -⟩
        rw [hspec] at hfound
        cases hfound
      obtain rfl : fault = .unknownFacet name := by
        unfold Registry.require at hspec
        split at hspec
        · cases hspec
        · exact (Except.error.inj hspec).symm
      exact .error (Or.inl ⟨name, rfl, .here, fun hyears => absurd hyears hnot⟩)
    | ok spec =>
      have hyears : ByYears registry name ↔ spec.kind = .dates := by
        simp [ByYears, hspec]
      rw [ok_bind, hyears]
      exact fails_readValue hdates

theorem readEntry_of_escapes (hyears : ByYears registry name) (h : Escapes dates name v) :
    ∃ fault, fault.filterKey? = none ∧ fault.sort = .value ∧
      readEntry dates registry (.str name) v = .error fault := by
  obtain ⟨spec, hspec, hkind⟩ := hyears
  obtain ⟨fault, hkey, hsort, hread⟩ := readValue_of_escapes hkind h
  refine ⟨fault, hkey, hsort, ?_⟩
  unfold readEntry
  split
  · cases h
  · rw [Key.written_str, ok_bind, hspec, ok_bind, hread]

theorem faultOf_read (dates : DateReader) (registry : Registry) (m : Mapping) :
    faultOf (read dates registry m) = m.findSome? fun e => faultOf (readEntry dates registry e.1 e.2) := by
  induction m with
  | nil => rfl
  | cons e m ih =>
    obtain ⟨key, v⟩ := e
    rw [read, List.findSome?_cons]
    cases hentry : readEntry dates registry key v with
    | error fault => rfl
    | ok entry => exact faultOf_bind_pure.trans ih

/-- A document is refused for the first of its entries that is. -/
theorem read_eq_error_iff : read dates registry m = .error fault ↔
    ∃ before key v after, m = before ++ (key, v) :: after ∧
      (∀ e ∈ before, ∃ entry, readEntry dates registry e.1 e.2 = .ok entry) ∧
      readEntry dates registry key v = .error fault := by
  rw [← faultOf_eq_some_iff, faultOf_read, List.findSome?_eq_some_iff]
  simp only [faultOf_eq_some_iff, faultOf_eq_none_iff, Prod.exists, and_comm]

/--
**What is wrong with a filter document is told by a fault that names the facet.**

* A document is refused for the first of its entries that no filter can be read from, by the fault of this
  entry.
* This fault is one of type or of value, if the reader of dates does not fail itself.
* It names no key exactly if the facet is one by years and the bounds escape: a conversion of the first bound
  that is refused fails, or a name among the bounds is an integer that is too long.
* Any other fault names a path into the entry. The message holds this path, and with it the name of the facet.
  If the value has bounds and nothing else, the path is that of the first bound that is refused.
-/
theorem faults_name_facets (hdates : dates.NeverFails) (registry : Registry)
    (hkeys : ∀ k ∈ Entries.keys m, ∃ name, k = .str name) :
    (∀ fault, read dates registry m = .error fault ↔
      ∃ before name v after, m = before ++ (.str name, v) :: after ∧
        (∀ e ∈ before, ∃ entry, readEntry dates registry e.1 e.2 = .ok entry) ∧
        readEntry dates registry (.str name) v = .error fault) ∧
    ∀ name v fault, readEntry dates registry (.str name) v = .error fault →
      (fault.sort = .type ∨ fault.sort = .value) ∧
      (fault.filterKey? = none ↔ ByYears registry name ∧ Escapes dates name v) ∧
      ∀ path, fault.filterKey? = some path →
        path.toList <:+: fault.message.toList ∧ name.toList <:+: fault.message.toList ∧
        Leads name v path ∧
        (ByYears registry name → ∀ bounds, v = .map bounds →
          Mapping.namesOutside ["max", "min"] bounds = .ok [] → FirstWrong dates name bounds path) := by
  refine ⟨fun fault => ?_, fun name v fault hfault => ?_⟩
  · rw [read_eq_error_iff]
    constructor
    · rintro ⟨before, key, v, after, rfl, hbefore, hfault⟩
      obtain ⟨name, rfl⟩ := hkeys key (by simp [Entries.keys])
      exact ⟨before, name, v, after, rfl, hbefore, hfault⟩
    · rintro ⟨before, name, v, after, rfl, hbefore, hfault⟩
      exact ⟨before, .str name, v, after, rfl, hbefore, hfault⟩
  · have hescapes (h : ByYears registry name ∧ Escapes dates name v) :
        fault.filterKey? = none ∧ fault.sort = .value := by
      obtain ⟨fault', hkey, hsort, hread⟩ := readEntry_of_escapes h.1 h.2
      obtain rfl := Except.error.inj (hfault.symm.trans hread)
      exact ⟨hkey, hsort⟩
    rcases fails_readEntry hdates fault hfault with ⟨path, hnames⟩ | hyears
    · refine ⟨Fault.sort_of_filterKey? hnames.key, ?_, ?_⟩
      · refine iff_of_false (by simp [hnames.key]) fun h => ?_
        simpa [hnames.key] using (hescapes h).1
      · intro path' hpath'
        obtain rfl := Option.some.inj (hnames.key.symm.trans hpath')
        have hholds := Fault.infix_of_filterKey? hnames.key
        exact ⟨hholds, hnames.leads.isPrefix.isInfix.trans hholds, hnames.leads, hnames.bound⟩
    · obtain ⟨hkey, hsort⟩ := hescapes hyears
      refine ⟨Or.inr hsort, iff_of_true hkey hyears, fun path hpath => ?_⟩
      rw [hkey] at hpath
      cases hpath

/-- A bound that is no date, after one that is fine. -/
theorem faults_name_facets_date :
    let dates : DateReader := fun _ => .error .noDate
    let spec : FieldSpec := ⟨"date", .dates, .countDescending, none, none⟩
    let bounds : Mapping := [(.str "min", .int 1981), (.str "max", .str "soon")]
    let m : Mapping := [(.str "year", .map bounds)]
    let fault := Fault.notDate "year.max" "soon"
    dates.NeverFails ∧ (∀ k ∈ Entries.keys m, ∃ name, k = .str name) ∧
      read dates ⟨[("year", spec)]⟩ m = .error fault ∧
      "year".toList <:+: fault.message.toList ∧ FirstWrong dates "year" bounds "year.max" := by
  intro dates spec bounds m fault
  have hdates : dates.NeverFails := fun _ _ => nofun
  have hkeys : ∀ k ∈ Entries.keys m, ∃ name, k = .str name := by simp [m, Entries.keys]
  have hentry : readEntry dates ⟨[("year", spec)]⟩ (.str "year") (.map bounds) = .error fault :=
    faultOf_eq_some_iff.mp (by decide +kernel)
  obtain ⟨hfirst, hnames⟩ := faults_name_facets hdates ⟨[("year", spec)]⟩ hkeys
  obtain ⟨-, -, hpath⟩ := hnames "year" (.map bounds) fault hentry
  obtain ⟨-, hname, -, hbound⟩ := hpath "year.max" rfl
  refine ⟨hdates, hkeys, (hfirst fault).mpr ⟨[], "year", _, [], rfl, by simp, hentry⟩, hname, ?_⟩
  exact hbound ⟨spec, rfl, rfl⟩ bounds rfl (by decide +kernel)

/-- **A bound of a digit that is not decimal** is refused with a fault that names neither the facet nor the
bound. -/
theorem digit_bound_names_no_facet :
    let dates : DateReader := fun _ => .error .noDate
    let spec : FieldSpec := ⟨"date", .dates, .countDescending, none, none⟩
    let m : Mapping := [(.str "year", .object [("min", .str "²")])]
    let fault := Fault.notInteger 10 "²"
    dates.NeverFails ∧ read dates ⟨[("year", spec)]⟩ m = .error fault ∧
      ¬"year".toList <:+: fault.message.toList := by
  intro dates spec m fault
  exact ⟨fun _ _ => nofun, faultOf_eq_some_iff.mp (by decide +kernel), by decide +kernel⟩

end FilterState

end Faceted
