import Faceted.Proofs.Filter.Reading
import Faceted.Proofs.Suggestion.OwnFilter
import Mathlib.Data.Set.List

/-!
# When a query cannot be compiled

A filter state has no query when one of the entries that count is not of the kind of its facet, or has a value
of another shape than its kind asks for. The fault is that of the first such entry, in the order of the state
and the override last (`compile_fails_at_first_mismatch`).

* `HasShape` says which values a kind asks for, and `FailsWith` which fault an entry is reported with.
* `firstMismatch?` looks for the first entry in the state, and takes the override if there is none.

One entry fails with its own fault (`compileOne_eq_error_iff`), a list of entries with that of the first one
that does not match (`compileEach_eq_error_iff`, by induction on the list).
-/

namespace Faceted

/-! ## Entries that do not match -/

/-- The shape of the values that a kind asks for: a tuple or a list of strings for terms, bounds for dates,
and a string for any other kind. -/
def FilterKind.HasShape : FilterKind → Value → Prop
  | .terms, v => ∃ xs, (v = .tuple xs ∨ v = .list xs) ∧ ∀ x ∈ xs, ∃ s, x = .str s
  | .dates, v => ∃ min max, v = .years min max
  | _, v => ∃ s, v = .str s

/-- Values are the strings of a list exactly when each of them is a string. -/
theorem Value.exists_map_str_iff {xs : List Value} :
    (∃ ss : List String, xs = ss.map .str) ↔ ∀ x ∈ xs, ∃ s, x = .str s := by
  have hrange := Set.ext_iff.mp (Set.range_list_map Value.str) xs
  simpa only [Set.mem_range, Set.mem_ofPred_eq, eq_comm] using hrange

namespace FilterEntry

/-- The entry is of another kind than its facet, or its value is not of the shape that its kind asks for. -/
def IsMismatched (entry : FilterEntry) : Prop :=
  entry.kind ≠ entry.spec.kind ∨ ¬entry.kind.HasShape entry.value

/-- The fault that an entry is reported with; the kind is looked at before the value. -/
inductive FailsWith : FilterEntry → Fault → Prop where
  | kind {entry : FilterEntry} (differs : entry.kind ≠ entry.spec.kind) :
    FailsWith entry (.kindMismatch entry.spec.field entry.kind.name entry.spec.kind.name)
  | value {entry : FilterEntry} (agrees : entry.kind = entry.spec.kind)
      (unfit : ¬entry.kind.HasShape entry.value) :
    FailsWith entry (.invalidValue entry.spec.field entry.kind.name entry.value.exactString)

theorem FailsWith.isMismatched {entry : FilterEntry} {fault : Fault} (h : entry.FailsWith fault) :
    entry.IsMismatched := by
  cases h with
  | kind differs => exact Or.inl differs
  | value agrees unfit => exact Or.inr unfit

theorem IsMismatched.exists_failsWith {entry : FilterEntry} (h : entry.IsMismatched) :
    ∃ fault, entry.FailsWith fault := by
  by_cases hk : entry.kind = entry.spec.kind
  · exact ⟨_, .value hk (h.resolve_left (not_not.mpr hk))⟩
  · exact ⟨_, .kind hk⟩

theorem FailsWith.sort_eq {entry : FilterEntry} {fault : Fault} (h : entry.FailsWith fault) :
    fault.sort = .kind := by
  cases h <;> rfl

/-- A value is of the shape of its kind exactly when it stands for a selection. -/
theorem hasShape_iff {entry : FilterEntry} :
    entry.kind.HasShape entry.value ↔ ∃ selection, entry.Selects selection := by
  obtain ⟨spec, kind, v⟩ := entry
  constructor
  · intro h
    cases kind with
    | terms =>
      obtain ⟨xs, hv, hxs⟩ := h
      obtain ⟨ss, rfl⟩ := Value.exists_map_str_iff.mpr hxs
      obtain rfl | rfl := hv
      · exact ⟨_, .tuple spec ss⟩
      · exact ⟨_, .list spec ss⟩
    | dates =>
      obtain ⟨min, max, rfl⟩ := h
      exact ⟨_, .dates spec min max⟩
    | query =>
      obtain ⟨s, rfl⟩ := h
      exact ⟨_, .query spec s⟩
    | other name =>
      obtain ⟨s, rfl⟩ := h
      exact ⟨_, .other spec name s⟩
  · rintro ⟨selection, h⟩
    cases h with
    | tuple _ values => exact ⟨_, Or.inl rfl, Value.exists_map_str_iff.mp ⟨values, rfl⟩⟩
    | list _ values => exact ⟨_, Or.inr rfl, Value.exists_map_str_iff.mp ⟨values, rfl⟩⟩
    | dates _ min max => exact ⟨min, max, rfl⟩
    | query _ text => exact ⟨text, rfl⟩
    | other _ _ text => exact ⟨text, rfl⟩

theorem isMismatched_iff {entry : FilterEntry} : entry.IsMismatched ↔ ¬entry.IsUsable := by
  rw [IsMismatched, hasShape_iff, IsUsable, not_and_or]

theorem not_isMismatched_iff {entry : FilterEntry} : ¬entry.IsMismatched ↔ entry.IsUsable := by
  rw [isMismatched_iff, not_not]

instance : DecidablePred IsMismatched := fun entry =>
  decidable_of_iff (entry.kind ≠ entry.spec.kind ∨ entry.selection? = none) <| by
    rw [IsMismatched, hasShape_iff, Option.eq_none_iff_forall_ne_some, not_exists]
    simp only [← Compiler.selection?_eq_some_iff, ne_eq]

end FilterEntry

namespace Compiler

variable {compiler : Compiler}

/-! ## One entry -/

theorem select_of_failsWith {entry : FilterEntry} (hw : entry.value.isWritable = true) {fault : Fault}
    (h : entry.FailsWith fault) : select entry.spec.field entry = .error fault := by
  cases h with
  | kind differs => rw [select, if_pos differs]
  | value agrees unfit =>
    have hnone : entry.selection? = none := by
      rw [Option.eq_none_iff_forall_ne_some]
      exact fun selection h => unfit (FilterEntry.hasShape_iff.mpr ⟨selection, selection?_eq_some_iff.mp h⟩)
    rw [select, if_neg (by simpa using agrees), hnone, Value.exactlyWritten, if_pos hw]
    rfl

/-- **Compiling an entry fails exactly if it does not match**, and the fault is its own. -/
theorem compileOne_eq_error_iff {entry : FilterEntry} (hw : entry.value.isWritable = true) {fault : Fault} :
    compiler.compileOne entry.spec.field entry = .error fault ↔ entry.FailsWith fault := by
  have hfails : ∀ {fault}, entry.FailsWith fault →
      compiler.compileOne entry.spec.field entry = .error fault := by
    intro fault h
    rw [compileOne, select_of_failsWith hw h]
    rfl
  refine ⟨fun herror => ?_, hfails⟩
  have hmismatched : entry.IsMismatched := by
    rw [FilterEntry.isMismatched_iff]
    intro husable
    obtain ⟨clause, hok⟩ := exists_compileOne_iff.mpr husable
    cases herror.symm.trans hok
  obtain ⟨own, h⟩ := hmismatched.exists_failsWith
  obtain rfl := Except.error.inj (herror.symm.trans (hfails h))
  exact h

/-! ## All entries -/

theorem compileEach_cons_eq_error_iff {entry : FilterEntry} {entries : List FilterEntry} {fault : Fault} :
    compiler.compileEach (entry :: entries) = .error fault ↔
      compiler.compileOne entry.spec.field entry = .error fault ∨
        entry.IsUsable ∧ compiler.compileEach entries = .error fault := by
  have husable : (∃ clause, compiler.compileOne entry.spec.field entry = .ok clause) ↔ entry.IsUsable :=
    exists_compileOne_iff
  rw [compileEach, bind_eq_error_iff, ← husable, ← exists_and_right]
  simp only [bind_pure_eq_error_iff]

/-- **Compiling entries fails exactly if one of them does not match**, and the fault is that of the first one. -/
theorem compileEach_eq_error_iff {entries : List FilterEntry}
    (hw : ∀ e ∈ entries, e.value.isWritable = true) {fault : Fault} :
    compiler.compileEach entries = .error fault ↔
      ∃ entry, entries.find? (fun e => e.IsMismatched) = some entry ∧ entry.FailsWith fault := by
  induction entries with
  | nil => exact iff_of_false nofun (by simp)
  | cons first entries ih =>
    obtain ⟨hfirst, hrest⟩ := List.forall_mem_cons.mp hw
    rw [compileEach_cons_eq_error_iff, compileOne_eq_error_iff hfirst, ih hrest,
      ← FilterEntry.not_isMismatched_iff]
    by_cases hmismatched : first.IsMismatched
    · simp [hmismatched]
    · have hfails : ¬first.FailsWith fault := fun h => hmismatched h.isMismatched
      simp [hmismatched, hfails]

/-! ## The first entry that does not match -/

/-- The first entry that counts and does not match: one of the state, or else the override. -/
def firstMismatch? (state : FilterState) (override : Option FilterEntry) : Option FilterEntry :=
  ((FilterState.entries state).find? fun e => (∀ o ∈ override, e.spec ≠ o.spec) ∧ e.IsMismatched).or
    (override.filter fun o => o.IsMismatched)

theorem effective_eq (state : FilterState) (override : Option FilterEntry) :
    effective state override =
      (FilterState.entries state).filter (fun e => ∀ o ∈ override, e.spec ≠ o.spec) ++ override.toList := by
  cases override <;> simp [effective]

theorem find?_effective (state : FilterState) (override : Option FilterEntry) :
    (effective state override).find? (fun e => e.IsMismatched) = firstMismatch? state override := by
  rw [effective_eq, List.find?_append, List.find?_filter, firstMismatch?]
  simp only [decide_eq_true_eq]
  cases override with
  | none => rfl
  | some o => rw [Option.toList_some, List.find?_singleton, Option.filter_some]

/-- A filter on the facet of the override has no influence, whatever its kind and its value are. -/
theorem compile_dropped (compiler : Compiler) {before after : FilterState} {key : Key}
    {dropped override : FilterEntry} (h : dropped.spec = override.spec) :
    compiler.compile (before ++ (key, dropped) :: after) (some override) =
      compiler.compile (before ++ after) (some override) := by
  refine compile_congr ?_ compiler
  simp [effective, FilterState.entries, h]

theorem counts_perm {state other : FilterState} (h : other.Perm state) {override : Option FilterEntry}
    {entry : FilterEntry} : Counts other override entry ↔ Counts state override entry := by
  rw [Counts, Counts, FilterState.entries, FilterState.entries, (h.map Prod.snd).mem_iff]

theorem compile_fails_iff {state : FilterState} {override : Option FilterEntry} :
    (∃ fault, compiler.compile state override = .error fault) ↔
      ∃ e, Counts state override e ∧ e.IsMismatched := by
  have hok : (∃ query, compiler.compile state override = .ok query) ↔ _ := exists_compile_iff
  have hnot : (∃ fault, compiler.compile state override = .error fault) ↔
      ¬∃ query, compiler.compile state override = .ok query := by
    cases compiler.compile state override <;> simp
  rw [hnot, hok]
  simp only [FilterEntry.isMismatched_iff, not_forall, exists_prop]

/--
**A query cannot be compiled exactly if an entry that counts does not match its facet.**

The fault is that of the first such entry, in the order of the state and the override last. It names the field
of the facet and the kind of the entry, and the kind of the facet or else the value. A filter that the override
takes the place of has no influence, and in another order of the filters there is a fault as well, if not the
same one.
-/
theorem compile_fails_at_first_mismatch (compiler : Compiler) {state : FilterState}
    {override : Option FilterEntry} (hw : ∀ e, Counts state override e → e.value.isWritable = true) :
    ((∃ fault, compiler.compile state override = .error fault) ↔
      ∃ e, Counts state override e ∧ e.IsMismatched) ∧
    (∀ fault, compiler.compile state override = .error fault ↔
      ∃ e, firstMismatch? state override = some e ∧ e.FailsWith fault) ∧
    (∀ fault, compiler.compile state override = .error fault → fault.sort = .kind) ∧
    (∀ o ∈ override, ∀ before key dropped after, state = before ++ (key, dropped) :: after →
      dropped.spec = o.spec →
      compiler.compile state override = compiler.compile (before ++ after) override) ∧
    ∀ other : FilterState, other.Perm state →
      ((∃ fault, compiler.compile other override = .error fault) ↔
        ∃ fault, compiler.compile state override = .error fault) := by
  have hfirst : ∀ fault, compiler.compile state override = .error fault ↔
      ∃ e, firstMismatch? state override = some e ∧ e.FailsWith fault := by
    intro fault
    rw [compile, map_eq_error_iff, compileEach_eq_error_iff fun e he => hw e (mem_effective_iff.mp he),
      find?_effective]
  refine ⟨compile_fails_iff, hfirst, ?_, ?_, ?_⟩
  · intro fault h
    obtain ⟨e, -, hfails⟩ := (hfirst fault).mp h
    exact hfails.sort_eq
  · rintro o rfl before key dropped after rfl hspec
    exact compile_dropped compiler hspec
  · intro other hperm
    rw [compile_fails_iff, compile_fails_iff]
    simp only [counts_perm hperm]

/-- Two filters that do not match, after one that the override takes the place of; in the other order the
fault is that of the other filter. -/
theorem compile_fails_at_first_mismatch_year :
    let party : FieldSpec := ⟨"party", .terms, .countDescending, none, none⟩
    let year : FieldSpec := ⟨"year", .dates, .countDescending, none, none⟩
    let text : FieldSpec := ⟨"text", .query, .countDescending, none, none⟩
    let state : FilterState := [(.str "party", ⟨party, .dates, .null⟩),
      (.str "year", ⟨year, .dates, .int 1960⟩), (.str "text", ⟨text, .terms, .tuple []⟩)]
    let override := FilterEntry.terms party ["PS"]
    let fault := Fault.invalidValue "year" "dates" "1960"
    let compiler : Compiler := ⟨⟨[]⟩, ["ocr"]⟩
    (∀ e, Counts state (some override) e → e.value.isWritable = true) ∧
      compiler.compile state (some override) = .error fault ∧ fault.sort = .kind ∧
      compiler.compile (state.drop 1) (some override) = .error fault ∧
      (∃ fault, compiler.compile state.reverse (some override) = .error fault) ∧
      firstMismatch? state.reverse (some override) = some ⟨text, .terms, .tuple []⟩ := by
  intro party year text state override fault compiler
  have hw : ∀ e, Counts state (some override) e → e.value.isWritable = true := by
    intro e he
    rw [← mem_effective_iff] at he
    revert e
    decide +kernel
  obtain ⟨-, hfault, hsort, hdropped, hperm⟩ := compile_fails_at_first_mismatch compiler hw
  have h : compiler.compile state (some override) = .error fault := by
    let unfit : FilterEntry := ⟨year, .dates, .int 1960⟩
    have hshape : ¬unfit.kind.HasShape unfit.value := by
      rintro ⟨min, max, h⟩
      cases h
    have hwritten : unfit.value.exactString = "1960" := by decide +kernel
    have hfails : unfit.FailsWith fault := by
      change unfit.FailsWith (.invalidValue unfit.spec.field unfit.kind.name "1960")
      rw [← hwritten]
      exact .value rfl hshape
    exact (hfault fault).mpr ⟨unfit, rfl, hfails⟩
  exact ⟨hw, h, hsort fault h, (hdropped override rfl [] _ _ _ rfl rfl).symm.trans h,
    (hperm state.reverse (List.reverse_perm state)).mpr ⟨fault, h⟩, rfl⟩

end Compiler

end Faceted
