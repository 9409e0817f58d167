import Faceted.Query
import Faceted.Proofs.Basic
import Faceted.Proofs.Clause.Meaning
import Faceted.Proofs.Facet

/-!
# What a compiled query means

A document satisfies the query of a filter state exactly when it satisfies what each filter that
counts asks for.

* `Selects` says which selection the value of an entry stands for.
* `BaseHolds` says what a selection asks for on a field, `InScope` puts it inside of the nested object
  of a dotted field, and `Asks` puts the two together with the extra clause of the facet.
* `Counts` says which entries count.

None of these looks at the clauses that the compiler builds. The lemmas follow the compiler: the clause
of one term, the base clause, the scope, one entry, all entries, and last the conjunction of their
clauses.
-/

namespace Faceted

open Clause

/-! ## What an entry asks for -/

/-- The value of an entry stands for a selection: a tuple or a list of strings for terms, bounds for
dates, and a string for any other kind. -/
inductive FilterEntry.Selects : FilterEntry → Selection → Prop where
  | tuple (spec : FieldSpec) (values : List String) :
    Selects ⟨spec, .terms, .tuple (values.map .str)⟩ (.terms values)
  | list (spec : FieldSpec) (values : List String) :
    Selects ⟨spec, .terms, .list (values.map .str)⟩ (.terms values)
  | dates (spec : FieldSpec) (min max : Value) :
    Selects ⟨spec, .dates, .years min max⟩ (.dates min max)
  | query (spec : FieldSpec) (text : String) : Selects ⟨spec, .query, .str text⟩ (.text text)
  | other (spec : FieldSpec) (name text : String) :
    Selects ⟨spec, .other name, .str text⟩ (.text text)

namespace Compiler

variable {Doc : Type}

/-- The document has a term: by a pattern around it if it is a marked substring, else exactly. -/
def TermHolds (M : Meaning Value Doc) (field value : String) (d : Doc) : Prop :=
  (∃ raw, value = Wildcard.encode raw ∧ M.wildcard (field ++ ".raw") ("*" ++ raw ++ "*") true d) ∨
    ((∀ raw, value ≠ Wildcard.encode raw) ∧ M.terms (field ++ ".raw") [value] d)

/-- The document satisfies a selection on a field. -/
def BaseHolds (M : Meaning Value Doc) (fulltextFields : List String) (field : String) :
    Selection → Doc → Prop
  | .terms values, d => ∃ value ∈ values, TermHolds M field value d
  | .dates min max, d => M.range field (bound? min) (bound? max) (some "yyyy") d
  | .text query, d => M.simpleQueryString query fulltextFields d

/-- What is said holds inside of the nested object that the field lives in: for a dotted field at the
path before its first dot, for any other field of the document itself. -/
def InScope (M : Meaning Value Doc) (field : String) (said : Doc → Prop) (d : Doc) : Prop :=
  (∀ path rest : String, field = path ++ "." ++ rest → '.' ∉ path.toList → M.nested path said d) ∧
    ('.' ∉ field.toList → said d)

/-- The document satisfies what a selection asks for on a facet. -/
def Asks (M : Meaning Value Doc) (fulltextFields : List String) (spec : FieldSpec)
    (selection : Selection) : Doc → Prop :=
  InScope M spec.field fun d =>
    BaseHolds M fulltextFields spec.field selection d ∧
      ∀ extra ∈ spec.extra, extra.Holds (M.along .str) d

/-- The entry counts: it is the override, or one of the state on another facet than the override's. -/
def Counts (state : FilterState) (override : Option FilterEntry) (entry : FilterEntry) : Prop :=
  (entry ∈ FilterState.entries state ∧ ∀ o ∈ override, entry.spec ≠ o.spec) ∨ entry ∈ override

variable {M : Meaning Value Doc} {d : Doc}

/-! ## Selections -/

theorem selects_of_selection? {entry : FilterEntry} {selection : Selection}
    (h : entry.selection? = some selection) : entry.Selects selection := by
  obtain ⟨spec, kind, value⟩ := entry
  unfold FilterEntry.selection? at h
  split at h
  · next hk hv =>
    obtain ⟨values, hs, rfl⟩ := Option.map_eq_some_iff.mp h
    cases hk
    cases hv
    rw [Value.strings?_eq_some_iff.mp hs]
    exact .tuple spec values
  · next hk hv =>
    obtain ⟨values, hs, rfl⟩ := Option.map_eq_some_iff.mp h
    cases hk
    cases hv
    rw [Value.strings?_eq_some_iff.mp hs]
    exact .list spec values
  · next hk hv =>
    obtain rfl := Option.some.inj h
    cases hk
    cases hv
    exact .dates spec _ _
  · next hk hv =>
    obtain rfl := Option.some.inj h
    cases hk
    cases hv
    exact .query spec _
  · next hk hv =>
    obtain rfl := Option.some.inj h
    cases hk
    cases hv
    exact .other spec _ _
  · cases h

/-- **The value of an entry is read as the selection that it stands for.** -/
theorem selection?_eq_some_iff {entry : FilterEntry} {selection : Selection} :
    entry.selection? = some selection ↔ entry.Selects selection := by
  constructor
  · exact selects_of_selection?
  · intro h
    cases h with
    | tuple spec values => simp [FilterEntry.selection?, Value.strings?_map_str]
    | list spec values => simp [FilterEntry.selection?, Value.strings?_map_str]
    | dates spec min max => rfl
    | query spec text => rfl
    | other spec name text => rfl

/-! ## One clause -/

theorem holds_termClause {field value : String} :
    (termClause field value).Holds M d ↔ TermHolds M field value d := by
  unfold termClause TermHolds
  simp only [← Wildcard.decode?_eq_some_iff, ne_eq]
  cases Wildcard.decode? value <;> simp [Holds, rawField]

theorem baseClause_eq_none_iff {compiler : Compiler} {field : String} {selection : Selection} :
    compiler.baseClause field selection = none ↔ selection = .terms [] := by
  cases selection with
  | terms values => cases values <;> simp [baseClause]
  | dates min max => simp [baseClause]
  | text query => simp [baseClause]

theorem holds_baseClause {compiler : Compiler} {field : String} {selection : Selection}
    {base : Clause Value} (h : compiler.baseClause field selection = some base) :
    base.Holds M d ↔ BaseHolds M compiler.fulltextFields field selection d := by
  cases selection with
  | terms values =>
    cases values with
    | nil => cases h
    | cons value values =>
      obtain rfl := Option.some.inj h
      rw [holds_bool_should (by simp)]
      simp only [List.mem_map, BaseHolds]
      constructor
      · rintro ⟨_, ⟨v, hv, rfl⟩, hc⟩
        exact ⟨v, hv, holds_termClause.mp hc⟩
      · rintro ⟨v, hv, hc⟩
        exact ⟨_, ⟨v, hv, rfl⟩, holds_termClause.mpr hc⟩
  | dates min max =>
    obtain rfl := Option.some.inj h
    exact Iff.rfl
  | text query =>
    obtain rfl := Option.some.inj h
    exact Iff.rfl

theorem holds_withExtra {extra : Option (Clause String)} {query : Clause Value} :
    (withExtra extra query).Holds M d ↔
      query.Holds M d ∧ ∀ e ∈ extra, e.Holds (M.along .str) d := by
  cases extra with
  | none => simp [withExtra]
  | some e =>
    rw [withExtra, holds_bool_must]
    simp [holds_mapBounds]

/-- The nested clause goes around whatever is said, for a dotted field only. -/
theorem holds_inScope {field : String} {query : Clause Value} :
    (inScope field query).Holds M d ↔ InScope M field (query.Holds M) d := by
  unfold inScope InScope
  cases h : nestedPath field with
  | none =>
    have hdot := nestedPath_eq_none_iff.mp h
    constructor
    · intro hq
      refine ⟨?_, fun _ => hq⟩
      rintro path rest rfl -
      exact absurd (by simp) hdot
    · rintro ⟨-, hq⟩
      exact hq hdot
  | some path =>
    obtain ⟨hn, rest, hf⟩ := nestedPath_eq_some_iff.mp h
    constructor
    · intro hq
      refine ⟨?_, fun hdot => absurd (by simp [hf]) hdot⟩
      intro other rest' hf' hn'
      have ho : nestedPath field = some other := nestedPath_eq_some_iff.mpr ⟨hn', rest', hf'⟩
      -- a field has one path, so that the nested clause is the one that is there
      obtain rfl := Option.some.inj (h.symm.trans ho)
      exact hq
    · rintro ⟨hq, -⟩
      exact hq path rest hf hn

/-! ## One entry -/

/-- An entry is taken when its kind is that of its facet and its value stands for a selection. -/
theorem select_eq_ok_iff {field : String} {entry : FilterEntry} {selection : Selection} :
    select field entry = .ok selection ↔
      entry.kind = entry.spec.kind ∧ entry.Selects selection := by
  rw [← selection?_eq_some_iff]
  constructor
  · intro h
    unfold select at h
    split at h
    · cases h
    · next hk =>
      refine ⟨by simpa using hk, ?_⟩
      split at h
      · next hs =>
        obtain rfl := Except.ok.inj h
        exact hs
      · obtain ⟨text, -, h⟩ := bind_eq_ok_iff.mp h
        cases h
  · rintro ⟨hk, hs⟩
    rw [select, if_neg (by simp [hk]), hs]

theorem compileOne_eq_ok_iff {compiler : Compiler} {field : String} {entry : FilterEntry}
    {clause : Option (Clause Value)} :
    compiler.compileOne field entry = .ok clause ↔
      ∃ selection, entry.kind = entry.spec.kind ∧ entry.Selects selection ∧
        clause = (compiler.baseClause field selection).map fun base =>
          inScope field (withExtra entry.spec.extra base) := by
  unfold compileOne
  rw [bind_eq_ok_iff]
  constructor
  · rintro ⟨selection, hs, h⟩
    obtain ⟨hk, hs⟩ := select_eq_ok_iff.mp hs
    exact ⟨selection, hk, hs, (Except.ok.inj h).symm⟩
  · rintro ⟨selection, hk, hs, rfl⟩
    exact ⟨selection, select_eq_ok_iff.mpr ⟨hk, hs⟩, rfl⟩

/-- The clause of terms on a facet: a choice between the clauses of the terms, none without any. -/
theorem compileOne_terms (compiler : Compiler) {spec : FieldSpec} (hkind : spec.kind = .terms)
    (values : List String) :
    compiler.compileOne spec.field (.terms spec values) =
      .ok (if values = [] then none else
        some (inScope spec.field (withExtra spec.extra (.bool [] (values.map (termClause spec.field)))))) := by
  refine compileOne_eq_ok_iff.mpr ⟨.terms values, hkind.symm, .tuple spec values, ?_⟩
  cases values <;> rfl

/-- An entry that compiles stands for a selection, and its clause says what this asks for on its
facet. There is no clause only for an empty list of terms. -/
theorem holds_compileOne {compiler : Compiler} {entry : FilterEntry} {clause : Option (Clause Value)}
    (h : compiler.compileOne entry.spec.field entry = .ok clause) :
    ∃ selection, entry.Selects selection ∧ ∀ d, (∀ c ∈ clause, c.Holds M d) ↔
      (selection ≠ .terms [] → Asks M compiler.fulltextFields entry.spec selection d) := by
  obtain ⟨selection, -, hs, rfl⟩ := compileOne_eq_ok_iff.mp h
  refine ⟨selection, hs, ?_⟩
  intro d
  cases hb : compiler.baseClause entry.spec.field selection with
  | none => simp [baseClause_eq_none_iff.mp hb]
  | some base =>
    have hne : selection ≠ .terms [] := by
      intro he
      rw [baseClause_eq_none_iff.mpr he] at hb
      cases hb
    have hsaid : (withExtra entry.spec.extra base).Holds M = fun d =>
        BaseHolds M compiler.fulltextFields entry.spec.field selection d ∧
          ∀ extra ∈ entry.spec.extra, extra.Holds (M.along .str) d := by
      funext d
      rw [eq_iff_iff, holds_withExtra, holds_baseClause hb]
    simp only [Option.map_some, Option.mem_some_iff, forall_eq', hne, ne_eq, not_false_eq_true,
      forall_const]
    rw [holds_inScope, hsaid, Asks]

/-! ## All entries -/

/-- The clauses of entries say what the selections of all of them ask for. -/
theorem holds_compileEach {compiler : Compiler} : ∀ {entries : List FilterEntry}
    {clauses : List (Clause Value)}, compiler.compileEach entries = .ok clauses →
    (∀ e ∈ entries, ∃ selection, e.Selects selection) ∧
      ∀ d, (∀ c ∈ clauses, c.Holds M d) ↔ ∀ e ∈ entries, ∀ selection, e.Selects selection →
        selection ≠ .terms [] → Asks M compiler.fulltextFields e.spec selection d
  | [], clauses, h => by
    obtain rfl := Except.ok.inj h
    simp
  | entry :: entries, clauses, h => by
    obtain ⟨clause, hc, h⟩ := bind_eq_ok_iff.mp h
    obtain ⟨rest, hr, h⟩ := bind_eq_ok_iff.mp h
    obtain rfl := Except.ok.inj h
    obtain ⟨selection, hs, hone⟩ := holds_compileOne (M := M) hc
    obtain ⟨hsel, heach⟩ := holds_compileEach hr
    -- an entry stands for one selection only, so that asking for each is asking for that one
    have huniq : ∀ other, entry.Selects other → other = selection := by
      intro other ho
      have := (selection?_eq_some_iff.mpr ho).symm.trans (selection?_eq_some_iff.mpr hs)
      exact Option.some.inj this
    refine ⟨?_, ?_⟩
    · intro e he
      rcases List.mem_cons.mp he with rfl | he
      · exact ⟨selection, hs⟩
      · exact hsel e he
    · intro d
      rw [List.forall_mem_cons, ← heach d]
      constructor
      · intro hall
        refine ⟨?_, fun c hc => hall c (List.mem_append_right _ hc)⟩
        intro other ho hne
        rw [huniq other ho] at hne ⊢
        exact (hone d).mp (fun c hc => hall c (List.mem_append_left _ (by simpa using hc))) hne
      · rintro ⟨hfirst, hrest⟩ c hc
        rcases List.mem_append.mp hc with hc | hc
        · exact (hone d).mpr (hfirst selection hs) c (by simpa using hc)
        · exact hrest c hc

/-- No clause, one and several say the same as all of them together. -/
theorem holds_conjunction {clauses : List (Clause Value)} :
    (conjunction clauses).Holds M d ↔ ∀ c ∈ clauses, c.Holds M d := by
  match clauses with
  | [] => simp [conjunction, Holds]
  | [c] => simp [conjunction]
  | c :: c' :: cs => exact holds_bool_must

theorem mem_effective_iff {state : FilterState} {override : Option FilterEntry} {e : FilterEntry} :
    e ∈ effective state override ↔ Counts state override e := by
  cases override with
  | none => simp [effective, Counts]
  | some o =>
    simp only [effective, Counts, List.mem_append, List.mem_filter, List.mem_singleton,
      decide_eq_true_eq, Option.mem_some_iff, forall_eq']
    rw [eq_comm (a := o)]

/-! ## The whole query -/

/--
**A document satisfies a compiled query exactly when it satisfies what each entry that counts asks
for.**

Every such entry stands for a selection, or the query would not have compiled. An empty list of terms
asks for nothing. Anything else asks for the selection together with the extra clause of the facet,
both inside of the nested object that the field lives in.
-/
theorem holds_compile_iff {compiler : Compiler} {state : FilterState}
    {override : Option FilterEntry} {query : Clause Value}
    (h : compiler.compile state override = .ok query) (M : Meaning Value Doc) :
    (∀ e, Counts state override e → ∃ selection, e.Selects selection) ∧
    ∀ d, query.Holds M d ↔ ∀ e, Counts state override e → ∀ selection, e.Selects selection →
      selection ≠ .terms [] → Asks M compiler.fulltextFields e.spec selection d := by
  obtain ⟨clauses, hc, rfl⟩ := map_eq_ok_iff.mp h
  obtain ⟨hsel, heach⟩ := holds_compileEach (M := M) hc
  refine ⟨fun e he => hsel e (mem_effective_iff.mpr he), ?_⟩
  intro d
  rw [holds_conjunction, heach d]
  simp only [mem_effective_iff]

/-- Two facets, one of them inside of a nested object and with an extra clause; the override takes the
filter on the other one away. -/
theorem holds_compile_iff_nested :
    let name : FieldSpec :=
      ⟨"persons.name", .terms, .countDescending, some (.term "persons.type" "mp"), none⟩
    let party : FieldSpec := ⟨"party", .terms, .countDescending, none, none⟩
    let state : FilterState := [(.str "name", .terms name ["Anna", Wildcard.encode "jan"]),
      (.str "party", .terms party ["PS"])]
    let override := FilterEntry.terms party []
    let query : Clause Value := .nested "persons" (.bool
      [.bool [] [.terms "persons.name.raw" ["Anna"], .wildcard "persons.name.raw" "*jan*" true],
        .term "persons.type" "mp"] [])
    let M : Meaning Value String :=
      ⟨fun _ _ _ _ _ => False, fun _ value _ d => value = "*" ++ d ++ "*", fun _ values d => d ∈ values,
        fun _ _ _ => True, fun _ _ _ => False, fun _ said d => said d⟩
    compile ⟨⟨[]⟩, ["ocr"]⟩ state (some override) = .ok query ∧
      ∀ d, query.Holds M d ↔ ∀ e, Counts state (some override) e → ∀ selection, e.Selects selection →
        selection ≠ .terms [] → Asks M ["ocr"] e.spec selection d := by
  intro name party state override query M
  have hname : compileOne ⟨⟨[]⟩, ["ocr"]⟩ name.field (.terms name ["Anna", Wildcard.encode "jan"])
      = .ok (some query) := by
    have hn : nestedPath "persons.name" = some "persons" := by decide
    have he : Wildcard.decode? "Anna" = none := by decide
    have hm : Wildcard.decode? (Wildcard.encode "jan") = some "jan" := Wildcard.decode?_encode "jan"
    refine compileOne_eq_ok_iff.mpr ⟨_, rfl, .tuple name _, ?_⟩
    simp [query, name, FilterEntry.terms, inScope, withExtra, baseClause, termClause, hn, he, hm,
      rawField, mapBounds]
  have hparty : compileOne ⟨⟨[]⟩, ["ocr"]⟩ party.field override = .ok none :=
    compileOne_eq_ok_iff.mpr ⟨_, rfl, .tuple party _, rfl⟩
  have h : compile ⟨⟨[]⟩, ["ocr"]⟩ state (some override) = .ok query := by
    have he : effective state (some override)
        = [.terms name ["Anna", Wildcard.encode "jan"], override] := by
      simp [effective, FilterState.entries, state, override, FilterEntry.terms, name, party]
    rw [compile, he, compileEach, compileEach, compileEach]
    simp only [FilterEntry.terms, override] at hname hparty ⊢
    rw [hname, hparty]
    rfl
  exact ⟨h, (holds_compile_iff h M).2⟩

end Compiler

end Faceted
