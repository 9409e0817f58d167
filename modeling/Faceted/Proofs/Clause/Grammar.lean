import Faceted.Clause.Reading
import Faceted.Proofs.Entries
import Faceted.Proofs.KeyText

/-!
# The grammar of clauses

The values that a clause can be read from (`Grammatical`): a mapping with one entry, whose key says what
the body has to look like. Each other value is refused with a fault of type or of value, or since it goes
on without an end; the key under which a value stands decides nothing but the words of a fault
(`read_ok_iff_grammatical`).

The proof goes through the readers, one lemma for each of them, with one notion of what reading comes to
(`Verdict`): the same result under all keys where a condition holds, a refusal under all keys where it does
not. Readings one after the other come to a verdict since each of them does (`Verdict.bind`).
-/

namespace Faceted.Clause

open Number

/-! ## The grammar -/

/-- A bound of a range: null, a string, or an integer that is not too long to be written. -/
inductive IsBound : Value → Prop
  | null : IsBound .null
  | str (s : String) : IsBound (.str s)
  | int {n : Int} (short : n.natAbs < Nat.pow 10 digitLimit) : IsBound (.int n)

/-- What a mapping has under a name is a bound, if it has anything there. -/
def HasBound (name : String) (params : Mapping) : Prop :=
  ∀ v, Entries.find? name params = some v → IsBound v

/-- A text that stands alone or among parameters. -/
inductive HasText : Value → Prop
  | alone (s : String) : HasText (.str s)
  | among {params : Mapping} {s : String} (value : Entries.find? "value" params = some (.str s)) :
    HasText (.map params)

/-- The parameters of a field are those of a clause type that names a single field. -/
inductive FieldFits : String → Value → Prop
  | range {params : Mapping} (gte : HasBound "gte" params) (lte : HasBound "lte" params)
    (format : HasBound "format" params) : FieldFits "range" (.map params)
  | wildcard {params : Value} (text : HasText params) : FieldFits "wildcard" params
  | terms (values : List String) : FieldFits "terms" (.strs values)
  | term {params : Value} (text : HasText params) : FieldFits "term" params

mutual

/-- The grammar of the values that stand for a clause. -/
inductive Grammatical : Value → Prop
  | matchAll (body : Value) : Grammatical (.map [(.str "match_all", body)])
  | bool {body : Mapping}
    (operators : ∀ k ∈ Entries.keys body, k = .str "must" ∨ k = .str "should")
    (must : ∀ v, Entries.find? "must" body = some v → IsOperand v)
    (should : ∀ v, Entries.find? "should" body = some v → IsOperand v) :
    Grammatical (.map [(.str "bool", .map body)])
  | nested {body : Mapping} {path : String} {query : Value}
    (located : Entries.find? "path" body = some (.str path)) (named : path ≠ "")
    (inside : Entries.find? "query" body = some query) (clause : Grammatical query) :
    Grammatical (.map [(.str "nested", .map body)])
  | leaf {type field : String} {params : Value} (named : field ≠ "") (fits : FieldFits type params) :
    Grammatical (.map [(.str type, .map [(.str field, params)])])

/-- What stands under an operator: nothing, one clause, or a list of clauses. -/
inductive IsOperand : Value → Prop
  | none : IsOperand .null
  | one {m : Mapping} (clause : Grammatical (.map m)) : IsOperand (.map m)
  | list {xs : List Value} (clauses : ∀ x ∈ xs, Grammatical x) : IsOperand (.list xs)

end

/-! ## Verdicts -/

/-- The fault of a value that is refused: one of type or of value, or, if there is such a part, that a part
goes on without an end. -/
def Refuses (endless : Bool) (fault : Fault) : Prop :=
  fault.sort = .type ∨ fault.sort = .value ∨ fault = .endless ∧ endless = true

/-- Reading under any key comes to the same result if the condition holds, and to a refusal if not. -/
def Verdict {ι α : Type} (condition : Prop) (endless : Bool) (reads : ι → Except Fault α) : Prop :=
  condition ∧ (∃ a, ∀ key, reads key = .ok a) ∨
    ¬condition ∧ ∀ key, ∃ fault, reads key = .error fault ∧ Refuses endless fault

namespace Verdict

variable {ι κ α β : Type} {C P : Prop} {endless : Bool} {reads : ι → Except Fault α}

theorem accept (h : C) (a : α) (hreads : ∀ key, reads key = .ok a) : Verdict C endless reads :=
  Or.inl ⟨h, a, hreads⟩

/-- A fault that does not tell of an endless part, with the words of each key. -/
theorem refuse (h : ¬C) (fault : ι → Fault) (hreads : ∀ key, reads key = .error (fault key))
    (hfault : ∀ key, (fault key).sort = .type ∨ (fault key).sort = .value) : Verdict C endless reads :=
  Or.inr ⟨h, fun key => ⟨fault key, hreads key, (hfault key).imp_right Or.inl⟩⟩

theorem refuseEndless (h : ¬C) (hreads : ∀ key, reads key = .error .endless) : Verdict C true reads :=
  Or.inr ⟨h, fun key => ⟨.endless, hreads key, Or.inr (Or.inr ⟨rfl, rfl⟩)⟩⟩

theorem congr (h : C ↔ P) (hv : Verdict C endless reads) : Verdict P endless reads :=
  propext h ▸ hv

theorem comp (g : κ → ι) (hv : Verdict C endless reads) : Verdict C endless fun key => reads (g key) :=
  hv.imp (And.imp_right fun ⟨a, h⟩ => ⟨a, fun key => h (g key)⟩) (And.imp_right fun h key => h (g key))

/-- A whole that ends has no part that does not. -/
theorem mono {whole : Bool} (h : whole = false → endless = false) (hv : Verdict C endless reads) :
    Verdict C whole reads := by
  refine hv.imp_right (And.imp_right fun hr key => ?_)
  obtain ⟨fault, hfault, hsort⟩ := hr key
  refine ⟨fault, hfault, hsort.imp_right (Or.imp_right (And.imp_right fun hendless => ?_))⟩
  rw [hendless] at h
  simpa using h

/-- **Readings one after the other come to a verdict.** The first one has to succeed; what it results in is
the same under all keys, so that the other one can be looked at for this result. -/
theorem bind {next : ι → α → Except Fault β} (hv : Verdict P endless reads) (hC : C → P)
    (hnext : P → ∀ a, (∀ key, reads key = .ok a) → Verdict C endless fun key => next key a) :
    Verdict C endless fun key => reads key >>= next key := by
  rcases hv with ⟨hP, a, ha⟩ | ⟨hP, hr⟩
  · have hreads : (fun key => reads key >>= next key) = fun key => next key a := by
      funext key
      rw [ha key, ok_bind]
    rw [hreads]
    exact hnext hP a ha
  · refine Or.inr ⟨fun h => hP (hC h), fun key => ?_⟩
    obtain ⟨fault, hfault, hsort⟩ := hr key
    exact ⟨fault, by simp only [hfault]; rfl, hsort⟩

/-- Where a choice is made that the key has no part in, both sides come to a verdict. -/
theorem ite {choice : Prop} [Decidable choice] {other : ι → Except Fault α}
    (hpos : choice → Verdict C endless reads) (hneg : ¬choice → Verdict C endless other) :
    Verdict C endless fun key => if choice then reads key else other key := by
  by_cases h : choice
  · simpa only [if_pos h] using hpos h
  · simpa only [if_neg h] using hneg h

end Verdict

/-! ## Leaves -/

theorem verdict_readBound : ∀ v : Value, Verdict (IsBound v) v.isEndless fun key => readBound key v
  | .scalar .null => .accept .null none fun _ => rfl
  | .scalar (.str s) => .accept (.str s) (some s) fun _ => rfl
  | .scalar (.int n) => by
    cases h : exceedsDigits n with
    | false =>
      have hshort := exceedsDigits_eq_false_iff.mp h
      exact .accept (.int hshort) (some (intString n)) fun _ => by rw [readBound, h]; rfl
    | true =>
      refine .refuse ?_ (fun _ => .tooLongToWrite) (fun _ => by rw [readBound, h]; rfl) fun _ => Or.inr rfl
      rintro ⟨⟩
      next hshort =>
      rw [← exceedsDigits_eq_false_iff, h] at hshort
      cases hshort
  | .scalar (.bool _) | .scalar (.float _) | .scalar (.bytes _) | .scalar (.date _)
  | .scalar (.moment _) | .list _ | .tuple _ | .map _ | .set _ | .years _ _ | .endless =>
    .refuse (fun h => nomatch h) (fun key => .wrongShape key .string) (fun _ => rfl) fun _ => Or.inl rfl

theorem verdict_readBound_of_find? (name : String) (params : Mapping) :
    Verdict (HasBound name params) (Value.entriesEndless params) fun key =>
      readBound key (Mapping.findOrNull name params) := by
  cases h : Entries.find? name params with
  | none =>
    refine .accept (fun v hv => ?_) none fun key => by rw [Mapping.findOrNull, h]; rfl
    rw [h] at hv
    cases hv
  | some v =>
    have hiff : IsBound v ↔ HasBound name params := by simp [HasBound, h]
    rw [Mapping.findOrNull, h, Option.getD_some]
    exact ((verdict_readBound v).mono fun hm => Entries.isEndless_of_get? hm h).congr hiff

theorem fieldFits_iff {type : String} {params : Value} :
    FieldFits type params ↔
      (type = "range" ∧ ∃ m, params = .map m ∧ HasBound "gte" m ∧ HasBound "lte" m ∧
        HasBound "format" m) ∨
      (type = "wildcard" ∧ HasText params) ∨ (type = "terms" ∧ ∃ values, params = .strs values) ∨
      (type = "term" ∧ HasText params) := by
  constructor
  · intro h
    cases h with
    | range gte lte format => exact Or.inl ⟨rfl, _, rfl, gte, lte, format⟩
    | wildcard text => exact Or.inr (Or.inl ⟨rfl, text⟩)
    | terms values => exact Or.inr (Or.inr (Or.inl ⟨rfl, values, rfl⟩))
    | term text => exact Or.inr (Or.inr (Or.inr ⟨rfl, text⟩))
  · rintro (⟨rfl, m, rfl, gte, lte, format⟩ | ⟨rfl, text⟩ | ⟨rfl, values, rfl⟩ | ⟨rfl, text⟩)
    · exact .range gte lte format
    · exact .wildcard text
    · exact .terms values
    · exact .term text

theorem verdict_readRange (field : String) (params : Value) :
    Verdict (FieldFits "range" params) params.isEndless fun key => readRange key field params := by
  have hiff : FieldFits "range" params ↔ ∃ m, params = .map m ∧ HasBound "gte" m ∧ HasBound "lte" m ∧
      HasBound "format" m := by simp [fieldFits_iff]
  refine Verdict.congr hiff.symm ?_
  cases params with
  | map m =>
    rw [Value.isEndless]
    have hgte := (verdict_readBound_of_find? "gte" m).comp fun key => key ++ ".gte"
    have hlte := (verdict_readBound_of_find? "lte" m).comp fun key => key ++ ".lte"
    have hformat := (verdict_readBound_of_find? "format" m).comp fun key => key ++ ".format"
    refine .bind hgte (by simp_all) fun hgte gte _ => ?_
    refine .bind hlte (by simp_all) fun hlte lte _ => ?_
    refine .bind hformat (by simp_all) fun hformat format _ => ?_
    exact .accept ⟨m, rfl, hgte, hlte, hformat⟩ (.range field gte lte format) fun _ => rfl
  | _ =>
    exact .refuse (by simp) (fun key => .wrongShape key .object) (fun _ => rfl) fun _ => Or.inl rfl

/-- A string that is found, where an absent value counts as null, is there. -/
theorem find?_of_findOrNull {name s : String} {m : Mapping} (h : Mapping.findOrNull name m = .str s) :
    Entries.find? name m = some (.str s) := by
  rw [Mapping.findOrNull] at h
  cases hfind : Entries.find? name m with
  | none =>
    rw [hfind] at h
    cases h
  | some v => rw [← h, hfind, Option.getD_some]

theorem verdict_readWildcard (field : String) (params : Value) :
    Verdict (FieldFits "wildcard" params) params.isEndless fun key => readWildcard key field params := by
  have hiff : FieldFits "wildcard" params ↔ HasText params := by simp [fieldFits_iff]
  refine Verdict.congr hiff.symm ?_
  by_cases htext : HasText params
  · cases htext with
    | alone s => exact .accept (.alone s) (.wildcard field s false) fun _ => rfl
    | among value =>
      exact .accept (.among value) _ fun _ => by
        rw [readWildcard, Mapping.findOrNull, value]
        rfl
  · refine .refuse htext (fun key => .wrongShape (key ++ ".value") .string) (fun key => ?_)
      fun _ => Or.inl rfl
    unfold readWildcard
    split
    · exact absurd (.alone _) htext
    · split
      · next hs => exact absurd (.among (find?_of_findOrNull hs)) htext
      · rfl
    · rfl

theorem verdict_readTerms (field : String) (params : Value) :
    Verdict (FieldFits "terms" params) params.isEndless fun key => readTerms key field params := by
  have hiff : FieldFits "terms" params ↔ ∃ values, params = .strs values := by simp [fieldFits_iff]
  refine Verdict.congr hiff.symm ?_
  by_cases hlist : ∃ values, params = .strs values
  · obtain ⟨values, rfl⟩ := hlist
    exact .accept ⟨values, rfl⟩ (.terms field values) fun _ => by
      rw [Value.strs, readTerms, Value.strings?_map_str]
  · refine .refuse hlist (fun key => .wrongShape key .stringList) (fun key => ?_) fun _ => Or.inl rfl
    unfold readTerms
    split
    · split
      · next values hs => exact absurd ⟨values, by rw [Value.strings?_eq_some_iff.mp hs]; rfl⟩ hlist
      · rfl
    · rfl

theorem verdict_readTerm (field : String) (params : Value) :
    Verdict (FieldFits "term" params) params.isEndless fun key => readTerm key field params := by
  have hiff : FieldFits "term" params ↔ HasText params := by simp [fieldFits_iff]
  refine Verdict.congr hiff.symm ?_
  by_cases htext : HasText params
  · cases htext with
    | alone s => exact .accept (.alone s) (.term field s) fun _ => rfl
    | among value =>
      exact .accept (.among value) (.term field _) fun _ => by
        rw [readTerm, Mapping.findOrNull, value]
        rfl
  · refine .refuse htext (fun key => .wrongShape key .string) (fun key => ?_) fun _ => Or.inl rfl
    unfold readTerm
    extract_lets value
    have hvalue : ∀ s, value = .str s → HasText params := by
      intro s hs
      cases params with
      | map m => exact .among (find?_of_findOrNull hs)
      | scalar x =>
        obtain rfl : x = .str s := by simpa [value] using hs
        exact .alone s
      | _ => simp [value] at hs
    clear_value value
    split
    · exact absurd (hvalue _ rfl) htext
    · rfl

theorem verdict_readField (body : Mapping) :
    Verdict (∃ field params, body = [(.str field, params)] ∧ field ≠ "") (Value.entriesEndless body)
      fun key => readField key body := by
  by_cases h : ∃ field params, body = [(.str field, params)] ∧ field ≠ ""
  · obtain ⟨field, params, rfl, hne⟩ := h
    exact .accept ⟨field, params, rfl, hne⟩ (field, params) fun _ => by simp [readField, hne]
  · by_cases hone : ∃ e, body = [e]
    · obtain ⟨⟨k, params⟩, rfl⟩ := hone
      refine .refuse h .noFieldName (fun key => ?_) fun _ => Or.inl rfl
      unfold readField
      split
      · next heq =>
        split
        · rfl
        · next hne => exact absurd ⟨_, _, heq, by simpa using hne⟩ h
      · rfl
      · next hmany => exact absurd rfl (hmany (k, params))
    · refine .refuse h .fieldCount (fun key => ?_) fun _ => Or.inr rfl
      unfold readField
      split
      · exact absurd ⟨_, rfl⟩ hone
      · exact absurd ⟨_, rfl⟩ hone
      · rfl

/-- A type that is not known is refused, by its text if it can be written. -/
theorem verdict_unknownType {type : Key} {condition : Prop} (h : ¬condition) {endless : Bool} :
    Verdict condition endless fun keys : String × String =>
      (do throw (.unknownClause keys.1 (← type.written)) : Except Fault (Clause String)) := by
  rcases type.written_cases with ⟨name, hw⟩ | hw
  · exact .refuse h (fun keys => .unknownClause keys.1 name) (fun _ => by simp only [hw]; rfl)
      fun _ => Or.inr rfl
  · exact .refuse h (fun _ => .tooLongToWrite) (fun _ => by simp only [hw]; rfl) fun _ => Or.inr rfl

/-- Of a type that names a single field, the parameters of the field decide. -/
theorem Verdict.ofType {type : Key} {name : String} {params : Value} {endless : Bool} {ι κ α : Type}
    {reads : ι → Except Fault α} (hv : Verdict (FieldFits name params) endless reads)
    (htype : type = .str name) (g : κ → ι) :
    Verdict (∃ name, type = .str name ∧ FieldFits name params) endless fun key => reads (g key) := by
  refine (hv.comp g).congr ?_
  simp [htype]

theorem verdict_readLeaf (type : Key) (body : Mapping) :
    Verdict (∃ name field params, type = .str name ∧ body = [(.str field, params)] ∧ field ≠ "" ∧
        FieldFits name params) (Value.entriesEndless body)
      fun keys : String × String => readLeaf keys.1 keys.2 type body := by
  refine .bind ((verdict_readField body).comp Prod.snd)
    (fun ⟨_, field, params, _, hbody, hne, _⟩ => ⟨field, params, hbody, hne⟩) ?_
  rintro ⟨field, params, rfl, hne⟩ ⟨field', params'⟩ hread
  obtain ⟨rfl, rfl⟩ : field = field' ∧ params = params' := by
    simpa [readField, hne] using hread ("", "")
  have hiff : (∃ name, type = .str name ∧ FieldFits name params) ↔
      ∃ name f p, type = .str name ∧ [(Key.str field, params)] = [(Key.str f, p)] ∧ f ≠ "" ∧
        FieldFits name p := by
    constructor
    · rintro ⟨name, htype, hfits⟩
      exact ⟨name, field, params, htype, rfl, hne, hfits⟩
    · rintro ⟨name, f, p, htype, heq, -, hfits⟩
      cases heq
      exact ⟨name, htype, hfits⟩
  have hends : Value.entriesEndless [(Key.str field, params)] = false → params.isEndless = false := by
    simp [Value.entriesEndless]
  refine Verdict.congr hiff (Verdict.mono hends ?_)
  let fieldKey (keys : String × String) : String := keys.2 ++ "." ++ field
  refine .ite (fun htype => ?_) fun hrange => .ite (fun htype => ?_) fun hwildcard =>
    .ite (fun htype => ?_) fun hterms => .ite (fun htype => ?_) fun hterm => verdict_unknownType ?_
  · have hv := (verdict_readRange field params).ofType htype fieldKey
    exact hv
  · have hv := (verdict_readWildcard field params).ofType htype fieldKey
    exact hv
  · have hv := (verdict_readTerms field params).ofType htype fieldKey
    exact hv
  · have hv := (verdict_readTerm field params).ofType htype fieldKey
    exact hv
  · rintro ⟨name, rfl, hfits⟩
    rcases fieldFits_iff.mp hfits with ⟨rfl, -⟩ | ⟨rfl, -⟩ | ⟨rfl, -⟩ | ⟨rfl, -⟩
    · exact hrange rfl
    · exact hwildcard rfl
    · exact hterms rfl
    · exact hterm rfl

/-! ## Nested clauses and operators -/

theorem verdict_readPath (body : Mapping) :
    Verdict (∃ path, Entries.find? "path" body = some (.str path) ∧ path ≠ "") (Value.entriesEndless body)
      fun key => readPath key body := by
  by_cases h : ∃ path, Entries.find? "path" body = some (.str path) ∧ path ≠ ""
  · obtain ⟨path, hpath, hne⟩ := h
    exact .accept ⟨path, hpath, hne⟩ path fun _ => by simp [readPath, Mapping.findOrNull, hpath, hne]
  · refine .refuse h .noPath (fun key => ?_) fun _ => Or.inr rfl
    unfold readPath
    split
    · next path hpath =>
      split
      · rfl
      · next hne => exact absurd ⟨path, find?_of_findOrNull hpath, by simpa using hne⟩ h
    · rfl

theorem grammatical_map_iff {type : Key} (htype : type ≠ .str "match_all") {m : Mapping} :
    Grammatical (.map [(type, .map m)]) ↔
      (type = .str "bool" ∧ (∀ k ∈ Entries.keys m, k = .str "must" ∨ k = .str "should") ∧
        (∀ v, Entries.find? "must" m = some v → IsOperand v) ∧
        ∀ v, Entries.find? "should" m = some v → IsOperand v) ∨
      (type = .str "nested" ∧ (∃ path, Entries.find? "path" m = some (.str path) ∧ path ≠ "") ∧
        ∃ query, Entries.find? "query" m = some query ∧ Grammatical query) ∨
      ∃ name field params, type = .str name ∧ m = [(.str field, params)] ∧ field ≠ "" ∧
        FieldFits name params := by
  constructor
  · intro h
    cases h with
    | matchAll => exact absurd rfl htype
    | bool operators must should => exact Or.inl ⟨rfl, operators, must, should⟩
    | nested located named inside clause =>
      exact Or.inr (Or.inl ⟨rfl, ⟨_, located, named⟩, _, inside, clause⟩)
    | leaf named fits => exact Or.inr (Or.inr ⟨_, _, _, rfl, rfl, named, fits⟩)
  · rintro (⟨rfl, operators, must, should⟩ | ⟨rfl, ⟨path, located, named⟩, query, inside, clause⟩ |
      ⟨name, field, params, rfl, rfl, named, fits⟩)
    · exact .bool operators must should
    · exact .nested located named inside clause
    · exact .leaf named fits

theorem grammatical_bool_iff {m : Mapping} :
    Grammatical (.map [(.str "bool", .map m)]) ↔
      (∀ k ∈ Entries.keys m, k = .str "must" ∨ k = .str "should") ∧
        (∀ v, Entries.find? "must" m = some v → IsOperand v) ∧
        ∀ v, Entries.find? "should" m = some v → IsOperand v := by
  rw [grammatical_map_iff (by simp)]
  simp [fieldFits_iff]

theorem grammatical_nested_iff {m : Mapping} :
    Grammatical (.map [(.str "nested", .map m)]) ↔
      (∃ path, Entries.find? "path" m = some (.str path) ∧ path ≠ "") ∧
        ∃ query, Entries.find? "query" m = some query ∧ Grammatical query := by
  rw [grammatical_map_iff (by simp)]
  simp [fieldFits_iff]

theorem exists_str_of_grammatical {type : Key} {body : Value} (h : Grammatical (.map [(type, body)])) :
    ∃ name, type = .str name := by
  cases h with
  | matchAll => exact ⟨_, rfl⟩
  | bool => exact ⟨_, rfl⟩
  | nested => exact ⟨_, rfl⟩
  | leaf => exact ⟨_, rfl⟩

/-- The operators of a combination are looked at before its parts. -/
theorem verdict_operators {α : Type} {m : Mapping} {C : Prop} {endless : Bool}
    {reads : String × String → Except Fault α}
    (hC : C → ∀ k ∈ Entries.keys m, k = .str "must" ∨ k = .str "should")
    (hv : (∀ k ∈ Entries.keys m, k = .str "must" ∨ k = .str "should") → Verdict C endless reads) :
    Verdict C endless fun keys : String × String =>
      (do
        let unknown ← Mapping.namesOutside ["must", "should"] m
        if unknown.isEmpty then reads keys else throw (.unknownNames keys.2 .operators unknown) :
          Except Fault α) := by
  have hnames : Mapping.namesOutside ["must", "should"] m = .ok [] ↔
      ∀ k ∈ Entries.keys m, k = .str "must" ∨ k = .str "should" := by
    rw [Mapping.namesOutside_eq_nil_iff (by decide)]
    simp
  rcases Mapping.namesOutside_cases ["must", "should"] m with ⟨unknown, h⟩ | h
  · simp only [h, ok_bind]
    refine .ite (fun hempty => hv ?_) fun hempty => ?_
    · rw [List.isEmpty_iff.mp hempty] at h
      exact hnames.mp h
    · refine .refuse (fun hc => hempty ?_) (fun keys => .unknownNames keys.2 .operators unknown)
        (fun _ => rfl) fun _ => Or.inr rfl
      obtain rfl := Except.ok.inj (h.symm.trans (hnames.mpr (hC hc)))
      rfl
  · refine .refuse (fun hc => ?_) (fun _ => .tooLongToWrite) (fun _ => by rw [h]; rfl) fun _ => Or.inr rfl
    have hok := hnames.mpr (hC hc)
    rw [h] at hok
    cases hok

theorem isOperand_map_iff {m : Mapping} : IsOperand (.map m) ↔ Grammatical (.map m) := by
  constructor
  · rintro ⟨⟩
    assumption
  · exact .one

theorem isOperand_list_iff {xs : List Value} : IsOperand (.list xs) ↔ ∀ x ∈ xs, Grammatical x := by
  constructor
  · rintro ⟨⟩
    assumption
  · exact .list

theorem readListAt_eq (name key : String) (m : Mapping) :
    readListAt name key m = match Entries.find? name m with
      | some v => readList key v
      | none => .ok [] := by
  induction m with
  | nil => rw [readListAt]; rfl
  | cons e m ih =>
    obtain ⟨k, v⟩ := e
    rw [readListAt, Entries.find?, Entries.get?]
    split
    · rfl
    · exact ih

theorem readAt_eq (name key : String) (m : Mapping) :
    readAt name key m = match Entries.find? name m with
      | some v => read key v
      | none => .error (.missing key) := by
  induction m with
  | nil => rw [readAt]; rfl
  | cons e m ih =>
    obtain ⟨k, v⟩ := e
    rw [readAt, Entries.find?, Entries.get?]
    split
    · rfl
    · exact ih

/-! ## All values -/

theorem ends_cons {k : Key} {v : Value} {m : List (Key × Value)}
    (h : Value.entriesEndless ((k, v) :: m) = false) :
    v.isEndless = false ∧ Value.entriesEndless m = false := by
  rwa [Value.entriesEndless, Bool.or_eq_false_iff] at h

mutual

/-- **Every value is of the grammar or refused**, whatever the key is that it stands under. -/
theorem verdict_read : ∀ v : Value, Verdict (Grammatical v) v.isEndless fun key => read key v
  | .map m => by
    rw [Value.isEndless]
    exact verdict_readMapping m
  | .endless => .refuseEndless (fun h => nomatch h) fun _ => by rw [read]
  | .scalar _ | .list _ | .tuple _ | .set _ | .years _ _ =>
    .refuse (fun h => nomatch h) (fun key => .wrongShape key .object) (fun _ => by simp [read])
      fun _ => Or.inl rfl

theorem verdict_readMapping : ∀ m : List (Key × Value),
    Verdict (Grammatical (.map m)) (Value.entriesEndless m) fun key => readMapping key m
  | [(type, body)] => by
    rcases type.written_cases with ⟨name, hw⟩ | hw
    · have hreads : ∀ key, readMapping key [(type, body)] =
          if type = .str "match_all" then .ok .matchAll
          else readBody key (key ++ "." ++ name) type body := by
        intro key
        rw [readMapping, hw]
        rfl
      simp only [hreads]
      refine .ite (fun htype => ?_) fun htype => ?_
      · subst htype
        exact .accept (.matchAll body) .matchAll fun _ => rfl
      · have hv := (verdict_readBody htype body).comp fun key : String => (key, key ++ "." ++ name)
        exact hv.mono fun h => (ends_cons h).1
    · -- a type of the grammar is a string, which is written
      refine .refuse (fun h => ?_) (fun _ => .tooLongToWrite) (fun _ => by rw [readMapping, hw]; rfl)
        fun _ => Or.inr rfl
      obtain ⟨name, rfl⟩ := exists_str_of_grammatical h
      rw [Key.written_str] at hw
      cases hw
  | [] =>
    .refuse (fun h => nomatch h) .clauseCount (fun _ => by rw [readMapping]; simp) fun _ => Or.inr rfl
  | _ :: _ :: _ =>
    .refuse (fun h => nomatch h) .clauseCount (fun _ => by rw [readMapping]; simp) fun _ => Or.inr rfl

theorem verdict_readBody {type : Key} (htype : type ≠ .str "match_all") : ∀ body : Value,
    Verdict (Grammatical (.map [(type, body)])) body.isEndless
      fun keys : String × String => readBody keys.1 keys.2 type body
  | .map m => by
    have hmust := (verdict_readListAt "must" m).comp fun keys : String × String => keys.2 ++ ".must"
    have hshould := (verdict_readListAt "should" m).comp fun keys : String × String => keys.2 ++ ".should"
    have hpath := (verdict_readPath m).comp fun keys : String × String => keys.2
    have hquery := (verdict_readAt "query" m).comp fun keys : String × String => keys.2 ++ ".query"
    simp only [readBody, Value.isEndless]
    refine .ite (fun hbool => ?_) fun hbool => .ite (fun hnested => ?_) fun hnested => ?_
    · subst hbool
      refine .congr grammatical_bool_iff.symm (verdict_operators And.left fun operators => ?_)
      refine .bind hmust (fun h => h.2.1) fun must musts _ => ?_
      refine .bind hshould (fun h => h.2.2) fun should shoulds _ => ?_
      exact .accept ⟨operators, must, should⟩ (.bool musts shoulds) fun _ => rfl
    · subst hnested
      refine .congr grammatical_nested_iff.symm (.bind hpath And.left fun located path _ => ?_)
      refine .bind hquery And.right fun inside query _ => ?_
      exact .accept ⟨located, inside⟩ (.nested path query) fun _ => rfl
    · refine .congr ?_ (verdict_readLeaf type m)
      simp [grammatical_map_iff htype, hbool, hnested]
  | .endless => by
    refine .refuseEndless (fun h => ?_) fun _ => by rw [readBody]
    cases h
    exact htype rfl
  | .scalar _ | .list _ | .tuple _ | .set _ | .years _ _ => by
    refine .refuse (fun h => ?_) (fun keys => .wrongShape keys.2 .object) (fun _ => by simp [readBody])
      fun _ => Or.inl rfl
    cases h
    exact htype rfl

theorem verdict_readAt (name : String) : ∀ m : List (Key × Value),
    Verdict (∃ v, Entries.find? name m = some v ∧ Grammatical v) (Value.entriesEndless m)
      fun key => readAt name key m
  | [] =>
    .refuse (by simp [Entries.find?, Entries.get?]) .missing (fun _ => by rw [readAt]) fun _ => Or.inr rfl
  | (k, v) :: m => by
    simp only [readAt, Entries.find?, Entries.get?]
    refine .ite (fun hk => ?_) fun hk => ?_
    · simpa [hk] using (verdict_read v).mono fun h => (ends_cons h).1
    · simpa [hk, Entries.find?] using (verdict_readAt name m).mono fun h => (ends_cons h).2

theorem verdict_readListAt (name : String) : ∀ m : List (Key × Value),
    Verdict (∀ v, Entries.find? name m = some v → IsOperand v) (Value.entriesEndless m)
      fun key => readListAt name key m
  | [] => .accept (fun _ h => nomatch h) [] fun _ => by rw [readListAt]
  | (k, v) :: m => by
    simp only [readListAt, Entries.find?, Entries.get?]
    refine .ite (fun hk => ?_) fun hk => ?_
    · simpa [hk] using (verdict_readList v).mono fun h => (ends_cons h).1
    · simpa [hk, Entries.find?] using (verdict_readListAt name m).mono fun h => (ends_cons h).2

theorem verdict_readList : ∀ v : Value, Verdict (IsOperand v) v.isEndless fun key => readList key v
  | .scalar .null => .accept .none [] fun _ => by rw [readList]
  | .map m => by
    simp only [readList, Value.isEndless]
    refine .congr isOperand_map_iff.symm (.bind (verdict_readMapping m) id fun h c _ => ?_)
    exact .accept h [c] fun _ => rfl
  | .list xs => by
    simp only [readList, Value.isEndless]
    exact (verdict_readItems xs 0).congr isOperand_list_iff.symm
  | .endless => .refuseEndless (fun h => nomatch h) fun _ => by rw [readList]
  | .scalar (.bool _) | .scalar (.int _) | .scalar (.float _) | .scalar (.str _) | .scalar (.bytes _)
  | .scalar (.date _) | .scalar (.moment _) | .tuple _ | .set _ | .years _ _ =>
    .refuse (fun h => nomatch h) (fun key => .wrongShape key .list) (fun _ => by simp [readList])
      fun _ => Or.inl rfl

theorem verdict_readItems : ∀ (xs : List Value) (index : Nat),
    Verdict (∀ x ∈ xs, Grammatical x) (Value.areEndless xs) fun key => readItems key index xs
  | [], _ => .accept (fun _ h => nomatch h) [] fun _ => by rw [readItems]
  | x :: xs, index => by
    have hends : Value.areEndless (x :: xs) = false →
        x.isEndless = false ∧ Value.areEndless xs = false := by
      simp [Value.areEndless]
    have hx := ((verdict_read x).comp fun key => itemKey key index).mono fun h => (hends h).1
    have hxs := (verdict_readItems xs (index + 1)).mono fun h => (hends h).2
    simp only [readItems]
    refine .congr List.forall_mem_cons.symm (.bind hx And.left fun h c _ => ?_)
    refine .bind hxs And.right fun hs cs _ => ?_
    exact .accept ⟨h, hs⟩ (c :: cs) fun _ => rfl

end

/--
**Reading a clause decides its grammar.**

For every value: a clause is read from it, under any key, exactly if it is of the grammar; else it is
refused with a fault of type or of value, or, if a part of it goes on without an end, with the fault that
tells so. The key decides neither whether a clause is read nor which one.
-/
theorem read_ok_iff_grammatical (v : Value) :
    (∀ key, (∃ c, read key v = .ok c) ↔ Grammatical v) ∧
    (∀ key, ¬Grammatical v → ∃ fault, read key v = .error fault ∧
      (fault.sort = .type ∨ fault.sort = .value ∨ fault = .endless ∧ v.isEndless = true)) ∧
    ∀ key key' c, read key v = .ok c → read key' v = .ok c := by
  rcases verdict_read v with ⟨h, c, hc⟩ | ⟨h, hr⟩
  · dsimp only at hc
    refine ⟨fun key => ⟨fun _ => h, fun _ => ⟨c, hc key⟩⟩, fun _ hnot => absurd h hnot, ?_⟩
    intro key key' d hd
    rw [hc key] at hd
    rw [hc key', hd]
  · dsimp only at hr
    have hnone : ∀ key c, read key v ≠ .ok c := by
      intro key c hc
      obtain ⟨fault, hfault, -⟩ := hr key
      rw [hfault] at hc
      cases hc
    refine ⟨fun key => ⟨?_, fun hg => absurd hg h⟩, fun key _ => hr key, ?_⟩
    · rintro ⟨c, hc⟩
      exact absurd hc (hnone key c)
    · intro key _ c hc
      exact absurd hc (hnone key c)

/-- A nested combination of both operators is of the grammar: a list under one, one clause under the
other, with the long form of a term and a bound that is an integer. With an unknown operator it is not. -/
theorem read_ok_iff_grammatical_nested :
    let range := Value.object [("range", .object [("date", .object [("gte", .int 1981), ("lte", .null)])])]
    let term := Value.object [("term", .object [("role", .object [("value", .str "mp")])])]
    let nested (operators : Value) := Value.object [("nested", .object
      [("path", .str "persons"), ("query", .object [("bool", operators)])])]
    let accepted := nested (.object
      [("must", .list [range, term]), ("should", .object [("match_all", .null)])])
    let refused := nested (.object [("must_not", .list [])])
    (∃ c, read "extra" accepted = .ok c ∧ read "query" accepted = .ok c) ∧
      ∃ fault, read "extra" refused = .error fault ∧ (fault.sort = .type ∨ fault.sort = .value) := by
  intro range term nested accepted refused
  have hshort : 1981 < Nat.pow 10 digitLimit := lt_pow_of_lt (by decide : 1981 < Nat.pow 10 4) (by decide)
  have hrange : Grammatical range :=
    .leaf (by decide) (.range (fun _ h => Option.some.inj h ▸ .int hshort)
      (fun _ h => Option.some.inj h ▸ .null) fun _ h => nomatch h)
  have hterm : Grammatical term := .leaf (by decide) (.term (.among rfl))
  have hbool : Grammatical (.object [("bool", .object
      [("must", .list [range, term]), ("should", .object [("match_all", .null)])])]) := by
    refine .bool (by decide) (fun v h => ?_) fun v h => ?_
    · obtain rfl := Option.some.inj h
      exact .list (by simp [hrange, hterm])
    · obtain rfl := Option.some.inj h
      exact .one (.matchAll .null)
  have haccepted : Grammatical accepted := .nested rfl (by decide) rfl hbool
  have hrefused : ¬Grammatical refused := by
    intro h
    obtain ⟨-, query, hquery, h⟩ := grammatical_nested_iff.mp h
    obtain rfl := Option.some.inj hquery
    have hoperator := (grammatical_bool_iff.mp h).1 (.str "must_not") (by decide)
    simp at hoperator
  obtain ⟨haccepts, -, hsame⟩ := read_ok_iff_grammatical accepted
  obtain ⟨-, hrefuses, -⟩ := read_ok_iff_grammatical refused
  obtain ⟨c, hc⟩ := (haccepts "extra").mpr haccepted
  refine ⟨⟨c, hc, hsame _ _ c hc⟩, ?_⟩
  obtain ⟨fault, hfault, hsort | hsort | ⟨-, hends⟩⟩ := hrefuses "extra" hrefused
  · exact ⟨fault, hfault, Or.inl hsort⟩
  · exact ⟨fault, hfault, Or.inr hsort⟩
  · cases hends

end Faceted.Clause
