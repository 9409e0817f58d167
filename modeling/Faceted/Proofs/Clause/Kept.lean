import Faceted.Proofs.Clause.Grammar
import Faceted.Proofs.Clause.Roundtrip
import Mathlib.Data.List.Forall2

/-!
# What is kept of a clause

A clause that has been read is sent as a document of its own, and the question is whether all that the
first document carries is there again.

* `Kept` says that it is, up to the ways of writing the same thing: it goes along the first document and asks
  for each key with a value whether the other document has it at the same place. `Reflected` asks so except
  for what is spared.
* `Drops` says which keys of a part are gone: parameters that reading does not know, and a mark of a
  pattern that is no truth value. `Inside` leads to the parts.

`reflected_iff` is by induction on the grammar: what is spared has to be at least what is dropped. That nothing
is spared and that all that is dropped is spared are its two ends. For each production there is a lemma about
what is reflected, one about what is dropped, and one that reading brings the two together.
-/

namespace Faceted.Clause

open Number

/-! ## What is reflected -/

/-- A mapping carries a value under a key: it is there, and it is not null. -/
def Carries (m : Mapping) (k : Key) (v : Value) : Prop := Entries.get? k m = some v ∧ v ≠ .null

/-- The parameters of a field in the document of a clause of some type, and those that are sent. What is
spared need not be there. -/
inductive ParamsReflected (spared : Key → Value → Prop) : String → Value → Value → Prop
  | range {params bounds : Mapping} (kept : ∀ k v, Carries params k v → ¬spared k v → ∃ w,
      Entries.get? k bounds = some w ∧ (w = v ∨ ∃ n, v = .int n ∧ w = .str (intString n))) :
    ParamsReflected spared "range" (.map params) (.map bounds)
  | pattern {s : String} {sent : Mapping} (value : Entries.find? "value" sent = some (.str s)) :
    ParamsReflected spared "wildcard" (.str s) (.map sent)
  | wildcard {params sent : Mapping}
    (kept : ∀ k v, Carries params k v → ¬spared k v → Entries.get? k sent = some v) :
    ParamsReflected spared "wildcard" (.map params) (.map sent)
  | terms (values : Value) : ParamsReflected spared "terms" values values
  | text (s : String) : ParamsReflected spared "term" (.str s) (.str s)
  | term {params : Mapping} {s : String}
    (kept : ∀ k v, Carries params k v → ¬spared k v → k = .str "value" ∧ v = .str s) :
    ParamsReflected spared "term" (.map params) (.str s)

namespace ParamsReflected

variable {spared : Key → Value → Prop}

theorem kept_of_range {params bounds : Mapping}
    (h : ParamsReflected spared "range" (.map params) (.map bounds)) :
    ∀ k v, Carries params k v → ¬spared k v → ∃ w, Entries.get? k bounds = some w ∧
      (w = v ∨ ∃ n, v = .int n ∧ w = .str (intString n)) := by
  generalize htype : "range" = type at h
  cases h with
  | range kept => exact kept
  | wildcard | terms => simp at htype

theorem kept_of_wildcard {params sent : Mapping}
    (h : ParamsReflected spared "wildcard" (.map params) (.map sent)) :
    ∀ k v, Carries params k v → ¬spared k v → Entries.get? k sent = some v := by
  generalize htype : "wildcard" = type at h
  cases h with
  | wildcard kept => exact kept
  | range | terms => simp at htype

theorem kept_of_term {params : Mapping} {s : String}
    (h : ParamsReflected spared "term" (.map params) (.str s)) :
    ∀ k v, Carries params k v → ¬spared k v → k = .str "value" ∧ v = .str s := by
  generalize htype : "term" = type at h
  cases h with
  | term kept => exact kept

end ParamsReflected

/-- The clauses that stand under an operator: those of a list, or one alone. -/
def operands : Value → List Value
  | .map m => [.map m]
  | .list xs => xs
  | _ => []

/-- What the document of a clause carries is in the document that is sent: under the same keys, and for
parts that are clauses again so. The body under `match_all` is emptied and an operator with an empty list is
left out. What is spared of a part, beside the clauses in it, need not be there. -/
inductive Reflected (spared : Value → Key → Value → Prop) : Value → Value → Prop
  | matchAll (body : Value) :
    Reflected spared (.map [(.str "match_all", body)]) (.object [("match_all", .object [])])
  | bool {m sent : Mapping}
    (found : ∀ k v, Carries m k v → v ≠ .list [] → ∃ ys, Entries.get? k sent = some (.list ys))
    (kept : ∀ k v ys, Carries m k v → Entries.get? k sent = some (.list ys) →
      List.Forall₂ (Reflected spared) (operands v) ys) :
    Reflected spared (.map [(.str "bool", .map m)]) (.map [(.str "bool", .map sent)])
  | nested {m sent : Mapping} {w : Value}
    (plain : ∀ k v, k ≠ .str "query" → Carries m k v → ¬spared (.map [(.str "nested", .map m)]) k v →
      Entries.get? k sent = some v)
    (inside : Entries.find? "query" sent = some w)
    (query : ∀ v, Carries m (.str "query") v → Reflected spared v w) :
    Reflected spared (.map [(.str "nested", .map m)]) (.map [(.str "nested", .map sent)])
  | leaf {type field : String} {params sent : Value}
    (reflected : ParamsReflected (spared (.map [(.str type, .map [(.str field, params)])])) type params
      sent) :
    Reflected spared (.map [(.str type, .map [(.str field, params)])])
      (.map [(.str type, .map [(.str field, sent)])])

/-- All that the document of a clause carries is in the document that is sent. -/
def Kept (v sent : Value) : Prop := Reflected (fun _ _ _ => False) v sent

/-! ## What is dropped -/

/-- The document is that of a clause inside another one, or this one itself. -/
inductive Inside (part : Value) : Value → Prop
  | self : Inside part part
  | operand {m : Mapping} {k : Key} {v x : Value} (found : Entries.get? k m = some v)
    (mem : x ∈ operands v) (inside : Inside part x) : Inside part (.map [(.str "bool", .map m)])
  | query {m : Mapping} {q : Value} (found : Entries.find? "query" m = some q) (inside : Inside part q) :
    Inside part (.map [(.str "nested", .map m)])

/-- The types of clauses that name a single field. -/
def fieldTypes : List String := ["range", "wildcard", "terms", "term"]

/-- The parameters that a type of clause knows. -/
def parameters : String → List String
  | "nested" => ["path", "query"]
  | "range" => ["gte", "lte", "format"]
  | "wildcard" => ["value", "case_insensitive"]
  | "term" => ["value"]
  | _ => []

/-- The parameters of a clause carry something that reading drops: there is no parameter of this name, or
it is the mark of a pattern and no truth value, of which only the truth is kept. -/
inductive ParamsDrop (type : String) : Value → Key → Value → Prop
  | unknown {params : Mapping} {k : Key} {v : Value} (there : Carries params k v)
    (new : ∀ name ∈ parameters type, k ≠ .str name) : ParamsDrop type (.map params) k v
  | mark {params : Mapping} {v : Value} (wildcard : type = "wildcard")
    (there : Carries params (.str "case_insensitive") v) (untrue : ∀ b, v ≠ .bool b) :
    ParamsDrop type (.map params) (.str "case_insensitive") v

/-- The document of a clause carries something at its top that reading drops. -/
inductive Drops : Value → Key → Value → Prop
  | nested {m : Mapping} {k : Key} {v : Value} (drops : ParamsDrop "nested" (.map m) k v) :
    Drops (.map [(.str "nested", .map m)]) k v
  | leaf {type field : String} {params : Value} {k : Key} {v : Value}
    (leaf : type ∈ fieldTypes) (drops : ParamsDrop type params k v) :
    Drops (.map [(.str type, .map [(.str field, params)])]) k v

/-- All that reading drops of the parts of a clause is spared. -/
def DropsSpared (spared : Value → Key → Value → Prop) (v : Value) : Prop :=
  ∀ part k w, Inside part v → Drops part k w → spared part k w

section

variable {spared : Value → Key → Value → Prop}

/-! ## Productions -/

theorem reflected_matchAll_iff {body w : Value} :
    Reflected spared (.map [(.str "match_all", body)]) w ↔ w = .object [("match_all", .object [])] := by
  constructor
  · intro h
    generalize htype : "match_all" = type at h
    cases h with
    | matchAll => rfl
    | bool | nested => simp at htype
    | leaf reflected => cases reflected <;> simp at htype
  · rintro rfl
    exact .matchAll body

theorem reflected_bool_iff {m : Mapping} {w : Value} :
    Reflected spared (.map [(.str "bool", .map m)]) w ↔ ∃ sent, w = .map [(.str "bool", .map sent)] ∧
      (∀ k v, Carries m k v → v ≠ .list [] → ∃ ys, Entries.get? k sent = some (.list ys)) ∧
      ∀ k v ys, Carries m k v → Entries.get? k sent = some (.list ys) →
        List.Forall₂ (Reflected spared) (operands v) ys := by
  constructor
  · intro h
    generalize htype : "bool" = type at h
    cases h with
    | bool found kept => exact ⟨_, rfl, found, kept⟩
    | matchAll | nested => simp at htype
    | leaf reflected => cases reflected <;> simp at htype
  · rintro ⟨sent, rfl, found, kept⟩
    exact .bool found kept

theorem reflected_nested_iff {m : Mapping} {w : Value} :
    Reflected spared (.map [(.str "nested", .map m)]) w ↔ ∃ sent q, w = .map [(.str "nested", .map sent)] ∧
      (∀ k v, k ≠ .str "query" → Carries m k v → ¬spared (.map [(.str "nested", .map m)]) k v →
        Entries.get? k sent = some v) ∧
      Entries.find? "query" sent = some q ∧ ∀ v, Carries m (.str "query") v → Reflected spared v q := by
  constructor
  · intro h
    generalize htype : "nested" = type at h
    cases h with
    | nested plain inside query => exact ⟨_, _, rfl, plain, inside, query⟩
    | matchAll | bool => simp at htype
    | leaf reflected => cases reflected <;> simp at htype
  · rintro ⟨sent, q, rfl, plain, inside, query⟩
    exact .nested plain inside query

theorem reflected_leaf_iff {type : String} (htype : type ∈ fieldTypes) {field : String} {params w : Value} :
    Reflected spared (.map [(.str type, .map [(.str field, params)])]) w ↔
      ∃ sent, w = .map [(.str type, .map [(.str field, sent)])] ∧
        ParamsReflected (spared (.map [(.str type, .map [(.str field, params)])])) type params sent := by
  constructor
  · intro h
    cases h with
    | matchAll | bool | nested => simp [fieldTypes] at htype
    | leaf reflected => exact ⟨_, rfl, reflected⟩
  · rintro ⟨sent, rfl, reflected⟩
    exact .leaf reflected

/-- Of a type that is neither `nested` nor one that names a field, nothing is dropped. -/
theorem not_drops {type : String} (htype : type ∉ "nested" :: fieldTypes) {body w : Value} {k : Key} :
    ¬Drops (.map [(.str type, body)]) k w := by
  intro hdrops
  cases hdrops with
  | nested => exact htype List.mem_cons_self
  | leaf leaf => exact htype (List.mem_cons_of_mem _ leaf)

theorem dropsSpared_matchAll (body : Value) : DropsSpared spared (.map [(.str "match_all", body)]) := by
  intro part k w hpart hdrops
  generalize htype : "match_all" = type at hpart
  cases hpart with
  | self => exact absurd hdrops (not_drops (htype ▸ by decide))
  | operand | query => simp at htype

theorem dropsSpared_bool_iff {m : Mapping} :
    DropsSpared spared (.map [(.str "bool", .map m)]) ↔
      ∀ k v, Entries.get? k m = some v → ∀ x ∈ operands v, DropsSpared spared x := by
  constructor
  · intro h k v hv x hx part l w hpart
    exact h part l w (.operand hv hx hpart)
  · intro h part l w hpart hdrops
    generalize htype : "bool" = type at hpart
    cases hpart with
    | self => exact absurd hdrops (not_drops (htype ▸ by decide))
    | operand found mem inside => exact h _ _ found _ mem part l w inside hdrops
    | query => simp at htype

theorem dropsSpared_nested_iff {m : Mapping} :
    DropsSpared spared (.map [(.str "nested", .map m)]) ↔
      (∀ k v, Carries m k v → ¬spared (.map [(.str "nested", .map m)]) k v →
        k = .str "path" ∨ k = .str "query") ∧
      ∀ q, Entries.find? "query" m = some q → DropsSpared spared q := by
  constructor
  · intro h
    refine ⟨fun k v hcarries hspared => ?_, fun q hq part l w hpart => h part l w (.query hq hpart)⟩
    by_contra hnew
    refine hspared (h _ k v .self (.nested (.unknown hcarries ?_)))
    simpa [parameters] using hnew
  · rintro ⟨hknown, hquery⟩ part l w hpart hdrops
    generalize htype : "nested" = type at hpart
    cases hpart with
    | self =>
      cases hdrops with
      | nested drops =>
        cases drops with
        | unknown there new =>
          by_contra hspared
          have hkey := hknown l w there hspared
          simp [parameters] at new
          tauto
        | mark wildcard => simp at wildcard
      | leaf leaf =>
        subst htype
        simp [fieldTypes] at leaf
    | operand => simp at htype
    | query found inside => exact hquery _ found part l w inside hdrops

theorem dropsSpared_leaf_iff {type : String} (htype : type ∈ fieldTypes) {field : String} {params : Value} :
    DropsSpared spared (.map [(.str type, .map [(.str field, params)])]) ↔
      ∀ k v, ParamsDrop type params k v →
        spared (.map [(.str type, .map [(.str field, params)])]) k v := by
  constructor
  · exact fun h k v hdrops => h _ k v .self (.leaf htype hdrops)
  · intro h part k v hpart hdrops
    cases hpart with
    | self =>
      cases hdrops with
      | nested => simp [fieldTypes] at htype
      | leaf leaf drops => exact h k v drops
    | operand | query => simp [fieldTypes] at htype

end

/-! ## Leaves -/

/-- What is found in an object stands under the name of a field. -/
theorem exists_field_of_get? {fields : List (String × Value)} {k : Key} {v : Value}
    (h : Entries.get? k (fields.map fun f => (.str f.1, f.2)) = some v) : ∃ f ∈ fields, k = .str f.1 := by
  obtain ⟨e, he, hsame, -⟩ := Entries.exists_same_of_get? h
  obtain ⟨f, hf, rfl⟩ := List.mem_map.mp he
  rw [Key.same_comm] at hsame
  exact ⟨f, hf, Key.eq_str_of_same hsame⟩

theorem findOrNull_of_carries {m : Mapping} {name : String} {v : Value} (h : Carries m (.str name) v) :
    Mapping.findOrNull name m = v := by
  rw [Mapping.findOrNull, Entries.find?, h.1, Option.getD_some]

section

variable {spared : Key → Value → Prop}

/-- What is dropped of parameters is spared, if all others are known and the mark of a pattern, unless it is
spared, is a truth value. -/
theorem paramsDrop_spared_iff {type : String} {params : Mapping} :
    (∀ k v, ParamsDrop type (.map params) k v → spared k v) ↔
      (∀ k v, Carries params k v → ¬spared k v → ∃ name ∈ parameters type, k = .str name) ∧
        (type = "wildcard" → ∀ v, Carries params (.str "case_insensitive") v →
          ¬spared (.str "case_insensitive") v → ∃ b, v = .bool b) := by
  constructor
  · intro h
    refine ⟨fun k v hcarries hspared => ?_, fun htype v hcarries hspared => ?_⟩
    · by_contra hnone
      exact hspared (h k v (.unknown hcarries fun name hname hk => hnone ⟨name, hname, hk⟩))
    · by_contra hnone
      exact hspared (h _ v (.mark htype hcarries fun b hb => hnone ⟨b, hb⟩))
  · rintro ⟨hknown, hmark⟩ k v hdrops
    by_contra hspared
    cases hdrops with
    | unknown there new =>
      obtain ⟨name, hname, hk⟩ := hknown k v there hspared
      exact new name hname hk
    | mark wildcard there untrue =>
      obtain ⟨b, hb⟩ := hmark wildcard v there hspared
      exact untrue b hb

theorem kept_bound {key name : String} {params sent : Mapping} {bound : Option String} {v : Value}
    (hread : readBound key (Mapping.findOrNull name params) = .ok bound)
    (hcarries : Carries params (.str name) v) (hsent : Mapping.findOrNull name sent = .ofOption bound) :
    ∃ w, Entries.get? (.str name) sent = some w ∧ (w = v ∨ ∃ n, v = .int n ∧ w = .str (intString n)) := by
  rw [findOrNull_of_carries hcarries] at hread
  unfold readBound at hread
  split at hread
  · exact absurd rfl hcarries.2
  · next s =>
    obtain rfl := Except.ok.inj hread
    exact ⟨.str s, find?_of_findOrNull hsent, Or.inl rfl⟩
  · next n =>
    split at hread
    · cases hread
    · obtain rfl := Except.ok.inj hread
      exact ⟨_, find?_of_findOrNull hsent, Or.inr ⟨n, rfl, rfl⟩⟩
  · cases hread

theorem mem_of_mem_presentBounds {gte lte format : Option String} {f : String × Value}
    (h : f ∈ presentBounds gte lte format) : f.1 ∈ parameters "range" := by
  rw [presentBounds, List.mem_filterMap] at h
  obtain ⟨bound, hbound, hf⟩ := h
  obtain ⟨w, -, rfl⟩ := Option.map_eq_some_iff.mp hf
  simp only [List.mem_cons, List.not_mem_nil, or_false] at hbound
  rcases hbound with rfl | rfl | rfl <;> simp [parameters]

theorem paramsReflected_range_iff {key field : String} {params : Value} {c : Clause String}
    (h : readRange key field params = .ok c) :
    ∃ sent, c.toValue = .map [(.str "range", .map [(.str field, sent)])] ∧
      (ParamsReflected spared "range" params sent ↔ ∀ k v, ParamsDrop "range" params k v → spared k v) := by
  unfold readRange at h
  split at h
  · next m =>
    obtain ⟨gte, hgte, h⟩ := bind_eq_ok_iff.mp h
    obtain ⟨lte, hlte, h⟩ := bind_eq_ok_iff.mp h
    obtain ⟨format, hformat, h⟩ := bind_eq_ok_iff.mp h
    obtain rfl := Except.ok.inj h
    obtain ⟨hsentGte, hsentLte, hsentFormat⟩ := findOrNull_presentBounds gte lte format
    refine ⟨_, rfl, ?_⟩
    rw [paramsDrop_spared_iff]
    constructor
    · intro hreflected
      refine ⟨fun k v hcarries hspared => ?_, by simp⟩
      obtain ⟨w, hw, -⟩ := hreflected.kept_of_range k v hcarries hspared
      obtain ⟨f, hf, rfl⟩ := exists_field_of_get? hw
      exact ⟨f.1, mem_of_mem_presentBounds hf, rfl⟩
    · rintro ⟨hknown, -⟩
      refine .range fun k v hcarries hspared => ?_
      obtain ⟨name, hname, rfl⟩ := hknown k v hcarries hspared
      simp only [parameters, List.mem_cons, List.not_mem_nil, or_false] at hname
      rcases hname with rfl | rfl | rfl
      · exact kept_bound hgte hcarries hsentGte
      · exact kept_bound hlte hcarries hsentLte
      · exact kept_bound hformat hcarries hsentFormat
  · cases h

theorem find?_wildcard (s : String) (b : Bool) :
    let sent := [("value", Value.str s), ("case_insensitive", .bool b)].map fun f => (Key.str f.1, f.2)
    Entries.get? (.str "value") sent = some (.str s) ∧
      Entries.get? (.str "case_insensitive") sent = some (.bool b) :=
  ⟨rfl, rfl⟩

theorem paramsReflected_wildcard_iff {key field : String} {params : Value} {c : Clause String}
    (h : readWildcard key field params = .ok c) :
    ∃ sent, c.toValue = .map [(.str "wildcard", .map [(.str field, sent)])] ∧
      (ParamsReflected spared "wildcard" params sent ↔ ∀ k v, ParamsDrop "wildcard" params k v → spared k v) := by
  unfold readWildcard at h
  split at h
  · next s =>
    obtain rfl := Except.ok.inj h
    exact ⟨_, rfl, fun _ => nofun, fun _ => .pattern (Entries.find?_cons_self ..)⟩
  · next m =>
    split at h
    · next s hvalue =>
      obtain rfl := Except.ok.inj h
      obtain ⟨hsentValue, hsentMark⟩ := find?_wildcard s
        ((Entries.find? "case_insensitive" m).any Value.isTruthy)
      refine ⟨_, rfl, ?_⟩
      rw [paramsDrop_spared_iff]
      constructor
      · intro hreflected
        have kept := hreflected.kept_of_wildcard
        refine ⟨fun k v hcarries hspared => ?_, fun _ v hcarries hspared => ?_⟩
        · obtain ⟨f, hf, rfl⟩ := exists_field_of_get? (kept k v hcarries hspared)
          refine ⟨f.1, ?_, rfl⟩
          simp only [List.mem_cons, List.not_mem_nil, or_false] at hf
          rcases hf with rfl | rfl <;> simp [parameters]
        · exact ⟨_, Option.some.inj ((kept _ v hcarries hspared).symm.trans hsentMark)⟩
      · rintro ⟨hknown, hmark⟩
        refine .wildcard fun k v hcarries hspared => ?_
        obtain ⟨name, hname, rfl⟩ := hknown k v hcarries hspared
        simp only [parameters, List.mem_cons, List.not_mem_nil, or_false] at hname
        rcases hname with rfl | rfl
        · obtain rfl := (findOrNull_of_carries hcarries).symm.trans hvalue
          exact hsentValue
        · obtain ⟨b, rfl⟩ := hmark rfl v hcarries hspared
          have hfind : Entries.find? "case_insensitive" m = some (.bool b) := hcarries.1
          rw [hsentMark, hfind]
          rfl
    · cases h
  · cases h

theorem paramsReflected_terms_iff {key field : String} {params : Value} {c : Clause String}
    (h : readTerms key field params = .ok c) :
    ∃ sent, c.toValue = .map [(.str "terms", .map [(.str field, sent)])] ∧
      (ParamsReflected spared "terms" params sent ↔ ∀ k v, ParamsDrop "terms" params k v → spared k v) := by
  unfold readTerms at h
  split at h
  · next xs =>
    split at h
    · next values hvalues =>
      obtain rfl := Except.ok.inj h
      obtain rfl := Value.strings?_eq_some_iff.mp hvalues
      exact ⟨_, rfl, fun _ => nofun, fun _ => .terms _⟩
    · cases h
  · cases h

theorem paramsReflected_term_iff {key field : String} {params : Value} {c : Clause String}
    (h : readTerm key field params = .ok c) :
    ∃ sent, c.toValue = .map [(.str "term", .map [(.str field, sent)])] ∧
      (ParamsReflected spared "term" params sent ↔ ∀ k v, ParamsDrop "term" params k v → spared k v) := by
  unfold readTerm at h
  cases params with
  | map m =>
    dsimp only at h
    split at h
    · next s hvalue =>
      obtain rfl := Except.ok.inj h
      refine ⟨_, rfl, ?_⟩
      rw [paramsDrop_spared_iff]
      constructor
      · intro hreflected
        refine ⟨fun k v hcarries hspared => ⟨"value", by simp [parameters], ?_⟩, by simp⟩
        exact (hreflected.kept_of_term k v hcarries hspared).1
      · rintro ⟨hknown, -⟩
        refine .term fun k v hcarries hspared => ?_
        obtain ⟨name, hname, rfl⟩ := hknown k v hcarries hspared
        obtain rfl : name = "value" := by simpa [parameters] using hname
        exact ⟨rfl, (findOrNull_of_carries hcarries).symm.trans hvalue⟩
    · cases h
  | scalar x =>
    dsimp only at h
    split at h
    · next s hs =>
      obtain rfl := Except.ok.inj h
      rw [hs]
      exact ⟨_, rfl, fun _ => nofun, fun _ => .text s⟩
    · cases h
  | _ => cases h

theorem paramsReflected_iff {type : String} (htype : type ∈ fieldTypes) {field : String} (hfield : field ≠ "")
    {outer key : String} {params : Value} {c : Clause String}
    (h : readLeaf outer key (.str type) [(.str field, params)] = .ok c) :
    ∃ sent, c.toValue = .map [(.str type, .map [(.str field, sent)])] ∧
      (ParamsReflected spared type params sent ↔ ∀ k v, ParamsDrop type params k v → spared k v) := by
  obtain ⟨hrange, hwildcard, hterms, hterm⟩ := readLeaf_field hfield outer key params
  simp only [fieldTypes, List.mem_cons, List.not_mem_nil, or_false] at htype
  rcases htype with rfl | rfl | rfl | rfl
  · exact paramsReflected_range_iff (hrange ▸ h)
  · exact paramsReflected_wildcard_iff (hwildcard ▸ h)
  · exact paramsReflected_terms_iff (hterms ▸ h)
  · exact paramsReflected_term_iff (hterm ▸ h)

end

/-! ## Combinations -/

/-- The clause is read from the document, under some key. -/
def IsRead (v : Value) (c : Clause String) : Prop := ∃ key, read key v = .ok c

theorem grammatical_of_read {key : String} {v : Value} {c : Clause String} (h : read key v = .ok c) :
    Grammatical v := by
  rcases verdict_read v with ⟨hv, -⟩ | ⟨-, hr⟩
  · exact hv
  · obtain ⟨fault, hfault, -⟩ := hr key
    exact absurd (h.symm.trans hfault) (by simp)

theorem IsRead.ne_null {v : Value} {c : Clause String} (h : IsRead v c) : v ≠ .null := by
  rintro rfl
  obtain ⟨key, h⟩ := h
  nomatch grammatical_of_read h

theorem forall₂_of_readItems {key : String} {xs : List Value} {cs : List (Clause String)} {index : Nat}
    (h : readItems key index xs = .ok cs) : List.Forall₂ IsRead xs cs := by
  induction xs generalizing cs index with
  | nil =>
    rw [readItems] at h
    obtain rfl := Except.ok.inj h
    exact .nil
  | cons x xs ih =>
    rw [readItems] at h
    obtain ⟨c, hc, h⟩ := bind_eq_ok_iff.mp h
    obtain ⟨rest, hrest, h⟩ := bind_eq_ok_iff.mp h
    obtain rfl := Except.ok.inj h
    exact .cons ⟨_, hc⟩ (ih hrest)

theorem forall₂_of_readList {key : String} {v : Value} {cs : List (Clause String)}
    (h : readList key v = .ok cs) : List.Forall₂ IsRead (operands v) cs := by
  unfold readList at h
  split at h
  · obtain rfl := Except.ok.inj h
    exact .nil
  · next m =>
    obtain ⟨c, hc, h⟩ := bind_eq_ok_iff.mp h
    obtain rfl := Except.ok.inj h
    exact .cons ⟨key, by rwa [read]⟩ .nil
  · exact forall₂_of_readItems h
  · cases h
  · cases h

theorem operands_ne_nil {key : String} {v : Value} {cs : List (Clause String)}
    (h : readList key v = .ok cs) (hnull : v ≠ .null) (hempty : v ≠ .list []) : operands v ≠ [] := by
  unfold readList at h
  split at h
  · exact absurd rfl hnull
  · exact List.cons_ne_nil _ _
  · exact fun hxs => hempty (congrArg Value.list hxs)
  · cases h
  · cases h

section

variable {spared : Value → Key → Value → Prop}

theorem forall₂_reflected_iff {xs : List Value} {cs : List (Clause String)}
    (hread : List.Forall₂ IsRead xs cs)
    (ih : ∀ x ∈ xs, ∀ c, IsRead x c → (Reflected spared x c.toValue ↔ DropsSpared spared x)) :
    List.Forall₂ (Reflected spared) xs (toValues cs) ↔ ∀ x ∈ xs, DropsSpared spared x := by
  induction hread with
  | nil => simp [toValues]
  | cons hx hxs ihxs =>
    rw [List.forall_mem_cons] at ih
    rw [toValues, List.forall₂_cons, List.forall_mem_cons, ih.1 _ hx, ihxs ih.2]

/-- The operators of a combination that has been read, and what is read under them. -/
theorem exists_of_read_bool {key : String} {m : Mapping} {c : Clause String}
    (h : read key (.map [(.str "bool", .map m)]) = .ok c) :
    ∃ must should, c = .bool must should ∧
      (∀ k ∈ Entries.keys m, k = .str "must" ∨ k = .str "should") ∧
      (∀ v, Entries.find? "must" m = some v → ∃ key, readList key v = .ok must) ∧
      ∀ v, Entries.find? "should" m = some v → ∃ key, readList key v = .ok should := by
  rw [read, readMapping, Key.written_str, ok_bind, if_neg (by simp), readBody, if_pos rfl] at h
  obtain ⟨unknown, hunknown, h⟩ := bind_eq_ok_iff.mp h
  split at h
  · next hempty =>
    rw [List.isEmpty_iff.mp hempty, Mapping.namesOutside_eq_nil_iff (by decide)] at hunknown
    obtain ⟨must, hmust, h⟩ := bind_eq_ok_iff.mp h
    obtain ⟨should, hshould, h⟩ := bind_eq_ok_iff.mp h
    obtain rfl := Except.ok.inj h
    refine ⟨must, should, rfl, fun k hk => by simpa using hunknown k hk, fun v hv => ?_, fun v hv => ?_⟩
    · rw [readListAt_eq, hv] at hmust
      exact ⟨_, hmust⟩
    · rw [readListAt_eq, hv] at hshould
      exact ⟨_, hshould⟩
  · cases h

theorem find?_clauseFields (must should : List Value) :
    let sent := (clauseField "must" must ++ clauseField "should" should).map fun f => (Key.str f.1, f.2)
    Entries.find? "must" sent = (if must.isEmpty then none else some (.list must)) ∧
      Entries.find? "should" sent = (if should.isEmpty then none else some (.list should)) := by
  cases must <;> cases should <;>
    simp [clauseField, Entries.find?_cons_self, Entries.find?_cons_of_ne, Entries.find?_nil]

/-- What is found in the body of a combination stands under one of its operators. -/
theorem operator_of_get? {m : Mapping} (operators : ∀ k ∈ Entries.keys m, k = .str "must" ∨ k = .str "should")
    {k : Key} {v : Value} (h : Entries.get? k m = some v) : k = .str "must" ∨ k = .str "should" := by
  obtain ⟨e, he, hsame, -⟩ := Entries.exists_same_of_get? h
  rw [Key.same_comm] at hsame
  rcases operators e.1 (List.mem_map_of_mem he) with hk | hk <;> rw [hk] at hsame
  · exact Or.inl (Key.eq_str_of_same hsame)
  · exact Or.inr (Key.eq_str_of_same hsame)

/-- What is read under an operator of a combination is sent under the same one, if it is anything. -/
theorem exists_sent_of_read_bool {key : String} {m : Mapping} {c : Clause String}
    (h : read key (.map [(.str "bool", .map m)]) = .ok c) :
    ∃ sent, c.toValue = .map [(.str "bool", .map sent)] ∧
      ∀ k v, Entries.get? k m = some v → ∃ key cs, readList key v = .ok cs ∧
        Entries.get? k sent = if (toValues cs).isEmpty then none else some (.list (toValues cs)) := by
  obtain ⟨must, should, rfl, hkeys, hmust, hshould⟩ := exists_of_read_bool h
  obtain ⟨hsentMust, hsentShould⟩ := find?_clauseFields (toValues must) (toValues should)
  refine ⟨_, rfl, fun k v hv => ?_⟩
  rcases operator_of_get? hkeys hv with rfl | rfl
  · obtain ⟨key, hread⟩ := hmust v hv
    exact ⟨key, must, hread, hsentMust⟩
  · obtain ⟨key, hread⟩ := hshould v hv
    exact ⟨key, should, hread, hsentShould⟩

theorem reflected_bool {key : String} {m : Mapping} {c : Clause String}
    (h : read key (.map [(.str "bool", .map m)]) = .ok c)
    (ih : ∀ k v, Entries.get? k m = some v → ∀ x ∈ operands v, ∀ c, IsRead x c →
      (Reflected spared x c.toValue ↔ DropsSpared spared x)) :
    Reflected spared (.map [(.str "bool", .map m)]) c.toValue ↔
      DropsSpared spared (.map [(.str "bool", .map m)]) := by
  obtain ⟨sent, hsent, hoperator⟩ := exists_sent_of_read_bool h
  rw [hsent, reflected_bool_iff, dropsSpared_bool_iff]
  constructor
  · rintro ⟨other, hother, found, kept⟩ k v hv x hx
    obtain rfl : sent = other := by simpa using hother
    have hcarries : Carries m k v := ⟨hv, by rintro rfl; cases hx⟩
    obtain ⟨key, cs, hread, hget⟩ := hoperator k v hv
    obtain ⟨ys, hys⟩ := found k v hcarries (by rintro rfl; cases hx)
    have hreflected := kept k v ys hcarries hys
    rw [hget] at hys
    split at hys
    · cases hys
    · obtain rfl := Value.list.inj (Option.some.inj hys)
      exact (forall₂_reflected_iff (forall₂_of_readList hread) (ih k v hv)).mp hreflected x hx
  · intro hnothing
    refine ⟨_, rfl, fun k v hcarries hempty => ?_, fun k v ys hcarries hys => ?_⟩
    · obtain ⟨key, cs, hread, hget⟩ := hoperator k v hcarries.1
      have hne := operands_ne_nil hread hcarries.2 hempty
      have hlength := (forall₂_of_readList hread).length_eq
      cases cs with
      | nil => exact absurd (List.eq_nil_of_length_eq_zero hlength) hne
      | cons c cs => exact ⟨_, by rw [hget, toValues]; rfl⟩
    · obtain ⟨key, cs, hread, hget⟩ := hoperator k v hcarries.1
      rw [hget] at hys
      split at hys
      · cases hys
      · obtain rfl := Value.list.inj (Option.some.inj hys)
        exact (forall₂_reflected_iff (forall₂_of_readList hread) (ih k v hcarries.1)).mpr
          (hnothing k v hcarries.1)

theorem find?_of_readPath {key path : String} {m : Mapping} (h : readPath key m = .ok path) :
    Entries.find? "path" m = some (.str path) := by
  unfold readPath at h
  split at h
  · next hfind =>
    split at h
    · cases h
    · obtain rfl := Except.ok.inj h
      exact find?_of_findOrNull hfind
  · cases h

/-- The path of a nested clause that has been read, and what its query is read from. -/
theorem exists_of_read_nested {key : String} {m : Mapping} {c : Clause String}
    (h : read key (.map [(.str "nested", .map m)]) = .ok c) :
    ∃ path query q, c = .nested path q ∧ Entries.find? "path" m = some (.str path) ∧
      Entries.find? "query" m = some query ∧ IsRead query q := by
  rw [read, readMapping, Key.written_str, ok_bind, if_neg (by simp), readBody, if_neg (by simp),
    if_pos rfl] at h
  obtain ⟨path, hpath, h⟩ := bind_eq_ok_iff.mp h
  obtain ⟨q, hq, h⟩ := bind_eq_ok_iff.mp h
  obtain rfl := Except.ok.inj h
  rw [readAt_eq] at hq
  split at hq
  · next query hquery => exact ⟨path, query, q, rfl, find?_of_readPath hpath, hquery, _, hq⟩
  · cases hq

theorem find?_path_query (path : String) (query : Value) :
    let sent := [("path", Value.str path), ("query", query)].map fun f => (Key.str f.1, f.2)
    Entries.find? "path" sent = some (.str path) ∧ Entries.find? "query" sent = some query :=
  ⟨rfl, rfl⟩

theorem reflected_nested {key : String} {m : Mapping} {c : Clause String}
    (h : read key (.map [(.str "nested", .map m)]) = .ok c)
    (ih : ∀ query, Entries.find? "query" m = some query → ∀ c, IsRead query c →
      (Reflected spared query c.toValue ↔ DropsSpared spared query)) :
    Reflected spared (.map [(.str "nested", .map m)]) c.toValue ↔
      DropsSpared spared (.map [(.str "nested", .map m)]) := by
  obtain ⟨path, query, q, rfl, hpath, hquery, hread⟩ := exists_of_read_nested h
  obtain ⟨sent, hsent, hsentPath, hsentQuery, hsentNames⟩ : ∃ sent,
      (Clause.nested path q).toValue = .map [(.str "nested", .map sent)] ∧
      Entries.find? "path" sent = some (.str path) ∧ Entries.find? "query" sent = some q.toValue ∧
      ∀ k v, Entries.get? k sent = some v → k = .str "path" ∨ k = .str "query" := by
    refine ⟨_, rfl, (find?_path_query path q.toValue).1, (find?_path_query path q.toValue).2, ?_⟩
    intro k v hv
    obtain ⟨f, hf, rfl⟩ := exists_field_of_get? hv
    simp only [List.mem_cons, List.not_mem_nil, or_false] at hf
    rcases hf with rfl | rfl <;> simp
  rw [hsent, reflected_nested_iff, dropsSpared_nested_iff]
  constructor
  · rintro ⟨other, w, hother, plain, inside, hreflected⟩
    obtain rfl : sent = other := by simpa using hother
    obtain rfl := Option.some.inj (hsentQuery.symm.trans inside)
    refine ⟨fun k v hcarries hspared => ?_, fun v hv => ?_⟩
    · by_cases hk : k = .str "query"
      · exact Or.inr hk
      · exact hsentNames k v (plain k v hk hcarries hspared)
    · obtain rfl := Option.some.inj (hquery.symm.trans hv)
      exact (ih query hquery q hread).mp (hreflected query ⟨hquery, hread.ne_null⟩)
  · rintro ⟨hknown, hdrops⟩
    refine ⟨sent, q.toValue, rfl, fun k v hk hcarries hspared => ?_, hsentQuery, fun v hcarries => ?_⟩
    · obtain rfl := (hknown k v hcarries hspared).resolve_right hk
      obtain rfl : v = .str path := Option.some.inj (hcarries.1.symm.trans hpath)
      exact hsentPath
    · obtain rfl := Option.some.inj (hquery.symm.trans hcarries.1)
      exact (ih query hquery q hread).mpr (hdrops query hquery)

theorem reflected_leaf {type field : String} (htype : type ∈ fieldTypes) (hfield : field ≠ "")
    {key : String} {params : Value} {c : Clause String}
    (h : read key (.map [(.str type, .map [(.str field, params)])]) = .ok c) :
    Reflected spared (.map [(.str type, .map [(.str field, params)])]) c.toValue ↔
      DropsSpared spared (.map [(.str type, .map [(.str field, params)])]) := by
  have hother : type ≠ "match_all" ∧ type ≠ "bool" ∧ type ≠ "nested" := by
    simp only [fieldTypes, List.mem_cons, List.not_mem_nil, or_false] at htype
    rcases htype with rfl | rfl | rfl | rfl <;> decide
  rw [read, readMapping, Key.written_str, ok_bind, if_neg (by simp [hother]), readBody,
    if_neg (by simp [hother]), if_neg (by simp [hother])] at h
  obtain ⟨sent, hsent, hiff⟩ := paramsReflected_iff htype hfield h
  rw [hsent, reflected_leaf_iff htype, dropsSpared_leaf_iff htype, ← hiff]
  constructor
  · rintro ⟨other, hother, hreflected⟩
    obtain rfl : sent = other := by simpa using hother
    exact hreflected
  · exact fun hreflected => ⟨sent, rfl, hreflected⟩

/-! ## All clauses -/

theorem FieldFits.mem_fieldTypes {type : String} {params : Value} (h : FieldFits type params) :
    type ∈ fieldTypes := by
  rcases fieldFits_iff.mp h with ⟨rfl, -⟩ | ⟨rfl, -⟩ | ⟨rfl, -⟩ | ⟨rfl, -⟩ <;> simp [fieldTypes]

mutual

/-- What is read from a value of the grammar has all that the value carries and that is not spared, exactly if
what reading drops is spared. -/
theorem reflected_iff : ∀ {v : Value}, Grammatical v → ∀ c, IsRead v c →
    (Reflected spared v c.toValue ↔ DropsSpared spared v)
  | _, .matchAll body, c, ⟨key, h⟩ => by
    rw [read, readMapping, Key.written_str, ok_bind, if_pos rfl] at h
    obtain rfl := Except.ok.inj h
    exact iff_of_true (reflected_matchAll_iff.mpr rfl) (dropsSpared_matchAll body)
  | _, .bool operators must should, c, ⟨key, h⟩ => by
    refine reflected_bool h fun k v hv => ?_
    rcases operator_of_get? operators hv with rfl | rfl
    · exact reflected_iff_of_mem (must v hv)
    · exact reflected_iff_of_mem (should v hv)
  | _, .nested _ _ inside clause, c, ⟨key, h⟩ => by
    refine reflected_nested h fun query hquery => ?_
    obtain rfl := Option.some.inj (inside.symm.trans hquery)
    exact reflected_iff clause
  | _, .leaf named fits, c, ⟨key, h⟩ => reflected_leaf fits.mem_fieldTypes named h

theorem reflected_iff_of_mem : ∀ {v : Value}, IsOperand v → ∀ x ∈ operands v, ∀ c, IsRead x c →
    (Reflected spared x c.toValue ↔ DropsSpared spared x)
  | _, .none, x, hx => nomatch hx
  | _, .one clause, x, hx => by
    obtain rfl := List.mem_singleton.mp hx
    exact reflected_iff clause
  | _, .list clauses, x, hx => reflected_iff (clauses x hx)

end

end

theorem grammatical_of_mem_operands {v x : Value} (h : IsOperand v) (hx : x ∈ operands v) :
    Grammatical x := by
  cases h with
  | none => cases hx
  | one clause => exact List.mem_singleton.mp hx ▸ clause
  | list clauses => exact clauses x hx

/-- The parts of a clause are clauses. -/
theorem Inside.grammatical {part v : Value} (h : Inside part v) (hv : Grammatical v) : Grammatical part := by
  induction h with
  | self => exact hv
  | operand found mem inside ih =>
    obtain ⟨operators, must, should⟩ := grammatical_bool_iff.mp hv
    rcases operator_of_get? operators found with rfl | rfl
    · exact ih (grammatical_of_mem_operands (must _ found) mem)
    · exact ih (grammatical_of_mem_operands (should _ found) mem)
  | query found inside ih =>
    obtain ⟨-, q, hq, hclause⟩ := grammatical_nested_iff.mp hv
    obtain rfl := Option.some.inj (hq.symm.trans found)
    exact ih hclause

/--
**What reading a clause loses.**

For every value that a clause is read from: all that it carries is there again in what is sent, exactly if no
part of it has a parameter that reading does not know, or a mark of a pattern that is no truth value. What
else it carries is there in any case. Operators that are not known are not among what is lost: no part that is
read has any.
-/
theorem kept_iff_nothing_dropped {key : String} {v : Value} {c : Clause String} (h : read key v = .ok c) :
    (Kept v c.toValue ↔ ∀ part k w, Inside part v → ¬Drops part k w) ∧
    Reflected Drops v c.toValue ∧
    ∀ m, Inside (.map [(.str "bool", .map m)]) v →
      ∀ k ∈ Entries.keys m, k = .str "must" ∨ k = .str "should" := by
  have hv := grammatical_of_read h
  refine ⟨reflected_iff hv c ⟨key, h⟩, ?_, fun m hinside => ?_⟩
  · exact (reflected_iff hv c ⟨key, h⟩).mpr fun _ _ _ _ hdrops => hdrops
  · exact (grammatical_bool_iff.mp (hinside.grammatical hv)).1

/-- Of a combination in a nested clause, with one clause in place of a list and a bound that is an integer, all
is kept. -/
theorem kept_iff_nothing_dropped_nested :
    let range := Value.object [("range", .object [("date", .object [("gte", .int 1981), ("lte", .null)])])]
    let query := Value.object [("bool", .object [("must", range), ("should", .list [])])]
    let v := Value.object [("nested", .object [("path", .str "persons"), ("query", query)])]
    let c := Clause.nested "persons" (.bool [.range "date" (some "1981") none none] [])
    read "extra" v = .ok c ∧ Kept v c.toValue := by
  intro range query v c
  have hread : read "extra" v = .ok c := by decide +kernel
  have hrange : DropsSpared (fun _ _ _ => False) range := by
    refine (dropsSpared_leaf_iff (by decide)).mpr (paramsDrop_spared_iff.mpr ⟨fun k w hw _ => ?_, by simp⟩)
    obtain ⟨f, hf, rfl⟩ := exists_field_of_get? hw.1
    simp only [List.mem_cons, List.not_mem_nil, or_false] at hf
    rcases hf with rfl | rfl <;> simp [parameters]
  have hquery : DropsSpared (fun _ _ _ => False) query := by
    refine dropsSpared_bool_iff.mpr fun k w hw x hx => ?_
    obtain ⟨f, hf, rfl⟩ := exists_field_of_get? hw
    simp only [List.mem_cons, List.not_mem_nil, or_false] at hf
    rcases hf with rfl | rfl
    · obtain rfl := Option.some.inj hw
      exact List.mem_singleton.mp hx ▸ hrange
    · obtain rfl := Option.some.inj hw
      cases hx
  have hnested : DropsSpared (fun _ _ _ => False) v := by
    refine dropsSpared_nested_iff.mpr ⟨fun k w hw _ => ?_, fun q hq => Option.some.inj hq ▸ hquery⟩
    obtain ⟨f, hf, rfl⟩ := exists_field_of_get? hw.1
    simp only [List.mem_cons, List.not_mem_nil, or_false] at hf
    rcases hf with rfl | rfl <;> simp
  exact ⟨hread, (kept_iff_nothing_dropped hread).1.mpr hnested⟩

/-- A range with a bound of a name that is not known is read, and sent without a bound. -/
theorem bound_dropped :
    let v := Value.object [("range", .object [("date", .object [("gt", .str "1981")])])]
    let c := Clause.range "date" none none none
    read "extra" v = .ok c ∧ c.toValue = .object [("range", .object [("date", .object [])])] ∧
      ¬Kept v c.toValue := by
  intro v c
  have hsent : c.toValue = .object [("range", .object [("date", .object [])])] := rfl
  refine ⟨rfl, hsent, fun h => ?_⟩
  rw [hsent] at h
  obtain ⟨sent, hsent, hreflected⟩ := (reflected_leaf_iff (by decide)).mp h
  obtain rfl : sent = .object [] := by simpa [Value.object] using hsent.symm
  obtain ⟨w, hw, -⟩ := hreflected.kept_of_range (.str "gt") (.str "1981") ⟨rfl, by simp⟩ id
  cases hw

end Faceted.Clause
