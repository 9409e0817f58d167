import Faceted.Proofs.Query.Expression
import Faceted.Query.Suggestion
import Faceted.Proofs.Entries
import Faceted.Proofs.Facet
import Mathlib.Data.List.Nodup

/-!
# Clauses are known by their documents

Two clauses are sent as the same document only if they are equal, whatever the order in which a document has its
entries (`documents_tell_clauses_apart`).

* `Value.same` says that two values are the same, with mappings in any order.
* What can be absent from an object is told from what is there by its name: objects with fields that may be absent
  are the same field by field (`Value.same_present_iff`). In the documents of clauses these are the bounds of a
  range and the operators of a combination, where an absent operator is one over no clauses.
* The type of a clause is the one name in its document. So two documents can only be the same if the clauses are of
  one type, and then part by part: `same_toValue_iff`, by induction on the first clause.

Bounds can be any values in a clause that a filter by hand is compiled to. `Alike` compares clauses up to a relation
of their bounds, which is equality for texts.
-/

namespace Faceted

open Entries

/-! ## The same value -/

namespace Value

mutual

/-- The two values are the same up to the order of entries and members. A truth value or a whole double is the
integer that it equals, as it is in a key. -/
def same : Value → Value → Bool
  | .scalar a, .scalar b => Key.canonicalScalar a == Key.canonicalScalar b
  | .list xs, .list ys => sameItems xs ys
  | .tuple xs, .tuple ys => sameItems xs ys
  | .map m, .map n => sameEntries m n && n.all fun e => (get? e.1 m).isSome
  | .set ks, .set ls => ks.all (fun k => ls.any k.same) && ls.all fun l => ks.any l.same
  | .years a b, .years c d => same a c && same b d
  | _, _ => false

/-- The two lists have the same items, one after the other. -/
def sameItems : List Value → List Value → Bool
  | [], [] => true
  | x :: xs, y :: ys => same x y && sameItems xs ys
  | _, _ => false

/-- Each entry is there in a mapping, with the same value. -/
def sameEntries : List (Key × Value) → Mapping → Bool
  | [], _ => true
  | (k, v) :: m, n => ((get? k n).any fun w => same v w) && sameEntries m n

end

theorem same_str {s t : String} : same (.str s) (.str t) = true ↔ s = t := by
  simp [same, Key.canonicalScalar]

theorem same_bool {a b : Bool} : same (.bool a) (.bool b) = true ↔ a = b := by
  cases a <;> cases b <;> simp [same, Key.canonicalScalar]

theorem same_list {xs ys : List Value} : same (.list xs) (.list ys) = true ↔ sameItems xs ys = true := by
  rw [same]

theorem same_strs {ss ts : List String} : same (.strs ss) (.strs ts) = true ↔ ss = ts := by
  rw [strs, strs, same_list]
  induction ss generalizing ts with
  | nil => cases ts <;> simp [sameItems]
  | cons s ss ih => cases ts <;> simp [sameItems, same_str, ih]

theorem sameEntries_iff {m n : Mapping} :
    sameEntries m n = true ↔ ∀ e ∈ m, ∃ w, get? e.1 n = some w ∧ same e.2 w = true := by
  induction m with
  | nil => simp [sameEntries]
  | cons e m ih => rw [sameEntries, Bool.and_eq_true, ih, List.forall_mem_cons, Option.any_eq_true]

/-- Two mappings are the same if each entry of the first is there in the second, and no key of the second is
missing in the first. -/
theorem same_map_iff {m n : Mapping} : same (.map m) (.map n) = true ↔
    (∀ e ∈ m, ∃ w, get? e.1 n = some w ∧ same e.2 w = true) ∧ ∀ e ∈ n, ∃ v, get? e.1 m = some v := by
  simp only [same, Bool.and_eq_true, sameEntries_iff, List.all_eq_true, Option.isSome_iff_exists]

/-- What a name finds in two mappings that are the same is the same. -/
theorem same_of_find? {m n : Mapping} (h : same (.map m) (.map n) = true) {name : String} {v w : Value}
    (hv : find? name m = some v) (hw : find? name n = some w) : same v w = true := by
  obtain ⟨found, hfound, hsame⟩ := (same_map_iff.mp h).1 _ (mem_of_find? hv)
  obtain rfl := Option.some.inj (hw.symm.trans hfound)
  exact hsame

/-! ## Objects -/

/-- The entries of an object. -/
def fieldEntries (fields : List (String × Value)) : Mapping := fields.map fun f => (.str f.1, f.2)

theorem same_object_iff {fields others : List (String × Value)} :
    same (.object fields) (.object others) = true ↔
      (∀ f ∈ fields, ∃ w, find? f.1 (fieldEntries others) = some w ∧ same f.2 w = true) ∧
        ∀ f ∈ others, ∃ v, find? f.1 (fieldEntries fields) = some v := by
  rw [object, object, same_map_iff, List.forall_mem_map, List.forall_mem_map]
  rfl

theorem same_object_nil : same (.object []) (.object []) = true := by
  simp [same_object_iff]

theorem same_object_singleton {s t : String} {v w : Value} :
    same (.object [(s, v)]) (.object [(t, w)]) = true ↔ s = t ∧ same v w = true := by
  rw [same_object_iff]
  simp only [List.forall_mem_singleton, fieldEntries, List.map_singleton, find?, get?, Key.same_str,
    decide_eq_true_eq]
  by_cases h : s = t
  · simp [h]
  · simp [h, Ne.symm h]

/-! ## Fields that may be absent -/

/-- The fields of an object that are there. -/
def present (fields : List (String × Option Value)) : List (String × Value) :=
  fields.filterMap fun f => f.2.map fun v => (f.1, v)

theorem mem_present_iff {fields : List (String × Option Value)} {name : String} {v : Value} :
    (name, v) ∈ present fields ↔ (name, some v) ∈ fields := by
  simp only [present, List.mem_filterMap, Option.map_eq_some_iff, Prod.mk.injEq, Prod.exists]
  constructor
  · rintro ⟨_, _, hmem, _, rfl, rfl, rfl⟩
    exact hmem
  · intro hmem
    exact ⟨name, some v, hmem, v, rfl, rfl, rfl⟩

/-- What a name finds among fields with different names is what its field has, if it is there. -/
theorem find?_present {fields : List (String × Option Value)} (hdistinct : (fields.map Prod.fst).Nodup)
    {name : String} {value : Option Value} (hmem : (name, value) ∈ fields) :
    find? name (fieldEntries (present fields)) = value := by
  -- there is no other field of this name
  have hof (w : Value) (hw : find? name (fieldEntries (present fields)) = some w) : value = some w := by
    obtain ⟨f, hf, heq⟩ := List.mem_map.mp (mem_of_find? hw)
    obtain ⟨rfl, rfl⟩ : f.1 = name ∧ f.2 = w := by simpa using heq
    have hsame := List.inj_on_of_nodup_map hdistinct hmem (mem_present_iff.mp hf) rfl
    exact congrArg Prod.snd hsame
  cases hfound : find? name (fieldEntries (present fields)) with
  | some w => exact (hof w hfound).symm
  | none =>
    cases value with
    | none => rfl
    | some v =>
      have hentry : (.str name, v) ∈ fieldEntries (present fields) :=
        List.mem_map.mpr ⟨(name, v), mem_present_iff.mpr hmem, rfl⟩
      exact absurd (Key.same_str_self name) (get?_eq_none_iff.mp hfound _ hentry)

/-- **Objects with fields that may be absent are the same if each field is absent from both or the same in
both.** Each field is given with what it has in the one object and in the other. -/
theorem same_present_iff {fields : List (String × Option Value × Option Value)}
    (hdistinct : (fields.map Prod.fst).Nodup) :
    same (.object (present (fields.map fun f => (f.1, f.2.1))))
        (.object (present (fields.map fun f => (f.1, f.2.2)))) = true ↔
      ∀ f ∈ fields, Option.Rel (fun v w => same v w = true) f.2.1 f.2.2 := by
  let left := fields.map fun f => (f.1, f.2.1)
  let right := fields.map fun f => (f.1, f.2.2)
  have hleft {name a b} (hf : (name, a, b) ∈ fields) : find? name (fieldEntries (present left)) = a :=
    find?_present (by rwa [List.map_map]) (List.mem_map.mpr ⟨(name, a, b), hf, rfl⟩)
  have hright {name a b} (hf : (name, a, b) ∈ fields) : find? name (fieldEntries (present right)) = b :=
    find?_present (by rwa [List.map_map]) (List.mem_map.mpr ⟨(name, a, b), hf, rfl⟩)
  have hmemLeft {name v} : (name, v) ∈ present left ↔ ∃ b, (name, some v, b) ∈ fields := by
    simp [mem_present_iff, left]
  have hmemRight {name w} : (name, w) ∈ present right ↔ ∃ a, (name, a, some w) ∈ fields := by
    simp [mem_present_iff, right]
  rw [same_object_iff]
  constructor
  · rintro ⟨hthere, hback⟩ ⟨name, a, b⟩ hf
    match a, b with
    | none, none => exact .none
    | some v, b =>
      obtain ⟨w, hw, hsame⟩ := hthere (name, v) (hmemLeft.mpr ⟨b, hf⟩)
      obtain rfl := (hright hf).symm.trans hw
      exact .some hsame
    | none, some w =>
      -- the first object would have to have the field as well
      obtain ⟨v, hv⟩ := hback (name, w) (hmemRight.mpr ⟨none, hf⟩)
      cases (hleft hf).symm.trans hv
  · intro h
    constructor
    · rintro ⟨name, v⟩ hv
      obtain ⟨b, hf⟩ := hmemLeft.mp hv
      obtain ⟨w, rfl, hsame⟩ : ∃ w, b = some w ∧ same v w = true := by
        cases h _ hf with
        | some hsame => exact ⟨_, rfl, hsame⟩
      exact ⟨w, hright hf, hsame⟩
    · rintro ⟨name, w⟩ hw
      obtain ⟨a, hf⟩ := hmemRight.mp hw
      obtain ⟨v, rfl⟩ : ∃ v, a = some v := by
        cases h _ hf with
        | some => exact ⟨_, rfl⟩
      exact ⟨v, hleft hf⟩

theorem same_object_pair {s t : String} (hne : s ≠ t) {v v' w w' : Value} :
    same (.object [(s, v), (t, w)]) (.object [(s, v'), (t, w')]) = true ↔
      same v v' = true ∧ same w w' = true := by
  have hfields := @same_present_iff [(s, some v, some v'), (t, some w, some w')] (by simpa using hne)
  simpa [present] using hfields

theorem rel_eq_iff {α : Type} {a b : Option α} : Option.Rel Eq a b ↔ a = b := by
  cases a <;> cases b <;> simp [Option.rel_none_none, Option.rel_some_some]

theorem rel_map_iff {α β : Type} {r : β → β → Prop} {f : α → β} {a b : Option α} :
    Option.Rel r (a.map f) (b.map f) ↔ Option.Rel (fun x y => r (f x) (f y)) a b := by
  cases a <;> cases b <;> simp [Option.rel_none_none, Option.rel_some_some]

end Value

namespace Clause

open Value

variable {Bound : Type}

/-! ## Clauses up to their bounds -/

mutual

/-- The two clauses are the same up to their bounds, which are in a relation. -/
def Alike (r : Bound → Bound → Prop) : Clause Bound → Clause Bound → Prop
  | .matchAll, .matchAll => True
  | .bool must should, .bool must' should' => AllAlike r must must' ∧ AllAlike r should should'
  | .nested path query, .nested path' query' => path = path' ∧ Alike r query query'
  | .range field gte lte format, .range field' gte' lte' format' =>
    field = field' ∧ Option.Rel r gte gte' ∧ Option.Rel r lte lte' ∧ format = format'
  | .wildcard field value insensitive, .wildcard field' value' insensitive' =>
    field = field' ∧ value = value' ∧ insensitive = insensitive'
  | .terms field values, .terms field' values' => field = field' ∧ values = values'
  | .term field value, .term field' value' => field = field' ∧ value = value'
  | .simpleQueryString query fields, .simpleQueryString query' fields' => query = query' ∧ fields = fields'
  | _, _ => False

/-- The clauses of the two lists are the same up to their bounds, one after the other. -/
def AllAlike (r : Bound → Bound → Prop) : List (Clause Bound) → List (Clause Bound) → Prop
  | [], [] => True
  | c :: cs, d :: ds => Alike r c d ∧ AllAlike r cs ds
  | _, _ => False

end

mutual

/-- Clauses that are the same with equal bounds are equal. -/
theorem alike_eq_iff : ∀ c d : Clause Bound, Alike Eq c d ↔ c = d
  | .bool must should, d => by
    cases d <;> simp [Alike, allAlike_eq_iff must, allAlike_eq_iff should]
  | .nested path query, d => by cases d <;> simp [Alike, alike_eq_iff query]
  | .range .., d => by cases d <;> simp [Alike, rel_eq_iff]
  | .matchAll, d | .wildcard .., d | .terms .., d | .term .., d | .simpleQueryString .., d => by
    cases d <;> simp [Alike]

theorem allAlike_eq_iff : ∀ cs ds : List (Clause Bound), AllAlike Eq cs ds ↔ cs = ds
  | [], ds => by cases ds <;> simp [AllAlike]
  | c :: cs, ds => by cases ds <;> simp [AllAlike, alike_eq_iff c, allAlike_eq_iff cs]

end

/-! ## From documents to clauses -/

/-- The list under an operator, which is absent if there is nothing in it. -/
def listed (documents : List Value) : Option Value :=
  if documents.isEmpty then none else some (.list documents)

theorem rel_listed_iff {xs ys : List Value} :
    Option.Rel (fun v w => same v w = true) (listed xs) (listed ys) ↔ sameItems xs ys = true := by
  cases xs with
  | nil => cases ys <;> simp [listed, sameItems, Option.rel_none_none]
  | cons x xs => cases ys <;> simp [listed, sameItems, same_list, Option.rel_some_some]

theorem clauseFields_eq (must should : List Value) :
    clauseField "must" must ++ clauseField "should" should
      = present [("must", listed must), ("should", listed should)] := by
  cases must <;> cases should <;> rfl

/-- An operator that is absent is one over no clauses. -/
theorem same_operators_iff {must should must' should' : List Value} :
    same (.object (clauseField "must" must ++ clauseField "should" should))
        (.object (clauseField "must" must' ++ clauseField "should" should')) = true ↔
      sameItems must must' = true ∧ sameItems should should' = true := by
  have hfields := @same_present_iff
    [("must", listed must, listed must'), ("should", listed should, listed should')] (by simp)
  simpa [clauseFields_eq, rel_listed_iff] using hfields

variable [SentAs Bound]

/-- The two bounds are sent as the same value. -/
def SentSame (a b : Bound) : Prop := same (SentAs.sent a) (SentAs.sent b) = true

theorem same_bounds_iff {gte lte gte' lte' : Option Bound} {format format' : Option String} :
    same (.object (presentBounds gte lte format)) (.object (presentBounds gte' lte' format')) = true ↔
      Option.Rel SentSame gte gte' ∧ Option.Rel SentSame lte lte' ∧ format = format' := by
  have hfields := @same_present_iff [("gte", gte.map SentAs.sent, gte'.map SentAs.sent),
    ("lte", lte.map SentAs.sent, lte'.map SentAs.sent), ("format", format.map .str, format'.map .str)]
    (by simp)
  refine hfields.trans ?_
  rw [List.forall_mem_cons, List.forall_mem_cons, List.forall_mem_singleton]
  simp only [rel_map_iff, same_str, rel_eq_iff]
  exact Iff.rfl

mutual

/-- **The documents of two clauses are the same exactly if the clauses are**, up to bounds that are sent as the
same value. -/
theorem same_toValue_iff : ∀ c d : Clause Bound, same c.toValue d.toValue = true ↔ Alike SentSame c d
  -- clauses of different types differ in the one name of their documents
  | .matchAll, d => by
    cases d <;> simp [toValue, Alike, same_object_singleton, same_object_nil]
  | .bool must should, d => by
    cases d <;> simp [toValue, Alike, same_object_singleton, same_operators_iff,
      sameItems_toValues_iff must, sameItems_toValues_iff should]
  | .nested path query, d => by
    cases d <;> simp [toValue, Alike, same_object_singleton, same_object_pair, same_str,
      same_toValue_iff query]
  | .range .., d => by
    cases d <;> simp [toValue, Alike, same_object_singleton, same_bounds_iff]
  | .wildcard .., d => by
    cases d <;> simp [toValue, Alike, same_object_singleton, same_object_pair, same_str, same_bool]
  | .terms .., d | .term .., d => by
    cases d <;> simp [toValue, Alike, same_object_singleton, same_str, same_strs]
  | .simpleQueryString .., d => by
    cases d <;> simp [toValue, Alike, same_object_singleton, same_object_pair, same_str, same_strs]

theorem sameItems_toValues_iff : ∀ cs ds : List (Clause Bound),
    sameItems (toValues cs) (toValues ds) = true ↔ AllAlike SentSame cs ds
  | [], ds => by cases ds <;> simp [toValues, AllAlike, sameItems]
  | c :: cs, ds => by
    cases ds <;> simp [toValues, AllAlike, sameItems, same_toValue_iff c, sameItems_toValues_iff cs]

end

/-! ## From bodies to queries -/

/-- A compiled query is sent in a body: that of a page, of an export or of suggestions. -/
inductive SentIn : Clause Value → Value → Prop
  | page {compiler : Compiler} {context : SearchContext} {start size : Int} {query : Clause Value}
    {body : Value} (compiled : compiler.compile context.filters none = .ok query)
    (built : context.searchBody compiler start size = .ok body) : SentIn query body
  | exported {compiler : Compiler} {context : SearchContext} {query : Clause Value} {body : Value}
    (compiled : compiler.compile context.filters none = .ok query)
    (built : context.exportBody compiler = .ok body) : SentIn query body
  | suggestions {compiler : Compiler} {state : FilterState} {facet : FieldSpec} {typed : Option String}
    {limit : Int} {query : Clause Value} {body : Value}
    (compiled : compiler.compile (Suggestion.otherFilters state facet) (Suggestion.override? facet typed)
      = .ok query)
    (built : Suggestion.body compiler state facet typed limit = .ok body) : SentIn query body

/-- Every body is a mapping with the document of its query. -/
theorem SentIn.find?_query {query : Clause Value} {body : Value} (h : SentIn query body) :
    ∃ m, body = .map m ∧ find? "query" m = some query.toValue := by
  cases h with
  | page compiled built =>
    obtain ⟨_, sort, hquery, -, rfl⟩ := SearchContext.searchBody_eq_ok_iff.mp built
    obtain rfl := Except.ok.inj (compiled.symm.trans hquery)
    exact ⟨_, rfl, rfl⟩
  | exported compiled built =>
    obtain ⟨_, sort, hquery, -, rfl⟩ := SearchContext.exportBody_eq_ok_iff.mp built
    obtain rfl := Except.ok.inj (compiled.symm.trans hquery)
    exact ⟨_, rfl, rfl⟩
  | suggestions compiled built =>
    rw [Suggestion.body, compiled] at built
    obtain rfl := Except.ok.inj built
    exact ⟨_, rfl, rfl⟩

/-- A filter by years with a lower bound alone is sent as the range from this bound on. -/
theorem sentIn_lowerBound {field : String} (hfield : '.' ∉ field.toList) {bound : Value}
    (hbound : bound ≠ .null) :
    let query : Clause Value := .range field (some bound) none (some Compiler.yearFormat)
    SentIn query (.object [("query", query.toValue)]) := by
  intro query
  let spec : FieldSpec := ⟨field, .dates, .countDescending, none, none⟩
  let state : FilterState := [(.str field, ⟨spec, .dates, .years bound .null⟩)]
  have hthere : Compiler.bound? bound = some bound := by
    unfold Compiler.bound?
    split
    · exact absurd rfl hbound
    · rfl
  have hscope : Compiler.inScope field
      (.range field (Compiler.bound? bound) none (some Compiler.yearFormat)) = query := by
    rw [Compiler.inScope, nestedPath_eq_none hfield, hthere]
  have hcompiled : Compiler.compile ⟨⟨[]⟩, []⟩ state none = .ok query := by
    rw [← hscope]
    simp only [state, spec]
    rfl
  refine @SentIn.exported ⟨⟨[]⟩, []⟩ ⟨state, none, none⟩ _ _ hcompiled ?_
  rw [SearchContext.exportBody, hcompiled]
  rfl

/--
**Different clauses are never sent as the same document.**

* The documents of two clauses are the same, in any order of their entries, exactly if the clauses are equal.
* In a compiled query the bounds can be any values, since a filter that is made by hand may hold any. The
  documents are the same exactly if the clauses are equal up to bounds that are the same values.
* So requests with the same body, be it for a page, an export or suggestions, are requests with the same query.
-/
theorem documents_tell_clauses_apart :
    (∀ c d : Clause String, same c.toValue d.toValue = true ↔ c = d) ∧
    (∀ c d : Clause Value, same c.toValue d.toValue = true ↔ Alike (fun a b => same a b = true) c d) ∧
    ∀ (c d : Clause Value) (body other : Value), SentIn c body → SentIn d other → same body other = true →
      Alike (fun a b => same a b = true) c d := by
  have hvalues (c d : Clause Value) := same_toValue_iff c d
  refine ⟨fun c d => ?_, hvalues, ?_⟩
  · have hsent : SentSame = @Eq String := by
      funext s t
      exact propext same_str
    rw [same_toValue_iff, hsent, alike_eq_iff]
  · intro c d body other hc hd hsame
    obtain ⟨m, rfl, hm⟩ := hc.find?_query
    obtain ⟨n, rfl, hn⟩ := hd.find?_query
    exact (hvalues c d).mp (same_of_find? hsame hm hn)

/-- A bound that is one and a bound that is true are the same value, and are sent in the same body. A lower bound
is not sent as an upper one. -/
theorem documents_tell_clauses_apart_number :
    let query (bound : Value) : Clause Value := .range "date" (some bound) none (some "yyyy")
    let body (bound : Value) : Value := .object [("query", (query bound).toValue)]
    SentIn (query (.int 1)) (body (.int 1)) ∧ SentIn (query (.bool true)) (body (.bool true)) ∧
      same (body (.int 1)) (body (.bool true)) = true ∧
      Alike (fun a b => same a b = true) (query (.int 1)) (query (.bool true)) ∧
      same (toValue (range "date" (some "1981") none none : Clause String))
        (toValue (range "date" none (some "1981") none : Clause String)) = false := by
  intro query body
  obtain ⟨htexts, -, hbodies⟩ := documents_tell_clauses_apart
  have hnumber : SentIn (query (.int 1)) (body (.int 1)) := sentIn_lowerBound (by decide) (by simp)
  have htruth : SentIn (query (.bool true)) (body (.bool true)) := sentIn_lowerBound (by decide) (by simp)
  have hsame : same (body (.int 1)) (body (.bool true)) = true := by decide +kernel
  refine ⟨hnumber, htruth, hsame, hbodies _ _ _ _ hnumber htruth hsame, ?_⟩
  rw [← Bool.not_eq_true, htexts]
  simp

end Clause

end Faceted
