import Faceted.Proofs.Json
import Faceted.Proofs.Query.Scope

/-!
# Documents of compiled queries

What a filter state is sent as, if each filter in it fits its facet. The document holds plain values only
(`Value.IsPlain`). It is put together from the documents of the extra clauses that go with the filters,
and besides them from leaves, nested clauses, and combinations with exactly one operator over at least one
clause (`Composed`). The documents of the extra clauses are counted off in order, so that each combination
in the document is either one of the compiler's own or belongs to one of them.

The proof follows the compiler: one lemma for each of its steps says what it makes of a clause that is
sent like this (`Sent`), up to the clause of a filter state (`sent_compile`).
-/

namespace Faceted

open Value

namespace Clause

/-! ## Composed documents -/

/-- The types of clauses without clauses in them. -/
def leafTypes : List String :=
  ["match_all", "range", "wildcard", "terms", "term", "simple_query_string"]

mutual

/-- The document of a clause is put together from given documents, which it has in this order. Each
combination that is not inside of a given one has exactly one operator, with at least one clause. -/
inductive Composed : Value → List Value → Prop
  | given (document : Value) : Composed document [document]
  | leaf {type : String} {body : Value} (known : type ∈ leafTypes) : Composed (.object [(type, body)]) []
  | nested {path : String} {query : Value} {given : List Value} (inside : Composed query given) :
    Composed (.object [("nested", .object [("path", .str path), ("query", query)])]) given
  | bool {operator : String} {documents given : List Value}
    (known : operator = "must" ∨ operator = "should") (nonempty : documents ≠ [])
    (parts : AllComposed documents given) :
    Composed (.object [("bool", .object [(operator, .list documents)])]) given

/-- The documents are put together from given ones, one document after the other. -/
inductive AllComposed : List Value → List Value → Prop
  | nil : AllComposed [] []
  | cons {document : Value} {documents first rest : List Value} (head : Composed document first)
    (tail : AllComposed documents rest) : AllComposed (document :: documents) (first ++ rest)

end

/-- Given documents are put together from themselves. -/
theorem allComposed_self (ds : List Value) : AllComposed ds ds := by
  induction ds with
  | nil => exact .nil
  | cons d ds ih => exact .cons (.given d) ih

theorem AllComposed.singleton {d : Value} {given : List Value} (h : Composed d given) :
    AllComposed [d] given := by
  simpa using AllComposed.cons h .nil

theorem AllComposed.append {ds es given more : List Value} (hd : AllComposed ds given)
    (he : AllComposed es more) : AllComposed (ds ++ es) (given ++ more) := by
  induction ds generalizing given with
  | nil =>
    cases hd
    exact he
  | cons d ds ih =>
    cases hd with
    | cons head tail =>
      rw [List.append_assoc]
      exact .cons head (ih tail)

/-! ## What is sent -/

/-- The clause is sent as a plain document that is put together from the given ones. -/
structure Sent (given : List Value) (c : Clause Value) : Prop where
  plain : (toValue c).IsPlain
  composed : Composed (toValue c) given

/-- The clauses are sent as plain documents that are put together from the given ones. -/
structure AllSent (given : List Value) (cs : List (Clause Value)) : Prop where
  plain : ∀ d ∈ toValues cs, d.IsPlain
  composed : AllComposed (toValues cs) given

variable {given more : List Value} {c : Clause Value} {cs ds : List (Clause Value)}

theorem AllSent.nil : AllSent [] [] := ⟨List.forall_mem_nil _, .nil⟩

theorem AllSent.cons (hc : Sent given c) (hcs : AllSent more cs) : AllSent (given ++ more) (c :: cs) := by
  refine ⟨?_, ?_⟩
  · rw [toValues]
    exact List.forall_mem_cons.mpr ⟨hc.plain, hcs.plain⟩
  · rw [toValues]
    exact .cons hc.composed hcs.composed

theorem AllSent.singleton (hc : Sent given c) : AllSent given [c] := by
  simpa using AllSent.cons hc .nil

theorem toValues_append (cs ds : List (Clause Value)) :
    toValues (cs ++ ds) = toValues cs ++ toValues ds := by
  induction cs with
  | nil => rfl
  | cons c cs ih => rw [List.cons_append, toValues, toValues, ih, List.cons_append]

theorem AllSent.append (hcs : AllSent given cs) (hds : AllSent more ds) :
    AllSent (given ++ more) (cs ++ ds) := by
  refine ⟨?_, ?_⟩
  · rw [toValues_append, List.forall_mem_append]
    exact ⟨hcs.plain, hds.plain⟩
  · rw [toValues_append]
    exact hcs.composed.append hds.composed

/-- A clause whose bounds are texts is sent as the same document when these are values. -/
theorem toValue_mapBounds_str (c : Clause String) : toValue (c.mapBounds Value.str) = toValue c := by
  have hsent : ∀ s : String, SentAs.sent (Value.str s) = SentAs.sent s := fun _ => rfl
  exact toValue_mapBounds hsent c

theorem isPlain_mapBounds (c : Clause String) : (toValue (c.mapBounds Value.str)).IsPlain := by
  rw [toValue_mapBounds_str]
  exact isPlain_toValue .str c

theorem clauseField_of_ne_nil (name : String) (hne : cs ≠ []) :
    clauseField name (toValues cs) = [(name, .list (toValues cs))] := by
  cases cs with
  | nil => exact absurd rfl hne
  | cons c cs => rfl

theorem toValues_ne_nil (hne : cs ≠ []) : toValues cs ≠ [] := by
  cases cs with
  | nil => exact absurd rfl hne
  | cons c cs => exact List.cons_ne_nil _ _

/-- A combination that is sent with one operator alone, over at least one clause. -/
theorem AllSent.bool {operator : String} (known : operator = "must" ∨ operator = "should")
    (hcs : AllSent given cs) (hne : cs ≠ [])
    (hdoc : toValue c = .object [("bool", .object [(operator, .list (toValues cs))])]) : Sent given c := by
  refine ⟨?_, ?_⟩
  · rw [hdoc]
    exact isPlain_field (isPlain_field (.list hcs.plain))
  · rw [hdoc]
    exact .bool known (toValues_ne_nil hne) hcs.composed

theorem AllSent.must (hcs : AllSent given cs) (hne : cs ≠ []) : Sent given (.bool cs []) := by
  refine hcs.bool (Or.inl rfl) hne ?_
  rw [toValue, clauseField_of_ne_nil _ hne]
  rfl

theorem AllSent.should (hcs : AllSent given cs) (hne : cs ≠ []) : Sent given (.bool [] cs) := by
  refine hcs.bool (Or.inr rfl) hne ?_
  rw [toValue, clauseField_of_ne_nil _ hne]
  rfl

theorem Sent.nested (hc : Sent given c) (path : String) : Sent given (.nested path c) := by
  refine ⟨?_, .nested hc.composed⟩
  rw [toValue]
  refine isPlain_field (isPlain_object ?_)
  simp only [List.forall_mem_cons]
  exact ⟨.str path, hc.plain, List.forall_mem_nil _⟩

end Clause

/-! ## The extra clauses of entries -/

/-- The document of the extra clause that goes with an entry. An entry that selects nothing goes without
it. -/
def FilterEntry.extraDocuments (entry : FilterEntry) : List Value :=
  match entry.selection? with
  | none => []
  | some selection => if selection.isNothing then [] else entry.spec.extra.toList.map Clause.toValue

theorem FilterEntry.extraDocuments_of_selects {entry : FilterEntry} {selection : Selection}
    (hs : entry.Selects selection) :
    entry.extraDocuments =
      if selection.isNothing then [] else entry.spec.extra.toList.map Clause.toValue := by
  rw [extraDocuments, Compiler.selection?_eq_some_iff.mpr hs]

/-- What an entry that fits selects: terms, bounds that are texts, or free text. -/
theorem FilterEntry.Fits.selection_cases {entry : FilterEntry} (hfits : entry.Fits) {selection : Selection}
    (hs : entry.Selects selection) :
    (∃ values, selection = .terms values) ∨
    (∃ range : DateRange, selection = .dates (.ofOption range.min) (.ofOption range.max)) ∨
    ∃ text, selection = .text text := by
  have hselection := Compiler.selection?_eq_some_iff.mpr hs
  cases hfits with
  | @terms spec _ values =>
    have hterms := Compiler.selection?_eq_some_iff.mpr (.tuple spec values)
    exact Or.inl ⟨values, Option.some.inj (hselection.symm.trans hterms)⟩
  | dates _ range => exact Or.inr (Or.inl ⟨range, (Option.some.inj hselection).symm⟩)
  | query _ text => exact Or.inr (Or.inr ⟨text, (Option.some.inj hselection).symm⟩)

namespace Compiler

open Clause

variable {compiler : Compiler}

/-! ## The steps of the compiler -/

theorem sent_termClause (field value : String) : (termClause field value).Sent [] := by
  unfold termClause
  split
  · exact ⟨isPlain_mapBounds (.wildcard ..), .leaf (by simp [leafTypes])⟩
  · exact ⟨isPlain_mapBounds (.terms ..), .leaf (by simp [leafTypes])⟩

theorem allSent_termClauses (field : String) (values : List String) :
    AllSent [] (values.map (termClause field)) := by
  induction values with
  | nil => exact .nil
  | cons value values ih => exact .cons (sent_termClause field value) ih

theorem bound?_ofOption (bound : Option String) : bound? (.ofOption bound) = bound.map .str := by
  cases bound <;> rfl

theorem sent_baseClause {entry : FilterEntry} (hfits : entry.Fits) {selection : Selection}
    (hs : entry.Selects selection) {field : String} {base : Clause Value}
    (h : compiler.baseClause field selection = some base) : base.Sent [] := by
  rcases hfits.selection_cases hs with ⟨values, rfl⟩ | ⟨range, rfl⟩ | ⟨text, rfl⟩
  · cases values with
    | nil => cases h
    | cons value values =>
      obtain rfl := Option.some.inj h
      exact (allSent_termClauses field (value :: values)).should (List.cons_ne_nil _ _)
  · obtain rfl := Option.some.inj h
    rw [bound?_ofOption, bound?_ofOption]
    exact ⟨isPlain_mapBounds (.range ..), .leaf (by simp [leafTypes])⟩
  · obtain rfl := Option.some.inj h
    exact ⟨isPlain_mapBounds (.simpleQueryString ..), .leaf (by simp [leafTypes])⟩

theorem sent_withExtra {query : Clause Value} (hq : query.Sent []) (extra : Option (Clause String)) :
    (withExtra extra query).Sent (extra.toList.map toValue) := by
  cases extra with
  | none => exact hq
  | some extra =>
    have hextra : Sent [toValue extra] (extra.mapBounds Value.str) := by
      refine ⟨isPlain_mapBounds extra, ?_⟩
      rw [toValue_mapBounds_str]
      exact .given _
    exact (AllSent.cons hq (.singleton hextra)).must (List.cons_ne_nil _ _)

theorem sent_inScope {given : List Value} {query : Clause Value} (hq : query.Sent given) (field : String) :
    (inScope field query).Sent given := by
  unfold inScope
  split
  · exact hq.nested _
  · exact hq

/-- The clause of an entry that fits is put together from that of its extra clause. -/
theorem allSent_compileOne {entry : FilterEntry} (hfits : entry.Fits) {clause : Option (Clause Value)}
    (h : compiler.compileOne entry.spec.field entry = .ok clause) :
    AllSent entry.extraDocuments clause.toList := by
  obtain ⟨selection, -, hs, rfl⟩ := compileOne_eq_ok_iff.mp h
  rw [FilterEntry.extraDocuments_of_selects hs]
  cases hb : compiler.baseClause entry.spec.field selection with
  | none =>
    obtain rfl := baseClause_eq_none_iff.mp hb
    exact .nil
  | some base =>
    have hsome : ¬selection.isNothing := by
      intro hnothing
      rw [baseClause_eq_none_iff.mpr (Selection.isNothing_iff.mp hnothing)] at hb
      cases hb
    rw [if_neg hsome]
    exact .singleton (sent_inScope (sent_withExtra (sent_baseClause hfits hs hb) _) _)

theorem allSent_compileEach : ∀ {entries : List FilterEntry} {clauses : List (Clause Value)},
    (∀ e ∈ entries, e.Fits) → compiler.compileEach entries = .ok clauses →
      AllSent (entries.flatMap FilterEntry.extraDocuments) clauses
  | [], clauses, _, h => by
    obtain rfl := Except.ok.inj h
    exact .nil
  | entry :: entries, clauses, hfits, h => by
    obtain ⟨hentry, hrest⟩ := List.forall_mem_cons.mp hfits
    obtain ⟨clause, hc, h⟩ := bind_eq_ok_iff.mp h
    obtain ⟨rest, hr, h⟩ := bind_eq_ok_iff.mp h
    obtain rfl := Except.ok.inj h
    exact (allSent_compileOne hentry hc).append (allSent_compileEach hrest hr)

theorem sent_conjunction {given : List Value} {clauses : List (Clause Value)} (h : AllSent given clauses) :
    (conjunction clauses).Sent given := by
  match clauses with
  | [] =>
    cases h.composed
    exact ⟨isPlain_mapBounds .matchAll, .leaf (by simp [leafTypes])⟩
  | [clause] =>
    obtain ⟨hplain, hcomposed⟩ := h
    cases hcomposed with
    | cons head tail =>
      cases tail
      rw [List.append_nil]
      exact ⟨hplain _ (List.mem_singleton.mpr rfl), head⟩
  | first :: second :: clauses => exact h.must (List.cons_ne_nil _ _)

/-- **What fits compiles to a plain document** that is put together from the documents of the extra
clauses of the entries that count. -/
theorem sent_compile {state : FilterState} {override : Option FilterEntry} {query : Clause Value}
    (hfits : ∀ e ∈ effective state override, e.Fits) (h : compiler.compile state override = .ok query) :
    query.Sent ((effective state override).flatMap FilterEntry.extraDocuments) := by
  obtain ⟨clauses, hc, rfl⟩ := map_eq_ok_iff.mp h
  exact sent_conjunction (allSent_compileEach hfits hc)

end Compiler

end Faceted
