import Faceted.Proofs.Clause.Grammar

/-!
# Marks of patterns

A pattern among parameters may have a mark that the case of letters does not matter. `Marking` leads to the
patterns in the document of a clause, to any depth, and gives one of them another mark.

No value is wrong as a mark (`grammatical_of_marking`), and each one is read as the truth value that it counts
as (`read_marking`).
-/

namespace Faceted.Clause

open Number

/-- The function puts a mark at a pattern in the document of a clause. -/
inductive Marking : Value → (Value → Value) → Prop
  | pattern {field : String} {params : Mapping} :
    Marking (.map [(.str "wildcard", .map [(.str field, .map params)])]) fun w =>
      .map [(.str "wildcard", .map [(.str field, .map (Entries.put (.str "case_insensitive") w params))])]
  | one {body m : Mapping} {name : String} {mark : Value → Value} (operator : name ∈ ["must", "should"])
    (found : Entries.find? name body = some (.map m)) (inside : Marking (.map m) mark) :
    Marking (.map [(.str "bool", .map body)]) fun w =>
      .map [(.str "bool", .map (Entries.put (.str name) (mark w) body))]
  | item {body : Mapping} {name : String} {xs : List Value} {index : Nat} {x : Value} {mark : Value → Value}
    (operator : name ∈ ["must", "should"]) (found : Entries.find? name body = some (.list xs))
    (at_index : xs[index]? = some x) (inside : Marking x mark) :
    Marking (.map [(.str "bool", .map body)]) fun w =>
      .map [(.str "bool", .map (Entries.put (.str name) (.list (xs.set index (mark w))) body))]
  | query {body : Mapping} {v : Value} {mark : Value → Value} (found : Entries.find? "query" body = some v)
    (inside : Marking v mark) :
    Marking (.map [(.str "nested", .map body)]) fun w =>
      .map [(.str "nested", .map (Entries.put (.str "query") (mark w) body))]

theorem Marking.exists_map {v : Value} {mark : Value → Value} (h : Marking v mark) :
    (∃ m, v = .map m) ∧ ∀ w, ∃ m, mark w = .map m := by
  cases h <;> exact ⟨⟨_, rfl⟩, fun w => ⟨_, rfl⟩⟩

/-! ## What is accepted -/

theorem isOperand_of_find? {body : Mapping} (h : Grammatical (.map [(.str "bool", .map body)]))
    {name : String} (hname : name ∈ ["must", "should"]) {v : Value} (hv : Entries.find? name body = some v) :
    IsOperand v := by
  obtain ⟨-, hmust, hshould⟩ := grammatical_bool_iff.mp h
  simp only [List.mem_cons, List.not_mem_nil, or_false] at hname
  rcases hname with rfl | rfl
  · exact hmust v hv
  · exact hshould v hv

theorem grammatical_bool_put {body : Mapping} (h : Grammatical (.map [(.str "bool", .map body)]))
    {name : String} (hname : name ∈ ["must", "should"]) {v : Value} (hv : IsOperand v) :
    Grammatical (.map [(.str "bool", .map (Entries.put (.str name) v body))]) := by
  obtain ⟨operators, -⟩ := grammatical_bool_iff.mp h
  have hoperand (other : String) (hother : other ∈ ["must", "should"]) (u : Value)
      (hu : Entries.find? other (Entries.put (.str name) v body) = some u) : IsOperand u := by
    rw [Entries.find?_put] at hu
    split at hu
    · exact Option.some.inj hu ▸ hv
    · exact isOperand_of_find? h hother hu
  refine grammatical_bool_iff.mpr ⟨fun k hk => ?_, hoperand "must" (by simp), hoperand "should" (by simp)⟩
  rcases Entries.mem_keys_put hk with rfl | hk
  · simpa using hname
  · exact operators k hk

/-- **Every value is accepted as a mark.** -/
theorem grammatical_of_marking {v : Value} {mark : Value → Value} (h : Marking v mark) (w : Value)
    (hv : Grammatical v) : Grammatical (mark w) := by
  induction h with
  | @pattern field params =>
    rw [grammatical_map_iff (by simp)] at hv ⊢
    simp only [Key.scalar.injEq, Scalar.str.injEq, String.reduceEq, false_and, false_or] at hv ⊢
    obtain ⟨name, field', params', rfl, hparams, named, fits⟩ := hv
    obtain ⟨rfl, rfl⟩ : field = field' ∧ .map params = params' := by simpa using hparams
    refine ⟨_, _, _, rfl, rfl, named, .wildcard ?_⟩
    have htext : HasText (.map params) := by simpa [fieldFits_iff] using fits
    cases htext with
    | among value => exact .among (by rw [Entries.find?_put, if_neg (by decide), value])
  | one operator found inside ih =>
    have hone := isOperand_map_iff.mp (isOperand_of_find? hv operator found)
    obtain ⟨m', hm'⟩ := inside.exists_map.2 w
    have hmarked := ih hone
    rw [hm'] at hmarked
    refine grammatical_bool_put hv operator ?_
    rw [hm']
    exact .one hmarked
  | item operator found at_index inside ih =>
    have hitems := isOperand_list_iff.mp (isOperand_of_find? hv operator found)
    refine grammatical_bool_put hv operator (.list fun y hy => ?_)
    rcases List.mem_or_eq_of_mem_set hy with hy | rfl
    · exact hitems y hy
    · exact ih (hitems _ (List.mem_of_getElem? at_index))
  | query found inside ih =>
    obtain ⟨⟨path, located, named⟩, v, hfound, hclause⟩ := grammatical_nested_iff.mp hv
    obtain rfl := Option.some.inj (found.symm.trans hfound)
    refine grammatical_nested_iff.mpr ⟨⟨path, ?_, named⟩, _, ?_, ih hclause⟩
    · rw [Entries.find?_put, if_neg (by decide), located]
    · rw [Entries.find?_put, if_pos rfl]

/-! ## What is read -/

/-- The keys of entries do not depend on the values that are put there. -/
theorem keys_put_congr {α : Type} (k : Key) (v w : α) (es : Entries α) :
    Entries.keys (Entries.put k v es) = Entries.keys (Entries.put k w es) := by
  induction es with
  | nil => rfl
  | cons e es ih =>
    rw [Entries.put, Entries.put]
    split
    · rfl
    · exact congrArg (e.1 :: ·) ih

theorem readListAt_put_congr {name : String} {v w : Value} (h : ∀ key, readList key v = readList key w)
    (other key : String) (body : Mapping) :
    readListAt other key (Entries.put (.str name) v body) =
      readListAt other key (Entries.put (.str name) w body) := by
  rw [readListAt_eq, readListAt_eq, Entries.find?_put, Entries.find?_put]
  by_cases hname : other = name
  · rw [if_pos hname, if_pos hname]
    exact h key
  · rw [if_neg hname, if_neg hname]

/-- Operands that are read alike make combinations that are read alike. -/
theorem read_bool_put_congr {name : String} {v w : Value} (h : ∀ key, readList key v = readList key w)
    (key : String) (body : Mapping) :
    read key (.map [(.str "bool", .map (Entries.put (.str name) v body))]) =
      read key (.map [(.str "bool", .map (Entries.put (.str name) w body))]) := by
  simp only [read, readMapping, readBody, if_true, Mapping.namesOutside, keys_put_congr (.str name) v w,
    readListAt_put_congr h]

theorem readItems_set_congr {v w : Value} (h : ∀ key, read key v = read key w) (key : String)
    (xs : List Value) (index start : Nat) :
    readItems key start (xs.set index v) = readItems key start (xs.set index w) := by
  induction xs generalizing index start with
  | nil => rfl
  | cons x xs ih =>
    cases index with
    | zero => rw [List.set_cons_zero, List.set_cons_zero, readItems, readItems, h]
    | succ index => rw [List.set_cons_succ, List.set_cons_succ, readItems, readItems, ih]

/-- Queries that are read alike make nested clauses that are read alike. -/
theorem read_nested_put_congr {v w : Value} (h : ∀ key, read key v = read key w) (key : String)
    (body : Mapping) :
    read key (.map [(.str "nested", .map (Entries.put (.str "query") v body))]) =
      read key (.map [(.str "nested", .map (Entries.put (.str "query") w body))]) := by
  have hpath (u : Value) (key : String) :
      readPath key (Entries.put (.str "query") u body) = readPath key body := by
    rw [readPath, Mapping.findOrNull_put, if_neg (by decide), readPath]
  simp only [read, readMapping, readBody, Key.scalar.injEq, Scalar.str.injEq, String.reduceEq, if_false, hpath,
    readAt_eq, Entries.find?_put, if_true, h]

/-- **A mark is read as the truth value that it counts as.** -/
theorem read_marking {v : Value} {mark : Value → Value} (h : Marking v mark) (w : Value) (key : String) :
    read key (mark w) = read key (mark (.bool w.isTruthy)) := by
  induction h generalizing key with
  | @pattern field params =>
    have htruth (key : String) :
        readWildcard key field (.map (Entries.put (.str "case_insensitive") w params)) =
          readWildcard key field (.map (Entries.put (.str "case_insensitive") (.bool w.isTruthy) params)) := by
      simp only [readWildcard, Mapping.findOrNull_put, Entries.find?_put, String.reduceEq, if_false, if_true]
      rfl
    simp only [read, readMapping, readBody, readLeaf, readField, Key.scalar.injEq, Scalar.str.injEq,
      String.reduceEq, if_false, if_true]
    split
    · rfl
    · simp only [ok_bind, htruth]
  | one operator found inside ih =>
    obtain ⟨m, hm⟩ := inside.exists_map.2 w
    obtain ⟨m', hm'⟩ := inside.exists_map.2 (.bool w.isTruthy)
    refine read_bool_put_congr (fun key => ?_) key _
    have hread := ih key
    rw [hm, hm', read, read] at hread
    rw [hm, hm', readList, readList, hread]
  | item operator found at_index inside ih =>
    refine read_bool_put_congr (fun key => ?_) key _
    rw [readList, readList]
    exact readItems_set_congr ih key _ _ 0
  | query found inside ih => exact read_nested_put_congr ih key _

end Faceted.Clause
