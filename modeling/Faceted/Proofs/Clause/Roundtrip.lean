import Faceted.Proofs.Clause.WellFormed

/-!
# Clauses and their documents

Reading the document of a clause gives the clause back exactly when the clause is well-formed.

## In two parts

* **What each document is read by.** The document of a clause is an object with one field. Its name
  decides which of the reading functions takes over, and with which key.
* **From the clause to its document and back**, by induction on the clause. A well-formed clause comes
  back, and any other is refused with a fault of a value or of its type. That fault is found in the
  first part that is not well-formed, so the second half needs the first one for the parts before it.

The key occurs in faults only. All statements are about any key, since the parts of a clause are read
under longer ones.
-/

namespace Faceted.Clause

/-! ## What a document is read by -/

theorem read_object {type : String} (h : type ≠ "match_all") (key : String) (body : Value) :
    read key (.object [(type, body)]) = readBody key (key ++ "." ++ type) (.str type) body := by
  show readMapping key [(.str type, body)] = _
  rw [readMapping, Key.written_str, ok_bind, if_neg (by simpa using h)]

theorem readBody_object {type : String} (hb : type ≠ "bool") (hn : type ≠ "nested")
    (outer key : String) (fields : List (String × Value)) :
    readBody outer key (.str type) (.object fields)
      = readLeaf outer key (.str type) (fields.map fun f => (.str f.1, f.2)) := by
  rw [Value.object, readBody, if_neg (by simpa using hb), if_neg (by simpa using hn)]

/-- The document of a leaf has one field, and so has its body. -/
theorem read_leaf {type : String} (hm : type ≠ "match_all") (hb : type ≠ "bool") (hn : type ≠ "nested")
    (key field : String) (params : Value) :
    read key (.object [(type, .object [(field, params)])])
      = readLeaf key (key ++ "." ++ type) (.str type) [(.str field, params)] := by
  rw [read_object hm, readBody_object hb hn, List.map_singleton]

theorem readField_ok {field : String} (h : field ≠ "") (key : String) (params : Value) :
    readField key [(.str field, params)] = .ok (field, params) := by
  rw [readField, if_neg (by simpa using h)]

/-! ## Bounds of a range -/

theorem readBound_ofOption (key : String) (b : Option String) :
    readBound key (.ofOption b) = .ok b := by
  cases b <;> rfl

/-- Each bound of a range is found under its own name, null if it is absent. -/
theorem findOrNull_presentBounds (gte lte format : Option String) :
    let params := (presentBounds gte lte format).map fun f => (Key.str f.1, f.2)
    Mapping.findOrNull "gte" params = .ofOption gte ∧
      Mapping.findOrNull "lte" params = .ofOption lte ∧
      Mapping.findOrNull "format" params = .ofOption format := by
  cases gte <;> cases lte <;> cases format <;>
    simp [presentBounds, SentAs.sent, Mapping.findOrNull, Value.ofOption, Entries.find?_cons_self,
      Entries.find?_cons_of_ne, Entries.find?_nil]

theorem readRange_presentBounds (key field : String) (gte lte format : Option String) :
    readRange key field (.object (presentBounds gte lte format))
      = .ok (.range field gte lte format) := by
  obtain ⟨hg, hl, hf⟩ := findOrNull_presentBounds gte lte format
  rw [Value.object, readRange, hg, hl, hf]
  simp only [readBound_ofOption, ok_bind]
  rfl

/-! ## Leaves -/

/-- A leaf is read by the function of its type from what stands under its field. -/
theorem readLeaf_field {field : String} (h : field ≠ "") (outer key : String) (params : Value) :
    let fieldKey := key ++ "." ++ field
    readLeaf outer key (.str "range") [(.str field, params)] = readRange fieldKey field params ∧
    readLeaf outer key (.str "wildcard") [(.str field, params)] = readWildcard fieldKey field params ∧
    readLeaf outer key (.str "terms") [(.str field, params)] = readTerms fieldKey field params ∧
    readLeaf outer key (.str "term") [(.str field, params)] = readTerm fieldKey field params := by
  simp [readLeaf, readField_ok h, ok_bind]

theorem readWildcard_params (key field value : String) (caseInsensitive : Bool) :
    readWildcard key field
        (.object [("value", .str value), ("case_insensitive", .bool caseInsensitive)])
      = .ok (.wildcard field value caseInsensitive) := by
  simp [Value.object, readWildcard, Mapping.findOrNull, Entries.find?_cons_self,
    Entries.find?_cons_of_ne, Value.isTruthy]

theorem readTerms_strs (key field : String) (values : List String) :
    readTerms key field (.strs values) = .ok (.terms field values) := by
  rw [Value.strs, readTerms, Value.strings?_map_str]

/-! ## Lists of clauses in a Boolean combination -/

theorem name_of_mem_clauseField {name : String} {documents : List Value} {f : String × Value}
    (h : f ∈ clauseField name documents) : f.1 = name := by
  unfold clauseField at h
  split at h
  · cases h
  · rw [List.mem_singleton.mp h]

/-- The fields of a Boolean combination have no other name than the two operators. -/
theorem namesOutside_clauseFields (must should : List Value) :
    Mapping.namesOutside ["must", "should"]
        ((clauseField "must" must ++ clauseField "should" should).map fun f => (.str f.1, f.2))
      = .ok [] := by
  refine Mapping.namesOutside_object ?_
  intro f hf
  rcases List.mem_append.mp hf with hf | hf
  · simp [name_of_mem_clauseField hf]
  · simp [name_of_mem_clauseField hf]

theorem readListAt_self (name key : String) (v : Value) (m : Mapping) :
    readListAt name key ((.str name, v) :: m) = readList key v := by
  rw [readListAt, if_pos (Key.same_str_self name)]

theorem readListAt_of_ne {name other : String} (h : name ≠ other) (key : String) (v : Value)
    (m : Mapping) : readListAt name key ((.str other, v) :: m) = readListAt name key m := by
  rw [readListAt, if_neg (by simp [Key.same_str_of_ne h])]

theorem readListAt_nil (name key : String) : readListAt name key [] = .ok [] := by
  rw [readListAt]

theorem readList_list (key : String) (xs : List Value) :
    readList key (.list xs) = readItems key 0 xs := by
  rw [readList]

/-- An operator that is left out has the clauses of an empty list. -/
theorem readListAt_clauseFields (key : String) (must should : List Value) :
    let body := (clauseField "must" must ++ clauseField "should" should).map
      fun f => (Key.str f.1, f.2)
    readListAt "must" key body = readItems key 0 must ∧
      readListAt "should" key body = readItems key 0 should := by
  cases must <;> cases should <;>
    simp [clauseField, readListAt_self, readListAt_of_ne, readListAt_nil, readList_list, readItems]

theorem readBody_bool (outer key : String) (must should : List Value) :
    readBody outer key (.str "bool")
        (.object (clauseField "must" must ++ clauseField "should" should)) = (do
      let ms ← readItems (key ++ ".must") 0 must
      let ss ← readItems (key ++ ".should") 0 should
      pure (.bool ms ss)) := by
  rw [Value.object, readBody, if_pos rfl, namesOutside_clauseFields, ok_bind,
    if_pos List.isEmpty_nil, (readListAt_clauseFields (key ++ ".must") must should).1,
    (readListAt_clauseFields (key ++ ".should") must should).2]

/-! ## Nested clauses -/

theorem readBody_nested {path : String} (h : path ≠ "") (outer key : String) (query : Value) :
    readBody outer key (.str "nested") (.object [("path", .str path), ("query", query)]) = (do
      let q ← read (key ++ ".query") query
      pure (.nested path q)) := by
  have hp : readPath key [(.str "path", .str path), (.str "query", query)] = .ok path := by
    rw [readPath, Mapping.findOrNull, Entries.find?_cons_self, Option.getD_some]
    simp [h]
  have hq : readAt "query" (key ++ ".query") [(.str "path", .str path), (.str "query", query)]
      = read (key ++ ".query") query := by
    rw [readAt, if_neg (by simp [Key.same_str_of_ne]), readAt, if_pos (Key.same_str_self _)]
  rw [Value.object, readBody, if_neg (by decide), if_pos rfl]
  show readPath key [(.str "path", .str path), (.str "query", query)] >>= _ = _
  rw [hp, ok_bind]
  show readAt "query" (key ++ ".query") [(.str "path", .str path), (.str "query", query)] >>= _ = _
  rw [hq]

theorem readBody_nested_noPath (outer key : String) (query : Value) :
    readBody outer key (.str "nested") (.object [("path", .str ""), ("query", query)])
      = .error (.noPath key) := by
  rw [Value.object, readBody, if_neg (by decide), if_pos rfl]
  show readPath key [(.str "path", .str ""), (.str "query", query)] >>= _ = _
  rw [readPath, Mapping.findOrNull, Entries.find?_cons_self]
  rfl

/-! ## There and back -/

mutual

/-- **A well-formed clause is read back from its document.** -/
theorem read_toValue : ∀ (c : Clause String) (key : String), c.WellFormed →
    read key c.toValue = .ok c
  | .matchAll, key, _ => by
    show readMapping key [(.str "match_all", .object [])] = _
    rw [readMapping, Key.written_str, ok_bind, if_pos rfl]
    rfl
  | .bool must should, key, h => by
    rw [toValue, read_object (by decide), readBody_bool, readItems_toValues must _ _ h.1, ok_bind,
      readItems_toValues should _ _ h.2, ok_bind]
    rfl
  | .nested path query, key, h => by
    rw [toValue, read_object (by decide), readBody_nested h.1, read_toValue query _ h.2, ok_bind]
    rfl
  | .range field gte lte format, key, h => by
    rw [toValue, read_leaf (by decide) (by decide) (by decide), (readLeaf_field h _ _ _).1,
      readRange_presentBounds]
  | .wildcard field value caseInsensitive, key, h => by
    rw [toValue, read_leaf (by decide) (by decide) (by decide), (readLeaf_field h _ _ _).2.1,
      readWildcard_params]
  | .terms field values, key, h => by
    rw [toValue, read_leaf (by decide) (by decide) (by decide), (readLeaf_field h _ _ _).2.2.1,
      readTerms_strs]
  | .term field value, key, h => by
    rw [toValue, read_leaf (by decide) (by decide) (by decide), (readLeaf_field h _ _ _).2.2.2]
    rfl

theorem readItems_toValues : ∀ (cs : List (Clause String)) (key : String) (index : Nat),
    AllWellFormed cs → readItems key index (toValues cs) = .ok cs
  | [], key, index, _ => by rw [toValues, readItems]
  | c :: cs, key, index, h => by
    rw [toValues, readItems, read_toValue c _ h.1, ok_bind, readItems_toValues cs _ _ h.2, ok_bind]
    rfl

end

/-! ## What is refused -/

/-- The outcome is a fault of a value or of its type. -/
def Refused {α : Type} (x : Except Fault α) : Prop :=
  ∃ fault, x = .error fault ∧ (fault.sort = .type ∨ fault.sort = .value)

theorem Refused.bind {α β : Type} {x : Except Fault α} (h : Refused x) (f : α → Except Fault β) :
    Refused (x >>= f) := by
  obtain ⟨fault, rfl, hs⟩ := h
  exact ⟨fault, rfl, hs⟩

/-- The field of a leaf is checked first, whatever the type of the leaf. -/
theorem refused_read_noField {type : String} (hm : type ≠ "match_all") (hb : type ≠ "bool")
    (hn : type ≠ "nested") (key : String) (params : Value) :
    Refused (read key (.object [(type, .object [("", params)])])) := by
  rw [read_leaf hm hb hn]
  exact ⟨.noFieldName _, rfl, Or.inl rfl⟩

mutual

/-- **Any other clause is refused**, with the fault of its first part that is not well-formed. -/
theorem refused_read_toValue : ∀ (c : Clause String) (key : String), ¬c.WellFormed →
    Refused (read key c.toValue)
  | .matchAll, _, h => absurd trivial h
  | .bool must should, key, h => by
    rw [toValue, read_object (by decide), readBody_bool]
    -- the `should` clauses are looked at when all `must` clauses have been read
    by_cases hm : AllWellFormed must
    · have hs : ¬AllWellFormed should := fun hs => h ⟨hm, hs⟩
      rw [readItems_toValues must _ _ hm, ok_bind]
      exact (refused_readItems_toValues should _ _ hs).bind _
    · exact (refused_readItems_toValues must _ _ hm).bind _
  | .nested path query, key, h => by
    rw [toValue, read_object (by decide)]
    by_cases hp : path = ""
    · rw [hp, readBody_nested_noPath]
      exact ⟨_, rfl, Or.inr rfl⟩
    · rw [readBody_nested hp]
      exact (refused_read_toValue query _ fun hq => h ⟨hp, hq⟩).bind _
  | .range field gte lte format, key, h => by
    obtain rfl : field = "" := by simpa [WellFormed] using h
    exact refused_read_noField (by decide) (by decide) (by decide) key _
  | .wildcard field value caseInsensitive, key, h => by
    obtain rfl : field = "" := by simpa [WellFormed] using h
    exact refused_read_noField (by decide) (by decide) (by decide) key _
  | .terms field values, key, h => by
    obtain rfl : field = "" := by simpa [WellFormed] using h
    exact refused_read_noField (by decide) (by decide) (by decide) key _
  | .term field value, key, h => by
    obtain rfl : field = "" := by simpa [WellFormed] using h
    exact refused_read_noField (by decide) (by decide) (by decide) key _
  | .simpleQueryString query fields, key, _ => by
    -- the text and its fields are two fields of the body, where a leaf has one
    rw [toValue, read_object (by decide), readBody_object (by decide) (by decide)]
    exact ⟨.fieldCount _, rfl, Or.inr rfl⟩

theorem refused_readItems_toValues : ∀ (cs : List (Clause String)) (key : String) (index : Nat),
    ¬AllWellFormed cs → Refused (readItems key index (toValues cs))
  | [], _, _, h => absurd trivial h
  | c :: cs, key, index, h => by
    rw [toValues, readItems]
    by_cases hc : c.WellFormed
    · have hcs : ¬AllWellFormed cs := fun hcs => h ⟨hc, hcs⟩
      rw [read_toValue c _ hc, ok_bind]
      exact (refused_readItems_toValues cs _ _ hcs).bind _
    · exact (refused_read_toValue c _ hc).bind _

end

/-! ## The round trip -/

/--
**Writing a clause and reading it is the identity exactly on what can be read.**

What is read is well-formed; a well-formed clause is read back from its document, whatever the key;
any other is refused. So a clause comes back exactly if it can be read from something, and writing
what has been read a second time changes nothing.
-/
theorem read_toValue_exactly_wellFormed :
    (∀ (v : Value) (key : String) (c : Clause String), read key v = .ok c → c.WellFormed) ∧
    (∀ (c : Clause String) (key : String), c.WellFormed → read key c.toValue = .ok c) ∧
    (∀ (c : Clause String) (key : String), ¬c.WellFormed → Refused (read key c.toValue)) ∧
    (∀ c : Clause String, (∀ key, read key c.toValue = .ok c) ↔ ∃ key v, read key v = .ok c) ∧
    (∀ (v w : Value) (key again : String), (read key v).map toValue = .ok w →
      (read again w).map toValue = .ok w) := by
  refine ⟨wellFormed_of_read, read_toValue, refused_read_toValue, ?_, ?_⟩
  · intro c
    constructor
    · intro h
      exact ⟨"", c.toValue, h ""⟩
    · rintro ⟨key, v, h⟩ again
      exact read_toValue c again (wellFormed_of_read v key c h)
  · intro v w key again h
    obtain ⟨c, hc, rfl⟩ := map_eq_ok_iff.mp h
    rw [read_toValue c again (wellFormed_of_read v key c hc)]
    rfl

/-- A pattern that stands alone is read, comes back with its parameters, and is written as it was;
free text inside of a nested clause is refused. -/
theorem read_toValue_exactly_wellFormed_nested :
    (wildcard "a" "x*" false : Clause String).WellFormed ∧
    read "again" (nested "p" (bool [wildcard "a" "x*" false] [matchAll]) : Clause String).toValue
      = .ok (nested "p" (bool [wildcard "a" "x*" false] [matchAll])) ∧
    Refused (read "k" (bool [matchAll] [nested "p" (simpleQueryString "x" ["ocr"])] :
      Clause String).toValue) ∧
    (read "again" (wildcard "a" "x*" false : Clause String).toValue).map toValue
      = .ok (wildcard "a" "x*" false : Clause String).toValue := by
  obtain ⟨h1, h2, h3, -, h5⟩ := read_toValue_exactly_wellFormed
  have hr : read "k" (.object [("wildcard", .object [("a", .str "x*")])])
      = .ok (wildcard "a" "x*" false) := by
    rw [read_leaf (by decide) (by decide) (by decide), (readLeaf_field (by decide) _ _ _).2.1]
    rfl
  refine ⟨h1 _ "k" _ hr, h2 _ "again" ?_, h3 _ "k" ?_, h5 _ _ "k" "again" (congrArg _ hr)⟩
  · simp [WellFormed, AllWellFormed]
  · simp [WellFormed, AllWellFormed]

end Faceted.Clause
