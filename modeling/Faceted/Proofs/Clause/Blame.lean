import Faceted.Proofs.KeyPath

/-!
# Faults of clauses

Reading a clause under a key fails by a fault of the value at this key (`fails_read`), where all integers
can be written: it names a path into the value, or tells that the value goes on without an end. There is
one lemma for each reader. What goes through the entries of a mapping or the items of a list is about any
rest of them, since a fault is one of the whole.
-/

namespace Faceted.Clause

open Text Number

variable {key : String}

/-! ## Leaves -/

theorem fails_readBound {v : Value} (h : v.isWritable = true) : Fails (Blames key v) (readBound key v) := by
  unfold readBound
  split
  · exact .ok none
  · next s => exact .ok (some s)
  · next n =>
    rw [Value.isWritable, Scalar.isWritable, Bool.not_eq_true'] at h
    rw [h]
    exact .ok _
  · exact .error (.here rfl)

theorem fails_readBound_entry {m : Mapping} (h : Value.entriesWritable m = true) {inner : String}
    (name : String) (hinner : inner = key ++ "." ++ name) :
    Fails (Blames key (.map m)) (readBound inner (Mapping.findOrNull name m)) :=
  fails_findOrNull hinner rfl fun _ hv => fails_readBound (hv ▸ Mapping.isWritable_findOrNull h name)

theorem fails_readRange {params : Value} (h : params.isWritable = true) (field : String) :
    Fails (Blames key params) (readRange key field params) := by
  unfold readRange
  split
  · next m =>
    rw [Value.isWritable] at h
    refine .bind (fails_readBound_entry h "gte" (append_dotted (by decide) key)) fun gte _ => ?_
    refine .bind (fails_readBound_entry h "lte" (append_dotted (by decide) key)) fun lte _ => ?_
    refine .bind (fails_readBound_entry h "format" (append_dotted (by decide) key)) fun format _ => ?_
    exact .ok _
  · exact .error (.here rfl)

theorem fails_readWildcard (field : String) (params : Value) :
    Fails (Blames key params) (readWildcard key field params) := by
  have hvalue : key ++ ".value" = key ++ "." ++ "value" := append_dotted (by decide) key
  unfold readWildcard
  split
  · exact .ok _
  · split
    · exact .ok _
    · exact .error (.name rfl hvalue)
  · exact .error (.name rfl hvalue)

theorem fails_readTerms (field : String) (params : Value) :
    Fails (Blames key params) (readTerms key field params) := by
  unfold readTerms
  split
  · split
    · exact .ok _
    · exact .error (.here rfl)
  · exact .error (.here rfl)

theorem fails_readTerm (field : String) (params : Value) :
    Fails (Blames key params) (readTerm key field params) := by
  unfold readTerm
  extract_lets value
  generalize value = w
  split
  · exact .ok _
  · exact .error (.here rfl)

theorem fails_readField (body : Mapping) : Fails (Blames key (.map body)) (readField key body) := by
  unfold readField
  split
  · split
    · exact .error (.here rfl)
    · exact .ok _
  · exact .error (.here rfl)
  · exact .error (.here rfl)

theorem eq_singleton_of_readField {body : Mapping} {field : String} {params : Value}
    (h : readField key body = .ok (field, params)) : body = [(.str field, params)] := by
  unfold readField at h
  split at h
  · split at h
    · cases h
    · cases h
      rfl
  · cases h
  · cases h

theorem fails_readLeaf {type : Key} (htype : type.isWritable = true) {body : Mapping}
    (h : Value.entriesWritable body = true) (outer : String) :
    Fails (Blames outer (.map [(type, .map body)]))
      (readLeaf outer (outer ++ "." ++ type.text) type body) := by
  have hbody {fault : Fault} (hfault : Blames (outer ++ "." ++ type.text) (.map body) fault) :
      Blames outer (.map [(type, .map body)]) fault := .entry List.mem_cons_self hfault
  refine .bind ((fails_readField body).mono fun _ => hbody) fun (field, params) hfield => ?_
  obtain rfl := eq_singleton_of_readField hfield
  have hparams := (Value.isWritable_of_mem h List.mem_cons_self).2
  have hfind : Entries.find? field [(Key.str field, params)] = some params := Entries.find?_cons_self ..
  dsimp only
  split
  · exact (fails_readRange hparams field).mono fun _ hfault => hbody (.find hfind hfault)
  split
  · exact (fails_readWildcard field params).mono fun _ hfault => hbody (.find hfind hfault)
  split
  · exact (fails_readTerms field params).mono fun _ hfault => hbody (.find hfind hfault)
  split
  · exact (fails_readTerm field params).mono fun _ hfault => hbody (.find hfind hfault)
  · rw [Key.written_of_isWritable htype]
    exact .error (.here rfl)

theorem fails_readPath (body : Mapping) : Fails (Blames key (.map body)) (readPath key body) := by
  have hpath : key ++ ".path" = key ++ "." ++ "path" := append_dotted (by decide) key
  unfold readPath
  split
  · split
    · exact .error (.name rfl hpath)
    · exact .ok _
  · exact .error (.name rfl hpath)

/-! ## All clauses -/

mutual

/-- **Reading a clause fails by a fault of the value that is read.** -/
theorem fails_read (key : String) : ∀ v : Value, v.isWritable = true →
    Fails (Blames key v) (read key v)
  | .map m, h => by
    rw [read]
    exact fails_readMapping key m h
  | .endless, _ => by
    rw [read]
    exact .error (.endless rfl)
  | .scalar _, _ | .list _, _ | .tuple _, _ | .set _, _ | .years _ _, _ => by
    simp only [read]
    exact .error (.here rfl)

theorem fails_readMapping (key : String) : ∀ m : List (Key × Value), Value.entriesWritable m = true →
    Fails (Blames key (.map m)) (readMapping key m)
  | [(type, body)], h => by
    obtain ⟨htype, hbody⟩ := Value.isWritable_of_mem h List.mem_cons_self
    rw [readMapping, Key.written_of_isWritable htype, ok_bind]
    split
    · exact .ok _
    · exact fails_readBody key htype body hbody
  | [], _ | _ :: _ :: _, _ => by
    rw [readMapping]
    · exact .error (.here rfl)
    · simp

theorem fails_readBody (outer : String) {type : Key} (htype : type.isWritable = true) :
    ∀ body : Value, body.isWritable = true →
      Fails (Blames outer (.map [(type, body)])) (readBody outer (outer ++ "." ++ type.text) type body)
  | .map m, h => by
    have hbody {fault : Fault} (hfault : Blames (outer ++ "." ++ type.text) (.map m) fault) :
        Blames outer (.map [(type, .map m)]) fault := .entry List.mem_cons_self hfault
    rw [Value.isWritable] at h
    have hmust := fails_readListAt "must" (outer ++ "." ++ type.text) m h m fun _ => id
    have hshould := fails_readListAt "should" (outer ++ "." ++ type.text) m h m fun _ => id
    have hquery := fails_readAt "query" (outer ++ "." ++ type.text) m h m fun _ => id
    rw [← append_dotted (show ".must" = "." ++ "must" by decide)] at hmust
    rw [← append_dotted (show ".should" = "." ++ "should" by decide)] at hshould
    rw [← append_dotted (show ".query" = "." ++ "query" by decide)] at hquery
    simp only [readBody]
    split
    · obtain ⟨unknown, hunknown⟩ := Mapping.exists_namesOutside h ["must", "should"]
      rw [hunknown, ok_bind]
      split
      · refine .bind (hmust.mono fun _ => hbody) fun must _ => ?_
        refine .bind (hshould.mono fun _ => hbody) fun should _ => ?_
        exact .ok _
      · exact .error (hbody (.here rfl))
    split
    · refine .bind ((fails_readPath m).mono fun _ => hbody) fun path _ => ?_
      refine .bind (hquery.mono fun _ => hbody) fun query _ => ?_
      exact .ok _
    · exact fails_readLeaf htype h outer
  | .endless, _ => by
    rw [readBody]
    exact .error (.entry List.mem_cons_self (.endless rfl))
  | .scalar _, _ | .list _, _ | .tuple _, _ | .set _, _ | .years _ _, _ => by
    simp only [readBody]
    exact .error (.entry List.mem_cons_self (.here rfl))

theorem fails_readAt (name key : String) : ∀ m : List (Key × Value), Value.entriesWritable m = true →
    ∀ whole : Mapping, (∀ e ∈ m, e ∈ whole) →
      Fails (Blames key (.map whole)) (readAt name (key ++ "." ++ name) m)
  | [], _, _, _ => by
    rw [readAt]
    exact .error (.name rfl rfl)
  | (k, v) :: m, h, whole, hwhole => by
    obtain ⟨hentry, hrest⟩ := List.forall_mem_cons.mp hwhole
    rw [Value.entriesWritable, Bool.and_eq_true, Bool.and_eq_true] at h
    rw [readAt]
    split
    · next hsame =>
      obtain rfl := Key.eq_str_of_same hsame
      exact (fails_read _ v h.1.2).mono fun _ hfault => .entry hentry (by rwa [Key.text_str])
    · exact fails_readAt name key m h.2 whole hrest

theorem fails_readListAt (name key : String) : ∀ m : List (Key × Value),
    Value.entriesWritable m = true → ∀ whole : Mapping, (∀ e ∈ m, e ∈ whole) →
      Fails (Blames key (.map whole)) (readListAt name (key ++ "." ++ name) m)
  | [], _, _, _ => by
    rw [readListAt]
    exact .ok []
  | (k, v) :: m, h, whole, hwhole => by
    obtain ⟨hentry, hrest⟩ := List.forall_mem_cons.mp hwhole
    rw [Value.entriesWritable, Bool.and_eq_true, Bool.and_eq_true] at h
    rw [readListAt]
    split
    · next hsame =>
      obtain rfl := Key.eq_str_of_same hsame
      exact (fails_readList _ v h.1.2).mono fun _ hfault => .entry hentry (by rwa [Key.text_str])
    · exact fails_readListAt name key m h.2 whole hrest

theorem fails_readList (key : String) : ∀ v : Value, v.isWritable = true →
    Fails (Blames key v) (readList key v)
  | .scalar .null, _ => by
    rw [readList]
    exact .ok []
  | .map m, h => by
    rw [readList]
    exact .bind (fails_readMapping key m h) fun c _ => .ok _
  | .list xs, h => by
    rw [readList]
    exact fails_readItems key xs h 0 xs rfl
  | .endless, _ => by
    rw [readList]
    exact .error (.endless rfl)
  | .scalar (.bool _), _ | .scalar (.int _), _ | .scalar (.float _), _ | .scalar (.str _), _
  | .scalar (.bytes _), _ | .scalar (.date _), _ | .scalar (.moment _), _ | .tuple _, _ | .set _, _
  | .years _ _, _ => by
    simp only [readList]
    exact .error (.here rfl)

theorem fails_readItems (key : String) : ∀ xs : List Value, Value.areWritable xs = true →
    ∀ (index : Nat) (whole : List Value), whole.drop index = xs →
      Fails (Blames key (.list whole)) (readItems key index xs)
  | [], _, _, _, _ => by
    rw [readItems]
    exact .ok []
  | x :: xs, h, index, whole, hdrop => by
    rw [Value.areWritable, Bool.and_eq_true] at h
    obtain ⟨hfound, hrest⟩ := found_of_drop hdrop
    rw [readItems]
    refine .bind ((fails_read (itemKey key index) x h.1).mono fun _ => .item hfound) fun c _ => ?_
    refine .bind (fails_readItems key xs h.2 (index + 1) whole hrest) fun cs _ => ?_
    exact .ok _

end

end Faceted.Clause
