import Faceted.Proofs.Basic

/-!
# Entries by key

Keys that name one entry find the same in any entries, and giving a key a value changes what is found
under the keys that name its entry only. The keys stay in order, a new one coming last (`keys_put`). Going along
several keys leads from a value to one inside of it.
-/

namespace Faceted

namespace Key

theorem same_iff {k l : Key} : Key.same k l = true ↔ k.canonical = l.canonical := by
  simp [Key.same]

/-- Keys that name one entry are told from any other key alike. -/
theorem same_congr {k l : Key} (h : Key.same k l = true) (other : Key) :
    Key.same k other = Key.same l other := by
  rw [Key.same, Key.same, same_iff.mp h]

theorem same_comm (k l : Key) : Key.same k l = Key.same l k := by
  rw [Key.same, Key.same, Bool.beq_comm]

/-- The only key that names the entry of a string is this string. -/
theorem eq_str_of_same {name : String} {k : Key} (h : Key.same (.str name) k = true) :
    k = .str name := by
  have hcanonical := Key.same_iff.mp h
  cases k with
  | scalar s =>
    cases s with
    | str t =>
      obtain rfl : name = t := by simpa [canonical, canonicalScalar] using hcanonical
      rfl
    | bool b | int n | null | bytes bs | date d | moment m => cases hcanonical
    | float x =>
      simp only [canonical, canonicalScalar] at hcanonical
      split at hcanonical <;> cases hcanonical
  | tuple ks | years a b => cases hcanonical

end Key

namespace Entries

variable {α : Type} {k l : Key}

theorem get?_congr (h : Key.same k l = true) (es : Entries α) : get? k es = get? l es := by
  induction es with
  | nil => rfl
  | cons e es ih => rw [get?, get?, Key.same_congr h, ih]

theorem get?_put_of_same (h : Key.same k l = true) (v : α) (es : Entries α) :
    get? k (put l v es) = some v := by
  induction es with
  | nil => rw [put, get?, if_pos h]
  | cons e es ih =>
    rw [put]
    split
    · next hl => rw [get?, if_pos ((Key.same_congr h e.1).trans hl)]
    · next hl => rw [get?, if_neg (by rwa [Key.same_congr h]), ih]

theorem get?_put_of_not_same (h : ¬Key.same k l = true) (v : α) (es : Entries α) :
    get? k (put l v es) = get? k es := by
  induction es with
  | nil =>
    show (if Key.same k l = true then some v else none) = none
    exact if_neg h
  | cons e es ih =>
    rw [put]
    split
    · next hl =>
      -- the entry keeps its key, which is another name of the one that is not looked for
      have hk : ¬Key.same k e.1 = true := fun hk =>
        h (Key.same_iff.mpr ((Key.same_iff.mp hk).trans (Key.same_iff.mp hl).symm))
      rw [get?, if_neg hk, get?, if_neg hk]
    · next hl => rw [get?, get?, ih]

/-- A key finds nothing exactly if it names no entry. -/
theorem get?_eq_none_iff {es : Entries α} : get? k es = none ↔ ∀ e ∈ es, ¬Key.same k e.1 = true := by
  induction es with
  | nil => simp [get?]
  | cons e es ih =>
    rw [get?, List.forall_mem_cons, ← ih]
    by_cases h : Key.same k e.1 = true <;> simp [h]

/-- What a key finds is the value of an entry that it names. -/
theorem exists_same_of_get? {es : Entries α} {v : α} (h : get? k es = some v) :
    ∃ e ∈ es, Key.same k e.1 = true ∧ e.2 = v := by
  induction es with
  | nil => cases h
  | cons e es ih =>
    rw [get?] at h
    split at h
    · next hsame => exact ⟨e, List.mem_cons_self, hsame, Option.some.inj h⟩
    · obtain ⟨found, hmem, hsame⟩ := ih h
      exact ⟨found, List.mem_cons_of_mem e hmem, hsame⟩

/-- What is found is the value of an entry. -/
theorem exists_mem_of_get? {es : Entries α} {v : α} (h : get? k es = some v) : ∃ l, (l, v) ∈ es := by
  obtain ⟨e, he, -, rfl⟩ := exists_same_of_get? h
  exact ⟨e.1, he⟩

/-- What a name finds stands in an entry under this name. -/
theorem mem_of_find? {name : String} {es : Entries α} {v : α} (h : find? name es = some v) :
    (.str name, v) ∈ es := by
  obtain ⟨e, he, hsame, rfl⟩ := exists_same_of_get? h
  rw [← Key.eq_str_of_same hsame]
  exact he

/-- What is found in entries that end is a value that ends. -/
theorem isEndless_of_get? {m : Mapping} (h : Value.entriesEndless m = false) {v : Value}
    (hv : get? k m = some v) : v.isEndless = false := by
  induction m with
  | nil => cases hv
  | cons e m ih =>
    obtain ⟨l, w⟩ := e
    obtain ⟨hw, hm⟩ := Bool.or_eq_false_iff.mp (by rwa [Value.entriesEndless] at h)
    rw [get?] at hv
    split at hv
    · obtain rfl := Option.some.inj hv
      exact hw
    · exact ih hm hv

/-! ### Keys in order -/

/-- The key names no entry. -/
def Lacks (es : Entries α) (k : Key) : Prop := get? k es = none

instance (es : Entries α) (k : Key) : Decidable (Lacks es k) :=
  decidable_of_iff ((get? k es).isNone = true) Option.isNone_iff_eq_none

/-- Whether a key names an entry can be told from the keys. -/
theorem lacks_iff {es : Entries α} : Lacks es k ↔ ∀ l ∈ keys es, ¬Key.same k l = true := by
  rw [Lacks, get?_eq_none_iff, keys, List.forall_mem_map]

theorem not_lacks_of_mem_keys {es : Entries α} (h : k ∈ keys es) : ¬Lacks es k := by
  exact fun hlacks => lacks_iff.mp hlacks k h (Key.same_iff.mpr rfl)

theorem lacks_put_iff (l : Key) (v : α) (es : Entries α) :
    Lacks (put l v es) k ↔ ¬Key.same k l = true ∧ Lacks es k := by
  by_cases h : Key.same k l = true
  · simp [Lacks, get?_put_of_same h, h]
  · simp [Lacks, get?_put_of_not_same h, h]

/-- A value takes the place that its key names, or a new one at the end. -/
theorem keys_put (k : Key) (v : α) (es : Entries α) :
    keys (put k v es) = keys es ++ if Lacks es k then [k] else [] := by
  induction es with
  | nil => rfl
  | cons e es ih =>
    rw [put]
    by_cases h : Key.same k e.1 = true
    · have hnot : ¬Lacks (e :: es) k := by simp [Lacks, get?, h]
      simp [if_pos h, if_neg hnot, keys]
    · have hiff : Lacks (e :: es) k ↔ Lacks es k := by simp [Lacks, get?, h]
      rw [if_neg h, keys, List.map_cons]
      simp only [keys, hiff] at ih ⊢
      rw [ih, List.map_cons, List.cons_append]

/-! ### Names -/

theorem find?_put (name other : String) (v : α) (es : Entries α) :
    find? name (put (.str other) v es) = if name = other then some v else find? name es := by
  split
  · next h =>
    rw [h]
    exact get?_put_of_same (Key.same_str_self other) v es
  · next h => exact get?_put_of_not_same (by simp [Key.same_str_of_ne h]) v es

/-- A value that is put where it stands changes nothing. -/
theorem put_of_find? {name : String} {v : α} {es : Entries α} (h : find? name es = some v) :
    put (.str name) v es = es := by
  induction es with
  | nil => cases h
  | cons e es ih =>
    rw [find?, get?] at h
    rw [put]
    split at h
    · next hsame => rw [if_pos hsame, ← Option.some.inj h]
    · next hsame => rw [if_neg hsame, ih h]

theorem mem_keys_put {name : String} {v : α} {es : Entries α} {k : Key}
    (h : k ∈ keys (put (.str name) v es)) : k = .str name ∨ k ∈ keys es := by
  induction es with
  | nil => exact Or.inl (List.mem_singleton.mp h)
  | cons e es ih =>
    rw [put] at h
    split at h
    · exact Or.inr h
    · rcases List.mem_cons.mp h with rfl | h
      · exact Or.inr List.mem_cons_self
      · exact (ih h).imp_right (List.mem_cons_of_mem e.1)

end Entries

theorem Mapping.findOrNull_put (name other : String) (v : Value) (m : Mapping) :
    Mapping.findOrNull name (Entries.put (.str other) v m) =
      if name = other then v else Mapping.findOrNull name m := by
  rw [Mapping.findOrNull, Entries.find?_put]
  split <;> rfl

theorem Mapping.findOrNull_of_find? {name : String} {v : Value} {m : Mapping}
    (h : Entries.find? name m = some v) : Mapping.findOrNull name m = v := by
  rw [findOrNull, h, Option.getD_some]

theorem Mapping.findOrNull_singleton (name : String) (v : Value) :
    Mapping.findOrNull name [(.str name, v)] = v :=
  Mapping.findOrNull_of_find? (Entries.find?_cons_self name v [])

/-! ## Values at paths -/

/-- The value that is found going along a path of keys. -/
def Value.at? : List Key → Value → Option Value
  | [], v => some v
  | k :: path, .map m => (Entries.get? k m).bind (Value.at? path)
  | _ :: _, _ => none

end Faceted
