import Faceted.Value.Text
import Faceted.Fault

/-!
# Facts that the proofs share

* a sequence of computations succeeds when each of them does
* a string as a key is itself in canonical form, and can always be written
* what a name finds in an object is what it finds among its fields
* a list of strings is read as the strings that it is made of
-/

namespace Faceted

/-! ## Computations that can fail -/

section

variable {ε α β : Type}

theorem bind_eq_ok_iff {x : Except ε α} {f : α → Except ε β} {b : β} :
    x >>= f = .ok b ↔ ∃ a, x = .ok a ∧ f a = .ok b := by
  cases x <;> simp [bind, Except.bind]

theorem map_eq_ok_iff {x : Except ε α} {f : α → β} {b : β} :
    x.map f = .ok b ↔ ∃ a, x = .ok a ∧ f a = b := by
  cases x <;> simp [Except.map]

theorem bind_eq_error_iff {x : Except ε α} {f : α → Except ε β} {e : ε} :
    x >>= f = .error e ↔ x = .error e ∨ ∃ a, x = .ok a ∧ f a = .error e := by
  cases x <;> simp [bind, Except.bind]

theorem map_eq_error_iff {x : Except ε α} {f : α → β} {e : ε} :
    x.map f = .error e ↔ x = .error e := by
  cases x <;> simp [Except.map]

theorem bind_pure_eq_error_iff {x : Except ε α} {f : α → β} {e : ε} :
    (x >>= fun a => pure (f a)) = .error e ↔ x = .error e := by
  cases x <;> simp [bind, Except.bind, pure, Except.pure]

/-- A result that is only put into another form is there exactly if the result is. -/
theorem exists_bind_pure_iff {x : Except ε α} {f : α → β} :
    (∃ b, (x >>= fun a => pure (f a)) = .ok b) ↔ ∃ a, x = .ok a := by
  cases x <;> simp [bind, Except.bind, pure, Except.pure]

/-- What is computed from a result is computed from one that is there. -/
theorem exists_of_toOption_map {x : Except ε α} {f : α → β} {b : β} (h : x.toOption.map f = some b) :
    ∃ a, x = .ok a ∧ f a = b := by
  cases x with
  | error e => cases h
  | ok a => exact ⟨a, rfl, Option.some.inj h⟩

theorem ok_bind (a : α) (f : α → Except ε β) : (.ok a : Except ε α) >>= f = f a := rfl

end

/-! ## Strings as keys -/

namespace Key

theorem canonical_str (s : String) : (Key.str s).canonical = .str s := rfl

theorem same_str (s t : String) : Key.same (.str s) (.str t) = decide (s = t) := by
  rw [Key.same, canonical_str, canonical_str]
  by_cases h : s = t
  · simp [h]
  · simp [h]

theorem same_str_self (s : String) : Key.same (.str s) (.str s) = true := by
  rw [same_str]
  simp

theorem same_str_of_ne {s t : String} (h : s ≠ t) : Key.same (.str s) (.str t) = false := by
  rw [same_str]
  simp [h]

theorem written_str (s : String) : (Key.str s).written = .ok s := by
  simp [written, isWritable, Scalar.isWritable, text, plain, Scalar.plain]

theorem writtenAll_str : ∀ ss : List String, writtenAll (ss.map .str) = .ok ss
  | [] => rfl
  | s :: ss => by
    rw [List.map_cons, writtenAll, written_str, ok_bind, writtenAll_str ss, ok_bind]
    rfl

end Key

/-! ## Names in an object -/

theorem namesOutside_eq_nil {allowed names : List String} (h : ∀ n ∈ names, n ∈ allowed) :
    namesOutside allowed names = [] := by
  have hf : names.filter (!allowed.contains ·) = [] := by
    rw [List.filter_eq_nil_iff]
    intro n hn
    simp [h n hn]
  rw [namesOutside, hf]
  simp

/-- An object whose fields are all allowed has no names outside. -/
theorem Mapping.namesOutside_object {allowed : List String} {fields : List (String × Value)}
    (h : ∀ f ∈ fields, f.1 ∈ allowed) :
    Mapping.namesOutside allowed (fields.map fun f => (.str f.1, f.2)) = .ok [] := by
  have hk : Entries.keys (fields.map fun f => (Key.str f.1, f.2)) = (fields.map Prod.fst).map .str := by
    simp [Entries.keys]
  have hn : Faceted.namesOutside allowed (fields.map Prod.fst) = [] := by
    refine namesOutside_eq_nil ?_
    intro n hm
    obtain ⟨f, hf, rfl⟩ := List.mem_map.mp hm
    exact h f hf
  rw [Mapping.namesOutside, hk, Key.writtenAll_str, Except.map, hn]

namespace Entries

variable {α : Type}

theorem find?_cons_self (s : String) (v : α) (es : Entries α) :
    find? s ((.str s, v) :: es) = some v := by
  unfold find? get?
  rw [if_pos (Key.same_str_self s)]

theorem find?_cons_of_ne {s t : String} (h : s ≠ t) (v : α) (es : Entries α) :
    find? s ((.str t, v) :: es) = find? s es := by
  unfold find?
  rw [get?, if_neg (by simp [Key.same_str_of_ne h])]

theorem find?_nil (s : String) : find? s ([] : Entries α) = none := rfl

end Entries

/-! ## Lists of strings -/

namespace Value

theorem written_str (s : String) : (Value.str s).written = .ok s := by
  simp [written, isWritable, Scalar.isWritable, text, plain, Scalar.plain]

theorem str?_eq_some_iff {x : Value} {s : String} : x.str? = some s ↔ x = .str s := by
  constructor
  · intro h
    unfold str? at h
    split at h
    · rw [Option.some.inj h]
    · cases h
  · rintro rfl
    rfl

theorem strings?_cons (x : Value) (xs : List Value) :
    strings? (x :: xs) = x.str?.bind fun s => (strings? xs).map (s :: ·) := by
  unfold strings?
  rw [List.mapM_cons]
  cases x.str? with
  | none => rfl
  | some s => cases xs.mapM str? <;> rfl

theorem strings?_map_str : ∀ ss : List String, strings? (ss.map .str) = some ss
  | [] => rfl
  | s :: ss => by
    rw [List.map_cons, strings?_cons, str?_eq_some_iff.mpr rfl, Option.bind_some,
      strings?_map_str ss, Option.map_some]

/-- A list is read as strings exactly when these are its members. -/
theorem strings?_eq_some_iff {xs : List Value} {ss : List String} :
    strings? xs = some ss ↔ xs = ss.map .str := by
  constructor
  · intro h
    induction xs generalizing ss with
    | nil =>
      cases h
      rfl
    | cons x xs ih =>
      rw [strings?_cons] at h
      obtain ⟨s, hs, h⟩ := Option.bind_eq_some_iff.mp h
      obtain ⟨ts, hts, rfl⟩ := Option.map_eq_some_iff.mp h
      rw [List.map_cons, str?_eq_some_iff.mp hs, ih hts]
  · rintro rfl
    exact strings?_map_str ss

end Value

end Faceted
