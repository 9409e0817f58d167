import Faceted.Facet

/-!
# Paths and names of facets

The path of a field is what comes before its first dot, and a field without a dot has none. A facet that has
to be there is the one that is found under its name.
-/

namespace Faceted

/-- A field without a dot has no path. -/
theorem nestedPath_eq_none {field : String} (h : '.' ∉ field.toList) : nestedPath field = none := by
  unfold nestedPath
  rw [if_neg (by simpa using h)]

/-- What comes before the first dot has no dot, so that the path is cut off at its end. -/
theorem takeWhile_append_dot {path : List Char} (h : '.' ∉ path) (rest : List Char) :
    (path ++ '.' :: rest).takeWhile (· != '.') = path := by
  have hp : ∀ c ∈ path, (c != '.') = true := by
    intro c hc
    simp only [bne_iff_ne, ne_eq]
    rintro rfl
    exact h hc
  rw [List.takeWhile_append_of_pos hp, List.takeWhile_cons_of_neg (by simp), List.append_nil]

theorem nestedPath_append_dot {path : String} (h : '.' ∉ path.toList) (rest : String) :
    nestedPath (path ++ "." ++ rest) = some path := by
  have hcs : (path ++ "." ++ rest).toList = path.toList ++ '.' :: rest.toList := by simp
  unfold nestedPath
  rw [hcs, if_pos (by simp), takeWhile_append_dot h, String.ofList_toList]

/-- A dotted field comes apart at its first dot. -/
theorem eq_append_dot_of_mem {field : String} (h : '.' ∈ field.toList) :
    ∃ path rest : String, field = path ++ "." ++ rest ∧ '.' ∉ path.toList := by
  obtain ⟨before, after, hf, hn⟩ := List.eq_append_cons_of_mem h
  refine ⟨String.ofList before, String.ofList after, ?_, by simpa using hn⟩
  rw [← String.toList_inj, hf]
  simp

/-- **The path of a dotted field is what comes before the first dot.** -/
theorem nestedPath_eq_some_iff {field path : String} :
    nestedPath field = some path ↔ '.' ∉ path.toList ∧ ∃ rest, field = path ++ "." ++ rest := by
  constructor
  · intro h
    by_cases hdot : '.' ∈ field.toList
    · obtain ⟨before, rest, rfl, hn⟩ := eq_append_dot_of_mem hdot
      rw [nestedPath_append_dot hn] at h
      obtain rfl := Option.some.inj h
      exact ⟨hn, rest, rfl⟩
    · rw [nestedPath_eq_none hdot] at h
      cases h
  · rintro ⟨hn, rest, rfl⟩
    exact nestedPath_append_dot hn rest

/-- **A field has no path exactly when it has no dot.** -/
theorem nestedPath_eq_none_iff {field : String} : nestedPath field = none ↔ '.' ∉ field.toList := by
  constructor
  · intro h hdot
    obtain ⟨path, rest, rfl, hn⟩ := eq_append_dot_of_mem hdot
    rw [nestedPath_append_dot hn] at h
    cases h
  · exact nestedPath_eq_none

/-- A facet that has to be there is the one that is found. -/
theorem Registry.require_eq_ok_iff {registry : Registry} {name : String} {spec : FieldSpec} :
    registry.require name = .ok spec ↔ registry.find? name = some spec := by
  unfold Registry.require
  cases registry.find? name with
  | none => simp
  | some found => simp

end Faceted
