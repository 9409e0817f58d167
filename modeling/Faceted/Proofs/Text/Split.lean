import Faceted.Text.Blank

/-!
# Splitting and joining text

Text is joined with a separator as the standard library joins lists, so that the library's laws of splitting at
this separator hold of it: what is joined is split into the same parts if none of them has the separator.

The parts of a split text do not have the separator (`not_mem_of_mem_splitOn`), and one of them is empty exactly
where two separators meet, if one more is put at each end (`nil_mem_splitOn_iff`).
-/

namespace Faceted.Text

theorem joinWith_eq (sep : List Char) (parts : List (List Char)) :
    joinWith sep parts = sep.intercalate parts := by
  induction parts with
  | nil => rfl
  | cons p ps ih =>
    cases ps with
    | nil => simp [joinWith]
    | cons q ps => rw [joinWith, ih, List.intercalate_cons_cons]

/-- The parts are free of the character. -/
theorem not_mem_of_mem_splitOn {sep : Char} {part cs : List Char} (h : part ∈ cs.splitOn sep) : sep ∉ part := by
  induction cs generalizing part with
  | nil =>
    rw [List.splitOn_nil, List.mem_singleton] at h
    rw [h]
    exact List.not_mem_nil
  | cons c cs ih =>
    rw [List.splitOn_cons_eq_if_modifyHead] at h
    cases hparts : cs.splitOn sep with
    | nil => exact absurd hparts (List.splitOn_ne_nil sep cs)
    | cons first rest =>
      rw [hparts] at h ih
      by_cases hc : c = sep
      · rw [if_pos (beq_iff_eq.mpr hc), List.mem_cons] at h
        obtain rfl | h := h
        · exact List.not_mem_nil
        · exact ih h
      · rw [if_neg (by simpa using hc), List.modifyHead_cons, List.mem_cons] at h
        obtain rfl | h := h
        · rw [List.mem_cons, not_or]
          exact ⟨fun heq => hc heq.symm, ih List.mem_cons_self⟩
        · exact ih (List.mem_cons_of_mem first h)

theorem head?_splitOn_eq_nil_iff {sep : Char} {cs : List Char} :
    (cs.splitOn sep).head? = some [] ↔ [sep] <+: cs ++ [sep] := by
  cases cs with
  | nil => simp
  | cons c cs =>
    rw [List.splitOn_cons_eq_if_modifyHead, List.cons_append, List.cons_prefix_cons,
      and_iff_left (List.nil_prefix)]
    by_cases hc : c = sep
    · simp [hc]
    · cases hparts : cs.splitOn sep with
      | nil => exact absurd hparts (List.splitOn_ne_nil sep cs)
      | cons first rest => simp [hc, Ne.symm hc]

theorem nil_mem_tail_splitOn_iff {sep : Char} {cs : List Char} :
    [] ∈ (cs.splitOn sep).tail ↔ [sep, sep] <:+: cs ++ [sep] := by
  induction cs with
  | nil => simp [List.infix_cons_iff]
  | cons c cs ih =>
    rw [List.splitOn_cons_eq_if_modifyHead, List.cons_append, List.infix_cons_iff, List.cons_prefix_cons, ← ih,
      ← head?_splitOn_eq_nil_iff]
    cases hparts : cs.splitOn sep with
    | nil => exact absurd hparts (List.splitOn_ne_nil sep cs)
    | cons first rest =>
      by_cases hc : c = sep
      · simp [hc, eq_comm]
      · simp [hc, Ne.symm hc]

/-- **An empty part is a place where two separators meet.** -/
theorem nil_mem_splitOn_iff {sep : Char} {cs : List Char} :
    [] ∈ cs.splitOn sep ↔ [sep, sep] <:+: sep :: (cs ++ [sep]) := by
  rw [List.infix_cons_iff, List.cons_prefix_cons, ← head?_splitOn_eq_nil_iff, ← nil_mem_tail_splitOn_iff]
  cases hparts : cs.splitOn sep with
  | nil => exact absurd hparts (List.splitOn_ne_nil sep cs)
  | cons first rest => simp [eq_comm]

end Faceted.Text
