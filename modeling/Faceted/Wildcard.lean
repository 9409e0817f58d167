import Faceted.Text.Blank
import Faceted.Fault

/-!
# Wildcard values

A value of a terms filter is an exact term, or a substring to look for. The second kind carries a
mark in front, so that both travel in the same list of strings. A term that starts with the mark
cannot be told from a marked substring.
-/

namespace Faceted.Wildcard

open Faceted.Text

/-- The mark of a substring. -/
def mark : String := "WILDCARD:"

/-- Marks a text as a substring to look for. -/
def encode (raw : String) : String := mark ++ raw

/-- The substring that a value carries, if it is marked. -/
def decode? (value : String) : Option String :=
  (stripStart? mark.toList value.toList).map String.ofList

/-- The value is marked. -/
def isMarked (value : String) : Bool := (decode? value).isSome

/-- The substring that a marked value carries. -/
def decode (value : String) : Except Fault String :=
  match decode? value with
  | some raw => .ok raw
  | none => .error (.notWildcard value)

/-- A marked text gives itself back. -/
theorem decode?_encode (raw : String) : decode? (encode raw) = some raw := by
  simp [decode?, encode, stripStart?_append]

/-- What can be decoded has been encoded. -/
theorem eq_encode_of_decode? {value raw : String} (h : decode? value = some raw) :
    value = encode raw := by
  obtain ⟨cs, hcs, rfl⟩ := Option.map_eq_some_iff.1 h
  have := eq_append_of_stripStart? hcs
  rw [encode, ← String.toList_inj]
  simp [this]

theorem decode?_eq_some_iff {value raw : String} : decode? value = some raw ↔ value = encode raw := by
  refine ⟨eq_encode_of_decode?, ?_⟩
  rintro rfl
  exact decode?_encode raw

end Faceted.Wildcard
