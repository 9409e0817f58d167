import Faceted.Proofs.Pattern.Regexp
import Faceted.Proofs.Text.LowerCase

/-!
# What the pattern of typed text stands for

Each character of the text in lower case becomes a class of itself and its upper-case form. Whatever the two
mappings are, the pattern can be read as these classes, one after the other, and matches the values that
have one character of each next to each other (`casePattern_reads_as_forms`).

That does not mean that a value with the text in it is matched. A character that lower case makes into
another one, or into two, has to be in the classes that it leads to, and the full case mappings lead some of
them elsewhere. So a text is found in every value that holds it exactly when none of its characters is lost
in lower case (`finds_itself_iff_no_lost`).
-/

namespace Faceted.Suggestion

open Faceted.Text Regexp

/-! ## By any mappings -/

/--
**The pattern of a text is made of a class for each character of the text in lower case**, between two runs
of any characters. The class of a character has just the character itself and those of its upper-case form
for members, whatever the two mappings give. So the pattern matches the values that hold as many characters
next to each other, each of them a member of the class at its place.
-/
theorem casePattern_reads_as_forms :
    (∀ text, includePattern text = casePattern lower upperChar text) ∧
    ∀ (lower : List Char → List Char) (upper : Char → List Char) (text : String),
      (∃ classes : List CharSet,
        Regexp.read [] .outside (casePattern lower upper text).toList
          = some (.many .all :: classes.map .one ++ [.many .all]) ∧
        List.Forall₂ (fun c set => ∀ d, set.Has d ↔ d = c ∨ d ∈ upper c) (lower text.toList) classes) ∧
      ∀ value : String, Accepts (casePattern lower upper text) value ↔
        ∃ before middle after, value.toList = before ++ middle ++ after ∧
          List.Forall₂ (fun c d => d = c ∨ d ∈ upper c) (lower text.toList) middle := by
  refine ⟨fun _ => rfl, fun lower upper text => ⟨?_, fun value => ?_⟩⟩
  · refine ⟨(lower text.toList).map fun c => .among (c :: upper c), ?_, ?_⟩
    · rw [read_casePattern, List.map_map]
      rfl
    · rw [List.forall₂_map_right_iff, List.forall₂_same]
      intro c _ d
      exact List.mem_cons
  · rw [accepts_casePattern_iff]
    simp only [List.mem_cons]

/-! ## By the full case mappings -/

/-- A text that the pattern finds in itself is found in every value that holds it. -/
theorem accepts_around {text : String}
    (h : List.Forall₂ (fun c d => d ∈ c :: upperChar c) (lower text.toList) text.toList)
    (before after : String) : Accepts (includePattern text) (before ++ text ++ after) := by
  rw [accepts_includePattern_iff]
  exact ⟨before.toList, text.toList, after.toList, by simp, h⟩

/-- There is no room in a text for a part of it that has as many characters as the text in lower case, but
for the whole of it. -/
theorem forall₂_of_accepts_self {text : String} (h : Accepts (includePattern text) text) :
    List.Forall₂ (fun c d => d ∈ c :: upperChar c) (lower text.toList) text.toList := by
  rw [accepts_includePattern_iff] at h
  obtain ⟨before, middle, after, htext, hmiddle⟩ := h
  have hlower : text.toList.length ≤ middle.length :=
    hmiddle.length_eq ▸ length_le_lowerFrom [] text.toList
  have hlength := congrArg List.length htext
  simp only [List.length_append] at hlength
  have hbefore : before = [] := List.length_eq_zero_iff.mp (by omega)
  have hafter : after = [] := List.length_eq_zero_iff.mp (by omega)
  have hwhole : middle = text.toList := by rw [htext, hbefore, hafter]; simp
  rwa [hwhole] at hmiddle

theorem accepts_self_iff (text : String) :
    Accepts (includePattern text) text ↔ ∀ c ∈ text.toList, ¬IsLost c := by
  rw [← forall₂_lower_iff]
  refine ⟨forall₂_of_accepts_self, fun h => ?_⟩
  simpa using accepts_around h "" ""

/--
**A text is found in every value that holds it exactly when no character of it is lost in lower case.**

If one is, the text is not even found in the value that is the text itself. The lost characters are
those that do not come back from lower case: they have several lower-case characters, or one that is not the
character itself and does not have it in its upper-case form.
-/
theorem finds_itself_iff_no_lost (text : String) :
    ((∀ before after : String, Accepts (includePattern text) (before ++ text ++ after)) ↔
      ∀ c ∈ text.toList, ¬IsLost c) ∧
    (Accepts (includePattern text) text ↔ ∀ c ∈ text.toList, ¬IsLost c) ∧
    ∀ c, IsLost c ↔ ¬∃ d, lowerChar c = [d] ∧ (c = d ∨ c ∈ upperChar d) := by
  refine ⟨⟨fun h => ?_, fun h before after => ?_⟩, accepts_self_iff text, fun c => ?_⟩
  · rw [← accepts_self_iff]
    simpa using h "" ""
  · exact accepts_around ((forall₂_lower_iff text.toList).mpr h) before after
  · have hback : ComesBack c ↔ ¬IsLost c := comesBack_iff
    simp only [ComesBack, List.mem_cons] at hback
    rw [hback, not_not]

/-- The sign for kelvin becomes the letter k, which has another capital, so that it is not found in itself;
neither is the capital I with a dot, which becomes two characters. -/
theorem not_finds_kelvin :
    includePattern "\u212A" = ".*[kK].*" ∧
    ¬Accepts (includePattern "\u212A") ("" ++ "\u212A" ++ "") ∧
    ¬Accepts (includePattern "\u0130") ("" ++ "\u0130" ++ "") := by
  have hlost (c : Char) (hc : IsLost c) :
      ¬Accepts (includePattern (String.ofList [c])) ("" ++ String.ofList [c] ++ "") := by
    intro h
    rw [String.empty_append, String.append_empty, accepts_self_iff] at h
    exact h c (by simp) hc
  exact ⟨by decide +kernel, hlost '\u212A' (by decide), hlost '\u0130' (by decide)⟩

end Faceted.Suggestion
