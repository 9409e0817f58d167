import Faceted.Proofs.Text.Case

/-!
# Wildcard patterns

In a pattern `*` stands for any run of characters and `?` for any one; a backslash quotes the next
character, and stands for itself at the end. Every other character stands for itself, in either case
where case does not count.

A text between two stars asks for the values that hold it, as long as none of its characters is special
(`accepts_around_iff`). With a special character in the text there is a value that the pattern matches
and that does not hold the text: one that the quotes and stars of the text leave something out of
(`exists_accepts_not_held`).
-/

namespace Faceted.Glob

open Faceted.Text

/-! ## The language -/

/-- A piece of a pattern. -/
inductive Piece where
  /-- Any run of characters. -/
  | run
  /-- Any one character. -/
  | one
  /-- This character. -/
  | char (c : Char)

/-- The pieces of a pattern. -/
def read : List Char → List Piece
  | [] => []
  | '*' :: cs => .run :: read cs
  | '?' :: cs => .one :: read cs
  | '\\' :: c :: cs => .char c :: read cs
  | c :: cs => .char c :: read cs

/-- The two characters are the same, or differ in case alone where case does not count. -/
def SameChar (caseInsensitive : Bool) (c d : Char) : Prop :=
  if caseInsensitive then d.toLower = c.toLower else d = c

/-- The value is made of what the pieces stand for, one after the other. -/
def Matches (caseInsensitive : Bool) : List Piece → List Char → Prop
  | [], v => v = []
  | .run :: pieces, v => ∃ run rest, v = run ++ rest ∧ Matches caseInsensitive pieces rest
  | .one :: pieces, v => ∃ c rest, v = c :: rest ∧ Matches caseInsensitive pieces rest
  | .char c :: pieces, v => ∃ d rest, v = d :: rest ∧ SameChar caseInsensitive c d ∧
    Matches caseInsensitive pieces rest

/-- The pattern matches the whole value. -/
def Accepts (caseInsensitive : Bool) (pattern value : String) : Prop :=
  Matches caseInsensitive (read pattern.toList) value.toList

/-- The characters that are special in a pattern. -/
def specials : List Char := ['*', '?', '\\']

/-- The value holds the text, in either case. -/
def Holds (text value : List Char) : Prop :=
  ∃ before middle after, value = before ++ middle ++ after ∧
    middle.map Char.toLower = text.map Char.toLower

/-! ## Texts without special characters -/

theorem read_cons_of_not_special {c : Char} (h : c ∉ specials) (cs : List Char) :
    read (c :: cs) = .char c :: read cs := by
  simp only [specials, List.mem_cons, List.not_mem_nil, or_false, not_or] at h
  obtain ⟨hstar, hmark, hback⟩ := h
  rw [read]
  · exact hstar
  · exact hmark
  · rintro _ _ rfl
    exact absurd rfl hback

/-- Characters that are not special stand for themselves. -/
theorem read_append_of_not_special {text : List Char} (h : ∀ c ∈ text, c ∉ specials)
    (cs : List Char) : read (text ++ cs) = text.map .char ++ read cs := by
  induction text with
  | nil => rfl
  | cons c text ih =>
    obtain ⟨hc, htext⟩ := List.forall_mem_cons.mp h
    rw [List.cons_append, read_cons_of_not_special hc, ih htext]
    rfl

theorem matches_chars_iff {text : List Char} {pieces : List Piece} {v : List Char} :
    Matches true (text.map .char ++ pieces) v ↔
      ∃ middle rest, v = middle ++ rest ∧ middle.map Char.toLower = text.map Char.toLower ∧
        Matches true pieces rest := by
  induction text generalizing v with
  | nil =>
    constructor
    · intro h
      exact ⟨[], v, rfl, rfl, h⟩
    · rintro ⟨middle, rest, rfl, hm, h⟩
      obtain rfl : middle = [] := by simpa using hm
      exact h
  | cons c text ih =>
    rw [List.map_cons, List.cons_append, Matches]
    constructor
    · rintro ⟨d, rest, rfl, hd, h⟩
      obtain ⟨middle, rest, rfl, hm, h⟩ := ih.mp h
      exact ⟨d :: middle, rest, rfl, by simpa [hm, SameChar] using hd, h⟩
    · rintro ⟨middle, rest, rfl, hm, h⟩
      obtain ⟨d, middle, rfl, hd, hm⟩ := List.map_eq_cons_iff.mp hm
      exact ⟨d, middle ++ rest, rfl, by simpa [SameChar] using hd, ih.mpr ⟨middle, rest, rfl, hm, h⟩⟩

/-- **A text without special characters between two stars asks for the values that hold it.** -/
theorem matches_around_iff {text v : List Char} (h : ∀ c ∈ text, c ∉ specials) :
    Matches true (read ('*' :: text ++ ['*'])) v ↔ Holds text v := by
  have hread : read ('*' :: text ++ ['*']) = .run :: (text.map .char ++ [.run]) := by
    rw [List.cons_append, read, read_append_of_not_special h]
    rfl
  rw [hread, Matches]
  simp only [matches_chars_iff]
  constructor
  · rintro ⟨before, _, rfl, middle, after, rfl, hm, -⟩
    exact ⟨before, middle, after, by simp, hm⟩
  · rintro ⟨before, middle, after, rfl, hm⟩
    exact ⟨before, middle ++ after, by simp, middle, after, rfl, hm, after, [], by simp, rfl⟩

/-! ## Texts without quotes -/

/-- A text without a backslash matches itself as a pattern, in either case: a star as the run of one
star, a question mark as any character. -/
theorem matches_of_not_quoting {text cs middle rest : List Char} (h : '\\' ∉ text)
    (hm : middle.map Char.toLower = text.map Char.toLower) (hrest : Matches true (read cs) rest) :
    Matches true (read (text ++ cs)) (middle ++ rest) := by
  induction text generalizing middle with
  | nil =>
    obtain rfl : middle = [] := by simpa using hm
    exact hrest
  | cons c text ih =>
    obtain ⟨d, middle, rfl, hd, hm⟩ := List.map_eq_cons_iff.mp hm
    obtain ⟨hc, htext⟩ : '\\' ≠ c ∧ '\\' ∉ text := by simpa using h
    have hcs := ih htext hm
    rw [List.cons_append]
    by_cases hstar : c = '*'
    · subst hstar
      exact ⟨[d], middle ++ rest, rfl, hcs⟩
    · by_cases hmark : c = '?'
      · subst hmark
        exact ⟨d, middle ++ rest, rfl, hcs⟩
      · rw [read_cons_of_not_special (by simp [specials, hstar, hmark, hc.symm])]
        exact ⟨d, middle ++ rest, rfl, hd, hcs⟩

/-- **Without a backslash in the text the pattern matches every value that holds it.** -/
theorem matches_around_of_holds {text v : List Char} (h : '\\' ∉ text) (hv : Holds text v) :
    Matches true (read ('*' :: text ++ ['*'])) v := by
  obtain ⟨before, middle, after, rfl, hm⟩ := hv
  rw [List.cons_append, read, List.append_assoc]
  refine ⟨before, middle ++ after, rfl, ?_⟩
  exact matches_of_not_quoting h hm ⟨after, [], by simp, rfl⟩

/-! ## Texts with special characters -/

/-- A shortest value that the pieces match. -/
def sample : List Piece → List Char
  | [] => []
  | .run :: pieces => sample pieces
  | .one :: pieces => 'a' :: sample pieces
  | .char c :: pieces => c :: sample pieces

theorem matches_sample (caseInsensitive : Bool) : ∀ pieces : List Piece,
    Matches caseInsensitive pieces (sample pieces)
  | [] => rfl
  | .run :: pieces => ⟨[], _, rfl, matches_sample caseInsensitive pieces⟩
  | .one :: pieces => ⟨_, _, rfl, matches_sample caseInsensitive pieces⟩
  | .char c :: pieces =>
    ⟨c, _, rfl, by simp [SameChar], matches_sample caseInsensitive pieces⟩

/-- The sample has no other characters than those of the pattern. -/
theorem mem_sample_read {c : Char} (cs : List Char) (h : c ∈ sample (read cs)) :
    c = 'a' ∨ c ∈ cs := by
  fun_induction read cs with
  | case1 => cases h
  | case2 cs ih => exact (ih h).imp_right (List.mem_cons_of_mem _)
  | case3 cs ih =>
    rcases List.mem_cons.mp h with rfl | h
    · exact Or.inl rfl
    · exact (ih h).imp_right (List.mem_cons_of_mem _)
  | case4 d cs ih =>
    rcases List.mem_cons.mp h with rfl | h
    · simp
    · exact (ih h).imp_right fun h => List.mem_cons_of_mem _ (List.mem_cons_of_mem _ h)
  | case5 d cs _ _ _ ih =>
    rcases List.mem_cons.mp h with rfl | h
    · simp
    · exact (ih h).imp_right (List.mem_cons_of_mem _)

/-- The sample of a text before a star is no longer than the text, and is the text in either case only
where the text has no special character. -/
theorem sample_read_star : ∀ text : List Char,
    (sample (read (text ++ ['*']))).length ≤ text.length ∧
      ((sample (read (text ++ ['*']))).map Char.toLower = text.map Char.toLower →
        ∀ c ∈ text, c ∉ specials)
  | [] => by simp [read, sample]
  | c :: text => by
    obtain ⟨hlength, hsame⟩ := sample_read_star text
    by_cases hstar : c = '*'
    · subst hstar
      -- the star is left out, so that the sample is shorter
      refine ⟨Nat.le_succ_of_le hlength, fun h => absurd (congrArg List.length h) ?_⟩
      simp only [List.cons_append, read, sample, List.length_map, List.length_cons]
      omega
    · by_cases hmark : c = '?'
      · subst hmark
        refine ⟨Nat.succ_le_succ hlength, fun h => absurd (List.cons.inj h).1 (by decide)⟩
      · by_cases hback : c = '\\'
        · subst hback
          cases text with
          | nil =>
            -- the backslash quotes the star that stands after the text
            refine ⟨Nat.le_refl 1, fun h => absurd (List.cons.inj h).1 (by decide)⟩
          | cons d text =>
            obtain ⟨hlength, -⟩ := sample_read_star text
            refine ⟨?_, fun h => absurd (congrArg List.length h) ?_⟩
            · simp only [List.cons_append, read, sample, List.length_cons]
              omega
            · simp only [List.cons_append, read, sample, List.length_map, List.length_cons]
              omega
        · have hc : c ∉ specials := by simp [specials, hstar, hmark, hback]
          rw [List.cons_append, read_cons_of_not_special hc]
          refine ⟨Nat.succ_le_succ hlength, fun h => ?_⟩
          exact List.forall_mem_cons.mpr ⟨hc, hsame (List.cons.inj h).2⟩

/-- **A text with a special character between two stars matches a value that does not hold it**, made of
characters of the text, stars and letters. -/
theorem exists_matches_not_holds {text : List Char} (h : ∃ c ∈ text, c ∈ specials) :
    ∃ v, (∀ c ∈ v, c = 'a' ∨ c = '*' ∨ c ∈ text) ∧
      Matches true (read ('*' :: text ++ ['*'])) v ∧ ¬Holds text v := by
  obtain ⟨c, hc, hspecial⟩ := h
  obtain ⟨hlength, hsame⟩ := sample_read_star text
  refine ⟨sample (read (text ++ ['*'])), ?_, ⟨[], _, rfl, matches_sample true _⟩, ?_⟩
  · intro d hd
    rcases mem_sample_read _ hd with rfl | hd
    · exact Or.inl rfl
    · rcases List.mem_append.mp hd with hd | hd
      · exact Or.inr (Or.inr hd)
      · exact Or.inr (Or.inl (by simpa using hd))
  · rintro ⟨before, middle, after, hv, hm⟩
    have hmiddle : middle.length = text.length := by
      simpa using congrArg List.length hm
    rw [hv] at hlength
    simp only [List.length_append] at hlength
    -- a value no longer than the text can hold it only as a whole
    obtain rfl : before = [] := List.length_eq_zero_iff.mp (by omega)
    obtain rfl : after = [] := List.length_eq_zero_iff.mp (by omega)
    rw [List.nil_append, List.append_nil] at hv
    rw [hv] at hsame
    exact hsame hm c hc hspecial

end Faceted.Glob
