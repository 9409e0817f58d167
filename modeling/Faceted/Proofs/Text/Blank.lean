import Faceted.Text.Blank
import Mathlib.Data.List.DropRight
import Mathlib.Data.List.TakeWhile

/-!
# Trimmed text

A text is trimmed to the part of it that has nothing but blanks before and after it, and no blank at either
end of its own (`trimmed_eq_iff`). There is one such part in every text, which is empty when the whole text
is blank.

In the same way a text loses all copies of one character at its end or at its front, however many there are
(`dropTrailing_append_fill`, `dropTrailing_dropLeading_around`).
-/

namespace Faceted.Text

/-! ## Trimming again -/

/-- What is left at the front of a text does not begin with a blank. -/
theorem trimLeft_trim (cs : List Char) : trimLeft (trim cs) = trim cs := by
  -- trimming at the end keeps the first character, which is not a blank, or leaves nothing
  have hprefix : trim cs <+: trimLeft cs := List.rdropWhile_prefix isBlank (trimLeft cs)
  refine List.dropWhile_eq_self_iff.mpr fun hlen => ?_
  rw [List.IsPrefix.getElem hprefix hlen]
  exact List.dropWhile_get_zero_not isBlank cs (hlen.trans_le hprefix.length_le)

theorem trimRight_trim (cs : List Char) : trimRight (trim cs) = trim cs :=
  List.rdropWhile_idempotent isBlank (trimLeft cs)

theorem trim_trim (cs : List Char) : trim (trim cs) = trim cs := by
  rw [trim, trimLeft_trim, trimRight_trim]

/-- **Trimming what has been trimmed changes nothing.** -/
theorem trimmed_trimmed (s : String) : trimmed (trimmed s) = trimmed s := by
  simp [trimmed, trim_trim]

/-! ## The part that is left -/

/-- All characters are blanks. -/
def AllBlank (cs : List Char) : Prop := ∀ c ∈ cs, isBlank c = true

instance (cs : List Char) : Decidable (AllBlank cs) := List.decidableBAll _ cs

/-- The second text is the first one without the blanks at both ends. -/
structure Trims (s term : String) : Prop where
  /-- Nothing but blanks is left out. -/
  around : ∃ before after, s.toList = before ++ term.toList ++ after ∧ AllBlank before ∧ AllBlank after
  first : ∀ c ∈ term.toList.head?, isBlank c = false
  last : ∀ c ∈ term.toList.getLast?, isBlank c = false

theorem trimLeft_append {before : List Char} (h : AllBlank before) (cs : List Char) :
    trimLeft (before ++ cs) = trimLeft cs :=
  List.dropWhile_append_of_pos h

theorem trimRight_append {after : List Char} (h : AllBlank after) (cs : List Char) :
    trimRight (cs ++ after) = trimRight cs := by
  rw [trimRight, List.reverse_append, List.dropWhile_append_of_pos (by simpa [AllBlank] using h)]
  rfl

theorem trimLeft_eq_self {cs : List Char} (h : ∀ c ∈ cs.head?, isBlank c = false) :
    trimLeft cs = cs := by
  cases cs with
  | nil => rfl
  | cons c cs => exact List.dropWhile_cons_of_neg (by simpa using h c rfl)

theorem trimRight_eq_self {cs : List Char} (h : ∀ c ∈ cs.getLast?, isBlank c = false) :
    trimRight cs = cs := by
  have hreverse : trimLeft cs.reverse = cs.reverse := trimLeft_eq_self (by simpa using h)
  rw [trimRight, ← trimLeft, hreverse, List.reverse_reverse]

theorem trim_eq_nil_iff {cs : List Char} : trim cs = [] ↔ AllBlank cs := by
  have hright : ∀ ds, trimRight ds = [] ↔ AllBlank ds := by
    intro ds
    simp [trimRight, AllBlank]
  rw [trim, hright]
  refine ⟨fun h => ?_, fun h c hc => h c ((List.dropWhile_sublist isBlank).subset hc)⟩
  -- a text that is blank after its leading blanks has none other
  have hleft : trimLeft cs = [] := by
    cases hd : trimLeft cs with
    | nil => rfl
    | cons c rest =>
      have hc : isBlank c = true := h c (by rw [hd]; exact List.mem_cons_self)
      have hnot := List.dropWhile_get_zero_not isBlank cs (by rw [trimLeft] at hd; simp [hd])
      rw [trimLeft] at hd
      simp [hd, hc] at hnot
  simpa [trimLeft, AllBlank] using hleft

/-- Blanks alone are taken away. -/
theorem exists_append_trim (cs : List Char) :
    ∃ before after, cs = before ++ trim cs ++ after ∧ AllBlank before ∧ AllBlank after := by
  refine ⟨cs.takeWhile isBlank, ((trimLeft cs).reverse.takeWhile isBlank).reverse, ?_, ?_, ?_⟩
  · have hright : trim cs ++ ((trimLeft cs).reverse.takeWhile isBlank).reverse = trimLeft cs := by
      rw [trim, trimRight, ← List.reverse_append, List.takeWhile_append_dropWhile, List.reverse_reverse]
    rw [List.append_assoc, hright, trimLeft, List.takeWhile_append_dropWhile]
  · exact fun c hc => List.mem_takeWhile_imp hc
  · exact fun c hc => List.mem_takeWhile_imp (List.mem_reverse.mp hc)

theorem head?_trimLeft (cs : List Char) : ∀ c ∈ (trimLeft cs).head?, isBlank c = false := by
  intro c hc
  have hnot := List.head?_dropWhile_not isBlank cs
  rw [trimLeft] at hc
  rwa [Option.mem_def.mp hc] at hnot

theorem getLast?_trimRight (cs : List Char) : ∀ c ∈ (trimRight cs).getLast?, isBlank c = false := by
  intro c hc
  rw [trimRight, List.getLast?_reverse] at hc
  exact head?_trimLeft cs.reverse c hc

theorem trim_append {before after cs : List Char} (hbefore : AllBlank before) (hafter : AllBlank after)
    (hfirst : ∀ c ∈ cs.head?, isBlank c = false) (hlast : ∀ c ∈ cs.getLast?, isBlank c = false) :
    trim (before ++ cs ++ after) = cs := by
  cases cs with
  | nil =>
    rw [trim_eq_nil_iff, List.append_nil]
    exact List.forall_mem_append.mpr ⟨hbefore, hafter⟩
  | cons c cs =>
    rw [trim, List.append_assoc, trimLeft_append hbefore, trimLeft_eq_self, trimRight_append hafter,
      trimRight_eq_self hlast]
    simpa using hfirst

/-- **A text is trimmed to the part that has nothing but blanks around it and no blank at either end.** -/
theorem trimmed_eq_iff {s term : String} : trimmed s = term ↔ Trims s term := by
  constructor
  · rintro rfl
    rw [trimmed]
    refine ⟨by simpa using exists_append_trim s.toList, ?_, ?_⟩
    · rw [String.toList_ofList, ← trimLeft_trim]
      exact head?_trimLeft _
    · rw [String.toList_ofList, ← trimRight_trim]
      exact getLast?_trimRight _
  · rintro ⟨⟨before, after, hs, hbefore, hafter⟩, hfirst, hlast⟩
    rw [trimmed, hs, trim_append hbefore hafter hfirst hlast, String.ofList_toList]

/-! ## Blank text -/

theorem isBlankString_eq_false_iff {s : String} : isBlankString s = false ↔ trimmed s ≠ "" := by
  rw [isBlankString, Bool.eq_false_iff, ne_eq, String.isEmpty_iff]

theorem isBlankString_iff {s : String} : isBlankString s = true ↔ AllBlank s.toList := by
  rw [isBlankString, String.isEmpty_iff, ← trim_eq_nil_iff, ← String.toList_inj]
  simp [trimmed]

theorem trimmed_ne_empty_of_mem {s : String} {c : Char} (hc : c ∈ s.toList) (hblank : isBlank c = false) :
    trimmed s ≠ "" := by
  rw [← isBlankString_eq_false_iff, Bool.eq_false_iff, ne_eq, isBlankString_iff]
  intro h
  rw [h c hc] at hblank
  cases hblank

/-! ## Copies of one character -/

theorem dropTrailing_append_fill (c : Char) (cs : List Char) (n : Nat) :
    dropTrailing c (cs ++ fill c n) = dropTrailing c cs := by
  rw [dropTrailing, dropLeading, fill, List.reverse_append, List.reverse_replicate,
    List.dropWhile_append_of_pos fun d hd => beq_iff_eq.mpr (List.eq_of_mem_replicate hd)]
  rfl

theorem dropLeading_fill_append (c : Char) (cs : List Char) (n : Nat) :
    dropLeading c (fill c n ++ cs) = dropLeading c cs :=
  List.dropWhile_append_of_pos fun _ hd => beq_iff_eq.mpr (List.eq_of_mem_replicate hd)

theorem dropTrailing_eq_self {c : Char} {cs : List Char} (h : cs.getLast? ≠ some c) :
    dropTrailing c cs = cs :=
  List.rdropWhile_eq_self_iff.mpr fun hne hc => h (by
    rw [List.getLast?_eq_some_getLast hne, beq_iff_eq.mp hc])

theorem dropLeading_eq_self {c : Char} {cs : List Char} (h : cs.head? ≠ some c) :
    dropLeading c cs = cs := by
  cases cs with
  | nil => rfl
  | cons d cs => exact List.dropWhile_cons_of_neg (by simpa using h)

theorem exists_append_fill (c : Char) (cs : List Char) :
    ∃ core n, cs = core ++ fill c n ∧ core.getLast? ≠ some c := by
  refine ⟨cs.rdropWhile (· == c), (cs.rtakeWhile (· == c)).length, ?_, fun hlast => ?_⟩
  · have hall : ∀ d ∈ cs.rtakeWhile (· == c), d = c :=
      fun d hd => by simpa using List.mem_rtakeWhile_imp hd
    have hfill : cs.rtakeWhile (· == c) = fill c (cs.rtakeWhile (· == c)).length :=
      List.eq_replicate_iff.mpr ⟨rfl, hall⟩
    rw [← hfill, List.rdropWhile_append_rtakeWhile]
  · have hne : cs.rdropWhile (· == c) ≠ [] := by
      rintro hnil
      rw [hnil] at hlast
      cases hlast
    rw [List.getLast?_eq_some_getLast hne] at hlast
    exact List.rdropWhile_last_not (· == c) cs hne (beq_iff_eq.mpr (Option.some.inj hlast))

theorem exists_fill_append (c : Char) (cs : List Char) :
    ∃ n core, cs = fill c n ++ core ∧ core.head? ≠ some c := by
  obtain ⟨core, n, hcs, hlast⟩ := exists_append_fill c cs.reverse
  refine ⟨n, core.reverse, ?_, by rwa [List.head?_reverse]⟩
  rw [← List.reverse_reverse cs, hcs, List.reverse_append, fill, List.reverse_replicate]

/-- Every text has a part with copies of the character around it and none at its own ends. -/
theorem exists_fill_append_fill (c : Char) (cs : List Char) :
    ∃ m core n, cs = fill c m ++ core ++ fill c n ∧ core.head? ≠ some c ∧ core.getLast? ≠ some c := by
  obtain ⟨m, rest, hcs, hfirst⟩ := exists_fill_append c cs
  obtain ⟨core, n, hrest, hlast⟩ := exists_append_fill c rest
  refine ⟨m, core, n, by rw [hcs, hrest, List.append_assoc], fun hcore => hfirst ?_, hlast⟩
  rw [hrest, List.head?_append, hcore, Option.some_or]

/-- **Copies of the character at both ends make no difference.** -/
theorem dropTrailing_dropLeading_around (c : Char) (cs : List Char) (m n : Nat) :
    dropTrailing c (dropLeading c (fill c m ++ cs ++ fill c n)) = dropTrailing c (dropLeading c cs) := by
  rw [List.append_assoc, dropLeading_fill_append]
  cases hcs : dropLeading c cs with
  | nil =>
    -- nothing but copies of it
    have hfill : dropLeading c (fill c n) = [] := by simp [dropLeading, fill]
    rw [dropLeading, List.dropWhile_append, ← dropLeading, hcs, List.isEmpty_nil, if_pos rfl, ← dropLeading,
      hfill]
  | cons d core =>
    rw [dropLeading, List.dropWhile_append, ← dropLeading, hcs, List.isEmpty_cons,
      if_neg Bool.false_ne_true, dropTrailing_append_fill]

end Faceted.Text
