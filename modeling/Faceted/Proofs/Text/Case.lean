import Faceted.Text.Case

/-!
# Case of ASCII text

On ASCII characters the case mappings change letters only, one for one. So lower case of ASCII text
goes character by character, and the lower and upper forms of a character are those that differ from
it in case alone.
-/

namespace Faceted.Text

/-- All characters of the text are ASCII. -/
def IsAscii (cs : List Char) : Prop := ∀ c ∈ cs, c.toNat < 128

instance (cs : List Char) : Decidable (IsAscii cs) := List.decidableBAll _ cs

/-- What holds of each number below 128 holds of each ASCII character. -/
theorem forall_ascii {p : Char → Prop} (h : ∀ n < 128, p (Char.ofNat n)) {c : Char}
    (hc : c.toNat < 128) : p c := by
  have := h c.toNat hc
  rwa [Char.ofNat_toNat] at this

/-! ## The tables -/

/-- A run leaves the characters before its first one alone. -/
theorem image?_eq_none {r : CaseRun} {n : Nat} (h : n < r.first) : r.image? n = none := by
  unfold CaseRun.image?
  rw [if_neg]
  simp only [Bool.and_eq_true, decide_eq_true_eq, beq_iff_eq, not_and]
  omega

/-- In tables where one run alone begins with an ASCII character, that run decides. -/
theorem mapCase_ascii {many : List (Nat × List Nat)} {runs : List CaseRun} {r : CaseRun}
    (hmany : ∀ e ∈ many, 128 ≤ e.1) (hruns : ∀ s ∈ runs, 128 ≤ s.first) {c : Char}
    (hc : c.toNat < 128) : mapCase many (r :: runs) c = mapCase [] [r] c := by
  have hlookup : many.lookup c.toNat = none := by
    rw [List.lookup_eq_none_iff]
    intro e he
    have := hmany e he
    rw [bne_iff_ne]
    omega
  have hrest : runs.findSome? (·.image? c.toNat) = none := by
    rw [List.findSome?_eq_none_iff]
    intro s hs
    exact image?_eq_none (Nat.lt_of_lt_of_le hc (hruns s hs))
  simp only [mapCase, hlookup, List.findSome?_cons, hrest, List.lookup_nil, List.findSome?_nil]

theorem lowerChar_ascii {c : Char} (hc : c.toNat < 128) : lowerChar c = [c.toLower] := by
  have hlower : lowerRuns = ⟨0x41, 0x5A, 1, 32⟩ :: lowerRuns.tail := rfl
  rw [lowerChar, hlower, mapCase_ascii (by decide +kernel) (by decide +kernel) hc]
  exact forall_ascii (p := fun c => mapCase [] [⟨0x41, 0x5A, 1, 32⟩] c = [c.toLower])
    (by decide +kernel) hc

theorem upperChar_ascii {c : Char} (hc : c.toNat < 128) : upperChar c = [c.toUpper] := by
  have hupper : upperRuns = ⟨0x61, 0x7A, 1, -32⟩ :: upperRuns.tail := rfl
  rw [upperChar, hupper, mapCase_ascii (by decide +kernel) (by decide +kernel) hc]
  exact forall_ascii (p := fun c => mapCase [] [⟨0x61, 0x7A, 1, -32⟩] c = [c.toUpper])
    (by decide +kernel) hc

/-! ## Letters -/

theorem toNat_toLower_lt {c : Char} : c.toNat < 128 → c.toLower.toNat < 128 :=
  forall_ascii (p := fun c => c.toLower.toNat < 128) (by decide +kernel)

theorem toLower_toUpper_toLower {c : Char} : c.toNat < 128 → c.toLower.toUpper.toLower = c.toLower :=
  forall_ascii (p := fun c => c.toLower.toUpper.toLower = c.toLower) (by decide +kernel)

theorem toLower_toLower {c : Char} : c.toNat < 128 → c.toLower.toLower = c.toLower :=
  forall_ascii (p := fun c => c.toLower.toLower = c.toLower) (by decide +kernel)

theorem eq_toLower_or_eq_toUpper {c : Char} :
    c.toNat < 128 → c = c.toLower ∨ c = c.toLower.toUpper :=
  forall_ascii (p := fun c => c = c.toLower ∨ c = c.toLower.toUpper) (by decide +kernel)

/-- **Lower case of ASCII text goes character by character**; there is no sigma in it. -/
theorem lower_ascii {cs : List Char} (h : IsAscii cs) : lower cs = cs.map Char.toLower := by
  unfold lower
  generalize ([] : List Char) = before
  induction cs generalizing before with
  | nil => rfl
  | cons c cs ih =>
    obtain ⟨hc, hcs⟩ := List.forall_mem_cons.mp h
    have hsigma : c ≠ 'Σ' := by
      rintro rfl
      exact absurd hc (by decide)
    rw [lowerFrom, if_neg hsigma, lowerChar_ascii hc, ih hcs]
    rfl

/-- **The lower and upper forms of an ASCII character are those that differ in case alone.** -/
theorem mem_forms_iff {c d : Char} (hc : c.toNat < 128) (hd : d.toNat < 128) :
    d ∈ c.toLower :: upperChar c.toLower ↔ d.toLower = c.toLower := by
  rw [upperChar_ascii (toNat_toLower_lt hc)]
  simp only [List.mem_cons, List.not_mem_nil, or_false]
  constructor
  · rintro (rfl | rfl)
    · exact toLower_toLower hc
    · exact toLower_toUpper_toLower hc
  · intro h
    rw [← h]
    exact eq_toLower_or_eq_toUpper hd

end Faceted.Text
