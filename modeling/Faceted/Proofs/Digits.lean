import Faceted.Number.Integer

/-!
# Digits of numbers

What a number is written with: digits only, the same as in the library (`natText_eq_toDigits`, by induction
on the number, its last digit coming off the end). It has at most `digitLimit` of them exactly if it is below
that power of ten (`exceedsDigits_eq_false_iff`).

What a number is read from: a text of digits of any script stands for one exactly if the digits are decimal,
and not too many (`exists_readInt_iff`). Superscripts and the like are digits, and stop the reading. Digits of
ASCII stand for the number that they denote (`readInt_of_ascii`), with any zeros before it. So an integer that can be
written is read from its own text (`readInt_intText`).
-/

namespace Faceted.Number

open Text

theorem lt_of_mem_digits {n d : Nat} (h : d ∈ digits n) : d < 10 := by
  induction n using Nat.strongRecOn with
  | _ n ih =>
    by_cases hn : n < 10
    · rw [digits_of_lt hn, List.mem_singleton] at h
      omega
    · rw [digits_of_le (by omega), List.mem_append, List.mem_singleton] at h
      rcases h with h | rfl
      · exact ih (n / 10) (by omega) h
      · omega

/-- A number is written as the library writes it. -/
theorem natText_eq_toDigits (n : Nat) : natText n = Nat.toDigits 10 n := by
  have hchar : ∀ d < 10, digitChar d = Nat.digitChar d := by decide
  induction n using Nat.strongRecOn with
  | _ n ih =>
    by_cases hn : n < 10
    · rw [natText, digits_of_lt hn, List.map_singleton, hchar n hn, Nat.toDigits_of_lt_base hn]
    · rw [natText, digits_of_le (by omega), List.map_append, ← natText, ih (n / 10) (by omega),
        List.map_singleton, hchar _ (by omega), ← Nat.toDigits_of_base_le (by decide) (by omega)]

theorem length_digits_le_iff {k : Nat} (hk : 0 < k) (n : Nat) :
    (digits n).length ≤ k ↔ n < Nat.pow 10 k := by
  have hlength : (digits n).length = (Nat.toDigits 10 n).length := by
    rw [← natText_eq_toDigits, natText, List.length_map]
  rw [hlength]
  exact Nat.length_toDigits_le_iff (by decide) hk

/-- A number below a power of ten is below the higher ones. -/
theorem lt_pow_of_lt {n j k : Nat} (hn : n < Nat.pow 10 j) (hjk : j ≤ k) : n < Nat.pow 10 k :=
  Nat.lt_of_lt_of_le hn (Nat.pow_le_pow_right (by decide) hjk)

/-- A number is written unless it has too many digits. -/
theorem exceedsDigits_eq_false_iff {n : Int} :
    exceedsDigits n = false ↔ n.natAbs < Nat.pow 10 digitLimit := by
  rw [← length_digits_le_iff (by decide), exceedsDigits, decide_eq_false_iff_not, Nat.not_lt]

/-! ## Text of digits -/

/-- No blank is a digit of any script. -/
theorem isBlank_of_isDigit {c : Char} (h : isDigit c = true) : isBlank c = false := by
  have hapart : ∀ r ∈ digitRanges, ∀ b ∈ [(0, 0x20), (0x85, 0x85), (0xA0, 0xA0), (0x1680, 0x1680),
      (0x2000, 0x200A), (0x2028, 0x202F), (0x205F, 0x205F), (0x3000, 0x3000)],
      r.2 < b.1 ∨ b.2 < r.1 := by
    decide
  obtain ⟨r, hr, hc⟩ := List.any_eq_true.mp h
  specialize hapart r hr
  simp only [List.forall_mem_cons] at hapart
  simp only [Bool.and_eq_true, decide_eq_true_eq] at hc
  simp only [isBlank, Bool.or_eq_false_iff, Bool.and_eq_false_imp, decide_eq_true_eq,
    decide_eq_false_iff_not, beq_eq_false_iff_ne]
  omega

/-- No digit is a sign or an underscore. -/
theorem ne_of_isDigit {c : Char} (h : isDigit c = true) : c ≠ '-' ∧ c ≠ '+' ∧ c ≠ '_' := by
  refine ⟨?_, ?_, ?_⟩ <;> rintro rfl <;> revert h <;> decide

theorem spanSign_of_isDigit {c : Char} (h : isDigit c = true) (cs : List Char) :
    spanSign (c :: cs) = (false, c :: cs) := by
  obtain ⟨hminus, hplus, -⟩ := ne_of_isDigit h
  unfold spanSign
  split <;> simp_all

/-- Decimal digits are read to the end, and there has to be one. -/
theorem spanDigits_of_decimal {cs : List Char} (hdigits : ∀ c ∈ cs, isDigit c = true)
    (h : ∀ c ∈ cs, (decimalValue? c).isSome = true) (afterDigit : Bool) (hne : afterDigit = true ∨ cs ≠ []) :
    ∃ ds, ds.length = cs.length ∧ spanDigits afterDigit cs = some (ds, []) := by
  induction cs generalizing afterDigit with
  | nil =>
    obtain rfl := hne.resolve_right (by simp)
    exact ⟨[], rfl, rfl⟩
  | cons c cs ih =>
    obtain ⟨hc, hcs⟩ := List.forall_mem_cons.mp h
    obtain ⟨hdigit, hrest⟩ := List.forall_mem_cons.mp hdigits
    obtain ⟨ds, hlength, hds⟩ := ih hrest hcs true (Or.inl rfl)
    obtain ⟨d, hd⟩ := Option.isSome_iff_exists.mp hc
    refine ⟨d :: ds, by simp [hlength], ?_⟩
    rw [spanDigits, if_neg (ne_of_isDigit hdigit).2.2, hd, hds]
    rfl

/-- Digits that are not all decimal are not read to the end. -/
theorem spanDigits_of_not_decimal {cs : List Char} (hdigits : ∀ c ∈ cs, isDigit c = true)
    (h : ∃ c ∈ cs, decimalValue? c = none) (afterDigit : Bool) {ds : List Nat} {rest : List Char}
    (hspan : spanDigits afterDigit cs = some (ds, rest)) : ∃ c ∈ rest, isDigit c = true := by
  induction cs generalizing afterDigit ds rest with
  | nil => obtain ⟨c, hc, -⟩ := h; cases hc
  | cons c cs ih =>
    obtain ⟨hdigit, hrest⟩ := List.forall_mem_cons.mp hdigits
    rw [spanDigits, if_neg (ne_of_isDigit hdigit).2.2] at hspan
    split at hspan
    · next d hd =>
      obtain ⟨⟨es, tail⟩, hes, heq⟩ := Option.map_eq_some_iff.mp hspan
      obtain ⟨-, rfl⟩ := Prod.mk.inj heq
      refine ih hrest ?_ _ hes
      obtain ⟨e, he, hnone⟩ := h
      rcases List.mem_cons.mp he with rfl | he
      · rw [hd] at hnone; cases hnone
      · exact ⟨e, he, hnone⟩
    · split at hspan
      · obtain ⟨-, rfl⟩ := Prod.mk.inj (Option.some.inj hspan)
        exact ⟨c, List.mem_cons_self, hdigit⟩
      · cases hspan

/-- What comes first in a text of digits is neither a blank nor a sign. -/
theorem spanSign_dropWhile_of_isDigit {cs : List Char} (hne : cs ≠ []) (h : ∀ c ∈ cs, isDigit c = true) :
    spanSign (cs.dropWhile isIntBlank) = (false, cs) := by
  cases cs with
  | nil => exact absurd rfl hne
  | cons c cs =>
    have hc := h c List.mem_cons_self
    have hblank : isIntBlank c = false := by simp [isIntBlank, isBlank_of_isDigit hc]
    rw [List.dropWhile_cons_of_neg (by simp [hblank]), spanSign_of_isDigit hc]

/-- **A text of digits is read as an integer exactly if all of them are decimal**, and they are not too
many. -/
theorem exists_readInt_iff {cs : List Char} (hne : cs ≠ []) (h : ∀ c ∈ cs, isDigit c = true) :
    (∃ n, readInt cs = .ok n) ↔ (∀ c ∈ cs, (decimalValue? c).isSome = true) ∧ cs.length ≤ digitLimit := by
  rw [readInt, spanSign_dropWhile_of_isDigit hne h]
  by_cases hdecimal : ∀ c ∈ cs, (decimalValue? c).isSome = true
  · obtain ⟨ds, hlength, hds⟩ := spanDigits_of_decimal h hdecimal false (Or.inr hne)
    simp only [hds, hlength, List.all_nil, if_true]
    by_cases hlong : digitLimit < cs.length
    · simp [hlong]
    · simpa [hlong, Nat.not_lt.mp hlong] using hdecimal
  · refine iff_of_false ?_ fun hall => hdecimal hall.1
    rintro ⟨n, hn⟩
    dsimp only at hn
    split at hn
    · cases hn
    · next ds rest hspan =>
      split at hn
      · cases hn
      split at hn
      · next hblank =>
        obtain ⟨c, hc, hdigit⟩ := spanDigits_of_not_decimal h (by simpa using hdecimal) false hspan
        have hc := List.all_eq_true.mp hblank c hc
        simp [isIntBlank, isBlank_of_isDigit hdigit] at hc
      · cases hn

/-- A text of digits is no integer if one of them is not decimal, or if there are too many. -/
theorem exists_readInt_error_iff {cs : List Char} (hne : cs ≠ []) (h : ∀ c ∈ cs, isDigit c = true) :
    (∃ f, readInt cs = .error f) ↔ (∃ c ∈ cs, decimalValue? c = none) ∨ digitLimit < cs.length := by
  have hfails : (∃ f, readInt cs = .error f) ↔ ¬∃ n, readInt cs = .ok n := by
    cases readInt cs <;> simp
  rw [hfails, exists_readInt_iff hne h, Classical.not_and_iff_not_or_not, Nat.not_le]
  simp [Option.isSome_iff_ne_none]

/-! ## Text of integers -/

/-- Every decimal digit is a digit. -/
theorem isDigit_of_decimalValue? {c : Char} {d : Nat} (h : decimalValue? c = some d) : isDigit c = true := by
  have hruns : ∀ z ∈ decimalZeros, ∃ r ∈ digitRanges, r.1 ≤ z ∧ z + 9 ≤ r.2 := by decide +kernel
  obtain ⟨z, hz, -⟩ := Option.map_eq_some_iff.mp h
  obtain ⟨r, hr, hlow, hhigh⟩ := hruns z (List.mem_of_find?_eq_some hz)
  have hc := List.find?_some hz
  simp only [Bool.and_eq_true, decide_eq_true_eq] at hc
  refine List.any_eq_true.mpr ⟨r, hr, ?_⟩
  simp only [Bool.and_eq_true, decide_eq_true_eq]
  omega

theorem decimalValue?_digitChar : ∀ d < 10, decimalValue? (digitChar d) = some d := by decide

theorem digits_ne_nil (n : Nat) : digits n ≠ [] := by
  by_cases h : n < 10
  · simp [digits_of_lt h]
  · simp [digits_of_le (by omega : 10 ≤ n)]

/-- Digits that are written are read as they are. -/
theorem spanDigits_map_digitChar {ds : List Nat} (h : ∀ d ∈ ds, d < 10) (afterDigit : Bool)
    (hne : afterDigit = true ∨ ds ≠ []) : spanDigits afterDigit (ds.map digitChar) = some (ds, []) := by
  induction ds generalizing afterDigit with
  | nil =>
    obtain rfl := hne.resolve_right (by simp)
    rfl
  | cons d ds ih =>
    obtain ⟨hd, hds⟩ := List.forall_mem_cons.mp h
    have hvalue := decimalValue?_digitChar d hd
    have hunderscore : digitChar d ≠ '_' := (ne_of_isDigit (isDigit_of_decimalValue? hvalue)).2.2
    rw [List.map_cons, spanDigits, if_neg hunderscore, hvalue, ih hds true (Or.inl rfl)]
    rfl

/-- A digit of ASCII is written for its value. -/
theorem digitChar_of_ascii {c : Char} (h : c.isDigit = true) :
    c.toNat - '0'.toNat < 10 ∧ digitChar (c.toNat - '0'.toNat) = c := by
  obtain ⟨hlow, hhigh⟩ := Char.isDigit_iff_toNat.mp h
  have hzero : '0'.toNat = 0x30 := rfl
  have hnine : '9'.toNat = 0x39 := rfl
  have hlt : c.toNat - '0'.toNat < 10 := by omega
  have hvalue : 0x30 + (c.toNat - '0'.toNat) = c.toNat := by omega
  exact ⟨hlt, by rw [digitChar, if_pos hlt, hvalue, Char.ofNat_toNat]⟩

theorem isDigit_of_ascii {c : Char} (h : c.isDigit = true) : isDigit c = true := by
  obtain ⟨hlt, hc⟩ := digitChar_of_ascii h
  rw [← hc]
  exact isDigit_of_decimalValue? (decimalValue?_digitChar _ hlt)

/-- **A text of digits of ASCII is read as the number that they denote.** -/
theorem readInt_of_ascii {cs : List Char} (hne : cs ≠ []) (h : ∀ c ∈ cs, c.isDigit = true)
    (hlength : cs.length ≤ digitLimit) : readInt cs = .ok (Nat.ofDigitChars 10 cs 0) := by
  let values := cs.map fun c => c.toNat - '0'.toNat
  have hvalues : ∀ d ∈ values, d < 10 :=
    List.forall_mem_map.mpr fun c hc => (digitChar_of_ascii (h c hc)).1
  have hcs : values.map digitChar = cs := by
    rw [List.map_map]
    exact (List.map_congr_left fun c hc => (digitChar_of_ascii (h c hc)).2).trans (List.map_id cs)
  have hspan : spanDigits false cs = some (values, []) := by
    rw [← hcs]
    exact spanDigits_map_digitChar hvalues false (Or.inr (by simpa [values] using hne))
  have hnumber : ofDigits values = Nat.ofDigitChars 10 cs 0 := List.foldl_map
  have hshort : ¬digitLimit < values.length := by simpa [values] using hlength
  rw [readInt, spanSign_dropWhile_of_isDigit hne fun c hc => isDigit_of_ascii (h c hc)]
  simp only [hspan, if_neg hshort, List.all_nil, if_true, hnumber]
  rfl

theorem spanDigits_natText (n : Nat) : spanDigits false (natText n) = some (digits n, []) :=
  spanDigits_map_digitChar (fun _ hd => lt_of_mem_digits hd) false (Or.inr (digits_ne_nil n))

theorem intText_ne_nil (n : Int) : intText n ≠ [] := by
  cases n with
  | ofNat n => exact fun h => digits_ne_nil n (List.map_eq_nil_iff.mp h)
  | negSucc n => exact List.cons_ne_nil '-' _

/-- There is no blank in the text of an integer. -/
theorem isBlank_of_mem_intText {n : Int} {c : Char} (h : c ∈ intText n) : isBlank c = false := by
  have hnat : ∀ n, c ∈ natText n → isBlank c = false := by
    intro n hc
    obtain ⟨d, hd, rfl⟩ := List.mem_map.mp hc
    exact isBlank_of_isDigit (isDigit_of_decimalValue? (decimalValue?_digitChar d (lt_of_mem_digits hd)))
  cases n with
  | ofNat n => exact hnat n h
  | negSucc n =>
    rcases List.mem_cons.mp h with rfl | h
    · decide
    · exact hnat (n + 1) h

theorem dropWhile_intText (n : Int) : (intText n).dropWhile isIntBlank = intText n := by
  cases htext : intText n with
  | nil => rfl
  | cons c cs =>
    have hc : isBlank c = false := isBlank_of_mem_intText (by rw [htext]; exact List.mem_cons_self)
    exact List.dropWhile_cons_of_neg (by simp [isIntBlank, hc])

theorem spanSign_intText (n : Int) : spanSign (intText n) = (decide (n < 0), natText n.natAbs) := by
  cases n with
  | negSucc n =>
    have hsign : decide (Int.negSucc n < 0) = true := decide_eq_true (Int.negSucc_lt_zero n)
    rw [hsign]
    rfl
  | ofNat n =>
    have hsign : decide (Int.ofNat n < 0) = false := by simp
    cases hdigits : digits n with
    | nil => exact absurd hdigits (digits_ne_nil n)
    | cons d ds =>
      have hd : d < 10 := lt_of_mem_digits (by rw [hdigits]; exact List.mem_cons_self)
      have hdigit := isDigit_of_decimalValue? (decimalValue?_digitChar d hd)
      have hnat : natText n = digitChar d :: ds.map digitChar := by rw [natText, hdigits, List.map_cons]
      rw [hsign, intText, hnat, spanSign_of_isDigit hdigit, ← hnat]
      rfl

theorem signed_natAbs (n : Int) : signed (decide (n < 0)) n.natAbs = n := by
  by_cases h : n < 0
  · rw [decide_eq_true h, signed, if_pos rfl]
    omega
  · rw [decide_eq_false h, signed, if_neg Bool.false_ne_true]
    omega

/-- **An integer that can be written is read from its text.** -/
theorem readInt_intText {n : Int} (h : exceedsDigits n = false) : readInt (intText n) = .ok n := by
  have hlength : ¬digitLimit < (digits n.natAbs).length := by simpa [exceedsDigits] using h
  rw [readInt, dropWhile_intText, spanSign_intText]
  simp only [spanDigits_natText, if_neg hlength, List.all_nil, if_true, ofDigits_digits, signed_natAbs]

end Faceted.Number
