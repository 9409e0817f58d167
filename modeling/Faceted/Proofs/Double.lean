import Faceted.Number.Double
import Mathlib.Tactic.Positivity
import Mathlib.Tactic.Ring

/-!
# Integers and doubles

An integer has a double near to it exactly if it is smaller than `2 ^ 1024 - 2 ^ 970`, the point half way
between the largest double and the next power of two (`ofInt?_eq_none_iff`).

A whole number is first moved, by binary digits, so that it has 53 of them (`shifted_bounds`), and rounded
then, a half going up to an even number (`le_roundDiv_iff`). Of 1024 digits, only the numbers that round up
to the next power of two come out as infinity; with fewer digits none does, and with more all do.

A double that is not below zero or zero may still not be above zero, since it may not be a number
(`exceedsZero_iff`). One that is near to an integer always is (`isNonpositive_of_ofInt?`).
-/

namespace Faceted.Number.Double

/-! ## Rounding -/

theorem roundDiv_bounds (n d : Nat) : n / d ≤ roundDiv n d ∧ roundDiv n d ≤ n / d + 1 := by
  simp only [roundDiv]
  split <;> omega

/-- A half goes up to an even number. -/
theorem le_roundDiv_iff {n half m : Nat} (hhalf : 0 < half) (hm : 0 < m) (heven : m % 2 = 0) :
    m ≤ roundDiv n (2 * half) ↔ 2 * (half * m) ≤ n + half := by
  have hn : 2 * (half * (n / (2 * half))) + n % (2 * half) = n := by
    rw [← Nat.mul_assoc]
    exact Nat.div_add_mod n (2 * half)
  have hr : n % (2 * half) < 2 * half := Nat.mod_lt _ (by omega)
  simp only [roundDiv, Bool.or_eq_true, decide_eq_true_eq, Bool.and_eq_true, beq_iff_eq]
  generalize n / (2 * half) = q at *
  generalize n % (2 * half) = r at *
  rcases Nat.lt_trichotomy m (q + 1) with hlt | rfl | hgt
  · have hmul : half * m ≤ half * q := Nat.mul_le_mul_left half (by omega)
    split <;> omega
  · have hmul : half * (q + 1) = half * q + half := by ring
    split <;> omega
  · have hmul : half * (q + 2) ≤ half * m := Nat.mul_le_mul_left half (by omega)
    rw [Nat.mul_add] at hmul
    split <;> omega

/-- Moved by the right number of binary digits, a whole number has just so many in front of the point. -/
theorem shifted_bounds {n : Nat} (hn : n ≠ 0) (p : Nat) :
    2 ^ p ≤ n * 2 ^ (p - n.log2) / 2 ^ (n.log2 - p) ∧
      n * 2 ^ (p - n.log2) / 2 ^ (n.log2 - p) < 2 ^ (p + 1) := by
  have hpow (q : Nat) : 2 ^ (p + q) * 2 ^ (n.log2 - p) = 2 ^ (n.log2 + q) * 2 ^ (p - n.log2) := by
    rw [← Nat.pow_add, ← Nat.pow_add]
    congr 1
    omega
  rw [Nat.le_div_iff_mul_le (Nat.two_pow_pos _), Nat.div_lt_iff_lt_mul (Nat.two_pow_pos _), hpow 1]
  constructor
  · rw [show 2 ^ p * 2 ^ (n.log2 - p) = _ from hpow 0]
    exact Nat.mul_le_mul_right _ (Nat.log2_self_le hn)
  · exact Nat.mul_lt_mul_of_pos_right Nat.lt_log2_self (Nat.two_pow_pos _)

/-! ## Bits -/

/-- The bits of the double nearest to a whole number, which is not below one. -/
theorem roundedBits_one {n : Nat} (hn : n ≠ 0) :
    roundedBits n 1 = min ((n.log2 + 1022) * 2 ^ 52 + roundDiv (n * 2 ^ (52 - n.log2)) (2 ^ (n.log2 - 52)))
      infiniteBits := by
  have hlog : (Nat.log2 1 : Int) = 0 := by decide
  have hwide := (shifted_bounds hn 53).1
  have hround := Nat.le_trans (shifted_bounds hn 52).1 (roundDiv_bounds _ _).1
  simp only [roundedBits, if_neg hn, hlog, Int.sub_zero, Nat.pow_eq, Nat.one_mul]
  generalize n.log2 = k at *
  have hwiden : (53 - (k : Int)).toNat = 53 - k ∧ ((k : Int) - 53).toNat = k - 53 := by omega
  have hq : max ((k : Int) - 52) (-1074) = k - 52 := by omega
  have hshift : (-((k : Int) - 52)).toNat = 52 - k ∧ ((k : Int) - 52).toNat = k - 52 ∧
      ((k : Int) - 52 + 1074).toNat = k + 1022 := by omega
  rw [hwiden.1, hwiden.2, if_pos hwide, hq, hshift.1, hshift.2.1, hshift.2.2, if_neg (by omega)]

theorem roundedBits_le (n d : Nat) : roundedBits n d ≤ infiniteBits := by
  unfold roundedBits
  split
  · exact Nat.zero_le _
  · exact Nat.min_le_right _ _

/-- The parts of a double that is put together from its sign and its other bits. -/
theorem parts_ofBits {rest : Nat} (h : rest ≤ infiniteBits) (negative : Bool) :
    (ofBits negative rest).negative = negative ∧
      (ofBits negative rest).biased = rest / 2 ^ 52 ∧ (ofBits negative rest).fraction = rest % 2 ^ 52 := by
  have hpow : Nat.pow 2 52 = 2 ^ 52 ∧ Nat.pow 2 63 = 2 ^ 63 ∧ Nat.pow 2 11 = 2 ^ 11 := by decide
  cases negative <;>
    simp only [ofBits, Double.negative, biased, fraction, infiniteBits, UInt64.toNat_ofNat', hpow, if_true,
      Bool.false_eq_true, if_false, decide_eq_true_eq, decide_eq_false_iff_not] at h ⊢ <;> omega

theorem isInfinite_ofBits {rest : Nat} (h : rest ≤ infiniteBits) (negative : Bool) :
    (ofBits negative rest).isInfinite = true ↔ rest = infiniteBits := by
  obtain ⟨-, hbiased, hfraction⟩ := parts_ofBits h negative
  rw [isInfinite, hbiased, hfraction, Bool.and_eq_true, beq_iff_eq, beq_iff_eq]
  rw [infiniteBits, Nat.pow_eq] at *
  omega

theorem isNaN_ofBits {rest : Nat} (h : rest ≤ infiniteBits) (negative : Bool) :
    (ofBits negative rest).isNaN = false := by
  obtain ⟨-, hbiased, hfraction⟩ := parts_ofBits h negative
  rw [isNaN, hbiased, hfraction, Bool.and_eq_false_imp, beq_iff_eq, bne_eq_false_iff_eq]
  rw [infiniteBits, Nat.pow_eq] at h
  omega

theorem isZero_ofBits {rest : Nat} (h : rest ≤ infiniteBits) (negative : Bool) :
    (ofBits negative rest).isZero = true ↔ rest = 0 := by
  obtain ⟨-, hbiased, hfraction⟩ := parts_ofBits h negative
  rw [isZero, hbiased, hfraction, Bool.and_eq_true, beq_iff_eq, beq_iff_eq]
  omega

/-! ## Integers -/

theorem ofInt?_eq_none_iff_roundedBits {n : Int} :
    ofInt? n = none ↔ roundedBits n.natAbs 1 = infiniteBits := by
  rw [← isInfinite_ofBits (roundedBits_le _ _) (n < 0), ← ofRatio, ofInt?]
  cases (ofRatio (n < 0) n.natAbs 1).isInfinite <;> simp

/-- **The integers that no double is near.** -/
theorem ofInt?_eq_none_iff {n : Int} : ofInt? n = none ↔ 2 ^ 1024 - 2 ^ 970 ≤ n.natAbs := by
  rw [ofInt?_eq_none_iff_roundedBits]
  generalize n.natAbs = n
  have hpow : 2 ^ 1024 = 2 ^ 54 * 2 ^ 970 ∧ 2 ^ 1023 = 2 ^ 53 * 2 ^ 970 := by
    constructor <;> rw [← Nat.pow_add]
  have hhalf : 0 < 2 ^ 970 := by positivity
  by_cases hn : n = 0
  · subst hn
    refine iff_of_false (by decide) ?_
    generalize 2 ^ 970 = half at *
    omega
  rw [roundedBits_one hn, min_eq_right_iff, infiniteBits, Nat.pow_eq]
  obtain ⟨hround, hround'⟩ := roundDiv_bounds (n * 2 ^ (52 - n.log2)) (2 ^ (n.log2 - 52))
  obtain ⟨hshifted, hshifted'⟩ := shifted_bounds hn 52
  rcases Nat.lt_trichotomy n.log2 1023 with hk | hk | hk
  · have hlt := hk
    rw [Nat.log2_lt hn] at hlt
    generalize 2 ^ 970 = half at *
    refine iff_of_false ?_ ?_ <;> omega
  · have hhalves := @le_roundDiv_iff n (2 ^ 970) (2 ^ 53) hhalf (by decide) (by decide)
    have hscale : n * 2 ^ (52 - 1023) = n ∧ 2 ^ (1023 - 52) = 2 * 2 ^ 970 :=
      ⟨Nat.mul_one n, by rw [← Nat.pow_succ']⟩
    rw [hk, hscale.1, hscale.2, hpow.1]
    rw [Nat.mul_comm (2 ^ 970)] at hhalves
    generalize 2 ^ 970 = half at *
    omega
  · have hle : 1024 ≤ n.log2 := hk
    rw [Nat.le_log2 hn] at hle
    generalize 2 ^ 970 = half at *
    refine iff_of_true ?_ ?_ <;> omega

/-! ## Above zero -/

/-- Zero is less than the double: it is infinite or a fraction other than zero, and not negative. -/
def ExceedsZero (x : Double) : Prop :=
  x.isInfinite = true ∧ x.negative = false ∨ x.isFinite = true ∧ 0 < signed x.negative x.ratio.1

instance (x : Double) : Decidable x.ExceedsZero := inferInstanceAs (Decidable (_ ∨ _))

theorem zero_lt_signed_iff {negative : Bool} {n : Nat} :
    0 < signed negative n ↔ negative = false ∧ 0 < n := by
  cases negative <;> simp [signed]

theorem ratio_pos_iff {x : Double} : 0 < x.ratio.1 ↔ x.isZero = false := by
  have hpow : 0 < Nat.pow 2 x.exponent.toNat := Nat.pow_pos (by decide)
  have hhidden : 0 < Nat.pow 2 52 := Nat.pow_pos (by decide)
  rw [ratio, Nat.mul_pos_iff_of_pos_right hpow, mantissa, isZero]
  by_cases hbiased : x.biased = 0
  · simp [hbiased, Nat.pos_iff_ne_zero]
  · simp only [hbiased, if_false, beq_iff_eq, Bool.and_eq_false_imp, false_implies, iff_true]
    omega

/-- **Not being below zero or zero leaves two cases**: zero is less than the double, or it is not a number and
cannot be compared. -/
theorem exceedsZero_iff {x : Double} :
    x.ExceedsZero ↔ x.isNaN = false ∧ x.isNonpositive = false := by
  have hzero : x.biased = 2047 → x.isZero = false := by
    intro hbiased
    rw [isZero, hbiased]
    rfl
  rw [ExceedsZero, zero_lt_signed_iff, ratio_pos_iff, isNonpositive, isNaN, isInfinite, isFinite]
  by_cases hbiased : x.biased = 2047
  · by_cases hfraction : x.fraction = 0 <;> cases hnegative : x.negative <;> simp_all
  · cases hnegative : x.negative <;> simp_all

theorem roundedBits_one_eq_zero_iff {n : Nat} : roundedBits n 1 = 0 ↔ n = 0 := by
  refine ⟨fun h => ?_, fun h => by rw [h]; rfl⟩
  by_contra hn
  have hround := Nat.le_trans (shifted_bounds hn 52).1 (roundDiv_bounds _ _).1
  rw [roundedBits_one hn, infiniteBits, Nat.pow_eq] at h
  omega

/-- The double near an integer is a number, on the same side of zero. -/
theorem isNonpositive_of_ofInt? {n : Int} {x : Double} (h : ofInt? n = some x) :
    x.isNaN = false ∧ (x.isNonpositive = true ↔ n ≤ 0) := by
  obtain rfl : ofRatio (n < 0) n.natAbs 1 = x := by
    unfold ofInt? at h
    dsimp only at h
    split at h
    · cases h
    · exact Option.some.inj h
  have hbits := roundedBits_le n.natAbs 1
  have hzero := isZero_ofBits hbits (n < 0)
  rw [roundedBits_one_eq_zero_iff, Int.natAbs_eq_zero] at hzero
  refine ⟨isNaN_ofBits hbits _, ?_⟩
  rw [ofRatio, isNonpositive, isNaN_ofBits hbits, (parts_ofBits hbits _).1, Bool.not_false, Bool.true_and,
    Bool.or_eq_true, decide_eq_true_eq, hzero]
  omega

end Faceted.Number.Double
