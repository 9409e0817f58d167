import Faceted.Text.Case
import Mathlib.Data.List.Forall2

/-!
# Lower case and back

A character comes back from lower case when it has one lower-case character, and is that character or one
of those in the upper-case form of it. All characters of Unicode do but for a few (`comesBack_iff`): two
letters can share a lower-case one, which then has only one of them for its upper-case form.

A text in lower case is as long as the text only if each character has one lower-case character. So each
character of the text is one of the forms of the character at its place exactly when all of them come back
(`forall₂_lower_iff`).
-/

namespace Faceted.Text

/-! ## Runs in order -/

/-- Each run ends before the next one begins. -/
def Ascending (runs : List CaseRun) : Prop := runs.Pairwise fun r s => r.last < s.first

/-- The run of an ascending table that a number can be in. -/
def runAt? (runs : List CaseRun) (n : Nat) : Option CaseRun := runs.find? fun r => n.ble r.last

theorem image?_eq_some_iff {r : CaseRun} {n m : Nat} :
    r.image? n = some m ↔
      r.first ≤ n ∧ n ≤ r.last ∧ (n - r.first) % r.step = 0 ∧ (n + r.offset).toNat = m := by
  unfold CaseRun.image?
  simp [and_assoc]

theorem runAt?_of_mem {runs : List CaseRun} (h : Ascending runs) {s : CaseRun} (hs : s ∈ runs) {n : Nat}
    (hfirst : s.first ≤ n) (hlast : n ≤ s.last) : runAt? runs n = some s := by
  unfold runAt?
  induction h with
  | nil => cases hs
  | @cons r runs hr _ ih =>
    rcases List.mem_cons.mp hs with rfl | hs
    · exact List.find?_cons_of_pos (by simpa using hlast)
    · have hbefore := hr s hs
      rw [List.find?_cons_of_neg (by simp; omega), ih hs]

/-- The first run that a number can be in decides. -/
theorem findSome?_of_runAt? {runs : List CaseRun} {s : CaseRun} {n m : Nat}
    (h : runAt? runs n = some s) (hm : s.image? n = some m) :
    runs.findSome? (·.image? n) = some m := by
  obtain ⟨-, before, after, rfl, hbefore⟩ := List.find?_eq_some_iff_append.mp h
  have hnone : before.findSome? (·.image? n) = none := by
    rw [List.findSome?_eq_none_iff]
    intro r hr
    have hlast := hbefore r hr
    rw [Bool.not_eq_true', Bool.eq_false_iff, ne_eq, Nat.ble_eq] at hlast
    unfold CaseRun.image?
    rw [if_neg (by simp; omega)]
  rw [List.findSome?_append, hnone, List.findSome?_cons, hm]
  rfl

/-! ## The tables -/

/-- Ranges of the characters that do not come back from lower case: the capital I with a dot, which becomes
two characters, the digraphs and Greek letters in title case, the capital theta symbol, the capital sharp s,
and the signs for ohm, kelvin and ångström. -/
def lostRanges : List (Nat × Nat) := [
  (0x130, 0x130), (0x1C5, 0x1C5), (0x1C8, 0x1C8), (0x1CB, 0x1CB), (0x1F2, 0x1F2), (0x3F4, 0x3F4),
  (0x1E9E, 0x1E9E), (0x1F88, 0x1F8F), (0x1F98, 0x1F9F), (0x1FA8, 0x1FAF), (0x1FBC, 0x1FBC),
  (0x1FCC, 0x1FCC), (0x1FFC, 0x1FFC), (0x2126, 0x2126), (0x212A, 0x212B)]

/-- The character is one of those that do not come back. -/
def IsLost (c : Char) : Prop := inRanges lostRanges c.toNat = true

instance (c : Char) : Decidable (IsLost c) := inferInstanceAs (Decidable (_ = true))

/-- The numbers of the characters in a run. -/
def CaseRun.members (r : CaseRun) : List Nat :=
  List.range' r.first ((r.last - r.first) / r.step + 1) r.step

/-- Upper case sends the images of a run back to its members, but for the lost ones. -/
def CaseRun.isUndone (r : CaseRun) : Bool :=
  let back := runAt? upperRuns (r.last + r.offset).toNat
  r.members.all fun n =>
    back.bind (·.image? (n + r.offset).toNat) == some n || inRanges lostRanges n

theorem mem_members {r : CaseRun} {n m : Nat} (h : r.image? n = some m) : n ∈ r.members := by
  obtain ⟨hfirst, hlast, hstep, -⟩ := image?_eq_some_iff.mp h
  rw [CaseRun.members, List.mem_range']
  refine ⟨(n - r.first) / r.step, ?_, ?_⟩
  · have := Nat.div_le_div_right (c := r.step) (Nat.sub_le_sub_right hlast r.first)
    omega
  · have := Nat.div_add_mod (n - r.first) r.step
    omega

theorem ascending_upperRuns : Ascending upperRuns := by
  -- only neighbours are compared, which is enough since no run ends before it begins
  have hchain : upperRuns.IsChain fun r s => r.last < s.first ∧ s.first ≤ s.last := by
    decide +kernel
  have htrans : IsTrans CaseRun fun r s => r.last < s.first ∧ s.first ≤ s.last :=
    ⟨fun _ _ _ h k => ⟨by omega, k.2⟩⟩
  exact (List.isChain_iff_pairwise.mp hchain).imp And.left

/-- No character has both a single upper-case character and several. -/
theorem lookup_upperMany {s : CaseRun} (hs : s ∈ upperRuns) {n m : Nat} (h : s.image? n = some m) :
    upperMany.lookup n = none := by
  have hapart : ∀ e ∈ upperMany, (runAt? upperRuns e.1).bind (·.image? e.1) = none := by
    decide +kernel
  rw [List.lookup_eq_none_iff]
  intro e he
  rw [bne_iff_ne]
  rintro rfl
  obtain ⟨hfirst, hlast, -⟩ := image?_eq_some_iff.mp h
  have := hapart e he
  rw [runAt?_of_mem ascending_upperRuns hs hfirst hlast, Option.bind_some, h] at this
  cases this

/-- The runs of upper case begin and end with characters. -/
theorem isValidChar_of_mem {s : CaseRun} (hs : s ∈ upperRuns) {n m : Nat} (h : s.image? n = some m) :
    n.isValidChar := by
  have hends : ∀ s ∈ upperRuns, s.last < 0xD800 ∨ 0xDFFF < s.first ∧ s.last < 0x110000 := by
    decide +kernel
  obtain ⟨hfirst, hlast, -⟩ := image?_eq_some_iff.mp h
  have := hends s hs
  unfold Nat.isValidChar
  omega

/-- A number that a run of upper case has an image for is a character with this upper-case form. -/
theorem upperChar_of_image? {s : CaseRun} (hs : s ∈ upperRuns) {n m : Nat} (h : s.image? n = some m) :
    upperChar (Char.ofNat n) = [Char.ofNat m] := by
  obtain ⟨hfirst, hlast, -⟩ := image?_eq_some_iff.mp h
  have hat := runAt?_of_mem ascending_upperRuns hs hfirst hlast
  have hn : (Char.ofNat n).toNat = n := by
    rw [Char.ofNat, dif_pos (isValidChar_of_mem hs h)]
    rfl
  rw [upperChar, mapCase, hn, lookup_upperMany hs h]
  simp only [findSome?_of_runAt? hat h]

/-- **Upper case undoes the runs of lower case**, but for the lost characters. -/
theorem lost_or_undone {r : CaseRun} (hr : r ∈ lowerRuns) {n m : Nat} (h : r.image? n = some m) :
    inRanges lostRanges n = true ∨ ∃ s ∈ upperRuns, s.image? m = some n := by
  have hundone : ∀ r ∈ lowerRuns, r.isUndone = true := by decide +kernel
  have hn := List.all_eq_true.mp (hundone r hr) n (mem_members h)
  obtain ⟨-, -, -, rfl⟩ := image?_eq_some_iff.mp h
  rw [Bool.or_eq_true, beq_iff_eq] at hn
  rcases hn with hn | hn
  · obtain ⟨s, hs, himage⟩ := Option.bind_eq_some_iff.mp hn
    exact Or.inr ⟨s, List.mem_of_find?_eq_some hs, himage⟩
  · exact Or.inl hn

/-! ## Characters that come back -/

/-- The character has one lower-case character, and is that character or in the upper-case form of it. -/
def ComesBack (c : Char) : Prop := ∃ d, lowerChar c = [d] ∧ c ∈ d :: upperChar d

theorem comesBack_of_not_isLost {c : Char} (h : ¬IsLost c) : ComesBack c := by
  have hmany : lowerMany.lookup c.toNat = none := by
    rw [List.lookup_eq_none_iff]
    intro e he
    rw [bne_iff_ne]
    -- the only character with several lower-case ones is among the lost
    have hlost : ∀ e ∈ lowerMany, inRanges lostRanges e.1 = true := by decide
    intro hc
    exact h (by rw [IsLost, hc, hlost e he])
  unfold ComesBack lowerChar mapCase
  rw [hmany]
  cases hruns : lowerRuns.findSome? (·.image? c.toNat) with
  | none => exact ⟨c, rfl, List.mem_cons_self⟩
  | some m =>
    obtain ⟨r, hr, himage⟩ := List.exists_of_findSome?_eq_some hruns
    obtain hlost | ⟨s, hs, hback⟩ := lost_or_undone hr himage
    · exact absurd hlost h
    · refine ⟨Char.ofNat m, rfl, List.mem_cons_of_mem _ ?_⟩
      rw [upperChar_of_image? hs hback, Char.ofNat_toNat]
      exact List.mem_singleton_self c

theorem not_comesBack_of_isLost {c : Char} (h : IsLost c) : ¬ComesBack c := by
  have hlost : ∀ range ∈ lostRanges, ∀ n ∈ List.range' range.1 (range.2 + 1 - range.1),
      (lowerChar (Char.ofNat n)).head?.all (fun d => lowerChar (Char.ofNat n) ≠ [d] ∨
        Char.ofNat n ∉ d :: upperChar d) = true := by
    decide +kernel
  rintro ⟨d, hd, hc⟩
  obtain ⟨range, hrange, hin⟩ := List.any_eq_true.mp h
  rw [Bool.and_eq_true, decide_eq_true_eq, decide_eq_true_eq] at hin
  have hmem : c.toNat ∈ List.range' range.1 (range.2 + 1 - range.1) := by
    rw [List.mem_range'_1]
    omega
  have := hlost range hrange c.toNat hmem
  rw [Char.ofNat_toNat, hd] at this
  exact (of_decide_eq_true this).elim (· rfl) (· hc)

/-- **All characters come back from lower case but for the lost ones.** -/
theorem comesBack_iff {c : Char} : ComesBack c ↔ ¬IsLost c :=
  ⟨fun h hlost => not_comesBack_of_isLost hlost h, comesBack_of_not_isLost⟩

/-! ## Texts -/

theorem mapCase_ne_nil {many : List (Nat × List Nat)} (h : ∀ e ∈ many, e.2 ≠ []) (runs : List CaseRun)
    (c : Char) : mapCase many runs c ≠ [] := by
  unfold mapCase
  split
  · next ns hns =>
    obtain ⟨before, after, rfl, -⟩ := List.lookup_eq_some_iff.mp hns
    simpa using h (c.toNat, ns) (by simp)
  · split <;> simp

theorem lowerChar_ne_nil (c : Char) : lowerChar c ≠ [] := mapCase_ne_nil (by decide) lowerRuns c

/-- Both lower-case forms of the capital sigma have it for their upper-case form. -/
theorem mem_forms_sigma : 'Σ' ∈ 'σ' :: upperChar 'σ' ∧ 'Σ' ∈ 'ς' :: upperChar 'ς' := by
  decide +kernel

/-- What the next character of a text becomes is its lower-case form, or one of those of a sigma; its
forms are in it exactly if it comes back. -/
theorem lowerFrom_cons (before : List Char) (c : Char) (cs : List Char) :
    ∃ low, lowerFrom before (c :: cs) = low ++ lowerFrom (c :: before) cs ∧ low ≠ [] ∧
      ((∃ d, low = [d] ∧ c ∈ d :: upperChar d) ↔ ComesBack c) := by
  by_cases hc : c = 'Σ'
  · subst hc
    have hback : ComesBack 'Σ' := comesBack_iff.mpr (by decide)
    rw [lowerFrom, if_pos rfl]
    by_cases hend : (meetsCased before && !meetsCased cs) = true
    · rw [if_pos hend]
      exact ⟨['ς'], rfl, by simp, iff_of_true ⟨_, rfl, mem_forms_sigma.2⟩ hback⟩
    · rw [if_neg hend]
      exact ⟨['σ'], rfl, by simp, iff_of_true ⟨_, rfl, mem_forms_sigma.1⟩ hback⟩
  · rw [lowerFrom, if_neg hc]
    exact ⟨lowerChar c, rfl, lowerChar_ne_nil c, Iff.rfl⟩

theorem length_le_lowerFrom (before cs : List Char) : cs.length ≤ (lowerFrom before cs).length := by
  induction cs generalizing before with
  | nil => exact Nat.zero_le _
  | cons c cs ih =>
    obtain ⟨low, hlow, hne, -⟩ := lowerFrom_cons before c cs
    have := List.length_pos_iff.mpr hne
    have := ih (c :: before)
    rw [hlow, List.length_append, List.length_cons]
    omega

theorem forall₂_lowerFrom_iff (before cs : List Char) :
    List.Forall₂ (fun d c => c ∈ d :: upperChar d) (lowerFrom before cs) cs ↔
      ∀ c ∈ cs, ComesBack c := by
  induction cs generalizing before with
  | nil => simp [lowerFrom]
  | cons c cs ih =>
    obtain ⟨low, hlow, hne, hback⟩ := lowerFrom_cons before c cs
    rw [hlow, List.forall_mem_cons, ← hback, ← ih (c :: before)]
    match low with
    | [] => exact absurd rfl hne
    | [d] => simp
    | d :: d' :: low =>
      -- two characters for one leave the text too short for those that follow
      refine iff_of_false (fun h => ?_) (by simp)
      have := h.length_eq
      have := length_le_lowerFrom (c :: before) cs
      simp only [List.length_append, List.length_cons] at *
      omega

/-- **Each character of a text is a form of the one at its place in lower case exactly when no character
of the text is lost.** -/
theorem forall₂_lower_iff (cs : List Char) :
    List.Forall₂ (fun d c => c ∈ d :: upperChar d) (lower cs) cs ↔ ∀ c ∈ cs, ¬IsLost c := by
  simp only [lower, forall₂_lowerFrom_iff, comesBack_iff]

end Faceted.Text
