import Faceted.Proofs.Filter.Year
import Faceted.Proofs.Text.Blank

/-!
# Spellings of a year

The same year can stand for a bound as an integer, as a text of digits, with zeros before them and blanks around
them, and as a day of the calendar (`Spells`). The bound is the same for all of them, and no other year has it
(`spellings_agree`).

The text of a year is one of its spellings (`spells_write`), so that it is read as itself. It has the digits of the
number, filled up with zeros, which do not change the number that they denote (`ofDigitChars_zeroPad`).
-/

namespace Faceted

open Text Number

namespace Number

/-- Zeros before a number do not change it. -/
theorem ofDigitChars_zeroPad (width n : Nat) :
    Nat.ofDigitChars 10 (zeroPad width (natText n)) 0 = n := by
  rw [zeroPad, fill, Nat.ofDigitChars_append, Nat.ofDigitChars_replicate_zero, Nat.mul_zero,
    natText_eq_toDigits, Nat.ofDigitChars_ten_toDigits]

theorem zeroPad_natText_ne_nil (width n : Nat) : zeroPad width (natText n) ≠ [] := by
  intro hnil
  obtain ⟨-, hnat⟩ := List.append_eq_nil_iff.mp hnil
  exact digits_ne_nil n (List.map_eq_nil_iff.mp hnat)

end Number

namespace Year

/-! ## Spellings -/

/-- A value spells a year: an integer that can be written; a text of digits of ASCII, not too many with the zeros
before them, that denote the year; or a day of the calendar, with a time or without one, in the year. -/
inductive Spells : Value → Nat → Prop where
  | integer {n : Nat} (short : n < Nat.pow 10 digitLimit) : Spells (.int n) n
  | digits {before cs after : List Char} {n : Nat} (blankBefore : AllBlank before) (blankAfter : AllBlank after)
    (filled : cs ≠ []) (digits : ∀ c ∈ cs, c.isDigit = true) (short : cs.length ≤ digitLimit)
    (number : Nat.ofDigitChars 10 cs 0 = n) : Spells (.str (String.ofList (before ++ cs ++ after))) n
  | date {d : Date} (calendar : 1 ≤ d.year ∧ d.year ≤ 9999) : Spells (.scalar (.date d)) d.year
  | moment {m : Moment} (calendar : 1 ≤ m.date.year ∧ m.date.year ≤ 9999) :
    Spells (.scalar (.moment m)) m.date.year

theorem trimmed_around {before cs after : List Char} (hbefore : AllBlank before) (hafter : AllBlank after)
    (hdigits : ∀ c ∈ cs, c.isDigit = true) : trimmed (String.ofList (before ++ cs ++ after)) = String.ofList cs := by
  have hblank : ∀ c ∈ cs, isBlank c = false := fun c hc => isBlank_of_isDigit (isDigit_of_ascii (hdigits c hc))
  rw [trimmed, String.toList_ofList, trim_append hbefore hafter]
  · exact fun c hc => hblank c (List.mem_of_mem_head? hc)
  · exact fun c hc => hblank c (List.mem_of_mem_getLast? hc)

/-- What spells a year denotes it. -/
theorem Spells.denotes (dates : DateReader) {v : Value} {n : Nat} (h : Spells v n) : Denotes dates v n := by
  cases h with
  | integer short => exact .integer n
  | digits blankBefore blankAfter filled digits short number =>
    have htrimmed := trimmed_around blankBefore blankAfter digits
    refine .digits ?_ ?_
    · rw [htrimmed, String.toList_ofList]
      exact fun c hc => isDigit_of_ascii (digits c hc)
    · rw [htrimmed, String.toList_ofList, readInt_of_ascii filled digits short, number]
  | date calendar => exact .date _
  | moment calendar => exact .moment _

theorem toList_write (n : Nat) : (write n).toList = zeroPad 4 (natText n) := String.toList_ofList

/-- The text of a year is a spelling of it. -/
theorem spells_write {n : Nat} (hn : n < Nat.pow 10 digitLimit) : Spells (.str (write n)) n := by
  have hlength : (zeroPad 4 (natText n)).length ≤ digitLimit := by
    have hdigits := (length_digits_le_iff (by decide) n).mpr hn
    have hlimit : 4 ≤ digitLimit := by decide
    rw [length_zeroPad, natText, List.length_map]
    omega
  have hspells : Spells (.str (String.ofList ([] ++ zeroPad 4 (natText n) ++ []))) n :=
    .digits (List.forall_mem_nil _) (List.forall_mem_nil _) (zeroPad_natText_ne_nil 4 n)
      (fun c hc => isDigit_of_mem_zeroPad hc) hlength (ofDigitChars_zeroPad 4 n)
  rwa [List.nil_append, List.append_nil] at hspells

/-! ## What is read of them -/

variable {dates : DateReader}

theorem ofText_of_denotes {key s : String} {n : Int} (h : Denotes dates (.str s) n) :
    ofText dates key (trimmed s) = .ok (write n) := by
  cases h with
  | digits digits number =>
    have hall : (trimmed s).toList.all isDigit = true := by simpa using digits
    rw [ofText, if_pos hall, number]
  | text other day =>
    have hall : ¬(trimmed s).toList.all isDigit = true := by simpa using other
    rw [ofText, if_neg hall, day]

theorem trimmed_ne_of_denotes {s : String} {n : Int} (h : Denotes dates (.str s) n) : trimmed s ≠ "" := by
  intro hempty
  cases h with
  | digits digits number =>
    rw [hempty] at number
    cases number
  | text other day =>
    obtain ⟨c, hc, -⟩ := other
    rw [hempty] at hc
    cases hc

/-- **What denotes a year is read as the text of the year**, unless it is an integer that is too long. -/
theorem read_of_denotes {v : Value} {n : Int} (h : Denotes dates v n)
    (hshort : ∀ m, v = .int m → exceedsDigits m = false) (key : String) :
    read dates key v = .ok (some (write n)) := by
  have htext : ∀ s, Denotes dates (.str s) n → read dates key (.str s) = .ok (some (write n)) := by
    intro s h
    rw [read_str (trimmed_ne_of_denotes h), ofText_of_denotes h]
    rfl
  cases h with
  | integer =>
    rw [read, hshort n rfl]
    rfl
  | date | moment => rfl
  | digits digits number => exact htext _ (.digits digits number)
  | text other day => exact htext _ (.text other day)

theorem read_of_spells {v : Value} {n : Nat} (h : Spells v n) (dates : DateReader) (key : String) :
    read dates key v = .ok (some (write n)) := by
  refine read_of_denotes (h.denotes dates) (fun m hm => ?_) key
  cases h with
  | integer short =>
    obtain rfl : (n : Int) = m := by simpa using hm
    exact exceedsDigits_eq_false_iff.mpr short
  | digits | date | moment => cases hm

theorem write_injective {m n : Nat} (h : write m = write n) : m = n := by
  rw [← ofDigitChars_zeroPad 4 m, ← toList_write, h, toList_write, ofDigitChars_zeroPad]

/--
**All spellings of a year are read as one text**, whatever reads dates in free text.

* It has at least four characters, which are digits of ASCII and denote the year.
* It is read as itself.
* The bounds that two values are read as are equal exactly if the values spell the same year.
-/
theorem spellings_agree :
    (∀ n, n < Nat.pow 10 digitLimit → ∃ text : String,
      (∀ v, Spells v n → ∀ dates key, read dates key v = .ok (some text)) ∧
      4 ≤ text.length ∧ (∀ c ∈ text.toList, c.isDigit = true) ∧ Nat.ofDigitChars 10 text.toList 0 = n ∧
      ∀ dates key, read dates key (.str text) = .ok (some text)) ∧
    ∀ v w m n, Spells v m → Spells w n → ∀ dates key again,
      read dates key v = read dates again w ↔ m = n := by
  refine ⟨fun n hn => ⟨write n, fun v hv => read_of_spells hv, ?_, ?_, ?_, read_of_spells (spells_write hn)⟩, ?_⟩
  · rw [← String.length_toList, toList_write, length_zeroPad]
    exact Nat.le_max_left 4 _
  · rw [toList_write]
    exact fun c hc => isDigit_of_mem_zeroPad hc
  · rw [toList_write, ofDigitChars_zeroPad]
  · intro v w m n hv hw dates key again
    rw [read_of_spells hv, read_of_spells hw]
    constructor
    · intro h
      exact write_injective (Option.some.inj (Except.ok.inj h))
    · rintro rfl
      rfl

/-- The year 44 as a number, with zeros and blanks, and as a day of it; and another year. -/
theorem spellings_agree_padded :
    let dates : DateReader := DateText.reader 2025
    let day : Value := .scalar (.date ⟨44, 3, 15⟩)
    44 < Nat.pow 10 digitLimit ∧ Spells (.int 44) 44 ∧ Spells (.str "\t000044 ") 44 ∧ Spells day 44 ∧
      Spells (.int 1988) 1988 ∧
      (∃ text, (∀ v ∈ [.int 44, .str "\t000044 ", day, .str text], read dates "year.min" v = .ok (some text)) ∧
        4 ≤ text.length) ∧
      read dates "year.min" day ≠ read dates "year.max" (.int 1988) := by
  intro dates day
  have hshort (n : Nat) (hn : n < Nat.pow 10 4) : n < Nat.pow 10 digitLimit := lt_pow_of_lt hn (by decide)
  have hpadded : Spells (.str "\t000044 ") 44 := by
    show Spells (.str (String.ofList (['\t'] ++ ['0', '0', '0', '0', '4', '4'] ++ [' ']))) 44
    have hdigits : ∀ c ∈ ['0', '0', '0', '0', '4', '4'], c.isDigit = true := List.all_eq_true.mp (by decide)
    exact .digits (by decide) (by decide) (by decide) hdigits (by decide) (by decide)
  have hday : Spells day 44 := .date (by decide)
  have hother : Spells (.int 1988) 1988 := .integer (hshort 1988 (by decide))
  have hnumber : Spells (.int 44) 44 := .integer (hshort 44 (by decide))
  obtain ⟨hagree, hapart⟩ := spellings_agree
  obtain ⟨text, hread, hlength, -, -, hagain⟩ := hagree 44 (hshort 44 (by decide))
  refine ⟨hshort 44 (by decide), hnumber, hpadded, hday, hother, ⟨text, ?_, hlength⟩, ?_⟩
  · simp only [List.forall_mem_cons]
    exact ⟨hread _ hnumber _ _, hread _ hpadded _ _, hread _ hday _ _, hagain _ _, List.forall_mem_nil _⟩
  · rw [ne_eq, hapart _ _ _ _ hday hother dates]
    decide

end Year

end Faceted
