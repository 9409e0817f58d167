import Faceted.DateText
import Faceted.Proofs.Digits
import Faceted.Proofs.Filter.Reading

/-!
# Years of four digits

The bounds of a range of years are sent in a format of four digits. Whether a bound has four digits depends
on the year that it denotes, and on nothing else: it has to be from 0 to 9999 (`isFourDigits_write_iff`).

A date and a moment have to exist, so that their year is one of the calendar, from 1 to 9999, and of a date in
free text this is asked of the reader that is brought along (`OfCalendar`); the one of the program always finds
such years (`DateText.year_of_reader`). An integer and a text of digits are taken as they stand. The lemmas follow
the reader of filters: the text that a number is written as, what stands for one bound, and the bounds of a filter.
-/

namespace Faceted

open Text Number

/-! ## Four digits -/

/-- The text is made of four digits of ASCII. -/
def IsFourDigits (s : String) : Prop := s.toList.length = 4 ∧ ∀ c ∈ s.toList, c.isDigit = true

instance (s : String) : Decidable (IsFourDigits s) := inferInstanceAs (Decidable (_ ∧ _))

namespace Number

theorem isDigit_of_mem_natText {n : Nat} {c : Char} (h : c ∈ natText n) : c.isDigit = true := by
  rw [natText_eq_toDigits] at h
  exact Nat.isDigit_of_mem_toDigits (by decide) (by decide) h

theorem isDigit_of_mem_zeroPad {width n : Nat} {c : Char} (h : c ∈ zeroPad width (natText n)) :
    c.isDigit = true := by
  rcases List.mem_append.mp h with h | h
  · rw [List.eq_of_mem_replicate h]
    decide
  · exact isDigit_of_mem_natText h

theorem length_zeroPad (width : Nat) (cs : List Char) :
    (zeroPad width cs).length = max width cs.length := by
  rw [zeroPad, fill, List.length_append, List.length_replicate]
  omega

end Number

namespace Year

/-- **A number is written with four digits exactly if it is from 0 to 9999.** -/
theorem isFourDigits_write_iff {n : Int} : IsFourDigits (write n) ↔ 0 ≤ n ∧ n ≤ 9999 := by
  rw [IsFourDigits, write, String.toList_ofList]
  cases n with
  | ofNat n =>
    have hdigits := length_digits_le_iff (by decide : 0 < 4) n
    have hpow : Nat.pow 10 4 = 10000 := rfl
    rw [intTextPadded, length_zeroPad, natText, List.length_map, Int.ofNat_eq_natCast]
    constructor
    · rintro ⟨hlength, -⟩
      omega
    · intro hn
      exact ⟨by omega, fun c hc => isDigit_of_mem_zeroPad hc⟩
  | negSucc n =>
    -- the sign comes first, which is no digit
    have hsign : ¬('-' : Char).isDigit = true := by decide
    refine ⟨fun h => absurd (h.2 '-' ?_) hsign, fun hn => by omega⟩
    rw [intTextPadded]
    exact List.mem_cons_self

end Year

/-! ## Days of the calendar -/

namespace Date

/-- The day is one of the calendar. -/
def Exists (d : Date) : Prop := ofParts d.year d.month d.day = .ok d

theorem year_of_ofParts {year month day : Nat} {d : Date} (h : ofParts year month day = .ok d) :
    1 ≤ d.year ∧ d.year ≤ 9999 := by
  unfold ofParts at h
  split at h
  · cases h
  · next hyear =>
    split at h
    · cases h
    · split at h
      · cases h
      · obtain rfl := Except.ok.inj h
        simp only [Bool.or_eq_true, decide_eq_true_eq] at hyear
        dsimp only
        omega

end Date

namespace DateText

/-- **A date in free text has a year of the calendar**, since the whole date has to exist. -/
theorem year_of_reader {thisYear : Nat} {s : String} {n : Nat} (h : reader thisYear s = .ok n) :
    1 ≤ n ∧ n ≤ 9999 := by
  obtain ⟨r, -, h⟩ := bind_eq_ok_iff.mp h
  have hyear : r.year? = some n := by
    cases hr : r.year? with
    | none => rw [hr] at h; cases h
    | some y => rw [hr] at h; rw [Except.ok.inj h]
  obtain ⟨parts, -, hyear⟩ := Option.bind_eq_some_iff.mp hyear
  dsimp only at hyear
  split at hyear
  · cases hyear
  · obtain ⟨d, hd, hyear⟩ := Option.bind_eq_some_iff.mp hyear
    obtain ⟨_, -, hyear⟩ := Option.bind_eq_some_iff.mp hyear
    obtain rfl := Option.some.inj hyear
    cases hparts : Date.ofParts _ _ _ with
    | error fault => rw [hparts] at hd; cases hd
    | ok day =>
      rw [hparts] at hd
      obtain rfl := Option.some.inj hd
      exact Date.year_of_ofParts hparts

end DateText

/-! ## What stands for a bound -/

namespace Year

variable {dates : DateReader}

/-- What stands for a bound denotes a year: an integer and a text of digits the number that they are, and a
date, a moment and any other text the year of the day. -/
inductive Denotes (dates : DateReader) : Value → Int → Prop where
  | integer (n : Int) : Denotes dates (.int n) n
  | date (d : Date) : Denotes dates (.scalar (.date d)) d.year
  | moment (m : Moment) : Denotes dates (.scalar (.moment m)) m.date.year
  | digits {s : String} {n : Int} (digits : ∀ c ∈ (trimmed s).toList, isDigit c = true)
      (number : readInt (trimmed s).toList = .ok n) : Denotes dates (.str s) n
  | text {s : String} {n : Nat} (other : ∃ c ∈ (trimmed s).toList, isDigit c = false)
      (day : dates (trimmed s) = .ok n) : Denotes dates (.str s) n

/-- A day of the calendar stands for a bound: a date or a moment, or a text that does not hold digits
only and is read as a day in a year from 1 to 9999. -/
inductive OfCalendar (dates : DateReader) : Value → Prop where
  | date {d : Date} (day : d.Exists) : OfCalendar dates (.scalar (.date d))
  | moment {m : Moment} (day : m.date.Exists) : OfCalendar dates (.scalar (.moment m))
  | text {s : String} {n : Nat} (other : ∃ c ∈ (trimmed s).toList, isDigit c = false)
    (day : dates (trimmed s) = .ok n) (year : 1 ≤ n ∧ n ≤ 9999) : OfCalendar dates (.str s)

/-- What stands for a bound leaves it open: null and blank text. -/
inductive IsOpen : Value → Prop where
  | null : IsOpen .null
  | blank {s : String} (blank : isBlankString s = true) : IsOpen (.str s)

/-- A day of the calendar has a year of the calendar. -/
theorem Denotes.mem_calendar {v : Value} {n : Int} (h : Denotes dates v n) (hv : OfCalendar dates v) :
    1 ≤ n ∧ n ≤ 9999 := by
  cases hv with
  | date day =>
    cases h with
    | date => have := Date.year_of_ofParts day; omega
  | moment day =>
    cases h with
    | moment => have := Date.year_of_ofParts day; omega
  | text other found year =>
    cases h with
    | digits digits =>
      obtain ⟨c, hc, hdigit⟩ := other
      rw [digits c hc] at hdigit
      cases hdigit
    | text _ day =>
      obtain rfl := Except.ok.inj (found.symm.trans day)
      omega

theorem denotes_of_ofText {key s text : String} (h : ofText dates key (trimmed s) = .ok text) :
    ∃ n, Denotes dates (.str s) n ∧ text = write n := by
  unfold ofText at h
  split at h
  · next hall =>
    split at h
    · next n hn =>
      obtain rfl := Except.ok.inj h
      exact ⟨n, .digits (by simpa using hall) hn, rfl⟩
    · cases h
  · next hall =>
    split at h
    · next n hn =>
      obtain rfl := Except.ok.inj h
      exact ⟨n, .text (by simpa using hall) hn, rfl⟩
    · cases h
    · cases h
    · cases h

/-- **What is read as a bound is the year that is denoted, unless the bound is left open.** -/
theorem denotes_of_read {key : String} {v : Value} {bound : Option String}
    (h : read dates key v = .ok bound) :
    bound = none ∧ IsOpen v ∨ ∃ n, Denotes dates v n ∧ bound = some (write n) := by
  unfold read at h
  split at h
  · exact Or.inl ⟨(Except.ok.inj h).symm, .null⟩
  · cases h
  · next n =>
    split at h
    · cases h
    · exact Or.inr ⟨n, .integer n, (Except.ok.inj h).symm⟩
  · next d => exact Or.inr ⟨_, .date d, (Except.ok.inj h).symm⟩
  · next m => exact Or.inr ⟨_, .moment m, (Except.ok.inj h).symm⟩
  · next s =>
    dsimp only at h
    split at h
    · next hblank => exact Or.inl ⟨(Except.ok.inj h).symm, .blank hblank⟩
    · obtain ⟨text, htext, rfl⟩ := map_eq_ok_iff.mp h
      obtain ⟨n, hn, rfl⟩ := denotes_of_ofText htext
      exact Or.inr ⟨n, hn, rfl⟩
  · cases h

end Year

/-! ## Filters by years -/

namespace FilterState

open Year

variable {dates : DateReader}

theorem bounds_of_readBounds {key : String} {v : Value} {range : DateRange}
    (h : readBounds dates key v = .ok range) :
    ∃ bounds, v = .map bounds ∧
      Year.read dates (key ++ ".min") (Mapping.findOrNull "min" bounds) = .ok range.min ∧
      Year.read dates (key ++ ".max") (Mapping.findOrNull "max" bounds) = .ok range.max := by
  obtain ⟨bounds, hbounds, h⟩ := bind_eq_ok_iff.mp h
  obtain ⟨unknown, -, h⟩ := bind_eq_ok_iff.mp h
  dsimp only at h
  split at h
  · cases h
  obtain ⟨min, hmin, h⟩ := bind_eq_ok_iff.mp h
  obtain ⟨max, hmax, h⟩ := bind_eq_ok_iff.mp h
  obtain rfl := Except.ok.inj h
  refine ⟨bounds, ?_, hmin, hmax⟩
  cases v with
  | map m => rw [Except.ok.inj hbounds]
  | _ => cases hbounds

/-- A filter by years is read from a mapping of bounds. -/
theorem bounds_of_readValue {spec : FieldSpec} {key : String} {v : Value} {entry : FilterEntry}
    (h : readValue dates spec key v = .ok (some entry)) (hkind : entry.kind = .dates) :
    ∃ range, readBounds dates key v = .ok range ∧ entry = .dates spec range := by
  unfold readValue at h
  split at h
  · obtain ⟨ss, -, h⟩ := bind_eq_ok_iff.mp h
    obtain rfl := Option.some.inj (Except.ok.inj h)
    cases hkind
  · obtain ⟨range, hrange, h⟩ := bind_eq_ok_iff.mp h
    exact ⟨range, hrange, (Option.some.inj (Except.ok.inj h)).symm⟩
  · obtain ⟨s, -, h⟩ := bind_eq_ok_iff.mp h
    have h := Except.ok.inj h
    split at h
    · cases h
    · obtain rfl := Option.some.inj h
      cases hkind

/--
**A bound of years has four digits exactly if the year that it denotes is from 0 to 9999.**

Each filter by years in a state that is read comes from a mapping of bounds. What stands for a bound there
leaves it open, or denotes a year that the bound is the text of. A day of the calendar always gives four
digits, in whatever form it is given; an integer and a text of digits give four digits exactly if the number
is from 0 to 9999.
-/
theorem bound_four_digits_iff {registry : Registry} {m : Mapping} {state : FilterState}
    (h : read dates registry m = .ok state) {key : Key} {entry : FilterEntry} (hentry : (key, entry) ∈ state)
    (hkind : entry.kind = .dates) :
    ∃ (bounds : Mapping) (range : DateRange), (key, .map bounds) ∈ m ∧ entry = .dates entry.spec range ∧
      ∀ side ∈ [("min", range.min), ("max", range.max)],
        (side.2 = none ∧ IsOpen (Mapping.findOrNull side.1 bounds)) ∨
        ∃ n text, side.2 = some text ∧ Denotes dates (Mapping.findOrNull side.1 bounds) n ∧ text = write n ∧
          (IsFourDigits text ↔ 0 ≤ n ∧ n ≤ 9999) ∧
          (OfCalendar dates (Mapping.findOrNull side.1 bounds) → IsFourDigits text) := by
  obtain ⟨v, hv, hread⟩ := exists_readEntry_of_mem h hentry
  obtain ⟨name, spec, -, -, hvalue⟩ := exists_spec_of_readEntry hread
  obtain ⟨range, hrange, rfl⟩ := bounds_of_readValue hvalue hkind
  obtain ⟨bounds, rfl, hmin, hmax⟩ := bounds_of_readBounds hrange
  have hside : ∀ {path : String} {v : Value} {bound : Option String}, Year.read dates path v = .ok bound →
      (bound = none ∧ IsOpen v) ∨ ∃ n text, bound = some text ∧ Denotes dates v n ∧ text = write n ∧
        (IsFourDigits text ↔ 0 ≤ n ∧ n ≤ 9999) ∧ (OfCalendar dates v → IsFourDigits text) := by
    intro path v bound hbound
    rcases denotes_of_read hbound with hopen | ⟨n, hn, rfl⟩
    · exact Or.inl hopen
    · refine Or.inr ⟨n, write n, rfl, hn, rfl, isFourDigits_write_iff, fun hv => ?_⟩
      have := hn.mem_calendar hv
      exact isFourDigits_write_iff.mpr (by omega)
  refine ⟨bounds, range, hv, rfl, ?_⟩
  rw [List.forall_mem_cons, List.forall_mem_singleton]
  exact ⟨hside hmin, hside hmax⟩

/-- A document with a filter by years on the only facet of a registry is read as its bounds are. -/
theorem read_dates {spec : FieldSpec} (hkind : spec.kind = .dates) {name : String} {bounds : Mapping}
    (hnames : Mapping.namesOutside ["max", "min"] bounds = .ok []) {range : DateRange}
    (hmin : Year.read dates (name ++ ".min") (Mapping.findOrNull "min" bounds) = .ok range.min)
    (hmax : Year.read dates (name ++ ".max") (Mapping.findOrNull "max" bounds) = .ok range.max) :
    read dates ⟨[(name, spec)]⟩ [(.str name, .map bounds)] = .ok [(.str name, .dates spec range)] := by
  have hrequire : Registry.require ⟨[(name, spec)]⟩ name = .ok spec := by
    simp [Registry.require, Registry.find?]
  have hbounds : readBounds dates name (.map bounds) = .ok range := by
    rw [readBounds, Settings.requireObject, ok_bind, hnames, ok_bind]
    simp only [List.isEmpty_nil, Bool.not_true, Bool.false_eq_true, if_false]
    rw [hmin, ok_bind, hmax, ok_bind]
    rfl
  rw [read, readEntry, Key.written_str, ok_bind, hrequire, ok_bind, readValue, hkind, hbounds]
  · rfl
  · simp

/-- A short number and a date in free text as the two bounds of one filter. -/
theorem bound_four_digits_iff_mixed :
    let dates : DateReader := DateText.reader 2025
    let date : FieldSpec := ⟨"date", .dates, .countDescending, none, none⟩
    let bounds : Mapping := [(.str "min", .int 44), (.str "max", .str " 12 June 1988")]
    let entry : FilterEntry := .dates date ⟨some "0044", some "1988"⟩
    read dates ⟨[("date", date)]⟩ [(.str "date", .map bounds)] = .ok [(.str "date", entry)] ∧
      entry.kind = .dates ∧
      ∃ range, entry = .dates date range ∧
        (∃ n text, range.min = some text ∧ Denotes dates (.int 44) n ∧ text = write n ∧
          (IsFourDigits text ↔ 0 ≤ n ∧ n ≤ 9999)) ∧
        OfCalendar dates (.str " 12 June 1988") ∧ ∃ text, range.max = some text ∧ IsFourDigits text := by
  intro dates date bounds entry
  have hread : read dates ⟨[("date", date)]⟩ [(.str "date", .map bounds)] = .ok [(.str "date", entry)] :=
    read_dates rfl (by decide +kernel) (by decide +kernel) (by decide +kernel)
  have hday : dates (trimmed " 12 June 1988") = .ok 1988 := by decide +kernel
  have hcalendar : OfCalendar dates (.str " 12 June 1988") :=
    .text ⟨' ', by decide +kernel, by decide⟩ hday (DateText.year_of_reader hday)
  obtain ⟨found, range, hfound, hentry, hsides⟩ :=
    bound_four_digits_iff hread List.mem_cons_self rfl
  obtain rfl : found = bounds := by simpa using hfound
  refine ⟨hread, rfl, range, hentry, ?_, hcalendar, ?_⟩
  · rcases hsides _ List.mem_cons_self with ⟨-, hopen⟩ | ⟨n, text, hmin, hn, htext, hiff, -⟩
    · exact nomatch hopen
    · exact ⟨n, text, hmin, hn, htext, hiff⟩
  · rcases hsides _ (List.mem_cons_of_mem _ List.mem_cons_self) with
      ⟨-, hopen⟩ | ⟨n, text, hmax, -, -, -, hfour⟩
    · have hopen : IsOpen (.str " 12 June 1988") := hopen
      cases hopen with
      | blank hblank => exact absurd hblank (by decide +kernel)
    · exact ⟨text, hmax, hfour hcalendar⟩

/-- A day written in digits only is taken for a number, which has too many of them. -/
theorem compact_day_not_four_digits :
    let dates : DateReader := DateText.reader 2025
    let date : FieldSpec := ⟨"date", .dates, .countDescending, none, none⟩
    let settings : FacetSettings := ⟨⟨[("date", date)]⟩, []⟩
    let entry : FilterEntry := .dates date ⟨some "19880612", none⟩
    FacetSettings.read (FacetSettings.document settings.registry) = .ok settings ∧
      read dates settings.registry [(.str "date", .map [(.str "min", .str "19880612")])] =
        .ok [(.str "date", entry)] ∧
      entry.kind = .dates ∧ ¬IsFourDigits "19880612" := by
  intro dates date settings entry
  refine ⟨FacetSettings.read_document ?_, read_dates rfl (by decide +kernel) (by decide +kernel)
    (by decide +kernel), rfl, by decide⟩
  simp only [Registry.WellFormed, settings, List.forall_mem_singleton]
  exact ⟨by decide, Or.inr (Or.inl rfl), Or.inr rfl, by simp [date]⟩

end FilterState

end Faceted
