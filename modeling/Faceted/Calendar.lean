import Faceted.Number.Integer

/-!
# Dates and moments

A day of the calendar and a moment of a day, the rules that make them valid, and their text. The
calendar is the Gregorian one, carried back to the year 1.
-/

namespace Faceted

open Faceted.Text Faceted.Number

/-- A day of the calendar. -/
structure Date where
  year : Nat
  month : Nat
  day : Nat
deriving DecidableEq, Repr

/-- A moment: a day, a time of day, and how many seconds the clock is ahead of universal time, when
that is known. -/
structure Moment where
  date : Date
  hour : Nat
  minute : Nat
  second : Nat
  micro : Nat
  ahead : Option Int
deriving DecidableEq, Repr

/-- Why a date or a moment does not exist. -/
inductive CalendarFault where
  | year (n : Nat)
  | month
  | day
  | hour
  | minute
  | second
  /-- A clock that is a day or more ahead of or behind universal time, in seconds. -/
  | ahead (seconds : Int)
deriving DecidableEq, Repr

namespace Date

/-- A year with a 29th of February. -/
def isLeap (year : Nat) : Bool := year % 4 == 0 && (year % 100 != 0 || year % 400 == 0)

/-- The number of days of a month. -/
def daysIn (year month : Nat) : Nat :=
  if month = 2 then (if isLeap year then 29 else 28)
  else if month = 4 || month = 6 || month = 9 || month = 11 then 30
  else 31

/-- The day with these numbers, when it exists. The year is looked at first, then the month. -/
def ofParts (year month day : Nat) : Except CalendarFault Date :=
  if year < 1 || 9999 < year then .error (.year year)
  else if month < 1 || 12 < month then .error .month
  else if day < 1 || daysIn year month < day then .error .day
  else .ok ⟨year, month, day⟩

/-- The day before. Ahead of the year 1 there is a year 0. -/
def previous (d : Date) : Date :=
  if 1 < d.day then ⟨d.year, d.month, d.day - 1⟩
  else if 1 < d.month then ⟨d.year, d.month - 1, daysIn d.year (d.month - 1)⟩
  else ⟨d.year - 1, 12, 31⟩

/-- The day after. -/
def next (d : Date) : Date :=
  if d.day < daysIn d.year d.month then ⟨d.year, d.month, d.day + 1⟩
  else if d.month < 12 then ⟨d.year, d.month + 1, 1⟩
  else ⟨d.year + 1, 1, 1⟩

/-- Year, month and day with dashes between them. -/
def text (d : Date) : List Char :=
  zeroPad 4 (natText d.year) ++ '-' :: zeroPad 2 (natText d.month) ++
    '-' :: zeroPad 2 (natText d.day)

end Date

namespace Moment

/-- The moment with these parts, when it exists. -/
def ofParts (date : Date) (hour minute second micro : Nat) (ahead : Option Int) :
    Except CalendarFault Moment :=
  if 23 < hour then .error .hour
  else if 59 < minute then .error .minute
  else if 59 < second then .error .second
  else .ok ⟨date, hour, minute, second, micro, ahead⟩

/-- The moment as a clock at universal time shows it. A clock is less than a day ahead, so that the
day changes by one at most; a moment without that knowledge stays as it is. -/
def universal (m : Moment) : Moment :=
  match m.ahead with
  | none => m
  | some ahead =>
    let seconds : Int := ((m.hour * 3600 + m.minute * 60 + m.second : Nat) : Int) - ahead
    let date := if seconds < 0 then m.date.previous else if 86400 ≤ seconds then m.date.next else m.date
    let rest := (seconds % 86400).toNat
    ⟨date, rest / 3600, rest / 60 % 60, rest % 60, m.micro, some 0⟩

/-- How far the clock is ahead, as signed hours and minutes, with seconds if there are any. -/
def aheadText (seconds : Int) : List Char :=
  let n := seconds.natAbs
  (if seconds < 0 then '-' else '+') :: zeroPad 2 (natText (n / 3600)) ++
    ':' :: zeroPad 2 (natText (n / 60 % 60)) ++
    (if n % 60 = 0 then [] else ':' :: zeroPad 2 (natText (n % 60)))

/-- The time of day, with the fraction of a second if there is one. -/
def clockText (m : Moment) : List Char :=
  zeroPad 2 (natText m.hour) ++ ':' :: zeroPad 2 (natText m.minute) ++
    ':' :: zeroPad 2 (natText m.second) ++
    (if m.micro = 0 then [] else '.' :: zeroPad 6 (natText m.micro))

/-- The day, `separator`, the time of day and how far the clock is ahead. -/
def text (separator : Char) (m : Moment) : List Char :=
  m.date.text ++ separator :: m.clockText ++ (m.ahead.map aheadText).getD []

/-- Month, day and time of day without separators: a stamp for file names. -/
def stamp (m : Moment) : List Char :=
  [m.date.month, m.date.day, m.hour, m.minute, m.second].flatMap fun n => zeroPad 2 (natText n)

/-- Month, day and time of day at the head of a log line. -/
def logText (m : Moment) : List Char :=
  zeroPad 2 (natText m.date.month) ++ '-' :: zeroPad 2 (natText m.date.day) ++
    ' ' :: zeroPad 2 (natText m.hour) ++ ':' :: zeroPad 2 (natText m.minute) ++
    ':' :: zeroPad 2 (natText m.second)

end Moment

end Faceted
