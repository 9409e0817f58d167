import Faceted.DateReader
import Faceted.DateText.Token
import Faceted.Number.Integer
import Faceted.Calendar

/-!
# Dates in free text

Reads a date as people write one: numbers with dashes, slashes, points or blanks between them,
English names of months and weekdays, times of day and time zones. Every token has to have a place,
or there is no date. What the text leaves open is taken from the first of January 2000; only the
year of the result is wanted, but the whole date and time has to exist.

Of three numbers without a month name the first is the year if it cannot be anything else, else the
month, unless it is above twelve and so the day.

A year without its century is one within fifty years of the present.

Decimal numbers are kept to twenty-eight digits. A number of hours or minutes has to be split at its
point, which fails if there are more digits ahead of the point.

## Termination

The loop goes forward through the tokens: each step takes one token and says how many more it has
used.
-/

namespace Faceted.DateText

open Faceted.Text Faceted.Number

/-! ## Names -/

/-- A token in small letters. -/
def small (token : String) : String := String.ofList (token.toList.map Char.toLower)

/-- Tokens that mean nothing by themselves. -/
def isFiller (token : String) : Bool :=
  [" ", ".", ",", ";", "-", "/", "'", "at", "on", "and", "ad", "m", "t", "of", "st", "nd", "rd",
    "th"].contains (small token)

/-- The name of a weekday. -/
def isWeekday (token : String) : Bool :=
  ["mon", "monday", "tue", "tuesday", "wed", "wednesday", "thu", "thursday", "fri", "friday",
    "sat", "saturday", "sun", "sunday"].contains (small token)

/-- The months by name. -/
def monthNames : List (String × Nat) :=
  [("jan", 1), ("january", 1), ("feb", 2), ("february", 2), ("mar", 3), ("march", 3), ("apr", 4),
    ("april", 4), ("may", 5), ("jun", 6), ("june", 6), ("jul", 7), ("july", 7), ("aug", 8),
    ("august", 8), ("sep", 9), ("sept", 9), ("september", 9), ("oct", 10), ("october", 10),
    ("nov", 11), ("november", 11), ("dec", 12), ("december", 12)]

/-- The month that a token names. -/
def month? (token : String) : Option Nat := monthNames.lookup (small token)

/-- The units of time by name: hours, minutes and seconds are 0, 1 and 2. -/
def unitNames : List (String × Nat) :=
  [("h", 0), ("hour", 0), ("hours", 0), ("m", 1), ("minute", 1), ("minutes", 1), ("s", 2),
    ("second", 2), ("seconds", 2)]

/-- The unit of time that a token names. -/
def unit? (token : String) : Option Nat := unitNames.lookup (small token)

/-- Whether a token names the afternoon or the forenoon. -/
def afternoon? (token : String) : Option Bool :=
  [("am", false), ("a", false), ("pm", true), ("p", true)].lookup (small token)

/-- A token that names universal time. -/
def isUniversal (token : String) : Bool := ["utc", "gmt", "z"].contains (small token)

/-! ## Refusals -/

/-- A number has too many digits to be split at its point. -/
def tooPrecise : DateRefusal := .failed .tooPrecise

/-- Something that has to be there in a date. -/
def needed {α : Type} : Option α → Except DateRefusal α
  | some x => .ok x
  | none => .error .noDate

/-! ## Numbers -/

/-- A decimal number: the whole part, and the part behind the point as a numerator over a power of
ten. -/
structure Quantity where
  whole : Nat
  part : Nat
  places : Nat
deriving DecidableEq, Repr

/-- The digits of a text of decimal digits. -/
def digits? (cs : List Char) : Option (List Nat) := cs.mapM decimalValue?

/-- The number that a text of decimal digits denotes, unless there are too many of them. -/
def natural? (cs : List Char) : Option Nat :=
  if cs.isEmpty || digitLimit < cs.length then none else (digits? cs).map ofDigits

/-- The number that a token denotes. -/
def Quantity.ofToken? (token : String) : Option Quantity :=
  let cs := token.toList
  let whole := cs.takeWhile (· != '.')
  let part := cs.drop (whole.length + 1)
  if whole.isEmpty then none
  else do pure ⟨ofDigits (← digits? whole), ofDigits (← digits? part), part.length⟩

/-- The digits of a decimal number that are kept. -/
def keptDigits : Nat := 28

/-- Sixty times the part behind the point, without what is behind the point then; none if nothing is
there. A part that differs from one by less than the digits that are kept can tell is one. -/
def Quantity.sixtieths (q : Quantity) : Except DateRefusal (Option Nat) :=
  if Nat.pow 10 keptDigits ≤ q.whole then .error tooPrecise
  else if q.part = 0 then .ok none
  else if 2 * Nat.pow 10 keptDigits * (Nat.pow 10 q.places - q.part) ≤ Nat.pow 10 q.places then .ok (some 60)
  else .ok (some (60 * q.part / Nat.pow 10 q.places))

/-- Above a hundred. -/
def Quantity.exceedsHundred (q : Quantity) : Bool :=
  100 < q.whole || (q.whole == 100 && q.part != 0)

/-- From one to a last number. -/
def Quantity.isUpTo (q : Quantity) (last : Nat) : Bool :=
  1 ≤ q.whole && (q.whole < last || (q.whole == last && q.part == 0))

/-- The token holds digits only. -/
def allDigits (token : String) : Bool := !token.isEmpty && token.toList.all isDigit

/-! ## Year, month and day -/

/-- The numbers that year, month and day are to be found in, and which of them is known to be the
year or the month. -/
structure DayParts where
  values : List Nat
  yearAt : Option Nat
  monthAt : Option Nat
  /-- A year was written with its century. -/
  century : Bool
deriving Repr

namespace DayParts

/-- Adds a number. -/
def add (p : DayParts) (n : Nat) : DayParts := { p with values := p.values ++ [n] }

/-- Adds the year, unless there is one. -/
def addYear (p : DayParts) (n : Nat) : Option DayParts :=
  if p.yearAt.isSome then none
  else some { p.add n with yearAt := some p.values.length, century := true }

/-- Adds the month, unless there is one. -/
def addMonth (p : DayParts) (n : Nat) : Option DayParts :=
  if p.monthAt.isSome then none else some { p.add n with monthAt := some p.values.length }

/-- Adds a number as it is written: three digits or more make a year. -/
def addText (p : DayParts) (token : String) : Option DayParts := do
  let n ← natural? token.toList
  if 2 < token.length then p.addYear n else some (p.add n)

/-- Adds a number by its size: above a hundred it is a year. -/
def addQuantity (p : DayParts) (q : Quantity) : Option DayParts :=
  if q.exceedsHundred then p.addYear q.whole else some (p.add q.whole)

/-- A number can still be the day. A month that is known limits it, in a leap year if the year is
not known. -/
def couldBeDay (p : DayParts) (q : Quantity) : Bool :=
  match p.monthAt.bind (p.values[·]?) with
  | none => q.isUpTo 31
  | some month =>
    match p.yearAt.bind (p.values[·]?) with
    | none => q.isUpTo (Date.daysIn 2000 month)
    | some year => q.isUpTo (Date.daysIn year month)

/-- Year, month and day, as far as they are given; none if there are too many numbers. -/
def resolve (p : DayParts) : Option (Option Nat × Option Nat × Option Nat) :=
  match p.values, p.yearAt, p.monthAt with
  | [], _, _ => some (none, none, none)
  | [a], _, some _ => some (none, some a, none)
  | [a], some _, none => some (some a, none, none)
  | [a], none, none => if 31 < a then some (some a, none, none) else some (none, none, some a)
  | [a, b], some 0, some _ => some (some a, some b, none)
  | [a, b], some _, some _ => some (some b, some a, none)
  | [a, b], none, some m =>
    let (month, other) := if m = 0 then (a, b) else (b, a)
    if 31 < other then some (some other, some month, none)
    else some (none, some month, some other)
  | [a, b], _, none =>
    if 31 < a then some (some a, some b, none)
    else if 31 < b then some (some b, some a, none)
    else some (none, some a, some b)
  | [a, b, c], some y, some m =>
    let at' (i : Nat) : Nat := if i = 0 then a else if i = 1 then b else c
    some (some (at' y), some (at' m), some (at' (3 - y - m)))
  | [a, b, c], none, some 0 =>
    if 31 < b then some (some b, some a, some c) else some (some c, some a, some b)
  | [a, b, c], none, some 1 =>
    if 31 < a then some (some a, some b, some c) else some (some c, some b, some a)
  | [a, b, c], none, some _ =>
    if 31 < b then some (some b, some c, some a) else some (some a, some c, some b)
  | [a, b, c], y, none =>
    if 31 < a || y = some 0 then some (some a, some b, some c)
    else if 12 < a then some (some c, some b, some a)
    else some (some c, some a, some b)
  | _, _, _ => none

end DayParts

/-! ## Reading -/

/-- What has been read so far, in which year. -/
structure Reading where
  thisYear : Nat
  day : DayParts
  weekday : Bool
  hour : Option Nat
  minute : Option Nat
  second : Option Nat
  zone : Option String
  /-- The seconds that the clock is ahead of universal time. -/
  offset : Option Int
  /-- A zone has been named and a distance from it follows, so that the sign counts the other way. -/
  flipped : Bool
deriving Repr

/-- Nothing has been read. -/
def Reading.start (thisYear : Nat) : Reading :=
  ⟨thisYear, ⟨[], none, none, false⟩, false, none, none, none, none, none, false⟩

/-- The hour on a clock of twenty-four hours. -/
def adjustHour (hour : Nat) (afternoon : Bool) : Nat :=
  if hour < 12 && afternoon then hour + 12
  else if hour = 12 && !afternoon then 0
  else hour

/-- Seconds with an optional fraction, six digits of which are looked at. -/
def wholeSeconds? (cs : List Char) : Option Nat :=
  match splitOn '.' cs with
  | [whole] => natural? whole
  | [whole, part] => do
    let n ← natural? whole
    let _ ← digits? (part.take 6)
    pure n
  | _ => none

/-- A token can name a time zone: a time has been read and no zone, and the token is short and in
capitals. -/
def couldBeZone (hour : Option Nat) (zone : Option String) (offset : Option Int) (token : String) :
    Bool :=
  hour.isSome && zone.isNone && offset.isNone && token.length ≤ 5 &&
    (token.toList.all Char.isUpper || token = "z")

/-- Where the unit of time for a number stands: after it, after a blank, or, for the number that
follows, before it. -/
def unitAt? (ts : List String) (i : Nat) : Option Nat :=
  let names (j : Nat) : Bool := (ts[j]?.bind unit?).isSome
  if names (i + 1) then some (i + 1)
  else if ts[i + 1]? = some " " && names (i + 2) then some (i + 2)
  else if 0 < i && names (i - 1) then some (i - 1)
  else if 1 < i && i + 1 = ts.length && ts[i - 1]? = some " " && names (i - 2) then some (i - 2)
  else none

/-- Takes a number as an amount of a unit of time. -/
def Reading.takeUnit (r : Reading) (token : String) (q : Quantity) : Nat → Except DateRefusal Reading
  | 0 => do
    let minute ← q.sixtieths
    pure { r with hour := some q.whole, minute := minute.or r.minute }
  | 1 => do
    let second ← q.sixtieths
    pure { r with minute := some q.whole, second := second }
  | 2 => do
    let s ← needed (wholeSeconds? token.toList)
    pure { r with second := some s }
  | _ => .ok r

/-- Takes a number that a separator follows: up to three numbers, or names of months, with that
separator between them. -/
def Reading.takeSeparated (r : Reading) (ts : List String) (i : Nat) (token sep : String) :
    Option (Nat × Reading) := do
  let first ← r.day.addText token
  match ts[i + 2]? with
  | none => pure (1, { r with day := first })
  | some next =>
    if isFiller next then pure (1, { r with day := first })
    else
      let second ← if allDigits next then first.addText next
        else (month? next).bind first.addMonth
      if ts[i + 3]? = some sep then
        let last ← ts[i + 4]?
        let third ← match month? last with
          | some m => second.addMonth m
          | none => second.addText last
        pure (4, { r with day := third })
      else pure (2, { r with day := second })

/-- Takes a time of day with colons. -/
def Reading.takeClock (r : Reading) (ts : List String) (i : Nat) (q : Quantity) (minutes : String) :
    Except DateRefusal (Nat × Reading) := do
  let m ← needed (Quantity.ofToken? minutes)
  let second ← m.sixtieths
  let r := { r with hour := some q.whole, minute := some m.whole, second := second }
  match ts[i + 3]?, ts[i + 4]? with
  | some ":", some seconds =>
    let s ← needed (wholeSeconds? seconds.toList)
    pure (4, { r with second := some s })
  | _, _ => pure (2, r)

/-- A run of digits with a fixed number of characters: hours and minutes, a short date or a time
without colons, a long date with or without a time. None if the number has no such form. -/
def Reading.takeRun (r : Reading) (token : String) (next : Option String) :
    Option (Option Reading) :=
  let cs := token.toList
  let n := cs.length
  let cut (first last : Nat) : List Char := (cs.drop first).take (last - first)
  let number (first last : Nat) : Option Nat := natural? (cut first last)
  let text (first last : Nat) : String := String.ofList (cut first last)
  if r.day.values.length = 3 && (n = 2 || n = 4) && r.hour.isNone &&
      next.all (fun t => t != ":" && (unit? t).isNone) then
    some do
      let hour ← number 0 2
      if n = 4 then
        let minute ← number 2 4
        pure { r with hour := some hour, minute := some minute }
      else pure { r with hour := some hour }
  else if n = 6 || (6 < n && (cs.takeWhile (· != '.')).length = 6) then
    if r.day.values.isEmpty && !cs.contains '.' then
      some do
        let day ← r.day.addText (text 0 2)
        let day ← day.addText (text 2 4)
        let day ← day.addText (text 4 6)
        pure { r with day := day }
    else
      some do
        let hour ← number 0 2
        let minute ← number 2 4
        let second ← wholeSeconds? (cs.drop 4)
        pure { r with hour := some hour, minute := some minute, second := some second }
  else if n = 8 || n = 12 || n = 14 then
    some do
      let year ← number 0 4
      let day ← r.day.addYear year
      let day ← day.addText (text 4 6)
      let day ← day.addText (text 6 8)
      if n = 8 then pure { r with day := day }
      else
        let hour ← number 8 10
        let minute ← number 10 12
        if n = 12 then pure { r with day := day, hour := some hour, minute := some minute }
        else
          let second ← number 12 14
          pure { r with day := day, hour := some hour, minute := some minute, second := some second }
  else none

/-- Takes a number that stands by itself: the hour before a word for one half of the day, else a part
of the date. -/
def Reading.takeAlone (r : Reading) (next afterNext : Option String) (q : Quantity) :
    Option (Nat × Reading) :=
  if next.all isFiller then
    match afterNext.bind afternoon? with
    | some afternoon => some (2, { r with hour := some (adjustHour q.whole afternoon) })
    | none => (r.day.addQuantity q).map fun day => (1, { r with day := day })
  else
    match (next.bind afternoon?).filter fun _ => q.whole < 24 with
    | some afternoon => some (1, { r with hour := some (adjustHour q.whole afternoon) })
    | none =>
      if r.day.couldBeDay q then (r.day.addQuantity q).map fun day => (0, { r with day := day })
      else none

/-- Takes the number at position `i`. The result says how many tokens after it were used too. -/
def Reading.takeNumber (r : Reading) (ts : List String) (i : Nat) (token : String) (q : Quantity) :
    Except DateRefusal (Nat × Reading) :=
  match r.takeRun token ts[i + 1]? with
  | some result => needed (result.map fun r => (0, r))
  | none =>
    match unitAt? ts i with
    | some j =>
      let unit := (ts[j]?.bind unit?).getD 0
      if i < j then (r.takeUnit token q unit).map fun r => (j - i, r)
      else (r.takeUnit token q (unit + 1)).map fun r => (0, r)
    | none =>
      match ts[i + 1]?, ts[i + 2]? with
      | some ":", some minutes => r.takeClock ts i q minutes
      | next, afterNext =>
        if next = some "-" || next = some "/" || next = some "." then
          needed (r.takeSeparated ts i token (next.getD ""))
        else needed (r.takeAlone next afterNext q)

/-- The year within fifty years of the present that a year of two digits stands for. -/
def Reading.fullYear (r : Reading) (year : Nat) : Nat :=
  if 100 ≤ year then year
  else
    let near := r.thisYear / 100 * 100 + year
    if r.thisYear + 50 ≤ near then near - 100
    else if near + 50 < r.thisYear then near + 100
    else near

/-- Takes the month at position `i`, and the numbers that a dash, a slash or the word "of" ties to
it. After that word digits have to be a year; anything else there means nothing. -/
def Reading.takeMonth (r : Reading) (ts : List String) (i : Nat) (month : Nat) :
    Option (Nat × Reading) := do
  let day ← r.day.addMonth month
  let next := ts[i + 1]?
  if next = some "-" || next = some "/" then
    let second ← day.addText (← ts[i + 2]?)
    if ts[i + 3]? = next then
      let third ← second.addText (← ts[i + 4]?)
      pure (4, { r with day := third })
    else pure (2, { r with day := second })
  else if next = some " " && ts[i + 3]? = some " " && (ts[i + 2]?.map small) = some "of" then
    match ts[i + 4]? with
    | none => pure (0, { r with day := day })
    | some last =>
      if allDigits last then
        let year ← natural? last.toList
        pure (4, { r with day := ← day.addYear (r.fullYear year) })
      else pure (4, { r with day := day })
  else pure (0, { r with day := day })

/-- Takes the distance from universal time whose sign stands at position `i`, and a name of the zone
in brackets after it. -/
def Reading.takeOffset (r : Reading) (ts : List String) (i : Nat) (ahead : Bool) :
    Option (Nat × Reading) := do
  let first ← ts[i + 1]?
  let cs := first.toList
  let (used, hours, minutes) ←
    if cs.length = 4 then do
      let h ← natural? (cs.take 2)
      let m ← natural? (cs.drop 2)
      pure (1, h, m)
    else if ts[i + 2]? = some ":" then do
      let h ← natural? cs
      let m ← natural? (← ts[i + 3]?).toList
      pure (3, h, m)
    else if cs.length ≤ 2 then do
      let h ← natural? cs
      pure (1, h, 0)
    else none
  let seconds : Int := hours * 3600 + minutes * 60
  let r := { r with offset := some (if ahead = r.flipped then -seconds else seconds), flipped := false }
  match ts[i + used + 1]?, ts[i + used + 2]?, ts[i + used + 3]?, ts[i + used + 4]? with
  | some gap, some "(", some name, some ")" =>
    if isFiller gap && 3 ≤ name.length && couldBeZone r.hour r.zone none name then
      pure (used + 4, { r with zone := some name })
    else pure (used, r)
  | _, _, _, _ => pure (used, r)

/-- Takes the name of a time zone. A sign after it starts a distance from that zone, which is then
not universal time itself. -/
def Reading.takeZone (r : Reading) (next : Option String) (token : String) : Reading :=
  if next = some "+" || next = some "-" then
    { r with zone := if isUniversal token then none else some token, flipped := true }
  else { r with zone := some token, offset := if isUniversal token then some 0 else none }

/-- Takes a word or a sign at position `i`. The result says how many tokens after it were used too. -/
def Reading.takeWord (r : Reading) (ts : List String) (i : Nat) (token : String) :
    Option (Nat × Reading) :=
  if ["nan", "inf", "infinity"].contains (small token) then none
  else if isWeekday token then some (0, { r with weekday := true })
  else match month? token with
    | some month => r.takeMonth ts i month
    | none =>
      match afternoon? token, r.hour with
      | some afternoon, some hour =>
        if hour ≤ 12 then some (0, { r with hour := some (adjustHour hour afternoon) }) else none
      | some _, none => none
      | none, _ =>
        if couldBeZone r.hour r.zone r.offset token then
          some (0, r.takeZone ts[i + 1]? token)
        else if r.hour.isSome && (token = "+" || token = "-") then r.takeOffset ts i (token = "+")
        else if isFiller token then some (0, r)
        else none

/-- Takes the token at position `i`. The result says how many tokens after it were used too. -/
def Reading.take (r : Reading) (ts : List String) (i : Nat) (token : String) :
    Except DateRefusal (Nat × Reading) :=
  match Quantity.ofToken? token with
  | some q => r.takeNumber ts i token q
  | none => needed (r.takeWord ts i token)

/-- Takes all tokens from position `i` on. -/
def Reading.takeAll (ts : List String) (i : Nat) (r : Reading) : Except DateRefusal Reading :=
  if h : i < ts.length then
    match r.take ts i ts[i] with
    | .ok (used, r) => Reading.takeAll ts (i + 1 + used) r
    | .error refusal => .error refusal
  else .ok r
termination_by ts.length - i

/-- The longest distance from universal time that can be held, in days. -/
def longestDays : Int := 999999999

/-- A time zone with the distance that has been read can be held. That of universal time counts as
none. -/
def Reading.zoneExists (r : Reading) : Bool :=
  (r.zone.map isUniversal).getD false || r.offset.all fun seconds =>
    decide (-longestDays ≤ seconds.fdiv 86400 ∧ seconds.fdiv 86400 ≤ longestDays)

/-- The year of the date and time that has been read, when they exist. -/
def Reading.year? (r : Reading) : Option Nat := do
  let (year, month, day) ← r.day.resolve
  let empty := year.isNone && month.isNone && day.isNone && !r.weekday && r.hour.isNone &&
    r.minute.isNone && r.second.isNone
  if empty || !r.zoneExists then none
  else
    let year := match year with
      | none => 2000
      | some y => if r.day.century then y else r.fullYear y
    let date ← (Date.ofParts year (month.getD 1) (day.getD 1)).toOption
    let _ ← (Moment.ofParts date (r.hour.getD 0) (r.minute.getD 0) (r.second.getD 0) 0 none).toOption
    pure date.year

/-- Reads dates in a year of the present. -/
def reader (thisYear : Nat) : DateReader := fun s => do
  needed (← Reading.takeAll (tokens s.toList) 0 (.start thisYear)).year?

end Faceted.DateText
