import Faceted.Calendar
import Faceted.Fault

/-!
# Dates and moments

A date has its year, month and day between dashes. A moment goes on with a `T` or blanks and a time
of day, perhaps with a fraction of a second, and perhaps with how far the clock is ahead of universal
time.
-/

namespace Faceted.Yaml

open Faceted.Number

/-- A time of day as it is written. -/
structure StampTime where
  hour : Nat
  minute : Nat
  second : Nat
  micro : Nat
  /-- How many seconds the clock is ahead. -/
  ahead : Option Int
deriving Repr

/-- A date as it is written, and the time of day if there is one. -/
structure Stamp where
  year : Nat
  month : Nat
  day : Nat
  time : Option StampTime
deriving Repr

/-- A clock is less than a day ahead of or behind universal time. -/
def StampTime.checkAhead (time : StampTime) : Except CalendarFault Unit :=
  match time.ahead with
  | some seconds => if 86400 ≤ seconds.natAbs then .error (.ahead seconds) else .ok ()
  | none => .ok ()

namespace Stamp

/-- Reads exactly `n` digits. -/
def digits? (n : Nat) (cs : List Char) : Option (Nat × List Char) :=
  let ds := cs.take n
  if ds.length = n && ds.all Char.isDigit then (readNat? 10 ds).map fun v => (v, cs.drop n) else none

/-- Reads one or two digits. -/
def shortDigits? (cs : List Char) : Option (Nat × List Char) :=
  match digits? 2 cs with
  | some found => some found
  | none => digits? 1 cs

/-- Reads past a character. -/
def past? (c : Char) : List Char → Option (List Char)
  | d :: cs => if d = c then some cs else none
  | [] => none

/-- The first six digits of a fraction of a second. -/
def micros (digits : List Char) : Nat :=
  (readNat? 10 ((digits ++ Text.fill '0' 6).take 6)).getD 0

/-- Reads how far the clock is ahead, which ends the text. -/
def ahead? (cs : List Char) : Option (Option Int) :=
  match cs with
  | [] => some none
  | _ => match cs.dropWhile (fun c => c = ' ' || c = '\t') with
    | ['Z'] => some (some 0)
    | c :: rest =>
      if c = '+' || c = '-' then do
        let (hours, rest) ← shortDigits? rest
        let (minutes, rest) ← match rest with
          | ':' :: rest => digits? 2 rest
          | rest => some (0, rest)
        if rest.isEmpty then some (some (signed (c = '-') (3600 * hours + 60 * minutes))) else none
      else none
    | [] => none

/-- Reads a time of day, which ends the text. -/
def time? (cs : List Char) : Option StampTime := do
  let (hour, rest) ← shortDigits? cs
  let (minute, rest) ← digits? 2 (← past? ':' rest)
  let (second, rest) ← digits? 2 (← past? ':' rest)
  let (fraction, rest) := match rest with
    | '.' :: rest => (rest.takeWhile Char.isDigit, rest.dropWhile Char.isDigit)
    | rest => ([], rest)
  let ahead ← ahead? rest
  pure ⟨hour, minute, second, micros fraction, ahead⟩

/-- Reads what may follow a date. -/
def afterDate? : List Char → Option (Option StampTime)
  | [] => some none
  | c :: cs =>
    if c = 'T' || c = 't' then (time? cs).map some
    else if c = ' ' || c = '\t' then
      (time? (cs.dropWhile fun c => c = ' ' || c = '\t')).map some
    else none

/-- Reads a date or moment. -/
def read? (cs : List Char) : Option Stamp := do
  let (year, rest) ← digits? 4 cs
  let (month, rest) ← shortDigits? (← past? '-' rest)
  let (day, rest) ← shortDigits? (← past? '-' rest)
  let time ← afterDate? rest
  pure ⟨year, month, day, time⟩

/-- The text looks like a date or moment. A date alone has two digits for month and day. -/
def isPlain (cs : List Char) : Bool :=
  match read? cs with
  | some stamp => stamp.time.isSome || cs.length = 10
  | none => false

/-- The date or moment that is written, when it exists. -/
def value (stamp : Stamp) : Except Fault (Date ⊕ Moment) :=
  match stamp.time with
  | none => match Date.ofParts stamp.year stamp.month stamp.day with
    | .ok date => .ok (.inl date)
    | .error fault => .error (.calendar fault)
  | some time =>
    let moment : Except CalendarFault Moment := do
      time.checkAhead
      let date ← Date.ofParts stamp.year stamp.month stamp.day
      Moment.ofParts date time.hour time.minute time.second time.micro time.ahead
    match moment with
    | .ok moment => .ok (.inr moment)
    | .error fault => .error (.calendar fault)

end Stamp

end Faceted.Yaml
