import Faceted.Value
import Faceted.Fault
import Faceted.Text.Quoted
import Faceted.Number.Shortest

/-!
# Values as text

Two texts of a value. The *plain* text of a string is the string itself; the *exact* text shows what
kind of value it is: strings stand in quotes, dates with the name of their class. The parts of a
list or a mapping are always written exactly.

An integer with too many digits cannot be written, so that a value that holds one has no text; the
functions that end in `written` refuse it.

## Termination

Both recurse on the value; lists of parts have functions of their own.
-/

namespace Faceted

open Faceted.Text Faceted.Number

/-- The parts, separated by a comma and a blank, between two brackets. -/
def bracketed (opening : List Char) (parts : List (List Char)) (closing : List Char) : List Char :=
  opening ++ joinWith ", ".toList parts ++ closing

namespace Scalar

/-- How far a clock is ahead, as a class and its arguments. -/
def exactAhead (seconds : Int) : List Char :=
  if seconds = 0 then "datetime.timezone.utc".toList
  else
    let part :=
      if seconds < 0 then
        "days=-1, seconds=".toList ++ intText (seconds + 86400)
      else "seconds=".toList ++ intText seconds
    "datetime.timezone(datetime.timedelta(".toList ++ part ++ "))".toList

/-- The exact text of a moment: trailing zero seconds and fractions are left out. -/
def exactMoment (m : Moment) : List Char :=
  let small := if m.micro = 0 then (if m.second = 0 then [] else [m.second]) else [m.second, m.micro]
  let numbers := [m.date.year, m.date.month, m.date.day, m.hour, m.minute] ++ small
  let zone := (m.ahead.map fun s => ["tzinfo=".toList ++ exactAhead s]).getD []
  bracketed "datetime.datetime(".toList (numbers.map natText ++ zone) ")".toList

/-- The exact text of a scalar. -/
def exact : Scalar → List Char
  | .null => "None".toList
  | .bool true => "True".toList
  | .bool false => "False".toList
  | .int n => intText n
  | .float x => x.text
  | .str s => quoted s.toList
  | .bytes bs => quotedBytes bs
  | .date d => bracketed "datetime.date(".toList ([d.year, d.month, d.day].map natText) ")".toList
  | .moment m => exactMoment m

/-- The plain text of a scalar. -/
def plain : Scalar → List Char
  | .str s => s.toList
  | .date d => d.text
  | .moment m => m.text ' '
  | s => s.exact

/-- The scalar is no integer that is too long to be written. -/
def isWritable : Scalar → Bool
  | .int n => !exceedsDigits n
  | _ => true

end Scalar

/-- The exact text of an optional string. -/
def exactOption : Option String → List Char
  | none => "None".toList
  | some s => quoted s.toList

/-- The exact text of a range of years, given those of its bounds. -/
def exactYears (min max : List Char) : List Char :=
  bracketed "DateRange(".toList ["min=".toList ++ min, "max=".toList ++ max] ")".toList

/-- The exact text of a tuple, given that of its parts: a single part keeps a comma. -/
def exactTuple (parts : List (List Char)) : List Char :=
  match parts with
  | [p] => '(' :: p ++ ",)".toList
  | parts => bracketed ['('] parts [')']

namespace Key

mutual

/-- The exact text of a key. -/
def exact : Key → List Char
  | .scalar s => s.exact
  | .tuple ks => exactTuple (exactAll ks)
  | .years a b => exactYears (exact a) (exact b)

/-- The exact texts of keys. -/
def exactAll : List Key → List (List Char)
  | [] => []
  | k :: ks => exact k :: exactAll ks

end

/-- The plain text of a key. -/
def plain : Key → List Char
  | .scalar s => s.plain
  | k => k.exact

/-- The plain text of a key, as a string. -/
def text (k : Key) : String := String.ofList k.plain

mutual

/-- No integer in the key is too long to be written. -/
def isWritable : Key → Bool
  | .scalar s => s.isWritable
  | .tuple ks => areWritable ks
  | .years a b => isWritable a && isWritable b

/-- No integer in the keys is too long to be written. -/
def areWritable : List Key → Bool
  | [] => true
  | k :: ks => isWritable k && areWritable ks

end

/-- The plain text of a key, if it can be written. -/
def written (k : Key) : Except Fault String :=
  if k.isWritable then .ok k.text else .error .tooLongToWrite

end Key

namespace Value

mutual

/-- The exact text of a value. -/
def exact : Value → List Char
  | .scalar s => s.exact
  | .list xs => bracketed ['['] (exactAll xs) [']']
  | .tuple xs => exactTuple (exactAll xs)
  | .map m => bracketed "\x7b".toList (exactEntries m) "\x7d".toList
  | .set [] => "set()".toList
  | .set ks => bracketed "\x7b".toList (ks.map Key.exact) "\x7d".toList
  | .years a b => exactYears (exact a) (exact b)
  | .endless => "[...]".toList

/-- The exact texts of values. -/
def exactAll : List Value → List (List Char)
  | [] => []
  | x :: xs => exact x :: exactAll xs

/-- The exact texts of the entries of a mapping: key, colon, value. -/
def exactEntries : List (Key × Value) → List (List Char)
  | [] => []
  | (k, v) :: m => (k.exact ++ ':' :: ' ' :: exact v) :: exactEntries m

end

/-- The plain text of a value. -/
def plain : Value → List Char
  | .scalar s => s.plain
  | v => v.exact

/-- The plain text of a value, as a string. -/
def text (v : Value) : String := String.ofList v.plain

/-- The exact text of a value, as a string. -/
def exactString (v : Value) : String := String.ofList v.exact

mutual

/-- No integer in the value is too long to be written. -/
def isWritable : Value → Bool
  | .scalar s => s.isWritable
  | .list xs => areWritable xs
  | .tuple xs => areWritable xs
  | .map m => entriesWritable m
  | .set ks => Key.areWritable ks
  | .years a b => isWritable a && isWritable b
  | .endless => true

/-- No integer in the values is too long to be written. -/
def areWritable : List Value → Bool
  | [] => true
  | x :: xs => isWritable x && areWritable xs

/-- No integer in the entries is too long to be written. -/
def entriesWritable : List (Key × Value) → Bool
  | [] => true
  | (k, v) :: m => k.isWritable && isWritable v && entriesWritable m

end

/-- The plain text of a value, if it can be written. -/
def written (v : Value) : Except Fault String :=
  if v.isWritable then .ok v.text else .error .tooLongToWrite

/-- The plain texts of values, if they can be written. -/
def writtenAll : List Value → Except Fault (List String)
  | [] => .ok []
  | v :: vs => do
    let s ← v.written
    let ss ← writtenAll vs
    pure (s :: ss)

/-- The exact text of a value, if it can be written. -/
def exactlyWritten (v : Value) : Except Fault String :=
  if v.isWritable then .ok v.exactString else .error .tooLongToWrite

/-- The short name of the class of a value. -/
def className : Value → String
  | .scalar .null => "NoneType"
  | .scalar (.bool _) => "bool"
  | .scalar (.int _) => "int"
  | .scalar (.float _) => "float"
  | .scalar (.str _) => "str"
  | .scalar (.bytes _) => "bytes"
  | .scalar (.date _) => "date"
  | .scalar (.moment _) => "datetime"
  | .list _ => "list"
  | .tuple _ => "tuple"
  | .map _ => "dict"
  | .set _ => "set"
  | .years _ _ => "DateRange"
  | .endless => "list"

/-- The name of the class of a value with the module that dates come from. -/
def qualifiedClassName : Value → String
  | .scalar (.date _) => "datetime.date"
  | .scalar (.moment _) => "datetime.datetime"
  | v => v.className

/-- Whether a value counts as true: zero, null, what is empty and false do not. -/
def isTruthy : Value → Bool
  | .scalar .null => false
  | .scalar (.bool b) => b
  | .scalar (.int n) => n != 0
  | .scalar (.float x) => !x.isZero
  | .scalar (.str s) => !s.isEmpty
  | .scalar (.bytes bs) => !bs.isEmpty
  | .scalar (.date _) => true
  | .scalar (.moment _) => true
  | .list xs => !xs.isEmpty
  | .tuple xs => !xs.isEmpty
  | .map m => !m.isEmpty
  | .set ks => !ks.isEmpty
  | .years _ _ => true
  | .endless => true

end Value

/-- The texts of keys, if they can be written. -/
def Key.writtenAll : List Key → Except Fault (List String)
  | [] => .ok []
  | k :: ks => do
    let s ← k.written
    let ss ← Key.writtenAll ks
    pure (s :: ss)

/-- The names that are not among the allowed ones, sorted, each of them once. -/
def namesOutside (allowed names : List String) : List String :=
  (names.filter (!allowed.contains ·)).eraseDups.mergeSort fun a b => decide (a ≤ b)

/-- The texts of the keys that are not among the allowed names, sorted, each of them once. -/
def Mapping.namesOutside (allowed : List String) (m : Mapping) : Except Fault (List String) :=
  (Key.writtenAll (Entries.keys m)).map (Faceted.namesOutside allowed)

end Faceted
