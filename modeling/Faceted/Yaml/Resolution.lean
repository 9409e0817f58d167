import Faceted.Yaml.Node
import Faceted.Yaml.Stamp

/-!
# Tags of plain scalars

A plain scalar without a tag is what its text looks like: one of a few words, a number in one of
several forms, a date or moment, and a string otherwise.

A number may have low lines among its digits. An integer in base two begins with `0b`, one in base
eight with `0`, one in base sixteen with `0x`; parts below sixty that are separated by colons count
in sixties. A double has a point, and a sign in its exponent.
-/

namespace Faceted.Yaml

open Faceted.Text Faceted.Number

/-! ## Words -/

/-- The words for truth values. -/
def boolWords : List String :=
  ["yes", "Yes", "YES", "no", "No", "NO", "true", "True", "TRUE", "false", "False", "FALSE",
    "on", "On", "ON", "off", "Off", "OFF"]

/-- The words for nothing. -/
def nullWords : List String := ["~", "null", "Null", "NULL", ""]

/-- The words for infinity and for what is not a number, after their points. -/
def infinityWords : List String := [".inf", ".Inf", ".INF"]

@[inherit_doc infinityWords]
def nanWords : List String := [".nan", ".NaN", ".NAN"]

/-! ## Numbers -/

/-- A digit of a base, or a low line. -/
def isSpacedDigit (base : Nat) (c : Char) : Bool := (asciiDigit? base c).isSome || c = '_'

/-- Some characters, all of which pass a test. -/
def isRun (test : Char → Bool) (cs : List Char) : Bool := !cs.isEmpty && cs.all test

/-- Digits of base ten with low lines among them, the first being a digit. -/
def isDecimal (cs : List Char) : Bool :=
  (cs.head?.map Char.isDigit).getD false && cs.all (isSpacedDigit 10)

/-- A number below sixty of one or two digits. -/
def isSixtieth : List Char → Bool
  | [a] => a.isDigit
  | [a, b] => a.isDigit && a ≤ '5' && b.isDigit
  | _ => false

/-- The text looks like an integer. -/
def isInt (cs : List Char) : Bool :=
  let body := (spanSign cs).2
  match body with
  | '0' :: 'b' :: digits => isRun (isSpacedDigit 2) digits
  | '0' :: 'x' :: digits => isRun (isSpacedDigit 16) digits
  | '0' :: digits => digits.all (isSpacedDigit 8)
  | _ => match splitOn ':' body with
    | whole :: parts => isDecimal whole && parts.all isSixtieth
    | [] => false

/-- The text is an exponent with a sign, or there is none. -/
def isExponent : List Char → Bool
  | [] => true
  | e :: sign :: digits =>
    (e = 'e' || e = 'E') && (sign = '+' || sign = '-') && isRun Char.isDigit digits
  | _ => false

/-- The text looks like the part of a double after its point. -/
def isFraction (cs : List Char) : Bool := isExponent (cs.dropWhile (isSpacedDigit 10))

/-- The text looks like a double. -/
def isFloat (cs : List Char) : Bool :=
  let body := (spanSign cs).2
  let whole := body.takeWhile (· ≠ '.')
  match body.drop whole.length with
  | [] => false
  | _ :: part =>
    if whole.isEmpty then
      infinityWords.contains (String.ofList body) ||
        (body.length = cs.length && (nanWords.contains (String.ofList body) ||
          ((part.head?.map Char.isDigit).getD false && isFraction part)))
    else match splitOn ':' whole with
      | [digits] => isDecimal digits && isFraction part
      | digits :: parts =>
        isDecimal digits && parts.all isSixtieth && part.all (isSpacedDigit 10)
      | [] => false

/-! ## Resolution -/

/-- A text without the line end that it may have at its end. -/
def withoutLineEnd (cs : List Char) : List Char :=
  if cs.getLast? = some '\n' then cs.dropLast else cs

/-- Texts that may be no plain scalars, though a text in quotes may ask to be read like one. -/
def refusedWords : List String := ["!", "&", "*"]

/-- The tag of a text that is read as what it looks like. A line end after it does not count, except
that one alone is a string. -/
def Tag.ofPlain (cs : List Char) : Tag :=
  let line := withoutLineEnd cs
  let s := String.ofList line
  if cs = ['\n'] then .string
  else if boolWords.contains s then .bool
  else if isFloat line then .float
  else if isInt line then .int
  else if s = "<<" then .merge
  else if nullWords.contains s then .null
  else if Stamp.isPlain line then .moment
  else if s = "=" then .default
  else if refusedWords.contains s then .unknown
  else .string

end Faceted.Yaml
