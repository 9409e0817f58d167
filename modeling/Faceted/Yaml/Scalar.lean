import Faceted.Value
import Faceted.Text.Base64
import Faceted.Text.Case
import Faceted.Yaml.Resolution

/-!
# Values of scalars

What the text of a scalar means under its tag. A tag may be written to any text, so a text need not
have the form that its tag asks for.
-/

namespace Faceted.Yaml

open Faceted.Text Faceted.Number

/-! ## Integers -/

/-- The integer that a text denotes in base ten. -/
def decimal (cs : List Char) : Except Fault Int :=
  match readInt cs with
  | .ok n => .ok n
  | .error fault => .error (.ofIntFault (String.ofList cs) fault)

/-- The value of a digit of any script, or of a letter that is a digit. -/
def digitIn? (base : Nat) (c : Char) : Option Nat :=
  ((decimalValue? c).or (asciiDigit? 16 c)).filter (· < base)

/-- The letter that a number of a base may have after a zero. -/
def baseLetter (base : Nat) : Char := if base = 2 then 'b' else if base = 8 then 'o' else 'x'

/-- The integer that a text denotes in base two, eight or sixteen. -/
def inBase (base : Nat) (cs : List Char) : Except Fault Int :=
  let bare := ((cs.dropWhile isIntBlank).reverse.dropWhile isIntBlank).reverse
  let (negative, body) := spanSign bare
  let digits := match body with
    | '0' :: c :: rest => if lower [c] = [baseLetter base] then rest else body
    | _ => body
  match digits.mapM (digitIn? base) with
  | some (d :: ds) => .ok (signed negative ((d :: ds).foldl (fun n d => base * n + d) 0))
  | _ => .error (.notInteger base (String.ofList cs))

/-- The number whose digits of base sixty are given, the last one first. -/
def ofSixtieths (digits : List Int) : Int := digits.foldr (fun d n => d + 60 * n) 0

/-- The integer that a text without low lines and sign denotes. -/
def unsignedInt (cs : List Char) : Except Fault Int :=
  match cs with
  | [] => .error .outOfRange
  | '0' :: 'b' :: digits => inBase 2 digits
  | '0' :: 'x' :: digits => inBase 16 digits
  | '0' :: _ => if cs = ['0'] then .ok 0 else inBase 8 cs
  | _ =>
    if cs.contains ':' then do
      pure (ofSixtieths (← (splitOn ':' cs).mapM decimal).reverse)
    else decimal cs

/-- The integer that a text denotes. -/
def readInteger (cs : List Char) : Except Fault Int := do
  let (negative, body) := spanSign (cs.filter (· ≠ '_'))
  let n ← unsignedInt body
  pure (if negative then -n else n)

/-! ## Doubles -/

/-- The double that a text denotes in base ten. -/
def double (cs : List Char) : Except Fault Double :=
  match Double.ofText? cs with
  | some x => .ok x
  | none => .error (.notDouble (String.ofList cs))

/-- The double whose digits of base sixty are given, the last one first. `unit` is what the first of
them is multiplied by, and `sum` what has been added up so far. -/
def ofDoubleSixtieths (unit : Nat) (sum : Double) : List Double → Except Fault Double
  | [] => .ok sum
  | x :: xs => match Double.ofInt? unit with
    | some u => ofDoubleSixtieths (60 * unit) (sum.add (x.scale u)) xs
    | none => .error .beyondDoubles

/-- The double that a text without low lines and sign denotes, in small letters. -/
def unsignedDouble (cs : List Char) : Except Fault Double :=
  if cs = ".inf".toList then .ok (.infinity false)
  else if cs.contains ':' then do
    let parts ← (splitOn ':' cs).mapM double
    ofDoubleSixtieths 1 (.ofRatio false 0 1) parts.reverse
  else double cs

/-- The double that a text denotes. What is not a number has a mark of its own, unless it is the word
for it that stands there. -/
def readDouble (mark : Nat) (cs : List Char) : Except Fault Double :=
  let text := lower (cs.filter (· ≠ '_'))
  if text.isEmpty then .error .outOfRange
  else
    let (negative, body) := spanSign text
    if body = ".nan".toList then .ok .nan
    else do
      let x ← unsignedDouble body
      pure (if x.isNaN then .markedNaN mark else if negative then x.neg else x)

/-! ## Other scalars -/

/-- The truth value that a word stands for. -/
def readBool (cs : List Char) : Except Fault Bool :=
  let word := String.ofList (lower cs)
  if word = "yes" || word = "true" || word = "on" then .ok true
  else if word = "no" || word = "false" || word = "off" then .ok false
  else .error (.noSuchKey word)

/-- The date or moment that a text stands for. -/
def readMoment (cs : List Char) : Except Fault Scalar :=
  match Stamp.read? (withoutLineEnd cs) with
  | none => .error .notMoment
  | some stamp => do
    match ← stamp.value with
    | .inl date => pure (.date date)
    | .inr moment => pure (.moment moment)

/-- The bytes that a text stands for. -/
def readBytes (cs : List Char) : Except Fault (List UInt8) :=
  if cs.any fun c => 0x7F < c.toNat then .error .malformedDocument
  else match Base64.decode? cs with
    | some bytes => .ok bytes
    | none => .error .malformedDocument

/-- The value of a text under a tag, when the tag is one for scalars. The mark is for what is not a
number. -/
def scalar? (mark : Nat) : Tag → Option (List Char → Except Fault Scalar)
  | .null => some fun _ => .ok .null
  | .bool => some fun cs => (readBool cs).map .bool
  | .int => some fun cs => (readInteger cs).map .int
  | .float => some fun cs => (readDouble mark cs).map .float
  | .string => some fun cs => .ok (.str (String.ofList cs))
  | .binary => some fun cs => (readBytes cs).map .bytes
  | .moment => some readMoment
  | _ => none

end Faceted.Yaml
