import Faceted.Number.Integer

/-!
# Double-precision numbers

A number in the binary64 format, held as its 64 bits. Every operation goes through exact arithmetic
on natural numbers: a finite double is `m * 2 ^ q`, and `ofRatio` rounds a fraction to the nearest
double, ties to the even neighbour.
Powers are those of `Nat.pow`, the same function whichever instances are in scope.

## Termination

There is no loop: the binary exponent of a fraction is found from the lengths of its two parts.
-/

namespace Faceted.Number

open Faceted.Text

/-- A binary64 number. -/
structure Double where
  bits : UInt64
deriving DecidableEq, Repr

namespace Double

/-! ## Parts -/

/-- The sign bit. -/
def negative (x : Double) : Bool := Nat.pow 2 63 ≤ x.bits.toNat

/-- The biased exponent, eleven bits. -/
def biased (x : Double) : Nat := x.bits.toNat / Nat.pow 2 52 % Nat.pow 2 11

/-- The fraction, fifty-two bits. -/
def fraction (x : Double) : Nat := x.bits.toNat % Nat.pow 2 52

/-- The double with a sign and the other 63 bits. -/
def ofBits (negative : Bool) (rest : Nat) : Double :=
  ⟨UInt64.ofNat (rest + if negative then Nat.pow 2 63 else 0)⟩

/-- The bits, apart from the sign, of infinity. -/
def infiniteBits : Nat := 2047 * Nat.pow 2 52

/-- Infinity of either sign. -/
def infinity (negative : Bool) : Double := ofBits negative infiniteBits

/-- A double that is not a number, with a mark that tells it from others of its kind. -/
def markedNaN (mark : Nat) : Double := ofBits false (infiniteBits + Nat.pow 2 51 + mark % Nat.pow 2 51)

/-- The double that is not a number, without a mark. -/
def nan : Double := markedNaN 0

/-- Not a number. -/
def isNaN (x : Double) : Bool := x.biased == 2047 && x.fraction != 0

/-- Infinite. -/
def isInfinite (x : Double) : Bool := x.biased == 2047 && x.fraction == 0

/-- Neither infinite nor not a number. -/
def isFinite (x : Double) : Bool := x.biased != 2047

/-- Zero of either sign. -/
def isZero (x : Double) : Bool := x.biased == 0 && x.fraction == 0

/-- The whole number `m` of a finite double `± m * 2 ^ q`. -/
def mantissa (x : Double) : Nat := if x.biased = 0 then x.fraction else Nat.pow 2 52 + x.fraction

/-- The exponent `q` of a finite double `± m * 2 ^ q`. -/
def exponent (x : Double) : Int := if x.biased = 0 then -1074 else (x.biased : Int) - 1075

/-- The size of a finite double as a fraction. -/
def ratio (x : Double) : Nat × Nat :=
  (x.mantissa * Nat.pow 2 x.exponent.toNat, Nat.pow 2 (-x.exponent).toNat)

/-! ## Rounding -/

/-- The nearest whole number to `n / d`, a half going to the even neighbour. -/
def roundDiv (n d : Nat) : Nat :=
  let m := n / d
  let r := n % d
  if d < 2 * r || (2 * r == d && m % 2 == 1) then m + 1 else m

/-- The bits of the double nearest to `n / d`, apart from the sign; beyond the largest finite
double it is infinity. -/
def roundedBits (n d : Nat) : Nat :=
  if n = 0 then 0 else
  let k : Int := (n.log2 : Int) - d.log2
  let wide := n * Nat.pow 2 (53 - k).toNat / (d * Nat.pow 2 (k - 53).toNat)
  let q := max (if Nat.pow 2 53 ≤ wide then k - 52 else k - 53) (-1074)
  let m := roundDiv (n * Nat.pow 2 (-q).toNat) (d * Nat.pow 2 q.toNat)
  let bits := if m < Nat.pow 2 52 then m else (q + 1074).toNat * Nat.pow 2 52 + m
  min bits infiniteBits

/-- The double nearest to the fraction `n / d`. -/
def ofRatio (negative : Bool) (n d : Nat) : Double := ofBits negative (roundedBits n d)

/-- The double nearest to an integer; none when the integer is too large. -/
def ofInt? (n : Int) : Option Double :=
  let x := ofRatio (n < 0) n.natAbs 1
  if x.isInfinite then none else some x

/-- The double nearest to `n * 10 ^ e`. Exponents far outside the format are decided by the number
of digits alone. -/
def ofScientific (negative : Bool) (n : Nat) (e : Int) : Double :=
  let size : Int := e + (digits n).length
  if n = 0 then ofBits negative 0
  else if 400 < size then infinity negative
  else if size < -400 then ofBits negative 0
  else ofRatio negative (n * Nat.pow 10 e.toNat) (Nat.pow 10 (-e).toNat)

/-! ## Comparison and arithmetic -/

/-- Not greater than zero; what is not a number is never so. -/
def isNonpositive (x : Double) : Bool := !x.isNaN && (x.negative || x.isZero)

/-- The integer that a finite double is, if it is one. -/
def toInt? (x : Double) : Option Int :=
  let (n, d) := x.ratio
  if x.isFinite && n % d == 0 then some (signed x.negative (n / d)) else none

/-- The integer part of a finite double, toward zero. -/
def truncate (x : Double) : Int := signed x.negative (x.ratio.1 / x.ratio.2)

/-- The other sign. -/
def neg (x : Double) : Double := ofBits (!x.negative) (x.bits.toNat % Nat.pow 2 63)

/-- The product of a double and a finite one above zero. -/
def scale (x y : Double) : Double :=
  if x.isFinite then ofRatio x.negative (x.ratio.1 * y.ratio.1) (x.ratio.2 * y.ratio.2) else x

/-- The sum of two doubles that are not both finite. -/
def addInfinite (x y : Double) : Double :=
  if x.isNaN || y.isNaN then nan
  else if x.isInfinite && y.isInfinite && x.negative != y.negative then nan
  else if x.isInfinite then x
  else y

/-- The sum of two doubles. A sum of zero is negative only if both are. -/
def add (x y : Double) : Double :=
  if x.isFinite && y.isFinite then
    let n := signed x.negative (x.ratio.1 * y.ratio.2) + signed y.negative (y.ratio.1 * x.ratio.2)
    ofRatio (n < 0 || (n = 0 && x.negative && y.negative)) n.natAbs (x.ratio.2 * y.ratio.2)
  else addInfinite x y

/-! ## Reading -/

/-- A run of digits of ASCII and what follows it. -/
def spanAscii (cs : List Char) : List Char × List Char :=
  (cs.takeWhile Char.isDigit, cs.dropWhile Char.isDigit)

/-- The exponent part `e±ddd` of a decimal number; an absent part is zero. -/
def readExponent? (cs : List Char) : Option Int :=
  match cs with
  | [] => some 0
  | c :: cs =>
    if c = 'e' || c = 'E' then
      let (negative, body) := spanSign cs
      (readNat? 10 body).map (signed negative)
    else none

/-- The text without its underscores, each of which has to stand between two digits of ASCII. The
flag says that a digit comes before the text. -/
def dropUnderscores? : Bool → List Char → Option (List Char)
  | _, [] => some []
  | afterDigit, c :: cs =>
    if c = '_' then
      if afterDigit && (cs.head?.map Char.isDigit).getD false then dropUnderscores? false cs else none
    else (dropUnderscores? c.isDigit cs).map (c :: ·)

/-- The double that a bare text in ASCII denotes: a sign, digits with at most one point, an exponent;
or one of the words for infinity and for what is not a number, in any case. -/
def ofAscii? (cs : List Char) : Option Double :=
  let (negative, body) := spanSign cs
  let word := String.ofList (body.map Char.toLower)
  if word = "inf" || word = "infinity" then some (infinity negative)
  else if word = "nan" then some nan
  else
    let (whole, rest) := spanAscii body
    let (part, tail) := match rest with
      | '.' :: rest => spanAscii rest
      | rest => ([], rest)
    if whole.isEmpty && part.isEmpty then none
    else do
      let n ← readNat? 10 (whole ++ part)
      let e ← readExponent? tail
      pure (ofScientific negative n (e - part.length))

/-- A decimal digit of any script as that of ASCII. -/
def asciiForm (c : Char) : Char :=
  match decimalValue? c with
  | some d => digitChar d
  | none => c

/-- The double that a decimal text denotes. There may be blanks around it, single underscores between
digits, and decimal digits of any script. -/
def ofText? (cs : List Char) : Option Double :=
  let bare := ((cs.dropWhile isIntBlank).reverse.dropWhile isIntBlank).reverse
  (dropUnderscores? false (bare.map asciiForm)).bind ofAscii?

end Double

end Faceted.Number
