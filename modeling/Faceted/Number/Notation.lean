import Faceted.Number.Shortest

/-!
# Notations of doubles

The text of the size of a double with a given number of digits, rounded from its exact value, ties to
the even neighbour. The *fixed* notation has so many digits after the point. The *exponential* one has
one digit before it, so many after it, and an exponent of ten. The *general* one has so many digits in
all, zeros at the end left out, and is the exponential notation for sizes far from one.

A flag asks for the point where no digit comes after it, and for the zeros of the general notation.
-/

namespace Faceted.Number.Double

open Faceted.Number Faceted.Text

/-- Digits before the point and digits after it. -/
def pointed (full : Bool) (whole part : List Char) : List Char :=
  if part.isEmpty && !full then whole else whole ++ '.' :: part

/-- The size of a finite double with `places` digits after the point. -/
def fixedText (full : Bool) (places : Nat) (x : Double) : List Char :=
  let n := roundDiv (x.ratio.1 * Nat.pow 10 places) x.ratio.2
  let ds := zeroPad (places + 1) (natText n)
  let cut := ds.length - places
  pointed full (ds.take cut) (ds.drop cut)

/-- The nearest decimal number with `count` digits to the size of a finite double other than zero. -/
def rounded (count : Nat) (x : Double) : Decimal :=
  let (n, d) := x.ratio
  let e := decimalExponent n d + 1 - count
  let m := roundDiv (n * Nat.pow 10 (-e).toNat) (d * Nat.pow 10 e.toNat)
  if m < Nat.pow 10 count then ⟨m, e⟩ else ⟨m / 10, e + 1⟩

/-- `count` digits of the size of a finite double, and the power of ten that the first stands for. -/
def leadingDigits (count : Nat) (x : Double) : List Char × Int :=
  if x.isZero then (fill '0' count, 0)
  else
    let m := x.rounded count
    (natText m.digits, m.exponent + count - 1)

/-- The part of a text that says the exponent: a sign and at least two digits. -/
def exponentText (e : Int) : List Char :=
  'e' :: (if e < 0 then '-' else '+') :: zeroPad 2 (natText e.natAbs)

/-- The size of a finite double with one digit before the point, `places` after it and an exponent. -/
def exponentialText (full : Bool) (places : Nat) (x : Double) : List Char :=
  let (ds, e) := x.leadingDigits (places + 1)
  pointed full (ds.take 1) (ds.drop 1) ++ exponentText e

/-- More digits than any double has. -/
def mostDigits : Nat := 800

/-- The size of a finite double with `precision` digits in all. -/
def generalText (full : Bool) (precision : Nat) (x : Double) : List Char :=
  let precision := max precision 1
  let (ds, e) := x.leadingDigits (if full then precision else min precision mostDigits)
  let part (ds : List Char) : List Char := if full then ds else dropTrailing '0' ds
  if e < -4 || (precision : Int) ≤ e then pointed full (ds.take 1) (part (ds.drop 1)) ++ exponentText e
  else if e < 0 then pointed full ['0'] (part (fill '0' (-e - 1).toNat ++ ds))
  else
    let whole := e.toNat + 1
    pointed full (ds.take whole ++ fill '0' (whole - ds.length)) (part (ds.drop whole))

end Faceted.Number.Double
