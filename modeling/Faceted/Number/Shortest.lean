import Faceted.Number.Double

/-!
# The shortest decimal text of a double

Of all decimal numbers that round to a double, the ones with the fewest digits, and of those the
nearest to it. A finite double and the two ends of the interval that rounds to it are written as
numerators over one denominator; for each count of digits the two neighbours of the double on that
decimal grid are tried.

## Termination

The search runs over the counts 1 to 17; seventeen digits always suffice.
-/

namespace Faceted.Number.Double

open Faceted.Number Faceted.Text

/-- A decimal number `digits * 10 ^ exponent`. -/
structure Decimal where
  digits : Nat
  exponent : Int
deriving DecidableEq, Repr

/-- The decimal exponent `e` with `10 ^ e ≤ n / d < 10 ^ (e + 1)`. -/
def decimalExponent (n d : Nat) : Int :=
  let guess : Int := ((n.log2 : Int) - d.log2) * 30103 / 100000
  let atLeast (e : Int) : Bool := d * Nat.pow 10 e.toNat ≤ n * Nat.pow 10 (-e).toNat
  if atLeast (guess + 1) then (if atLeast (guess + 2) then guess + 2 else guess + 1)
  else if atLeast guess then guess else guess - 1

/-- The numerators, over `ratio`'s denominator times four, of the lower end of the rounding
interval, of the double itself, and of the upper end. -/
def interval (x : Double) : Nat × Nat × Nat :=
  let unit := x.ratio.1 / x.mantissa
  let v := 4 * x.ratio.1
  let below := if x.fraction = 0 && 1 < x.biased then unit else 2 * unit
  (v - below, v, v + 2 * unit)

/-- The best decimal number with `count` digits that rounds to the double, if there is one. -/
def withDigits? (x : Double) (count : Nat) : Option Decimal :=
  let (low, v, high) := x.interval
  let d := 4 * x.ratio.2
  let e := decimalExponent v d + 1 - count
  let up := Nat.pow 10 (-e).toNat
  let down := d * Nat.pow 10 e.toNat
  let closed := x.mantissa % 2 == 0
  let inside (n : Nat) : Bool :=
    if closed then low * up ≤ n * down && n * down ≤ high * up
    else low * up < n * down && n * down < high * up
  let floor := v * up / down
  let ceil := floor + 1
  let fromFloor := v * up - floor * down
  let fromCeil := ceil * down - v * up
  match inside floor, inside ceil with
  | true, true =>
    if fromFloor < fromCeil || (fromFloor == fromCeil && floor % 2 == 0) then some ⟨floor, e⟩
    else some ⟨ceil, e⟩
  | true, false => some ⟨floor, e⟩
  | false, true => some ⟨ceil, e⟩
  | false, false => none

/-- The shortest decimal number that rounds to a finite double other than zero. -/
def shortest (x : Double) : Decimal :=
  ((List.range 17).findSome? fun i => x.withDigits? (i + 1)).getD ⟨0, 0⟩

/-- How the decimal text of a double is laid out. -/
structure Layout where
  /-- Positional notation needs the point at most this many places before the first digit. -/
  lowest : Int
  /-- Positional notation needs the point at most this many places after it. -/
  highest : Int
  /-- The least number of digits of an exponent. -/
  exponentWidth : Nat
  infinite : List Char
  notNumber : List Char

/-- The digits with the point `place` digits after the first, at least one digit on either side. -/
def positional (ds : List Char) (place : Int) : List Char :=
  if place ≤ 0 then "0.".toList ++ fill '0' (-place).toNat ++ ds
  else
    let n := place.toNat
    if ds.length ≤ n then ds ++ fill '0' (n - ds.length) ++ ".0".toList
    else ds.take n ++ '.' :: ds.drop n

/-- One digit, the others after a point, and the exponent. -/
def exponential (l : Layout) (ds : List Char) (place : Int) : List Char :=
  let e := place - 1
  let size := zeroPad l.exponentWidth (natText e.natAbs)
  let exponent := 'e' :: (if e < 0 then '-' else '+') :: size
  match ds with
  | [] => []
  | [d] => d :: exponent
  | d :: ds => d :: '.' :: ds ++ exponent

/-- The digits of a decimal number without trailing zeros. -/
def Decimal.significant (n : Decimal) : List Char := dropTrailing '0' (natText n.digits)

/-- The text of the size of a double. -/
def sizeText (l : Layout) (x : Double) : List Char :=
  if x.isNaN then l.notNumber
  else if x.isInfinite then l.infinite
  else if x.isZero then "0.0".toList
  else
    let s := x.shortest
    let place : Int := s.exponent + (natText s.digits).length
    if l.lowest ≤ place && place ≤ l.highest then positional s.significant place
    else exponential l s.significant place

/-- The text of a double in a layout. -/
def textIn (l : Layout) (x : Double) : List Char :=
  if x.negative && !x.isNaN then '-' :: sizeText l x else sizeText l x

/-- Positional from a ten-thousandth up to sixteen digits before the point. -/
def plainLayout : Layout := ⟨-3, 16, 2, "inf".toList, "nan".toList⟩

/-- The text of a double with the fewest digits that read back. -/
def text (x : Double) : List Char := x.textIn plainLayout

end Faceted.Number.Double
