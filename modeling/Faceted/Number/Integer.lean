import Faceted.Text.Blank
import Faceted.Text.Digit

/-!
# Integers as text

Writing an integer in base ten, with or without leading zeros, and reading one from text that may
have blanks around it, a sign, single underscores between digits, and decimal digits of any script.
Text with more digits than `digitLimit` is refused.

## Termination

`digits` divides by ten; reading runs over the characters.
-/

namespace Faceted.Number

open Faceted.Text

/-- The most digits that an integer may have in text. -/
def digitLimit : Nat := 4300

/-! ## Writing -/

/-- The base-ten digits of a number, most significant first, put before `acc`. -/
def digitsOnto (n : Nat) (acc : List Nat) : List Nat :=
  if n < 10 then n :: acc else digitsOnto (n / 10) (n % 10 :: acc)
termination_by n
decreasing_by omega

/-- The base-ten digits of a number, most significant first. -/
def digits (n : Nat) : List Nat := digitsOnto n []

/-- The character of a digit below sixteen. -/
def digitChar (d : Nat) : Char :=
  if d < 10 then Char.ofNat (0x30 + d) else Char.ofNat (0x61 + d - 10)

/-- A number in base ten. -/
def natText (n : Nat) : List Char := (digits n).map digitChar

/-- The least `width` characters, filled up with zeros from the left. -/
def zeroPad (width : Nat) (cs : List Char) : List Char := fill '0' (width - cs.length) ++ cs

/-- An integer in base ten, with a minus sign when it is negative. -/
def intText : Int → List Char
  | .ofNat n => natText n
  | .negSucc n => '-' :: natText (n + 1)

/-- An integer in base ten of at least `width` characters, the sign first and then the zeros. -/
def intTextPadded (width : Nat) : Int → List Char
  | .ofNat n => zeroPad width (natText n)
  | .negSucc n => '-' :: zeroPad (width - 1) (natText (n + 1))

/-- An integer in base ten, as a string. -/
def intString (n : Int) : String := String.ofList (intText n)

/-- The number has too many digits to be written. -/
def exceedsDigits (n : Int) : Bool := digitLimit < (digits n.natAbs).length

/-- The hexadecimal digits of a number below 16 ^ `width`, exactly `width` of them. -/
def hexText : Nat → Nat → List Char
  | 0, _ => []
  | width + 1, n => hexText width (n / 16) ++ [digitChar (n % 16)]

/-! ## Reading -/

/-- Why a text is no integer. -/
inductive IntFault where
  /-- The text is not made of digits as it should. -/
  | malformed
  /-- There are more digits than the limit. -/
  | tooLong (count : Nat)
deriving DecidableEq, Repr

/-- The blanks that may stand around an integer. -/
def isIntBlank (c : Char) : Bool := isBlank c && !(28 ≤ c.toNat && c.toNat ≤ 31)

/-- Digits with single underscores between them, and what follows. The flag says that a digit has
just been read. -/
def spanDigits : Bool → List Char → Option (List Nat × List Char)
  | afterDigit, [] => if afterDigit then some ([], []) else none
  | afterDigit, c :: cs =>
    if c = '_' then (if afterDigit then spanDigits false cs else none)
    else match decimalValue? c with
      | some d => (spanDigits true cs).map fun r => (d :: r.1, r.2)
      | none => if afterDigit then some ([], c :: cs) else none

/-- The sign of a number and what follows it. -/
def spanSign : List Char → Bool × List Char
  | '-' :: cs => (true, cs)
  | '+' :: cs => (false, cs)
  | cs => (false, cs)

/-- A number with its sign. -/
def signed (negative : Bool) (n : Nat) : Int := if negative then -(n : Int) else n

/-- The integer that a text denotes in base ten. -/
def readInt (cs : List Char) : Except IntFault Int :=
  let (negative, body) := spanSign (cs.dropWhile isIntBlank)
  match spanDigits false body with
  | none => .error .malformed
  | some (ds, rest) =>
    if digitLimit < ds.length then .error (.tooLong ds.length)
    else if rest.all isIntBlank then .ok (signed negative (ofDigits ds))
    else .error .malformed

/-- The value of a digit of ASCII in a base up to sixteen. -/
def asciiDigit? (base : Nat) (c : Char) : Option Nat :=
  let n := c.toNat
  let d? :=
    if 0x30 ≤ n && n ≤ 0x39 then some (n - 0x30)
    else if 0x61 ≤ n && n ≤ 0x66 then some (n - 0x61 + 10)
    else if 0x41 ≤ n && n ≤ 0x46 then some (n - 0x41 + 10)
    else none
  d?.filter (· < base)

/-- The number that digits of ASCII denote in a base, when every character is such a digit and
there is at least one. -/
def readNat? (base : Nat) (cs : List Char) : Option Nat :=
  if cs.isEmpty then none
  else (cs.mapM (asciiDigit? base)).map fun ds => ds.foldl (fun n d => base * n + d) 0

/-! ## Small laws -/

theorem digitsOnto_append (n : Nat) (acc more : List Nat) :
    digitsOnto n (acc ++ more) = digitsOnto n acc ++ more := by
  induction n using Nat.strongRecOn generalizing acc with
  | _ n ih =>
    rw [digitsOnto.eq_1 n (acc ++ more), digitsOnto.eq_1 n acc]
    split
    · rfl
    · rw [← List.cons_append, ih (n / 10) (by omega)]

theorem digitsOnto_eq (n : Nat) (acc : List Nat) : digitsOnto n acc = digits n ++ acc := by
  simpa [digits] using digitsOnto_append n [] acc

theorem digits_of_lt {n : Nat} (h : n < 10) : digits n = [n] := by
  rw [digits, digitsOnto, if_pos h]

theorem digits_of_le {n : Nat} (h : 10 ≤ n) : digits n = digits (n / 10) ++ [n % 10] := by
  rw [digits, digitsOnto, if_neg (by omega), digitsOnto_eq]

/-- The digits of a number denote it. -/
theorem ofDigits_digits (n : Nat) : ofDigits (digits n) = n := by
  induction n using Nat.strongRecOn with
  | _ n ih =>
    by_cases h : n < 10
    · simp [digits_of_lt h, ofDigits]
    · have step := ih (n / 10) (by omega)
      rw [digits_of_le (by omega)]
      simp only [ofDigits, List.foldl_append, List.foldl_cons, List.foldl_nil] at step ⊢
      rw [step]
      omega

end Faceted.Number
