import Faceted.Number.Notation
import Faceted.Severity
import Faceted.Template.Place
import Faceted.Value.Text

/-!
# Templates of log messages

A template with its arguments. Each place without a name takes the next argument, and all of them have
to be taken. When there is only one argument, a mapping with something in it, a place with a name takes
the value under that name; a place without one takes the whole mapping, but not after a name. Arguments
that do not fit the places make a template worthless, and there is no record then.

## Termination

Filling runs over the pieces of the template.
-/

namespace Faceted.Template

open Faceted.Text Faceted.Number

/-! ## Writing an argument -/

/-- A place whose width and precision are known. -/
structure Slot where
  flags : Flags
  width : Nat
  precision : Option Nat
deriving Repr

/-- The most characters that a place may be filled up to. -/
def mostFilled : Nat := Nat.pow 10 7

namespace Slot

/-- Fills a text up to the width. -/
def pad (slot : Slot) (cs : List Char) : List Char :=
  let gap := fill ' ' (slot.width - cs.length)
  if slot.flags.left then cs ++ gap else gap ++ cs

/-- A text, cut to the precision. -/
def text (slot : Slot) (cs : List Char) : List Char :=
  slot.pad (match slot.precision with
    | some n => cs.take n
    | none => cs)

/-- A number: its sign, what comes before the digits, and the digits. -/
def number (slot : Slot) (negative : Bool) (lead digits : List Char) : List Char :=
  let sign := if negative then ['-'] else if slot.flags.plus then ['+']
    else if slot.flags.blank then [' '] else []
  let head := sign ++ lead
  if slot.flags.zeros && !slot.flags.left then head ++ zeroPad (slot.width - head.length) digits
  else slot.pad (head ++ digits)

/-- An integer in a base, with as many digits as the precision asks for. -/
def integer (slot : Slot) (base : Nat) (lead : List Char) (n : Int) : List Char :=
  let digits := zeroPad (slot.precision.getD 1) (Nat.toDigits base n.natAbs)
  slot.number (n < 0) (if slot.flags.full then lead else []) digits

/-- A double, given the notation for finite ones, which has six digits where no precision is asked
for. -/
def double (slot : Slot) (style : Bool → Nat → Double → List Char) (x : Double) : List Char :=
  let body := if x.isNaN then "nan".toList else if x.isInfinite then "inf".toList
    else style slot.flags.full (slot.precision.getD 6) x
  slot.number (x.negative && !x.isNaN) [] body

end Slot

/-- The integer that a value is; a truth value is one or zero. -/
def integer? : Value → Option Int
  | .scalar (.int n) => some n
  | .scalar (.bool b) => some (if b then 1 else 0)
  | _ => none

/-- The whole number that a value is written as in base ten. -/
def whole? : Value → Option Int
  | .scalar (.float x) => if x.isFinite then some x.truncate else none
  | v => (integer? v).filter (!exceedsDigits ·)

/-- The double that a value is written as. -/
def double? : Value → Option Double
  | .scalar (.float x) => some x
  | v => (integer? v).bind Double.ofInt?

/-- The character that a value is, by itself or by its number. -/
def character? : Value → Option Char
  | .scalar (.str s) => match s.toList with
    | [c] => some c
    | _ => none
  | v => do
    let n ← integer? v
    let c := Char.ofNat n.toNat
    if (c.toNat : Int) = n then some c else none

/-- A text in ASCII: every other character by its number. -/
def inAscii (cs : List Char) : List Char :=
  cs.flatMap fun c => if c.toNat ≤ 0x7F then [c] else numbered c.toNat

/-- The text of a value, if it can be written. -/
def textOf? (text : Value → List Char) (v : Value) : Option (List Char) :=
  if v.isWritable then some (text v) else none

/-- A text in capitals. -/
def capital (cs : List Char) : List Char := cs.map Char.toUpper

/-- An argument in a slot, by the letter of the place. -/
def Slot.write? (slot : Slot) (letter : Char) (v : Value) : Option (List Char) :=
  if mostFilled < slot.width then none
  else if letter = 's' then (textOf? Value.plain v).map slot.text
  else if letter = 'r' then (textOf? Value.exact v).map slot.text
  else if letter = 'a' then (textOf? Value.exact v).map (slot.text ∘ inAscii)
  else if letter = 'c' then (character? v).map fun c => slot.pad [c]
  else if letter = 'g' then (double? v).map (slot.double Double.generalText)
  else if letter = 'G' then (double? v).map (capital ∘ slot.double Double.generalText)
  else if mostFilled < slot.precision.getD 0 then none
  else if letter = 'd' || letter = 'i' || letter = 'u' then (whole? v).map (slot.integer 10 [])
  else if letter = 'o' then (integer? v).map (slot.integer 8 ['0', 'o'])
  else if letter = 'x' then (integer? v).map (slot.integer 16 ['0', 'x'])
  else if letter = 'X' then (integer? v).map (capital ∘ slot.integer 16 ['0', 'x'])
  else if letter = 'e' then (double? v).map (slot.double Double.exponentialText)
  else if letter = 'E' then (double? v).map (capital ∘ slot.double Double.exponentialText)
  else if letter = 'f' then (double? v).map (slot.double Double.fixedText)
  else if letter = 'F' then (double? v).map (capital ∘ slot.double Double.fixedText)
  else none

/-! ## Filling -/

/-- The arguments that are left for places without a name. -/
inductive Supply where
  /-- Arguments to be taken in turn, all of them. -/
  | queue (vs : List Value)
  /-- One value, which may be taken once. -/
  | single (v : Value) (fresh : Bool)

/-- The next argument, and what is left. -/
def Supply.next? : Supply → Option (Value × Supply)
  | .queue [] => none
  | .queue (v :: vs) => some (v, .queue vs)
  | .single v fresh => if fresh then some (v, .single v false) else none

/-- No argument is left that has to be taken. -/
def Supply.isDone : Supply → Bool
  | .queue vs => vs.isEmpty
  | .single _ _ => true

/-- A number of a place, and the arguments that are left. -/
def Amount.resolve? (supply : Supply) : Amount → Option (Int × Supply)
  | .given n => some (n, supply)
  | .taken => do
    let (v, supply) ← supply.next?
    let n ← integer? v
    pure (n, supply)

/-- The width and precision of a place, and the arguments that are left. A negative width asks for the
left end, a negative precision counts as zero. -/
def Place.resolve? (place : Place) (supply : Supply) : Option (Slot × Supply) := do
  let (width, supply) ← place.width.resolve? supply
  let (precision, supply) ← match place.precision with
    | none => some (none, supply)
    | some amount => (amount.resolve? supply).map fun r => (some r.1, r.2)
  if mostWidth < width.natAbs then none
  else if mostPrecision < (precision.getD 0).natAbs then none
  else
    let flags := if width < 0 then { place.flags with left := true } else place.flags
    pure (⟨flags, width.natAbs, precision.map Int.toNat⟩, supply)

/-- The argument of a place written there, and the arguments that are left. -/
def Place.fill? (named : Option Mapping) (supply : Supply) (place : Place) :
    Option (List Char × Supply) := do
  let supply ← match place.name with
    | none => some supply
    | some name => (named.bind (Entries.find? name)).map fun v => Supply.single v true
  let (slot, supply) ← place.resolve? supply
  let (v, supply) ← supply.next?
  let text ← slot.write? place.letter v
  pure (text, supply)

/-- Pieces of a template with the arguments that are left for them. -/
def fillAll? (named : Option Mapping) (supply : Supply) : List Piece → Option (List Char)
  | [] => if supply.isDone then some [] else none
  | .char c :: pieces => (fillAll? named supply pieces).map (c :: ·)
  | .place place :: pieces => do
    let (text, supply) ← place.fill? named supply
    let rest ← fillAll? named supply pieces
    pure (text ++ rest)

/-- A template with its arguments; without arguments it stands for itself. None when the arguments
do not fit the places. -/
def fillIn? (template : String) (args : List Value) : Option String :=
  match args with
  | [] => some template
  | args => do
    let pieces ← pieces? template.toList
    let text ← match args with
      | [.map m] =>
        if m.isEmpty then fillAll? none (.queue args) pieces
        else fillAll? (some m) (.single (.map m) true) pieces
      | _ => fillAll? none (.queue args) pieces
    pure (String.ofList text)

end Faceted.Template

namespace Faceted

/-- The records of a template with its arguments: one, or none if they do not fit. -/
def LogRecord.filled (severity : Severity) (template : String) (args : List Value) : List LogRecord :=
  ((Template.fillIn? template args).map fun message => ⟨severity, message⟩).toList

end Faceted
