import Faceted.Value.Text
import Faceted.Fault

/-!
# The parts of a value

What there is to go through in a value: the items of a list, the keys of a mapping, the characters
of a string. A mapping can be made of parts that are pairs.
-/

namespace Faceted.Value

/-- The parts of a value, if it has any to go through. -/
def parts? : Value → Option (List Value)
  | .list xs => some xs
  | .tuple xs => some xs
  | .map m => some ((Entries.keys m).map Key.toValue)
  | .set ks => some (ks.map Key.toValue)
  | .scalar (.str s) => some (s.toList.map fun c => .str (String.ofList [c]))
  | .scalar (.bytes bs) => some (bs.map fun b => .int b.toNat)
  | _ => none

/-- The parts of a value. -/
def parts (v : Value) : Except Fault (List Value) :=
  match v.parts? with
  | some xs => .ok xs
  | none => .error (.notIterable v.qualifiedClassName)

mutual

/-- The name of the class of the part that keeps a value from being a key. -/
def obstacle? : Value → Option String
  | .scalar _ => none
  | .years a b => (obstacle? a).or (obstacle? b)
  | .tuple xs => obstacleIn? xs
  | .list _ => some "list"
  | .map _ => some "dict"
  | .set _ => some "set"
  | .endless => some "list"

/-- The first obstacle among values. -/
def obstacleIn? : List Value → Option String
  | [] => none
  | x :: xs => (obstacle? x).or (obstacleIn? xs)

end

/-- The key and the value that a part is made of. -/
def pair (index : Nat) (v : Value) : Except Fault (Key × Value) :=
  match v.parts? with
  | none => .error (.partNotPair index)
  | some [k, x] => match k.toKey? with
    | some key => .ok (key, x)
    | none => .error (.notKey ((obstacle? k).getD k.className))
  | some ps => .error (.pairLength index ps.length)

/-- The pairs that parts are, from the position `index` on. -/
def pairs (index : Nat) : List Value → Except Fault (List (Key × Value))
  | [] => .ok []
  | v :: vs => do
    let e ← pair index v
    let es ← pairs (index + 1) vs
    pure (e :: es)

/-- The mapping that a value is, or that its parts make up. -/
def toMapping : Value → Except Fault Mapping
  | .map m => .ok m
  | v => do pure (Entries.ofList (← pairs 0 (← v.parts)))

end Faceted.Value
