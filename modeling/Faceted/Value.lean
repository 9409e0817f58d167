import Faceted.Number.Double
import Faceted.Calendar

/-!
# Document values

The values of configuration files, filter files, request bodies and responses: plain scalars, lists
and tuples, and mappings that keep the order in which their keys came. A range of years is a value
too, since a filter entry may carry any value before the compiler looks at it.

Two keys are the same when their canonical forms are equal: the number one, `true` and `1.0` name
one entry of a mapping, and so do two moments that are one instant. What is not a number is a key of
its own wherever it is written, which its mark tells.

A document may hold itself. Its value goes on for some levels then, and breaks off at a part that is
marked as endless.

## Termination

All functions recurse on the value; a list inside a value has a function of its own.
-/

namespace Faceted

open Faceted.Number

/-- A value without parts. -/
inductive Scalar where
  | null
  | bool (b : Bool)
  | int (n : Int)
  | float (x : Double)
  | str (s : String)
  | bytes (bs : List UInt8)
  | date (d : Date)
  | moment (m : Moment)
deriving DecidableEq, Repr

/-- The key of a mapping: a scalar, a tuple of keys, or a range of years between two keys. -/
inductive Key where
  | scalar (s : Scalar)
  | tuple (ks : List Key)
  | years (min max : Key)
deriving Repr

/-- A value of a document. -/
inductive Value where
  | scalar (s : Scalar)
  | list (xs : List Value)
  | tuple (xs : List Value)
  | map (entries : List (Key × Value))
  | set (members : List Key)
  /-- A range of years; a bound that is null leaves it open. -/
  | years (min max : Value)
  /-- A part of a document that holds itself again, which goes on without an end. -/
  | endless
deriving Repr

/-- Bounds of whole years; an absent bound leaves the range open. -/
structure DateRange where
  min : Option String
  max : Option String
deriving DecidableEq, Repr

/-- The entries of a mapping, in order. -/
abbrev Mapping := List (Key × Value)

namespace Value

@[match_pattern] abbrev null : Value := .scalar .null
@[match_pattern] abbrev bool (b : Bool) : Value := .scalar (.bool b)
@[match_pattern] abbrev int (n : Int) : Value := .scalar (.int n)
@[match_pattern] abbrev float (x : Double) : Value := .scalar (.float x)
@[match_pattern] abbrev str (s : String) : Value := .scalar (.str s)

instance : Inhabited Value := ⟨.null⟩

end Value

namespace Key

@[match_pattern] abbrev str (s : String) : Key := .scalar (.str s)

instance : Inhabited Key := ⟨.scalar .null⟩

/-! ## Equality -/

mutual

/-- The two keys are equal. -/
def beq : Key → Key → Bool
  | .scalar a, .scalar b => a == b
  | .tuple ks, .tuple ls => beqList ks ls
  | .years a b, .years c d => beq a c && beq b d
  | _, _ => false

/-- The two lists of keys are equal. -/
def beqList : List Key → List Key → Bool
  | [], [] => true
  | k :: ks, l :: ls => beq k l && beqList ks ls
  | _, _ => false

end

mutual

theorem beq_iff : ∀ k l : Key, beq k l = true ↔ k = l
  | .scalar a, l => by cases l <;> simp [beq]
  | .tuple ks, .tuple ls => by simp [beq, beqList_iff ks ls]
  | .tuple _, .scalar _ => by simp [beq]
  | .tuple _, .years _ _ => by simp [beq]
  | .years a b, .years c d => by simp [beq, beq_iff a c, beq_iff b d]
  | .years _ _, .scalar _ => by simp [beq]
  | .years _ _, .tuple _ => by simp [beq]

theorem beqList_iff : ∀ ks ls : List Key, beqList ks ls = true ↔ ks = ls
  | [], [] => by simp [beqList]
  | k :: ks, l :: ls => by simp [beqList, beq_iff k l, beqList_iff ks ls]
  | [], _ :: _ => by simp [beqList]
  | _ :: _, [] => by simp [beqList]

end

instance : DecidableEq Key := fun k l => decidable_of_iff _ (beq_iff k l)

/-! ## Canonical form -/

/-- The canonical form of a scalar key: a truth value or a whole double is the integer it equals, and
a moment stands at universal time. -/
def canonicalScalar : Scalar → Scalar
  | .bool b => .int (if b then 1 else 0)
  | .float x => match x.toInt? with
    | some n => .int n
    | none => .float x
  | .moment m => .moment m.universal
  | s => s

mutual

/-- The canonical form of a key. -/
def canonical : Key → Key
  | .scalar s => .scalar (canonicalScalar s)
  | .tuple ks => .tuple (canonicalList ks)
  | .years a b => .years (canonical a) (canonical b)

/-- The canonical forms of keys. -/
def canonicalList : List Key → List Key
  | [] => []
  | k :: ks => canonical k :: canonicalList ks

end

/-- The two keys name one entry. -/
def same (k l : Key) : Bool := k.canonical == l.canonical

mutual

/-- A key as a value. -/
def toValue : Key → Value
  | .scalar s => .scalar s
  | .tuple ks => .tuple (toValues ks)
  | .years a b => .years (toValue a) (toValue b)

/-- Keys as values. -/
def toValues : List Key → List Value
  | [] => []
  | k :: ks => toValue k :: toValues ks

end

/-- The string that a key is, if it is one. -/
def str? : Key → Option String
  | .str s => some s
  | _ => none

end Key

namespace Value

mutual

/-- The key that a value is, if it can be one: lists, mappings and sets cannot. -/
def toKey? : Value → Option Key
  | .scalar s => some (.scalar s)
  | .tuple xs => (toKeys? xs).map .tuple
  | .years min max => match toKey? min, toKey? max with
    | some a, some b => some (.years a b)
    | _, _ => none
  | _ => none

/-- The keys that values are. -/
def toKeys? : List Value → Option (List Key)
  | [] => some []
  | x :: xs => match toKey? x, toKeys? xs with
    | some k, some ks => some (k :: ks)
    | _, _ => none

end

mutual

/-- A part of the value goes on without an end. -/
def isEndless : Value → Bool
  | .scalar _ => false
  | .list xs => areEndless xs
  | .tuple xs => areEndless xs
  | .map m => entriesEndless m
  | .set _ => false
  | .years min max => isEndless min || isEndless max
  | .endless => true

/-- A part of one of the values goes on without an end. -/
def areEndless : List Value → Bool
  | [] => false
  | x :: xs => isEndless x || areEndless xs

/-- A part of one of the entries goes on without an end. -/
def entriesEndless : List (Key × Value) → Bool
  | [] => false
  | (_, v) :: m => isEndless v || entriesEndless m

end

/-- The entries of a mapping. -/
def mapping? : Value → Option Mapping
  | .map m => some m
  | _ => none

/-- The string that a value is, if it is one. -/
def str? : Value → Option String
  | .str s => some s
  | _ => none

/-- The value of an optional string, null if there is none. -/
def ofOption : Option String → Value
  | none => .null
  | some s => .str s

/-- The members of a list of strings. -/
def strings? (xs : List Value) : Option (List String) := xs.mapM str?

/-- A mapping with string keys. -/
def object (fields : List (String × Value)) : Value :=
  .map (fields.map fun f => (.str f.1, f.2))

/-- A list of strings. -/
def strs (ss : List String) : Value := .list (ss.map .str)

end Value

/-! ## Entries in order -/

/-- Values under keys, in the order in which the keys came. -/
abbrev Entries (α : Type) := List (Key × α)

namespace Entries

variable {α : Type}

/-- The value that `k` names. -/
def get? (k : Key) : Entries α → Option α
  | [] => none
  | e :: es => if k.same e.1 then some e.2 else get? k es

/-- The value that a string names. -/
def find? (s : String) (es : Entries α) : Option α := get? (.str s) es

/-- Gives the entry that `k` names a value: in place if there is one, keeping its key, else at the
end. -/
def put (k : Key) (v : α) : Entries α → Entries α
  | [] => [(k, v)]
  | e :: es => if k.same e.1 then (e.1, v) :: es else e :: put k v es

/-- The result of putting the entries one after the other. -/
def ofList (es : List (Key × α)) : Entries α := es.foldl (fun m e => put e.1 e.2 m) []

/-- The keys in order. -/
def keys (es : Entries α) : List Key := es.map Prod.fst

/-- A string is among the keys. -/
def has (s : String) (es : Entries α) : Bool := (find? s es).isSome

end Entries

/-- The value of a mapping under a string, an absent one counting as null. -/
def Mapping.findOrNull (s : String) (m : Mapping) : Value := (Entries.find? s m).getD .null

end Faceted
