import Faceted.Value.Text
import Faceted.Fault

/-!
# Values as JSON text

Indented JSON: two blanks per level, one entry per line, nothing inside an empty list or mapping.
Characters outside ASCII stand as they are. Keys are strings, numbers, truth values or null; a value
of any other kind has no JSON text, nor has one that holds itself or an integer with too many digits.

## Termination

The writer recurses on the value; lists and mappings have functions of their own.
-/

namespace Faceted.Json

open Faceted.Text Faceted.Number

/-- A character inside a JSON string. -/
def escapedChar (c : Char) : List Char :=
  if c = '"' || c = '\\' then ['\\', c]
  else if c = '\n' then ['\\', 'n']
  else if c = '\r' then ['\\', 'r']
  else if c = '\t' then ['\\', 't']
  else if c = Char.ofNat 0x0C then ['\\', 'f']
  else if c = Char.ofNat 0x08 then ['\\', 'b']
  else if c.toNat < 0x20 then '\\' :: 'u' :: hexText 4 c.toNat
  else [c]

/-- A JSON string. -/
def string (cs : List Char) : List Char := '"' :: cs.flatMap escapedChar ++ ['"']

/-- Numbers as in plain text, with words for what JSON cannot write. -/
def numberLayout : Double.Layout :=
  { Double.plainLayout with infinite := "Infinity".toList, notNumber := "NaN".toList }

/-- The JSON text of a scalar. -/
def scalar : Scalar → Except Fault (List Char)
  | .null => .ok "null".toList
  | .bool true => .ok "true".toList
  | .bool false => .ok "false".toList
  | .int n => if exceedsDigits n then .error .tooLongToWrite else .ok (intText n)
  | .float x => .ok (x.textIn numberLayout)
  | .str s => .ok (string s.toList)
  | s => .error (.notWritable (Value.scalar s).className)

/-- The text of a key, before it is quoted. -/
def keyText : Key → Except Fault (List Char)
  | .scalar (.str s) => .ok s.toList
  | .scalar (.bytes bs) => .error (.keyNotWritable (Value.scalar (.bytes bs)).className)
  | .scalar (.date d) => .error (.keyNotWritable (Value.scalar (.date d)).className)
  | .scalar (.moment m) => .error (.keyNotWritable (Value.scalar (.moment m)).className)
  | .scalar s => scalar s
  | k => .error (.keyNotWritable k.toValue.className)

/-- A line break and the indentation of a level. -/
def newline (level : Nat) : List Char := '\n' :: fill ' ' (2 * level)

/-- Parts on lines of their own, one level further in than the brackets. -/
def block (level : Nat) (opening closing : List Char) (parts : List (List Char)) : List Char :=
  if parts.isEmpty then opening ++ closing
  else opening ++ newline (level + 1) ++ joinWith (',' :: newline (level + 1)) parts ++
    newline level ++ closing

mutual

/-- The JSON text of a value at a level of indentation. -/
def write (level : Nat) : Value → Except Fault (List Char)
  | .scalar s => scalar s
  | .list xs => do pure (block level ['['] [']'] (← writeAll (level + 1) xs))
  | .tuple xs => do pure (block level ['['] [']'] (← writeAll (level + 1) xs))
  | .map m => do pure (block level "\x7b".toList "\x7d".toList (← writeEntries (level + 1) m))
  | .set ks => .error (.notWritable (Value.set ks).className)
  | .years a b => .error (.notWritable (Value.years a b).className)
  | .endless => .error .circular

/-- The JSON texts of values. -/
def writeAll (level : Nat) : List Value → Except Fault (List (List Char))
  | [] => .ok []
  | x :: xs => do
    let t ← write level x
    let ts ← writeAll level xs
    pure (t :: ts)

/-- The JSON texts of the entries of a mapping: the key is looked at before the value. -/
def writeEntries (level : Nat) : List (Key × Value) → Except Fault (List (List Char))
  | [] => .ok []
  | (k, v) :: m => do
    let kt ← keyText k
    let t ← write level v
    let ts ← writeEntries level m
    pure ((string kt ++ ':' :: ' ' :: t) :: ts)

end

/-- A value as a JSON document, ending in a line break. -/
def document (v : Value) : Except Fault String := do
  pure (String.ofList ((← write 0 v) ++ ['\n']))

end Faceted.Json
