import Faceted.Value.Text
import Faceted.Text.Case
import Faceted.Fault

/-!
# Checks of single settings

Each check takes the key path of the value that it looks at, so that a fault points at the setting
that is wrong. A value of the wrong type is never turned into one of the right type.
-/

namespace Faceted.Settings

open Faceted.Text Faceted.Number

/-- A mapping. -/
def requireObject (key : String) : Value → Except Fault Mapping
  | .map m => .ok m
  | _ => .error (.wrongShape key .object)

/-- A string. -/
def requireString (key : String) : Value → Except Fault String
  | .scalar (.str s) => .ok s
  | _ => .error (.wrongShape key .string)

/-- A string or null. -/
def optionalString (key : String) : Value → Except Fault (Option String)
  | .scalar .null => .ok none
  | v => (requireString key v).map some

/-- A truth value. -/
def requireBool (key : String) : Value → Except Fault Bool
  | .scalar (.bool b) => .ok b
  | _ => .error (.wrongShape key .boolean)

/-- An integer; a truth value is none. -/
def requireInteger (key : String) : Value → Except Fault Int
  | .scalar (.int n) => .ok n
  | .scalar (.bool _) => .error (.wrongShape key .number)
  | _ => .error (.wrongShape key .integer)

/-- A number, as a double; a truth value is none. -/
def requireNumber (key : String) : Value → Except Fault Double
  | .scalar (.int n) => match Double.ofInt? n with
    | some x => .ok x
    | none => .error .beyondDoubles
  | .scalar (.float x) => .ok x
  | _ => .error (.wrongShape key .number)

/-- The strings among values, the first other value being the fault. -/
def requireStringItems (key : String) (index : Nat) : List Value → Except Fault (List String)
  | [] => .ok []
  | x :: xs => do
    let s ← requireString (key ++ "[" ++ String.ofList (natText index) ++ "]") x
    let ss ← requireStringItems key (index + 1) xs
    pure (s :: ss)

/-- A list of strings. -/
def requireStrings (key : String) : Value → Except Fault (List String)
  | .list xs => requireStringItems key 0 xs
  | _ => .error (.wrongShape key .list)

/-- A string, trimmed and in lower case, that is one of the choices. -/
def requireChoice (key : String) (choices : List String) (v : Value) : Except Fault String := do
  let s ← requireString key v
  let choice := lowercase (trimmed s)
  if choices.contains choice then pure choice
  else .error (.notAmong key (choices.mergeSort fun a b => decide (a ≤ b)))

/-- The value under a name that has to be there. -/
def requireEntry (key name : String) (m : Mapping) : Except Fault Value :=
  match Entries.find? name m with
  | some v => .ok v
  | none => .error (.missing key)

/-- The value under a name, or the one to take when it is absent. -/
def entryOr (name : String) (absent : Value) (m : Mapping) : Value :=
  (Entries.find? name m).getD absent

/-- A section that has to be there. -/
def requiredSection (name : String) (raw : Mapping) : Except Fault Mapping :=
  match Mapping.findOrNull name raw with
  | .scalar .null => .error (.missing name)
  | v => requireObject name v

/-- A section that may be absent, and is then empty. -/
def optionalSection (name : String) (raw : Mapping) : Except Fault Mapping :=
  match Mapping.findOrNull name raw with
  | .scalar .null => .ok []
  | v => requireObject name v

/-- A rule that has to hold. -/
def keep (holds : Bool) (rule : Rule) : Except Fault Unit :=
  if holds then .ok () else .error (.rule rule)

end Faceted.Settings
