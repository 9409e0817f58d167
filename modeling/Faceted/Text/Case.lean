import Faceted.Text.CaseTable

/-!
# Lower and upper case

Full case mappings over a whole text: one character may become several, and a capital sigma becomes
the final form at the end of a word.

## Termination

The loop over the text keeps the characters already passed, nearest first, so that the question
"does a letter with case come before" is a question about a list.
-/

namespace Faceted.Text

/-- The number lies in one of the ranges. -/
def inRanges (rs : List (Nat × Nat)) (n : Nat) : Bool := rs.any fun r => r.1 ≤ n && n ≤ r.2

/-- A mapping by runs of offsets, with the characters that become several before them. -/
def mapCase (many : List (Nat × List Nat)) (runs : List CaseRun) (c : Char) : List Char :=
  match many.lookup c.toNat with
  | some ns => ns.map Char.ofNat
  | none => match runs.findSome? (·.image? c.toNat) with
    | some n => [Char.ofNat n]
    | none => [c]

/-- The upper-case form of a character, one or more characters. -/
def upperChar (c : Char) : List Char := mapCase upperMany upperRuns c

/-- The lower-case form of a character away from the end of a word. -/
def lowerChar (c : Char) : List Char := mapCase lowerMany lowerRuns c

/-- Past the characters that do not count, the next one is a letter with case. -/
def meetsCased (cs : List Char) : Bool :=
  match cs.dropWhile (fun c => inRanges caseIgnorableRanges c.toNat) with
  | [] => false
  | c :: _ => inRanges casedRanges c.toNat

/-- Lower case of the rest of a text, with the characters before it, nearest first. -/
def lowerFrom (before : List Char) : List Char → List Char
  | [] => []
  | c :: cs =>
    let low :=
      if c = 'Σ' then (if meetsCased before && !meetsCased cs then ['ς'] else ['σ'])
      else lowerChar c
    low ++ lowerFrom (c :: before) cs

/-- The lower-case form of a text. -/
def lower (cs : List Char) : List Char := lowerFrom [] cs

/-- The upper-case form of a text. -/
def upper (cs : List Char) : List Char := cs.flatMap upperChar

/-- The lower-case form of a string. -/
def lowercase (s : String) : String := String.ofList (lower s.toList)

/-- The upper-case form of a string. -/
def uppercase (s : String) : String := String.ofList (upper s.toList)

end Faceted.Text
