import Faceted.Text.Blank
import Faceted.Text.Digit
import Faceted.Text.Letter

/-!
# Tokens of a date text

A date text is cut into words, numbers and single characters. A word or a number may go on across
points; what was joined that way is cut again at the points unless it is one decimal number. A comma
after at least two digits counts as a decimal point. Any other character is a token by itself, all
blanks being alike.

## Termination

The scanner reads one character per step; a character that ends a token is read again as the first
one of the next token, in the state that no token has begun.
-/

namespace Faceted.DateText

open Faceted.Text

/-- What kind of token is being read: a word, a number, or either of them after a point. -/
inductive TokenState where
  | word
  | number
  | wordPoint
  | numberPoint
deriving DecidableEq, Repr

/-- A token being read, the characters in reverse. `letters` says that a further character was read
while the token was a word. -/
structure Pending where
  state : TokenState
  letters : Bool
  reversed : List Char

/-- The parts of a token between points and commas, and these characters themselves, without the
empty parts after the first. -/
def cutAtPoints : List Char → List (List Char)
  | [] => [[]]
  | c :: cs =>
    if c = '.' || c = ',' then [] :: [c] :: (cutAtPoints cs).filter (!·.isEmpty)
    else match cutAtPoints cs with
      | [] => [[c]]
      | p :: ps => (c :: p) :: ps

/-- The tokens that a finished token stands for. -/
def Pending.finish (p : Pending) : List (List Char) :=
  let token := p.reversed.reverse
  let afterPoint := p.state = .wordPoint || p.state = .numberPoint
  let trailing := p.reversed.head? = some '.' || p.reversed.head? = some ','
  if afterPoint && (p.letters || 1 < token.count '.' || trailing) then
    (cutAtPoints token).filter (!·.isEmpty)
  else if p.state = .numberPoint && token.count '.' = 0 then
    [token.map fun c => if c = ',' then '.' else c]
  else [token]

/-- The token that a first character begins, or the token that it is by itself. -/
def begin (c : Char) : Pending ⊕ List Char :=
  if isLetter c then .inl ⟨.word, false, [c]⟩
  else if isDigit c then .inl ⟨.number, false, [c]⟩
  else if isBlank c then .inr [' ']
  else .inr [c]

/-- The token after one more character, unless the character does not belong to it. The second
component is the token as it ends when the character does not belong to it. -/
def Pending.extend (p : Pending) (c : Char) : Option Pending × Pending :=
  let more (state : TokenState) (letters : Bool) : Option Pending := some ⟨state, letters, c :: p.reversed⟩
  match p.state with
  | .word =>
    let ended := { p with letters := true }
    if isLetter c then (more .word true, ended)
    else if c = '.' then (more .wordPoint true, ended)
    else (none, ended)
  | .number =>
    if isDigit c then (more .number p.letters, p)
    else if c = '.' || (c = ',' && 2 ≤ p.reversed.length) then (more .numberPoint p.letters, p)
    else (none, p)
  | .wordPoint =>
    let ended := { p with letters := true }
    if c = '.' || isLetter c then (more .wordPoint true, ended)
    else if isDigit c && p.reversed.head? = some '.' then (more .numberPoint true, ended)
    else (none, ended)
  | .numberPoint =>
    if c = '.' || isDigit c then (more .numberPoint p.letters, p)
    else if isLetter c && p.reversed.head? = some '.' then (more .wordPoint p.letters, p)
    else (none, p)

/-- The tokens of the rest of a text, with the token being read. -/
def scan : Option Pending → List Char → List (List Char)
  | none, [] => []
  | some p, [] => p.finish
  | none, c :: cs =>
    match begin c with
    | .inl p => scan (some p) cs
    | .inr token => token :: scan none cs
  | some p, c :: cs =>
    match p.extend c with
    | (some q, _) => scan (some q) cs
    | (none, ended) =>
      ended.finish ++
        match begin c with
        | .inl q => scan (some q) cs
        | .inr token => token :: scan none cs

/-- The tokens of a text. Zero characters are passed over. -/
def tokens (cs : List Char) : List String :=
  (scan none (cs.filter (· != Char.ofNat 0))).map String.ofList

end Faceted.DateText
