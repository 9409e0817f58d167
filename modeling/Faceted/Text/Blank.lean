/-!
# Blank characters

Which characters count as blank, and the trimming of blanks from both ends of a text. The set is
wider than the one of `Char.isWhitespace`: it has the separators U+001C to U+001F and every space
and line separator of Unicode.
-/

namespace Faceted.Text

/-- A blank is a white-space, separator or line-break character of Unicode. -/
def isBlank (c : Char) : Bool :=
  let n := c.toNat
  (9 ≤ n && n ≤ 13) || (28 ≤ n && n ≤ 32) || n == 0x85 || n == 0xA0 || n == 0x1680 ||
    (0x2000 ≤ n && n ≤ 0x200A) || n == 0x2028 || n == 0x2029 || n == 0x202F || n == 0x205F ||
    n == 0x3000

/-- The text without its leading blanks. -/
def trimLeft (cs : List Char) : List Char := cs.dropWhile isBlank

/-- The text without its trailing blanks. -/
def trimRight (cs : List Char) : List Char := (cs.reverse.dropWhile isBlank).reverse

/-- The text without the blanks at either end. -/
def trim (cs : List Char) : List Char := trimRight (trimLeft cs)

/-- The string without the blanks at either end. -/
def trimmed (s : String) : String := String.ofList (trim s.toList)

/-- The string holds nothing but blanks. -/
def isBlankString (s : String) : Bool := (trimmed s).isEmpty

/-- Without every leading occurrence of `c`. -/
def dropLeading (c : Char) (cs : List Char) : List Char := cs.dropWhile (· == c)

/-- Without every trailing occurrence of `c`. -/
def dropTrailing (c : Char) (cs : List Char) : List Char := (dropLeading c cs.reverse).reverse

/-- A list of characters that starts with `p` comes back without it. -/
def stripStart? : List Char → List Char → Option (List Char)
  | [], cs => some cs
  | _ :: _, [] => none
  | p :: ps, c :: cs => if p = c then stripStart? ps cs else none

theorem stripStart?_append (p cs : List Char) : stripStart? p (p ++ cs) = some cs := by
  induction p with
  | nil => cases cs <;> rfl
  | cons c p ih => simp [stripStart?, ih]

theorem eq_append_of_stripStart? {p cs r : List Char} (h : stripStart? p cs = some r) :
    cs = p ++ r := by
  induction p generalizing cs with
  | nil => simpa [stripStart?] using h
  | cons c p ih =>
    cases cs with
    | nil => simp [stripStart?] at h
    | cons d cs =>
      by_cases hc : c = d
      · subst hc
        simp only [stripStart?, if_true] at h
        simp [ih h]
      · simp [stripStart?, hc] at h

/-- The parts between the separators `sep`, at least one part. -/
def splitOn (sep : Char) : List Char → List (List Char)
  | [] => [[]]
  | c :: cs =>
    if c = sep then [] :: splitOn sep cs
    else match splitOn sep cs with
      | [] => [[c]]
      | p :: ps => (c :: p) :: ps

/-- The parts joined by `sep`. -/
def joinWith (sep : List Char) : List (List Char) → List Char
  | [] => []
  | [p] => p
  | p :: q :: ps => p ++ sep ++ joinWith sep (q :: ps)

/-- The strings joined by `sep`. -/
def join (sep : String) (parts : List String) : String :=
  String.ofList (joinWith sep.toList (parts.map String.toList))

/-- `n` copies of `c`. -/
def fill (c : Char) (n : Nat) : List Char := List.replicate n c

end Faceted.Text
