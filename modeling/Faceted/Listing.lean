import Faceted.Page
import Faceted.Query.Suggestion

/-!
# Results on the console

A page as a block of text, one hit after the other with its rank, the fields to show and its
excerpts; and suggestions as lines of a count and a term, the counts in one column.

## Termination

The text of a value recurses on it; lists and mappings have functions of their own.
-/

namespace Faceted

open Faceted.Text Faceted.Number

namespace Listing

/-- The most characters of a value that are shown. -/
def widest : Nat := 80

/-- A text cut to the greatest width, with three points where it is cut. -/
def cut (cs : List Char) : List Char :=
  if widest < cs.length then cs.take (widest - 3) ++ "...".toList else cs

mutual

/-- A value as it is shown: parts separated by commas, entries with an equals sign. -/
def display : Value → List Char
  | .list xs => cut (joinWith ", ".toList (displayAll xs))
  | .tuple xs => cut (joinWith ", ".toList (displayAll xs))
  | .map m => cut (joinWith ", ".toList (displayEntries m))
  | v => cut v.plain

/-- The parts of a list as they are shown. -/
def displayAll : List Value → List (List Char)
  | [] => []
  | x :: xs => display x :: displayAll xs

/-- The entries of a mapping as they are shown. -/
def displayEntries : List (Key × Value) → List (List Char)
  | [] => []
  | (k, v) :: m => (k.plain ++ '=' :: display v) :: displayEntries m

end

/-- A field is shown unless it is a long text. -/
def isShown : Value → Bool
  | .scalar (.str s) => decide (s.length ≤ widest)
  | _ => true

/-- The fields of a hit to show, by key: the given ones, or all without long texts. -/
def shownKeys (fields : List String) (source : Mapping) : List Key :=
  if fields.isEmpty then (source.filter fun e => isShown e.2).map Prod.fst
  else fields.map .str

/-- The lines of the fields of a hit. -/
def fieldLines (fields : List String) (source : Mapping) : List (List Char) :=
  (shownKeys fields source).filterMap fun k =>
    (Entries.get? k source).map fun v => "   ".toList ++ k.plain ++ ": ".toList ++ display v

/-- The lines of the excerpts of a hit. -/
def excerptLines (highlight : List (String × List String)) : List (List Char) :=
  highlight.flatMap fun e => e.2.map fun fragment =>
    "   [".toList ++ e.1.toList ++ "] ...".toList ++ fragment.toList ++ "...".toList

/-- The lines of a hit with its rank. -/
def hitLines (fields : List String) (rank : Int) (hit : SearchHit) : List (List Char) :=
  (intText rank ++ ". ".toList ++ hit.id.toList) ::
    (fieldLines fields hit.source ++ excerptLines hit.highlight)

/-- The lines of hits, the first of them with the given rank. -/
def hitsLines (fields : List String) (rank : Int) : List SearchHit → List (List Char)
  | [] => []
  | hit :: hits => hitLines fields rank hit ++ hitsLines fields (rank + 1) hits

/-- Lines, each with a line break at its end. -/
def lines (ls : List (List Char)) : String := String.ofList (joinWith ['\n'] ls ++ ['\n'])

/-- A page as text. `offset` is the rank of the first hit less one. -/
def page (p : SearchPage) (fields : List String) (offset : Int) : String :=
  lines ((intText p.total ++ " document(s)".toList) :: hitsLines fields (offset + 1) p.hits)

/-- The integers in a hit that are shown can be written. -/
def hitWritable (fields : List String) (rank : Int) (hit : SearchHit) : Bool :=
  !exceedsDigits rank && (shownKeys fields hit.source).all fun k =>
    k.isWritable && ((Entries.get? k hit.source).map Value.isWritable).getD true

/-- The integers in hits that are shown can be written. -/
def hitsWritable (fields : List String) (rank : Int) : List SearchHit → Bool
  | [] => true
  | hit :: hits => hitWritable fields rank hit && hitsWritable fields (rank + 1) hits

/-- A page as text, if all integers that it shows can be written. -/
def pageWritten (p : SearchPage) (fields : List String) (offset : Int) : Except Fault String :=
  if !exceedsDigits p.total && hitsWritable fields (offset + 1) p.hits then .ok (page p fields offset)
  else .error .tooLongToWrite

/-- The width of the widest count. -/
def countWidth (suggestions : List TermSuggestion) : Nat :=
  (suggestions.map fun s => (intText s.count).length).foldl max 0

/-- A count and a term, the count at the right end of its column. -/
def suggestionLine (width : Nat) (s : TermSuggestion) : List Char :=
  let count := intText s.count
  fill ' ' (width - count.length) ++ count ++ "  ".toList ++ s.term.toList

/-- Suggestions as text. -/
def suggestions (ss : List TermSuggestion) : String :=
  if ss.isEmpty then "(no suggestions)\n"
  else lines (ss.map (suggestionLine (countWidth ss)))

/-- Suggestions as text, if all counts can be written. -/
def suggestionsWritten (ss : List TermSuggestion) : Except Fault String :=
  if ss.all fun s => !exceedsDigits s.count then .ok (suggestions ss) else .error .tooLongToWrite

end Listing

end Faceted
