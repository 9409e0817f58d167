import Faceted.Proofs.Basic
import Faceted.Proofs.Digits
import Faceted.Proofs.Text.Split
import Faceted.Listing
import Mathlib.Data.List.Forall2

/-!
# Listings that can be read back

A line of a listing is a count behind spaces, two spaces, and a term. The text of a count has no blank in it
(`isBlank_of_mem_intText`), so that the count of a line ends where the next space is, whatever the term is and
however far the count has been moved to the right (`suggestionAt?_suggestionLine`). The lines of a text are what
stands before its line breaks, and a line has none of its own if its term has none (`linesOf_lines`).

So a listing is read back line by line (`suggestions_read_back`).
-/

namespace Faceted.Listing

open Text Number

/-! ## Reading a listing -/

/-- The lines of a text, each of them ended by a line break. -/
def linesOf (text : String) : List (List Char) := (text.toList.splitOn '\n').dropLast

/-- The suggestion in a line: the count after the spaces at the front, and all that comes after the next two
spaces. -/
def suggestionAt? (line : List Char) : Option TermSuggestion :=
  let content := dropLeading ' ' line
  match readInt (content.takeWhile (· != ' ')), stripStart? "  ".toList (content.dropWhile (· != ' ')) with
  | .ok count, some term => some ⟨String.ofList term, count⟩
  | _, _ => none

/-- The suggestions in a listing. -/
def readSuggestions? (text : String) : Option (List TermSuggestion) :=
  if text = suggestions [] then some [] else (linesOf text).mapM suggestionAt?

/-- The suggestion has a place in a listing: the count can be written, and the term has no line break. -/
structure FitsLine (s : TermSuggestion) : Prop where
  count : exceedsDigits s.count = false
  term : '\n' ∉ s.term.toList

/-! ## One line -/

/-- The line has nothing but spaces before the count, which ends in column `width`, and the term after two
more. -/
def IsAligned (width : Nat) (s : TermSuggestion) (line : List Char) : Prop :=
  ∃ spaces, line = spaces ++ intText s.count ++ "  ".toList ++ s.term.toList ∧ (∀ c ∈ spaces, c = ' ') ∧
    (spaces ++ intText s.count).length = width

theorem isAligned_suggestionLine {width : Nat} {s : TermSuggestion} (h : (intText s.count).length ≤ width) :
    IsAligned width s (suggestionLine width s) := by
  refine ⟨fill ' ' (width - (intText s.count).length), rfl, fun c hc => List.eq_of_mem_replicate hc, ?_⟩
  rw [fill, List.length_append, List.length_replicate]
  omega

/-- **An aligned line is read back**, in whichever column its count ends. -/
theorem suggestionAt?_of_isAligned {width : Nat} {s : TermSuggestion} {line : List Char}
    (hcount : exceedsDigits s.count = false) (h : IsAligned width s line) : suggestionAt? line = some s := by
  obtain ⟨spaces, rfl, hspaces, -⟩ := h
  have hnot : ∀ c ∈ intText s.count, (c != ' ') = true := by
    intro c hc
    have hblank := isBlank_of_mem_intText hc
    rw [bne_iff_ne]
    rintro rfl
    cases hblank
  have hcontent : dropLeading ' ' (spaces ++ intText s.count ++ "  ".toList ++ s.term.toList)
      = intText s.count ++ ' ' :: ' ' :: s.term.toList := by
    rw [List.append_assoc, List.append_assoc, dropLeading,
      List.dropWhile_append_of_pos fun c hc => beq_iff_eq.mpr (hspaces c hc)]
    -- the text of the count has a first character, which is no space
    cases htext : intText s.count with
    | nil => exact absurd htext (intText_ne_nil s.count)
    | cons c cs =>
      have hc := hnot c (by rw [htext]; exact List.mem_cons_self)
      exact List.dropWhile_cons_of_neg (by simpa using hc)
  have hbefore : (intText s.count ++ ' ' :: ' ' :: s.term.toList).takeWhile (· != ' ') = intText s.count := by
    rw [List.takeWhile_append_of_pos hnot, List.takeWhile_cons_of_neg (by simp), List.append_nil]
  have hafter : (intText s.count ++ ' ' :: ' ' :: s.term.toList).dropWhile (· != ' ')
      = "  ".toList ++ s.term.toList := by
    rw [List.dropWhile_append_of_pos hnot, List.dropWhile_cons_of_neg (by simp)]
    rfl
  rw [suggestionAt?, hcontent, hbefore, hafter, readInt_intText hcount, stripStart?_append]
  simp

theorem not_mem_suggestionLine {width : Nat} {s : TermSuggestion} (h : '\n' ∉ s.term.toList) :
    '\n' ∉ suggestionLine width s := by
  have hcount : '\n' ∉ intText s.count := fun hc => nomatch isBlank_of_mem_intText hc
  have hspaces : ∀ n, '\n' ∉ fill ' ' n := fun n hc => nomatch List.eq_of_mem_replicate hc
  simp [suggestionLine, hcount, hspaces, h]

/-! ## All lines -/

/-- No count is wider than the column. -/
theorem length_le_countWidth {s : TermSuggestion} {ss : List TermSuggestion} (h : s ∈ ss) :
    (intText s.count).length ≤ countWidth ss := by
  rw [countWidth, List.foldl_max, Nat.zero_max]
  exact List.le_max?_getD_of_mem (List.mem_map_of_mem h)

/-- The lines of a text that is made of lines are these, if none has a line break of its own. -/
theorem linesOf_lines {ls : List (List Char)} (hne : ls ≠ []) (h : ∀ l ∈ ls, '\n' ∉ l) :
    linesOf (lines ls) = ls := by
  rw [linesOf, lines, String.toList_ofList, joinWith_eq, List.splitOn_append_cons_self,
    List.splitOn_intercalate '\n' h hne, List.splitOn_nil, List.dropLast_concat]

theorem linesOf_suggestions {ss : List TermSuggestion} (hne : ss ≠ []) (h : ∀ s ∈ ss, FitsLine s) :
    linesOf (suggestions ss) = ss.map (suggestionLine (countWidth ss)) := by
  have hsuggestions : suggestions ss = lines (ss.map (suggestionLine (countWidth ss))) := by
    simp [suggestions, hne]
  rw [hsuggestions]
  refine linesOf_lines (by simpa using hne) fun l hl => ?_
  obtain ⟨s, hs, rfl⟩ := List.mem_map.mp hl
  exact not_mem_suggestionLine (h s hs).term

theorem mapM_suggestionLine {width : Nat} {ss : List TermSuggestion} (h : ∀ s ∈ ss, FitsLine s)
    (hwidth : ∀ s ∈ ss, (intText s.count).length ≤ width) :
    (ss.map (suggestionLine width)).mapM suggestionAt? = some ss := by
  induction ss with
  | nil => rfl
  | cons s ss ih =>
    obtain ⟨hs, hss⟩ := List.forall_mem_cons.mp h
    obtain ⟨hfirst, hrest⟩ := List.forall_mem_cons.mp hwidth
    rw [List.map_cons, List.mapM_cons, suggestionAt?_of_isAligned hs.count (isAligned_suggestionLine hfirst),
      ih hss hrest]
    rfl

/-- Only the empty list has the listing that says so. -/
theorem suggestions_eq_nil_iff {ss : List TermSuggestion} (h : ∀ s ∈ ss, FitsLine s) :
    suggestions ss = suggestions [] ↔ ss = [] := by
  refine ⟨fun heq => ?_, fun heq => by rw [heq]⟩
  cases ss with
  | nil => rfl
  | cons s rest =>
    -- the line of the first suggestion would be the one that there are none, where no count can be read
    have hlines := linesOf_suggestions (List.cons_ne_nil s rest) h
    have hnone : linesOf (suggestions []) = ["(no suggestions)".toList] := by decide
    rw [heq, hnone, List.map_cons] at hlines
    obtain ⟨hline, -⟩ := List.cons.inj hlines
    have hmem : s ∈ s :: rest := List.mem_cons_self
    have hread : suggestionAt? (suggestionLine (countWidth (s :: rest)) s) = some s :=
      suggestionAt?_of_isAligned (h s hmem).count (isAligned_suggestionLine (length_le_countWidth hmem))
    rw [← hline] at hread
    cases hread

theorem readSuggestions?_suggestions {ss : List TermSuggestion} (h : ∀ s ∈ ss, FitsLine s) :
    readSuggestions? (suggestions ss) = some ss := by
  rw [readSuggestions?]
  by_cases hne : ss = []
  · rw [hne, if_pos rfl]
  · rw [if_neg fun heq => hne ((suggestions_eq_nil_iff h).mp heq), linesOf_suggestions hne h]
    exact mapM_suggestionLine h fun s hs => length_le_countWidth hs

/--
**A listing is read back as the suggestions that it lists.**

For all suggestions whose counts can be written and whose terms have no line break:

* they have a listing, from which the same suggestions are read, in the same order: each line that is ended by a
  line break is a count after spaces, and after two more spaces the term, whatever it begins with;
* only the empty list has the listing that there are none, and no two lists have the same listing;
* all counts end in one column, and each term starts two columns after it.
-/
theorem suggestions_read_back {ss : List TermSuggestion} (h : ∀ s ∈ ss, FitsLine s) :
    suggestionsWritten ss = .ok (suggestions ss) ∧
    readSuggestions? (suggestions ss) = some ss ∧
    (suggestions ss = "(no suggestions)\n" ↔ ss = []) ∧
    (∀ others, (∀ s ∈ others, FitsLine s) → suggestions others = suggestions ss → others = ss) ∧
    (ss ≠ [] → ∃ width, List.Forall₂ (IsAligned width) ss (linesOf (suggestions ss))) := by
  have hread := readSuggestions?_suggestions h
  refine ⟨?_, hread, suggestions_eq_nil_iff h, fun others hothers heq => ?_, fun hne => ⟨countWidth ss, ?_⟩⟩
  · have hall : ss.all (fun s => !exceedsDigits s.count) = true :=
      List.all_eq_true.mpr fun s hs => by rw [(h s hs).count]; rfl
    rw [suggestionsWritten, if_pos hall]
  · have hothers := readSuggestions?_suggestions hothers
    rw [heq, hread] at hothers
    exact (Option.some.inj hothers).symm
  · rw [linesOf_suggestions hne h, List.forall₂_map_right_iff, List.forall₂_same]
    exact fun s hs => isAligned_suggestionLine (length_le_countWidth hs)

/-- Terms that begin with spaces and with digits, one that is the text for no suggestions, and a negative
count. -/
theorem suggestions_read_back_spaces :
    let ss : List TermSuggestion := [⟨"  7  PS", 1024⟩, ⟨"(no suggestions)", -3⟩, ⟨"", 5⟩]
    suggestions ss = "1024    7  PS\n  -3  (no suggestions)\n   5  \n" ∧
      readSuggestions? (suggestions ss) = some ss := by
  intro ss
  have hfits : ∀ s ∈ ss, FitsLine s := by
    simp only [ss, List.forall_mem_cons]
    exact ⟨⟨by decide +kernel, by decide⟩, ⟨by decide +kernel, by decide⟩, ⟨by decide +kernel, by decide⟩,
      List.forall_mem_nil _⟩
  obtain ⟨-, hread, -⟩ := suggestions_read_back hfits
  exact ⟨by decide +kernel, hread⟩

end Faceted.Listing
