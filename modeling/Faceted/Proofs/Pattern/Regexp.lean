import Faceted.Query.Suggestion
import Mathlib.Data.List.Forall2

/-!
# The regular expression of typed text

The part of the language of regular expressions that is asked for with typed text: `.` for any
character, `[...]` for one of a class, either of them followed by `*` for any number of times. Inside
of a class a backslash quotes the next character, and the characters that are special there have to be
quoted; what does not keep to this is no regular expression here.

* `read` takes a text apart, character by character; its state says where the next character stands.
* `Matches` says which values the pieces match.
* `accepts_casePattern_iff` says which values the expression of typed text matches, by any mappings to lower
  and upper case.
-/

namespace Faceted.Regexp

open Faceted.Text Suggestion

/-! ## The language -/

/-- A set of characters. -/
inductive CharSet where
  /-- Every character. -/
  | all
  /-- The members of a class. -/
  | among (members : List Char)

/-- The character is in the set. -/
def CharSet.Has : CharSet → Char → Prop
  | .all, _ => True
  | .among members, c => c ∈ members

/-- A piece of a regular expression. -/
inductive Piece where
  /-- One character of a set. -/
  | one (set : CharSet)
  /-- Any number of characters of a set. -/
  | many (set : CharSet)

/-- The value is made of what the pieces stand for, one after the other. -/
def Matches : List Piece → List Char → Prop
  | [], v => v = []
  | .one set :: pieces, v => ∃ c rest, v = c :: rest ∧ set.Has c ∧ Matches pieces rest
  | .many set :: pieces, v => ∃ run rest, v = run ++ rest ∧ (∀ c ∈ run, set.Has c) ∧
    Matches pieces rest

/-- Where the next character of a regular expression stands. -/
inductive State where
  /-- Outside of a class. -/
  | outside
  /-- Inside of a class that has these members so far. -/
  | inside (members : List Char)
  /-- After a backslash inside of a class. -/
  | quoted (members : List Char)

/-- The characters that are special inside of a class. -/
def classSpecials : List Char := ['\\', ']', '^', '-', '[']

/-- The pieces that a text is made of, with those already read, the last one first. -/
def read (done : List Piece) : State → List Char → Option (List Piece)
  | .outside, [] => some done.reverse
  | .outside, c :: cs =>
    if c = '.' then read (.one .all :: done) .outside cs
    else if c = '[' then read done (.inside []) cs
    else if c = '*' then match done with
      | .one set :: done => read (.many set :: done) .outside cs
      | _ => none
    else none
  | .inside members, c :: cs =>
    if c = '\\' then read done (.quoted members) cs
    else if c = ']' then read (.one (.among members) :: done) .outside cs
    else if c ∈ classSpecials then none
    else read done (.inside (members ++ [c])) cs
  | .quoted members, c :: cs => read done (.inside (members ++ [c])) cs
  | _, [] => none

/-- The regular expression matches the whole value. -/
def Accepts (expression value : String) : Prop :=
  ∃ pieces, read [] .outside expression.toList = some pieces ∧ Matches pieces value.toList

/-! ## Reading a class -/

variable {done : List Piece}

theorem read_anyRun (rest : List Char) :
    read done .outside ('.' :: '*' :: rest) = read (.many .all :: done) .outside rest := by
  simp [read]

/-- A member of a class is read as itself, whatever it is. -/
theorem read_classMember (members : List Char) (c : Char) (rest : List Char) :
    read done (.inside members) (classMember c ++ rest)
      = read done (.inside (members ++ [c])) rest := by
  unfold classMember
  split
  · simp [read]
  · next hc =>
    have hspecial : c ∉ classSpecials := by simpa [classSpecials] using hc
    have hquote : c ≠ '\\' := fun he => hspecial (by simp [he, classSpecials])
    have hclose : c ≠ ']' := fun he => hspecial (by simp [he, classSpecials])
    simp [read, hspecial, hquote, hclose]

theorem read_classMembers (cs : List Char) (members rest : List Char) :
    read done (.inside members) (cs.flatMap classMember ++ rest)
      = read done (.inside (members ++ cs)) rest := by
  induction cs generalizing members with
  | nil => simp
  | cons c cs ih =>
    rw [List.flatMap_cons, List.append_assoc, read_classMember, ih, List.append_assoc,
      List.singleton_append]

variable {upper : Char → List Char}

/-- **The class of a character is read as the character and its upper-case form.** -/
theorem read_caseClass (c : Char) (rest : List Char) :
    read done .outside (caseClass upper c ++ rest)
      = read (.one (.among (c :: upper c)) :: done) .outside rest := by
  have hopen : ∀ cs, read done .outside ('[' :: cs) = read done (.inside []) cs := by
    intro cs
    simp [read]
  rw [caseClass, List.cons_append, List.cons_append, hopen, List.append_assoc, read_classMembers]
  simp [read]

theorem read_caseClasses (cs rest : List Char) :
    read done .outside (cs.flatMap (caseClass upper) ++ rest)
      = read ((cs.map fun c => .one (.among (c :: upper c))).reverse ++ done) .outside rest := by
  induction cs generalizing done with
  | nil => rfl
  | cons c cs ih =>
    rw [List.flatMap_cons, List.append_assoc, read_caseClass, ih]
    simp

/-- **The expression of a text is a run of any characters, a class for each character of the text in
lower case, and a run of any characters.** -/
theorem read_casePattern (lower : List Char → List Char) (text : String) :
    read [] .outside (casePattern lower upper text).toList
      = some (.many .all :: ((lower text.toList).map fun c => .one (.among (c :: upper c))) ++
          [.many .all]) := by
  have hcs : (casePattern lower upper text).toList
      = '.' :: '*' :: ((lower text.toList).flatMap (caseClass upper) ++ ['.', '*']) := by
    simp [casePattern]
  rw [hcs, read_anyRun, read_caseClasses, read_anyRun]
  simp [read]

/-! ## What the expression matches -/

theorem matches_anyRun_iff {pieces : List Piece} {v : List Char} :
    Matches (.many .all :: pieces) v ↔ ∃ run rest, v = run ++ rest ∧ Matches pieces rest := by
  simp [Matches, CharSet.Has]

/-- One character of a set after the other. -/
theorem matches_sets_iff {sets : List CharSet} {pieces : List Piece} {v : List Char} :
    Matches (sets.map .one ++ pieces) v ↔
      ∃ cs rest, v = cs ++ rest ∧ List.Forall₂ CharSet.Has sets cs ∧ Matches pieces rest := by
  induction sets generalizing v with
  | nil => simp
  | cons set sets ih =>
    rw [List.map_cons, List.cons_append, Matches]
    constructor
    · rintro ⟨c, rest, rfl, hc, h⟩
      obtain ⟨cs, rest, rfl, hcs, h⟩ := ih.mp h
      exact ⟨c :: cs, rest, rfl, .cons hc hcs, h⟩
    · rintro ⟨_, rest, rfl, hcs, h⟩
      cases hcs with
      | cons hc hcs => exact ⟨_, _, rfl, hc, ih.mpr ⟨_, _, rfl, hcs, h⟩⟩

/-- **The expression of a text matches the values in which the characters of the text stand next to
each other, each in its lower-case form or as one of the characters of the upper-case form of that.** -/
theorem accepts_casePattern_iff (lower : List Char → List Char) (text value : String) :
    Accepts (casePattern lower upper text) value ↔
      ∃ before middle after, value.toList = before ++ middle ++ after ∧
        List.Forall₂ (fun c d => d ∈ c :: upper c) (lower text.toList) middle := by
  have hsets : ((lower text.toList).map fun c => Piece.one (.among (c :: upper c)))
      = ((lower text.toList).map fun c => CharSet.among (c :: upper c)).map .one := by
    rw [List.map_map]
    rfl
  unfold Accepts
  rw [read_casePattern, hsets]
  simp only [Option.some.injEq, exists_eq_left', List.cons_append, matches_anyRun_iff,
    matches_sets_iff, List.forall₂_map_left_iff]
  constructor
  · rintro ⟨before, _, hv, middle, _, rfl, hm, after, _, rfl, rfl⟩
    exact ⟨before, middle, after, by simpa using hv, hm⟩
  · rintro ⟨before, middle, after, hv, hm⟩
    exact ⟨before, middle ++ after, by simpa using hv, middle, after, rfl, hm, after, [], by simp, rfl⟩

theorem accepts_includePattern_iff (text value : String) :
    Accepts (includePattern text) value ↔
      ∃ before middle after, value.toList = before ++ middle ++ after ∧
        List.Forall₂ (fun c d => d ∈ c :: upperChar c) (lower text.toList) middle :=
  accepts_casePattern_iff lower text value

end Faceted.Regexp
