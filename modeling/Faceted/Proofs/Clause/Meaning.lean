import Faceted.Clause

/-!
# What a clause means

A meaning of clauses over documents gives each kind of leaf a predicate and each path an operator; all
of these are arbitrary. The rest is fixed: everything matches the clause of all documents, a Boolean
combination needs every `must` clause and, if there are any, one `should` clause.

The bounds of a range may be of any type. A clause with other bounds has the meaning that is taken
along them (`holds_mapBounds`).
-/

namespace Faceted.Clause

/-- What the leaves of a clause say about a document, and what it is for something to be said inside
of a nested object. -/
structure Meaning (Bound Doc : Type) where
  range : String → Option Bound → Option Bound → Option String → Doc → Prop
  wildcard : String → String → Bool → Doc → Prop
  terms : String → List String → Doc → Prop
  term : String → String → Doc → Prop
  simpleQueryString : String → List String → Doc → Prop
  nested : String → (Doc → Prop) → Doc → Prop

/-- The meaning of clauses with other bounds. -/
def Meaning.along {Bound Other Doc : Type} (M : Meaning Other Doc) (f : Bound → Other) :
    Meaning Bound Doc where
  range field gte lte format := M.range field (gte.map f) (lte.map f) format
  wildcard := M.wildcard
  terms := M.terms
  term := M.term
  simpleQueryString := M.simpleQueryString
  nested := M.nested

variable {Bound Doc : Type}

mutual

/-- The document satisfies the clause. -/
def Holds (M : Meaning Bound Doc) : Clause Bound → Doc → Prop
  | .matchAll => fun _ => True
  | .bool must should => fun d => AllHold M must d ∧ (should ≠ [] → SomeHolds M should d)
  | .nested path query => M.nested path (Holds M query)
  | .range field gte lte format => M.range field gte lte format
  | .wildcard field value caseInsensitive => M.wildcard field value caseInsensitive
  | .terms field values => M.terms field values
  | .term field value => M.term field value
  | .simpleQueryString query fields => M.simpleQueryString query fields

/-- The document satisfies every clause. -/
def AllHold (M : Meaning Bound Doc) : List (Clause Bound) → Doc → Prop
  | [] => fun _ => True
  | c :: cs => fun d => Holds M c d ∧ AllHold M cs d

/-- The document satisfies one of the clauses. -/
def SomeHolds (M : Meaning Bound Doc) : List (Clause Bound) → Doc → Prop
  | [] => fun _ => False
  | c :: cs => fun d => Holds M c d ∨ SomeHolds M cs d

end

variable {M : Meaning Bound Doc} {d : Doc}

theorem allHold_iff {cs : List (Clause Bound)} : AllHold M cs d ↔ ∀ c ∈ cs, c.Holds M d := by
  induction cs with
  | nil => simp [AllHold]
  | cons c cs ih => simp [AllHold, ih]

theorem someHolds_iff {cs : List (Clause Bound)} : SomeHolds M cs d ↔ ∃ c ∈ cs, c.Holds M d := by
  induction cs with
  | nil => simp [SomeHolds]
  | cons c cs ih => simp [SomeHolds, ih]

/-- A combination of `must` clauses alone. -/
theorem holds_bool_must {cs : List (Clause Bound)} :
    (bool cs []).Holds M d ↔ ∀ c ∈ cs, c.Holds M d := by
  simp [Holds, allHold_iff]

/-- A combination of `should` clauses alone, of which there is at least one. -/
theorem holds_bool_should {cs : List (Clause Bound)} (h : cs ≠ []) :
    (bool [] cs).Holds M d ↔ ∃ c ∈ cs, c.Holds M d := by
  simp [Holds, AllHold, someHolds_iff, h]

theorem mapAllBounds_eq_nil_iff {Other : Type} {f : Bound → Other} {cs : List (Clause Bound)} :
    mapAllBounds f cs = [] ↔ cs = [] := by
  cases cs <;> simp [mapAllBounds]

mutual

/-- **A clause with its bounds made into something else means what it meant along them.** -/
theorem holds_mapBounds {Other : Type} (M : Meaning Other Doc) (f : Bound → Other) :
    ∀ c : Clause Bound, (c.mapBounds f).Holds M = c.Holds (M.along f)
  | .matchAll => rfl
  | .bool must should => by
    rw [mapBounds, Holds, Holds, allHold_mapAllBounds M f must, someHolds_mapAllBounds M f should]
    simp only [ne_eq, mapAllBounds_eq_nil_iff]
  | .nested path query => by
    rw [mapBounds, Holds, Holds, holds_mapBounds M f query]
    rfl
  | .range .. => rfl
  | .wildcard .. => rfl
  | .terms .. => rfl
  | .term .. => rfl
  | .simpleQueryString .. => rfl

theorem allHold_mapAllBounds {Other : Type} (M : Meaning Other Doc) (f : Bound → Other) :
    ∀ cs : List (Clause Bound), AllHold M (mapAllBounds f cs) = AllHold (M.along f) cs
  | [] => rfl
  | c :: cs => by
    rw [mapAllBounds, AllHold, AllHold, holds_mapBounds M f c, allHold_mapAllBounds M f cs]

theorem someHolds_mapAllBounds {Other : Type} (M : Meaning Other Doc) (f : Bound → Other) :
    ∀ cs : List (Clause Bound), SomeHolds M (mapAllBounds f cs) = SomeHolds (M.along f) cs
  | [] => rfl
  | c :: cs => by
    rw [mapAllBounds, SomeHolds, SomeHolds, holds_mapBounds M f c, someHolds_mapAllBounds M f cs]

end

end Faceted.Clause
