import Faceted.Clause

/-!
# The leaves of a clause

Where the fields of a clause are searched: each leaf of it, in order, with the paths of the nested
clauses around it. Bounds play no part in this (`leaves_mapBounds`).
-/

namespace Faceted.Clause

/-- A leaf, by the fields that it searches. -/
inductive Leaf where
  | range (field : String)
  | wildcard (field : String)
  | terms (field : String)
  | term (field : String)
  | text (fields : List String)
deriving DecidableEq

/-- The names of the fields that a leaf searches. -/
def Leaf.fields : Leaf → List String
  | .range field | .wildcard field | .terms field | .term field => [field]
  | .text fields => fields

/-- A leaf in its place: underneath the nested clauses of these paths, the outermost first. -/
structure Placed where
  scopes : List String
  leaf : Leaf

/-- The place underneath one more nested clause, or none. -/
def Placed.within (path : Option String) (placed : Placed) : Placed :=
  ⟨path.toList ++ placed.scopes, placed.leaf⟩

variable {Bound : Type}

mutual

/-- The leaves of a clause in their places, in order. -/
def leaves : Clause Bound → List Placed
  | .matchAll => []
  | .bool must should => allLeaves must ++ allLeaves should
  | .nested path query => (leaves query).map (Placed.within (some path))
  | .range field _ _ _ => [⟨[], .range field⟩]
  | .wildcard field _ _ => [⟨[], .wildcard field⟩]
  | .terms field _ => [⟨[], .terms field⟩]
  | .term field _ => [⟨[], .term field⟩]
  | .simpleQueryString _ fields => [⟨[], .text fields⟩]

/-- The leaves of clauses, one clause after the other. -/
def allLeaves : List (Clause Bound) → List Placed
  | [] => []
  | c :: cs => leaves c ++ allLeaves cs

end

theorem allLeaves_append (cs ds : List (Clause Bound)) :
    allLeaves (cs ++ ds) = allLeaves cs ++ allLeaves ds := by
  induction cs with
  | nil => rfl
  | cons c cs ih => rw [List.cons_append, allLeaves, allLeaves, ih, List.append_assoc]

theorem Placed.within_none : Placed.within none = id := rfl

mutual

/-- **A clause with its bounds made into something else has the same leaves.** -/
theorem leaves_mapBounds {Other : Type} (f : Bound → Other) :
    ∀ c : Clause Bound, (c.mapBounds f).leaves = c.leaves
  | .matchAll => rfl
  | .bool must should => by
    rw [mapBounds, leaves, leaves, allLeaves_mapAllBounds f must, allLeaves_mapAllBounds f should]
  | .nested path query => by rw [mapBounds, leaves, leaves, leaves_mapBounds f query]
  | .range .. => rfl
  | .wildcard .. => rfl
  | .terms .. => rfl
  | .term .. => rfl
  | .simpleQueryString .. => rfl

theorem allLeaves_mapAllBounds {Other : Type} (f : Bound → Other) :
    ∀ cs : List (Clause Bound), allLeaves (mapAllBounds f cs) = allLeaves cs
  | [] => rfl
  | c :: cs => by
    rw [mapAllBounds, allLeaves, allLeaves, leaves_mapBounds f c, allLeaves_mapAllBounds f cs]

end

end Faceted.Clause
