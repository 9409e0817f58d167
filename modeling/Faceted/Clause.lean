import Faceted.Value

/-!
# Query clauses

The closed set of clauses that the search engine understands, and the document each one is sent as.
Absent bounds, and empty lists of a Boolean combination, are left out of the document.

The bounds of a range are strings in a clause that has been read from a document. In a clause that a
filter is compiled to they can be any values, since a filter that was made by hand may hold any.

## Termination

All functions recurse on the clause; the lists of a Boolean combination have a function of their own.
-/

namespace Faceted

/-- A clause of a query, with bounds of ranges of some type. -/
inductive Clause (Bound : Type) where
  /-- Every document. -/
  | matchAll
  /-- Every `must` clause and, if there are any, at least one `should` clause. -/
  | bool (must should : List (Clause Bound))
  /-- The clause inside the objects at a path. -/
  | nested (path : String) (query : Clause Bound)
  /-- A field between bounds. -/
  | range (field : String) (gte lte : Option Bound) (format : Option String)
  /-- A field against a pattern. -/
  | wildcard (field value : String) (caseInsensitive : Bool)
  /-- A field with one of several terms. -/
  | terms (field : String) (values : List String)
  /-- A field with one term. -/
  | term (field value : String)
  /-- Free text over several fields. -/
  | simpleQueryString (query : String) (fields : List String)
deriving Repr

/-- What a bound of a range is sent as. -/
class SentAs (Bound : Type) where
  sent : Bound → Value

instance : SentAs String := ⟨.str⟩

instance : SentAs Value := ⟨id⟩

namespace Clause

variable {Bound : Type}

instance : Inhabited (Clause Bound) := ⟨.matchAll⟩

/-! ## The document of a clause -/

/-- The bounds of a range that are there. -/
def presentBounds [SentAs Bound] (gte lte : Option Bound) (format : Option String) :
    List (String × Value) :=
  [("gte", gte.map SentAs.sent), ("lte", lte.map SentAs.sent), ("format", format.map .str)].filterMap
    fun b => b.2.map fun v => (b.1, v)

/-- A field of an object with a list of clauses, left out when the list is empty. -/
def clauseField (name : String) (documents : List Value) : List (String × Value) :=
  if documents.isEmpty then [] else [(name, .list documents)]

mutual

/-- The document that a clause is sent as. -/
def toValue [SentAs Bound] : Clause Bound → Value
  | .matchAll => .object [("match_all", .object [])]
  | .bool must should =>
    .object [("bool", .object
      (clauseField "must" (toValues must) ++ clauseField "should" (toValues should)))]
  | .nested path query => .object [("nested", .object [("path", .str path), ("query", toValue query)])]
  | .range field gte lte format =>
    .object [("range", .object [(field, .object (presentBounds gte lte format))])]
  | .wildcard field value caseInsensitive =>
    .object [("wildcard", .object [(field, .object
      [("value", .str value), ("case_insensitive", .bool caseInsensitive)])])]
  | .terms field values => .object [("terms", .object [(field, .strs values)])]
  | .term field value => .object [("term", .object [(field, .str value)])]
  | .simpleQueryString query fields =>
    .object [("simple_query_string", .object [("query", .str query), ("fields", .strs fields)])]

/-- The documents of clauses. -/
def toValues [SentAs Bound] : List (Clause Bound) → List Value
  | [] => []
  | c :: cs => toValue c :: toValues cs

end

/-! ## Other bounds -/

mutual

/-- A clause with its bounds made into something else. -/
def mapBounds {Other : Type} (f : Bound → Other) : Clause Bound → Clause Other
  | .matchAll => .matchAll
  | .bool must should => .bool (mapAllBounds f must) (mapAllBounds f should)
  | .nested path query => .nested path (mapBounds f query)
  | .range field gte lte format => .range field (gte.map f) (lte.map f) format
  | .wildcard field value caseInsensitive => .wildcard field value caseInsensitive
  | .terms field values => .terms field values
  | .term field value => .term field value
  | .simpleQueryString query fields => .simpleQueryString query fields

/-- Clauses with their bounds made into something else. -/
def mapAllBounds {Other : Type} (f : Bound → Other) : List (Clause Bound) → List (Clause Other)
  | [] => []
  | c :: cs => mapBounds f c :: mapAllBounds f cs

end

mutual

/-- A clause is sent as the same document when its bounds are. -/
theorem toValue_mapBounds {Other : Type} [SentAs Bound] [SentAs Other] {f : Bound → Other}
    (h : ∀ b, SentAs.sent (f b) = SentAs.sent b) : ∀ c, toValue (mapBounds f c) = toValue c
  | .matchAll => rfl
  | .bool must should => by
    simp only [mapBounds, toValue, toValues_mapAllBounds h must, toValues_mapAllBounds h should]
  | .nested path query => by simp only [mapBounds, toValue, toValue_mapBounds h query]
  | .range field gte lte format => by
    cases gte <;> cases lte <;> simp [mapBounds, toValue, presentBounds, h]
  | .wildcard .. => rfl
  | .terms .. => rfl
  | .term .. => rfl
  | .simpleQueryString .. => rfl

theorem toValues_mapAllBounds {Other : Type} [SentAs Bound] [SentAs Other] {f : Bound → Other}
    (h : ∀ b, SentAs.sent (f b) = SentAs.sent b) : ∀ cs, toValues (mapAllBounds f cs) = toValues cs
  | [] => rfl
  | c :: cs => by
    simp only [mapAllBounds, toValues, toValue_mapBounds h c, toValues_mapAllBounds h cs]

end

/-! ## Equality -/

mutual

/-- The two clauses are equal. -/
def beq [DecidableEq Bound] : Clause Bound → Clause Bound → Bool
  | .matchAll, .matchAll => true
  | .bool m s, .bool m' s' => beqList m m' && beqList s s'
  | .nested p q, .nested p' q' => p == p' && beq q q'
  | .range f g l t, .range f' g' l' t' => f == f' && g == g' && l == l' && t == t'
  | .wildcard f v c, .wildcard f' v' c' => f == f' && v == v' && c == c'
  | .terms f vs, .terms f' vs' => f == f' && vs == vs'
  | .term f v, .term f' v' => f == f' && v == v'
  | .simpleQueryString q fs, .simpleQueryString q' fs' => q == q' && fs == fs'
  | _, _ => false

/-- The two lists of clauses are equal. -/
def beqList [DecidableEq Bound] : List (Clause Bound) → List (Clause Bound) → Bool
  | [], [] => true
  | c :: cs, d :: ds => beq c d && beqList cs ds
  | _, _ => false

end

mutual

theorem eq_of_beq [DecidableEq Bound] : ∀ {c d : Clause Bound}, beq c d = true → c = d
  | .matchAll, d, h => by cases d <;> simp_all [beq]
  | .bool m s, d, h => by
    cases d <;> simp only [beq, Bool.and_eq_true, Bool.false_eq_true] at h
    rw [eq_of_beqList h.1, eq_of_beqList h.2]
  | .nested p q, d, h => by
    cases d <;> simp only [beq, Bool.and_eq_true, beq_iff_eq, Bool.false_eq_true] at h
    rw [h.1, eq_of_beq h.2]
  | .range .., d, h => by cases d <;> simp_all [beq]
  | .wildcard .., d, h => by cases d <;> simp_all [beq]
  | .terms .., d, h => by cases d <;> simp_all [beq]
  | .term .., d, h => by cases d <;> simp_all [beq]
  | .simpleQueryString .., d, h => by cases d <;> simp_all [beq]

theorem eq_of_beqList [DecidableEq Bound] : ∀ {cs ds : List (Clause Bound)}, beqList cs ds = true → cs = ds
  | [], ds, h => by cases ds <;> simp_all [beqList]
  | c :: cs, [], h => by simp [beqList] at h
  | c :: cs, d :: ds, h => by
    simp only [beqList, Bool.and_eq_true] at h
    rw [eq_of_beq h.1, eq_of_beqList h.2]

end

mutual

theorem beq_self [DecidableEq Bound] : ∀ c : Clause Bound, beq c c = true
  | .matchAll => rfl
  | .bool m s => by simp [beq, beqList_self m, beqList_self s]
  | .nested p q => by simp [beq, beq_self q]
  | .range .. => by simp [beq]
  | .wildcard .. => by simp [beq]
  | .terms .. => by simp [beq]
  | .term .. => by simp [beq]
  | .simpleQueryString .. => by simp [beq]

theorem beqList_self [DecidableEq Bound] : ∀ cs : List (Clause Bound), beqList cs cs = true
  | [] => rfl
  | c :: cs => by simp [beqList, beq_self c, beqList_self cs]

end

instance [DecidableEq Bound] : DecidableEq (Clause Bound) := fun c d =>
  if h : beq c d = true then isTrue (eq_of_beq h)
  else isFalse fun e => h (e ▸ beq_self c)

end Clause

end Faceted
