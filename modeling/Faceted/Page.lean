import Faceted.Value.Parts

/-!
# Result pages

The hits and the total that a search response holds. Items of the list of hits that are no mapping
are left out; a total that cannot be read is the number of hits.
-/

namespace Faceted

open Faceted.Text

/-- A document that was found: its stored fields, and excerpts by field. -/
structure SearchHit where
  id : String
  source : Mapping
  highlight : List (String × List String)
deriving Repr

/-- A page of hits with the number of all documents found. It is stale when a newer search was sent
before this one was completed. -/
structure SearchPage where
  hits : List SearchHit
  total : Int
  stale : Bool
deriving Repr

namespace SearchHit

/-- Gives a field its excerpts: in place if it has some, else at the end. -/
def putExcerpts (field : String) (excerpts : List String) :
    List (String × List String) → List (String × List String)
  | [] => [(field, excerpts)]
  | e :: es => if e.1 = field then (field, excerpts) :: es else e :: putExcerpts field excerpts es

/-- The excerpts by field among entries, laid over those that have been read; fields without a list of
them are left out. -/
def readExcerpts (es : List (String × List String)) :
    Mapping → Except Fault (List (String × List String))
  | [] => .ok es
  | (k, v) :: m => match v with
    | .list fragments => do
      let excerpts ← Value.writtenAll fragments
      let field ← k.written
      readExcerpts (putExcerpts field excerpts es) m
    | _ => readExcerpts es m

/-- The excerpts of a hit. -/
def readHighlight : Value → Except Fault (List (String × List String))
  | .map m => readExcerpts [] m
  | _ => .ok []

/-- The text of an identifier, empty for null. -/
def readId : Value → Except Fault String
  | .scalar .null => .ok ""
  | v => v.written.map trimmed

/-- The hit that a mapping stands for. -/
def read (m : Mapping) : Except Fault SearchHit := do
  let id ← readId (Mapping.findOrNull "_id" m)
  let highlight ← readHighlight (Mapping.findOrNull "highlight" m)
  pure ⟨id, ((Mapping.findOrNull "_source" m).mapping?).getD [], highlight⟩

/-- The hits that items stand for; those that are no mapping are left out. -/
def readAll : List Value → Except Fault (List SearchHit)
  | [] => .ok []
  | v :: vs => match v with
    | .map m => do
      let hit ← read m
      let hits ← readAll vs
      pure (hit :: hits)
    | _ => readAll vs

end SearchHit

namespace SearchPage

/-- The items of a list of hits. What counts as false has none; a number has none to go through. -/
def items (v : Value) : Except Fault (List Value) := if v.isTruthy then v.parts else .ok []

/-- The total of a response, in the form with a value and in the form that is the number itself. -/
def readTotal (absent : Int) (v : Value) : Int :=
  let v := match v with
    | .map m => Mapping.findOrNull "value" m
    | v => v
  match v with
  | .scalar (.int n) => n
  | _ => absent

/-- The page that a response holds. -/
def read (payload : Value) : Except Fault SearchPage :=
  match payload.mapping?.bind (fun m => (Mapping.findOrNull "hits" m).mapping?) with
  | none => .error .noHits
  | some part => do
    let hits ← SearchHit.readAll (← items (Mapping.findOrNull "hits" part))
    pure ⟨hits, readTotal hits.length (Mapping.findOrNull "total" part), false⟩

end SearchPage

end Faceted
