import Faceted.Clause
import Faceted.Value.Text
import Faceted.Fault

/-!
# Reading a clause from a document

A clause is a mapping with one entry, the clause type and its body. Every fault names the key path
of the part that is wrong. The parts of a Boolean combination are read in order, `must` before
`should`, and the first fault is the one reported.

## Termination

Reading recurses on the document; the value under a name is found by going through the entries.
-/

namespace Faceted.Clause

open Faceted.Text Faceted.Number

/-- A bound of a range: a string, or an integer, which is then written out. -/
def readBound (key : String) : Value → Except Fault (Option String)
  | .scalar .null => .ok none
  | .scalar (.str s) => .ok (some s)
  | .scalar (.int n) => if exceedsDigits n then .error .tooLongToWrite else .ok (some (intString n))
  | _ => .error (.wrongShape key .string)

/-- The one field that a clause body names, with its parameters. -/
def readField (key : String) : Mapping → Except Fault (String × Value)
  | [(.scalar (.str field), params)] =>
    if field.isEmpty then .error (.noFieldName key) else .ok (field, params)
  | [_] => .error (.noFieldName key)
  | _ => .error (.fieldCount key)

/-- The clause of a field between bounds. -/
def readRange (key field : String) : Value → Except Fault (Clause String)
  | .map params => do
    let gte ← readBound (key ++ ".gte") (Mapping.findOrNull "gte" params)
    let lte ← readBound (key ++ ".lte") (Mapping.findOrNull "lte" params)
    let format ← readBound (key ++ ".format") (Mapping.findOrNull "format" params)
    pure (.range field gte lte format)
  | _ => .error (.wrongShape key .object)

/-- The clause of a field against a pattern, which may stand alone or among parameters. -/
def readWildcard (key field : String) : Value → Except Fault (Clause String)
  | .scalar (.str value) => .ok (.wildcard field value false)
  | .map params =>
    match Mapping.findOrNull "value" params with
    | .scalar (.str value) =>
      .ok (.wildcard field value ((Entries.find? "case_insensitive" params).any Value.isTruthy))
    | _ => .error (.wrongShape (key ++ ".value") .string)
  | _ => .error (.wrongShape (key ++ ".value") .string)

/-- The clause of a field with one of several terms. -/
def readTerms (key field : String) : Value → Except Fault (Clause String)
  | .list xs =>
    match Value.strings? xs with
    | some values => .ok (.terms field values)
    | none => .error (.wrongShape key .stringList)
  | _ => .error (.wrongShape key .stringList)

/-- The clause of a field with one term, which may stand alone or among parameters. -/
def readTerm (key field : String) (params : Value) : Except Fault (Clause String) :=
  let value := match params with
    | .map m => Mapping.findOrNull "value" m
    | v => v
  match value with
  | .scalar (.str s) => .ok (.term field s)
  | _ => .error (.wrongShape key .string)

/-- The clause of a type that names a single field. `outer` is the key of the clause, `key` that of
its body. -/
def readLeaf (outer key : String) (type : Key) (body : Mapping) : Except Fault (Clause String) := do
  let (field, params) ← readField key body
  let fieldKey := key ++ "." ++ field
  if type = .str "range" then readRange fieldKey field params
  else if type = .str "wildcard" then readWildcard fieldKey field params
  else if type = .str "terms" then readTerms fieldKey field params
  else if type = .str "term" then readTerm fieldKey field params
  else do throw (.unknownClause outer (← type.written))

/-- The path of a nested clause. -/
def readPath (key : String) (body : Mapping) : Except Fault String :=
  match Mapping.findOrNull "path" body with
  | .scalar (.str path) => if path.isEmpty then .error (.noPath key) else .ok path
  | _ => .error (.noPath key)

/-- The key of the item at a position of a list. -/
def itemKey (key : String) (index : Nat) : String :=
  key ++ "[" ++ String.ofList (natText index) ++ "]"

mutual

/-- The clause that a value stands for. -/
def read (key : String) : Value → Except Fault (Clause String)
  | .map m => readMapping key m
  | .endless => .error .endless
  | _ => .error (.wrongShape key .object)

/-- The clause that the entries of a mapping stand for. -/
def readMapping (key : String) : List (Key × Value) → Except Fault (Clause String)
  | [(type, body)] => do
    let name ← type.written
    if type = .str "match_all" then pure .matchAll else readBody key (key ++ "." ++ name) type body
  | _ => .error (.clauseCount key)

/-- The clause of a type with its body. `outer` is the key of the clause, `key` that of the body. -/
def readBody (outer key : String) (type : Key) : Value → Except Fault (Clause String)
  | .map body =>
    if type = .str "bool" then do
      let unknown ← Mapping.namesOutside ["must", "should"] body
      if unknown.isEmpty then
        let must ← readListAt "must" (key ++ ".must") body
        let should ← readListAt "should" (key ++ ".should") body
        pure (.bool must should)
      else throw (.unknownNames key .operators unknown)
    else if type = .str "nested" then do
      let path ← readPath key body
      let query ← readAt "query" (key ++ ".query") body
      pure (.nested path query)
    else readLeaf outer key type body
  | .endless => .error .endless
  | _ => .error (.wrongShape key .object)

/-- The clause under a name that has to be there. -/
def readAt (name key : String) : List (Key × Value) → Except Fault (Clause String)
  | [] => .error (.missing key)
  | (k, v) :: m => if Key.same (.str name) k then read key v else readAt name key m

/-- The clauses under a name, none if it is absent. -/
def readListAt (name key : String) : List (Key × Value) → Except Fault (List (Clause String))
  | [] => .ok []
  | (k, v) :: m => if Key.same (.str name) k then readList key v else readListAt name key m

/-- Clauses: a list of them, one alone, or null for none. -/
def readList (key : String) : Value → Except Fault (List (Clause String))
  | .scalar .null => .ok []
  | .map m => do pure [← readMapping key m]
  | .list xs => readItems key 0 xs
  | .endless => .error .endless
  | _ => .error (.wrongShape key .list)

/-- The clauses of a list, from the position `index` on. -/
def readItems (key : String) (index : Nat) : List Value → Except Fault (List (Clause String))
  | [] => .ok []
  | x :: xs => do
    let c ← read (itemKey key index) x
    let cs ← readItems key (index + 1) xs
    pure (c :: cs)

end

end Faceted.Clause
