import Faceted.Proofs.Clause.Blame
import Faceted.Proofs.Clause.Grammar

/-!
# The first fault of a clause

A clause that has clauses in it is read part by part, and the fault is that of the first part that cannot be
read, under the key of this part.

* `parts` lists what is looked at in a Boolean combination, in order and with its keys: what stands under
  `must`, and then what stands under `should`. A nested clause has one part.
* Each reader of a list fails by the first fault along it (`faultOf_readItems`, `faultOf_readList`), and so does
  the combination as a whole (`faultOf_read_bool`).
* `Offends` follows the first parts that cannot be read to any depth. The fault stays the same on the way
  (`faultOf_read_of_offends`).
-/

namespace Faceted.Clause

open Text Number

/-! ## Parts -/

/-- Something that is looked at under a key of its own. -/
inductive Part where
  /-- It has to be a clause. -/
  | clause (key : String) (v : Value)
  /-- It has to be clauses, and is neither a clause nor a list. -/
  | notList (key : String) (v : Value)

/-- The fault of a part, if it has one. -/
def Part.fault? : Part → Option Fault
  | .clause key v => faultOf (read key v)
  | .notList _ .endless => some .endless
  | .notList key _ => some (.wrongShape key .list)

/-- The parts of what stands under an operator: nothing, one clause, or the clauses of a list. -/
def operandParts (key : String) : Value → List Part
  | .scalar .null => []
  | .map m => [.clause key (.map m)]
  | .list xs => xs.mapIdx fun index x => .clause (itemKey key index) x
  | v => [.notList key v]

/-- The parts of a Boolean combination in the order in which they are looked at. `key` is that of its body. -/
def parts (key : String) (body : Mapping) : List Part :=
  operandParts (key ++ ".must") (Mapping.findOrNull "must" body) ++
    operandParts (key ++ ".should") (Mapping.findOrNull "should" body)

/-! ## The first fault -/

variable {key : String}

theorem faultOf_readItems (key : String) (xs : List Value) (index : Nat) :
    faultOf (readItems key index xs) =
      (xs.mapIdx fun i x => Part.clause (itemKey key (index + i)) x).findSome? Part.fault? := by
  induction xs generalizing index with
  | nil =>
    rw [readItems]
    rfl
  | cons x xs ih =>
    have hshift : (fun i (y : Value) => Part.clause (itemKey key (index + (i + 1))) y) =
        fun i y => .clause (itemKey key (index + 1 + i)) y := by
      funext i y
      rw [Nat.add_assoc index 1 i, Nat.add_comm 1 i]
    rw [readItems, List.mapIdx_cons, List.findSome?_cons, hshift, Nat.add_zero, Part.fault?]
    cases hx : read (itemKey key index) x with
    | error fault => rfl
    | ok c => exact faultOf_bind_pure.trans (ih (index + 1))

theorem faultOf_readList (key : String) (v : Value) :
    faultOf (readList key v) = (operandParts key v).findSome? Part.fault? := by
  cases v with
  | map m =>
    rw [readList, operandParts, List.findSome?_singleton, Part.fault?, read]
    exact faultOf_bind_pure
  | list xs =>
    rw [readList, faultOf_readItems, operandParts]
    simp only [Nat.zero_add]
  | endless =>
    rw [readList]
    rfl
  | scalar s => cases s <;> simp only [readList] <;> rfl
  | tuple | set | years =>
    simp only [readList]
    rfl

theorem readListAt_eq_readList (name key : String) (m : Mapping) :
    readListAt name key m = readList key (Mapping.findOrNull name m) := by
  rw [readListAt_eq, Mapping.findOrNull]
  cases Entries.find? name m with
  | none =>
    rw [Option.getD_none, readList]
  | some v => rfl

/-- A combination that has no other operators is read by its parts. -/
theorem faultOf_read_bool {body : Mapping}
    (operators : ∀ k ∈ Entries.keys body, k = .str "must" ∨ k = .str "should") :
    faultOf (read key (.map [(.str "bool", .map body)])) =
      (parts (key ++ ".bool") body).findSome? Part.fault? := by
  have hnames : Mapping.namesOutside ["must", "should"] body = .ok [] := by
    rw [Mapping.namesOutside_eq_nil_iff (by decide)]
    simpa using operators
  have hkey : key ++ "." ++ "bool" = key ++ ".bool" := (append_dotted (by decide) key).symm
  rw [read, readMapping, Key.written_str, ok_bind, hkey]
  simp only [Key.scalar.injEq, Scalar.str.injEq, String.reduceEq, if_false, readBody, if_true,
    hnames, ok_bind, List.isEmpty_nil, readListAt_eq_readList]
  rw [parts, List.findSome?_append, ← faultOf_readList, ← faultOf_readList]
  exact faultOf_bind fun must _ => faultOf_bind_pure

theorem readPath_of_find? {body : Mapping} {path : String}
    (located : Entries.find? "path" body = some (.str path)) (named : path ≠ "") :
    readPath key body = .ok path := by
  simp [readPath, Mapping.findOrNull, located, named]

/-- A nested clause with a path is read by its query. -/
theorem faultOf_read_nested {body : Mapping} {path : String} {query : Value}
    (located : Entries.find? "path" body = some (.str path)) (named : path ≠ "")
    (inside : Entries.find? "query" body = some query) :
    faultOf (read key (.map [(.str "nested", .map body)])) =
      faultOf (read (key ++ ".nested.query") query) := by
  have hkey : key ++ "." ++ "nested" ++ ".query" = key ++ ".nested.query" := by
    rw [← append_dotted (by decide : ".nested" = "." ++ "nested"), String.append_assoc,
      show ".nested" ++ ".query" = ".nested.query" by decide]
  rw [read, readMapping, Key.written_str, ok_bind]
  simp only [Key.scalar.injEq, Scalar.str.injEq, String.reduceEq, if_false, readBody, if_true,
    readPath_of_find? located named, ok_bind, readAt_eq, inside, hkey]
  exact faultOf_bind_pure

/-! ## Any depth -/

/-- A part of a clause that cannot be read, with its key: the clause itself, or one in its first part that
cannot be read. -/
inductive Offends : String → Value → String → Value → Prop
  | self (key : String) (v : Value) : Offends key v key v
  | bool {key inner partKey : String} {body : Mapping} {before after : List Part} {x part : Value}
    (operators : ∀ k ∈ Entries.keys body, k = .str "must" ∨ k = .str "should")
    (split : parts (key ++ ".bool") body = before ++ .clause inner x :: after)
    (fine : ∀ p ∈ before, p.fault? = none) (fails : ∃ fault, read inner x = .error fault)
    (inside : Offends inner x partKey part) :
    Offends key (.map [(.str "bool", .map body)]) partKey part
  | nested {key partKey path : String} {body : Mapping} {query part : Value}
    (located : Entries.find? "path" body = some (.str path)) (named : path ≠ "")
    (found : Entries.find? "query" body = some query)
    (inside : Offends (key ++ ".nested.query") query partKey part) :
    Offends key (.map [(.str "nested", .map body)]) partKey part

theorem findSome?_append_cons {before after : List Part} {part : Part} {fault : Fault}
    (fine : ∀ p ∈ before, p.fault? = none) (fails : part.fault? = some fault) :
    (before ++ part :: after).findSome? Part.fault? = some fault :=
  List.findSome?_eq_some_iff.mpr ⟨before, part, after, rfl, fails, fine⟩

/-- **The fault of a clause is that of the first part in it that cannot be read**, however deep this stands. -/
theorem faultOf_read_of_offends {partKey : String} {v part : Value} (h : Offends key v partKey part) :
    faultOf (read key v) = faultOf (read partKey part) := by
  induction h with
  | self => rfl
  | bool operators split fine fails inside ih =>
    obtain ⟨fault, hfault⟩ := fails
    rw [faultOf_read_bool operators, split, ← ih, hfault]
    exact findSome?_append_cons fine (faultOf_eq_some_iff.mpr hfault)
  | nested located named found inside ih => rw [faultOf_read_nested located named found, ih]

/-! ## All clauses -/

/-- The message of a fault of a value holds the key of the value. -/
theorem infix_of_blames {v : Value} {fault : Fault} (h : Blames key v fault) :
    key.toList <:+: fault.message.toList ∨ fault = .endless ∧ v.isEndless = true := by
  cases h with
  | named names leads => exact Or.inl (leads.isPrefix.isInfix.trans (Fault.infix_of_key? names))
  | endless h => exact Or.inr ⟨rfl, h⟩

theorem read_bool_eq_error_iff {body : Mapping}
    (operators : ∀ k ∈ Entries.keys body, k = .str "must" ∨ k = .str "should") {fault : Fault} :
    read key (.map [(.str "bool", .map body)]) = .error fault ↔
      ∃ before part after, parts (key ++ ".bool") body = before ++ part :: after ∧
        (∀ p ∈ before, p.fault? = none) ∧ part.fault? = some fault := by
  rw [← faultOf_eq_some_iff, faultOf_read_bool operators, List.findSome?_eq_some_iff]
  simp only [and_comm]

/--
**The fault of a clause points at the first part that cannot be read.**

* If a value without an integer that is too long is no clause, the message holds the key that it was read
  under, unless a part of the value goes on without an end.
* A Boolean combination fails by the fault of the first of its parts that has one. The parts are those under
  `must` and then those under `should`, each under its own key, and all other combinations with the same parts
  so far fail by the same fault.
* A nested clause with a path fails by the fault of its query, under the key of the query.
* So the fault stays the same along the first parts that cannot be read, to any depth.
-/
theorem faults_at_first_part (key : String) (v : Value) :
    (v.isWritable = true → ∀ fault, read key v = .error fault →
      key.toList <:+: fault.message.toList ∨ fault = .endless ∧ v.isEndless = true) ∧
    (∀ body, v = .map [(.str "bool", .map body)] →
      (∀ k ∈ Entries.keys body, k = .str "must" ∨ k = .str "should") →
      (∀ fault, read key v = .error fault ↔
        ∃ before part after, parts (key ++ ".bool") body = before ++ part :: after ∧
          (∀ p ∈ before, p.fault? = none) ∧ part.fault? = some fault) ∧
      ∀ before part after fault, parts (key ++ ".bool") body = before ++ part :: after →
        (∀ p ∈ before, p.fault? = none) → part.fault? = some fault →
        ∀ (other : Mapping) (rest : List Part),
          (∀ k ∈ Entries.keys other, k = .str "must" ∨ k = .str "should") →
          parts (key ++ ".bool") other = before ++ part :: rest →
          read key (.map [(.str "bool", .map other)]) = .error fault) ∧
    (∀ body path query, v = .map [(.str "nested", .map body)] →
      Entries.find? "path" body = some (.str path) → path ≠ "" →
      Entries.find? "query" body = some query →
      ∀ fault, read key v = .error fault ↔ read (key ++ ".nested.query") query = .error fault) ∧
    ∀ partKey part, Offends key v partKey part →
      ∀ fault, read key v = .error fault ↔ read partKey part = .error fault := by
  refine ⟨fun hw fault hfault => infix_of_blames (fails_read key v hw fault hfault), ?_, ?_, ?_⟩
  · rintro body rfl operators
    refine ⟨fun fault => read_bool_eq_error_iff operators, ?_⟩
    intro before part after fault _ fine hfault other rest operators' hother
    exact (read_bool_eq_error_iff operators').mpr ⟨before, part, rest, hother, fine, hfault⟩
  · rintro body path query rfl located named found fault
    rw [← faultOf_eq_some_iff, faultOf_read_nested located named found, faultOf_eq_some_iff]
  · intro partKey part hpart fault
    rw [← faultOf_eq_some_iff, faultOf_read_of_offends hpart, faultOf_eq_some_iff]

/-- A list of terms that is none, as the second clause under `must` in a nested combination: what comes after
it is wrong as well, and has no influence. -/
theorem faults_at_first_part_nested :
    let broken := Value.object [("terms", .object [("role", .str "mp")])]
    let fine := Value.object [("match_all", .null)]
    let body : Mapping := [(.str "must", .list [fine, broken, .int 5]), (.str "should", .str "mp")]
    let v := Value.object [("nested", .object
      [("path", .str "persons"), ("query", .object [("bool", .map body)])])]
    let fault := Fault.wrongShape "extra.nested.query.bool.must[1].terms.role" .stringList
    v.isWritable = true ∧ read "extra" v = .error fault ∧ "extra".toList <:+: fault.message.toList ∧
      read "extra.nested.query" (.object [("bool", .object [("must", .list [fine, broken])])]) =
        .error fault := by
  intro broken fine body v fault
  have hw : v.isWritable = true := by decide +kernel
  let must (index : Nat) : String := itemKey ("extra.nested.query" ++ ".bool" ++ ".must") index
  have hbroken : faultOf (read (must 1) broken) = some fault := by decide +kernel
  have hfine : ∀ p ∈ [Part.clause (must 0) fine], p.fault? = none := by decide +kernel
  have operators : ∀ k ∈ Entries.keys body, k = .str "must" ∨ k = .str "should" := by decide +kernel
  obtain ⟨-, hbool, -, -⟩ := faults_at_first_part "extra.nested.query" (.object [("bool", .map body)])
  obtain ⟨-, hrest⟩ := hbool body rfl operators
  obtain ⟨hmessage, -, -, hdepth⟩ := faults_at_first_part "extra" v
  have hsplit : parts ("extra.nested.query" ++ ".bool") body =
      [.clause (must 0) fine] ++ .clause (must 1) broken :: [.clause (must 2) (.int 5),
        .notList ("extra.nested.query" ++ ".bool" ++ ".should") (.str "mp")] := rfl
  have hread : read "extra" v = .error fault := by
    have hfails := faultOf_eq_some_iff.mp hbroken
    refine (hdepth (must 1) broken ?_ fault).mpr hfails
    exact .nested rfl (by decide : "persons" ≠ "") rfl
      (.bool operators hsplit hfine ⟨fault, hfails⟩ (.self _ _))
  refine ⟨hw, hread, (hmessage hw fault hread).resolve_right nofun, ?_⟩
  exact hrest _ _ _ fault hsplit hfine hbroken _ [] (by decide +kernel) rfl

end Faceted.Clause
