import Faceted.Json
import Faceted.Clause
import Faceted.Proofs.Basic
import Faceted.Proofs.Digits

/-!
# Plain values and values with a JSON text

A plain value is made of strings, truth values, integers that can be written, lists, and mappings whose
keys are strings. There is no null in it, and it has a JSON text (`exists_document`).

The values that have a JSON text are described by their shape (`Value.HasJson`), for scalars and keys apart.
That these are the ones that the writer succeeds on goes by its recursion (`exists_write_iff`).

What a clause is sent as is plain if its bounds are (`isPlain_toValue`), since absent bounds are left out.
-/

namespace Faceted

open Number

namespace Value

/-- The value is made of strings, truth values, integers that can be written, lists, and mappings with
string keys. -/
inductive IsPlain : Value → Prop
  | str (s : String) : IsPlain (.str s)
  | bool (b : Bool) : IsPlain (.bool b)
  | int {n : Int} (short : n.natAbs < Nat.pow 10 digitLimit) : IsPlain (.int n)
  | list {xs : List Value} (items : ∀ x ∈ xs, IsPlain x) : IsPlain (.list xs)
  | map {m : Mapping} (keys : ∀ e ∈ m, ∃ name, e.1 = .str name) (values : ∀ e ∈ m, IsPlain e.2) :
    IsPlain (.map m)

theorem isPlain_object {fields : List (String × Value)} (h : ∀ f ∈ fields, f.2.IsPlain) :
    (Value.object fields).IsPlain :=
  .map (List.forall_mem_map.mpr fun f _ => ⟨f.1, rfl⟩) (List.forall_mem_map.mpr h)

theorem isPlain_field {name : String} {v : Value} (h : v.IsPlain) : (Value.object [(name, v)]).IsPlain :=
  isPlain_object (List.forall_mem_singleton.mpr h)

theorem isPlain_strs (ss : List String) : (Value.strs ss).IsPlain := by
  refine .list fun x hx => ?_
  obtain ⟨s, -, rfl⟩ := List.mem_map.mp hx
  exact .str s

end Value

/-! ## What has a JSON text -/

/-- The scalar has a JSON text. -/
inductive Scalar.HasJson : Scalar → Prop
  | null : HasJson .null
  | bool (b : Bool) : HasJson (.bool b)
  | int {n : Int} (short : n.natAbs < Nat.pow 10 digitLimit) : HasJson (.int n)
  | float (x : Double) : HasJson (.float x)
  | str (s : String) : HasJson (.str s)

/-- The key has a JSON text. -/
inductive Key.HasJson : Key → Prop
  | scalar {s : Scalar} (written : s.HasJson) : HasJson (.scalar s)

/-- The value is made of scalars that have a JSON text, lists, tuples, and mappings whose keys have one. -/
inductive Value.HasJson : Value → Prop
  | scalar {s : Scalar} (written : s.HasJson) : HasJson (.scalar s)
  | list {xs : List Value} (items : ∀ x ∈ xs, HasJson x) : HasJson (.list xs)
  | tuple {xs : List Value} (items : ∀ x ∈ xs, HasJson x) : HasJson (.tuple xs)
  | map {m : Mapping} (keys : ∀ e ∈ m, e.1.HasJson) (values : ∀ e ∈ m, HasJson e.2) : HasJson (.map m)

namespace Value

theorem hasJson_scalar_iff {s : Scalar} : (Value.scalar s).HasJson ↔ s.HasJson :=
  ⟨fun | .scalar written => written, .scalar⟩

theorem hasJson_int_iff {n : Int} : (Value.int n).HasJson ↔ n.natAbs < Nat.pow 10 digitLimit :=
  ⟨fun | .scalar (.int short) => short, fun short => .scalar (.int short)⟩

theorem hasJson_list_iff {xs : List Value} : (Value.list xs).HasJson ↔ ∀ x ∈ xs, x.HasJson :=
  ⟨fun | .list items => items, .list⟩

theorem hasJson_tuple_iff {xs : List Value} : (Value.tuple xs).HasJson ↔ ∀ x ∈ xs, x.HasJson :=
  ⟨fun | .tuple items => items, .tuple⟩

theorem hasJson_map_iff {m : Mapping} :
    (Value.map m).HasJson ↔ ∀ e ∈ m, e.1.HasJson ∧ e.2.HasJson := by
  constructor
  · rintro (_ | _ | _ | ⟨keys, values⟩) e he
    exact ⟨keys e he, values e he⟩
  · exact fun h => .map (fun e he => (h e he).1) (fun e he => (h e he).2)

theorem hasJson_object_iff {fields : List (String × Value)} :
    (Value.object fields).HasJson ↔ ∀ f ∈ fields, f.2.HasJson := by
  rw [Value.object, hasJson_map_iff, List.forall_mem_map]
  exact forall₂_congr fun f _ => and_iff_right (Key.HasJson.scalar (.str f.1))

/-- **A plain value has a JSON text.** -/
theorem IsPlain.hasJson {v : Value} (h : v.IsPlain) : v.HasJson := by
  induction h with
  | str s => exact .scalar (.str s)
  | bool b => exact .scalar (.bool b)
  | int short => exact .scalar (.int short)
  | list _ ih => exact .list ih
  | map keys _ ih =>
    refine .map (fun e he => ?_) ih
    obtain ⟨name, hname⟩ := keys e he
    rw [hname]
    exact .scalar (.str name)

end Value

namespace Json

open Value

theorem exists_scalar_iff {s : Scalar} : (∃ text, scalar s = .ok text) ↔ s.HasJson := by
  cases s with
  | null => exact iff_of_true ⟨_, rfl⟩ .null
  | bool b => exact iff_of_true (by cases b <;> exact ⟨_, rfl⟩) (.bool b)
  | int n =>
    have hint : (Scalar.int n).HasJson ↔ exceedsDigits n = false :=
      ⟨fun | .int short => exceedsDigits_eq_false_iff.mpr short,
        fun short => .int (exceedsDigits_eq_false_iff.mp short)⟩
    rw [hint, scalar]
    cases exceedsDigits n <;> simp
  | float x => exact iff_of_true ⟨_, rfl⟩ (.float x)
  | str s => exact iff_of_true ⟨_, rfl⟩ (.str s)
  | bytes _ | date _ | moment _ => exact iff_of_false nofun nofun

theorem exists_keyText_iff {k : Key} : (∃ text, keyText k = .ok text) ↔ k.HasJson := by
  cases k with
  | scalar s =>
    have hkey : (Key.scalar s).HasJson ↔ s.HasJson := ⟨fun | .scalar written => written, .scalar⟩
    rw [hkey, ← exists_scalar_iff]
    -- the text of a string as a key is the string itself, without quotes
    cases s with
    | str _ => exact iff_of_true ⟨_, rfl⟩ ⟨_, rfl⟩
    | bytes _ | date _ | moment _ => exact iff_of_false nofun nofun
    | null | bool _ | int _ | float _ => exact Iff.rfl
  | tuple _ | years _ _ => exact iff_of_false nofun nofun

mutual

/-- **What has a JSON text**, at any level of indentation. -/
theorem exists_write_iff : ∀ (v : Value) (level : Nat), (∃ text, write level v = .ok text) ↔ v.HasJson
  | .scalar s, level => by rw [hasJson_scalar_iff, write, exists_scalar_iff]
  | .list xs, level => by
    rw [hasJson_list_iff, write, exists_bind_pure_iff, exists_writeAll_iff]
  | .tuple xs, level => by
    rw [hasJson_tuple_iff, write, exists_bind_pure_iff, exists_writeAll_iff]
  | .map m, level => by
    rw [hasJson_map_iff, write, exists_bind_pure_iff, exists_writeEntries_iff]
  | .set _, _ | .years _ _, _ | .endless, _ => iff_of_false nofun nofun

theorem exists_writeAll_iff : ∀ (xs : List Value) (level : Nat),
    (∃ texts, writeAll level xs = .ok texts) ↔ ∀ x ∈ xs, x.HasJson
  | [], _ => iff_of_true ⟨_, rfl⟩ (List.forall_mem_nil _)
  | x :: xs, level => by
    rw [List.forall_mem_cons, ← exists_write_iff x level, ← exists_writeAll_iff xs level, writeAll]
    cases write level x with
    | error _ => exact iff_of_false nofun nofun
    | ok _ => rw [ok_bind, exists_bind_pure_iff]; simp

theorem exists_writeEntries_iff : ∀ (m : Mapping) (level : Nat),
    (∃ texts, writeEntries level m = .ok texts) ↔ ∀ e ∈ m, e.1.HasJson ∧ e.2.HasJson
  | [], _ => iff_of_true ⟨_, rfl⟩ (List.forall_mem_nil _)
  | (k, v) :: m, level => by
    rw [List.forall_mem_cons, ← exists_keyText_iff, ← exists_write_iff v level,
      ← exists_writeEntries_iff m level, writeEntries]
    cases keyText k with
    | error _ => exact iff_of_false nofun nofun
    | ok _ =>
      cases write level v with
      | error _ => exact iff_of_false nofun nofun
      | ok _ => rw [ok_bind, ok_bind, exists_bind_pure_iff]; simp

end

theorem exists_document_iff {v : Value} : (∃ text, document v = .ok text) ↔ v.HasJson := by
  rw [document, exists_bind_pure_iff, exists_write_iff]

theorem exists_document {v : Value} (h : v.IsPlain) : ∃ text, document v = .ok text :=
  exists_document_iff.mpr h.hasJson

end Json

/-! ## Clauses -/

namespace Clause

open Value

variable {Bound : Type} [SentAs Bound]

theorem isPlain_presentBounds (h : ∀ b : Bound, (SentAs.sent b).IsPlain) (gte lte : Option Bound)
    (format : Option String) : ∀ f ∈ presentBounds gte lte format, f.2.IsPlain := by
  intro f hf
  obtain ⟨⟨name, v⟩, hmem, hv⟩ := List.mem_filterMap.mp hf
  obtain ⟨w, rfl, rfl⟩ := Option.map_eq_some_iff.mp hv
  simp only [List.mem_cons, Prod.mk.injEq, List.not_mem_nil, or_false] at hmem
  rcases hmem with ⟨-, hb⟩ | ⟨-, hb⟩ | ⟨-, hb⟩
  · obtain ⟨b, -, rfl⟩ := Option.map_eq_some_iff.mp hb.symm
    exact h b
  · obtain ⟨b, -, rfl⟩ := Option.map_eq_some_iff.mp hb.symm
    exact h b
  · obtain ⟨s, -, rfl⟩ := Option.map_eq_some_iff.mp hb.symm
    exact .str s

theorem isPlain_clauseField {documents : List Value} (h : ∀ d ∈ documents, d.IsPlain) (name : String) :
    ∀ f ∈ clauseField name documents, f.2.IsPlain := by
  unfold clauseField
  split
  · exact fun _ hf => nomatch hf
  · rintro _ (_ | ⟨_, ⟨⟩⟩)
    exact .list h

mutual

/-- **What a clause is sent as is plain**, if what its bounds are sent as is. -/
theorem isPlain_toValue (h : ∀ b : Bound, (SentAs.sent b).IsPlain) :
    ∀ c : Clause Bound, (toValue c).IsPlain
  | .matchAll => isPlain_field (isPlain_object (List.forall_mem_nil _))
  | .bool must should => by
    refine isPlain_field (isPlain_object ?_)
    rw [List.forall_mem_append]
    exact ⟨isPlain_clauseField (isPlain_toValues h must) "must",
      isPlain_clauseField (isPlain_toValues h should) "should"⟩
  | .nested path query => by
    refine isPlain_field (isPlain_object ?_)
    simp only [List.forall_mem_cons]
    exact ⟨.str path, isPlain_toValue h query, List.forall_mem_nil _⟩
  | .range field gte lte format =>
    isPlain_field (isPlain_field (isPlain_object (isPlain_presentBounds h gte lte format)))
  | .wildcard field value caseInsensitive => by
    refine isPlain_field (isPlain_field (isPlain_object ?_))
    simp only [List.forall_mem_cons]
    exact ⟨.str value, .bool caseInsensitive, List.forall_mem_nil _⟩
  | .terms field values => isPlain_field (isPlain_field (isPlain_strs values))
  | .term field value => isPlain_field (isPlain_field (.str value))
  | .simpleQueryString query fields => by
    refine isPlain_field (isPlain_object ?_)
    simp only [List.forall_mem_cons]
    exact ⟨.str query, isPlain_strs fields, List.forall_mem_nil _⟩

theorem isPlain_toValues (h : ∀ b : Bound, (SentAs.sent b).IsPlain) : ∀ cs : List (Clause Bound),
    ∀ d ∈ toValues cs, d.IsPlain
  | [] => fun _ hd => nomatch hd
  | c :: cs => by
    rw [toValues]
    exact List.forall_mem_cons.mpr ⟨isPlain_toValue h c, isPlain_toValues h cs⟩

end

end Clause

end Faceted
