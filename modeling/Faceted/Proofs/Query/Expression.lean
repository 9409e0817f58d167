import Faceted.Proofs.Basic
import Faceted.Query.Request
import Mathlib.Data.List.Forall2

/-!
# Sort expressions in bodies

The sort of a body is what the items of an expression make up, item by item (`SortOption.mappings_eq_ok_iff`).
An item that makes up no mapping is a fault of the body, which is looked for when the filters have been
compiled: `searchBody_eq_ok_iff` and `exportBody_eq_ok_iff` say what a body is made of, `exportBody_eq_error_iff`
what it fails for, and `searchBody_eq_error_iff` that a search and an export fail alike.
-/

namespace Faceted

/-! ## Expressions -/

namespace SortOption

variable {option : SortOption}

/-- The sort can be used: each item of its expression makes up a mapping. -/
def IsUsable (option : SortOption) : Prop := ∀ x ∈ option.expression, ∃ m, x.toMapping = .ok m

/-- The mappings of an expression are those that its items make up, one by one. -/
theorem mappings_eq_ok_iff {ms : List Mapping} :
    option.mappings = .ok ms ↔ List.Forall₂ (fun x m => x.toMapping = .ok m) option.expression ms := by
  rw [mappings]
  generalize option.expression = xs
  induction xs generalizing ms with
  | nil => simp [pure, Except.pure, eq_comm]
  | cons x xs ih =>
    rw [List.mapM_cons, bind_eq_ok_iff, List.forall₂_cons_left_iff]
    refine exists_congr fun m => ?_
    rw [bind_eq_ok_iff, exists_and_left]
    simp only [ih]
    refine and_congr_right fun _ => exists_congr fun rest => and_congr_right fun _ => ?_
    exact eq_comm.trans (Except.ok.injEq ..).to_iff

/-- **A sort can be used exactly if its items make up mappings.** -/
theorem exists_mappings_iff : (∃ ms, option.mappings = .ok ms) ↔ option.IsUsable := by
  simp only [mappings_eq_ok_iff, IsUsable]
  generalize option.expression = xs
  induction xs with
  | nil => simp
  | cons x xs ih => simp [List.forall₂_cons_left_iff, ← ih]

/-- Mappings make up themselves. -/
theorem mappings_of_map {ms : List Mapping} (h : option.expression = ms.map .map) : option.mappings = .ok ms := by
  rw [mappings_eq_ok_iff, h, List.forall₂_map_left_iff]
  exact List.forall₂_same.mpr fun m _ => rfl

end SortOption

/-! ## Bodies -/

namespace SearchContext

variable {compiler : Compiler} {context : SearchContext}

/-- What stands under the sort of a body: nothing without a sort, else the mappings of its expression. -/
inductive SortsBy (context : SearchContext) : Option Value → Prop where
  | unsorted (unsorted : context.sort = none) : SortsBy context none
  | sorted {option : SortOption} {ms : List Mapping} (sorted : context.sort = some option)
    (usable : option.mappings = .ok ms) : SortsBy context (some (.list (ms.map .map)))

theorem SortsBy.unique {sort other : Option Value} (h : context.SortsBy sort) (h' : context.SortsBy other) :
    sort = other := by
  cases h with
  | unsorted unsorted =>
    cases h' with
    | unsorted => rfl
    | sorted sorted => cases unsorted.symm.trans sorted
  | sorted sorted usable =>
    cases h' with
    | unsorted unsorted => cases unsorted.symm.trans sorted
    | sorted sorted' usable' =>
      obtain rfl := Option.some.inj (sorted.symm.trans sorted')
      obtain rfl := Except.ok.inj (usable.symm.trans usable')
      rfl

theorem sortField_eq_ok_iff {fields : List (String × Value)} :
    context.sortField = .ok fields ↔
      ∃ sort, context.SortsBy sort ∧ fields = sort.toList.map fun v => ("sort", v) := by
  unfold sortField
  constructor
  · intro h
    split at h
    · next option hoption =>
      obtain ⟨ms, hms, rfl⟩ := map_eq_ok_iff.mp h
      exact ⟨_, .sorted hoption hms, rfl⟩
    · next hnone =>
      obtain rfl := Except.ok.inj h
      exact ⟨none, .unsorted hnone, rfl⟩
  · rintro ⟨_, hsort, rfl⟩
    cases hsort with
    | unsorted unsorted => simp [unsorted]
    | sorted sorted usable =>
      simp only [sorted, usable]
      rfl

/-- **A sort field can be made exactly if the sort can be used**, or there is none. -/
theorem exists_sortsBy_iff :
    (∃ sort, context.SortsBy sort) ↔ ∀ option ∈ context.sort, option.IsUsable := by
  constructor
  · rintro ⟨_, hsort⟩ option hoption
    cases hsort with
    | unsorted unsorted =>
      rw [unsorted] at hoption
      cases hoption
    | sorted sorted usable =>
      obtain rfl := Option.some.inj (sorted.symm.trans hoption)
      exact SortOption.exists_mappings_iff.mp ⟨_, usable⟩
  · intro h
    cases hsort : context.sort with
    | none => exact ⟨_, .unsorted hsort⟩
    | some option =>
      obtain ⟨ms, hms⟩ := SortOption.exists_mappings_iff.mpr (h option hsort)
      exact ⟨_, .sorted hsort hms⟩

section

variable {α β : Type} {x : Except Fault α} {f : α → List (String × Value) → β}

/-- What is made of a first part and the sort field. -/
theorem bind_sortField_eq_ok_iff {b : β} :
    (x >>= fun a => context.sortField >>= fun fields => pure (f a fields)) = .ok b ↔
      ∃ a sort, x = .ok a ∧ context.SortsBy sort ∧ b = f a (sort.toList.map fun v => ("sort", v)) := by
  rw [bind_eq_ok_iff]
  refine exists_congr fun a => ?_
  rw [exists_and_left]
  refine and_congr_right fun _ => bind_eq_ok_iff.trans ?_
  simp only [sortField_eq_ok_iff]
  constructor
  · rintro ⟨_, ⟨sort, hsort, rfl⟩, h⟩
    exact ⟨sort, hsort, (Except.ok.inj h).symm⟩
  · rintro ⟨sort, hsort, rfl⟩
    exact ⟨_, ⟨sort, hsort, rfl⟩, rfl⟩

theorem exists_bind_sortField_iff :
    (∃ b, (x >>= fun a => context.sortField >>= fun fields => pure (f a fields)) = .ok b) ↔
      (∃ a, x = .ok a) ∧ ∀ option ∈ context.sort, option.IsUsable := by
  rw [← exists_sortsBy_iff]
  simp only [bind_sortField_eq_ok_iff]
  constructor
  · rintro ⟨_, a, sort, ha, hsort, -⟩
    exact ⟨⟨a, ha⟩, sort, hsort⟩
  · rintro ⟨⟨a, ha⟩, sort, hsort⟩
    exact ⟨_, a, sort, ha, hsort, rfl⟩

theorem bind_sortField_eq_error_iff {fault : Fault} :
    (x >>= fun a => context.sortField >>= fun fields => pure (f a fields)) = .error fault ↔
      x = .error fault ∨ (∃ a, x = .ok a) ∧ context.sortField = .error fault := by
  rw [bind_eq_error_iff]
  simp only [bind_pure_eq_error_iff, exists_and_right]

end

/-- **The body of a search is made of the window, the compiled query, the sort and the highlighting.** -/
theorem searchBody_eq_ok_iff {start size : Int} {body : Value} :
    context.searchBody compiler start size = .ok body ↔
      ∃ query sort, compiler.compile context.filters none = .ok query ∧ context.SortsBy sort ∧
        body = .object ([("size", .int size), ("from", .int start), ("query", query.toValue)] ++
          sort.toList.map (fun v => ("sort", v)) ++
          [("track_total_hits", .bool true), ("highlight", highlight context.filters)]) :=
  bind_sortField_eq_ok_iff

/-- **The body of an export is made of the compiled query and the sort.** -/
theorem exportBody_eq_ok_iff {body : Value} :
    context.exportBody compiler = .ok body ↔
      ∃ query sort, compiler.compile context.filters none = .ok query ∧ context.SortsBy sort ∧
        body = .object ([("query", query.toValue)] ++ sort.toList.map fun v => ("sort", v)) :=
  bind_sortField_eq_ok_iff

/-- **A body fails for the filters first, and then for the sort**, that of a search as that of an export. -/
theorem exportBody_eq_error_iff {fault : Fault} :
    context.exportBody compiler = .error fault ↔ compiler.compile context.filters none = .error fault ∨
      (∃ query, compiler.compile context.filters none = .ok query) ∧ context.sortField = .error fault :=
  bind_sortField_eq_error_iff

theorem searchBody_eq_error_iff {start size : Int} {fault : Fault} :
    context.searchBody compiler start size = .error fault ↔ context.exportBody compiler = .error fault :=
  bind_sortField_eq_error_iff.trans exportBody_eq_error_iff.symm

end SearchContext

end Faceted
