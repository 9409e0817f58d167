import Faceted.Fault
import Faceted.Value

/-!
# Layers of settings

A layer is laid over another: where both have a mapping under a key the two are merged, anywhere
else the upper value replaces the lower one. Keys of the lower layer keep their places. Two mappings that
both hold themselves under the same keys would have to be merged without an end.

## Termination

All functions recurse on the upper layer.
-/

namespace Faceted.Mapping

mutual

/-- An upper value over the lower one, if there is a lower one. -/
def mergeValue (lower : Option Value) : Value → Value
  | .map upper =>
    match lower with
    | some (.map base) => .map (merge base upper)
    | _ => .map upper
  | v => v

/-- The upper entries over the lower mapping. -/
def merge (base : Mapping) : List (Key × Value) → Mapping
  | [] => base
  | (k, v) :: upper =>
    merge (Entries.put k (mergeValue (Entries.get? k base) v) base) upper

end

/-- All layers, each over the ones before it. -/
def mergeAll (layers : List Mapping) : Mapping := layers.foldl merge []

/-! ## Layers that hold themselves -/

mutual

/-- Merging an upper value over the lower one, if there is a lower one, comes to where both go on
without an end. -/
def valueClashes (lower : Option Value) : Value → Bool
  | .map upper =>
    match lower with
    | some (.map base) => clashes base upper
    | some .endless => true
    | _ => false
  | .endless => match lower with
    | some (.map _) | some .endless => true
    | _ => false
  | _ => false

/-- Merging the upper entries over the lower mapping comes to where both go on without an end. -/
def clashes (base : Mapping) : List (Key × Value) → Bool
  | [] => false
  | (k, v) :: upper => valueClashes (Entries.get? k base) v || clashes base upper

end

/-- All layers that have been read, each over the ones before it. -/
def mergeRead (layers : List Mapping) : Except Fault Mapping :=
  layers.foldlM (fun base upper =>
    if clashes base upper then .error .endless else .ok (merge base upper)) []

theorem foldlM_merge_eq {layers : List Mapping} {base m : Mapping}
    (h : layers.foldlM (fun base upper =>
      if clashes base upper then .error .endless else .ok (merge base upper)) base
        = (.ok m : Except Fault Mapping)) : m = layers.foldl merge base := by
  induction layers generalizing base with
  | nil => exact (Except.ok.inj h).symm
  | cons upper layers ih =>
    rw [List.foldlM_cons] at h
    by_cases hc : clashes base upper
    · simp [hc, bind, Except.bind] at h
    · simp only [hc, bind, Except.bind] at h
      exact ih h

/-- Where reading layers gives a mapping, it is the merge of all. -/
theorem eq_mergeAll_of_mergeRead {layers : List Mapping} {m : Mapping}
    (h : mergeRead layers = .ok m) : m = mergeAll layers := foldlM_merge_eq h

end Faceted.Mapping
