import Faceted.Proofs.Entries
import Faceted.Value.Merge

/-!
# What the layers of settings hold

A layer of settings says something about a path of keys, or it leaves the path alone: going along it
passes through mappings only, until a key is missing. The merge of all layers has a value at a path exactly
if some layer has it there and every later one leaves the path alone (`found_in_layers_iff`).

* One key: what the merge of two mappings holds under a key is the upper value over the lower one
  (`get?_merge`).
* A path: by induction on it, an upper value over a lower one has what the upper one has, and what the
  lower one has where the upper one leaves the path alone (`at?_mergeValue`).
* All layers: by induction on them, each merged over the ones before it (`at?_foldl_merge_iff`).

Keys are told apart by the entry that they name, so the induction on a mapping needs that no two of its
keys name the same.
-/

namespace Faceted

/-! ## Values at paths -/

mutual

/-- No mapping in the value has two keys that name the same entry. Only what is reached through mappings
is looked at, since nothing else is merged. -/
def Value.HasDistinctKeys : Value → Prop
  | .map m => Mapping.HasDistinctKeys m
  | _ => True

/-- No two keys name the same entry, and so on in the values. -/
def Mapping.HasDistinctKeys : List (Key × Value) → Prop
  | [] => True
  | (k, v) :: m => Entries.get? k m = none ∧ v.HasDistinctKeys ∧ Mapping.HasDistinctKeys m

end

namespace Value

/-- The value leaves the path alone: going along it passes through mappings only, until a key is
missing. -/
def Spares : List Key → Value → Prop
  | k :: path, .map m => ∀ v ∈ Entries.get? k m, Spares path v
  | _, _ => False

/-- Where a path goes on, what is no mapping has nothing and leaves nothing alone. -/
theorem not_spares_of_not_mapping {v : Value} (h : v.mapping? = none) (path : List Key) :
    ¬Spares path v := by
  intro hs
  cases path with
  | nil => exact hs
  | cons k path =>
    cases v with
    | map m => cases h
    | _ => exact hs

/-- Of what is no mapping there is nothing at a path that another value leaves alone, since such a path
has a key. -/
theorem at?_eq_none_of_not_mapping {v w : Value} (h : v.mapping? = none) {path : List Key}
    (hs : Spares path w) : at? path v = none := by
  cases path with
  | nil => exact absurd hs (by simp [Spares])
  | cons k path =>
    cases v with
    | map m => cases h
    | _ => rfl

end Value

namespace Mapping

open Value

/-! ## One key -/

/-- **Under each key stands the upper value over the lower one.** -/
theorem get?_merge {upper : Mapping} (h : HasDistinctKeys upper) (base : Mapping) (k : Key) :
    Entries.get? k (merge base upper)
      = ((Entries.get? k upper).map (mergeValue (Entries.get? k base))).or (Entries.get? k base) := by
  induction upper generalizing base with
  | nil => rfl
  | cons e upper ih =>
    obtain ⟨l, v⟩ := e
    obtain ⟨hl, -, hupper⟩ := h
    rw [merge, ih hupper, Entries.get?]
    by_cases hk : Key.same k l = true
    · -- no later entry is named by the key, so that what has been put under it stays
      rw [if_pos hk, Entries.get?_congr hk upper, hl, Entries.get?_put_of_same hk,
        Entries.get?_congr hk base]
      rfl
    · rw [if_neg hk, Entries.get?_put_of_not_same hk]

theorem hasDistinctKeys_of_get? {m : Mapping} (h : HasDistinctKeys m) {k : Key} {v : Value}
    (hv : Entries.get? k m = some v) : v.HasDistinctKeys := by
  induction m with
  | nil => cases hv
  | cons e m ih =>
    obtain ⟨-, he, hm⟩ := h
    rw [Entries.get?] at hv
    split at hv
    · obtain rfl := Option.some.inj hv
      exact he
    · exact ih hm hv

/-! ## A path -/

/-- Two mappings are merged; anything else is replaced. -/
theorem mergeValue_cases (lower : Option Value) (upper : Value) :
    (∃ base entries, lower = some (.map base) ∧ upper = .map entries ∧
      mergeValue lower upper = .map (merge base entries)) ∨
    (mergeValue lower upper = upper ∧ ∀ w ∈ lower, w.mapping? = none ∨ upper.mapping? = none) := by
  cases upper with
  | map entries =>
    match lower with
    | some (.map base) => exact Or.inl ⟨base, entries, rfl, rfl, by rw [mergeValue]⟩
    | none => exact Or.inr ⟨by simp [mergeValue], by simp⟩
    | some (.scalar _) | some (.list _) | some (.tuple _) | some (.set _) | some (.years _ _)
    | some .endless => exact Or.inr ⟨by simp [mergeValue], by simp [mapping?]⟩
  | _ => exact Or.inr ⟨by simp [mergeValue], fun _ _ => Or.inr rfl⟩

/-- An upper value over a lower one has at a path what the upper one has there, and what the lower one
has where the upper one leaves the path alone. -/
theorem at?_mergeValue {x : Value} (hx : x.mapping? = none) (path : List Key) (lower : Option Value)
    (upper : Value) (h : upper.HasDistinctKeys) :
    at? path (mergeValue lower upper) = some x ↔
      at? path upper = some x ∨ lower.bind (at? path) = some x ∧ Spares path upper := by
  induction path generalizing lower upper with
  | nil =>
    rcases mergeValue_cases lower upper with ⟨base, entries, rfl, rfl, heq⟩ | ⟨heq, -⟩
    · -- a mapping is not the value that is looked for
      have hne : ∀ m : Mapping, Value.map m ≠ x := by
        rintro m rfl
        cases hx
      simp [heq, at?, Spares, hne]
    · simp [heq, Spares]
  | cons k path ih =>
    rcases mergeValue_cases lower upper with ⟨base, entries, rfl, rfl, heq⟩ | ⟨heq, halone⟩
    · rw [heq, at?, at?, get?_merge h, Option.bind_some, at?, Spares]
      cases hk : Entries.get? k entries with
      | none => simp
      | some v =>
        simpa using ih (Entries.get? k base) v (hasDistinctKeys_of_get? h hk)
    · rw [heq]
      refine ⟨Or.inl, ?_⟩
      rintro (hupper | ⟨hlower, hs⟩)
      · exact hupper
      · -- what is left of the lower value is none of the path
        obtain ⟨w, hw, hat⟩ := Option.bind_eq_some_iff.mp hlower
        rcases halone w hw with hmap | hmap
        · rw [at?_eq_none_of_not_mapping hmap hs] at hat
          cases hat
        · exact absurd hs (not_spares_of_not_mapping hmap _)

theorem at?_merge {x : Value} (hx : x.mapping? = none) {base upper : Mapping}
    (h : HasDistinctKeys upper) (path : List Key) :
    at? path (.map (merge base upper)) = some x ↔
      at? path (.map upper) = some x ∨
        at? path (.map base) = some x ∧ Spares path (.map upper) := by
  have hmerge : mergeValue (some (.map base)) (.map upper) = .map (merge base upper) := by rw [mergeValue]
  rw [← hmerge]
  exact at?_mergeValue hx path (some (.map base)) (.map upper) h

/-! ## All layers -/

/-- The layer at one place of several has the value at the path, and every later one leaves the path
alone. -/
def FoundIn (layers : List Mapping) (path : List Key) (x : Value) : Prop :=
  ∃ lower layer upper, layers = lower ++ layer :: upper ∧ at? path (.map layer) = some x ∧
    ∀ above ∈ upper, Spares path (.map above)

theorem foundIn_cons_iff {layer : Mapping} {layers : List Mapping} {path : List Key} {x : Value} :
    FoundIn (layer :: layers) path x ↔
      (at? path (.map layer) = some x ∧ ∀ above ∈ layers, Spares path (.map above)) ∨
        FoundIn layers path x := by
  constructor
  · rintro ⟨lower, found, upper, heq, hat, hs⟩
    cases lower with
    | nil =>
      obtain ⟨rfl, rfl⟩ := List.cons.inj heq
      exact Or.inl ⟨hat, hs⟩
    | cons first lower =>
      obtain ⟨rfl, rfl⟩ := List.cons.inj heq
      exact Or.inr ⟨lower, found, upper, rfl, hat, hs⟩
  · rintro (⟨hat, hs⟩ | ⟨lower, found, upper, rfl, hat, hs⟩)
    · exact ⟨[], layer, layers, rfl, hat, hs⟩
    · exact ⟨layer :: lower, found, upper, rfl, hat, hs⟩

/-- Layers over a mapping have at a path what one of them has, or what the mapping has if all of them
leave the path alone. -/
theorem at?_foldl_merge_iff {x : Value} (hx : x.mapping? = none) {path : List Key}
    {layers : List Mapping} (h : ∀ layer ∈ layers, HasDistinctKeys layer) (base : Mapping) :
    at? path (.map (layers.foldl merge base)) = some x ↔ FoundIn (base :: layers) path x := by
  induction layers generalizing base with
  | nil =>
    have hnone : ¬FoundIn [] path x := by simp [FoundIn]
    simp [foundIn_cons_iff, hnone]
  | cons layer layers ih =>
    obtain ⟨hlayer, hlayers⟩ := List.forall_mem_cons.mp h
    rw [List.foldl_cons, ih hlayers, foundIn_cons_iff, at?_merge hx hlayer, foundIn_cons_iff,
      foundIn_cons_iff, List.forall_mem_cons, or_and_right, and_assoc, or_assoc, or_left_comm]

/-! ## Layers that end -/

theorem entriesEndless_put {m : Mapping} (h : entriesEndless m = false) (k : Key) {v : Value}
    (hv : v.isEndless = false) : entriesEndless (Entries.put k v m) = false := by
  induction m with
  | nil => simp [Entries.put, entriesEndless, hv]
  | cons e m ih =>
    obtain ⟨l, w⟩ := e
    obtain ⟨hw, hm⟩ := Bool.or_eq_false_iff.mp (by rwa [entriesEndless] at h)
    rw [Entries.put]
    split
    · simp [entriesEndless, hv, hm]
    · simp [entriesEndless, hw, ih hm]

mutual

/-- A value that ends over one that ends comes to an end, and is one that ends. -/
theorem mergeValue_ends (lower : Option Value) (hlower : ∀ w ∈ lower, w.isEndless = false) :
    ∀ upper : Value, upper.isEndless = false →
      valueClashes lower upper = false ∧ (mergeValue lower upper).isEndless = false
  | .map entries, h => by
    match lower with
    | some (.map base) =>
      rw [valueClashes, mergeValue, isEndless]
      exact merge_ends base (by simpa [isEndless] using hlower) entries (by rwa [isEndless] at h)
    | some .endless => simp [isEndless] at hlower
    | none | some (.scalar _) | some (.list _) | some (.tuple _) | some (.set _) | some (.years _ _) =>
      simpa [valueClashes, mergeValue] using h
  | .scalar _, h | .list _, h | .tuple _, h | .set _, h | .years _ _, h => by
    simpa [valueClashes, mergeValue] using h
  | .endless, h => by simp [isEndless] at h

/-- A mapping that ends over one that ends comes to an end, and is one that ends. -/
theorem merge_ends (base : Mapping) (hbase : entriesEndless base = false) :
    ∀ upper : List (Key × Value), entriesEndless upper = false →
      clashes base upper = false ∧ entriesEndless (merge base upper) = false
  | [], _ => ⟨by rw [clashes], by rwa [merge]⟩
  | (k, v) :: upper, h => by
    obtain ⟨hv, hupper⟩ := Bool.or_eq_false_iff.mp (by rwa [entriesEndless] at h)
    obtain ⟨hclash, hvalue⟩ := mergeValue_ends (Entries.get? k base)
      (fun w hw => Entries.isEndless_of_get? hbase hw) v hv
    have hput := entriesEndless_put hbase k hvalue
    rw [clashes, merge, hclash, Bool.false_or]
    exact ⟨(merge_ends base hbase upper hupper).1, (merge_ends _ hput upper hupper).2⟩

end

/-- **Layers that end are read.** -/
theorem mergeRead_eq_ok {layers : List Mapping} (h : ∀ layer ∈ layers, entriesEndless layer = false) :
    mergeRead layers = .ok (mergeAll layers) := by
  have hfold : ∀ (layers : List Mapping) (base : Mapping), entriesEndless base = false →
      (∀ layer ∈ layers, entriesEndless layer = false) →
      layers.foldlM (fun base upper => if clashes base upper then .error .endless
        else .ok (merge base upper)) base = (.ok (layers.foldl merge base) : Except Fault Mapping) := by
    intro layers
    induction layers with
    | nil => exact fun _ _ _ => rfl
    | cons layer layers ih =>
      intro base hbase h
      obtain ⟨hlayer, hlayers⟩ := List.forall_mem_cons.mp h
      obtain ⟨hclash, hmerge⟩ := merge_ends base hbase layer hlayer
      rw [List.foldlM_cons, hclash]
      exact ih (merge base layer) hmerge hlayers
  exact hfold layers [] rfl h

/--
**The last layer that says anything about a path decides what stands there.**

Layers that end are read. A value that is no mapping stands at a path of their merge exactly if one of
the layers has it there and every later one leaves the path alone: going along it passes through mappings
only, until a key is missing.
-/
theorem found_in_layers_iff {layers : List Mapping} (hkeys : ∀ layer ∈ layers, HasDistinctKeys layer) :
    ((∀ layer ∈ layers, entriesEndless layer = false) → mergeRead layers = .ok (mergeAll layers)) ∧
    ∀ (path : List Key) (x : Value), x.mapping? = none →
      (at? path (.map (mergeAll layers)) = some x ↔
        ∃ lower layer upper, layers = lower ++ layer :: upper ∧ at? path (.map layer) = some x ∧
          ∀ above ∈ upper, Spares path (.map above)) := by
  refine ⟨mergeRead_eq_ok, ?_⟩
  intro path x hx
  -- the empty mapping that merging starts from has nothing at any path
  have hempty : at? path (.map []) ≠ some x := by
    cases path with
    | nil =>
      rintro ⟨⟩
      cases hx
    | cons k path => simp [at?, Entries.get?]
  rw [mergeAll, at?_foldl_merge_iff hx hkeys, foundIn_cons_iff]
  exact or_iff_right fun h => hempty h.1

/-- A middle layer that has nothing but null under `backend` takes away what the lowest one has in it;
what the last layer has there is kept. -/
theorem found_in_layers_iff_replaced :
    let lowest : Mapping := [(.str "backend", .object [("index", .str "a"), ("timeout", .int 5)]),
      (.str "log", .object [("level", .str "debug")])]
    let middle : Mapping := [(.str "backend", .null)]
    let last : Mapping := [(.str "backend", .object [("index", .str "b")]),
      (.str "log", .object [("dir", .str "log")])]
    let merged := mergeAll [lowest, middle, last]
    mergeRead [lowest, middle, last] = .ok merged ∧
      at? [.str "backend", .str "index"] (.map merged) = some (.str "b") ∧
      at? [.str "backend", .str "timeout"] (.map merged) = none ∧
      at? [.str "log", .str "level"] (.map merged) = some (.str "debug") := by
  intro lowest middle last merged
  have hkeys : ∀ layer ∈ [lowest, middle, last], HasDistinctKeys layer := by
    have hnot : Key.same (.str "index") (.str "timeout") = false := by decide
    have hnot' : Key.same (.str "backend") (.str "log") = false := by decide
    simp [lowest, middle, last, HasDistinctKeys, Value.HasDistinctKeys, object, Entries.get?, Value.str,
      Value.int, Value.null, hnot, hnot']
  obtain ⟨hread, hfound⟩ := found_in_layers_iff hkeys
  have hspares : ∀ above ∈ [middle, last], Spares [.str "log", .str "level"] (.map above) := by
    have hmiddle : Entries.get? (.str "log") middle = none := rfl
    have hlast : Entries.get? (.str "log") last = some (.object [("dir", .str "log")]) := rfl
    have hlevel : Entries.get? (.str "level") [(Key.str "dir", Value.str "log")] = none := rfl
    simp [Spares, hmiddle, hlast, object, hlevel]
  exact ⟨hread (by decide),
    (hfound _ _ rfl).mpr ⟨[lowest, middle], last, [], rfl, rfl, by simp⟩, rfl,
    (hfound _ _ rfl).mpr ⟨[], lowest, [middle, last], rfl, rfl, hspares⟩⟩

end Mapping

end Faceted
