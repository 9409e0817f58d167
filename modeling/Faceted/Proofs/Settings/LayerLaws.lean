import Faceted.Proofs.Settings.Layers

/-!
# Laws of laying one layer over another

Mappings are equal here when they have equal keys in the same order, and equal values under them.

* The keys of a merge are those of the lower mapping, then those of the upper one that the lower one has not
  (`keys_merge`).
* Under each key stands the upper value over the lower one: `overlay` lifts this to values that may be absent
  (`get?_merge_eq_overlay`).
* Keys in order and the values under them determine a mapping (`eq_of_get?`). So each law of merging comes from
  the same law of `overlay`, by induction on the upper value, whose parts stand under the keys.

Laying layers is associative only where they agree on what is a mapping: a value in the middle that is none would
cut off the lowest layer if it was laid first, and be lost otherwise.
-/

namespace Faceted

namespace Mapping

open Value Entries

/-! ## Keys in order -/

/-- **Keys in order and the values under them determine a mapping.** -/
theorem eq_of_get? {m n : Mapping} (hm : HasDistinctKeys m) (hkeys : keys m = keys n)
    (h : ∀ k, get? k m = get? k n) : m = n := by
  induction m generalizing n with
  | nil => exact (List.map_eq_nil_iff.mp hkeys.symm).symm
  | cons e m ih =>
    obtain ⟨k, v⟩ := e
    obtain ⟨hfirst, -, hm⟩ := hm
    cases n with
    | nil => cases hkeys
    | cons f n =>
      obtain ⟨l, w⟩ := f
      obtain ⟨rfl, hrest⟩ : k = l ∧ keys m = keys n := List.cons.inj hkeys
      have hself : Key.same k k = true := Key.same_iff.mpr rfl
      have hvalue : v = w := by simpa [get?, hself] using h k
      rw [hvalue, ih hm hrest]
      intro l
      by_cases hl : Key.same l k = true
      · -- the first key names this entry only, so that neither rest has it
        have hsecond : get? k n = none := lacks_iff.mpr (hrest ▸ lacks_iff.mp hfirst)
        rw [get?_congr hl m, get?_congr hl n, hfirst, hsecond]
      · simpa [get?, hl] using h l

/-- **The keys of a merge are those of the lower mapping, then those that only the upper one has.** -/
theorem keys_merge {upper : Mapping} (h : HasDistinctKeys upper) (base : Mapping) :
    keys (merge base upper) = keys base ++ (keys upper).filter (Lacks base ·) := by
  induction upper generalizing base with
  | nil => simp [merge, keys]
  | cons e upper ih =>
    obtain ⟨k, v⟩ := e
    obtain ⟨hfirst, -, hupper⟩ := h
    have hrest : (keys upper).filter (Lacks (put k (mergeValue (get? k base) v) base) ·)
        = (keys upper).filter (Lacks base ·) := by
      refine List.filter_congr fun l hl => ?_
      have hne : ¬Key.same l k = true := by
        rw [Key.same_comm]
        exact lacks_iff.mp hfirst l hl
      simp [lacks_put_iff, hne]
    rw [merge, ih hupper, hrest, keys_put, List.append_assoc]
    by_cases hk : Lacks base k <;> simp [hk, keys]

/-! ## Merging keeps keys apart -/

theorem hasDistinctKeys_put {m : Mapping} (h : HasDistinctKeys m) (k : Key) {v : Value}
    (hv : v.HasDistinctKeys) : HasDistinctKeys (put k v m) := by
  induction m with
  | nil => exact ⟨rfl, hv, trivial⟩
  | cons e m ih =>
    obtain ⟨l, w⟩ := e
    obtain ⟨hfirst, hw, hm⟩ := h
    rw [put]
    split
    · exact ⟨hfirst, hv, hm⟩
    · next hk =>
      refine ⟨?_, hw, ih hm⟩
      rw [get?_put_of_not_same (by rwa [Key.same_comm]), hfirst]

mutual

theorem hasDistinctKeys_mergeValue (lower : Option Value) (hlower : ∀ w ∈ lower, w.HasDistinctKeys) :
    ∀ upper : Value, upper.HasDistinctKeys → (mergeValue lower upper).HasDistinctKeys
  | .map entries, h => by
    match lower with
    | some (.map base) =>
      rw [mergeValue]
      exact hasDistinctKeys_merge base (by simpa [Value.HasDistinctKeys] using hlower) entries h
    | none | some (.scalar _) | some (.list _) | some (.tuple _) | some (.set _) | some (.years _ _)
    | some .endless => simpa [mergeValue] using h
  | .scalar _, h | .list _, h | .tuple _, h | .set _, h | .years _ _, h | .endless, h => by
    simpa [mergeValue] using h

theorem hasDistinctKeys_merge (base : Mapping) (hbase : HasDistinctKeys base) :
    ∀ upper : List (Key × Value), HasDistinctKeys upper → HasDistinctKeys (merge base upper)
  | [], _ => by rwa [merge]
  | (k, v) :: upper, h => by
    obtain ⟨-, hv, hupper⟩ := h
    have hvalue := hasDistinctKeys_mergeValue (get? k base)
      (fun w hw => hasDistinctKeys_of_get? hbase hw) v hv
    rw [merge]
    exact hasDistinctKeys_merge _ (hasDistinctKeys_put hbase k hvalue) upper hupper

end

/-! ## What stands under a key -/

/-- What is found of an upper value that may be absent over a lower one that may be absent. -/
def overlay (lower upper : Option Value) : Option Value := (upper.map (mergeValue lower)).or lower

theorem get?_merge_eq_overlay {upper : Mapping} (h : HasDistinctKeys upper) (base : Mapping) (k : Key) :
    get? k (merge base upper) = overlay (get? k base) (get? k upper) := get?_merge h base k

theorem mergeValue_none (v : Value) : mergeValue none v = v := by
  cases v <;> simp [mergeValue]

theorem overlay_none_left (upper : Option Value) : overlay none upper = upper := by
  cases upper with
  | none => rfl
  | some v => rw [overlay, Option.map_some, mergeValue_none, Option.or_none]

theorem overlay_none_right (lower : Option Value) : overlay lower none = lower := rfl

theorem lacks_merge_iff {upper : Mapping} (h : HasDistinctKeys upper) (base : Mapping) (k : Key) :
    Lacks (merge base upper) k ↔ Lacks base k ∧ Lacks upper k := by
  rw [Lacks, get?_merge_eq_overlay h, overlay, Option.or_eq_none_iff, Option.map_eq_none_iff, and_comm]
  rfl

/-! ## The empty layer -/

theorem merge_nil_left {m : Mapping} (h : HasDistinctKeys m) : merge [] m = m := by
  refine eq_of_get? (hasDistinctKeys_merge [] trivial m h) ?_ fun k => ?_
  · rw [keys_merge h]
    simp [keys, Lacks, get?]
  · rw [get?_merge_eq_overlay h, get?, overlay_none_left]

theorem merge_nil_right (m : Mapping) : merge m [] = m := by rw [merge]

/-! ## A layer laid twice -/

/-- Of a layer that is laid twice, the second one changes nothing, if so it is with the values in it. -/
theorem merge_absorb_of_values {base upper : Mapping} (hbase : HasDistinctKeys base)
    (hupper : HasDistinctKeys upper)
    (h : ∀ e ∈ upper, ∀ lower, (∀ w ∈ lower, w.HasDistinctKeys) →
      mergeValue (some (mergeValue lower e.2)) e.2 = mergeValue lower e.2) :
    merge (merge base upper) upper = merge base upper := by
  have hmerge := hasDistinctKeys_merge base hbase upper hupper
  refine eq_of_get? (hasDistinctKeys_merge _ hmerge upper hupper) ?_ fun k => ?_
  · -- every key of the upper mapping is one of the merge
    have hnone : (keys upper).filter (Lacks (merge base upper) ·) = [] := by
      refine List.filter_eq_nil_iff.mpr fun k hk => ?_
      simp [lacks_merge_iff hupper, not_lacks_of_mem_keys hk]
    rw [keys_merge hupper, hnone, List.append_nil]
  · rw [get?_merge_eq_overlay hupper, get?_merge_eq_overlay hupper]
    cases hk : get? k upper with
    | none => rfl
    | some v =>
      obtain ⟨e, he, -, rfl⟩ := exists_same_of_get? hk
      simp [overlay, h e he (get? k base) fun w hw => hasDistinctKeys_of_get? hbase hw]

mutual

/-- Of a value that is laid twice over another, the second one changes nothing. -/
theorem mergeValue_absorb (lower : Option Value) (hlower : ∀ w ∈ lower, w.HasDistinctKeys) :
    ∀ v : Value, v.HasDistinctKeys → mergeValue (some (mergeValue lower v)) v = mergeValue lower v
  | .map m, h => by
    have hvalues := mergeValue_absorb_entries m h
    match lower with
    | some (.map base) =>
      have hbase : HasDistinctKeys base := by simpa [Value.HasDistinctKeys] using hlower
      rw [mergeValue, mergeValue, merge_absorb_of_values hbase h hvalues]
    | none | some (.scalar _) | some (.list _) | some (.tuple _) | some (.set _) | some (.years _ _)
    | some .endless =>
      -- nothing is left of the lower value, so that the mapping is laid over itself
      have hself : merge (merge [] m) m = merge [] m := merge_absorb_of_values trivial h hvalues
      rw [merge_nil_left h] at hself
      simp only [mergeValue, hself]
  | .scalar _, _ | .list _, _ | .tuple _, _ | .set _, _ | .years _ _, _ | .endless, _ => by
    simp [mergeValue]

theorem mergeValue_absorb_entries :
    ∀ m : List (Key × Value), HasDistinctKeys m → ∀ e ∈ m, ∀ lower : Option Value,
      (∀ w ∈ lower, w.HasDistinctKeys) →
        mergeValue (some (mergeValue lower e.2)) e.2 = mergeValue lower e.2
  | [], _ => by simp
  | (k, v) :: m, h => by
    obtain ⟨-, hv, hm⟩ := h
    refine List.forall_mem_cons.mpr ⟨fun lower hlower => ?_, mergeValue_absorb_entries m hm⟩
    exact mergeValue_absorb lower hlower v hv

end

/-- **A layer that is laid twice changes nothing the second time.** -/
theorem merge_absorb {base upper : Mapping} (hbase : HasDistinctKeys base)
    (hupper : HasDistinctKeys upper) : merge (merge base upper) upper = merge base upper :=
  merge_absorb_of_values hbase hupper (mergeValue_absorb_entries upper hupper)

/-- A layer over itself changes nothing. -/
theorem merge_self {m : Mapping} (h : HasDistinctKeys m) : merge m m = m := by
  have habsorb : merge (merge [] m) m = merge [] m := merge_absorb trivial h
  rwa [merge_nil_left h] at habsorb

end Mapping

/-! ## Three layers -/

/-- No path leads to a mapping in one of the values and to something else in the other. -/
def Value.Agree (v w : Value) : Prop :=
  ∀ path x y, at? path v = some x → at? path w = some y → (x.mapping? = none ↔ y.mapping? = none)

namespace Value

/-- What agrees with a mapping is one. -/
theorem Agree.exists_map {v : Value} {m : Mapping} (h : Agree v (.map m)) : ∃ n, v = .map n := by
  have hiff : v.mapping? = none ↔ (map m).mapping? = none := h [] v (.map m) rfl rfl
  cases v with
  | map n => exact ⟨n, rfl⟩
  | _ => cases hiff.mp rfl

/-- What stands under a key in mappings that agree agrees. -/
theorem Agree.get {m n : Mapping} (h : Agree (.map m) (.map n)) {k : Key} {v w : Value}
    (hv : Entries.get? k m = some v) (hw : Entries.get? k n = some w) : Agree v w := by
  intro path x y hx hy
  refine h (k :: path) x y ?_ ?_
  · rw [at?, hv, Option.bind_some, hx]
  · rw [at?, hw, Option.bind_some, hy]

theorem agree_of_not_mapping {v w : Value} (hv : v.mapping? = none) (hw : w.mapping? = none) :
    Agree v w := by
  intro path x y hx hy
  cases path with
  | nil =>
    obtain rfl := Option.some.inj hx
    obtain rfl := Option.some.inj hy
    exact iff_of_true hv hw
  | cons k path =>
    cases v with
    | map m => cases hv
    | _ => cases hx

/-- Mappings agree if their values under one key do. -/
theorem agree_map {m n : Mapping} (h : ∀ e ∈ m, ∀ w ∈ Entries.get? e.1 n, Agree e.2 w) :
    Agree (.map m) (.map n) := by
  intro path x y hx hy
  cases path with
  | nil =>
    obtain rfl := Option.some.inj hx
    obtain rfl := Option.some.inj hy
    simp [mapping?]
  | cons k path =>
    obtain ⟨v, hv, hx⟩ := Option.bind_eq_some_iff.mp hx
    obtain ⟨w, hw, hy⟩ := Option.bind_eq_some_iff.mp hy
    obtain ⟨e, he, hsame, rfl⟩ := Entries.exists_same_of_get? hv
    rw [Entries.get?_congr hsame] at hw
    exact h e he w hw path x y hx hy

end Value

namespace Mapping

open Value Entries

/-- Laying three values over each other is associative if it is where all three are there. -/
theorem overlay_assoc {x y z : Option Value}
    (h : ∀ u ∈ x, ∀ v ∈ y, ∀ w ∈ z,
      mergeValue (some (mergeValue (some u) v)) w = mergeValue (some u) (mergeValue (some v) w)) :
    overlay (overlay x y) z = overlay x (overlay y z) := by
  cases x with
  | none => rw [overlay_none_left, overlay_none_left]
  | some u =>
    cases y with
    | none => rw [overlay_none_right, overlay_none_left]
    | some v =>
      cases z with
      | none => rfl
      | some w => simpa [overlay] using h u rfl v rfl w rfl

/-- Laying three mappings over each other is associative if it is with the values in them. -/
theorem merge_assoc_of_values {a b c : Mapping} (ha : HasDistinctKeys a) (hb : HasDistinctKeys b)
    (hc : HasDistinctKeys c)
    (h : ∀ k, ∀ u ∈ get? k a, ∀ v ∈ get? k b, ∀ w ∈ get? k c,
      mergeValue (some (mergeValue (some u) v)) w = mergeValue (some u) (mergeValue (some v) w)) :
    merge (merge a b) c = merge a (merge b c) := by
  have hab := hasDistinctKeys_merge a ha b hb
  have hbc := hasDistinctKeys_merge b hb c hc
  refine eq_of_get? (hasDistinctKeys_merge _ hab c hc) ?_ fun k => ?_
  · rw [keys_merge hc, keys_merge hb, keys_merge hbc, keys_merge hc, List.filter_append,
      List.append_assoc, List.filter_filter]
    simp only [lacks_merge_iff hb, Bool.decide_and]
  · simp only [get?_merge_eq_overlay hbc, get?_merge_eq_overlay hc, get?_merge_eq_overlay hb]
    exact overlay_assoc (h k)

mutual

theorem mergeValue_assoc {u v : Value} (hu : u.HasDistinctKeys) (hv : v.HasDistinctKeys)
    (huv : Agree u v) : ∀ w : Value, w.HasDistinctKeys → Agree u w → Agree v w →
      mergeValue (some (mergeValue (some u) v)) w = mergeValue (some u) (mergeValue (some v) w)
  | .map c, hc, huw, hvw => by
    obtain ⟨a, rfl⟩ := huw.exists_map
    obtain ⟨b, rfl⟩ := hvw.exists_map
    simp only [mergeValue]
    rw [merge_assoc_of_values hu hv hc]
    intro k x hx y hy z hz
    obtain ⟨e, he, -, rfl⟩ := exists_same_of_get? hz
    exact mergeValue_assoc_entries c hc e he x y (hasDistinctKeys_of_get? hu hx)
      (hasDistinctKeys_of_get? hv hy) (huv.get hx hy) (huw.get hx hz) (hvw.get hy hz)
  | .scalar _, _, _, _ | .list _, _, _, _ | .tuple _, _, _, _ | .set _, _, _, _ | .years _ _, _, _, _
  | .endless, _, _, _ => by simp [mergeValue]

theorem mergeValue_assoc_entries :
    ∀ c : List (Key × Value), HasDistinctKeys c → ∀ e ∈ c, ∀ u v : Value, u.HasDistinctKeys →
      v.HasDistinctKeys → Agree u v → Agree u e.2 → Agree v e.2 →
        mergeValue (some (mergeValue (some u) v)) e.2 = mergeValue (some u) (mergeValue (some v) e.2)
  | [], _ => by simp
  | (k, w) :: c, h => by
    obtain ⟨-, hw, hc⟩ := h
    refine List.forall_mem_cons.mpr ⟨fun u v hu hv huv huw hvw => ?_, mergeValue_assoc_entries c hc⟩
    exact mergeValue_assoc hu hv huv w hw huw hvw

end

theorem merge_assoc {a b c : Mapping} (ha : HasDistinctKeys a) (hb : HasDistinctKeys b)
    (hc : HasDistinctKeys c) (hab : Agree (.map a) (.map b)) (hbc : Agree (.map b) (.map c))
    (hac : Agree (.map a) (.map c)) : merge (merge a b) c = merge a (merge b c) := by
  have hvalue := mergeValue_assoc (u := .map a) (v := .map b) ha hb hab (.map c) hc hac hbc
  simp only [mergeValue] at hvalue
  exact Value.map.inj hvalue

/-! ## Every level -/

theorem hasDistinctKeys_of_at? (path : List Key) {v w : Value} (hv : v.HasDistinctKeys)
    (h : at? path v = some w) : w.HasDistinctKeys := by
  induction path generalizing v with
  | nil => rwa [← Option.some.inj h]
  | cons k path ih =>
    cases v with
    | map m =>
      obtain ⟨u, hu, h⟩ := Option.bind_eq_some_iff.mp h
      exact ih (hasDistinctKeys_of_get? hv hu) h
    | _ => cases h

/-- Where a path leads to mappings in both of two values, it leads to their merge in the one over the other. -/
theorem at?_mergeValue_map {x y : Mapping} (path : List Key) {v w : Value} (hw : w.HasDistinctKeys)
    (hx : at? path v = some (.map x)) (hy : at? path w = some (.map y)) :
    at? path (mergeValue (some v) w) = some (.map (merge x y)) := by
  induction path generalizing v w with
  | nil =>
    obtain rfl := Option.some.inj hx
    obtain rfl := Option.some.inj hy
    rw [mergeValue, at?]
  | cons k path ih =>
    cases v with
    | map a =>
      cases w with
      | map b =>
        obtain ⟨v, hv, hx⟩ := Option.bind_eq_some_iff.mp hx
        obtain ⟨w, hget, hy⟩ := Option.bind_eq_some_iff.mp hy
        rw [mergeValue, at?, get?_merge_eq_overlay hw, hv, hget, overlay, Option.map_some, Option.some_or,
          Option.bind_some]
        exact ih (hasDistinctKeys_of_get? hw hget) hx hy
      | _ => cases hy
    | _ => cases hx

/--
**The laws of merging**, as equalities of mappings with the order of their keys at every level.

Two layers that end are merged, and the result has different keys again. The empty mapping changes nothing on
either side, nor does a layer over itself, nor a layer that is laid a second time. Wherever both layers have a
mapping, the keys are those of the lower one in order, followed by those that only the upper one has, in order.
Of three layers that agree on what is a mapping, it does not matter which two are merged first.
-/
theorem merge_laws {a b c : Mapping} (ha : HasDistinctKeys a) (hb : HasDistinctKeys b)
    (hc : HasDistinctKeys c) :
    (entriesEndless a = false → entriesEndless b = false → mergeRead [a, b] = .ok (merge a b)) ∧
    HasDistinctKeys (merge a b) ∧
    merge [] a = a ∧ merge a [] = a ∧
    merge a a = a ∧
    merge (merge a b) b = merge a b ∧
    keys (merge a b) = keys a ++ (keys b).filter (Lacks a ·) ∧
    (∀ path x y, at? path (.map a) = some (.map x) → at? path (.map b) = some (.map y) →
      at? path (.map (merge a b)) = some (.map (merge x y)) ∧
        keys (merge x y) = keys x ++ (keys y).filter (Lacks x ·)) ∧
    (Agree (.map a) (.map b) → Agree (.map b) (.map c) → Agree (.map a) (.map c) →
      merge (merge a b) c = merge a (merge b c)) := by
  refine ⟨fun hends hends' => ?_, hasDistinctKeys_merge a ha b hb, merge_nil_left ha, merge_nil_right a,
    merge_self ha, merge_absorb ha hb, keys_merge hb a, fun path x y hx hy => ?_,
    merge_assoc ha hb hc⟩
  · rw [mergeRead_eq_ok (by simp [hends, hends']), mergeAll, List.foldl_cons, List.foldl_cons,
      List.foldl_nil, merge_nil_left ha]
  · have hmerge := at?_mergeValue_map (v := .map a) (w := .map b) path hb hx hy
    rw [mergeValue] at hmerge
    exact ⟨hmerge, keys_merge (hasDistinctKeys_of_at? (v := .map b) path hb hy) x⟩

/-- Three layers in which the number one and `true` name one entry, which keeps its place and its key. -/
theorem merge_laws_numbered :
    let a : Mapping := [(.str "backend", .object [("index", .str "a"), ("timeout", .int 5)]),
      (.scalar (.int 1), .str "one")]
    let b : Mapping := [(.scalar (.bool true), .str "yes"),
      (.str "backend", .object [("index", .str "b")])]
    let c : Mapping := [(.str "log", .object [("dir", .str "log")]),
      (.str "backend", .object [("dir", .null), ("timeout", .int 9)])]
    let merged : Mapping := [
      (.str "backend", .object [("index", .str "b"), ("timeout", .int 9), ("dir", .null)]),
      (.scalar (.int 1), .str "yes"), (.str "log", .object [("dir", .str "log")])]
    merge (merge a b) c = merged ∧ merge a (merge b c) = merged := by
  intro a b c merged
  have ha : HasDistinctKeys a := ⟨rfl, ⟨rfl, trivial, rfl, trivial, trivial⟩, rfl, trivial, trivial⟩
  have hb : HasDistinctKeys b := ⟨rfl, trivial, rfl, ⟨rfl, trivial, trivial⟩, trivial⟩
  have hc : HasDistinctKeys c :=
    ⟨rfl, ⟨rfl, trivial, trivial⟩, rfl, ⟨rfl, trivial, rfl, trivial, trivial⟩, trivial⟩
  have hfirst : merge (merge a b) c = merged := rfl
  -- `index`, `timeout` and the number one are no mappings in any layer
  have hab : Agree (.map a) (.map b) := by
    refine agree_map (List.forall_mem_cons.mpr ⟨?_, List.forall_mem_singleton.mpr ?_⟩)
    · rintro _ ⟨⟩
      refine agree_map (List.forall_mem_cons.mpr ⟨?_, List.forall_mem_singleton.mpr ?_⟩)
      · rintro _ ⟨⟩
        exact agree_of_not_mapping rfl rfl
      · rintro _ ⟨⟩
    · rintro _ ⟨⟩
      exact agree_of_not_mapping rfl rfl
  have hbc : Agree (.map b) (.map c) := by
    refine agree_map (List.forall_mem_cons.mpr ⟨?_, List.forall_mem_singleton.mpr ?_⟩)
    · rintro _ ⟨⟩
    · rintro _ ⟨⟩
      refine agree_map (List.forall_mem_singleton.mpr ?_)
      rintro _ ⟨⟩
  have hac : Agree (.map a) (.map c) := by
    refine agree_map (List.forall_mem_cons.mpr ⟨?_, List.forall_mem_singleton.mpr ?_⟩)
    · rintro _ ⟨⟩
      refine agree_map (List.forall_mem_cons.mpr ⟨?_, List.forall_mem_singleton.mpr ?_⟩)
      · rintro _ ⟨⟩
      · rintro _ ⟨⟩
        exact agree_of_not_mapping rfl rfl
    · rintro _ ⟨⟩
  obtain ⟨-, -, -, -, -, -, -, -, hassoc⟩ := merge_laws ha hb hc
  exact ⟨hfirst, (hassoc hab hbc hac).symm.trans hfirst⟩

/-- Where a layer has a value that is no mapping between two that are, the lowest layer is cut off if this one
is laid over it first, and shines through if the upper two are merged first. -/
example :
    let a : Mapping := [(.str "log", .object [("level", .str "debug")])]
    let b : Mapping := [(.str "log", .null)]
    let c : Mapping := [(.str "log", .object [("dir", .str "log")])]
    let level := at? [.str "log", .str "level"]
    (level (.map (merge (merge a b) c)), level (.map (merge a (merge b c)))) = (none, some (.str "debug")) :=
  rfl

end Mapping

end Faceted
