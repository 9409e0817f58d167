import Faceted.Page
import Faceted.Query.Suggestion
import Faceted.Proofs.Entries
import Faceted.Proofs.KeyText

/-!
# Responses that cannot be read

A response that cannot be read fails by a bad value, whatever its form, in all places but two.

* The list of hits is gone through once it counts as true, and `true` and numbers have nothing to go
  through: `SearchPage.failsByValue_read_iff`.
* The count of a bucket is made a whole number, and neither null nor a list, a mapping or an infinite
  number can be: `Suggestion.failsByValue_read_iff`. The suggestions are read one by one, so that the
  buckets before have to be readable for this one to be reached.

Each reader has a lemma that says that it fails by a bad value only; those of sequences are by induction
on what is read.
-/

namespace Faceted

open Number

/-! ## Faults of values -/

/-- The computation fails by a bad value, if it fails. -/
def FailsByValue {α : Type} (x : Except Fault α) : Prop := ∀ fault, x = .error fault → fault.sort = .value

namespace FailsByValue

variable {α β : Type}

theorem ok (a : α) : FailsByValue (.ok a) := nofun

theorem error_iff {fault : Fault} : FailsByValue (.error fault : Except Fault α) ↔ fault.sort = .value := by
  constructor
  · intro h
    exact h fault rfl
  · intro h _ hfault
    obtain rfl := Except.error.inj hfault
    exact h

theorem not_error {fault : Fault} (h : fault.sort ≠ .value) :
    ¬FailsByValue (.error fault : Except Fault α) := fun hfault => h (error_iff.mp hfault)

theorem bind {x : Except Fault α} {f : α → Except Fault β} (hx : FailsByValue x)
    (hf : ∀ a, x = .ok a → FailsByValue (f a)) : FailsByValue (x >>= f) := by
  cases x with
  | error fault => exact error_iff.mpr (hx fault rfl)
  | ok a => exact hf a rfl

/-- What comes after a computation does not matter if it fails by a bad value in any case. -/
theorem bind_iff {x : Except Fault α} {f : α → Except Fault β}
    (hf : ∀ a, x = .ok a → FailsByValue (f a)) : FailsByValue (x >>= f) ↔ FailsByValue x := by
  refine ⟨fun h => ?_, fun h => h.bind hf⟩
  cases x with
  | error fault => exact error_iff.mpr (h fault rfl)
  | ok a => exact ok a

theorem map {x : Except Fault α} (hx : FailsByValue x) (f : α → β) : FailsByValue (x.map f) := by
  cases x with
  | error fault => exact error_iff.mpr (hx fault rfl)
  | ok a => exact ok (f a)

end FailsByValue

theorem Key.failsByValue_written (k : Key) : FailsByValue k.written := by
  rcases k.written_cases with ⟨name, h⟩ | h
  · rw [h]
    exact .ok name
  · rw [h]
    exact FailsByValue.error_iff.mpr rfl

/-! ## JSON -/

namespace Value

/-- The value is one that a JSON text can stand for. -/
inductive IsJson : Value → Prop
  | null : IsJson .null
  | bool (b : Bool) : IsJson (.bool b)
  | int (n : Int) : IsJson (.int n)
  | float (x : Double) : IsJson (.float x)
  | str (s : String) : IsJson (.str s)
  | list {xs : List Value} (items : ∀ x ∈ xs, IsJson x) : IsJson (.list xs)
  | map {m : Mapping} (keys : ∀ e ∈ m, ∃ name, e.1 = .str name) (values : ∀ e ∈ m, IsJson e.2) :
    IsJson (.map m)

theorem isJson_object_iff {fields : List (String × Value)} :
    (Value.object fields).IsJson ↔ ∀ f ∈ fields, f.2.IsJson := by
  constructor
  · intro h
    cases h with
    | map keys values => exact fun f hf => values _ (List.mem_map.mpr ⟨f, hf, rfl⟩)
  · intro h
    exact .map (List.forall_mem_map.mpr fun f _ => ⟨f.1, rfl⟩) (List.forall_mem_map.mpr h)

theorem isJson_list_iff {xs : List Value} : (Value.list xs).IsJson ↔ ∀ x ∈ xs, x.IsJson := by
  constructor
  · intro h
    cases h with
    | list items => exact items
  · exact .list

/-- What a key finds in a JSON mapping is JSON. -/
theorem IsJson.get? {m : Mapping} (h : (Value.map m).IsJson) {k : Key} {v : Value}
    (hv : Entries.get? k m = some v) : v.IsJson := by
  obtain ⟨l, hl⟩ := Entries.exists_mem_of_get? hv
  cases h with
  | map keys values => exact values _ hl

theorem IsJson.findOrNull {m : Mapping} (h : (Value.map m).IsJson) (name : String) :
    (Mapping.findOrNull name m).IsJson := by
  rw [Mapping.findOrNull]
  cases hv : Entries.find? name m with
  | none => exact .null
  | some v => exact h.get? hv

theorem IsJson.at? {path : List Key} {v w : Value} (h : v.IsJson) (hw : v.at? path = some w) :
    w.IsJson := by
  induction path generalizing v with
  | nil =>
    obtain rfl := Option.some.inj hw
    exact h
  | cons k path ih =>
    cases v with
    | map m =>
      obtain ⟨u, hu, hw⟩ := Option.bind_eq_some_iff.mp hw
      exact ih (h.get? hu) hw
    | _ => cases hw

/-- What a key finds in a mapping that is found at another. -/
theorem at?_pair_iff {j k : Key} {v w : Value} :
    v.at? [j, k] = some w ↔ ∃ m, v.at? [j] = some (.map m) ∧ Entries.get? k m = some w := by
  cases v with
  | map m =>
    simp only [at?]
    cases Entries.get? j m with
    | none => simp
    | some u => cases u <;> simp [at?]
  | _ => simp [at?]

theorem failsByValue_written (v : Value) : FailsByValue v.written := by
  unfold written
  split
  · exact .ok _
  · exact FailsByValue.error_iff.mpr rfl

theorem failsByValue_writtenAll (vs : List Value) : FailsByValue (writtenAll vs) := by
  induction vs with
  | nil => exact .ok _
  | cons v vs ih => exact v.failsByValue_written.bind fun _ _ => ih.bind fun _ _ => .ok _

end Value

/-! ## Hits -/

namespace SearchHit

theorem failsByValue_readExcerpts (m : Mapping) :
    ∀ es : List (String × List String), FailsByValue (readExcerpts es m) := by
  induction m with
  | nil => exact fun es => .ok es
  | cons e m ih =>
    intro es
    obtain ⟨k, v⟩ := e
    cases v with
    | list fragments =>
      exact (Value.failsByValue_writtenAll fragments).bind fun _ _ =>
        k.failsByValue_written.bind fun _ _ => ih _
    | _ => exact ih es

theorem failsByValue_readHighlight (v : Value) : FailsByValue (readHighlight v) := by
  unfold readHighlight
  split
  · exact failsByValue_readExcerpts _ []
  · exact .ok []

theorem failsByValue_readId (v : Value) : FailsByValue (readId v) := by
  unfold readId
  split
  · exact .ok ""
  · exact v.failsByValue_written.map _

/-- **A hit fails by a bad value only**, whatever its fields are. -/
theorem failsByValue_read (m : Mapping) : FailsByValue (read m) :=
  (failsByValue_readId _).bind fun _ _ => (failsByValue_readHighlight _).bind fun _ _ => .ok _

theorem failsByValue_readAll (vs : List Value) : FailsByValue (readAll vs) := by
  induction vs with
  | nil => exact .ok []
  | cons v vs ih =>
    cases v with
    | map m => exact (failsByValue_read m).bind fun _ _ => ih.bind fun _ _ => .ok _
    | _ => exact ih

end SearchHit

/-- A JSON value that counts as true and has nothing to go through: `true`, or a number other than zero. -/
inductive Value.HasNoItems : Value → Prop
  | true : HasNoItems (.bool true)
  | int {n : Int} (nonzero : n ≠ 0) : HasNoItems (.int n)
  | float {x : Double} (nonzero : x.isZero = false) : HasNoItems (.float x)

theorem Value.hasNoItems_iff {v : Value} (h : v.IsJson) :
    v.HasNoItems ↔ v.isTruthy = true ∧ v.parts? = none := by
  constructor
  · intro hv
    cases hv with
    | true => exact ⟨rfl, rfl⟩
    | int nonzero => exact ⟨by simpa [isTruthy] using nonzero, rfl⟩
    | float nonzero => exact ⟨by simp [isTruthy, nonzero], rfl⟩
  · rintro ⟨htruthy, hparts⟩
    cases h with
    | null => cases htruthy
    | bool b =>
      obtain rfl : b = true := htruthy
      exact .true
    | int n => exact .int (by simpa [isTruthy] using htruthy)
    | float x => exact .float (by simpa [isTruthy] using htruthy)
    | str | list | map => cases hparts

namespace SearchPage

theorem failsByValue_items_iff {v : Value} (h : v.IsJson) :
    FailsByValue (items v) ↔ ¬v.HasNoItems := by
  rw [Value.hasNoItems_iff h, items, Value.parts]
  split
  · next htruthy =>
    cases v.parts? with
    | none => exact iff_of_false (FailsByValue.not_error (by simp [Fault.sort])) (by simp [htruthy])
    | some xs => exact iff_of_true (.ok xs) (by simp)
  · next htruthy => exact iff_of_true (.ok []) fun hv => htruthy hv.1

/-- The part of a response with the hits is the mapping that is found there. -/
theorem hitsPart_eq_some_iff {payload : Value} {part : Mapping} :
    payload.mapping?.bind (fun m => (Mapping.findOrNull "hits" m).mapping?) = some part ↔
      payload.at? [.str "hits"] = some (.map part) := by
  cases payload with
  | map m =>
    rw [Value.mapping?, Option.bind_some, Mapping.findOrNull, Entries.find?, Value.at?]
    cases Entries.get? (.str "hits") m with
    | none => simp [Value.mapping?]
    | some v => cases v <;> simp [Value.mapping?, Value.at?]
  | _ => simp [Value.mapping?, Value.at?]

/-- **A search response is read, or fails by a bad value**, exactly unless its list of hits counts as true
and is nothing to go through. -/
theorem failsByValue_read_iff {payload : Value} (h : payload.IsJson) :
    FailsByValue (read payload) ↔
      ∀ v, payload.at? [.str "hits", .str "hits"] = some v → ¬v.HasNoItems := by
  rw [read]
  cases hpart : payload.mapping?.bind (fun m => (Mapping.findOrNull "hits" m).mapping?) with
  | none =>
    refine iff_of_true (FailsByValue.error_iff.mpr rfl) fun v hv => ?_
    obtain ⟨part, hp, -⟩ := Value.at?_pair_iff.mp hv
    rw [hitsPart_eq_some_iff.mpr hp] at hpart
    cases hpart
  | some part =>
    have hp := hitsPart_eq_some_iff.mp hpart
    have hjson : (Mapping.findOrNull "hits" part).IsJson := (h.at? hp).findOrNull "hits"
    have hrest (xs : List Value) : FailsByValue (do
        let hits ← SearchHit.readAll xs
        pure (⟨hits, readTotal hits.length (Mapping.findOrNull "total" part), false⟩ : SearchPage)) :=
      (SearchHit.failsByValue_readAll xs).bind fun _ _ => .ok _
    refine (FailsByValue.bind_iff fun xs _ => hrest xs).trans ?_
    rw [failsByValue_items_iff hjson]
    constructor
    · intro hitems v hv
      obtain ⟨m, hm, hv⟩ := Value.at?_pair_iff.mp hv
      obtain rfl := Value.map.inj (Option.some.inj (hp.symm.trans hm))
      rwa [Mapping.findOrNull, Entries.find?, hv] at hitems
    · intro hall hitems
      rw [Mapping.findOrNull] at hitems
      cases hv : Entries.find? "hits" part with
      | none =>
        rw [hv] at hitems
        cases hitems
      | some v =>
        rw [hv] at hitems
        exact hall v (Value.at?_pair_iff.mpr ⟨part, hp, hv⟩) hitems

end SearchPage

/-! ## Suggestions -/

/-- A JSON value that no whole number is made of, nor a text or a truth value taken for one: null, a list, a
mapping, or an infinite number. -/
inductive Value.HasNoCount : Value → Prop
  | null : HasNoCount .null
  | list (xs : List Value) : HasNoCount (.list xs)
  | map (m : Mapping) : HasNoCount (.map m)
  | infinite {x : Double} (infinite : x.isInfinite = true) : HasNoCount (.float x)

namespace Suggestion

theorem failsByValue_readCount_iff {v : Value} (h : v.IsJson) :
    FailsByValue (readCount v) ↔ ¬v.HasNoCount := by
  cases h with
  | null | list | map =>
    refine iff_of_false (FailsByValue.not_error (by simp [Fault.sort])) (not_not_intro ?_)
    constructor
  | bool | int =>
    refine iff_of_true (.ok _) fun hcount => ?_
    cases hcount
  | str s =>
    refine iff_of_true ?_ fun hcount => ?_
    · rw [readCount]
      cases readInt s.toList with
      | ok n => exact .ok n
      | error fault => cases fault <;> exact FailsByValue.error_iff.mpr rfl
    · cases hcount
  | float x =>
    rw [readCount]
    split
    · next hnan =>
      refine iff_of_true (FailsByValue.error_iff.mpr rfl) fun hcount => ?_
      cases hcount with
      | infinite hinfinite =>
        simp only [Double.isNaN, Double.isInfinite, Bool.and_eq_true, bne_iff_ne, beq_iff_eq]
          at hnan hinfinite
        exact hnan.2 hinfinite.2
    · split
      · next hinfinite =>
        exact iff_of_false (FailsByValue.not_error (by simp [Fault.sort]))
          (not_not_intro (.infinite hinfinite))
      · next hinfinite =>
        refine iff_of_true (.ok _) fun hcount => ?_
        cases hcount with
        | infinite h => exact hinfinite h

theorem failsByValue_scope (payload : Value) (facet : FieldSpec) : FailsByValue (scope payload facet) := by
  unfold scope
  split
  · exact FailsByValue.error_iff.mpr rfl
  · split
    · exact .ok _
    · split
      · exact FailsByValue.error_iff.mpr rfl
      · exact .ok _

/-- **Buckets that are not there are a bad value.** -/
theorem failsByValue_buckets (payload : Value) (facet : FieldSpec) :
    FailsByValue (buckets payload facet) := by
  refine (failsByValue_scope payload facet).bind fun inner _ => ?_
  split
  · exact .ok _
  · exact FailsByValue.error_iff.mpr rfl

/-- The fault of buckets is that of the first one that cannot be read. -/
theorem readBuckets_snd_eq_some_iff {useExtra : Bool} {bs : List Mapping} {fault : Fault} :
    (readBuckets useExtra bs).2 = some fault ↔
      ∃ before bucket after, bs = before ++ bucket :: after ∧
        (∀ b ∈ before, ∃ suggestion, readBucket useExtra b = .ok suggestion) ∧
        readBucket useExtra bucket = .error fault := by
  constructor
  · intro h
    induction bs with
    | nil => cases h
    | cons b bs ih =>
      rw [readBuckets] at h
      cases hb : readBucket useExtra b with
      | error other =>
        rw [hb] at h
        obtain rfl := Option.some.inj h
        exact ⟨[], b, bs, rfl, nofun, hb⟩
      | ok suggestion =>
        rw [hb] at h
        obtain ⟨before, bucket, after, rfl, hbefore, hbucket⟩ := ih h
        exact ⟨b :: before, bucket, after, rfl, List.forall_mem_cons.mpr ⟨⟨suggestion, hb⟩, hbefore⟩,
          hbucket⟩
  · rintro ⟨before, bucket, after, rfl, hbefore, hbucket⟩
    induction before with
    | nil => rw [List.nil_append, readBuckets, hbucket]
    | cons b before ih =>
      obtain ⟨⟨suggestion, hb⟩, hbefore⟩ := List.forall_mem_cons.mp hbefore
      rw [List.cons_append, readBuckets, hb]
      exact ih hbefore

/-! ### JSON in a response -/

theorem isJson_of_part? {name : String} {v : Value} (h : v.IsJson) {m : Mapping}
    (hm : part? name v = some m) : (Value.map m).IsJson := by
  cases v with
  | map entries =>
    obtain ⟨w, hw, hmap⟩ := Option.bind_eq_some_iff.mp hm
    have hjson := h.get? hw
    cases w with
    | map found =>
      obtain rfl := Option.some.inj hmap
      exact hjson
    | _ => cases hmap
  | _ => cases hm

theorem isJson_of_scope {payload : Value} (h : payload.IsJson) {facet : FieldSpec} {inner : Mapping}
    (hs : scope payload facet = .ok inner) : (Value.map inner).IsJson := by
  unfold scope at hs
  split at hs
  · cases hs
  · next outer houter =>
    split at hs
    · obtain rfl := Except.ok.inj hs
      exact isJson_of_part? h houter
    · split at hs
      · cases hs
      · next found hfound =>
        obtain rfl := Except.ok.inj hs
        exact isJson_of_part? (isJson_of_part? h houter) hfound

/-- **The buckets of a JSON response are JSON.** -/
theorem isJson_of_buckets {payload : Value} (h : payload.IsJson) {facet : FieldSpec}
    {bs : List Mapping} (hbs : buckets payload facet = .ok bs) {b : Mapping} (hb : b ∈ bs) :
    (Value.map b).IsJson := by
  obtain ⟨inner, hinner, hbs⟩ := bind_eq_ok_iff.mp hbs
  split at hbs
  · next vs hvs =>
    obtain rfl := Except.ok.inj hbs
    obtain ⟨v, hv, hmap⟩ := List.mem_filterMap.mp hb
    obtain ⟨list, hlist, hfind⟩ := Option.bind_eq_some_iff.mp hvs
    have hjson := (isJson_of_part? (isJson_of_scope h hinner) hlist).get? hfind
    cases hjson with
    | list items =>
      have hone := items v hv
      cases v with
      | map found =>
        obtain rfl := Option.some.inj hmap
        exact hone
      | _ => cases hmap
  · cases hbs

theorem isJson_bucketCount {bucket : Mapping} (h : (Value.map bucket).IsJson) (useExtra : Bool) :
    (bucketCount useExtra bucket).IsJson := by
  have hfound {m : Mapping} (hm : (Value.map m).IsJson) :
      ((Entries.find? "doc_count" m).getD (.int 0)).IsJson := by
    cases hv : Entries.find? "doc_count" m with
    | none => exact .int 0
    | some v => exact hm.get? hv
  unfold bucketCount
  split
  · next extra hextra => exact hfound (isJson_of_part? h hextra)
  · exact hfound h

/-! ### What is read -/

/-- The text of the term of a bucket, empty if it has none. -/
def bucketTerm (bucket : Mapping) : Except Fault String :=
  ((Entries.find? "key" bucket).getD (.str "")).written

theorem failsByValue_readBucket_iff {bucket : Mapping} (h : (Value.map bucket).IsJson)
    (useExtra : Bool) :
    FailsByValue (readBucket useExtra bucket) ↔
      ∀ term, bucketTerm bucket = .ok term → ¬(bucketCount useExtra bucket).HasNoCount := by
  rw [← failsByValue_readCount_iff (isJson_bucketCount h useExtra)]
  show FailsByValue (bucketTerm bucket >>= _) ↔ _
  have hwritten : FailsByValue (bucketTerm bucket) := Value.failsByValue_written _
  cases hterm : bucketTerm bucket with
  | error fault =>
    rw [hterm] at hwritten
    exact iff_of_true (hwritten.bind nofun) nofun
  | ok term =>
    rw [ok_bind]
    exact (FailsByValue.bind_iff fun _ _ => .ok _).trans ⟨fun h _ _ => h, fun h => h term rfl⟩

/-- Suggestions fail when there are no buckets, or when one of them cannot be read. -/
theorem read_eq_error_iff {payload : Value} {facet : FieldSpec} {fault : Fault} :
    read payload facet = .error fault ↔ buckets payload facet = .error fault ∨
      ∃ bs, buckets payload facet = .ok bs ∧ (readBuckets facet.extra.isSome bs).2 = some fault := by
  unfold read readLazily
  cases buckets payload facet with
  | error other => simp [bind, Except.bind]
  | ok bs =>
    cases hr : readBuckets facet.extra.isSome bs with
    | mk suggestions found => cases found <;> simp [bind, Except.bind, pure, Except.pure, hr]

/-- **Suggestions are read, or fail by a bad value**, exactly unless a bucket has no count that is a number,
and all buckets before it can be read. -/
theorem failsByValue_read_iff {payload : Value} (h : payload.IsJson) (facet : FieldSpec) :
    FailsByValue (read payload facet) ↔
      ∀ before bucket after term, buckets payload facet = .ok (before ++ bucket :: after) →
        (∀ b ∈ before, ∃ suggestion, readBucket facet.extra.isSome b = .ok suggestion) →
        bucketTerm bucket = .ok term → ¬(bucketCount facet.extra.isSome bucket).HasNoCount := by
  have hone {before after : List Mapping} {bucket : Mapping}
      (hbs : buckets payload facet = .ok (before ++ bucket :: after)) :
      FailsByValue (readBucket facet.extra.isSome bucket) ↔ ∀ term, bucketTerm bucket = .ok term →
        ¬(bucketCount facet.extra.isSome bucket).HasNoCount := by
    have hjson : (Value.map bucket).IsJson := isJson_of_buckets h hbs (by simp)
    exact failsByValue_readBucket_iff hjson facet.extra.isSome
  constructor
  · intro hread before bucket after term hbs hbefore hterm
    refine (hone hbs).mp (fun fault hfault => hread fault ?_) term hterm
    have hfirst := readBuckets_snd_eq_some_iff.mpr ⟨before, bucket, after, rfl, hbefore, hfault⟩
    exact read_eq_error_iff.mpr (Or.inr ⟨_, hbs, hfirst⟩)
  · intro hall fault hfault
    rcases read_eq_error_iff.mp hfault with hfault | ⟨bs, hbs, hfault⟩
    · exact failsByValue_buckets payload facet fault hfault
    · obtain ⟨before, bucket, after, rfl, hbefore, hbucket⟩ := readBuckets_snd_eq_some_iff.mp hfault
      exact (hone hbs).mpr (fun term => hall before bucket after term hbs hbefore) fault hbucket

end Suggestion

/-! ## Responses -/

/--
**A JSON response is read or fails by a bad value, in all cases but two.**

The page of a response fails otherwise exactly when its list of hits counts as true and is nothing to go
through. The suggestions of a response fail otherwise exactly when a bucket with a term that can be
written has null, a list, a mapping or an infinite number for its count, and all buckets before it can be
read.
-/
theorem responses_fail_by_value_iff {payload : Value} (h : payload.IsJson) :
    (FailsByValue (SearchPage.read payload) ↔
      ∀ v, payload.at? [.str "hits", .str "hits"] = some v → ¬v.HasNoItems) ∧
    ∀ facet, FailsByValue (Suggestion.read payload facet) ↔
      ∀ before bucket after term, Suggestion.buckets payload facet = .ok (before ++ bucket :: after) →
        (∀ b ∈ before, ∃ suggestion, Suggestion.readBucket facet.extra.isSome b = .ok suggestion) →
        Suggestion.bucketTerm bucket = .ok term →
        ¬(Suggestion.bucketCount facet.extra.isSome bucket).HasNoCount :=
  ⟨SearchPage.failsByValue_read_iff h, Suggestion.failsByValue_read_iff h⟩

/-- A response with a text for the hits, and with a count that is a text before one that is null: the page
has no hits, and the suggestions fail at the text, which is a bad value. -/
theorem responses_fail_by_value_iff_text :
    let party : FieldSpec := ⟨"party", .terms, .countDescending, none, none⟩
    let bucket (term : String) (count : Value) : Mapping :=
      [(.str "key", .str term), (.str "doc_count", count)]
    let payload : Value := .object [("hits", .object [("hits", .str "none")]),
      ("aggregations", .object [("termsList", .object [("buckets",
        .list [.map (bucket "PS" (.str "many")), .map (bucket "RPR" .null)])])])]
    payload.IsJson ∧ FailsByValue (SearchPage.read payload) ∧
      FailsByValue (Suggestion.read payload party) := by
  intro party bucket payload
  have hbucket {term : String} {count : Value} (h : count.IsJson) :
      (Value.map (bucket term count)).IsJson := by
    show (Value.object [("key", .str term), ("doc_count", count)]).IsJson
    simp [Value.isJson_object_iff, Value.IsJson.str, h]
  have hjson : payload.IsJson := by
    simp [payload, Value.isJson_object_iff, Value.isJson_list_iff, hbucket, Value.IsJson.str,
      Value.IsJson.null]
  obtain ⟨hpage, hsuggestions⟩ := responses_fail_by_value_iff hjson
  refine ⟨hjson, hpage.mpr ?_, (hsuggestions party).mpr ?_⟩
  · intro v hv hnone
    obtain rfl : Value.str "none" = v := Option.some.inj hv
    cases hnone
  · intro before first after term hbuckets hbefore hterm hcount
    have hboth : Suggestion.buckets payload party
        = .ok [bucket "PS" (.str "many"), bucket "RPR" .null] := by
      simp only [payload, bucket, party]
      rfl
    have hlist := Except.ok.inj (hboth.symm.trans hbuckets)
    cases before with
    | nil =>
      obtain rfl := (List.cons.inj hlist).1
      cases (show (Value.str "many").HasNoCount from hcount)
    | cons b before =>
      -- the first bucket cannot be read
      obtain rfl := (List.cons.inj hlist).1
      obtain ⟨suggestion, hread⟩ := hbefore _ List.mem_cons_self
      cases hread

/-- A number in place of the hits, and null in place of a count, are no bad values but bad types, and an
infinite count is too large. -/
theorem responses_escape :
    let party : FieldSpec := ⟨"party", .terms, .countDescending, none, none⟩
    let hits : Value := .object [("hits", .object [("hits", .int 5)])]
    let counted (count : Value) : Value := .object [("aggregations", .object [("termsList",
      .object [("buckets", .list [.object [("key", .str "PS"), ("doc_count", count)]])])])]
    let infinite : Value := .float (Double.infinity false)
    (hits.IsJson ∧ SearchPage.read hits = .error (.notIterable "int") ∧
      (Fault.notIterable "int").sort = .type) ∧
    ((counted .null).IsJson ∧ Suggestion.read (counted .null) party = .error (.notNumeric "NoneType") ∧
      (Fault.notNumeric "NoneType").sort = .type) ∧
    ((counted infinite).IsJson ∧ Suggestion.read (counted infinite) party = .error .infiniteInteger ∧
      Fault.infiniteInteger.sort = .overflow) := by
  intro party hits counted infinite
  have hcounted {count : Value} (h : count.IsJson) : (counted count).IsJson := by
    simp [counted, Value.isJson_object_iff, Value.isJson_list_iff, Value.IsJson.str, h]
  have hhits : hits.IsJson := by
    simp [hits, Value.isJson_object_iff, Value.IsJson.int]
  refine ⟨⟨hhits, rfl, rfl⟩, ⟨hcounted .null, ?_, rfl⟩, hcounted (.float _), ?_, rfl⟩
  · simp only [counted, party]
    rfl
  · simp only [counted, party, infinite]
    rfl

end Faceted
