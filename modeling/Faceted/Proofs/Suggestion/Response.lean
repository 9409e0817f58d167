import Faceted.Proofs.Suggestion.OwnFilter
import Mathlib.Data.List.Forall2

/-!
# Responses to a suggestion request

A response answers each aggregation of a request under its name: the list of values by its buckets, any
other aggregation by the answers to those inside of it. `Mirrors` says so by the request alone, and
without a look at the facet; `Answers` is this for a whole response.

The reader goes by the facet, and not by the request. Both agree on where the buckets are and on which
count is that of a suggestion, so that from any response that answers the request exactly the buckets
are read, in order (`read_of_answers`).
-/

namespace Faceted.Suggestion

/-! ## What answers a request -/

/-- One bucket of a response: its term, how many documents are in it, and how many of these satisfy the
extra clause, if that was asked for. -/
structure Bucket where
  term : String
  count : Int
  extra : Option Int

/-- The list of values is asked for with the sub-aggregation of an extra clause. -/
def AsksExtra (definition : Mapping) : Prop :=
  ∃ inner extra, part? "aggs" (.map definition) = some inner ∧ part? "extra" (.map inner) = some extra

/-- The mapping is the bucket, in the form that the definition of the list asks for. What else is in the
mapping does not matter. -/
structure Bucket.IsShown (definition : Mapping) (bucket : Bucket) (m : Mapping) : Prop where
  term : Entries.find? "key" m = some (.str bucket.term)
  count : Entries.find? "doc_count" m = some (.int bucket.count)
  asked : bucket.extra.isSome ↔ AsksExtra definition
  extra : ∀ n ∈ bucket.extra, ∃ part, part? "extra" (.map m) = some part ∧
    Entries.find? "doc_count" part = some (.int n)

/-- An answer to the aggregations of a request, with the buckets in it. Each level of a request asks for
one aggregation; the answer is a mapping under its name, beside anything else. -/
inductive Mirrors : Mapping → Mapping → List Bucket → Prop where
  /-- The list of values has a list of buckets. -/
  | list {name : String} {definition answer part : Mapping} {ms : List Mapping} {bs : List Bucket}
      (terms : (Entries.find? "terms" definition).isSome)
      (answered : part? name (.map answer) = some part)
      (listed : Entries.find? "buckets" part = some (.list (ms.map .map)))
      (shown : List.Forall₂ (Bucket.IsShown definition) bs ms) :
    Mirrors [(.str name, .map definition)] answer bs
  /-- Any other aggregation has the answers to those inside of it. -/
  | inside {name : String} {definition aggs answer part : Mapping} {bs : List Bucket}
      (other : Entries.find? "terms" definition = none)
      (inner : part? "aggs" (.map definition) = some aggs)
      (answered : part? name (.map answer) = some part)
      (mirrored : Mirrors aggs part bs) :
    Mirrors [(.str name, .map definition)] answer bs

/-- The response answers the request with these buckets. -/
def Answers (request response : Value) (bs : List Bucket) : Prop :=
  ∃ aggs answer, part? "aggs" request = some aggs ∧
    part? "aggregations" response = some answer ∧ Mirrors aggs answer bs

/-- The suggestion that a bucket is for a facet: its count is that of the extra clause if the facet has
one. -/
def Bucket.suggestion (facet : FieldSpec) (bucket : Bucket) : TermSuggestion :=
  ⟨bucket.term, if facet.extra.isSome then bucket.extra.getD 0 else bucket.count⟩

/-! ## The aggregations of a request -/

/-- The definition of the list of values: its parameters, and the sub-aggregation of the extra clause if
there is one. -/
def listDefinition (facet : FieldSpec) (typed : Option String) (limit : Int) : Mapping :=
  (.str "terms", .map (listParameters facet typed limit)) ::
    (facet.extra.map fun clause => (Key.str "aggs",
      Value.map [(.str "extra", .map [(.str "filter", clause.toValue)])])).toList

theorem listAggregation_eq (facet : FieldSpec) (typed : Option String) (limit : Int) :
    listAggregation facet typed limit = .map (listDefinition facet typed limit) := by
  unfold listAggregation listDefinition
  rw [termsAggregation_eq]
  cases facet.extra <;> rfl

theorem find?_terms_listDefinition (facet : FieldSpec) (typed : Option String) (limit : Int) :
    Entries.find? "terms" (listDefinition facet typed limit)
      = some (.map (listParameters facet typed limit)) :=
  Entries.find?_cons_self ..

/-- **The extra counts are asked for exactly if the facet has an extra clause.** -/
theorem asksExtra_listDefinition_iff {facet : FieldSpec} {typed : Option String} {limit : Int} :
    AsksExtra (listDefinition facet typed limit) ↔ facet.extra.isSome := by
  unfold AsksExtra listDefinition
  rw [part?_cons_of_ne (by decide)]
  cases facet.extra with
  | none => simp [part?, Entries.find?_nil]
  | some clause =>
    simp only [Option.map_some, Option.toList_some, part?_cons_self, Option.isSome_some, iff_true]
    exact ⟨_, _, rfl, part?_cons_self ..⟩

/-- The aggregations of a request: the list of values, inside of the nested aggregation of a dotted
field. -/
def requested (facet : FieldSpec) (typed : Option String) (limit : Int) : Mapping :=
  let list := [(Key.str "termsList", Value.map (listDefinition facet typed limit))]
  match facet.path with
  | none => list
  | some path => [(.str path,
      .map [(.str "nested", .map [(.str "path", .str path)]), (.str "aggs", .map list)])]

theorem aggregations_eq (facet : FieldSpec) (typed : Option String) (limit : Int) :
    aggregations facet typed limit = .map (requested facet typed limit) := by
  unfold aggregations requested
  rw [listAggregation_eq]
  cases facet.path <;> rfl

/-- **A request asks for its aggregations beside the query.** -/
theorem part?_aggs_of_body {compiler : Compiler} {state : FilterState} {facet : FieldSpec}
    {typed : Option String} {limit : Int} {request : Value}
    (h : body compiler state facet typed limit = .ok request) :
    part? "aggs" request = some (requested facet typed limit) := by
  rw [body_eq] at h
  obtain ⟨query, -, rfl⟩ := map_eq_ok_iff.mp h
  rw [bodyOf, aggregations_eq]
  show part? "aggs" (.map [(.str "size", .int 0), (.str "query", query.toValue),
    (.str "aggs", .map (requested facet typed limit))]) = _
  rw [part?_cons_of_ne (by decide), part?_cons_of_ne (by decide), part?_cons_self]

/-! ## Reading the buckets -/

variable {facet : FieldSpec} {typed : Option String} {limit : Int}

/-- **The reader finds the buckets where the request asked for them.** -/
theorem buckets_of_mirrors {response : Value} {answer : Mapping} {bs : List Bucket}
    (ha : part? "aggregations" response = some answer)
    (hm : Mirrors (requested facet typed limit) answer bs) :
    ∃ ms, buckets response facet = .ok ms ∧
      List.Forall₂ (Bucket.IsShown (listDefinition facet typed limit)) bs ms := by
  have hlist : ∀ {inner : Mapping}, scope response facet = .ok inner →
      Mirrors [(.str "termsList", .map (listDefinition facet typed limit))] inner bs →
      ∃ ms, buckets response facet = .ok ms ∧
        List.Forall₂ (Bucket.IsShown (listDefinition facet typed limit)) bs ms := by
    intro inner hscope hm
    cases hm with
    | @list _ _ _ part ms _ _ answered listed shown =>
      refine ⟨ms, ?_, shown⟩
      have hmappings : (ms.map Value.map).filterMap Value.mapping? = ms := by
        rw [List.filterMap_map]
        exact List.filterMap_some
      rw [buckets, hscope, ok_bind, aggregationName, answered, Option.bind_some, listed]
      exact congrArg _ hmappings
    | inside other => simp [find?_terms_listDefinition] at other
  unfold requested at hm
  cases hpath : facet.path with
  | none =>
    rw [hpath] at hm
    exact hlist (by simp [scope, ha, hpath]) hm
  | some path =>
    rw [hpath] at hm
    cases hm with
    | list terms => simp [Entries.find?_cons_of_ne, Entries.find?_nil] at terms
    | @inside _ _ _ _ part _ _ inner answered mirrored =>
      rw [part?_cons_of_ne (by decide), part?_cons_self] at inner
      obtain rfl := Option.some.inj inner
      exact hlist (by simp [scope, ha, hpath, answered]) mirrored

/-- A bucket is read as the suggestion that it is. -/
theorem readBucket_of_isShown {bucket : Bucket} {m : Mapping}
    (h : bucket.IsShown (listDefinition facet typed limit) m) :
    readBucket facet.extra.isSome m = .ok (bucket.suggestion facet) := by
  have hterm : ((Entries.find? "key" m).getD (.str "")).written = .ok bucket.term := by
    rw [h.term]
    exact Value.written_str bucket.term
  have hcount : bucketCount facet.extra.isSome m = .int (bucket.suggestion facet).count := by
    have hasked := h.asked.trans asksExtra_listDefinition_iff
    unfold bucketCount Bucket.suggestion
    cases hextra : facet.extra with
    | none => simp [h.count]
    | some clause =>
      obtain ⟨n, hn⟩ := Option.isSome_iff_exists.mp (hasked.mpr (by simp [hextra]))
      obtain ⟨part, hpart, hpn⟩ := h.extra n hn
      simp [extraName, hpart, hpn, hn]
  rw [readBucket, hterm, ok_bind, hcount]
  rfl

/-- **Buckets are read one by one; those whose count is not above zero are left out.** -/
theorem readBuckets_of_isShown {bs : List Bucket} {ms : List Mapping}
    (h : List.Forall₂ (Bucket.IsShown (listDefinition facet typed limit)) bs ms) :
    readBuckets facet.extra.isSome ms
      = ((bs.map (Bucket.suggestion facet)).filter fun s => 0 < s.count, none) := by
  induction h with
  | nil => rfl
  | @cons bucket m bs ms hb _ ih =>
    rw [readBuckets, readBucket_of_isShown hb]
    simp only [ih, List.map_cons, List.filter_cons, decide_eq_true_eq]

/-- What is read from a response is its buckets, if these are in the answer to what is requested. -/
theorem read_of_mirrors {response : Value} {answer : Mapping} {bs : List Bucket}
    (ha : part? "aggregations" response = some answer)
    (hm : Mirrors (requested facet typed limit) answer bs) :
    read response facet
      = .ok ((bs.map (Bucket.suggestion facet)).filter fun s => 0 < s.count) := by
  obtain ⟨ms, hbuckets, hshown⟩ := buckets_of_mirrors ha hm
  rw [read, readLazily, hbuckets, ok_bind, readBuckets_of_isShown hshown]
  rfl

/-- What answers a request answers the aggregations that were put into it. -/
theorem mirrors_of_answers {compiler : Compiler} {state : FilterState} {request response : Value}
    {bs : List Bucket} (hbody : body compiler state facet typed limit = .ok request)
    (h : Answers request response bs) :
    ∃ answer, part? "aggregations" response = some answer ∧
      Mirrors (requested facet typed limit) answer bs := by
  obtain ⟨aggs, answer, haggs, hanswer, hm⟩ := h
  rw [part?_aggs_of_body hbody] at haggs
  obtain rfl := Option.some.inj haggs
  exact ⟨answer, hanswer, hm⟩

/--
**From a response that answers the request exactly its buckets are read.**

Whatever facet, filters, text and limit the request was built for: the suggestions are the buckets in
order, each with the count that the extra clause of the facet gives if there is one and the number of
documents in the bucket if not; only those whose count is not above zero are left out.
-/
theorem read_of_answers {compiler : Compiler} {state : FilterState} {request response : Value}
    {bs : List Bucket} (hbody : body compiler state facet typed limit = .ok request)
    (h : Answers request response bs) :
    read response facet
      = .ok ((bs.map (Bucket.suggestion facet)).filter fun s => 0 < s.count) := by
  obtain ⟨answer, hanswer, hm⟩ := mirrors_of_answers hbody h
  exact read_of_mirrors hanswer hm

/-- A facet with an extra clause inside of a nested object that is called like the list of values; the
response has more in it than was asked for. -/
theorem read_of_answers_nested :
    let facet : FieldSpec :=
      ⟨"termsList.name", .terms, .countDescending, some (.term "termsList.kind" "party"), none⟩
    let shown (term : String) (count extra : Int) : Value := .map [(.str "key", .str term),
      (.str "doc_count", .int count), (.str "extra", .map [(.str "doc_count", .int extra)])]
    let response : Value := .map [(.str "took", .int 3), (.str "aggregations", .map [(.str "termsList",
      .map [(.str "doc_count", .int 9), (.str "termsList",
        .map [(.str "buckets", .list [shown "PS" 10 7, shown "RPR" 5 0])])])])]
    ∃ request, body ⟨⟨[]⟩, ["ocr"]⟩ [] facet (some "p") 15 = .ok request ∧
      Answers request response [⟨"PS", 10, some 7⟩, ⟨"RPR", 5, some 0⟩] ∧
      read response facet = .ok [⟨"PS", 7⟩] := by
  intro facet shown response
  obtain ⟨request, hbody⟩ : ∃ request, body ⟨⟨[]⟩, ["ocr"]⟩ [] facet (some "p") 15 = .ok request :=
    ⟨_, rfl⟩
  have hasked : ∀ n : Int, (some n).isSome = true ↔ AsksExtra (listDefinition facet (some "p") 15) := by
    intro n
    rw [asksExtra_listDefinition_iff]
    simp [facet]
  have hshown : ∀ term count extra, Bucket.IsShown (listDefinition facet (some "p") 15)
      ⟨term, count, some extra⟩ [(.str "key", .str term), (.str "doc_count", .int count),
        (.str "extra", .map [(.str "doc_count", .int extra)])] := by
    intro term count extra
    exact ⟨rfl, rfl, hasked extra, fun n hn => ⟨_, rfl, congrArg (some ∘ Value.int) (by simpa using hn)⟩⟩
  have hlist : Mirrors [(.str "termsList", .map (listDefinition facet (some "p") 15))]
      [(.str "doc_count", .int 9), (.str "termsList",
        .map [(.str "buckets", .list [shown "PS" 10 7, shown "RPR" 5 0])])]
      [⟨"PS", 10, some 7⟩, ⟨"RPR", 5, some 0⟩] :=
    .list rfl rfl rfl (.cons (hshown _ _ _) (.cons (hshown _ _ _) .nil))
  have hpath : facet.path = some "termsList" := by decide
  have hanswers : Answers request response [⟨"PS", 10, some 7⟩, ⟨"RPR", 5, some 0⟩] := by
    refine ⟨_, _, part?_aggs_of_body hbody, rfl, ?_⟩
    rw [requested, hpath]
    exact .inside rfl rfl rfl hlist
  exact ⟨request, hbody, hanswers, (read_of_answers hbody hanswers).trans rfl⟩

/-! ## Responses to any request -/

/-- The mapping of a bucket. -/
def Bucket.shown (bucket : Bucket) : Mapping :=
  (bucket.extra.map fun n => (Key.str "extra", Value.map [(.str "doc_count", .int n)])).toList ++
    [(.str "key", .str bucket.term), (.str "doc_count", .int bucket.count)]

/-- A response with these buckets, for the facet of a request. -/
def responseOf (facet : FieldSpec) (bs : List Bucket) : Value :=
  let list : Mapping := [(.str "termsList", .map [(.str "buckets",
    .list ((bs.map Bucket.shown).map .map))])]
  .map [(.str "aggregations", .map (match facet.path with
    | none => list
    | some path => [(.str path, .map list)]))]

theorem isShown_shown {definition : Mapping} {bucket : Bucket}
    (h : bucket.extra.isSome ↔ AsksExtra definition) : bucket.IsShown definition bucket.shown := by
  obtain ⟨term, count, extra⟩ := bucket
  cases extra with
  | none => exact ⟨rfl, rfl, h, by simp⟩
  | some n =>
    refine ⟨rfl, rfl, h, ?_⟩
    rintro _ ⟨⟩
    exact ⟨_, rfl, rfl⟩

/-- **Any buckets can come back**, with counts of the extra clause exactly if the facet has one. -/
theorem answers_responseOf {compiler : Compiler} {state : FilterState} {request : Value}
    {bs : List Bucket} (hbody : body compiler state facet typed limit = .ok request)
    (h : ∀ b ∈ bs, b.extra.isSome ↔ facet.extra.isSome) :
    Answers request (responseOf facet bs) bs := by
  have hshown : List.Forall₂ (Bucket.IsShown (listDefinition facet typed limit)) bs
      (bs.map Bucket.shown) := by
    rw [List.forall₂_map_right_iff, List.forall₂_same]
    intro b hb
    exact isShown_shown ((h b hb).trans asksExtra_listDefinition_iff.symm)
  have hlist : Mirrors [(.str "termsList", .map (listDefinition facet typed limit))]
      [(.str "termsList", .map [(.str "buckets", .list ((bs.map Bucket.shown).map .map))])] bs :=
    .list (by simp [find?_terms_listDefinition]) (part?_cons_self ..) (Entries.find?_cons_self ..)
      hshown
  refine ⟨_, _, part?_aggs_of_body hbody, part?_cons_self .., ?_⟩
  unfold requested
  cases facet.path with
  | none => exact hlist
  | some path =>
    refine .inside ?_ ?_ (part?_cons_self ..) hlist
    · simp [Entries.find?_cons_of_ne, Entries.find?_nil]
    · rw [part?_cons_of_ne (by decide), part?_cons_self]

end Faceted.Suggestion
