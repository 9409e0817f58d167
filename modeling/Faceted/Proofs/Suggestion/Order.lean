import Faceted.Proofs.Facet
import Faceted.Proofs.Suggestion.Response
import Faceted.Service
import Mathlib.Algebra.Order.BigOperators.Group.List
import Mathlib.Algebra.Order.Ring.Int

/-!
# The order of suggestions

A facet can ask for its suggestions by falling counts. The request then asks for buckets by falling
numbers of documents. Without an extra clause these are the counts, and reading keeps the order
(`pairwise_suggestions`). With an extra clause the counts are those of its sub-aggregation, which the
order that is asked for does not look at: any counts can come back then, in any order
(`exists_answers_of_extra`).
-/

namespace Faceted

namespace Suggestion

/-! ## The order that is asked for -/

/-- The order that a request asks for. -/
def requestedOrder? (facet : FieldSpec) (request : Value) : Option Value := do
  let aggs ← part? "aggs" request
  let parameters ← listParameters? facet (.map aggs)
  Entries.find? "order" parameters

/-- The buckets keep the order that is asked for: if it is by falling numbers of documents, these fall.
The documents that satisfy the extra clause are some of those in the bucket. -/
structure Honours (facet : FieldSpec) (request : Value) (bs : List Bucket) : Prop where
  sorted : requestedOrder? facet request = some (.object [("_count", .str "desc")]) →
    bs.Pairwise fun a b => b.count ≤ a.count
  within : ∀ b ∈ bs, ∀ n ∈ b.extra, 0 ≤ n ∧ n ≤ b.count

variable {compiler : Compiler} {state : FilterState} {facet : FieldSpec} {typed : Option String}
  {limit : Int} {request : Value}

/-- **A request asks for the order of its facet.** -/
theorem requestedOrder?_of_body (h : body compiler state facet typed limit = .ok request) :
    requestedOrder? facet request = some (orderValue facet.order) := by
  rw [requestedOrder?, part?_aggs_of_body h]
  show (listParameters? facet (.map (requested facet typed limit))).bind (Entries.find? "order") = _
  rw [← aggregations_eq, listParameters?_aggregations, Option.bind_some, listParameters, List.cons_append,
    Entries.find?_cons_of_ne (by decide), List.cons_append, Entries.find?_cons_of_ne (by decide),
    List.cons_append, Entries.find?_cons_self]

/-! ## Without an extra clause -/

/-- **Without an extra clause the counts fall as the numbers of documents do.** -/
theorem pairwise_suggestions {bs : List Bucket} (hextra : facet.extra = none)
    (h : bs.Pairwise fun a b => b.count ≤ a.count) :
    ((bs.map (Bucket.suggestion facet)).filter fun s => 0 < s.count).Pairwise
      fun s t => t.count ≤ s.count := by
  refine List.Pairwise.filter _ (List.pairwise_map.mpr (h.imp ?_))
  intro a b hab
  simpa [Bucket.suggestion, hextra] using hab

/-! ## With an extra clause -/

/-- Buckets with the same number of documents each, as many as all suggestions together count. -/
def levelBuckets (wanted : List TermSuggestion) : List Bucket :=
  wanted.map fun s => ⟨s.term, (wanted.map TermSuggestion.count).sum, some s.count⟩

/-- **With an extra clause any suggestions can come back in any order**, from a response that keeps the
order asked for. -/
theorem exists_answers_of_extra (hextra : facet.extra.isSome)
    (h : body compiler state facet typed limit = .ok request) {wanted : List TermSuggestion}
    (hw : ∀ s ∈ wanted, 0 < s.count) :
    ∃ response bs, Answers request response bs ∧ Honours facet request bs ∧
      read response facet = .ok wanted := by
  have hanswers : Answers request (responseOf facet (levelBuckets wanted)) (levelBuckets wanted) := by
    refine answers_responseOf h ?_
    intro b hb
    obtain ⟨s, -, rfl⟩ := List.mem_map.mp hb
    simp [hextra]
  have hbound : ∀ s ∈ wanted, s.count ≤ (wanted.map TermSuggestion.count).sum := by
    intro s hs
    refine List.single_le_sum ?_ _ (List.mem_map_of_mem hs)
    intro n hn
    obtain ⟨t, ht, rfl⟩ := List.mem_map.mp hn
    exact (hw t ht).le
  obtain ⟨answer, hanswer, hm⟩ := mirrors_of_answers h hanswers
  refine ⟨_, _, hanswers, ⟨fun _ => ?_, ?_⟩, (read_of_mirrors hanswer hm).trans (congrArg _ ?_)⟩
  · exact List.pairwise_map.mpr (List.pairwise_of_forall fun _ _ => le_refl _)
  · intro b hb n hn
    obtain ⟨s, hs, rfl⟩ := List.mem_map.mp hb
    obtain rfl := Option.some.inj hn
    exact ⟨(hw s hs).le, hbound s hs⟩
  · have hsame : (levelBuckets wanted).map (Bucket.suggestion facet) = wanted := by
      rw [levelBuckets, List.map_map, List.map_congr_left, List.map_id]
      intro s _
      simp [Bucket.suggestion, hextra]
    rw [hsame, List.filter_eq_self]
    simpa using hw

end Suggestion

/-! ## The service -/

namespace Service

open Suggestion

variable {service after : Service} {context : SearchContext} {key : String} {typed : Option String}
  {limit : Int} {call : BackendCall} {pending : Pending} {records : List LogRecord}

/-- Suggestions that are asked for: the facet of the key, and the request for it. -/
theorem issue_suggest (h : service.issue (.suggest context key typed limit)
      = (.sent call pending, after, records)) :
    ∃ spec request, service.compiler.registry.find? key = some spec ∧
      body service.compiler context.filters spec typed limit = .ok request ∧
      call = .proxySearch (service.suggestIndex context) request ∧
      pending = .suggest key spec typed := by
  simp only [issue] at h
  split at h
  · cases h
  · next spec hspec =>
    split at h
    · next request hbody =>
      obtain ⟨⟨rfl, rfl⟩, -⟩ : (_ ∧ _) ∧ _ := by simpa using h
      refine ⟨spec, request, ?_, hbody, rfl, rfl⟩
      obtain ⟨found, hfound, h⟩ := bind_eq_ok_iff.mp hspec
      have hsame : found = spec := by
        split at h
        · cases h
        · split at h
          · cases h
          · exact Except.ok.inj h
      rw [← hsame]
      exact Registry.require_eq_ok_iff.mp hfound
    · cases h

/-- A response that is read gives its suggestions, whatever has become of the service meanwhile. -/
theorem complete_suggest {spec : FieldSpec} {response : Value} {suggestions : List TermSuggestion}
    (h : read response spec = .ok suggestions) (now : Service) (tree : FileTree)
    (content : List UInt8) :
    ∃ records, now.complete tree (.suggest key spec typed) (.ok ⟨response, content⟩)
      = (.ok (.suggestions suggestions), tree, records) := by
  simp only [complete, completeSuggest, h]
  exact ⟨_, rfl⟩

/--
**Suggestions by falling counts keep this order where the facet has no extra clause, and only there.**

Whatever is asked for and whatever happens while the call is in flight: without an extra clause every
response that keeps the order asked for gives suggestions whose counts fall. With one, any list of
suggestions is given by some response that keeps the order asked for.
-/
theorem suggestions_fall_without_extra (spec : FieldSpec)
    (hspec : service.compiler.registry.find? key = some spec) (horder : spec.order = .countDescending)
    (hissue : service.issue (.suggest context key typed limit)
      = (.sent call pending, after, records)) :
    ∃ request, call = .proxySearch (service.suggestIndex context) request ∧
      (spec.extra = none → ∀ response bs, Answers request response bs → Honours spec request bs →
        ∃ suggestions, (suggestions.Pairwise fun s t => t.count ≤ s.count) ∧
          ∀ now tree content, ∃ records, complete now tree pending (.ok ⟨response, content⟩)
            = (.ok (.suggestions suggestions), tree, records)) ∧
      (spec.extra ≠ none → ∀ wanted : List TermSuggestion, (∀ s ∈ wanted, 0 < s.count) →
        ∃ response bs, Answers request response bs ∧ Honours spec request bs ∧
          ∀ now tree content, ∃ records, complete now tree pending (.ok ⟨response, content⟩)
            = (.ok (.suggestions wanted), tree, records)) := by
  obtain ⟨found, request, hfound, hbody, hcall, rfl⟩ := issue_suggest hissue
  obtain rfl := Option.some.inj (hspec.symm.trans hfound)
  refine ⟨request, hcall, ?_, ?_⟩
  · intro hextra response bs hanswers hhonours
    have hsorted := hhonours.sorted (by rw [requestedOrder?_of_body hbody, horder]; rfl)
    obtain ⟨answer, hanswer, hm⟩ := mirrors_of_answers hbody hanswers
    exact ⟨_, pairwise_suggestions hextra hsorted, complete_suggest (read_of_mirrors hanswer hm)⟩
  · intro hextra wanted hw
    obtain ⟨response, bs, hanswers, hhonours, hread⟩ :=
      exists_answers_of_extra (Option.isSome_iff_ne_none.mpr hextra) hbody hw
    exact ⟨response, bs, hanswers, hhonours, complete_suggest hread⟩

/-- Two facets by falling counts, the second with an extra clause: the first keeps the order of two
buckets, the second can give rising counts. -/
theorem suggestions_fall_without_extra_parties :
    let party : FieldSpec := ⟨"party", .terms, .countDescending, none, none⟩
    let ally : FieldSpec :=
      ⟨"persons.party", .terms, .countDescending, some (.term "persons.type" "mp"), none⟩
    let service : Service := ⟨⟨⟨[("party", party), ("ally", ally)]⟩, ["ocr"]⟩, "idx", 20, 0⟩
    (∃ request pending after records,
      service.issue (.suggest ⟨[], none, none⟩ "party" (some "p") 5)
        = (.sent (.proxySearch "idx" request) pending, after, records) ∧
      ∃ response suggestions, Answers request response [⟨"PS", 9, none⟩, ⟨"RPR", 4, none⟩] ∧
        (suggestions.Pairwise fun s t => t.count ≤ s.count) ∧
        ∀ now tree content, ∃ records, complete now tree pending (.ok ⟨response, content⟩)
          = (.ok (.suggestions suggestions), tree, records)) ∧
    ∃ request pending after records,
      service.issue (.suggest ⟨[], none, none⟩ "ally" none 5)
        = (.sent (.proxySearch "idx" request) pending, after, records) ∧
      ∃ response bs, Answers request response bs ∧ Honours ally request bs ∧
        ∀ now tree content, ∃ records, complete now tree pending (.ok ⟨response, content⟩)
          = (.ok (.suggestions [⟨"PS", 1⟩, ⟨"RPR", 5⟩]), tree, records) := by
  intro party ally service
  refine ⟨?_, ?_⟩
  · obtain ⟨request, records, hbody, hissue⟩ : ∃ request records,
        body service.compiler [] party (some "p") 5 = .ok request ∧
        service.issue (.suggest ⟨[], none, none⟩ "party" (some "p") 5)
          = (.sent (.proxySearch "idx" request) (.suggest "party" party (some "p")), service, records) :=
      ⟨_, _, rfl, rfl⟩
    obtain ⟨_, hcall, hsorted, -⟩ := suggestions_fall_without_extra party rfl rfl hissue
    obtain rfl := (BackendCall.proxySearch.inj hcall).2
    have hanswers : Answers request (responseOf party _) [⟨"PS", 9, none⟩, ⟨"RPR", 4, none⟩] :=
      answers_responseOf hbody (by simp [party])
    obtain ⟨suggestions, hpairwise, hcomplete⟩ :=
      hsorted rfl _ _ hanswers ⟨fun _ => by simp, by simp⟩
    exact ⟨_, _, _, _, hissue, _, suggestions, hanswers, hpairwise, hcomplete⟩
  · obtain ⟨request, records, hissue⟩ : ∃ request records,
        service.issue (.suggest ⟨[], none, none⟩ "ally" none 5)
          = (.sent (.proxySearch "idx" request) (.suggest "ally" ally none), service, records) :=
      ⟨_, _, rfl⟩
    obtain ⟨_, hcall, -, hany⟩ := suggestions_fall_without_extra ally rfl rfl hissue
    obtain rfl := (BackendCall.proxySearch.inj hcall).2
    exact ⟨_, _, _, _, hissue, hany (by simp [ally]) _ (by simp)⟩

/-- Ten documents, one of which satisfies the extra clause, before five that all do. -/
theorem suggestions_rise_with_extra :
    let party : FieldSpec :=
      ⟨"party", .terms, .countDescending, some (.term "type" "mp"), none⟩
    let service : Service := ⟨⟨⟨[("party", party)]⟩, ["ocr"]⟩, "idx", 20, 0⟩
    let bs : List Bucket := [⟨"PS", 10, some 1⟩, ⟨"RPR", 5, some 5⟩]
    ∃ request response records more,
      service.issue (.suggest ⟨[], none, none⟩ "party" none 15)
        = (.sent (.proxySearch "idx" request) (.suggest "party" party none), service, records) ∧
      Answers request response bs ∧ Honours party request bs ∧
      service.complete .empty (.suggest "party" party none) (.ok ⟨response, []⟩)
        = (.ok (.suggestions [⟨"PS", 1⟩, ⟨"RPR", 5⟩]), .empty, more) ∧
      ¬[(⟨"PS", 1⟩ : TermSuggestion), ⟨"RPR", 5⟩].Pairwise fun s t => t.count ≤ s.count := by
  intro party service bs
  obtain ⟨request, records, hbody, hissue⟩ : ∃ request records,
      body service.compiler [] party none 15 = .ok request ∧
      service.issue (.suggest ⟨[], none, none⟩ "party" none 15)
        = (.sent (.proxySearch "idx" request) (.suggest "party" party none), service, records) :=
    ⟨_, _, rfl, rfl⟩
  have hanswers : Answers request (responseOf party bs) bs :=
    answers_responseOf hbody (by simp [bs, party])
  obtain ⟨answer, hanswer, hm⟩ := mirrors_of_answers hbody hanswers
  obtain ⟨more, hcomplete⟩ := complete_suggest (read_of_mirrors hanswer hm) service .empty []
  refine ⟨request, _, records, more, hissue, hanswers, ⟨fun _ => ?_, ?_⟩, hcomplete, ?_⟩
  · simp [bs]
  · simp [bs]
  · simp

end Service

end Faceted
