import Faceted.Proofs.Service.Traffic

/-!
# The latest search wins

A page is stale exactly when another search was issued between the issue of its own search and the
moment at which it is returned; its hits and its total are those of the answer to its own search in
either case.

The invariant is `Follows`: what a search remembers, told by the events since it was issued. It keeps
the number that it was issued with, and the answer that it has been given. The number of the last
search has gone up by then by the number of searches that have been issued since, so that the two
differ exactly when there was one.
-/

namespace Faceted.Traffic

open Service

/-! ## What a search remembers -/

/-- How far a search has come, by the events since it was issued with a number: it has kept the number,
and the answer is the one that it was given. -/
def Follows (id number : Nat) (es : List Event) : Option Flight → Prop
  | none => False
  | some (.sent n) => n = number ∧ ∀ p, .answered id p ∉ es
  | some (.answered n payload) => n = number ∧ ∀ p, .answered id p ∈ es ↔ p = payload
  | some (.read n result) => n = number ∧ ∃ payload,
    (∀ p, .answered id p ∈ es ↔ p = payload) ∧ SearchPage.read payload = .ok result
  | some .over => True

/-- An event that is not about the search changes nothing about it. -/
theorem Follows.append {id number : Nat} {es : List Event} {e : Event} {flight : Option Flight}
    (h : Follows id number es flight) (he : ∀ p, e ≠ .answered id p) :
    Follows id number (es ++ [e]) flight := by
  have hmem : ∀ p, .answered id p ∈ es ++ [e] ↔ .answered id p ∈ es := by
    intro p
    rw [List.mem_append, List.mem_singleton]
    exact or_iff_left (Ne.symm (he p))
  match flight, h with
  | some (.sent n), ⟨hn, h⟩ => exact ⟨hn, fun p => (hmem p).not.mpr (h p)⟩
  | some (.answered n payload), ⟨hn, h⟩ => exact ⟨hn, fun p => (hmem p).trans (h p)⟩
  | some (.read n result), ⟨hn, payload, h, hr⟩ =>
    exact ⟨hn, payload, fun p => (hmem p).trans (h p), hr⟩
  | some .over, _ => trivial

/-- **Each step keeps what a search remembers.** -/
theorem Step.follows {t u : Traffic} {e : Event} (h : Step t e u) {id number : Nat}
    {es : List Event} (hf : Follows id number es (t.flights id)) :
    Follows id number (es ++ [e]) (u.flights id) := by
  by_cases hid : e.about = some id
  · cases h with
    | other => cases hid
    | issue free =>
      obtain rfl := Option.some.inj hid
      rw [free] at hf
      cases hf
    | answer waiting payload =>
      obtain rfl := Option.some.inj hid
      rw [waiting] at hf
      obtain ⟨rfl, hnone⟩ := hf
      rw [set_flights_self]
      refine ⟨rfl, fun p => ?_⟩
      simp [hnone p]
    | fail | refuse | complete =>
      obtain rfl := Option.some.inj hid
      rw [set_flights_self]
      trivial
    | read answered done =>
      obtain rfl := Option.some.inj hid
      rw [answered] at hf
      obtain ⟨rfl, hpayload⟩ := hf
      rw [set_flights_self]
      exact ⟨rfl, _, fun p => by simp [hpayload p], done⟩
  · rw [h.flights_eq hid]
    refine hf.append ?_
    rintro p rfl
    exact hid rfl

/-- **Every run keeps what a search remembers.** -/
theorem Run.follows {t u : Traffic} {es : List Event} (h : Run t es u) {id number : Nat}
    {before : List Event} (hf : Follows id number before (t.flights id)) :
    Follows id number (before ++ es) (u.flights id) := by
  induction h generalizing before with
  | nil => rwa [List.append_nil]
  | cons step _ ih =>
    have := ih (step.follows hf)
    rwa [List.append_assoc, List.singleton_append] at this

/-! ## One search -/

/-- A search that returns a page has been issued before, once. -/
theorem Run.issued_of_returned {start u : Traffic} (free : ∀ id, start.flights id = none)
    {before after : List Event} {id : Nat} {page : SearchPage}
    (h : Run start (before ++ .returned id page :: after) u) :
    ∃ old between, before = old ++ .issued id :: between ∧ .issued id ∉ old ++ between := by
  obtain ⟨t, _, hbefore, hreturn, -⟩ := h.split_at
  have hflight : t.flights id ≠ none := by
    cases hreturn with
    | complete ready =>
      rw [ready]
      simp
  obtain ⟨old, between, rfl, hold⟩ :=
    List.eq_append_cons_of_mem (hbefore.issued_of_flight (free id) hflight)
  refine ⟨old, between, rfl, ?_⟩
  obtain ⟨_, -, hbetween⟩ := hbefore.split
  simp [hold, hbetween.not_issued_again]

/-- **A page is that of the answer to its own search, and is stale exactly when another search was
issued since its own was.** -/
theorem Run.page_of_returned {start u : Traffic} {old between after : List Event} {id : Nat}
    {page : SearchPage}
    (h : Run start (old ++ .issued id :: between ++ .returned id page :: after) u) :
    ∃ payload result, (∀ p, .answered id p ∈ between ↔ p = payload) ∧
      SearchPage.read payload = .ok result ∧ page.hits = result.hits ∧ page.total = result.total ∧
      (page.stale = true ↔ ∃ other, other ≠ id ∧ .issued other ∈ between) := by
  obtain ⟨s, _, hs, hreturn, -⟩ := h.split_at
  obtain ⟨_, -, hissued⟩ := hs.split
  have hself : .issued id ∉ between := hissued.not_issued_again
  obtain ⟨_, t, -, hissue, hbetween⟩ := hs.split_at
  obtain ⟨-, hsent⟩ := hissue.flight_of_issued
  have hfollows : Follows id t.service.generation between (s.flights id) :=
    @Run.follows _ _ _ hbetween id _ [] (by simp [hsent, Follows])
  have hcount := hbetween.generation_eq
  cases hreturn with
  | @complete _ number result ready =>
    rw [ready] at hfollows
    obtain ⟨rfl, payload, hpayload, hread⟩ := hfollows
    refine ⟨payload, result, hpayload, hread, rfl, rfl, ?_⟩
    show (t.service.generation != s.service.generation) = true ↔ _
    rw [hcount, bne_iff_ne]
    -- the searches counted since are others, for the search itself is not issued again
    constructor
    · intro hne
      have hpos : 0 < between.countP Event.isIssued := by omega
      obtain ⟨e, he, hi⟩ := List.countP_pos_iff.mp hpos
      obtain ⟨other, rfl⟩ := isIssued_iff.mp hi
      refine ⟨other, ?_, he⟩
      rintro rfl
      exact hself he
    · rintro ⟨other, -, he⟩
      have hpos : 0 < between.countP Event.isIssued := List.countP_pos_iff.mpr ⟨_, he, rfl⟩
      omega

/-! ## Several searches -/

/-- One event comes before another. -/
def Precedes (es : List Event) (e f : Event) : Prop :=
  ∃ before between after, es = before ++ e :: between ++ f :: after

/-- A fresh page is returned after no page of a search that was issued later. -/
theorem Run.issued_in_order {start u : Traffic} (free : ∀ id, start.flights id = none)
    {es : List Event} (h : Run start es u) {i j : Nat} {p q : SearchPage}
    (hr : Precedes es (.returned i p) (.returned j q)) (hq : q.stale = false) :
    Precedes es (.issued i) (.issued j) := by
  obtain ⟨a, b, c, rfl⟩ := hr
  have hne : i ≠ j := by
    rintro rfl
    rw [List.append_assoc, List.cons_append] at h
    obtain ⟨_, t, -, hreturn, hrest⟩ := h.split_at
    have hover : t.flights i = some .over := by
      cases hreturn with
      | complete => exact set_flights_self ..
    exact hrest.not_returned hover q (by simp)
  have hi : .issued i ∈ a := by
    rw [List.append_assoc, List.cons_append] at h
    obtain ⟨old, between, rfl, -⟩ := h.issued_of_returned free
    simp
  obtain ⟨old, between, hold, -⟩ := h.issued_of_returned free
  rw [hold] at h ⊢
  obtain ⟨_, _, -, -, -, -, hstale⟩ := h.page_of_returned
  have hbetween : .issued i ∉ between := by
    intro hm
    rw [hstale.mpr ⟨i, hne, hm⟩] at hq
    cases hq
  -- the first search was issued before the second, or the second page would be stale
  have hm : .issued i ∈ old ++ .issued j :: between := by
    rw [← hold]
    exact List.mem_append_left _ hi
  have hmold : .issued i ∈ old := by simpa [hne, hbetween] using hm
  obtain ⟨x, y, rfl⟩ := List.append_of_mem hmold
  exact ⟨x, y, between ++ .returned j q :: c, by simp⟩

/--
**The latest search wins.**

In every run that starts with no search in flight, a page that is returned has the hits and the total
of the answer to its own search, and is stale exactly when some other search was issued in between. So
fresh pages are returned in the order in which their searches were issued, and once a newer search has
been issued, whatever becomes of it, no older one returns a fresh page.
-/
theorem latest_search_wins {start finish : Traffic} {es : List Event} (run : Run start es finish)
    (free : ∀ id, start.flights id = none) :
    (∀ before id page after, es = before ++ .returned id page :: after →
      ∃ old between payload result, before = old ++ .issued id :: between ∧
        .issued id ∉ old ++ between ∧ (∀ p, .answered id p ∈ between ↔ p = payload) ∧
        SearchPage.read payload = .ok result ∧ page.hits = result.hits ∧ page.total = result.total ∧
        (page.stale = true ↔ ∃ other, other ≠ id ∧ .issued other ∈ between)) ∧
    (∀ i j p q, Precedes es (.returned i p) (.returned j q) → p.stale = false → q.stale = false →
      Precedes es (.issued i) (.issued j)) ∧
    (∀ i j page before between since after,
      es = before ++ .issued i :: between ++ .issued j :: since ++ .returned i page :: after →
        page.stale = true) := by
  refine ⟨?_, ?_, ?_⟩
  · rintro before id page after rfl
    obtain ⟨old, between, rfl, hself⟩ := run.issued_of_returned free
    obtain ⟨payload, result, hpage⟩ := run.page_of_returned
    exact ⟨old, between, payload, result, rfl, hself, hpage⟩
  · intro i j p q hr _ hq
    exact run.issued_in_order free hr hq
  · rintro i j page before between since after rfl
    rw [show before ++ .issued i :: between ++ .issued j :: since
      = before ++ .issued i :: (between ++ .issued j :: since) by simp] at run
    obtain ⟨_, _, -, -, -, -, hstale⟩ := run.page_of_returned
    refine hstale.mpr ⟨j, ?_, by simp⟩
    rintro rfl
    -- a search is issued once, so that the newer one is another
    obtain ⟨_, _, hs, -, -⟩ := run.split_at
    obtain ⟨_, -, hrest⟩ := hs.split
    exact hrest.not_issued_again (by simp)

/-- A second search is issued while the first is under way, and fails; the page of the first is stale
nevertheless. -/
theorem latest_search_wins_over_failure :
    let service : Service := ⟨⟨⟨[]⟩, ["ocr"]⟩, "idx", 20, 0⟩
    let payload : Value := .object [("hits", .object [("hits", .list []), ("total", .int 3)])]
    let es : List Event := [.issued 0, .issued 1, .failed 1 .noHits, .answered 0 payload, .read 0]
    (∃ finish, Run ⟨service, fun _ => none⟩ (es ++ [.returned 0 ⟨[], 3, true⟩]) finish) ∧
      ∃ old between, es = old ++ Event.issued 0 :: between ∧
        ∃ other, other ≠ 0 ∧ .issued other ∈ between := by
  intro service payload es
  have hissue : ∀ n, ∃ call records, issue { service with generation := n } (.search ⟨[], none, none⟩ 1)
      = (.sent call (.search 1 (n + 1)), { service with generation := n + 1 }, records) :=
    fun n => ⟨_, _, rfl⟩
  obtain ⟨_, _, h0⟩ := hissue 0
  obtain ⟨_, _, h1⟩ := hissue 1
  have hread : SearchPage.read payload = .ok ⟨[], 3, false⟩ := by rfl
  have hpage : ⟨[], 3, true⟩ = marked { service with generation := 2 } 1 ⟨[], 3, false⟩ := rfl
  have run : ∃ finish, Run ⟨service, fun _ => none⟩ (es ++ [.returned 0 ⟨[], 3, true⟩]) finish := by
    rw [hpage]
    exact ⟨_, .cons (.issue rfl h0) <| .cons (.issue rfl h1) <| .cons (.fail rfl _) <|
      .cons (.answer rfl payload) <| .cons (.read rfl hread) <| .cons (.complete rfl) <| .nil _⟩
  refine ⟨run, ?_⟩
  obtain ⟨_, run⟩ := run
  obtain ⟨old, between, -, -, hb, -, -, -, -, -, hstale⟩ :=
    (latest_search_wins run fun _ => rfl).1 es 0 ⟨[], 3, true⟩ [] rfl
  exact ⟨old, between, hb, hstale.mp rfl⟩

end Faceted.Traffic
