import Faceted.Service
import Faceted.Proofs.Basic
import Mathlib.Logic.Function.Basic

/-!
# Searches in flight

The service as several callers see it at once. A search goes through four steps: it is issued, which
gives it the next number; the backend answers or fails; the answer is read or cannot be; and the page is
returned with the mark of staleness. Between two steps of one search any steps of others may come, those
of searches that are issued while its call is under way included. Other operations come in between as
well.

* `Step` has one rule for each kind of step and says which event it is.
* `Run` is any sequence of steps, with the events in order.
* `issue_cases` says once what issuing an operation can come to; `Step.generation_eq` and
  `Run.generation_eq` count the searches that have been issued.
-/

namespace Faceted

namespace Service

/-- **What issuing can come to.** A search that is sent takes the next number; nothing else changes the
service. -/
theorem issue_cases {service after : Service} {operation : Operation} {issued : Issued}
    {records : List LogRecord} (h : service.issue operation = (issued, after, records)) :
    (after = service ∧ ∀ call page number, issued ≠ .sent call (.search page number)) ∨
    ∃ context page body, operation = .search context page ∧ service.pageBody context page = .ok body ∧
      issued = .sent (.search body) (.search page (service.generation + 1)) ∧
      after = { service with generation := service.generation + 1 } := by
  cases operation with
  | body context page =>
    simp only [issue] at h
    split at h <;>
    · obtain ⟨rfl, rfl, -⟩ := h
      simp
  | search context page =>
    simp only [issue] at h
    split at h
    · next body hb =>
      obtain ⟨rfl, rfl, -⟩ := h
      exact Or.inr ⟨context, page, body, rfl, hb, rfl, rfl⟩
    · obtain ⟨rfl, rfl, -⟩ := h
      simp
  | suggest context facet typed limit =>
    simp only [issue] at h
    split at h
    · obtain ⟨rfl, rfl, -⟩ := h
      simp
    · split at h <;>
      · obtain ⟨rfl, rfl, -⟩ := h
        simp
  | save context path =>
    simp only [issue] at h
    split at h <;>
    · obtain ⟨rfl, rfl, -⟩ := h
      simp
  | close =>
    obtain ⟨rfl, rfl, -⟩ := h
    simp

end Service

/-- How far a search has come. -/
inductive Traffic.Flight where
  /-- Its call is under way. -/
  | sent (number : Nat)
  /-- The backend has answered. -/
  | answered (number : Nat) (payload : Value)
  /-- The answer has been read. -/
  | read (number : Nat) (result : SearchPage)
  /-- It has returned a page, or has failed. -/
  | over

/-- The service with the searches that have been issued, each under a name of its own. -/
structure Traffic where
  service : Service
  flights : Nat → Option Traffic.Flight

namespace Traffic

open Service

/-- What a step does to be seen from outside. -/
inductive Event where
  /-- A search is issued. -/
  | issued (id : Nat)
  /-- The backend answers a search. -/
  | answered (id : Nat) (payload : Value)
  /-- The backend fails a search. -/
  | failed (id : Nat) (fault : Fault)
  /-- The answer to a search is read. -/
  | read (id : Nat)
  /-- The answer to a search cannot be read. -/
  | unreadable (id : Nat) (fault : Fault)
  /-- A search returns a page. -/
  | returned (id : Nat) (page : SearchPage)
  /-- Another operation is asked for, or a search that is refused. -/
  | other

/-- A search has come this far. -/
def set (t : Traffic) (id : Nat) (flight : Flight) : Traffic :=
  { t with flights := Function.update t.flights id (some flight) }

/-- One step, and the event that it is. -/
inductive Step : Traffic → Event → Traffic → Prop where
  | issue {t : Traffic} {id : Nat} {context : SearchContext} {page : Int} {call : BackendCall}
      {number : Nat} {service : Service} {records : List LogRecord} (free : t.flights id = none)
      (sent : t.service.issue (.search context page)
        = (.sent call (.search page number), service, records)) :
    Step t (.issued id) (set { t with service := service } id (.sent number))
  | other {t : Traffic} {operation : Operation} {issued : Issued} {service : Service}
      {records : List LogRecord} (done : t.service.issue operation = (issued, service, records))
      (unsent : ∀ call page number, issued ≠ .sent call (.search page number)) :
    Step t .other { t with service := service }
  | answer {t : Traffic} {id number : Nat} (waiting : t.flights id = some (.sent number))
      (payload : Value) : Step t (.answered id payload) (t.set id (.answered number payload))
  | fail {t : Traffic} {id number : Nat} (waiting : t.flights id = some (.sent number))
      (fault : Fault) : Step t (.failed id fault) (t.set id .over)
  | read {t : Traffic} {id number : Nat} {payload : Value} {result : SearchPage}
      (answered : t.flights id = some (.answered number payload))
      (done : SearchPage.read payload = .ok result) :
    Step t (.read id) (t.set id (.read number result))
  | refuse {t : Traffic} {id number : Nat} {payload : Value} {fault : Fault}
      (answered : t.flights id = some (.answered number payload))
      (done : SearchPage.read payload = .error fault) :
    Step t (.unreadable id fault) (t.set id .over)
  | complete {t : Traffic} {id number : Nat} {result : SearchPage}
      (ready : t.flights id = some (.read number result)) :
    Step t (.returned id (t.service.marked number result)) (t.set id .over)

/-- Steps one after the other, with their events. -/
inductive Run : Traffic → List Event → Traffic → Prop where
  | nil (t : Traffic) : Run t [] t
  | cons {t u v : Traffic} {e : Event} {es : List Event} (step : Step t e u) (run : Run u es v) :
    Run t (e :: es) v

/-! ## Runs -/

theorem Run.append {t u v : Traffic} {es fs : List Event} (h : Run t es u) (k : Run u fs v) :
    Run t (es ++ fs) v := by
  induction h with
  | nil => exact k
  | cons step _ ih => exact .cons step (ih k)

/-- A run comes apart wherever its events do. -/
theorem Run.split {t v : Traffic} {es fs : List Event} (h : Run t (es ++ fs) v) :
    ∃ u, Run t es u ∧ Run u fs v := by
  induction es generalizing t with
  | nil => exact ⟨t, .nil t, h⟩
  | cons e es ih =>
    cases h with
    | cons step run =>
      obtain ⟨u, hes, hfs⟩ := ih run
      exact ⟨u, .cons step hes, hfs⟩

/-- A run comes apart around any of its events. -/
theorem Run.split_at {t v : Traffic} {es fs : List Event} {e : Event} (h : Run t (es ++ e :: fs) v) :
    ∃ u w, Run t es u ∧ Step u e w ∧ Run w fs v := by
  obtain ⟨u, hes, hrest⟩ := h.split
  cases hrest with
  | cons step run => exact ⟨u, _, hes, step, run⟩

/-! ## The number of the last search -/

/-- A search is issued. -/
def Event.isIssued : Event → Bool
  | .issued _ => true
  | _ => false

theorem isIssued_iff {e : Event} : e.isIssued = true ↔ ∃ id, e = .issued id := by
  cases e <;> simp [Event.isIssued]

/-- A step that issues a search counts one further, any other step leaves the number as it is. -/
theorem Step.generation_eq {t u : Traffic} {e : Event} (h : Step t e u) :
    u.service.generation = t.service.generation + if e.isIssued then 1 else 0 := by
  cases h with
  | issue _ sent =>
    rcases issue_cases sent with ⟨-, hn⟩ | ⟨_, _, _, -, -, -, rfl⟩
    · exact absurd rfl (hn _ _ _)
    · rfl
  | other done unsent =>
    rcases issue_cases done with ⟨rfl, -⟩ | ⟨_, _, _, -, -, rfl, -⟩
    · rfl
    · exact absurd rfl (unsent _ _ _)
  | answer | fail | read | refuse | complete => rfl

/-- **The number of the last search counts the searches that have been issued.** -/
theorem Run.generation_eq {t u : Traffic} {es : List Event} (h : Run t es u) :
    u.service.generation = t.service.generation + es.countP Event.isIssued := by
  induction h with
  | nil => rfl
  | cons step _ ih =>
    rw [ih, step.generation_eq, List.countP_cons]
    omega

/-- The search that is issued has the number that is the last one then. -/
theorem Step.flight_of_issued {t u : Traffic} {id : Nat} (h : Step t (.issued id) u) :
    t.flights id = none ∧ u.flights id = some (.sent u.service.generation) := by
  cases h with
  | issue free sent =>
    rcases issue_cases sent with ⟨-, hn⟩ | ⟨_, _, _, -, -, hi, rfl⟩
    · exact absurd rfl (hn _ _ _)
    · simp only [Issued.sent.injEq, Pending.search.injEq] at hi
      obtain ⟨-, -, rfl⟩ := hi
      exact ⟨free, Function.update_self ..⟩

/-! ## Names -/

theorem set_flights_self (t : Traffic) (id : Nat) (flight : Flight) :
    (t.set id flight).flights id = some flight := Function.update_self ..

theorem set_flights_of_ne {id other : Nat} (h : id ≠ other) (t : Traffic) (flight : Flight) :
    (t.set other flight).flights id = t.flights id := Function.update_of_ne h ..

/-- The search that an event is about. -/
def Event.about : Event → Option Nat
  | .issued id | .answered id _ | .failed id _ | .read id | .unreadable id _ | .returned id _ => some id
  | .other => none

/-- A step leaves the searches alone that it is not about. -/
theorem Step.flights_eq {t u : Traffic} {e : Event} (h : Step t e u) {id : Nat}
    (hid : e.about ≠ some id) : u.flights id = t.flights id := by
  cases h with
  | other => rfl
  | issue | answer | fail | read | refuse | complete =>
    exact set_flights_of_ne (fun he => hid (congrArg some he.symm)) _ _

/-- A run leaves the searches alone that none of its events is about. -/
theorem Run.flights_eq {t u : Traffic} {es : List Event} (h : Run t es u) {id : Nat}
    (hid : ∀ e ∈ es, e.about ≠ some id) : u.flights id = t.flights id := by
  induction h with
  | nil => rfl
  | cons step _ ih =>
    obtain ⟨he, hes⟩ := List.forall_mem_cons.mp hid
    rw [ih hes, step.flights_eq he]

/-- A step about a search that has been issued does not issue it again. -/
theorem Step.taken {t u : Traffic} {e : Event} (h : Step t e u) {id : Nat}
    (ht : t.flights id ≠ none) : u.flights id ≠ none ∧ e ≠ .issued id := by
  refine ⟨?_, ?_⟩
  · by_cases hid : e.about = some id
    · cases h with
      | other => cases hid
      | issue | answer | fail | read | refuse | complete =>
        obtain rfl := Option.some.inj hid
        rw [set_flights_self]
        simp
    · rw [h.flights_eq hid]
      exact ht
  · rintro rfl
    exact ht h.flight_of_issued.1

/-- A search that has not been issued comes to nothing but being issued. -/
theorem Step.free {t u : Traffic} {e : Event} (h : Step t e u) {id : Nat}
    (ht : t.flights id = none) (he : e ≠ .issued id) : u.flights id = none := by
  rw [h.flights_eq, ht]
  intro hid
  cases h with
  | other => cases hid
  | issue =>
    obtain rfl := Option.some.inj hid
    exact he rfl
  | answer h' | fail h' | read h' | refuse h' | complete h' =>
    obtain rfl := Option.some.inj hid
    rw [ht] at h'
    cases h'

/-- A search that is over stays so, and returns nothing. -/
theorem Step.over {t u : Traffic} {e : Event} (h : Step t e u) {id : Nat}
    (ht : t.flights id = some .over) :
    u.flights id = some .over ∧ ∀ page, e ≠ .returned id page := by
  have hid : e.about ≠ some id := by
    intro hid
    cases h with
    | other => cases hid
    | issue h' | answer h' | fail h' | read h' | refuse h' | complete h' =>
      obtain rfl := Option.some.inj hid
      rw [ht] at h'
      cases h'
  refine ⟨(h.flights_eq hid).trans ht, ?_⟩
  rintro page rfl
  exact hid rfl

/-- **A search is issued once.** -/
theorem Run.not_issued {t u : Traffic} {es : List Event} (h : Run t es u) {id : Nat}
    (ht : t.flights id ≠ none) : .issued id ∉ es := by
  induction h with
  | nil => exact List.not_mem_nil
  | cons step _ ih =>
    obtain ⟨hu, he⟩ := step.taken ht
    intro hm
    rcases List.mem_cons.mp hm with rfl | hm
    · exact he rfl
    · exact ih hu hm

theorem Run.not_issued_again {t u : Traffic} {es : List Event} {id : Nat}
    (h : Run t (.issued id :: es) u) : .issued id ∉ es := by
  cases h with
  | cons step run =>
    refine run.not_issued ?_
    rw [step.flight_of_issued.2]
    simp

/-- **A search comes to something after it was issued only.** -/
theorem Run.issued_of_flight {t u : Traffic} {es : List Event} (h : Run t es u) {id : Nat}
    (ht : t.flights id = none) (hu : u.flights id ≠ none) : .issued id ∈ es := by
  induction h with
  | nil => exact absurd ht hu
  | @cons t _ _ e es step _ ih =>
    by_cases he : e = .issued id
    · exact he ▸ List.mem_cons_self
    · exact List.mem_cons_of_mem _ (ih (step.free ht he) hu)

/-- **A search that is over returns nothing more.** -/
theorem Run.not_returned {t u : Traffic} {es : List Event} (h : Run t es u) {id : Nat}
    (ht : t.flights id = some .over) (page : SearchPage) : .returned id page ∉ es := by
  induction h with
  | nil => exact List.not_mem_nil
  | cons step _ ih =>
    obtain ⟨hu, he⟩ := step.over ht
    intro hm
    rcases List.mem_cons.mp hm with rfl | hm
    · exact he page rfl
    · exact ih hu hm

end Traffic

end Faceted
