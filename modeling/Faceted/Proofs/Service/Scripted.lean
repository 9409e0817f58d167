import Faceted.Service.Script
import Faceted.Proofs.Service.Traffic

/-!
# Scripted runs are runs

The runner of scripts lets further steps run while a call is in flight, and completes the call with
the service as they leave it. Each script that it runs is one of the runs of the service that several
callers see: `exists_run_of_runSteps`. The order in which the pages are returned is kept, so that what
holds of the pages of every run holds of those that are reported.

The names of the searches are counted upwards. What carries the induction is that a step takes names
from the first free one on only; so the search whose call is in flight is found again as it was left.
-/

namespace Faceted.Traffic

open Service

/-! ## Pages in order -/

/-- The page that an event returns. -/
def Event.page? : Event → Option SearchPage
  | .returned _ page => some page
  | _ => none

/-- The page of a result. -/
def resultPages : Except Fault Outcome → List SearchPage
  | .ok (.page page) => [page]
  | _ => []

mutual

/-- The pages that a step returns: those of the steps during its call, and its own. -/
def pages : Report → List SearchPage
  | .mk result _ _ _ during => allPages during ++ resultPages result

/-- The pages that steps return one after the other. -/
def allPages : List Report → List SearchPage
  | [] => []
  | report :: reports => pages report ++ allPages reports

end

/-! ## Runs that take new names only -/

/-- There is a run from one service to another that returns these pages, in which all searches have
names that were free. -/
def Reaches (service : Service) (ps : List SearchPage) (after : Service) : Prop :=
  ∀ flights k, (∀ id, k ≤ id → flights id = none) → ∃ es u k',
    Run ⟨service, flights⟩ es u ∧ u.service = after ∧ es.filterMap Event.page? = ps ∧
      k ≤ k' ∧ ∀ e ∈ es, ∀ id, e.about = some id → k ≤ id ∧ id < k'

theorem Reaches.refl (service : Service) : Reaches service [] service := by
  intro flights k _
  exact ⟨[], _, k, .nil _, rfl, rfl, Nat.le_refl k, by simp⟩

/-- The names that are free after a run are those that it has not taken. -/
theorem Run.free_of_about {t u : Traffic} {es : List Event} (run : Run t es u) {k k' : Nat}
    (free : ∀ id, k ≤ id → t.flights id = none) (hk : k ≤ k')
    (names : ∀ e ∈ es, ∀ id, e.about = some id → k ≤ id ∧ id < k') :
    ∀ id, k' ≤ id → u.flights id = none := by
  intro id hid
  rw [run.flights_eq, free id (by omega)]
  intro e he hab
  have := (names e he id hab).2
  omega

theorem Reaches.trans {s t u : Service} {ps qs : List SearchPage} (h : Reaches s ps t)
    (h' : Reaches t qs u) : Reaches s (ps ++ qs) u := by
  intro flights k free
  obtain ⟨es, ⟨_, flights₁⟩, k₁, run₁, rfl, rfl, hk₁, names₁⟩ := h flights k free
  obtain ⟨fs, v, k₂, run₂, rfl, rfl, hk₂, names₂⟩ :=
    h' flights₁ k₁ (run₁.free_of_about free hk₁ names₁)
  refine ⟨es ++ fs, v, k₂, run₁.append run₂, rfl, List.filterMap_append, by omega, ?_⟩
  intro e he id hab
  rcases List.mem_append.mp he with he | he
  · have := names₁ e he id hab
    omega
  · have := names₂ e he id hab
    omega

/-- An operation that does not send a search is one step. -/
theorem Reaches.other {service after : Service} {operation : Operation} {issued : Issued}
    {records : List LogRecord} (h : service.issue operation = (issued, after, records))
    (unsent : ∀ call page number, issued ≠ .sent call (.search page number)) :
    Reaches service [] after := by
  intro flights k _
  refine ⟨[.other], _, k, .cons (.other h unsent) (.nil _), rfl, rfl, Nat.le_refl k, ?_⟩
  simp [Event.about]

/-- What completing a search comes to, as a run: its answer or its failure, and what follows from it. -/
theorem exists_run_of_complete {t : Traffic} {id number : Nat}
    (h : t.flights id = some (.sent number)) (tree : FileTree) (page : Int)
    (answer : Except Fault BackendAnswer) :
    ∃ es u, Run t es u ∧ u.service = t.service ∧
      es.filterMap Event.page? = resultPages (t.service.complete tree (.search page number) answer).1 ∧
      ∀ e ∈ es, e.about = some id := by
  cases answer with
  | error fault =>
    exact ⟨[.failed id fault], _, .cons (.fail h fault) (.nil _), rfl, rfl, by simp [Event.about]⟩
  | ok answer =>
    have hanswered := set_flights_self t id (.answered number answer.payload)
    cases hread : SearchPage.read answer.payload with
    | error fault =>
      refine ⟨[.answered id answer.payload, .unreadable id fault], _,
        .cons (.answer h answer.payload) (.cons (.refuse hanswered hread) (.nil _)), rfl, ?_, ?_⟩
      · simp [Event.page?, complete, completeSearch, hread, Except.map, resultPages]
      · simp [Event.about]
    | ok result =>
      have hready := set_flights_self (t.set id (.answered number answer.payload)) id
        (.read number result)
      refine ⟨[.answered id answer.payload, .read id, .returned id (t.service.marked number result)], _,
        .cons (.answer h answer.payload) (.cons (.read hanswered hread)
          (.cons (.complete hready) (.nil _))), rfl, ?_, ?_⟩
      · simp [List.filterMap_cons, Event.page?, complete, completeSearch, hread, Except.map,
          resultPages]
      · simp [Event.about]

/-- A search takes the first free name, the steps during its call take the names after it, and it is
completed with the service as they leave it. -/
theorem Reaches.search {service issued after : Service} {context : SearchContext} {page : Int}
    {call : BackendCall} {number : Nat} {records : List LogRecord}
    (h : service.issue (.search context page) = (.sent call (.search page number), issued, records))
    {ps : List SearchPage} (during : Reaches issued ps after) (tree : FileTree)
    (answer : Except Fault BackendAnswer) :
    Reaches service (ps ++ resultPages (after.complete tree (.search page number) answer).1) after := by
  intro flights k free
  let sent := set ⟨issued, flights⟩ k (.sent number)
  have hfree : ∀ id, k + 1 ≤ id → sent.flights id = none := by
    intro id hid
    exact (set_flights_of_ne (by omega) _ _).trans (free id (by omega))
  obtain ⟨es, t, k', run₁, rfl, rfl, hk, names₁⟩ := during sent.flights (k + 1) hfree
  -- no step during the call takes the name of the search
  have hsent : t.flights k = some (.sent number) := by
    rw [run₁.flights_eq]
    · exact set_flights_self ..
    · intro e he hab
      have := (names₁ e he k hab).1
      omega
  obtain ⟨fs, u, run₂, hservice, hpage, names₂⟩ := exists_run_of_complete hsent tree page answer
  refine ⟨.issued k :: (es ++ fs), u, k', .cons (.issue (free k (Nat.le_refl k)) h) (run₁.append run₂),
    hservice, ?_, by omega, ?_⟩
  · rw [List.filterMap_cons_none rfl, List.filterMap_append, hpage]
  · intro e he id hab
    rcases List.mem_cons.mp he with rfl | he
    · obtain rfl := Option.some.inj hab
      omega
    · rcases List.mem_append.mp he with he | he
      · have := names₁ e he id hab
        omega
      · obtain rfl := Option.some.inj ((names₂ e he).symm.trans hab)
        omega

/-! ## Scripts -/

/-- An operation that is answered at once gives no page. -/
theorem resultPages_of_answered {service after : Service} {operation : Operation} {outcome : Outcome}
    {records : List LogRecord} (h : service.issue operation = (.answered outcome, after, records)) :
    resultPages (.ok outcome) = [] := by
  cases operation with
  | body context page =>
    simp only [issue] at h
    split at h
    · obtain ⟨rfl, -⟩ := h
      rfl
    · cases h
  | search context page | save context path =>
    simp only [issue] at h
    split at h <;> cases h
  | suggest context facet typed limit =>
    simp only [issue] at h
    split at h
    · cases h
    · split at h <;> cases h
  | close => cases h

/-- Only a search gives a page when it is completed. -/
theorem resultPages_of_complete (service : Service) (tree : FileTree) {pending : Pending}
    (h : ∀ page number, pending ≠ .search page number) (answer : Except Fault BackendAnswer) :
    resultPages (service.complete tree pending answer).1 = [] := by
  cases pending with
  | search page number => exact absurd rfl (h page number)
  | close => cases answer <;> rfl
  | suggest facet spec typed =>
    cases answer with
    | error fault => rfl
    | ok answer =>
      show resultPages ((completeSuggest facet spec typed answer.payload).1.map .suggestions) = []
      cases (completeSuggest facet spec typed answer.payload).1 <;> rfl
  | save path =>
    cases answer with
    | error fault => rfl
    | ok answer =>
      show resultPages ((completeSave tree path answer.content).1.map _) = []
      cases (completeSave tree path answer.content).1 <;> rfl

mutual

/-- **The run of a step is a run.** -/
theorem reaches_runStep (world : World) : ∀ step : Service.Step,
    Reaches world.service (pages (runStep world step).1) (runStep world step).2.service
  | .mk (.error fault) answer during => by
    rw [runStep]
    exact .refl world.service
  | .mk (.ok operation) answer during => by
    obtain ⟨issued, service, records, hissue⟩ : ∃ issued service records,
        world.service.issue operation = (issued, service, records) := ⟨_, _, _, rfl⟩
    simp only [runStep, hissue]
    cases issued with
    | refused fault => exact .other hissue (by simp)
    | answered outcome =>
      simp only [pages, resultPages_of_answered hissue]
      exact .other hissue (by simp)
    | sent call pending =>
      have hduring := reaches_runSteps { world with service := service } during
      rcases issue_cases hissue with ⟨-, hn⟩ | ⟨context, page, body, rfl, -, hi, -⟩
      · have hpending : ∀ page number, pending ≠ .search page number := by
          rintro page number rfl
          exact hn call page number rfl
        simp only [pages, resultPages_of_complete _ _ hpending, List.append_nil]
        exact (Reaches.other hissue hn).trans hduring
      · obtain ⟨rfl, rfl⟩ := Issued.sent.inj hi
        exact .search hissue hduring _ answer

/-- **The run of a script is a run.** -/
theorem reaches_runSteps (world : World) : ∀ steps : List Service.Step,
    Reaches world.service (allPages (runSteps world steps).1) (runSteps world steps).2.service
  | [] => by
    rw [runSteps]
    exact .refl world.service
  | step :: steps => by
    simp only [runSteps]
    exact (reaches_runStep world step).trans (reaches_runSteps _ steps)

end

/-- **The run of a script is a run of the service with no search in flight at its start that returns the
pages that are reported, in the same order.** -/
theorem exists_run_of_runSteps (world : World) (steps : List Service.Step) :
    ∃ es finish, Run ⟨world.service, fun _ => none⟩ es finish ∧
      finish.service = (runSteps world steps).2.service ∧
      es.filterMap Event.page? = allPages (runSteps world steps).1 := by
  obtain ⟨es, finish, _, run, hservice, hpages, -⟩ :=
    reaches_runSteps world steps (fun _ => none) 0 fun _ _ => rfl
  exact ⟨es, finish, run, hservice, hpages⟩

end Faceted.Traffic
