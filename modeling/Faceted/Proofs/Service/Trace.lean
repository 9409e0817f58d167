import Faceted.Proofs.Filter.Reading
import Faceted.Proofs.Query.Expression
import Faceted.Proofs.Service.Scripted
import Faceted.Proofs.Suggestion.OwnFilter

/-!
# What an operation leaves behind

An operation that is rejected leaves no trace: it makes no call, changes no file, and takes no number.
One that is accepted makes one call of its own, the body of a search none; and a search takes one
number, whatever the backend does.

* `Operation.IsRejected` says by the arguments alone which operations are rejected, and
  `Operation.Issues` what comes of the others. There are no more cases: `exists_issues_iff`.
* `issue_of_isRejected` and `issue_of_issues` are about issuing, `runStep_of_isRejected` and
  `runStep_eq` about a step of a script with the steps during its call.
* `service_runStep` and `service_runSteps` follow the number of the last search through a script: it
  counts the searches among all calls, those of steps during other calls included. What carries the
  induction is that calls one after the other are counted one after the other (`counted_append`).
* `runSteps_of_isRejected` and `runStep_of_isRejected_during` take a rejected step out of a script, and
  from under a call.
-/

namespace Faceted

open Compiler

/-! ## Bodies that can be built -/

section

variable {compiler : Compiler}

/-- Without an override, all filters of a state count. -/
theorem Compiler.exists_compile_none_iff {state : FilterState} :
    (∃ query, compiler.compile state none = .ok query) ↔
      ∀ e ∈ FilterState.entries state, e.IsUsable := by
  rw [exists_compile_iff]
  simp [Counts]

/-- Documents can be asked for: the filters can be compiled, and the sort can be used if there is one. -/
def SearchContext.IsUsable (context : SearchContext) : Prop :=
  (∀ e ∈ FilterState.entries context.filters, e.IsUsable) ∧ ∀ option ∈ context.sort, option.IsUsable

theorem SearchContext.exists_searchBody_iff {context : SearchContext} {start size : Int} :
    (∃ body, context.searchBody compiler start size = .ok body) ↔ context.IsUsable :=
  exists_bind_sortField_iff.trans (and_congr_left' exists_compile_none_iff)

theorem SearchContext.exists_exportBody_iff {context : SearchContext} :
    (∃ body, context.exportBody compiler = .ok body) ↔ context.IsUsable :=
  exists_bind_sortField_iff.trans (and_congr_left' exists_compile_none_iff)

/-- **Suggestions have a body exactly when all filters on other facets can be compiled.** -/
theorem Suggestion.exists_body_iff {state : FilterState} {facet : FieldSpec}
    (hkind : facet.kind = .terms) {typed : Option String} {limit : Int} :
    (∃ body, Suggestion.body compiler state facet typed limit = .ok body) ↔
      ∀ e ∈ othersOf facet state, e.IsUsable := by
  refine exists_bind_pure_iff.trans ?_
  rw [exists_compile_iff]
  simp only [← mem_effective_iff]
  cases ht : typedText? typed with
  | none => rw [override?, ht, Option.map_none, effective_none_otherFilters]
  | some text =>
    -- the filter that the typed text stands for can always be compiled
    have hown : (FilterEntry.terms facet [Wildcard.encode text]).IsUsable :=
      (FilterEntry.Fits.terms hkind _).isUsable
    have hall : effective (otherFilters state facet) (some (.terms facet [Wildcard.encode text]))
        = othersOf facet state ++ [.terms facet [Wildcard.encode text]] :=
      effective_some_otherFilters state (.terms facet _)
    rw [override?, ht, Option.map_some, hall, List.forall_mem_append, List.forall_mem_singleton]
    exact and_iff_left hown

end

namespace Service

/-! ## What is rejected and what is not -/

/-- The operation is rejected before anything is sent: a page below one, a filter that cannot be
compiled, a sort that cannot be used, a facet that is unknown or not of terms, or a limit that is not
above zero. For suggestions the sort does not count, nor a filter on the facet itself. -/
def Operation.IsRejected (compiler : Compiler) : Operation → Prop
  | .body context page | .search context page => page < 1 ∨ ¬context.IsUsable
  | .suggest context facet _ limit => ∀ spec, compiler.registry.find? facet = some spec →
    spec.kind ≠ .terms ∨ limit ≤ 0 ∨
      ∃ e ∈ FilterState.entries context.filters, e.spec ≠ spec ∧ ¬e.IsUsable
  | .save context _ => ¬context.IsUsable
  | .close => False

/-- A step is rejected when its operation is, or when its arguments make no operation at all. -/
def Step.IsRejected (compiler : Compiler) : Step → Prop
  | .mk (.error _) _ _ => True
  | .mk (.ok operation) _ _ => operation.IsRejected compiler

/-- What comes of an operation that is accepted: the body of a search, or one call of the backend. -/
inductive Operation.Issues (service : Service) : Operation → Issued → Prop where
  | body {context : SearchContext} {page : Int} {body : Value}
      (built : service.pageBody context page = .ok body) :
    Issues service (.body context page) (.answered (.body body))
  | search {context : SearchContext} {page : Int} {body : Value}
      (built : service.pageBody context page = .ok body) :
    Issues service (.search context page)
      (.sent (.search body) (.search page (service.generation + 1)))
  | suggest {context : SearchContext} {facet : String} {spec : FieldSpec} {typed : Option String}
      {limit : Int} {body : Value} (found : service.suggestFacet facet limit = .ok spec)
      (built : Suggestion.body service.compiler context.filters spec typed limit = .ok body) :
    Issues service (.suggest context facet typed limit)
      (.sent (.proxySearch (service.suggestIndex context) body) (.suggest facet spec typed))
  | save {context : SearchContext} {path : Path} {body : Value}
      (built : context.exportBody service.compiler = .ok body) :
    Issues service (.save context path) (.sent (.download path.name body) (.save path))
  | close : Issues service .close (.sent .close .close)

variable {service : Service}

theorem exists_pageBody_iff {context : SearchContext} {page : Int} :
    (∃ body, service.pageBody context page = .ok body) ↔
      1 ≤ page ∧ context.IsUsable := by
  unfold pageBody
  split
  · next hpage => exact ⟨nofun, fun h => absurd h.1 (by omega)⟩
  · next hpage => rw [SearchContext.exists_searchBody_iff, and_iff_right (by omega)]

theorem suggestFacet_eq_ok_iff {facet : String} {limit : Int} {spec : FieldSpec} :
    service.suggestFacet facet limit = .ok spec ↔
      service.compiler.registry.find? facet = some spec ∧ spec.kind = .terms ∧ 0 < limit := by
  rw [suggestFacet, bind_eq_ok_iff, ← Registry.require_eq_ok_iff]
  constructor
  · rintro ⟨found, hfound, h⟩
    split at h
    · cases h
    · next hkind =>
      split at h
      · cases h
      · next hlimit =>
        obtain rfl := Except.ok.inj h
        exact ⟨hfound, not_not.mp hkind, by omega⟩
  · rintro ⟨hfound, hkind, hlimit⟩
    exact ⟨spec, hfound, by rw [if_neg (not_not.mpr hkind), if_neg (by omega)]; rfl⟩

/-- **The operations that are not rejected are those that come to something.** -/
theorem exists_issues_iff {operation : Operation} :
    (∃ issued, operation.Issues service issued) ↔ ¬operation.IsRejected service.compiler := by
  cases operation with
  | body context page =>
    have h : (∃ issued, Operation.Issues service (.body context page) issued) ↔
        ∃ body, service.pageBody context page = .ok body := by
      constructor
      · rintro ⟨_, h⟩
        cases h with
        | body built => exact ⟨_, built⟩
      · rintro ⟨_, built⟩
        exact ⟨_, .body built⟩
    rw [h, exists_pageBody_iff]
    simp [Operation.IsRejected]
  | search context page =>
    have h : (∃ issued, Operation.Issues service (.search context page) issued) ↔
        ∃ body, service.pageBody context page = .ok body := by
      constructor
      · rintro ⟨_, h⟩
        cases h with
        | search built => exact ⟨_, built⟩
      · rintro ⟨_, built⟩
        exact ⟨_, .search built⟩
    rw [h, exists_pageBody_iff]
    simp [Operation.IsRejected]
  | suggest context facet typed limit =>
    have h : (∃ issued, Operation.Issues service (.suggest context facet typed limit) issued) ↔
        ∃ spec, service.suggestFacet facet limit = .ok spec ∧
          ∃ body, Suggestion.body service.compiler context.filters spec typed limit = .ok body := by
      constructor
      · rintro ⟨_, h⟩
        cases h with
        | suggest found built => exact ⟨_, found, _, built⟩
      · rintro ⟨_, found, _, built⟩
        exact ⟨_, .suggest found built⟩
    rw [h, Operation.IsRejected]
    simp only [not_forall, exists_prop, not_or, not_not, Int.not_le]
    refine exists_congr fun spec => ?_
    rw [suggestFacet_eq_ok_iff, and_assoc, and_assoc]
    refine and_congr_right fun _ => and_congr_right fun hkind => and_congr_right fun _ => ?_
    rw [Suggestion.exists_body_iff hkind]
    simp [Suggestion.othersOf]
  | save context path =>
    have h : (∃ issued, Operation.Issues service (.save context path) issued) ↔
        ∃ body, context.exportBody service.compiler = .ok body := by
      constructor
      · rintro ⟨_, h⟩
        cases h with
        | save built => exact ⟨_, built⟩
      · rintro ⟨_, built⟩
        exact ⟨_, .save built⟩
    rw [h, SearchContext.exists_exportBody_iff]
    simp [Operation.IsRejected]
  | close => exact iff_of_true ⟨_, .close⟩ not_false

/-! ## Calls and numbers -/

/-- The calls that issuing an operation asks for. -/
def Issued.calls : Issued → List BackendCall
  | .sent call _ => [call]
  | _ => []

/-- How an operation ends: its result, the files and the log records, once the backend has answered the
call if there is one. -/
def Issued.complete (service : Service) (tree : FileTree) (answer : Except Fault BackendAnswer) :
    Issued → Except Fault Outcome × FileTree × List LogRecord
  | .refused fault => (.error fault, tree, [])
  | .answered outcome => (.ok outcome, tree, [])
  | .sent _ pending => service.complete tree pending answer

/-- The call sends a search. -/
def isSearch : BackendCall → Bool
  | .search _ => true
  | _ => false

/-- The service after calls: the searches among them are counted. -/
def counted (service : Service) (calls : List BackendCall) : Service :=
  { service with generation := service.generation + calls.countP isSearch }

theorem counted_append (service : Service) (calls more : List BackendCall) :
    (service.counted calls).counted more = service.counted (calls ++ more) := by
  simp only [counted, List.countP_append, Nat.add_assoc]

mutual

/-- All calls of a step: its own, and those of the steps during it. -/
def allCalls : Report → List BackendCall
  | .mk _ calls _ _ during => calls ++ callsOfAll during

/-- All calls of steps one after the other. -/
def callsOfAll : List Report → List BackendCall
  | [] => []
  | report :: reports => allCalls report ++ callsOfAll reports

end

/-- The steps that run during calls: without a call there is no time for them. -/
def stepsDuring (calls : List BackendCall) (steps : List Step) : List Step :=
  if calls.isEmpty then [] else steps

/-! ## Issuing -/

/-- **An operation that is accepted counts itself if it is a search**, and changes nothing else. -/
theorem issue_of_issues {operation : Operation} {issued : Issued} (h : operation.Issues service issued) :
    ∃ records, service.issue operation = (issued, service.counted issued.calls, records) := by
  cases h with
  | body built | search built | save built =>
    simp only [issue, built]
    exact ⟨_, rfl⟩
  | suggest found built =>
    simp only [issue, found, built]
    exact ⟨_, rfl⟩
  | close => exact ⟨_, rfl⟩

/-- **An operation that is rejected changes nothing.** -/
theorem issue_of_isRejected {operation : Operation} (h : operation.IsRejected service.compiler) :
    ∃ fault records, service.issue operation = (.refused fault, service, records) := by
  have hnone : ∀ issued, ¬operation.Issues service issued :=
    not_exists.mp fun hi => exists_issues_iff.mp hi h
  cases operation with
  | body context page =>
    cases hbody : service.pageBody context page with
    | ok body => exact absurd (.body hbody) (hnone _)
    | error fault =>
      simp only [issue, hbody]
      exact ⟨_, _, rfl⟩
  | search context page =>
    cases hbody : service.pageBody context page with
    | ok body => exact absurd (.search hbody) (hnone _)
    | error fault =>
      simp only [issue, hbody]
      exact ⟨_, _, rfl⟩
  | suggest context facet typed limit =>
    cases hspec : service.suggestFacet facet limit with
    | error fault =>
      simp only [issue, hspec]
      exact ⟨_, _, rfl⟩
    | ok spec =>
      cases hbody : Suggestion.body service.compiler context.filters spec typed limit with
      | ok body => exact absurd (.suggest hspec hbody) (hnone _)
      | error fault =>
        simp only [issue, hspec, hbody]
        exact ⟨_, _, rfl⟩
  | save context path =>
    cases hbody : context.exportBody service.compiler with
    | ok body => exact absurd (.save hbody) (hnone _)
    | error fault =>
      simp only [issue, hbody]
      exact ⟨_, _, rfl⟩
  | close => cases h

/-- Whatever comes of an operation, the service after it has counted the calls that are asked for. -/
theorem issue_counted (service : Service) (operation : Operation) :
    ∃ issued records, service.issue operation = (issued, service.counted issued.calls, records) := by
  by_cases h : operation.IsRejected service.compiler
  · obtain ⟨fault, records, hissue⟩ := issue_of_isRejected h
    exact ⟨.refused fault, records, hissue⟩
  · obtain ⟨issued, hissues⟩ := exists_issues_iff.mpr h
    obtain ⟨records, hissue⟩ := issue_of_issues hissues
    exact ⟨issued, records, hissue⟩

/-! ## Steps -/

/-- What a step does, whatever has come of its operation: the steps during its calls run first, and the
operation ends with the service and the files as they leave them. -/
theorem runStep_eq {world : World} {operation : Operation} {issued : Issued} {service : Service}
    {records : List LogRecord} (h : world.service.issue operation = (issued, service, records))
    (answer : Except Fault BackendAnswer) (during : List Step) :
    let ran := runSteps ⟨service, world.tree⟩ (stepsDuring issued.calls during)
    let done := issued.complete ran.2.service ran.2.tree answer
    runStep world (.mk (.ok operation) answer during)
      = (.mk done.1 issued.calls ran.2.service.generation (records ++ done.2.2) ran.1,
        ⟨ran.2.service, done.2.1⟩) := by
  cases issued with
  | refused fault | answered outcome =>
    simp [runStep, h, stepsDuring, Issued.calls, runSteps, Issued.complete]
  | sent call pending => simp only [runStep, h]; rfl

/-- **A step that is rejected leaves no trace.** -/
theorem runStep_of_isRejected {world : World} {step : Step}
    (h : step.IsRejected world.service.compiler) :
    ∃ fault records,
      runStep world step = (.mk (.error fault) [] world.service.generation records [], world) := by
  obtain ⟨operation, answer, during⟩ := step
  cases operation with
  | error fault => exact ⟨fault, [], by rw [runStep]⟩
  | ok operation =>
    obtain ⟨fault, records, hissue⟩ := issue_of_isRejected h
    exact ⟨fault, records, by simp only [runStep, hissue]⟩

mutual

/-- **After a step, the searches among all its calls have been counted.** -/
theorem service_runStep (world : World) : ∀ step : Step,
    (runStep world step).2.service = world.service.counted (allCalls (runStep world step).1)
  | .mk (.error fault) answer during => by
    rw [runStep]
    rfl
  | .mk (.ok operation) answer during => by
    obtain ⟨issued, records, hissue⟩ := issue_counted world.service operation
    -- the steps during the call start from the service that has counted it
    rw [runStep_eq hissue, allCalls, ← counted_append]
    show (runSteps _ (stepsDuring issued.calls during)).2.service = _
    unfold stepsDuring
    split
    · rfl
    · exact service_runSteps _ during

/-- **After a script, the searches among all calls have been counted.** -/
theorem service_runSteps (world : World) : ∀ steps : List Step,
    (runSteps world steps).2.service = world.service.counted (callsOfAll (runSteps world steps).1)
  | [] => by
    rw [runSteps]
    rfl
  | step :: steps => by
    simp only [runSteps, callsOfAll]
    rw [service_runSteps _ steps, service_runStep world step, counted_append]

end

/-! ## Runs -/

/-- A script runs part by part. -/
theorem runSteps_append (world : World) (steps more : List Step) :
    runSteps world (steps ++ more) =
      ((runSteps world steps).1 ++ (runSteps (runSteps world steps).2 more).1,
        (runSteps (runSteps world steps).2 more).2) := by
  induction steps generalizing world with
  | nil => rfl
  | cons step steps ih => simp only [List.cons_append, runSteps, ih]

/-- **A step that is rejected drops out of a script.** -/
theorem runSteps_of_isRejected {world : World} {step : Step}
    (h : step.IsRejected world.service.compiler) (before after : List Step) :
    ∃ reports more last fault generation records,
      runSteps world (before ++ after) = (reports ++ more, last) ∧
      runSteps world (before ++ step :: after)
        = (reports ++ .mk (.error fault) [] generation records [] :: more, last) := by
  -- the compiler is the same all through a script, so that the step is rejected where it stands
  have hmid : step.IsRejected (runSteps world before).2.service.compiler := by
    rw [service_runSteps]
    exact h
  obtain ⟨fault, records, hstep⟩ := runStep_of_isRejected hmid
  refine ⟨_, _, _, fault, (runSteps world before).2.service.generation, records,
    runSteps_append world before after, ?_⟩
  rw [runSteps_append, runSteps]
  simp only [hstep]

/-- What a step comes to itself, without the steps during it. -/
def Report.own : Report → Report
  | .mk result calls generation records _ => .mk result calls generation records []

/-- **A step that is rejected changes nothing about the call that it runs during.** -/
theorem runStep_of_isRejected_during {world : World} {step : Step}
    (h : step.IsRejected world.service.compiler) (operation : Except Fault Operation)
    (answer : Except Fault BackendAnswer) (before after : List Step) :
    (runStep world (.mk operation answer (before ++ step :: after))).1.own
        = (runStep world (.mk operation answer (before ++ after))).1.own ∧
      (runStep world (.mk operation answer (before ++ step :: after))).2
        = (runStep world (.mk operation answer (before ++ after))).2 := by
  cases operation with
  | error fault => exact ⟨rfl, rfl⟩
  | ok operation =>
    obtain ⟨issued, records, hissue⟩ := issue_counted world.service operation
    have hran (sent : World) (hsent : step.IsRejected sent.service.compiler) :
        (runSteps sent (stepsDuring issued.calls (before ++ step :: after))).2
          = (runSteps sent (stepsDuring issued.calls (before ++ after))).2 := by
      unfold stepsDuring
      split
      · rfl
      · obtain ⟨_, _, _, _, _, _, hwithout, hwith⟩ := runSteps_of_isRejected hsent before after
        rw [hwithout, hwith]
    simp only [runStep_eq hissue, Report.own, hran ⟨world.service.counted issued.calls, world.tree⟩ h,
      and_self]

/-! ## Pages -/

/-- The page of a search is stale when its number is not the last one any more. -/
theorem stale_of_complete {service : Service} {tree : FileTree} {page : Int} {number : Nat}
    {answer : Except Fault BackendAnswer} {result : SearchPage}
    (h : (service.complete tree (.search page number) answer).1 = .ok (.page result)) :
    result.stale = (number != service.generation) := by
  cases answer with
  | error fault => cases h
  | ok answer =>
    obtain ⟨marked, hmarked, hpage⟩ := map_eq_ok_iff.mp h
    obtain rfl := Outcome.page.inj hpage
    cases hread : SearchPage.read answer.payload with
    | error fault =>
      simp only [hread] at hmarked
      cases hmarked
    | ok read =>
      simp only [hread] at hmarked
      obtain rfl := Except.ok.inj hmarked
      rfl

/-- **A page is stale exactly when a search was sent during its call.** -/
theorem stale_iff_of_issues {service after : Service} {operation : Operation} {issued : Issued}
    (h : operation.Issues service issued) {calls : List BackendCall}
    (hafter : after = service.counted (issued.calls ++ calls)) {tree : FileTree}
    {answer : Except Fault BackendAnswer} {page : SearchPage}
    (hpage : (issued.complete after tree answer).1 = .ok (.page page)) :
    page.stale = true ↔ 0 < calls.countP isSearch := by
  have hpages : Traffic.resultPages (issued.complete after tree answer).1 = [page] := by
    rw [hpage]
    rfl
  cases h with
  | body => cases hpage
  | suggest | save | close =>
    -- only a search gives a page
    simp [Issued.complete, Traffic.resultPages_of_complete] at hpages
  | search built =>
    rw [stale_of_complete hpage, hafter]
    simp only [counted, Issued.calls, List.countP_append, List.countP_singleton, isSearch, if_true,
      bne_iff_ne]
    omega

/-! ## The trace of an operation -/

/-- How many numbers an operation takes itself. -/
def Operation.numbers : Operation → Nat
  | .search .. => 1
  | _ => 0

theorem countP_calls_of_issues {operation : Operation} {issued : Issued}
    (h : operation.Issues service issued) :
    issued.calls.countP isSearch = operation.numbers := by
  cases h <;> rfl

/--
**What is rejected leaves no trace, and what is accepted makes its call and takes its number.**

A rejected step fails, makes no call, and leaves the service and all files as they were; the same script
without it comes to the same, and so does any call that it runs during.

An accepted operation makes the calls that it issues and no others, whatever the backend does: one for a
search, for suggestions, for an export and for the end, none for a body. Beside the searches that are sent
during its call, the number of the last search goes up by one for a search and by nothing for others; a
page is stale exactly when there was such a search. So after any script the number has gone up by the
searches that were sent.
-/
theorem rejected_or_sent (world : World) :
    (∀ step : Step, step.IsRejected world.service.compiler →
      (∃ fault records,
        runStep world step = (.mk (.error fault) [] world.service.generation records [], world)) ∧
      (∀ before after, ∃ reports more last fault generation records,
        runSteps world (before ++ after) = (reports ++ more, last) ∧
        runSteps world (before ++ step :: after)
          = (reports ++ .mk (.error fault) [] generation records [] :: more, last)) ∧
      ∀ operation answer before after,
        (runStep world (.mk operation answer (before ++ step :: after))).1.own
            = (runStep world (.mk operation answer (before ++ after))).1.own ∧
          (runStep world (.mk operation answer (before ++ step :: after))).2
            = (runStep world (.mk operation answer (before ++ after))).2) ∧
    (∀ operation answer during, ¬operation.IsRejected world.service.compiler →
      ∃ issued records, operation.Issues world.service issued ∧
        let ran := runSteps ⟨world.service.counted issued.calls, world.tree⟩
          (stepsDuring issued.calls during)
        let done := issued.complete ran.2.service ran.2.tree answer
        let searches := (callsOfAll ran.1).countP isSearch
        runStep world (.mk (.ok operation) answer during)
            = (.mk done.1 issued.calls ran.2.service.generation (records ++ done.2.2) ran.1,
              ⟨ran.2.service, done.2.1⟩) ∧
          ran.2.service = { world.service with
            generation := world.service.generation + operation.numbers + searches } ∧
          ∀ page, done.1 = .ok (.page page) → (page.stale = true ↔ 0 < searches)) ∧
    ∀ steps, (runSteps world steps).2.service = { world.service with
      generation := world.service.generation + (callsOfAll (runSteps world steps).1).countP isSearch } := by
  refine ⟨fun step h => ⟨runStep_of_isRejected h, runSteps_of_isRejected h,
    runStep_of_isRejected_during h⟩, ?_, service_runSteps world⟩
  · intro operation answer during h
    obtain ⟨issued, hissues⟩ := exists_issues_iff.mpr h
    obtain ⟨records, hissue⟩ := issue_of_issues hissues
    refine ⟨issued, records, hissues, ?_⟩
    intro ran done searches
    -- its own calls are counted when it is issued, the others by the steps that make them
    have hran : ran.2.service = world.service.counted (issued.calls ++ callsOfAll ran.1) := by
      rw [← counted_append]
      exact service_runSteps _ _
    refine ⟨runStep_eq hissue answer during, ?_, fun page => stale_iff_of_issues hissues hran⟩
    rw [hran, counted, List.countP_append, countP_calls_of_issues hissues, Nat.add_assoc]

/-- A search that fails, during which another search is rejected and a second one is sent: two numbers are
taken. With rejected searches alone during its call, a search that is answered gives a fresh page. -/
theorem rejected_or_sent_during :
    let service : Service := ⟨⟨⟨[]⟩, ["ocr"]⟩, "idx", 20, 4⟩
    let world : World := ⟨service, .empty⟩
    let search (page : Int) : Operation := .search ⟨[], none, none⟩ page
    let answer : BackendAnswer := ⟨.object [("hits", .object [("hits", .list [])])], []⟩
    let rejected : Step := .mk (.ok (search 0)) (.ok answer) []
    let unsorted : Step := .mk (.ok (.search ⟨[], some ⟨"date", [.map [], .int 5]⟩, none⟩ 1)) (.ok answer) []
    rejected.IsRejected service.compiler ∧ unsorted.IsRejected service.compiler ∧
      ¬(search 1).IsRejected service.compiler ∧
      (∃ fault records, runStep world rejected = (.mk (.error fault) [] 4 records [], world)) ∧
      (runStep world (.mk (.ok (search 1)) (.error .noHits)
        [rejected, .mk (.ok (search 2)) (.ok answer) []])).2.service.generation = 6 ∧
      ∃ calls records reports after,
        runStep world (.mk (.ok (search 1)) (.ok answer) [rejected, unsorted])
          = (.mk (.ok (.page ⟨[], 0, false⟩)) calls 5 records reports, after) := by
  intro service world search answer rejected unsorted
  have hrejected : rejected.IsRejected service.compiler := Or.inl (by decide)
  have hunsorted : unsorted.IsRejected service.compiler := by
    refine Or.inr fun husable => ?_
    obtain ⟨m, hm⟩ := husable.2 _ rfl (.int 5) (by simp)
    cases hm
  have haccepted : ¬(search 1).IsRejected service.compiler := by
    rintro (hpage | husable)
    · exact absurd hpage (by decide)
    · exact husable ⟨List.forall_mem_nil _, nofun⟩
  obtain ⟨hnone, hsent, -⟩ := rejected_or_sent world
  refine ⟨hrejected, hunsorted, haccepted, (hnone rejected hrejected).1, ?_, ?_⟩
  · obtain ⟨issued, records, hissues, hrun, hservice, -⟩ := hsent (search 1) (.error .noHits)
      [rejected, .mk (.ok (search 2)) (.ok answer) []] haccepted
    rw [hrun, hservice]
    cases hissues
    rfl
  · obtain ⟨issued, records, hissues, hrun, -⟩ := hsent (search 1) (.ok answer)
      [rejected, unsorted] haccepted
    cases hissues
    exact ⟨_, _, _, _, hrun⟩

end Service

end Faceted
