import Faceted.Command
import Faceted.Proofs.Service.Trace

/-!
# How a command ends

A command reads its filters and its sort, has the service carry one operation out, and writes what comes of
it as a text. Each of the three can fail; then nothing is printed. A service that was made for the command is
closed at the very end, after all other calls and whatever has happened before.

* `Prints` says for each action which text it prints and what has to go right for it, by the answer of
  the backend alone. `text_eq_ok_iff` shows that this is the text of the command.
* `run_carryOut` and `run_perform` say once what running these parts comes to.
* What the closing is answered with plays no part (`closingWith`), since the text is there before it.
-/

namespace Faceted

open Service

variable {σ : Type}

/-! ## The workplace -/

namespace Workplace

@[simp]
theorem printed_print (place : Workplace) (result : Except Fault String) :
    (place.print result).printed = place.printed ++ result.toOption.getD "" := by
  cases result with
  | ok text => rfl
  | error fault => exact String.append_empty.symm

end Workplace

/-! ## Carrying out -/

/-- Those who answer all questions that are asked in the same way come to the same. -/
theorem Dialogue.run_congr {Q A α : Type} {respond others : σ → Q → A × σ} {known : σ} {d : Dialogue Q A α}
    (h : ∀ question ∈ (d.run respond known).1, ∀ known, others known question = respond known question) :
    d.run others known = d.run respond known := by
  induction d generalizing known with
  | done result => rfl
  | ask question next ih =>
    rw [run] at h
    obtain ⟨hfirst, hrest⟩ := List.forall_mem_cons.mp h
    -- the first answer is the same, so that the same questions follow it
    have hsame := ih _ hrest
    simp only [run, hfirst, hsame]

theorem Dialogue.run_map {Q A α β : Type} (respond : σ → Q → A × σ) (known : σ) (d : Dialogue Q A α)
    (f : α → β) :
    (d.map f).run respond known =
      ((d.run respond known).1, f (d.run respond known).2.1, (d.run respond known).2.2) := by
  rw [map, run_bind]
  simp only [run, List.append_nil]

/-- Only closing asks for the closing of the backend. -/
theorem Service.close_notMem_issued (service : Service) {operation : Operation} (h : operation ≠ .close) :
    .close ∉ (service.issue operation).1.calls := by
  by_cases hrejected : operation.IsRejected service.compiler
  · obtain ⟨fault, records, hissue⟩ := issue_of_isRejected hrejected
    rw [hissue]
    exact List.not_mem_nil
  · obtain ⟨issued, hissues⟩ := exists_issues_iff.mpr hrejected
    obtain ⟨records, hissue⟩ := issue_of_issues hissues
    rw [hissue]
    cases hissues with
    | close => exact absurd rfl h
    | body | search | suggest | save => simp [Issued.calls]

namespace Command

variable (respond : σ → BackendCall → BackendReply × σ) (known : σ)

/-- **Carrying an operation out makes the calls that it issues**, and prints nothing. -/
theorem run_carryOut {service after : Service} {operation : Operation} {issued : Issued}
    {records : List LogRecord} (h : service.issue operation = (issued, after, records)) (place : Workplace) :
    ∃ result done last, (carryOut service operation place).run respond known =
      (issued.calls, (result, after, done), last) ∧ done.printed = place.printed := by
  rw [carryOut, h]
  cases issued with
  | refused fault => exact ⟨.error fault, place.log records, known, rfl, rfl⟩
  | answered outcome => exact ⟨.ok outcome, place.log records, known, rfl, rfl⟩
  | sent call pending => exact ⟨_, _, _, rfl, rfl⟩

/-- What an operation comes to when it is carried out. -/
def outcome (service : Service) (operation : Operation) (place : Workplace) : Except Fault Outcome :=
  ((carryOut service operation place).run respond known).2.1.1

/-- The text that a command has to print, unless it fails: what the operation comes to, as it is written. -/
def text (command : Command) (settings : Settings) (service : Service) (place : Workplace) :
    Except Fault String := do
  let context ← command.context settings place.dates place.tree
  let outcome ← outcome respond known service (command.action.operation context) place
  command.output service.pageSize outcome

/-! ## Outcomes by the answer of the backend -/

section

variable {respond known} {service after : Service} {operation : Operation} {context : SearchContext}
  {place : Workplace} {records : List LogRecord}

theorem outcome_of_refused {fault : Fault} (h : service.issue operation = (.refused fault, after, records)) :
    outcome respond known service operation place = .error fault := by
  rw [outcome, carryOut, h]
  rfl

theorem outcome_of_answered {result : Outcome}
    (h : service.issue operation = (.answered result, after, records)) :
    outcome respond known service operation place = .ok result := by
  rw [outcome, carryOut, h]
  rfl

theorem outcome_of_sent {call : BackendCall} {pending : Pending}
    (h : service.issue operation = (.sent call pending, after, records)) :
    outcome respond known service operation place =
      (after.complete ((place.log records).log (respond known call).1.records).tree pending
        (respond known call).1.answer).1 := by
  rw [outcome, carryOut, h]
  rfl

/-- Printing a body comes to the body of the page. -/
theorem outcome_body (page : Int) :
    outcome respond known service (.body context page) place =
      (service.pageBody context page).map .body := by
  cases hbody : service.pageBody context page with
  | error fault => exact outcome_of_refused (by simp only [issue, hbody]; rfl)
  | ok body => exact outcome_of_answered (by simp only [issue, hbody]; rfl)

/-- A search comes to the page that the backend answers its body with. -/
theorem outcome_search (page : Int) :
    outcome respond known service (.search context page) place =
      (service.pageBody context page >>= fun body => (respond known (.search body)).1.answer >>= fun answer =>
        (SearchPage.read answer.payload).map fun result => .page { result with stale := false }) := by
  cases hbody : service.pageBody context page with
  | error fault => exact outcome_of_refused (by simp only [issue, hbody]; rfl)
  | ok body =>
    have hissue : service.issue (.search context page) =
        (.sent (.search body) (.search page (service.generation + 1)),
          { service with generation := service.generation + 1 }, service.pageRecords context page) := by
      simp only [issue, hbody]
    rw [outcome_of_sent hissue, ok_bind]
    cases (respond known (.search body)).1.answer with
    | error fault => rfl
    | ok answer =>
      simp only [complete, completeSearch, ok_bind]
      cases SearchPage.read answer.payload with
      | error fault => rfl
      | ok result => simp [marked, Except.map]

/-- Suggestions come to the terms that the backend answers their body with. -/
theorem outcome_suggest (facet : String) (typed : Option String) (limit : Int) :
    outcome respond known service (.suggest context facet typed limit) place =
      (service.suggestFacet facet limit >>= fun spec =>
        Suggestion.body service.compiler context.filters spec typed limit >>= fun body =>
        (respond known (.proxySearch (service.suggestIndex context) body)).1.answer >>= fun answer =>
        (Suggestion.read answer.payload spec).map .suggestions) := by
  cases hspec : service.suggestFacet facet limit with
  | error fault => exact outcome_of_refused (by simp only [issue, hspec]; rfl)
  | ok spec =>
    rw [ok_bind]
    cases hbody : Suggestion.body service.compiler context.filters spec typed limit with
    | error fault => exact outcome_of_refused (by simp only [issue, hspec, hbody]; rfl)
    | ok body =>
      have hissue : service.issue (.suggest context facet typed limit) =
          (.sent (.proxySearch (service.suggestIndex context) body) (.suggest facet spec typed), service,
            Suggestion.bodyRecords service.compiler context.filters spec typed limit) := by
        simp only [issue, hspec, hbody]
      rw [outcome_of_sent hissue, ok_bind]
      cases (respond known (.proxySearch (service.suggestIndex context) body)).1.answer with
      | error fault => rfl
      | ok answer =>
        simp only [complete, completeSuggest, ok_bind]
        cases Suggestion.read answer.payload spec <;> rfl

/-- The files when a download has come: what has been logged until then may have gone to them. -/
def filesAfter (place : Workplace) (records : List LogRecord) (reply : BackendReply) : FileTree :=
  ((place.log records).log reply.records).tree

/-- An export comes to the file that the backend's download is written to. -/
theorem outcome_save (path : Path) :
    outcome respond known service (.save context path) place =
      (context.exportBody service.compiler >>= fun body =>
        (respond known (.download path.name body)).1.answer >>= fun answer =>
        (completeSave (filesAfter place (service.compiler.records context.filters none)
          (respond known (.download path.name body)).1) path answer.content).1.map fun _ =>
            .saved path answer.content) := by
  cases hbody : context.exportBody service.compiler with
  | error fault => exact outcome_of_refused (by simp only [issue, hbody]; rfl)
  | ok body =>
    have hissue : service.issue (.save context path) = (.sent (.download path.name body) (.save path), service,
        service.compiler.records context.filters none) := by
      simp only [issue, hbody]
    rw [outcome_of_sent hissue, ok_bind]
    cases (respond known (.download path.name body)).1.answer with
    | error fault => rfl
    | ok answer => rfl

end

/-! ## What is printed -/

/-- **The text that an action prints**, with all that has to go right for it: a search prints the page that the
answer to its body holds, each hit with its rank; suggestions print the terms and counts that the answer holds; an
export prints nothing, but its download has been written; and compiling prints the JSON text of the body. -/
inductive Prints (service : Service) (context : SearchContext) (place : Workplace) : Action → String → Prop where
  | search {page : Int} {body : Value} {answer : BackendAnswer} {result : SearchPage} {text : String}
    (built : service.pageBody context page = .ok body)
    (answered : (respond known (.search body)).1.answer = .ok answer)
    (read : SearchPage.read answer.payload = .ok result)
    (written : Listing.pageWritten result [] ((page - 1) * service.pageSize) = .ok text) :
    Prints service context place (.search page) text
  | suggest {facet : String} {typed : Option String} {limit : Int} {spec : FieldSpec} {body : Value}
    {answer : BackendAnswer} {suggestions : List TermSuggestion} {text : String}
    (found : service.suggestFacet facet limit = .ok spec)
    (built : Suggestion.body service.compiler context.filters spec typed limit = .ok body)
    (answered : (respond known (.proxySearch (service.suggestIndex context) body)).1.answer = .ok answer)
    (read : Suggestion.read answer.payload spec = .ok suggestions)
    (written : Listing.suggestionsWritten suggestions = .ok text) :
    Prints service context place (.suggest facet typed limit) text
  | save {path : Path} {body : Value} {answer : BackendAnswer}
    (built : context.exportBody service.compiler = .ok body)
    (answered : (respond known (.download path.name body)).1.answer = .ok answer)
    (written : (completeSave (filesAfter place (service.compiler.records context.filters none)
      (respond known (.download path.name body)).1) path answer.content).1 = .ok ()) :
    Prints service context place (.save path) ""
  | compile {page : Int} {body : Value} {text : String} (built : service.pageBody context page = .ok body)
    (written : Json.document body = .ok text) : Prints service context place (.compile page) text

/-- **The text of a command is what its action prints**, in the context that its filters and its sort make. -/
theorem text_eq_ok_iff {command : Command} {settings : Settings} {service : Service} {place : Workplace}
    {text : String} :
    command.text respond known settings service place = .ok text ↔
      ∃ context, command.context settings place.dates place.tree = .ok context ∧
        Prints respond known service context place command.action text := by
  obtain ⟨action, filters, sort⟩ := command
  rw [Command.text, bind_eq_ok_iff]
  refine exists_congr fun context => and_congr_right fun _ => bind_eq_ok_iff.trans ?_
  cases action with
  | search page =>
    simp only [Action.operation, outcome_search, bind_eq_ok_iff, map_eq_ok_iff]
    constructor
    · rintro ⟨_, ⟨body, built, answer, answered, result, read, rfl⟩, written⟩
      exact .search built answered read written
    · intro h
      cases h with | search built answered read written =>
      exact ⟨_, ⟨_, built, _, answered, _, read, rfl⟩, written⟩
  | suggest facet typed limit =>
    simp only [Action.operation, outcome_suggest, bind_eq_ok_iff, map_eq_ok_iff]
    constructor
    · rintro ⟨_, ⟨spec, found, body, built, answer, answered, suggestions, read, rfl⟩, written⟩
      exact .suggest found built answered read written
    · intro h
      cases h with | suggest found built answered read written =>
      exact ⟨_, ⟨_, found, _, built, _, answered, _, read, rfl⟩, written⟩
  | save path =>
    simp only [Action.operation, outcome_save, bind_eq_ok_iff, map_eq_ok_iff]
    constructor
    · rintro ⟨_, ⟨body, built, answer, answered, ⟨⟩, saved, rfl⟩, written⟩
      obtain rfl := Except.ok.inj written
      exact .save built answered saved
    · intro h
      cases h with | save built answered written =>
      exact ⟨_, ⟨_, built, _, answered, _, written, rfl⟩, rfl⟩
  | compile page =>
    simp only [Action.operation, outcome_body, map_eq_ok_iff]
    constructor
    · rintro ⟨_, ⟨body, built, rfl⟩, written⟩
      exact .compile built written
    · intro h
      cases h with | compile built written =>
      exact ⟨_, ⟨_, built, rfl⟩, written⟩

/-- The calls that a command makes with a service that is not closed. -/
def calls (command : Command) (settings : Settings) (service : Service) (place : Workplace) :
    List BackendCall :=
  match command.context settings place.dates place.tree with
  | .error _ => []
  | .ok context => (service.issue (command.action.operation context)).1.calls

theorem run_perform (command : Command) (settings : Settings) (service : Service) (place : Workplace) :
    ∃ after done last, (command.perform settings service place).run respond known =
      (command.calls settings service place,
        (command.text respond known settings service place, after, done), last) ∧
      done.printed =
        place.printed ++ (command.text respond known settings service place).toOption.getD "" := by
  rw [perform, calls, text]
  cases command.context settings place.dates place.tree with
  | error fault => exact ⟨service, place, known, rfl, String.append_empty.symm⟩
  | ok context =>
    obtain ⟨issued, records, hissue⟩ := issue_counted service (command.action.operation context)
    obtain ⟨result, done, last, hrun, hprinted⟩ := run_carryOut respond known hissue place
    let text := result.bind (command.output service.pageSize)
    refine ⟨service.counted issued.calls, done.print text, last, ?_, ?_⟩
    · simp only [Dialogue.run_map, hrun, hissue, ok_bind, outcome]
      rfl
    · rw [Workplace.printed_print, hprinted, ok_bind, outcome, hrun]
      rfl

/-! ## The whole run -/

@[simp]
theorem printed_report (command : Command) (result : Except Fault String) (place : Workplace) :
    (command.report result place).printed = place.printed := by
  cases result <;> rfl

/-- **A run is that of the parts of a command**, with one more call at the end for a service of its own. -/
theorem run_run (command : Command) (settings : Settings) (prebuilt : Option Service) (place : Workplace) :
    let service := prebuilt.getD settings.service
    let text := command.text respond known settings service place
    ∃ after last, (command.run settings prebuilt place).run respond known =
      (command.calls settings service place ++ (if prebuilt.isNone then [.close] else []),
        (text.toOption, after), last) ∧
      after.printed = place.printed ++ text.toOption.getD "" := by
  intro service text
  obtain ⟨made, done, last, hrun, hprinted⟩ : ∃ made done last,
      (command.perform settings service place).run respond known =
        (command.calls settings service place, (text, made, done), last) ∧
      done.printed = place.printed ++ text.toOption.getD "" :=
    run_perform respond known command settings service place
  rw [run, Dialogue.run_bind, hrun]
  cases prebuilt with
  | some _ =>
    refine ⟨command.report text done, last, rfl, ?_⟩
    rw [printed_report, hprinted]
  | none =>
    -- the service is closed after the report, so that what is printed is settled before it
    have hissue : made.issue .close = (.sent .close .close, made, []) := rfl
    obtain ⟨closed, left, final, hclose, hleft⟩ :=
      run_carryOut respond last hissue (command.report text done)
    refine ⟨left, final, ?_, by rw [hleft, printed_report, hprinted]⟩
    simp only [Dialogue.run_map, hclose]
    rfl

/-- The operation of a command does not close the service. -/
theorem close_notMem_calls (command : Command) (settings : Settings) (service : Service) (place : Workplace) :
    .close ∉ command.calls settings service place := by
  rw [calls]
  cases command.context settings place.dates place.tree with
  | error fault => exact List.not_mem_nil
  | ok context =>
    have hoperation : command.action.operation context ≠ .close := by
      cases command.action <;> exact nofun
    exact close_notMem_issued service hoperation

/-- Answers a closing with a reply, and other calls as before. -/
def closingWith (reply : BackendReply) (respond : σ → BackendCall → BackendReply × σ) (known : σ) :
    BackendCall → BackendReply × σ
  | .close => (reply, known)
  | call => respond known call

/-- What a closing is answered with does not change the text of a command. -/
theorem text_closingWith (reply : BackendReply) (command : Command) (settings : Settings) (service : Service)
    (place : Workplace) :
    command.text (closingWith reply respond) known settings service place =
      command.text respond known settings service place := by
  obtain ⟨made, done, last, hrun, -⟩ :=
    run_perform respond known command settings service place
  obtain ⟨made', done', last', hrun', -⟩ :=
    run_perform (closingWith reply respond) known command settings service place
  -- the two answer only a closing differently, and the command asks for none
  have hsame : (command.perform settings service place).run (closingWith reply respond) known =
      (command.perform settings service place).run respond known := by
    refine Dialogue.run_congr fun call hcall known => ?_
    rw [hrun] at hcall
    cases call with
    | close => exact absurd hcall (close_notMem_calls command settings service place)
    | search _ | proxySearch _ _ | download _ _ => rfl
  rw [hrun, hrun'] at hsame
  exact (Prod.mk.inj (Prod.mk.inj (Prod.mk.inj hsame).2).1).1

/--
**A command closes the service that is made for it once and last, and prints everything or nothing.**

Whatever the command, the settings, the files and the backend are, and wherever something goes wrong:

* A service that was made for the command is closed once, after all other calls. One that was there before
  is not closed.
* Either all goes right from the filters and the sort to the answer of the backend and the writing, and then
  the text that the action prints, a page, suggestions, a body or nothing, is printed as a whole; or the command
  is aborted, and nothing is printed.
* What the closing is answered with, be it a failure, changes neither the calls nor the ending nor what is
  printed.
-/
theorem closes_once_prints_whole (respond : σ → BackendCall → BackendReply × σ) (known : σ)
    (command : Command) (settings : Settings) (prebuilt : Option Service) (place : Workplace) :
    let service := prebuilt.getD settings.service
    let ran := (command.run settings prebuilt place).run respond known
    let prints (text : String) : Prop :=
      ∃ context, command.context settings place.dates place.tree = .ok context ∧
        Prints respond known service context place command.action text
    (∃ sent, .close ∉ sent ∧ ran.1 = sent ++ if prebuilt.isNone then [.close] else []) ∧
    ((∃ text, prints text ∧ ran.2.1.1 = some text ∧ ran.2.1.2.printed = place.printed ++ text) ∨
      (¬∃ text, prints text) ∧ ran.2.1.1 = none ∧ ran.2.1.2.printed = place.printed) ∧
    ∀ reply,
      let other := (command.run settings prebuilt place).run (closingWith reply respond) known
      other.1 = ran.1 ∧ other.2.1.1 = ran.2.1.1 ∧ other.2.1.2.printed = ran.2.1.2.printed := by
  intro service ran prints
  obtain ⟨after, last, hrun, hprinted⟩ :=
    run_run respond known command settings prebuilt place
  have hran : ran = _ := hrun
  have hprints (text : String) : prints text ↔ command.text respond known settings service place = .ok text :=
    (text_eq_ok_iff respond known).symm
  refine ⟨⟨_, close_notMem_calls command settings service place, by rw [hran]⟩, ?_, ?_⟩
  · rw [hran]
    cases htext : command.text respond known settings service place with
    | ok text =>
      rw [htext] at hprinted
      exact Or.inl ⟨text, (hprints text).mpr htext, rfl, hprinted⟩
    | error fault =>
      rw [htext] at hprinted
      have hnone : ¬∃ text, prints text := by
        simp [hprints, htext]
      exact Or.inr ⟨hnone, rfl, by rw [hprinted]; exact String.append_empty⟩
  · intro reply other
    obtain ⟨after', last', hrun', hprinted'⟩ :=
      run_run (closingWith reply respond) known command settings prebuilt place
    have hother : other = _ := hrun'
    rw [hother, hran]
    dsimp only
    rw [hprinted, hprinted', text_closingWith respond known]
    exact ⟨rfl, rfl, rfl⟩

end Command

end Faceted
