import Faceted.Proofs.Command.Ending
import Faceted.Proofs.Journal
import Faceted.Proofs.Service.Export

/-!
# The record of a command that fails

A command that fails says why in the journal, before its service is closed: the record of its template has
the name of the command and the message of the fault (`report_error`). That the record gets to the
console and to the log file needs the journal to be set up until then: carrying an operation out keeps it so
(`isSetUp_carryOut`), even if it exports to the log file itself. What is logged after the record leaves it
where it is (`run_of_failure`).
-/

namespace Faceted

open Service Journal FileTree

variable {σ : Type} {respond : σ → BackendCall → BackendReply × σ} {known : σ} {level : Int}
  {file : Option Path} {place : Workplace}

/-! ## Filling a template with texts -/

namespace Template

/-- The place of a text that is to stand as it is. -/
def textPlace : Place := ⟨none, ⟨false, false, false, false, false⟩, .given 0, none, 's'⟩

theorem Slot.text_eq (slot : Slot) (hwidth : slot.width = 0) (hprecision : slot.precision = none)
    (cs : List Char) : slot.text cs = cs := by
  simp [Slot.text, Slot.pad, hwidth, hprecision, Text.fill]

theorem fill?_textPlace (s : String) (rest : List Value) :
    textPlace.fill? none (.queue (.str s :: rest)) = some (s.toList, .queue rest) := by
  let slot : Slot := ⟨textPlace.flags, 0, none⟩
  have hname : textPlace.name = none := rfl
  have hslot : textPlace.resolve? (.queue (.str s :: rest)) = some (slot, .queue (.str s :: rest)) := rfl
  have hwrite : slot.write? textPlace.letter (.str s) = some (slot.text s.toList) := rfl
  rw [slot.text_eq rfl rfl] at hwrite
  simp only [Place.fill?, hname, hslot, Supply.next?, hwrite, Option.bind_eq_bind, Option.bind_some]
  rfl

end Template

/-! ## The workplace -/

namespace Workplace

/-- The journal of the workplace is set up for its files. -/
def IsSetUp (level : Int) (file : Option Path) (place : Workplace) : Prop :=
  Journal.IsSetUp level file place.journal place.tree

/-- **What is logged is shown after what has been shown, and appended to the log file.** -/
theorem isSetUp_log (h : place.IsSetUp level file) (records : List LogRecord) :
    (place.log records).shown = place.shown ++ String.join
        (records.map fun record => shownText level place.now record.severity.number record.message) ∧
      Appends place.tree
        (records.flatMap fun record => appendedTexts file place.now record.severity.number record.message)
        (place.log records).tree ∧
      (place.log records).IsSetUp level file := by
  obtain ⟨hshown, happends, hset⟩ := isSetUp_writeAll h place.now records
  rw [← hshown]
  exact ⟨rfl, happends, hset⟩

/-- The journal is set up still, at the same time, and what has been shown before has not changed. -/
structure Continues (level : Int) (file : Option Path) (place after : Workplace) : Prop where
  isSetUp : after.IsSetUp level file
  now : after.now = place.now
  shown : ∃ more, after.shown = place.shown ++ more

namespace Continues

variable {after : Workplace}

theorem refl (h : place.IsSetUp level file) : Continues level file place place :=
  ⟨h, rfl, "", String.append_empty.symm⟩

theorem log (h : Continues level file place after) (records : List LogRecord) :
    Continues level file place (after.log records) := by
  obtain ⟨more, hmore⟩ := h.shown
  obtain ⟨hshown, -, hset⟩ := isSetUp_log h.isSetUp records
  exact ⟨hset, h.now, _, by rw [hshown, hmore, String.append_assoc]⟩

/-- Completing an operation keeps the log file, whatever it writes. -/
theorem complete (h : Continues level file place after) (service : Service) (pending : Pending)
    (answer : Except Fault BackendAnswer) :
    Continues level file place { after with tree := (service.complete after.tree pending answer).2.1 } :=
  ⟨h.isSetUp.of_files fun _ _ => (keeps_complete service after.tree pending answer).exists_file, h.now,
    h.shown⟩

theorem print (h : Continues level file place after) (result : Except Fault String) :
    Continues level file place (after.print result) := by
  cases result with
  | ok text => exact ⟨h.isSetUp, h.now, h.shown⟩
  | error fault => exact h

end Continues

theorem log_append (place : Workplace) (records more : List LogRecord) :
    place.log (records ++ more) = (place.log records).log more := by
  simp only [log, writeAll_append, String.append_assoc]

end Workplace

namespace Command

/-! ## Carrying out -/

/-- **Carrying an operation out leaves the journal set up.** -/
theorem continues_carryOut (h : place.IsSetUp level file) (service : Service) (operation : Operation) :
    place.Continues level file ((carryOut service operation place).run respond known).2.1.2.2 := by
  have hstart := Workplace.Continues.refl h
  obtain ⟨issued, records, hissue⟩ := issue_counted service operation
  rw [carryOut, hissue]
  cases issued with
  | refused fault => exact hstart.log records
  | answered outcome => exact hstart.log records
  | sent call pending => exact (((hstart.log records).log _).complete _ pending _).log _

theorem continues_perform (respond : σ → BackendCall → BackendReply × σ) (known : σ)
    (h : place.IsSetUp level file) (command : Command) (settings : Settings) (service : Service) :
    place.Continues level file
      ((command.perform settings service place).run respond known).2.1.2.2 := by
  rw [perform]
  cases command.context settings place.dates place.tree with
  | error fault => exact .refl h
  | ok context =>
    simp only [Dialogue.run_map]
    exact (continues_carryOut h service (command.action.operation context)).print _

theorem complete_close (service : Service) (tree : FileTree) (answer : Except Fault BackendAnswer) :
    ∃ records, service.complete tree .close answer = (.ok .closed, tree, records) := by
  cases answer <;> exact ⟨_, rfl⟩

/-- Closing does nothing to the workplace but log. -/
theorem run_close (respond : σ → BackendCall → BackendReply × σ) (known : σ) (service : Service)
    (place : Workplace) :
    ∃ result records last, (carryOut service .close place).run respond known =
      ([.close], (result, service, place.log records), last) := by
  let reply := (respond known .close).1
  obtain ⟨records, hcomplete⟩ :=
    complete_close service ((place.log []).log reply.records).tree reply.answer
  refine ⟨.ok .closed, [] ++ reply.records ++ records, (respond known .close).2, ?_⟩
  rw [Workplace.log_append, Workplace.log_append]
  simp only [carryOut, issue, Dialogue.run]
  rw [hcomplete]

/-! ## The record -/

/-- The record of a fault that a command failed for. -/
def failure (command : Command) (fault : Fault) : LogRecord :=
  ⟨.error, command.action.title ++ " failed: " ++ fault.message⟩

/-- **A command that fails logs its name and the message of the fault.** -/
theorem report_error (command : Command) (fault : Fault) (place : Workplace) :
    command.report (.error fault) place = place.log [command.failure fault] := by
  have hpieces : Template.pieces? "%s failed: %s".toList = some
      (.place Template.textPlace :: " failed: ".toList.map .char ++ [.place Template.textPlace]) := by
    decide +kernel
  have hfilled (name message : String) : Template.fillIn? "%s failed: %s" [.str name, .str message] =
      some (name ++ " failed: " ++ message) := by
    simp only [Template.fillIn?, hpieces, Option.bind_eq_bind, Option.bind_some]
    simp [Template.fillAll?, Template.fill?_textPlace, Template.Supply.isDone, ← String.toList_inj]
  rw [report, LogRecord.filled, hfilled]
  rfl

/-- The record is in a text for the console, if a console takes it that takes records from a number on, and it
is in the log file if there is one. -/
structure Recorded (level : Int) (file : Option Path) (now : Moment) (record : LogRecord) (shown : String)
    (tree : FileTree) : Prop where
  console : ∃ before more,
    shown = before ++ shownText level now record.severity.number record.message ++ more
  written : ∀ path ∈ file, ∃ before more, tree.at? path = some (.file
    (before ++ (line now record.severity.number record.message).toUTF8.toList ++ more))

theorem recorded_log (h : place.IsSetUp level file) {record : LogRecord}
    (hdebug : Severity.debug.number ≤ record.severity.number) (more : List LogRecord) :
    Recorded level file place.now record (place.log (record :: more)).shown
      (place.log (record :: more)).tree := by
  obtain ⟨hshown, happends, -⟩ := Workplace.isSetUp_log h (record :: more)
  rw [List.map_cons, String.join_cons, ← String.append_assoc] at hshown
  refine ⟨⟨_, _, hshown⟩, fun path hpath => ?_⟩
  obtain rfl := Option.mem_def.mp hpath
  rw [List.flatMap_cons, appendedTexts, if_pos hdebug] at happends
  exact happends.exists_at?_of_cons

/-- **A command that fails has left its record when it is aborted**, whatever is logged after it. -/
theorem run_of_failure (h : place.IsSetUp level file) {command : Command} {settings : Settings}
    (prebuilt : Option Service) {fault : Fault}
    (hfails : command.text respond known settings (prebuilt.getD settings.service) place = .error fault) :
    let ran := (command.run settings prebuilt place).run respond known
    ran.2.1.1 = none ∧
      Recorded level file place.now (command.failure fault) ran.2.1.2.shown ran.2.1.2.tree := by
  obtain ⟨made, done, last, hrun, -⟩ :=
    run_perform respond known command settings (prebuilt.getD settings.service) place
  have hcontinues : place.Continues level file done := by
    have hperformed := continues_perform respond known h command settings
      (prebuilt.getD settings.service)
    rwa [hrun] at hperformed
  have hrecorded (more : List LogRecord) : Recorded level file place.now (command.failure fault)
      (done.log (command.failure fault :: more)).shown (done.log (command.failure fault :: more)).tree := by
    rw [← hcontinues.now]
    exact recorded_log hcontinues.isSetUp Severity.error.debug_le more
  rw [run, Dialogue.run_bind, hrun, hfails]
  cases prebuilt with
  | some service =>
    refine ⟨rfl, ?_⟩
    show Recorded _ _ _ _ (command.report _ done).shown (command.report _ done).tree
    rw [report_error]
    exact hrecorded []
  | none =>
    -- the records of the closing come after the one of the fault
    obtain ⟨result, records, final, hclose⟩ :=
      run_close respond last made (command.report (.error fault) done)
    simp only [Dialogue.run_map, hclose]
    refine ⟨rfl, ?_⟩
    rw [report_error, ← Workplace.log_append, List.singleton_append]
    exact hrecorded records

end Command

end Faceted
