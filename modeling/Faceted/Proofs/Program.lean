import Faceted.DateText
import Faceted.Program
import Faceted.Proofs.Command.Failure
import Mathlib

/-!
# How the program ends

The settings are read and the journal is set up before the command begins. What goes wrong there ends the
program with the fault itself, which no one logs (`FailsBefore`); what goes wrong later is logged, and the
command is aborted. `fails_iff_before_command` says so for all settings, files, commands and answers of the
search proxy.

The search proxy is a backend for the command (`HttpClient.reply`), so that all that is known about commands
applies (`run_carry`).
-/

namespace Faceted

open Journal

variable {σ : Type} {respond : σ → Option HttpPost → Except Fault HttpResponse × σ} {known : σ}

/-! ## The search proxy as a backend -/

namespace HttpClient

/-- What the search proxy is asked for a call. -/
def asks (client : HttpClient) (call : BackendCall) : List (Option HttpPost) :=
  match client.post? call with
  | .ok question => [question]
  | .error _ => []

/-- How the search proxy replies to a call. -/
def reply (client : HttpClient) (respond : σ → Option HttpPost → Except Fault HttpResponse × σ) (known : σ)
    (call : BackendCall) : BackendReply × σ :=
  match client.post? call with
  | .error fault => (⟨.error fault, client.records call⟩, known)
  | .ok none =>
    let (response, known) := respond known none
    (⟨response.map fun _ => ⟨.null, []⟩, client.records call⟩, known)
  | .ok (some post) =>
    let (response, known) := respond known (some post)
    (⟨response.bind (client.accept call), client.records call⟩, known)

/-- **A dialogue with the search proxy is one with a backend** that replies as the search proxy does. -/
theorem run_carry (client : HttpClient) {α : Type} (d : BackendDialogue α) :
    (client.carry d).run respond known =
      let (calls, result, known) := d.run (client.reply respond) known
      (calls.flatMap client.asks, result, known) := by
  induction d generalizing known with
  | done result => rfl
  | ask call next ih =>
    cases hpost : client.post? call with
    | error fault => simp [carry, Dialogue.run, reply, asks, hpost, ih]
    | ok question => cases question <;> simp [carry, Dialogue.run, reply, asks, hpost, ih]

end HttpClient

namespace Program

/-- The fault keeps the command from beginning: the settings cannot be read, or the journal cannot be set
up. -/
inductive FailsBefore (environment : Option String) (now : Moment) (tree : FileTree) (line : Usage.Line)
    (command : Command) : Fault → Prop
  | settings {fault : Fault} (failed : Settings.ofFiles environment tree line.settings = .error fault) :
    FailsBefore environment now tree line command fault
  | journal {settings : Settings} {journal : Journal} {made : FileTree} {fault : Fault}
      (found : Settings.ofFiles environment tree line.settings = .ok settings)
      (failed : (journalSetup settings.log command).run now .unset tree = (journal, made, .error fault)) :
    FailsBefore environment now tree line command fault

/-- **A command that begins runs with the search proxy as its backend.** -/
theorem run_runCommand {settings : Settings} {command : Command} {now : Moment} {dates : DateReader}
    {tree made : FileTree} {journal : Journal}
    (hsetup : (journalSetup settings.log command).run now .unset tree = (journal, made, .ok ())) :
    (runCommand settings command now dates tree).run respond known =
      let (calls, result, known) :=
        (command.run settings none ⟨journal, now, dates, made, "", ""⟩).run (settings.client.reply respond) known
      (calls.flatMap settings.client.asks, .ofCommand result, known) := by
  rw [runCommand, hsetup]
  simp only [HttpClient.run_carry, Dialogue.run_map]

/-- The text of a command that begins, unless it fails. -/
def textOfBegun (respond : σ → Option HttpPost → Except Fault HttpResponse × σ) (known : σ)
    (settings : Settings) (command : Command) (journal : Journal) (now : Moment) (dates : DateReader)
    (made : FileTree) : Except Fault String :=
  command.text (settings.client.reply respond) known settings settings.service ⟨journal, now, dates, made, "", ""⟩

/-- A run that has ended with a record of a fault, and with an abort. -/
structure AbortedFor (settings : LogSettings) (command : Command) (now : Moment) (fault : Fault)
    (ended : Finished) : Prop where
  ending : ended.ending = .aborted
  out : ended.out = ""
  recorded : ∃ shown, ended.err = shown ++ "Aborted!\n" ∧
    Command.Recorded settings.level.number ((journalSetup settings command).path? now) now
      (command.failure fault) shown ended.tree

/-- **A command that begins prints its text, or is aborted with a record.** -/
theorem ended_runCommand (respond : σ → Option HttpPost → Except Fault HttpResponse × σ) (known : σ)
    {settings : Settings} {command : Command} {now : Moment} {dates : DateReader} {tree made : FileTree}
    {journal : Journal}
    (hsetup : (journalSetup settings.log command).run now .unset tree = (journal, made, .ok ())) :
    let ended := ((runCommand settings command now dates tree).run respond known).2.1
    (∀ text, textOfBegun respond known settings command journal now dates made = .ok text →
      ended.ending = .printed text ∧ ended.out = text) ∧
    ∀ fault, textOfBegun respond known settings command journal now dates made = .error fault →
      AbortedFor settings.log command now fault ended := by
  intro ended
  -- a level is set by its name, and the console goes by its number
  have hset : Workplace.IsSetUp settings.log.level.number ((journalSetup settings.log command).path? now)
      ⟨journal, now, dates, made, "", ""⟩ := by
    rw [← Severity.levelNumber_name]
    have hlevel : (journalSetup settings.log command).level = settings.log.level.name := rfl
    exact (isSetUp_of_run hlevel hsetup).1
  obtain ⟨after, last, hrun, hprinted⟩ := Command.run_run (settings.client.reply respond) known command
    settings none ⟨journal, now, dates, made, "", ""⟩
  have hended : ended =
      .ofCommand ((textOfBegun respond known settings command journal now dates made).toOption, after) := by
    simp only [ended, run_runCommand hsetup, hrun]
    rfl
  have hout : after.printed =
      (textOfBegun respond known settings command journal now dates made).toOption.getD "" :=
    hprinted.trans String.empty_append
  rw [hended]
  constructor
  · intro text htext
    rw [htext] at hout ⊢
    exact ⟨rfl, hout⟩
  · intro fault htext
    obtain ⟨-, hrecorded⟩ := Command.run_of_failure hset none htext
    rw [hrun] at hrecorded
    rw [htext] at hout ⊢
    exact ⟨rfl, hout, after.shown, rfl, hrecorded⟩

theorem failsBefore_iff_of_error {environment : Option String} {now : Moment} {tree : FileTree}
    {line : Usage.Line} {command : Command} {fault other : Fault}
    (h : Settings.ofFiles environment tree line.settings = .error fault) :
    FailsBefore environment now tree line command other ↔ fault = other := by
  constructor
  · rintro (failed | ⟨found, -⟩)
    · exact Except.error.inj (h.symm.trans failed)
    · cases h.symm.trans found
  · rintro rfl
    exact .settings h

theorem failsBefore_iff_of_ok {environment : Option String} {now : Moment} {tree : FileTree}
    {line : Usage.Line} {command : Command} {settings : Settings} {other : Fault}
    (h : Settings.ofFiles environment tree line.settings = .ok settings) :
    FailsBefore environment now tree line command other ↔
      ((journalSetup settings.log command).run now .unset tree).2.2 = .error other := by
  constructor
  · rintro (failed | ⟨found, failed⟩)
    · cases h.symm.trans failed
    · obtain rfl := Except.ok.inj (h.symm.trans found)
      rw [failed]
  · intro failed
    exact .journal h (Prod.ext rfl (Prod.ext rfl failed))

/-- A program whose command line is used as it should be reads its settings and runs its command. -/
theorem run_of_usage {tree : FileTree} {words : List String} {line : Usage.Line} {command : Command}
    (hline : Usage.line tree words = .ok line)
    (hcommand : Usage.command tree line.name line.rest = .ok command) (environment : Option String)
    (now : Moment) (dates : DateReader) :
    run environment now dates tree words =
      match Settings.ofFiles environment tree line.settings with
      | .error fault => .done (.early (.failed fault) tree)
      | .ok settings => runCommand settings command now dates tree := by
  rw [run, hline]
  dsimp only
  cases Settings.ofFiles environment tree line.settings with
  | error fault => rfl
  | ok settings => simp only [hcommand]

/--
**What goes wrong ends the program with a record and an abort, unless it does so before the command begins.**

Let a command line be used as it should be. Whatever the settings, the environment, the files and the
answers of the search proxy are:

* The program ends with a fault itself exactly if the settings cannot be read or the journal cannot be set
  up. Then nothing has been asked, nothing has been printed or shown, and no file has changed: the fault has
  not been logged anywhere.
* Else the command succeeds and prints its text, or it is aborted with nothing on the standard output. An
  aborted command has logged its fault as an error: the record is on the console, unless that is set up for
  critical records only, and in the log file if there is one.
-/
theorem fails_iff_before_command {tree : FileTree} {words : List String} {line : Usage.Line}
    {command : Command} (hline : Usage.line tree words = .ok line)
    (hcommand : Usage.command tree line.name line.rest = .ok command) (environment : Option String)
    (now : Moment) (dates : DateReader)
    (respond : σ → Option HttpPost → Except Fault HttpResponse × σ) (known : σ) :
    let ran := (run environment now dates tree words).run respond known
    let ended := ran.2.1
    (∀ fault, ended.ending = .failed fault ↔ FailsBefore environment now tree line command fault) ∧
    (∀ fault, ended.ending = .failed fault →
      ran.1 = [] ∧ ended.out = "" ∧ ended.err = "" ∧ FileTree.Appends tree [] ended.tree) ∧
    ∀ settings journal made, Settings.ofFiles environment tree line.settings = .ok settings →
      (journalSetup settings.log command).run now .unset tree = (journal, made, .ok ()) →
      let result := textOfBegun respond known settings command journal now dates made
      (∀ text, result = .ok text → ended.ending = .printed text ∧ ended.out = text) ∧
      ∀ fault, result = .error fault → AbortedFor settings.log command now fault ended := by
  intro ran ended
  have hrun := run_of_usage hline hcommand environment now dates
  have hbegun {settings : Settings} (h : Settings.ofFiles environment tree line.settings = .ok settings) :
      ran = (runCommand settings command now dates tree).run respond known := by
    simp only [ran, hrun, h]
  have hfailed : (∀ fault, ended.ending = .failed fault ↔
      FailsBefore environment now tree line command fault) ∧
      ∀ fault, ended.ending = .failed fault →
        ran.1 = [] ∧ ended.out = "" ∧ ended.err = "" ∧ FileTree.Appends tree [] ended.tree := by
    cases hsettings : Settings.ofFiles environment tree line.settings with
    | error fault =>
      have hran : ran = ([], .early (.failed fault) tree, known) := by
        simp only [ran, hrun, hsettings, Dialogue.run]
      simp [ended, hran, failsBefore_iff_of_error hsettings, Finished.early, FileTree.Appends.refl]
    | ok settings =>
      simp only [failsBefore_iff_of_ok hsettings]
      cases hsetup : (journalSetup settings.log command).run now .unset tree with
      | mk journal rest =>
        obtain ⟨made, result⟩ := rest
        cases result with
        | error fault =>
          have hran : ran = ([], .early (.failed fault) made, known) := by
            rw [hbegun hsettings, runCommand, hsetup]
            rfl
          simp [ended, hran, Finished.early, appends_of_run_error hsetup]
        | ok =>
          obtain ⟨hprinted, haborted⟩ := ended_runCommand respond known hsetup
          rw [← hbegun hsettings] at hprinted haborted
          -- once begun, the command prints or is aborted, so that no fault gets out
          have hnever (fault : Fault) : ended.ending ≠ .failed fault := by
            cases htext : textOfBegun respond known settings command journal now dates made with
            | ok text => simp [ended, (hprinted text htext).1]
            | error fault => simp [ended, (haborted fault htext).ending]
          simp [hnever]
  refine ⟨hfailed.1, hfailed.2, fun settings journal made hsettings hsetup => ?_⟩
  simp only [ended, hbegun hsettings]
  exact ended_runCommand respond known hsetup

/-- The settings of a program that is given no files for them come from one file. -/
theorem ofFiles_nil {environment : Option String} {tree : FileTree} {bytes : List UInt8} {text : List Char}
    {v : Value} {raw : Mapping} (hfile : tree.read Settings.defaultPath = .ok bytes)
    (hdecode : Text.decode bytes = .ok text) (hread : Yaml.read text = .ok v)
    (hraw : v = .map raw ∨ v = .null ∧ raw = []) :
    Settings.ofFiles environment tree [] = Mapping.mergeRead [raw] >>= Settings.ofMapping environment := by
  have hofFile : Mapping.ofFile tree Settings.defaultPath = .ok raw := by
    rw [Mapping.ofFile, hfile]
    dsimp only
    rw [hdecode]
    dsimp only
    rw [hread]
    rcases hraw with rfl | ⟨rfl, rfl⟩ <;> rfl
  simp [Settings.ofFiles, List.mapM_cons, hofFile, ok_bind]

set_option maxRecDepth 1000 in
/-- A sort that the settings do not have: the command is aborted, and the console shows why. -/
theorem fails_iff_before_command_unknown_sort :
    let now : Moment := ⟨⟨2024, 3, 5⟩, 7, 8, 9, 0, none⟩
    let dates : DateReader := DateText.reader now.date.year
    let config := "'backend':\n 'index': 'i'\n'facets':\n 'p':\n  'field': 'p'\n  'kind': 'terms'\n"
    let tree : FileTree := ⟨[(["config"], .dir), (["config", "default.yml"], .file config.toUTF8.toList)]⟩
    let command : Command := ⟨.compile 1, none, some "Date"⟩
    let respond : Unit → Option HttpPost → Except Fault HttpResponse × Unit :=
      fun _ _ => (.error (.transport "gone"), ())
    let ended := ((run (some "http://archive") now dates tree ["compile", "--sort", "Date"]).run respond ()).2.1
    Usage.line tree ["compile", "--sort", "Date"] = .ok ⟨[], "compile", ["--sort", "Date"]⟩ ∧
      Usage.command tree "compile" ["--sort", "Date"] = .ok command ∧
      ended.ending = .aborted ∧ ended.out = "" ∧
      ∃ before more, ended.err =
        before ++ "03-05 07:08:09 [ERRO] Compile failed: Unknown sort: Date\n" ++ more ++ "Aborted!\n" := by
  intro now dates config tree command respond ended
  let raw : Mapping := [(.str "backend", .object [("index", .str "i")]),
    (.str "facets", .object [("p", .object [("field", .str "p"), ("kind", .str "terms")])])]
  have hline : Usage.line tree ["compile", "--sort", "Date"] = .ok ⟨[], "compile", ["--sort", "Date"]⟩ := by
    cbv
  have hcommand : Usage.command tree "compile" ["--sort", "Date"] = .ok command := by cbv
  have hmapping : Settings.ofFiles (some "http://archive") tree [] =
      Mapping.mergeRead [raw] >>= Settings.ofMapping (some "http://archive") := by
    have hfile : tree.read Settings.defaultPath = .ok config.toUTF8.toList := by decide +kernel
    have hdecode : Text.decode config.toUTF8.toList = .ok config.toList := by decide +kernel
    have hread : Yaml.read config.toList = .ok (.map raw) := by cbv
    exact ofFiles_nil hfile hdecode hread (Or.inl rfl)
  have hparts : (Mapping.mergeRead [raw] >>= Settings.ofMapping (some "http://archive")).toOption.map
      (fun settings => (settings.log, settings.facets.sorts.map SortOption.label)) =
        some (⟨.info, false, "log"⟩, []) := by
    decide +kernel
  rw [← hmapping] at hparts
  cases hsettings : Settings.ofFiles (some "http://archive") tree [] with
  | error fault =>
    rw [hsettings] at hparts
    cases hparts
  | ok settings =>
    rw [hsettings] at hparts
    obtain ⟨hlog, hsorts⟩ : settings.log = ⟨.info, false, "log"⟩ ∧ settings.facets.sorts = [] := by
      simpa [Except.toOption] using hparts
    obtain ⟨journal, hsetup⟩ : ∃ journal, (journalSetup settings.log command).run now .unset tree =
        (journal, tree, .ok ()) := by
      rw [hlog]
      exact ⟨_, rfl⟩
    have hfails : textOfBegun respond () settings command journal now dates tree =
        .error (.unknownSort "Date") := by
      have hsort : settings.facets.sort "Date" = .error (.unknownSort "Date") := by
        rw [FacetSettings.sort, hsorts]
        rfl
      simp only [textOfBegun, Command.text, Command.context, command, hsort]
      rfl
    obtain ⟨-, -, hended⟩ :=
      fails_iff_before_command hline hcommand (some "http://archive") now dates respond ()
    obtain ⟨hending, hout, shown, herr, ⟨before, more, hshown⟩, -⟩ :=
      (hended settings _ _ hsettings hsetup).2 _ hfails
    have hrecord : shownText settings.log.level.number now
        (command.failure (.unknownSort "Date")).severity.number
        (command.failure (.unknownSort "Date")).message =
          "03-05 07:08:09 [ERRO] Compile failed: Unknown sort: Date\n" := by
      rw [hlog]
      decide +kernel
    rw [hrecord] at hshown
    exact ⟨hline, hcommand, hending, hout, before, more, by rw [herr, hshown]⟩

/-- Settings without a backend: the command line is used as it should be, the program ends with the fault
itself, and nothing has been logged. -/
theorem fails_unlogged_missing_backend :
    let now : Moment := ⟨⟨2024, 3, 5⟩, 7, 8, 9, 0, none⟩
    let dates : DateReader := DateText.reader now.date.year
    let tree : FileTree := ⟨[(["config"], .dir), (["config", "default.yml"], .file [])]⟩
    let respond : Unit → Option HttpPost → Except Fault HttpResponse × Unit :=
      fun _ _ => (.error (.transport "gone"), ())
    let ended := ((run none now dates tree ["compile"]).run respond ()).2.1
    Usage.line tree ["compile"] = .ok ⟨[], "compile", []⟩ ∧
      Usage.command tree "compile" [] = .ok ⟨.compile 1, none, none⟩ ∧
      ended.ending = .failed (.missing "backend") ∧ ended.out = "" ∧ ended.err = "" := by
  intro now dates tree respond ended
  have hline : Usage.line tree ["compile"] = .ok ⟨[], "compile", []⟩ := by cbv
  have hcommand : Usage.command tree "compile" [] = .ok ⟨.compile 1, none, none⟩ := by cbv
  have hsettings : Settings.ofFiles none tree [] = .error (.missing "backend") := by
    have hfile : tree.read Settings.defaultPath = .ok [] := by decide +kernel
    have hread : Yaml.read [] = .ok .null := by cbv
    rw [ofFiles_nil hfile rfl hread (Or.inr ⟨rfl, rfl⟩)]
    cbv
  have hended : ended = .early (.failed (.missing "backend")) tree := by
    simp only [ended, run, hline, hsettings, Dialogue.run]
  rw [hended]
  exact ⟨hline, hcommand, rfl, rfl, rfl⟩

end Program

end Faceted
