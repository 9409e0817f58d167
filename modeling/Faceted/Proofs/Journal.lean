import Faceted.Journal
import Faceted.Proofs.FileTree

/-!
# Where records go

A journal is set up any number of times, and records are written in between. Each setup closes the handlers
of the one before, so that no record is written twice; and what goes to a log file comes after what the file
held.

* `IsSetUp` says what a setup leaves (`isSetUp_of_run`) and a record keeps (`isSetUp_write`): a handler for
  the console, one for the log file if there is one, and a least severity below which neither takes anything.
* `runEvents` runs setups and records, with what the console shows of each. `consoleTexts` and `fileTexts`
  say by the setup in force alone what is to be shown and appended; `runEvents_of_isSetUp` is by induction on
  the events, which carries `IsSetUp`.
* `each_record_goes_once` is about all events from a setup on, whatever the journal was before.
-/

namespace Faceted

/-- The handler writes to the console. -/
def LogHandler.isConsole : LogHandler → Bool
  | .console _ => true
  | .file _ _ => false

/-- The number of a severity is found by its name. -/
theorem Severity.levelNumber_name (level : Severity) : Journal.levelNumber level.name = level.number := by
  cases level <;> decide +kernel

theorem Severity.debug_le (level : Severity) : Severity.debug.number ≤ level.number := by
  cases level <;> decide

namespace Journal

open FileTree

variable {journal after : Journal} {tree files : FileTree} {level : Int} {file : Option Path}

/-! ## Handlers -/

theorem foldl_dismiss (handlers : List LogHandler) (h : journal.handlers = handlers) :
    (handlers.foldl dismiss journal).handlers = [] ∧
      (handlers.foldl dismiss journal).closed = journal.closed ++ handlers := by
  induction handlers generalizing journal with
  | nil => simp [h]
  | cons handler handlers ih =>
    have hrest : (journal.dismiss handler).handlers = handlers := by
      rw [dismiss, h, List.erase_cons_head]
    obtain ⟨hnone, hclosed⟩ := ih hrest
    rw [List.foldl_cons]
    exact ⟨hnone, by rw [hclosed, dismiss, List.append_assoc, List.singleton_append]⟩

/-- **All handlers are taken out of the journal and closed.** -/
theorem handlers_dismissAll (journal : Journal) :
    journal.dismissAll.handlers = [] ∧ journal.dismissAll.closed = journal.closed ++ journal.handlers :=
  foldl_dismiss journal.handlers rfl

/-- The handlers that a setup makes. -/
def Setup.handlers (setup : Setup) (now : Moment) : List LogHandler :=
  setup.console :: (setup.path? now).toList.map (.file Severity.debug.number)

/-- The setup asks for a log file: there is to be one, and the action has a name. -/
def Setup.HasFile (setup : Setup) : Prop :=
  setup.toFile = true ∧ ∃ action, setup.action = some action ∧ action ≠ ""

theorem Setup.path?_isSome_iff (setup : Setup) (now : Moment) :
    (setup.path? now).isSome = true ↔ setup.HasFile := by
  obtain ⟨level, action, toFile, dir⟩ := setup
  cases action with
  | none => simp [path?, HasFile]
  | some action => cases toFile <;> simp [path?, HasFile, apply_ite, String.isEmpty_iff]

/-- **A setup makes one handler for the console, and one for a file exactly if it asks for a log file.** -/
theorem Setup.handlers_cases (setup : Setup) (now : Moment) :
    (setup.handlers now).countP LogHandler.isConsole = 1 ∧
      ((∃ path, setup.path? now = some path ∧
        setup.handlers now = [setup.console, .file Severity.debug.number path]) ↔ setup.HasFile) ∧
      (setup.handlers now = [setup.console] ↔ ¬setup.HasFile) := by
  rw [← setup.path?_isSome_iff now, handlers]
  cases setup.path? now <;> simp [console, List.countP_cons, LogHandler.isConsole]

/-! ## A journal that is set up -/

/-- The journal has a handler for the console that takes records from a number on, and one for a log file if
there is one, which is there and takes everything from debugging records on. -/
structure IsSetUp (level : Int) (file : Option Path) (journal : Journal) (tree : FileTree) : Prop where
  handlers : journal.handlers = .console level :: file.toList.map (.file Severity.debug.number)
  least : journal.least = if file.isSome then Severity.debug.number else level
  level : Severity.debug.number ≤ level
  present : ∀ path ∈ file, ∃ content, tree.at? path = some (.file content)

/-- The journal stays set up as long as no file goes away. -/
theorem IsSetUp.of_files (h : IsSetUp level file journal tree)
    (hfiles : ∀ path content, tree.at? path = some (.file content) →
      ∃ more, files.at? path = some (.file more)) : IsSetUp level file journal files where
  handlers := h.handlers
  least := h.least
  level := h.level
  present path hpath := by
    obtain ⟨content, hcontent⟩ := h.present path hpath
    exact hfiles path content hcontent

theorem appends_withDirs {path : Path} {content : List UInt8}
    (h : tree.withDirs path (·.append path content) = (files, .ok ())) :
    Appends tree [(path, content)] files := by
  have hdirs := Appends.of_gainsDirs (gainsDirs_makeDirs tree path)
  unfold withDirs at h
  split at h
  · simp at h
  · next made hmake =>
    rw [hmake] at hdirs
    split at h
    · next written hwrite =>
      obtain ⟨rfl, -⟩ := Prod.mk.inj h
      exact hdirs.trans (.of_append hwrite)
    · simp at h

/-- **A setup that fails changes no file**; directories may have been made. -/
theorem appends_of_run_error {setup : Setup} {now : Moment} {fault : Fault}
    (h : setup.run now journal tree = (after, files, .error fault)) : Appends tree [] files := by
  unfold Setup.run at h
  cases hpath : setup.path? now with
  | none => simp [hpath] at h
  | some path =>
    have hdirs := Appends.of_gainsDirs (gainsDirs_makeDirs tree path)
    rw [hpath] at h
    simp only [withDirs] at h
    cases hmake : tree.makeDirs path.parent with
    | mk made result =>
      rw [hmake] at h hdirs
      cases result with
      | error fault =>
        obtain ⟨-, rfl, -⟩ : _ ∧ made = files ∧ _ := by simpa using h
        exact hdirs
      | ok =>
        cases happend : made.append path [] with
        | error fault =>
          obtain ⟨-, rfl, -⟩ : _ ∧ made = files ∧ _ := by simpa [happend] using h
          exact hdirs
        | ok written => simp [happend] at h

/-- What a setup appends: nothing, to its log file. -/
def Setup.opening (setup : Setup) (now : Moment) : List (Path × List UInt8) :=
  (setup.path? now).toList.map (·, [])

/-- **A setup that succeeds leaves a journal that is set up**, with all handlers closed that were there
before. -/
theorem isSetUp_of_run {setup : Setup} {now : Moment} {severity : Severity}
    (hlevel : setup.level = severity.name) (h : setup.run now journal tree = (after, files, .ok ())) :
    IsSetUp (levelNumber setup.level) (setup.path? now) after files ∧
      after.handlers = setup.handlers now ∧ after.closed = journal.closed ++ journal.handlers ∧
      Appends tree (setup.opening now) files := by
  -- no level is below debugging, so that a log file never takes less than the console
  have hdebug : Severity.debug.number ≤ levelNumber setup.level := by
    rw [hlevel, Severity.levelNumber_name]
    exact severity.debug_le
  obtain ⟨hnone, hclosed⟩ := journal.handlers_dismissAll
  unfold Setup.run at h
  cases hpath : setup.path? now with
  | none =>
    rw [hpath] at h
    obtain ⟨rfl, rfl, -⟩ := Prod.mk.inj h
    have hhandlers : (journal.dismissAll.add setup.console).handlers = [setup.console] := by
      rw [add, hnone, List.nil_append]
    refine ⟨⟨hhandlers, rfl, hdebug, by simp⟩, ?_, hclosed, ?_⟩
    · rw [Setup.handlers, hpath]
      exact hhandlers
    · rw [Setup.opening, hpath]
      exact .refl _
  | some path =>
    rw [hpath] at h
    dsimp only at h
    split at h
    · next made hmake =>
      obtain ⟨hafter, hfiles⟩ := Prod.mk.inj h
      obtain ⟨rfl, -⟩ := Prod.mk.inj hfiles
      subst hafter
      have hhandlers : ((journal.dismissAll.add setup.console).add
          (.file Severity.debug.number path)).handlers
            = [setup.console, .file Severity.debug.number path] := by
        rw [add, add, hnone, List.nil_append, List.singleton_append]
      have happends := appends_withDirs hmake
      refine ⟨⟨hhandlers, rfl, hdebug, ?_⟩, ?_, hclosed, ?_⟩
      · intro other hother
        obtain rfl := Option.some.inj hother
        obtain ⟨place, hplace⟩ := happends.located _ List.mem_cons_self
        exact ⟨_, by rw [at?_of_locate hplace, happends.holds _ List.mem_cons_self place hplace]⟩
      · rw [Setup.handlers, hpath]
        exact hhandlers
      · rw [Setup.opening, hpath]
        exact happends
    · simp at h

/-! ## One record -/

/-- What the console shows of a record if it takes records from a number on. -/
def shownText (level : Int) (now : Moment) (number : Int) (message : String) : String :=
  if level ≤ number then line now number message else ""

/-- What is appended to a log file for a record. -/
def appendedTexts (file : Option Path) (now : Moment) (number : Int) (message : String) :
    List (Path × List UInt8) :=
  if Severity.debug.number ≤ number then file.toList.map (·, (line now number message).toUTF8.toList)
  else []

/-- A journal that is set up looks at records from its least severity on. -/
theorem IsSetUp.takes_eq (h : IsSetUp level file journal tree) (number : Int) :
    journal.takes number = decide (journal.least ≤ number) := by
  have hne : journal.least ≠ 0 := by
    have hdebug : Severity.debug.number = 10 := rfl
    have hlevel := h.level
    have hleast := h.least
    split at hleast <;> omega
  rw [takes, if_neg hne]

theorem writeTo_console (number : Int) (text : String) (state : String × FileTree) (least : Int) :
    writeTo number text state (.console least) =
      (state.1 ++ if least ≤ number then text else "", state.2) := by
  rw [writeTo]
  split <;> simp

/-- **A record goes to each handler of a journal that is set up once, if the handler takes it.** -/
theorem isSetUp_write (h : IsSetUp level file journal tree) (now : Moment) (number : Int)
    (message : String) :
    (journal.write now tree number message).1 = shownText level now number message ∧
      Appends tree (appendedTexts file now number message) (journal.write now tree number message).2 ∧
      IsSetUp level file journal (journal.write now tree number message).2 := by
  have hlevel := h.level
  have hsome : journal.handlers.isEmpty = false := by rw [h.handlers, List.isEmpty_cons]
  by_cases hleast : journal.least ≤ number
  · have hwrite : journal.write now tree number message =
        journal.handlers.foldl (writeTo number (line now number message)) ("", tree) := by
      simp [write, h.takes_eq, hleast, hsome]
    rw [hwrite, h.handlers, List.foldl_cons, writeTo_console, String.empty_append]
    cases file with
    | none =>
      have hnone : appendedTexts none now number message = [] := by simp [appendedTexts]
      rw [hnone]
      exact ⟨rfl, .refl tree, h⟩
    | some path =>
      have hdebug : Severity.debug.number ≤ number := by
        rw [h.least, Option.isSome_some, if_pos rfl] at hleast
        exact hleast
      obtain ⟨content, hcontent⟩ := h.present path rfl
      obtain ⟨made, hmade⟩ := exists_append_of_at? hcontent (line now number message).toUTF8.toList
      have happends := Appends.of_append hmade
      have hfile : ∀ state : String, writeTo number (line now number message) (state, tree)
          (.file Severity.debug.number path) = (state, made) := by
        intro state
        simp only [writeTo, if_pos hdebug, hmade]
      have htexts : appendedTexts (some path) now number message =
          [(path, (line now number message).toUTF8.toList)] := by
        rw [appendedTexts, if_pos hdebug]
        rfl
      rw [Option.toList_some, List.map_singleton, List.foldl_cons, List.foldl_nil, hfile, htexts]
      refine ⟨rfl, happends, h.of_files fun other content hother => ?_⟩
      obtain ⟨more, hmore⟩ := happends.exists_file hother
      exact ⟨_, hmore⟩
  · have hwrite : journal.write now tree number message = ("", tree) := by
      simp [write, h.takes_eq, hleast]
    have hleast' := h.least
    have hnone : appendedTexts file now number message = [] := by
      cases file with
      | none => simp [appendedTexts]
      | some path => rw [appendedTexts, if_neg (by simpa [hleast'] using hleast)]
    have hshown : shownText level now number message = "" := by
      rw [shownText, if_neg]
      split at hleast' <;> omega
    rw [hwrite, hnone, hshown]
    exact ⟨rfl, .refl tree, h⟩

/-- **Records that are written one after the other go to the handlers one after the other.** -/
theorem isSetUp_writeAll (h : IsSetUp level file journal tree) (now : Moment) (records : List LogRecord) :
    (journal.writeAll now tree records).1 =
        String.join (records.map fun record => shownText level now record.severity.number record.message) ∧
      Appends tree
        (records.flatMap fun record => appendedTexts file now record.severity.number record.message)
        (journal.writeAll now tree records).2 ∧
      IsSetUp level file journal (journal.writeAll now tree records).2 := by
  induction records generalizing tree with
  | nil => exact ⟨rfl, .refl tree, h⟩
  | cons record records ih =>
    obtain ⟨hshown, hwritten, hset⟩ := isSetUp_write h now record.severity.number record.message
    obtain ⟨hmore, happends, hset⟩ := ih hset
    rw [List.map_cons, String.join_cons, List.flatMap_cons, ← hshown, ← hmore]
    exact ⟨rfl, hwritten.trans happends, hset⟩

theorem writeAll_append (journal : Journal) (now : Moment) (tree : FileTree)
    (records more : List LogRecord) :
    journal.writeAll now tree (records ++ more) =
      ((journal.writeAll now tree records).1 ++
        (journal.writeAll now (journal.writeAll now tree records).2 more).1,
        (journal.writeAll now (journal.writeAll now tree records).2 more).2) := by
  induction records generalizing tree with
  | nil => simp [writeAll]
  | cons record records ih => simp only [List.cons_append, writeAll, ih, String.append_assoc]

/-! ## Setups and records -/

/-- What happens to a journal: it is set up, or a record is written. -/
inductive Event where
  | setup (setup : Setup) (now : Moment)
  | record (now : Moment) (number : Int) (message : String)
deriving Repr

/-- What an event comes to: what the console shows, the journal and the files. There is no result if the log
file of a setup cannot be made. -/
def Event.run (journal : Journal) (tree : FileTree) : Event → Except Fault (String × Journal × FileTree)
  | .setup settings now => match settings.run now journal tree with
    | (journal, tree, .ok ()) => .ok ("", journal, tree)
    | (_, _, .error fault) => .error fault
  | .record now number message =>
    let (shown, tree) := journal.write now tree number message
    .ok (shown, journal, tree)

theorem eq_of_run_setup {setup : Setup} {now : Moment} {shown : String}
    (h : (Event.setup setup now).run journal tree = .ok (shown, after, files)) :
    shown = "" ∧ setup.run now journal tree = (after, files, .ok ()) := by
  rw [Event.run] at h
  split at h
  · next journal' tree' hsetup =>
    obtain ⟨rfl, rfl, rfl⟩ : "" = shown ∧ journal' = after ∧ tree' = files := by simpa using h
    exact ⟨rfl, hsetup⟩
  · cases h

/-- What events come to one after the other: what the console shows of each, the journal and the files. -/
def runEvents (journal : Journal) (tree : FileTree) :
    List Event → Except Fault (List String × Journal × FileTree)
  | [] => .ok ([], journal, tree)
  | event :: events => do
    let (shown, journal, tree) ← event.run journal tree
    let (more, journal, tree) ← runEvents journal tree events
    pure (shown :: more, journal, tree)

/-- The levels of all setups are names of severities. -/
def LevelsNamed (events : List Event) : Prop :=
  ∀ setup now, Event.setup setup now ∈ events → ∃ severity : Severity, setup.level = severity.name

/-- The handlers that each setup among events makes. -/
def madeHandlers : List Event → List (List LogHandler)
  | [] => []
  | .setup setup now :: events => setup.handlers now :: madeHandlers events
  | .record .. :: events => madeHandlers events

/-- What the console has to show of each event, after a setup that lets it take records from a number on. -/
def consoleTexts (level : Int) : List Event → List String
  | [] => []
  | .setup setup _ :: events => "" :: consoleTexts (levelNumber setup.level) events
  | .record now number message :: events =>
    shownText level now number message :: consoleTexts level events

/-- What has to be appended to log files for events, after a setup with a log file or without one. -/
def fileTexts (file : Option Path) : List Event → List (Path × List UInt8)
  | [] => []
  | .setup setup now :: events => setup.opening now ++ fileTexts (setup.path? now) events
  | .record now number message :: events =>
    appendedTexts file now number message ++ fileTexts file events

/-- **Whatever happens to a journal that is set up, the setup in force decides what becomes of a record.** -/
theorem runEvents_of_isSetUp (h : IsSetUp level file journal tree) {events : List Event}
    (levels : LevelsNamed events) {shown : List String}
    (hrun : runEvents journal tree events = .ok (shown, after, files)) :
    shown = consoleTexts level events ∧ Appends tree (fileTexts file events) files ∧
      after.handlers = (madeHandlers events).getLastD journal.handlers ∧
      after.closed ++ after.handlers =
        journal.closed ++ journal.handlers ++ (madeHandlers events).flatten := by
  induction events generalizing journal tree level file shown with
  | nil =>
    obtain ⟨rfl, rfl, rfl⟩ : [] = shown ∧ journal = after ∧ tree = files := by
      simpa [runEvents] using hrun
    exact ⟨rfl, .refl _, rfl, by simp [madeHandlers]⟩
  | cons event events ih =>
    obtain ⟨⟨first, journal', tree'⟩, hevent, hrun⟩ := bind_eq_ok_iff.mp hrun
    obtain ⟨⟨more, after', files'⟩, hevents, hrun⟩ := bind_eq_ok_iff.mp hrun
    obtain ⟨rfl, rfl, rfl⟩ : first :: more = shown ∧ after' = after ∧ files' = files := by
      simpa [pure, Except.pure] using hrun
    have hrest : LevelsNamed events := fun setup now hmem => levels setup now (List.mem_cons_of_mem _ hmem)
    cases event with
    | setup setup now =>
      obtain ⟨severity, hlevel⟩ := levels setup now List.mem_cons_self
      obtain ⟨rfl, hsetup⟩ := eq_of_run_setup hevent
      obtain ⟨hset, hhandlers, hclosed, hopened⟩ := isSetUp_of_run hlevel hsetup
      obtain ⟨rfl, happends, hlast, hall⟩ := ih hset hrest hevents
      refine ⟨rfl, hopened.trans happends, ?_, ?_⟩
      · rw [hlast, madeHandlers, List.getLastD_cons, hhandlers]
      · rw [hall, hclosed, hhandlers, madeHandlers, List.flatten_cons, List.append_assoc]
    | record now number message =>
      obtain ⟨hshown, hwritten, hset⟩ := isSetUp_write h now number message
      obtain ⟨rfl, rfl, rfl⟩ : (journal.write now tree number message).1 = first ∧ journal = journal' ∧
          (journal.write now tree number message).2 = tree' := by
        simpa [Event.run] using hevent
      obtain ⟨rfl, happends, hlast, hall⟩ := ih hset hrest hevents
      exact ⟨by rw [consoleTexts, hshown], hwritten.trans happends, hlast, hall⟩

theorem madeHandlers_append (events more : List Event) :
    madeHandlers (events ++ more) = madeHandlers events ++ madeHandlers more := by
  induction events with
  | nil => rfl
  | cons event events ih => cases event <;> simp [madeHandlers, ih]

theorem madeHandlers_eq_nil {events : List Event} (h : ∀ setup now, Event.setup setup now ∉ events) :
    madeHandlers events = [] := by
  induction events with
  | nil => rfl
  | cons event events ih =>
    have hrest := ih fun setup now hmem => h setup now (List.mem_cons_of_mem _ hmem)
    cases event with
    | setup setup now => exact absurd List.mem_cons_self (h setup now)
    | record now number message => exact hrest

/--
**Each record goes once to the console and once to the log file, if they take it.**

Let a journal be set up, in whatever state it was, and any setups and records follow, where all setups name a
severity and can make their log files.

* After the last setup there is one handler for the console, and one for a file exactly if the setup asks for
  a log file. All handlers that were there before or have been made before are closed.
* The console shows the line of a record exactly if the setup in force lets it take the record, and nothing
  else.
* The lines of records from debugging records on are appended to the file of the setup in force, if it has
  one, in the order of the records and after what the file held. No other file changes.
-/
theorem each_record_goes_once {setup : Setup} {now : Moment} {events : List Event}
    (levels : LevelsNamed (.setup setup now :: events)) {shown : List String}
    (h : runEvents journal tree (.setup setup now :: events) = .ok (shown, after, files)) :
    (∀ before last moment records,
      Event.setup setup now :: events = before ++ .setup last moment :: records →
      (∀ other moment, Event.setup other moment ∉ records) →
      after.handlers.countP LogHandler.isConsole = 1 ∧
      ((∃ path, last.path? moment = some path ∧
        after.handlers = [last.console, .file Severity.debug.number path]) ↔ last.HasFile) ∧
      (after.handlers = [last.console] ↔ ¬last.HasFile) ∧
      after.closed = journal.closed ++ journal.handlers ++ (madeHandlers before).flatten) ∧
    shown = "" :: consoleTexts (levelNumber setup.level) events ∧
    Appends tree (fileTexts none (.setup setup now :: events)) files := by
  obtain ⟨⟨first, journal', tree'⟩, hevent, h⟩ := bind_eq_ok_iff.mp h
  obtain ⟨⟨more, after', files'⟩, hevents, h⟩ := bind_eq_ok_iff.mp h
  obtain ⟨rfl, rfl, rfl⟩ : first :: more = shown ∧ after' = after ∧ files' = files := by
    simpa [pure, Except.pure] using h
  obtain ⟨severity, hlevel⟩ := levels setup now List.mem_cons_self
  obtain ⟨rfl, hsetup⟩ := eq_of_run_setup hevent
  obtain ⟨hset, hhandlers, hclosed, hopened⟩ := isSetUp_of_run hlevel hsetup
  have hrest : LevelsNamed events := fun other moment hmem =>
    levels other moment (List.mem_cons_of_mem _ hmem)
  obtain ⟨rfl, happends, hlast, hall⟩ := runEvents_of_isSetUp hset hrest hevents
  refine ⟨?_, rfl, hopened.trans happends⟩
  intro before last moment records hsplit hrecords
  -- only setups make handlers, so that those of the last one end the list
  have hmade : setup.handlers now :: madeHandlers events =
      madeHandlers before ++ [last.handlers moment] := by
    have hsplit := congrArg madeHandlers hsplit
    rwa [madeHandlers_append, madeHandlers, madeHandlers, madeHandlers_eq_nil hrecords] at hsplit
  have hin : after'.handlers = last.handlers moment := by
    have hcons : (setup.handlers now :: madeHandlers events).getLastD [] =
        (madeHandlers events).getLastD (setup.handlers now) := List.getLastD_cons
    rw [hlast, hhandlers, ← hcons, hmade, List.getLastD_concat]
  rw [hclosed, hhandlers, List.append_assoc, ← List.flatten_cons, hmade, List.flatten_append,
    List.flatten_singleton, hin, ← List.append_assoc] at hall
  obtain ⟨hconsole, hfile, hnone⟩ := last.handlers_cases moment
  rw [hin]
  exact ⟨hconsole, hfile, hnone, List.append_cancel_right hall⟩

/-- A log file that is made for one setup and opened again for the next one, and a setup without a file: each
line is in the file once, two of them are on the console, and all handlers but the last one are closed. -/
theorem each_record_goes_once_reopened :
    let now : Moment := ⟨⟨2024, 3, 5⟩, 7, 8, 9, 0, none⟩
    let path : Path := .ofString "log/search/search_0305070809.log"
    let setup : Setup := ⟨"INFO", some "search", true, ""⟩
    let again : Setup := ⟨"WARNING", some "search", true, "log"⟩
    let last : Setup := ⟨"ERROR", some "", true, "log"⟩
    let events : List Event := [.record now 10 "built", .record now 20 "sent", .setup again now,
      .record now 20 "done", .setup last now, .record now 40 "lost"]
    ∃ shown after files,
      runEvents ⟨30, [.console 30], true, []⟩ .empty (.setup setup now :: events) =
        .ok (shown, after, files) ∧
      LevelsNamed (.setup setup now :: events) ∧
      after.handlers = [.console 40] ∧
      after.closed = [.console 30, .console 20, .file 10 path, .console 30, .file 10 path] ∧
      shown = ["", "", "03-05 07:08:09 [INFO] sent\n", "", "", "", "03-05 07:08:09 [ERRO] lost\n"] ∧
      files.at? path = some (.file ("03-05 07:08:09 [DEBG] built\n03-05 07:08:09 [INFO] sent\n" ++
        "03-05 07:08:09 [INFO] done\n").toUTF8.toList) := by
  intro now path setup again last events
  have hlevels : LevelsNamed (.setup setup now :: events) := by
    intro other moment hmem
    simp only [events, List.mem_cons, Event.setup.injEq, reduceCtorEq, List.not_mem_nil, or_false,
      false_or] at hmem
    rcases hmem with ⟨rfl, -⟩ | ⟨rfl, -⟩ | ⟨rfl, -⟩
    · exact ⟨.info, rfl⟩
    · exact ⟨.warning, rfl⟩
    · exact ⟨.error, rfl⟩
  have hdone : (runEvents ⟨30, [.console 30], true, []⟩ .empty (.setup setup now :: events)).isOk := by
    decide +kernel
  cases hrun : runEvents ⟨30, [.console 30], true, []⟩ .empty (.setup setup now :: events) with
  | error fault =>
    rw [hrun] at hdone
    cases hdone
  | ok result =>
  obtain ⟨shown, after, files⟩ := result
  obtain ⟨hhandlers, hshown, happends⟩ := each_record_goes_once hlevels hrun
  obtain ⟨-, -, hnone, hclosed⟩ := hhandlers
    [.setup setup now, .record now 10 "built", .record now 20 "sent", .setup again now,
      .record now 20 "done"] last now [.record now 40 "lost"] rfl (by simp)
  have htexts : fileTexts none (.setup setup now :: events) =
      [(path, []), (path, "03-05 07:08:09 [DEBG] built\n".toUTF8.toList),
        (path, "03-05 07:08:09 [INFO] sent\n".toUTF8.toList), (path, []),
        (path, "03-05 07:08:09 [INFO] done\n".toUTF8.toList)] := by
    decide +kernel
  rw [htexts] at happends
  obtain ⟨place, hplace⟩ := happends.located _ List.mem_cons_self
  refine ⟨shown, after, files, rfl, hlevels, ?_, ?_, ?_, ?_⟩
  · have hunnamed : ¬last.HasFile := by simp [Setup.HasFile, last]
    rw [hnone.mpr hunnamed]
    decide +kernel
  · rw [hclosed]
    decide +kernel
  · rw [hshown]
    decide +kernel
  · have hempty : FileTree.empty.contentAt place = [] := by
      unfold contentAt node?
      split <;> simp_all [FileTree.empty]
    rw [at?_of_locate hplace, happends.holds _ List.mem_cons_self place hplace, hempty]
    simp [appendedAt, leadsTo_iff.mpr hplace]
    decide +kernel

end Journal

end Faceted
