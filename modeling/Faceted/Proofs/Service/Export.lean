import Faceted.Proofs.FileTree
import Faceted.Proofs.Service.Trace

/-!
# What exports do to the files

An export writes when everything else is done: its body is built and its download has come. So an export
that fails before leaves all files as they were, and one that succeeds leaves the whole download.

* `exported_of_completeSave` and `gainsDirs_of_completeSave` are about writing one download: what is new
  afterwards is the file and directories on the way to it, or such directories alone.
* `saves` lists the exports of a report that have succeeded in the order in which they were written, so
  those of steps during a call before that of the call.
* `Keeps` is the invariant of a run: an export stays under its path until the next one that leads to the
  same place, and no other file changes. Runs one after the other keep their exports one after the other
  (`Keeps.trans`), since a path leads where it led as long as directories stay.
* `keeps_runStep` and `keeps_runSteps` follow it through a script.
-/

namespace Faceted

namespace Service

open FileTree

variable {tree made after : FileTree} {path : Path} {content : List UInt8}

/-! ## One export -/

/-- The tree with a file under a path, and nothing else that is new but directories on the way to it. -/
structure Exported (tree : FileTree) (path : Path) (content : List UInt8) (after : FileTree) : Prop where
  holds : after.at? path = some (.file content)
  replaced : ∀ place, after.locate path = .ok place → tree.node? place ≠ some .dir
  others : ∀ place, after.locate path ≠ .ok place → after.node? place = tree.node? place ∨
    tree.node? place = none ∧ after.node? place = some .dir ∧
      ∃ dir : Path, dir.IsAbove path ∧ after.locate dir = .ok place

theorem Exported.keepsDirs (h : Exported tree path content after) : KeepsDirs tree after := by
  intro place hplace
  have hother : after.locate path ≠ .ok place := fun hpath => h.replaced place hpath hplace
  rcases h.others place hother with heq | ⟨hnone, -⟩
  · rw [heq, hplace]
  · rw [hplace] at hnone
    cases hnone

theorem exported_of_write (hmade : GainsDirs (Path.IsAbove · path) tree made)
    (h : made.write path content = .ok after) : Exported tree path content after := by
  obtain ⟨place, hlocate, hfile, rfl⟩ := eq_put_of_write h
  have hkeeps := keepsDirs_put hfile (.file content)
  have hafter := locate_of_keepsDirs hkeeps hlocate
  refine ⟨?_, ?_, ?_⟩
  · rw [at?_of_locate hafter, node?_put hfile, if_pos rfl]
  · rintro other hother hdir
    obtain rfl : place = other := Except.ok.inj (hafter.symm.trans hother)
    exact hfile (hmade.keepsDirs _ hdir)
  · intro other hother
    have hne : other ≠ place := by
      rintro rfl
      exact hother hafter
    rw [node?_put hfile, if_neg hne]
    exact (hmade other).imp_right fun ⟨hnone, hdir, dir, habove, hlead⟩ =>
      ⟨hnone, hdir, dir, habove, locate_of_keepsDirs hkeeps hlead⟩

/-- **An export that is written leaves the file in full.** -/
theorem exported_of_completeSave (h : (completeSave tree path content).1 = .ok ()) :
    Exported tree path content (completeSave tree path content).2.1 := by
  have hdirs := gainsDirs_makeDirs tree path
  unfold completeSave withDirs at h ⊢
  cases hmake : tree.makeDirs path.parent with
  | mk made result =>
    rw [hmake] at hdirs
    cases result with
    | error fault => simp [hmake] at h
    | ok =>
      cases hwrite : made.write path content with
      | error fault => simp [hmake, hwrite] at h
      | ok written =>
        simp only [hwrite]
        exact exported_of_write hdirs hwrite

/-- **An export that cannot be written changes no file.** Directories on the way to it may have been
made. -/
theorem gainsDirs_of_completeSave {fault : Fault}
    (h : (completeSave tree path content).1 = .error fault) :
    GainsDirs (Path.IsAbove · path) tree (completeSave tree path content).2.1 := by
  have hdirs := gainsDirs_makeDirs tree path
  unfold completeSave withDirs at h ⊢
  cases hmake : tree.makeDirs path.parent with
  | mk made result =>
    rw [hmake] at hdirs
    cases result with
    | error fault => exact hdirs
    | ok =>
      cases hwrite : made.write path content with
      | error fault =>
        simp only [hwrite]
        exact hdirs
      | ok written => simp [hmake, hwrite] at h

/-! ## Exports one after the other -/

/-- Among the items of a list that a function takes to the value of one of them there is a last one. -/
theorem exists_last_of_mem {α β : Type} (f : α → β) {xs : List α} {x : α} (hx : x ∈ xs) :
    ∃ before last more, xs = before ++ last :: more ∧ f last = f x ∧ ∀ y ∈ more, f y ≠ f x := by
  induction xs generalizing x with
  | nil => cases hx
  | cons first xs ih =>
    by_cases hrest : ∃ y ∈ xs, f y = f x
    · obtain ⟨y, hy, hfy⟩ := hrest
      obtain ⟨before, last, more, rfl, hlast, hmore⟩ := ih hy
      rw [hfy] at hlast hmore
      exact ⟨first :: before, last, more, rfl, hlast, hmore⟩
    · have hmore : ∀ y ∈ xs, f y ≠ f x := fun y hy hfy => hrest ⟨y, hy, hfy⟩
      rcases List.mem_cons.mp hx with rfl | hx
      · exact ⟨[], x, xs, rfl, rfl, hmore⟩
      · exact absurd rfl (hmore x hx)

/-- The export that a result stands for, if it is that of an export. -/
def savedBy : Except Fault Outcome → List (Path × List UInt8)
  | .ok (.saved path content) => [(path, content)]
  | _ => []

mutual

/-- The exports that have succeeded in a step, those during its call first. -/
def saves : Report → List (Path × List UInt8)
  | .mk result _ _ _ during => savesOfAll during ++ savedBy result

/-- The exports that have succeeded in steps one after the other. -/
def savesOfAll : List Report → List (Path × List UInt8)
  | [] => []
  | report :: reports => saves report ++ savesOfAll reports

end

/-- The tree keeps exports that have been written to another one in this order: each is there until the
next one to the same place, and elsewhere there are new directories at most. -/
structure Keeps (tree : FileTree) (exports : List (Path × List UInt8)) (after : FileTree) : Prop where
  dirs : KeepsDirs tree after
  located : ∀ e ∈ exports, ∃ place, after.locate e.1 = .ok place
  holds : ∀ before e more, exports = before ++ e :: more →
    (∀ later ∈ more, after.locate later.1 ≠ after.locate e.1) → after.at? e.1 = some (.file e.2)
  others : ∀ place, (∀ e ∈ exports, after.locate e.1 ≠ .ok place) →
    after.node? place = tree.node? place ∨ tree.node? place = none ∧ after.node? place = some .dir

namespace Keeps

theorem of_gainsDirs {paths : Path → Prop} (h : GainsDirs paths tree after) : Keeps tree [] after where
  dirs := h.keepsDirs
  located e he := absurd he List.not_mem_nil
  holds before e more heq := by
    cases before <;> cases heq
  others place _ := (h place).imp_right fun ⟨hnone, hdir, _⟩ => ⟨hnone, hdir⟩

theorem refl (tree : FileTree) : Keeps tree [] tree := of_gainsDirs (.refl (fun _ => False) tree)

theorem of_exported (h : Exported tree path content after) : Keeps tree [(path, content)] after where
  dirs := h.keepsDirs
  located e he := by
    obtain ⟨place, hplace, -⟩ := exists_locate_of_at? h.holds
    exact ⟨place, by rw [List.mem_singleton.mp he, hplace]⟩
  holds before e more heq _ := by
    rcases List.append_eq_singleton_iff.mp heq.symm with ⟨-, hself⟩ | ⟨-, hnone⟩
    · obtain ⟨rfl, -⟩ := List.cons.inj hself
      exact h.holds
    · cases hnone
  others place hplace := by
    have hother : after.locate path ≠ .ok place := hplace (path, content) (List.mem_singleton_self _)
    exact (h.others place hother).imp_right fun ⟨hnone, hdir, _⟩ => ⟨hnone, hdir⟩

/-- **Runs one after the other keep their exports one after the other.** -/
theorem trans {first second : List (Path × List UInt8)} (h : Keeps tree first made)
    (h' : Keeps made second after) : Keeps tree (first ++ second) after where
  dirs := h.dirs.trans h'.dirs
  located e he := by
    rcases List.mem_append.mp he with he | he
    · obtain ⟨place, hplace⟩ := h.located e he
      exact ⟨place, locate_of_keepsDirs h'.dirs hplace⟩
    · exact h'.located e he
  holds before e more heq hmore := by
    rcases List.append_eq_append_iff.mp heq with ⟨mid, rfl, hsecond⟩ | ⟨mid, rfl, hrest⟩
    · exact h'.holds mid e more hsecond hmore
    · cases mid with
      | nil => exact h'.holds [] e more hrest.symm hmore
      | cons first mid =>
        -- the export was there between the two runs, and the second one has brought nothing to its place
        obtain ⟨rfl, rfl⟩ := List.cons.inj hrest
        obtain ⟨place, hplace⟩ := h.located e (by simp)
        have hlead : after.locate e.1 = .ok place := locate_of_keepsDirs h'.dirs hplace
        rw [hlead] at hmore
        have hmade : made.at? e.1 = some (.file e.2) := by
          refine h.holds before e mid rfl fun later hlater heq => ?_
          exact hmore later (List.mem_append_left _ hlater)
            (locate_of_keepsDirs h'.dirs (heq.trans hplace))
        rw [at?_of_locate hplace] at hmade
        rw [at?_of_locate hlead]
        rcases h'.others place fun later hlater => hmore later (List.mem_append_right _ hlater) with
          heq | ⟨hnone, -⟩
        · exact heq.trans hmade
        · rw [hnone] at hmade
          cases hmade
  others place hplace := by
    have hsecond := h'.others place fun e he => hplace e (List.mem_append_right _ he)
    have hfirst := h.others place fun e he hlead =>
      hplace e (List.mem_append_left _ he) (locate_of_keepsDirs h'.dirs hlead)
    rcases hfirst with heq | ⟨hnone, hdir⟩
    · rw [← heq]
      exact hsecond
    · exact Or.inr ⟨hnone, h'.dirs place hdir⟩

/-- **An exported path holds the content of the last export to its place.** -/
theorem exists_last {exports : List (Path × List UInt8)} (h : Keeps tree exports after)
    {e : Path × List UInt8} (he : e ∈ exports) :
    ∃ before last more, exports = before ++ last :: more ∧
      after.locate last.1 = after.locate e.1 ∧
      (∀ later ∈ more, after.locate later.1 ≠ after.locate e.1) ∧
      after.at? e.1 = some (.file last.2) := by
  obtain ⟨before, last, more, heq, hlast, hmore⟩ :=
    exists_last_of_mem (fun x => after.locate x.1) he
  have hholds := h.holds before last more heq (by rwa [hlast])
  rw [at?, hlast, ← at?] at hholds
  exact ⟨before, last, more, heq, hlast, hmore, hholds⟩

/-- A file that was there is one still. -/
theorem exists_file {exports : List (Path × List UInt8)} (h : Keeps tree exports after)
    (hfile : tree.at? path = some (.file content)) : ∃ more, after.at? path = some (.file more) := by
  obtain ⟨place, hplace, hnode⟩ := exists_locate_of_at? hfile
  rw [at?_of_locate (locate_of_keepsDirs h.dirs hplace)]
  by_cases hexported : ∃ e ∈ exports, after.locate e.1 = .ok place
  · obtain ⟨e, he, hlead⟩ := hexported
    obtain ⟨-, last, -, -, -, -, hholds⟩ := h.exists_last he
    rw [at?_of_locate hlead] at hholds
    exact ⟨last.2, hholds⟩
  · rcases h.others place fun e he hlead => hexported ⟨e, he, hlead⟩ with heq | ⟨hnone, -⟩
    · exact ⟨content, heq.trans hnode⟩
    · rw [hnode] at hnone
      cases hnone

end Keeps

theorem keeps_complete (service : Service) (tree : FileTree) (pending : Pending)
    (answer : Except Fault BackendAnswer) :
    Keeps tree (savedBy (service.complete tree pending answer).1)
      (service.complete tree pending answer).2.1 := by
  cases answer with
  | error fault => cases pending <;> exact .refl tree
  | ok answer =>
    cases pending with
    | close => exact .refl tree
    | search page number =>
      simp only [complete]
      cases (service.completeSearch page number answer.payload).1 <;> exact .refl tree
    | suggest facet spec typed =>
      simp only [complete]
      cases (completeSuggest facet spec typed answer.payload).1 <;> exact .refl tree
    | save path =>
      simp only [complete]
      cases hsave : (completeSave tree path answer.content).1 with
      | error fault => exact .of_gainsDirs (gainsDirs_of_completeSave hsave)
      | ok => exact .of_exported (exported_of_completeSave hsave)

theorem keeps_of_issues {service after : Service} {operation : Operation} {issued : Issued}
    (h : operation.Issues service issued) (tree : FileTree) (answer : Except Fault BackendAnswer) :
    Keeps tree (savedBy (issued.complete after tree answer).1)
      (issued.complete after tree answer).2.1 := by
  cases h with
  | body built => exact .refl tree
  | search | suggest | save | close => exact keeps_complete ..

mutual

/-- **A step keeps the exports that succeed in it.** -/
theorem keeps_runStep (world : World) : ∀ step : Step,
    Keeps world.tree (saves (runStep world step).1) (runStep world step).2.tree
  | .mk (.error fault) answer during => by
    rw [runStep]
    exact .refl world.tree
  | .mk (.ok operation) answer during => by
    by_cases h : operation.IsRejected world.service.compiler
    · obtain ⟨fault, records, hstep⟩ :=
        runStep_of_isRejected (show Step.IsRejected _ (.mk (.ok operation) answer during) from h)
      rw [hstep]
      exact .refl world.tree
    · obtain ⟨issued, hissues⟩ := exists_issues_iff.mpr h
      obtain ⟨records, hissue⟩ := issue_of_issues hissues
      rw [runStep_eq hissue]
      -- what is exported during the call is there when the operation ends
      refine Keeps.trans ?_ (keeps_of_issues hissues _ answer)
      unfold stepsDuring
      split
      · rw [runSteps]
        exact .refl world.tree
      · exact keeps_runSteps ⟨world.service.counted issued.calls, world.tree⟩ during

/-- **A script keeps the exports that succeed in it.** -/
theorem keeps_runSteps (world : World) : ∀ steps : List Step,
    Keeps world.tree (savesOfAll (runSteps world steps).1) (runSteps world steps).2.tree
  | [] => by
    rw [runSteps]
    exact .refl world.tree
  | step :: steps => by
    simp only [runSteps, savesOfAll]
    exact (keeps_runStep world step).trans (keeps_runSteps _ steps)

end

/-- What a step gives. -/
def Report.result : Report → Except Fault Outcome
  | .mk result _ _ _ _ => result

/-- What an export comes to: without a body nothing happens at all, and otherwise the steps during its
download run before anything is written. -/
theorem runStep_save (world : World) (context : SearchContext) (path : Path)
    (answer : Except Fault BackendAnswer) (during : List Step) :
    let step := runStep world (.mk (.ok (.save context path)) answer during)
    let ran := runSteps world during
    match context.exportBody world.service.compiler, answer with
    | .error fault, _ => step.1.result = .error fault ∧ step.2 = world
    | .ok _, .error fault => step.1.result = .error fault ∧ step.2 = ran.2
    | .ok _, .ok got =>
      let done := completeSave ran.2.tree path got.content
      step.1.result = done.1.map (fun _ => .saved path got.content) ∧
        step.2 = ⟨ran.2.service, done.2.1⟩ := by
  cases hbody : context.exportBody world.service.compiler with
  | error fault =>
    simp only [runStep, issue, hbody]
    exact ⟨rfl, trivial⟩
  | ok body =>
    cases answer with
    | error fault =>
      simp only [runStep, issue, hbody]
      exact ⟨rfl, rfl⟩
    | ok got =>
      simp only [runStep, issue, hbody]
      exact ⟨rfl, rfl⟩

/--
**An export leaves its whole download or changes no file.**

An export whose filters cannot be compiled leaves the service and all files as they were, and so does one
whose download fails: the files are those that the steps during its call have left. If the download comes,
either it is in the file that the path leads to, in full, or the export fails; beside the file there are new
directories at most, on the way to it.

So after any script, steps during other calls included, each path that has been exported to holds the
content of the last export that led to its place, and all other files are as they were.
-/
theorem exports_are_atomic (world : World) :
    (∀ context path answer during,
      let step := runStep world (.mk (.ok (.save context path)) answer during)
      let ran := runSteps world during
      (∀ fault, context.exportBody world.service.compiler = .error fault →
        step.1.result = .error fault ∧ step.2 = world) ∧
      (∀ body fault, context.exportBody world.service.compiler = .ok body → answer = .error fault →
        step.1.result = .error fault ∧ step.2 = ran.2) ∧
      ∀ body got, context.exportBody world.service.compiler = .ok body → answer = .ok got →
        step.1.result = .ok (.saved path got.content) ∧
            Exported ran.2.tree path got.content step.2.tree ∨
          (∃ fault, step.1.result = .error fault) ∧
            GainsDirs (Path.IsAbove · path) ran.2.tree step.2.tree) ∧
    ∀ steps,
      let exports := savesOfAll (runSteps world steps).1
      let after := (runSteps world steps).2.tree
      (∀ e ∈ exports, ∃ before last more, exports = before ++ last :: more ∧
        after.locate last.1 = after.locate e.1 ∧
        (∀ later ∈ more, after.locate later.1 ≠ after.locate e.1) ∧
        after.at? e.1 = some (.file last.2)) ∧
      ∀ place, (∀ e ∈ exports, after.locate e.1 ≠ .ok place) →
        after.node? place = world.tree.node? place ∨
          world.tree.node? place = none ∧ after.node? place = some .dir := by
  refine ⟨fun context path answer during => ?_, fun steps => ?_⟩
  · have hsave := runStep_save world context path answer during
    refine ⟨?_, ?_, ?_⟩
    · intro fault hbody
      rw [hbody] at hsave
      exact hsave
    · rintro body fault hbody rfl
      rw [hbody] at hsave
      exact hsave
    · rintro body got hbody rfl
      rw [hbody] at hsave
      obtain ⟨hresult, hafter⟩ := hsave
      rw [hresult, hafter]
      cases hdone : (completeSave (runSteps world during).2.tree path got.content).1 with
      | ok => exact Or.inl ⟨rfl, exported_of_completeSave hdone⟩
      | error fault => exact Or.inr ⟨⟨_, rfl⟩, gainsDirs_of_completeSave hdone⟩
  · have hkeeps := keeps_runSteps world steps
    exact ⟨fun e he => hkeeps.exists_last he, hkeeps.others⟩

/-- With an earlier export in place, one that cannot be compiled and one whose download fails leave it
there, and one that succeeds takes its place. Of two exports to one place by different paths, the later one
is there under both. -/
theorem exports_are_atomic_twice :
    let world : World := ⟨⟨⟨⟨[]⟩, ["ocr"]⟩, "idx", 20, 0⟩,
      ⟨[(["out"], .dir), (["out", "a.csv"], .file [1])]⟩⟩
    let misfit : FilterEntry := .query ⟨"persons.id", .terms, .keyAscending, none, none⟩ "x"
    let bad : SearchContext := ⟨[(.str "persons", misfit)], none, none⟩
    let all : SearchContext := ⟨[], none, none⟩
    let path : Path := .ofString "out/a.csv"
    let detour : Path := .ofString "out/new/../a.csv"
    let save (context : SearchContext) (path : Path) (content : List UInt8) : Step :=
      .mk (.ok (.save context path)) (.ok ⟨.null, content⟩) []
    (runStep world (save bad path [2])).2 = world ∧
      (runStep world (.mk (.ok (.save all path)) (.error .noHits) [])).2 = world ∧
      (runStep world (save all path [2, 3])).2.tree.at? path = some (.file [2, 3]) ∧
      (runSteps world [save all detour [2], save all path [3]]).2.tree.at? detour
        = some (.file [3]) := by
  intro world misfit bad all path detour save
  obtain ⟨hone, hrun⟩ := exports_are_atomic world
  refine ⟨?_, ?_, ?_, ?_⟩
  · exact ((hone bad path (.ok ⟨.null, [2]⟩) []).1 _ rfl).2
  · exact ((hone all path (.error .noHits) []).2.1 _ _ rfl rfl).2
  · rcases (hone all path (.ok ⟨.null, [2, 3]⟩) []).2.2 _ _ rfl rfl with ⟨-, h⟩ | ⟨⟨fault, h⟩, -⟩
    · exact h.holds
    · have hresult : (runStep world (save all path [2, 3])).1.result.toOption.isSome = true := by
        decide +kernel
      rw [h] at hresult
      cases hresult
  · obtain ⟨hlast, -⟩ := hrun [save all detour [2], save all path [3]]
    have hexports : savesOfAll (runSteps world [save all detour [2], save all path [3]]).1
        = [(detour, [2]), (path, [3])] := by
      decide +kernel
    have hsame : (runSteps world [save all detour [2], save all path [3]]).2.tree.locate path
        = (runSteps world [save all detour [2], save all path [3]]).2.tree.locate detour := by
      decide +kernel
    rw [hexports] at hlast
    obtain ⟨before, last, more, heq, -, hmore, hholds⟩ := hlast (detour, [2]) List.mem_cons_self
    match before, heq with
    | [], heq =>
      obtain ⟨-, rfl⟩ := List.cons.inj heq
      exact absurd hsame (hmore (path, [3]) List.mem_cons_self)
    | [_], heq =>
      obtain ⟨rfl, -⟩ := List.cons.inj (List.cons.inj heq).2
      exact hholds
    | _ :: _ :: _, heq => simp at heq

end Service

end Faceted
