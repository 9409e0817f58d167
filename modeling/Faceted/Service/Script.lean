import Faceted.Service

/-!
# Scripted runs

A run of the service against a backend whose answers are given beforehand. While a call is in
flight, further steps can run; they see the service as the call left it, and the call is completed
with the service as they leave it.

## Termination

A run recurses on the script.
-/

namespace Faceted.Service

/-- A step of a script: an operation, or the fault that keeps it from being asked for; the answer
that the backend will give; and the steps that run before it does. -/
inductive Step where
  | mk (operation : Except Fault Operation) (answer : Except Fault BackendAnswer)
    (during : List Step)

instance : Inhabited Step := ⟨.mk (.ok .close) (.ok ⟨.null, []⟩) []⟩

/-- What became of a step: its result, the calls it made, the number of the last search after it,
its own log records, and the reports of the steps that ran while its call was in flight. -/
inductive Report where
  | mk (result : Except Fault Outcome) (calls : List BackendCall) (generation : Nat)
    (records : List LogRecord) (during : List Report)

/-- The service and the files that a run works on. -/
structure World where
  service : Service
  tree : FileTree

mutual

/-- Runs a step. -/
def runStep (world : World) : Step → Report × World
  | .mk operation answer during =>
    match operation with
    | .error fault => (.mk (.error fault) [] world.service.generation [] [], world)
    | .ok operation =>
      match world.service.issue operation with
      | (.refused fault, service, records) =>
        (.mk (.error fault) [] service.generation records [], { world with service := service })
      | (.answered outcome, service, records) =>
        (.mk (.ok outcome) [] service.generation records [], { world with service := service })
      | (.sent call pending, service, records) =>
        let (reports, after) := runSteps { world with service := service } during
        let (result, tree, more) := after.service.complete after.tree pending answer
        (.mk result [call] after.service.generation (records ++ more) reports,
          { after with tree := tree })

/-- Runs steps one after the other. -/
def runSteps (world : World) : List Step → List Report × World
  | [] => ([], world)
  | step :: steps =>
    let (report, next) := runStep world step
    let (reports, last) := runSteps next steps
    (report :: reports, last)

end

end Faceted.Service
