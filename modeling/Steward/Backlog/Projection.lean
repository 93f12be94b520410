import Steward.Backlog.Dag
import Steward.Domain.SupervisionReadiness
import Steward.Store.WorkflowProjection

/-!
# Projecting workflow runs

`internal/backlog/projection.go`: one pass over a run's read set. The graph is refreshed, blocked
tasks that can no longer run are skipped once nothing else can make progress, and the sink is
projected behind the supervision barrier. What changed is published against the read set.
-/

namespace Steward

/-- The supervision state a projection reads; `none` stands for an unsupervised run. -/
structure SupervisionProjection where
  snapshot : SupervisionSnapshot := {}
  incidents : List ReviewIncident := []
deriving DecidableEq

def runSettled (run : WorkflowRun) : Bool :=
  Store.sinkSettled run || run.progress.terminal

def Store.supervisionProjection (s : Store) (runID : String) : Option SupervisionProjection :=
  match s.workflowRuns.get? runID, s.supervisionContext runID with
  | some run, some state =>
    some
      { snapshot :=
          { runID := runID
            graphRevision := run.graphRevision
            supervised := true
            runTerminal := Steward.runSettled run
            runCancelled := run.progress = .cancelled
            routeAvailable := true
            gates := state.gates
            holds := state.holds }
        incidents := s.loadSupervisionIncidents runID }
  | _, _ => none

def supervisionBarrier : Option SupervisionProjection → SupervisionBarrier
  | none => {}
  | some projection =>
    { supervised := true, gates := projection.snapshot.gates, incidents := projection.incidents }

def SupervisionBlockerCode.deferrable : SupervisionBlockerCode → Bool
  | .gatePending | .gateAwaitingReview | .gateHeld | .gateEscalated | .branchHold | .runHold
  | .routeUnavailable => true
  | _ => false

def supervisionDefersSkip (projection : Option SupervisionProjection) (taskID : String) : Bool :=
  match projection with
  | none => false
  | some p =>
    (supervisionAdmits p.snapshot { taskID := taskID }).blockers.any fun b => b.code.deferrable

/-! ## Tasks that can no longer run -/

/-- The dependencies that make a blocked task impossible: terminal without success, or settled
against it in another run. -/
def failedDependencies (state : DAGState) (task : Task) : List String :=
  let localFailures := task.needs.filter fun name =>
    (taskByName state.tasks name).any fun dependency =>
      (latestAttempt state.attempts dependency.id).any fun a =>
        a.progress.terminal ∧ a.progress ≠ .succeeded
  let externalFailures := (task.externalNeeds.filter fun ref =>
    (externalObservation state.external ref.text).any fun o => o.exitCode = 2).map NodeRef.text
  (localFailures ++ externalFailures).insertionSort (· ≤ ·)

/-- Go's `%v` of a list of strings. -/
def listText (names : List String) : String := "[" ++ String.intercalate " " names ++ "]"

def skipImpossible (supervision : Option SupervisionProjection) (now : Time)
    (acc : DAGState × Bool) (task : Task) : DAGState × Bool :=
  match latestAttempt acc.1.attempts task.id with
  | none => acc
  | some attempt =>
    let failed := failedDependencies acc.1 task
    if attempt.progress ≠ .blocked ∨ attempt.assignmentID ≠ "" ∨
        supervisionDefersSkip supervision task.id = true ∨ failed = [] then acc
    else
      ({ acc.1 with
          attempts := setAttempt acc.1.attempts attempt.id fun a =>
            { a.skip ("terminal dependency prevented execution: " ++ listText failed) with
              completedAt := some now } }, true)

/-- Sweep over the tasks until a sweep changes nothing. Every sweep but the last skips a blocked
task, so the number of tasks bounds the sweeps. -/
def skipImpossibleTasks (supervision : Option SupervisionProjection) (now : Time) :
    Nat → DAGState → DAGState
  | 0, state => state
  | fuel + 1, state =>
    let swept := state.tasks.foldl (skipImpossible supervision now) (state, false)
    if swept.2 then skipImpossibleTasks supervision now fuel swept.1 else swept.1

def finalizeBlockedSinkPredecessors (state : DAGState) (assignments : List Assignment)
    (supervision : Option SupervisionProjection) (now : Time) : DAGState :=
  let stuck := state.attempts.all fun a =>
    (latestAttempt state.attempts a.taskID).all fun latest =>
      latest.progress.terminal || latest.progress = .blocked
  if runExecutionsQuiescent state.run.id state.attempts assignments ∧ stuck then
    skipImpossibleTasks supervision now (state.tasks.length + 1) state
  else state

/-! ## One run -/

/-- An attempt as the projection publishes it: only an unassigned, unfinished attempt whose progress
or failure the graph changed. -/
def projectAttempt (state : DAGState) (now : Time) (current : Attempt) : Attempt :=
  let projected := (state.attempts.reverse.find? fun a => a.id = current.id).getD {}
  if current.assignmentID ≠ "" ∨ current.progress.terminal = true ∨
      (current.progress = projected.progress ∧ current.failure = projected.failure) then current
  else
    let next :=
      { current with
        progress := projected.progress
        failure := projected.failure
        revision := current.revision + 1
        updatedAt := now }
    if projected.progress = .skipped then { next with control := .stopped, completedAt := some now }
    else next

/-- The run as the projection publishes it, before its revision: a run whose sink is not over is
not over either. -/
def projectRun (projected : WorkflowRun) (progress : ProgressState) : WorkflowRun :=
  if Store.sinkSettled projected then projected
  else
    { projected with
      progress := if progress.terminal then .active else progress
      completedAt := none }

def projectGraph (before : WorkflowProjectionSnapshot) (external : List (String × NodeObservation))
    (supervision : Option SupervisionProjection) (now : Time) : Except Err DAGState := do
  let state ← newDAGExecution
    { external := external, run := before.run, tasks := before.tasks, attempts := before.attempts }
  return finalizeBlockedSinkPredecessors state.snapshot before.assignments supervision now

/-- What one pass publishes for a run: nothing for a settled one, for one whose graph or sink is
refused, and for one that does not change. -/
def projectWorkflowRun (before : WorkflowProjectionSnapshot)
    (external : List (String × NodeObservation)) (supervision : Option SupervisionProjection)
    (now : Time) : Option (WorkflowRun × List Attempt) :=
  if Store.sinkSettled before.run then none
  else
    match projectGraph before external supervision now with
    | .error _ => none
    | .ok state =>
      let updated := before.attempts.map (projectAttempt state now)
      match projectSupervisedRunSink before.run before.tasks updated before.assignments
          (supervisionBarrier supervision) now with
      | (_, some _) => none
      | (projected, none) =>
        let projected := projectRun projected state.run.progress
        if updated = before.attempts ∧ before.run.progress = projected.progress ∧
            before.run.graphRevision = projected.graphRevision ∧ before.run.sink = projected.sink ∧
            before.run.completedAt = projected.completedAt then none
        else
          some ({ projected with revision := before.run.revision + 1, updatedAt := now }, updated)

end Steward
