import Steward.Domain.Errors
import Steward.Lib.Except
import Steward.Domain.FixLoop
import Steward.Domain.Supervision

/-!
# The run's sink

`internal/domain/sink.go`: the coordinator-created terminal task of a run. `bindRunSink` creates
or rebinds it for a graph revision, `projectSupervisedRunSink` settles it once every task it needs
has finished, every execution of the run is quiescent and the supervision barrier lets it.
-/

namespace Steward

def sinkTaskName : String := "__sink"

structure SinkResult where
  fixLoops : List FixLoopSummary := []
  (failedTaskIDs cancelledTaskIDs skippedTaskIDs : List String := [])
deriving DecidableEq

structure SinkTask where
  (id name : String := "")
  graphRevision : Int := 0
  needs : List String := []
  progress : ProgressState := .unset
  result : Option SinkResult := none
  completedAt : Option Time := none
deriving DecidableEq

/-- One execution of a workflow definition. `graph` is the run's own graph, once it was amended. -/
structure WorkflowRun where
  (id workflowID : String := "")
  graph : Option (List Task) := none
  graphRevision : Int := 0
  sink : Option SinkTask := none
  supervision : Option SupervisionRecord := none
  progress : ProgressState := .unset
  revision : Int := 0
  (createdAt updatedAt : Time := 0)
  completedAt : Option Time := none
deriving DecidableEq

variable (run : WorkflowRun) (tasks : List Task)

def tasksForRun (templates : List Task) : List Task :=
  match run.graph with
  | some tasks => tasks
  | none => templates.filter fun t => t.workflowID = run.workflowID ∧
      (t.runID = "" ∨ t.runID = run.id)

variable (runID : String) (attempts : List Attempt) (assignments : List Assignment)

def sinkTaskID : String := "sink:" ++ runID

/-! ## The supervision barrier -/

inductive SinkBarrierReason
  | unset
  | unresolvedIncident
  | finalGateUnaccepted
deriving DecidableEq

/-- The supervision state the settlement barrier reads; `{}` is the unsupervised run. -/
structure SupervisionBarrier where
  supervised : Bool := false
  gates : List Gate := []
  incidents : List ReviewIncident := []
deriving DecidableEq

structure SinkBarrierVerdict where
  settles : Bool := false
  reason : SinkBarrierReason := .unset
  (incidentID gateID : String := "")
deriving DecidableEq

def Gate.withholdsSettlement (g : Gate) : Bool :=
  g.definition.final ∧ ¬(g.state = .accepted ∨ g.state = .cancelled)

/-- Whether supervision permits a run to settle. An unresolved incident withholds it; an unaccepted
final gate does unless the run has failed or been cancelled. -/
def supervisionSettlementBarrier (barrier : SupervisionBarrier) (runFailed : Bool) :
    SinkBarrierVerdict :=
  if !barrier.supervised then
    { settles := true }
  else
    match barrier.incidents.find? fun i => i.state.unresolved with
    | some incident =>
      { reason := .unresolvedIncident, incidentID := incident.id, gateID := incident.gateID }
    | none =>
      if runFailed then
        { settles := true }
      else
        match barrier.gates.find? Gate.withholdsSettlement with
        | some gate => { reason := .finalGateUnaccepted, gateID := gate.definition.id }
        | none => { settles := true }

/-! ## Quiescence -/

def ControlState.quiescent : ControlState → Bool
  | .unset | .stopped | .unassigned => true
  | _ => false

/-- Whether this attempt is proven stopped: its control says so, and the assignment it names exists,
is its own and is over. The map of assignments keeps the last of an identity. -/
def Attempt.quiescent (a : Attempt) (assignments : List Assignment) : Bool :=
  a.control.quiescent &&
  (a.assignmentID == "" ||
    match assignments.reverse.find? fun s => s.id = a.assignmentID with
    | none => false
    | some s => s.attemptID == a.id && s.state.settled)

/-- Whether every execution of the run's own work, old attempts included, is proven stopped. An
overseer activation is not that work. -/
def runExecutionsQuiescent : Bool :=
  let own := attempts.filter fun a => a.workflowRunID = runID ∧ a.isSupervisionActivation = false
  own.all (fun a => a.quiescent assignments) &&
  assignments.all fun s => !(own.any fun a => a.id = s.attemptID) || s.state.settled

/-! ## Binding -/

/-- The needs of the sink: the identities of the tasks, in order, refusing foreign, unnamed,
reserved and repeated names. -/
def sinkNeeds (run : WorkflowRun) : List Task → List String → Except Err (List String)
  | [], _ => .ok []
  | t :: ts, names =>
    if t.workflowID ≠ run.workflowID ∨ t.id = "" ∨ t.name = "" ∨ t.name = sinkTaskName ∨
        t.id = sinkTaskID run.id then
      .error { text := "invalid or reserved sink predecessor " ++ quote t.id }
    else if t.name ∈ names then
      .error { text := "duplicate sink predecessor name " ++ quote t.name }
    else
      match sinkNeeds run ts (t.name :: names) with
      | .error e => .error e
      | .ok needs => .ok (t.id :: needs)

def rebindSink (needs : List String) : Except Err SinkTask :=
  let fresh : SinkTask :=
    { id := sinkTaskID run.id, name := sinkTaskName, graphRevision := run.graphRevision
      needs := needs, progress := .blocked }
  match run.sink with
  | none => .ok fresh
  | some previous =>
    if previous.id ≠ sinkTaskID run.id ∨ previous.name ≠ sinkTaskName ∨ previous.graphRevision < 1 then
      .error { text := "sink identity is inconsistent with its run" }
    else if run.graphRevision < previous.graphRevision then
      .error { text := "sink graph revision moved backwards" }
    else if needs ≠ previous.needs ∧ run.graphRevision = previous.graphRevision then
      .error { text := "sink dependencies changed without a graph revision" }
    else if previous.progress.terminal then
      if run.graphRevision ≠ previous.graphRevision ∨ needs ≠ previous.needs then
        .error { text := "completed sink is immutable; submit a new run" }
      else
        .ok previous
    else
      .ok fresh

def WorkflowRun.defaultGraphRevision : WorkflowRun :=
  if run.graphRevision = 0 then { run with graphRevision := 1 } else run

def bindSinkAtRevision : Except Err SinkTask := do
  Except.refuseWhen (run.graphRevision < 1) { text := "sink requires a positive graph revision" }
  let ids ← sinkNeeds run tasks []
  let needs := ids.insertionSort (· ≤ ·)
  Except.refuseWhen (¬needs.Nodup) { text := "duplicate sink predecessor ID" }
  rebindSink run needs

/-- Create or rebind the implicit terminal task for the run's graph revision. As in Go, the run
is returned also beside an error. -/
def bindRunSink : WorkflowRun × Option Err :=
  if run.id = "" ∨ run.workflowID = "" then
    (run, some { text := "sink requires run and workflow identity" })
  else
    match bindSinkAtRevision run.defaultGraphRevision tasks with
    | .error e => (run.defaultGraphRevision, some e)
    | .ok sink => ({ run.defaultGraphRevision with sink := some sink }, none)

theorem bindRunSink_frame : (bindRunSink run tasks).1 =
      { run with
        sink := (bindRunSink run tasks).1.sink
        graphRevision := (bindRunSink run tasks).1.graphRevision } := by
  unfold bindRunSink
  split_ifs
  · rfl
  · split <;> unfold WorkflowRun.defaultGraphRevision <;> split_ifs <;> rfl

/-! ## Settlement -/

def currentAttempt (taskID : String) : Option Attempt :=
  latestAttempt (attempts.filter fun a => a.workflowRunID = runID) taskID

/-- Fold one needed task's outcome into the result; the flag says every task so far succeeded.
A task skipped because its verdict branch was not taken counts for nothing. -/
def SinkResult.addOutcome (result : SinkResult) (allSucceeded : Bool) (id : String) (a : Attempt) :
    SinkResult × Bool :=
  match a.progress with
  | .failed => ({ result with failedTaskIDs := result.failedTaskIDs ++ [id] }, false)
  | .cancelled => ({ result with cancelledTaskIDs := result.cancelledTaskIDs ++ [id] }, false)
  | .skipped =>
    if a.failure = verdictBranchSkipped then (result, allSucceeded)
    else ({ result with skippedTaskIDs := result.skippedTaskIDs ++ [id] }, false)
  | .succeeded => (result, allSucceeded)
  | _ => (result, false)

def aggregateNeeds (current : String → Option Attempt) :
    List String → SinkResult × Bool → Option (SinkResult × Bool)
  | [], acc => some acc
  | id :: ids, acc =>
    match current id with
    | none => none
    | some a =>
      if a.progress.terminal then aggregateNeeds current ids (acc.1.addOutcome acc.2 id a) else none

def SinkResult.runFailed (result : SinkResult) : Bool :=
  !result.failedTaskIDs.isEmpty || result.fixLoops.any FixLoopSummary.exhausted ||
    !result.cancelledTaskIDs.isEmpty

def settleSink (sink : SinkTask) (result : SinkResult) (allSucceeded : Bool) (now : Time) :
    WorkflowRun :=
  let failed := !result.failedTaskIDs.isEmpty || result.fixLoops.any FixLoopSummary.exhausted
  { run with
    sink := some
      { sink with
        progress := if failed then .failed else .succeeded
        result := some result
        completedAt := some now }
    progress :=
      if failed then .failed
      else if !result.cancelledTaskIDs.isEmpty then .cancelled
      else if allSucceeded then .succeeded
      else .skipped
    completedAt := some now }

/-- The needed tasks' outcomes, once every execution of the run is quiescent and every needed
task is terminal: the run would settle with this result. -/
def settlementResult (sink : SinkTask) (tasks : List Task) (attempts : List Attempt)
    (assignments : List Assignment) : Option (SinkResult × Bool) :=
  if runExecutionsQuiescent run.id attempts assignments then
    aggregateNeeds (currentAttempt run.id attempts) sink.needs
      ({ fixLoops := summarizeFixLoops tasks attempts }, true)
  else none

/-- Aggregate the task outcomes into the sink once every execution is proven quiescent and the
supervision barrier lets a run that would settle do so. -/
def projectSupervisedRunSink
    (barrier : SupervisionBarrier) (now : Time) : WorkflowRun × Option Err :=
  match bindRunSink run tasks with
  | (run, some e) => (run, some e)
  | (run, none) =>
    match run.sink with
    | none => (run, none)
    | some sink =>
      if sink.progress.terminal then (run, none)
      else
        match settlementResult run sink tasks attempts assignments with
        | none => (run, none)
        | some (result, allSucceeded) =>
          if !(supervisionSettlementBarrier barrier result.runFailed).settles then (run, none)
          else if now = 0 then (run, some { text := "sink settlement requires a timestamp" })
          else (settleSink run sink result allSucceeded now, none)

def projectRunSink (now : Time) : WorkflowRun × Option Err :=
  projectSupervisedRunSink run tasks attempts assignments {} now

end Steward
