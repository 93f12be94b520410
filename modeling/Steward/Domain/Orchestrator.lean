import Mathlib.Data.Rat.Defs
import Steward.Domain.DirectoryResource

/-!
# Workflow runs, tasks, attempts and assignments

The durable records of `internal/domain/orchestrator.go`, with the fields the modelled functions
read or write. A Go string that enumerates constants is an inductive type whose `unset` is the empty
string; a `time.Time` is an instant `Time` whose zero is Go's; `*time.Time` is `Option Time`;
`int64` counters are integers. Default field values are Go's zero values.
-/

namespace Steward

/-- An instant; `0` is Go's zero time. -/
abbrev Time := Int

abbrev Duration := Int

inductive ProgressState
  | unset
  | queued
  | blocked
  | ready
  | active
  | needsInput
  | waitingExternal
  | verifying
  | succeeded
  | failed
  | cancelled
  | skipped
deriving DecidableEq

def ProgressState.text : ProgressState → String
  | .unset => ""
  | .queued => "queued"
  | .blocked => "blocked"
  | .ready => "ready"
  | .active => "active"
  | .needsInput => "needs-input"
  | .waitingExternal => "waiting-external"
  | .verifying => "verifying"
  | .succeeded => "succeeded"
  | .failed => "failed"
  | .cancelled => "cancelled"
  | .skipped => "skipped"

def ProgressState.terminal : ProgressState → Bool
  | .succeeded | .failed | .cancelled | .skipped => true
  | _ => false

inductive ControlState
  | unset
  | unassigned
  | preparing
  | running
  | draining
  | paused
  | pausedUncheckpointed
  | resuming
  | stopped
  | waitingExternal
deriving DecidableEq

def ControlState.text : ControlState → String
  | .unset => ""
  | .unassigned => "unassigned"
  | .preparing => "preparing"
  | .running => "running"
  | .draining => "draining"
  | .paused => "paused"
  | .pausedUncheckpointed => "paused-uncheckpointed"
  | .resuming => "resuming"
  | .stopped => "stopped"
  | .waitingExternal => "waiting-external"

def ControlState.holdsProviderSlot : ControlState → Bool
  | .preparing | .running | .draining | .resuming => true
  | _ => false

inductive AdmissionState
  | unset
  | «open»
  | constrained
  | draining
  | closed
  | recovering
deriving DecidableEq

inductive TurnOutcomeMarker
  | unset
  | done
  | «continue»
  | missing
  | waiting
deriving DecidableEq

inductive FailureClass
  | unset
  | infrastructure
  | protocol
  | code
  | policy
  | cancelled
  | unknown
deriving DecidableEq

structure ReviewVerdict where
  verdict : String := ""
  blockingFindings : Int := 0
  findingTitles : List String := []
deriving DecidableEq

/-- The coordinator's decision whether a review-declared task may complete with the work in its
workspace: the round that decided and the heads it compared. -/
structure ReviewCompletionGate where
  passed : Bool := false
  (code detail roundID reviewedHead physicalHead : String := "")
  dirtyPaths : List String := []
  newRoundNeeded : Bool := false
deriving DecidableEq

structure FixLoopTask where
  name : String := ""
  (round maxRounds : Int := 0)
  kind : String := ""
deriving DecidableEq

inductive EnvironmentScope
  | unset
  | task
  | workflow
deriving DecidableEq

structure Workflow where
  (id project : String := "")
  environmentScope : EnvironmentScope := .unset
deriving DecidableEq

structure ProviderRoute where
  (workerID providerInstanceID model : String := "")
  options : List (String × String) := []
  quotaPoolID : String := ""
deriving DecidableEq

inductive TaskClass
  | unset
  | required
  | surplus
deriving DecidableEq

structure CarriedInput where
  (producer producerTaskID name artifactID : String := "")
deriving DecidableEq

inductive CPUClass
  | unset
  | low
  | medium
  | high
deriving DecidableEq

def CPUClass.rank : CPUClass → Int
  | .unset => 0
  | .low => 1
  | .medium => 2
  | .high => 3

def CPUClass.text : CPUClass → String
  | .unset => ""
  | .low => "low"
  | .medium => "medium"
  | .high => "high"

structure ResourceDemand where
  (minCPUClass preferredCPUClass : CPUClass := .unset)
  cpuUnits : Rat := 0
  (memoryMB scratchMB : Int := 0)
deriving DecidableEq

structure RoleCandidateVerdict where
  ordinal : Int := 0
  (band pool route : String := "")
  eligible : Bool := false
  effort : String := ""
deriving DecidableEq

structure RoleSelection where
  candidates : List RoleCandidateVerdict := []
  producerFamilies : List String := []
  crossProvider : Bool := false
deriving DecidableEq

structure NodeRef where
  (runID taskID : String := "")
deriving DecidableEq

def NodeRef.text (n : NodeRef) : String := n.runID ++ "/" ++ n.taskID

/-- A node of a workflow definition. `needsVerdict` maps producers to the verdict expected of them,
`dependencyInputs` to the outputs taken; `reviewOutput`, `reviewRequirements` and `gate` say whether
the task declares these, and `outputs` names its declared outputs. -/
structure Task where
  needsVerdict : List (String × String) := []
  fixLoop : Option FixLoopTask := none
  (role roleEffort : String := "")
  roleSelection : Option RoleSelection := none
  (reviewOutput reviewRequirements reviewJudge : Bool := false)
  directoryBindings : List DirectoryBinding := []
  definitionRevision : Int := 0
  timeout : Duration := 0
  (id workflowID runID name : String := "")
  «class» : TaskClass := .unset
  needs : List String := []
  externalNeeds : List NodeRef := []
  promptArtifactID : String := ""
  inputArtifactIDs : List String := []
  dependencyInputs : List (String × List String) := []
  carriedInputs : List CarriedInput := []
  (outputs verification : List String := [])
  gate : Bool := false
  resourceDemand : ResourceDemand := {}
  routes : List ProviderRoute := []
  resourceLocks : List String := []
  (importance maxTurns : Int := 0)
  deadline : Option Time := none
deriving DecidableEq

inductive ArtifactKind
  | unset
  | input
  | output
  | checkpoint
  | log
  | summary
  | gitState
  | verification
  | gate
deriving DecidableEq

structure Artifact where
  (id workflowRunID taskID attemptID : String := "")
  kind : ArtifactKind := .unset
  (name mediaType : String := "")
  size : Int := 0
  (sha256 storagePath producer : String := "")
  createdAt : Time := 0
deriving DecidableEq

/-- The observed outcome of a task of another run: exit code 0 is met, 1 not yet, 2 settled against
the waiter. -/
structure NodeObservation where
  target : NodeRef := {}
  runRevision : Int := 0
  attemptID : String := ""
  attemptRevision : Int := 0
  progress : ProgressState := .unset
  exitCode : Int := 0
  reason : String := ""
deriving DecidableEq

structure Attempt where
  reviewVerdict : Option ReviewVerdict := none
  supervisionActivationID : String := ""
  supervisionActivationEpoch : Int := 0
  (id workflowRunID taskID : String := "")
  number : Int := 0
  progress : ProgressState := .unset
  control : ControlState := .unset
  revision : Int := 0
  lastTurnOutcomeID : String := ""
  lastTurnOutcomeMarker : TurnOutcomeMarker := .unset
  (assignmentID threadID checkpointArtifactID finalSummaryArtifactID : String := "")
  adminForceStart : Bool := false
  adminImportance : Option Int := none
  failure : String := ""
  failureClass : FailureClass := .unset
  failureReason : String := ""
  reviewGate : Option ReviewCompletionGate := none
  startedAt : Option Time := none
  updatedAt : Time := 0
  completedAt : Option Time := none
deriving DecidableEq

namespace Attempt

/-- Whether a thread is executing a turn of this attempt and may still act on it. A parked
attempt counts: the same thread resumes it when the wait settles. -/
def turnLive (a : Attempt) : Bool :=
  (match a.progress with
    | .active | .waitingExternal => true
    | _ => false) &&
  (match a.control with
    | .preparing | .running | .resuming | .waitingExternal => true
    | _ => false)

def isSupervisionActivation (a : Attempt) : Bool :=
  a.supervisionActivationID != ""

end Attempt

def declaredTaskAttempts (attempts : List Attempt) : List Attempt :=
  attempts.filter fun a => !a.isSupervisionActivation

inductive AssignmentState
  | unset
  | offered
  | claimed
  | unknown
  | released
  | completed
deriving DecidableEq

def AssignmentState.text : AssignmentState → String
  | .unset => ""
  | .offered => "offered"
  | .claimed => "claimed"
  | .unknown => "unknown"
  | .released => "released"
  | .completed => "completed"

def AssignmentState.settled : AssignmentState → Bool
  | .completed | .released => true
  | _ => false

inductive DispatchState
  | unset
  | prepared
  | creating
  | confirmed
  | unknown
  | stopped
deriving DecidableEq

structure TaskAdmissionEstimate where
  remainingCost : Rat := 0
  (expectedRuntime checkpointMargin : Duration := 0)
deriving DecidableEq

/-- One attempt committed to a worker and a provider route. `placement` is the demand that its
placement evidence records. -/
structure Assignment where
  (placement executorDemand : Option ResourceDemand := none)
  graphRevision : Int := 0
  (id attemptID workerID workerEpoch project : String := "")
  route : ProviderRoute := {}
  estimate : Option TaskAdmissionEstimate := none
  state : AssignmentState := .unset
  unknownSince : Option Time := none
  epoch : Int := 0
  leaseToken : String := ""
  leaseExpiresAt : Time := 0
  (dispatchToken threadID : String := "")
  dispatchState : DispatchState := .unset
  dispatchRevision : Int := 0
  dispatchError : String := ""
  (createdAt updatedAt : Time := 0)
deriving DecidableEq

namespace Assignment

def setState (a : Assignment) (state : AssignmentState) (now : Time) : Assignment :=
  if state ≠ .unknown then
    { a with unknownSince := none, state := state }
  else if a.state ≠ .unknown then
    { a with unknownSince := some now, state := state }
  else
    { a with state := state }

@[simp] theorem setState_state (a : Assignment) (state : AssignmentState) (now : Time) :
    (a.setState state now).state = state := by
  unfold setState
  split_ifs <;> rfl

end Assignment

def assignmentOwnsExecutorCapacity (attempt : Attempt) (assignment : Assignment) : Bool :=
  !assignment.state.settled && attempt.control != .waitingExternal

def assignmentExecutorDemand (attempt : Attempt) (assignment : Assignment) : Option ResourceDemand :=
  if attempt.taskID = "" ∨ attempt.isSupervisionActivation = true then some {}
  else assignment.executorDemand.or assignment.placement

end Steward
