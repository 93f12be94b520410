import Mathlib.Data.List.Sort
import Steward.Domain.Errors
import Steward.Domain.Worker

/-!
# Reconciling worker evidence

`internal/backlog/worker_reconcile.go`: `planWorkerStateTransitions` folds one complete worker
snapshot and the recorded acknowledgements into assignment and attempt projections. Omission of an
assignment is evidence only when it was unknown already or belongs to an earlier worker session.
-/

namespace Steward

/-- The part of the coordinator's records that reconciliation and planning read. -/
structure CoordinatorRecords where
  attempts : List Attempt := []
  assignments : List Assignment := []
deriving DecidableEq

def workerStateObservedPresent : String := "worker-observed-present"
def workerStateObservedStopped : String := "worker-observed-stopped"
def workerStateObservedCompleted : String := "worker-observed-completed"
def workerStateObservedAbsent : String := "worker-observed-absent"
def workerStateObservedUnknown : String := "worker-observed-unknown"
def workerStateObservedWaiting : String := "worker-observed-waiting-external"
def workerStateCommandRejected : String := "worker-command-rejected"
def workerStateDispatchAccepted : String := "dispatch-accepted"
def workerStateCollectAccepted : String := "collect-accepted"
def terminalAttemptStopRequired : String := "terminal-attempt-stop-required"

def waitingExternal (attempt : Attempt) : Bool :=
  attempt.progress = .waitingExternal ∨ attempt.control = .waitingExternal

variable (commands : List WorkerCommandRecord) (assignment : Assignment) (attempt : Attempt)
  (observation : WorkerAssignmentObservation) (snapshot : WorkerSnapshot) (threadID : String)

def workerOwnsStopIntent : Bool :=
  attempt.control = .draining ∨ attempt.control = .paused ∨ attempt.control = .pausedUncheckpointed

def attemptFinished : Bool :=
  attempt.progress.terminal || attempt.completedAt.isSome

def unfinishedWorkerPark : Bool :=
  !attemptFinished attempt && waitingExternal attempt

def acceptedWorkerCommand (kind : WorkerCommandKind) : Bool :=
  match workerCommandRecord? commands assignment.id assignment.epoch kind with
  | some { acknowledgement := some ack, .. } => ack.accepted
  | _ => false

def rejectedWorkerCommand (kind : WorkerCommandKind) : Bool :=
  match workerCommandRecord? commands assignment.id assignment.epoch kind with
  | some { acknowledgement := some ack, .. } => !ack.accepted
  | _ => false

/-- A planned projection: the next assignment, the next attempt and the reason. -/
structure WorkerStateProjection where
  assignment : Assignment
  attempt : Attempt
  reason : String
deriving DecidableEq

/-- Drop a projection that changes nothing but times, else give the attempt its next revision. -/
def finishWorkerStateTransition (previousAssignment : Assignment) (previousAttempt : Attempt)
    (assignment : Assignment) (attempt : Attempt) (reason : String) :
    Option WorkerStateProjection :=
  if previousAssignment = { assignment with updatedAt := previousAssignment.updatedAt } ∧
      previousAttempt = { attempt with
        revision := previousAttempt.revision, updatedAt := previousAttempt.updatedAt } then
    none
  else
    some
      { assignment := { assignment with updatedAt := attempt.updatedAt }
        attempt := { attempt with revision := previousAttempt.revision + 1 }
        reason := reason }

/-! ## The projections of each kind of evidence -/

variable (commands : List WorkerCommandRecord) (now : Time)

def releasedAssignment : Assignment :=
  { assignment.setState .released now with leaseExpiresAt := 0, updatedAt := now }

/-- A parked attempt keeps its reference to the released assignment, as the evidence its wake
needs; any other goes back to ready, or stays finished. -/
def releasedAttempt : Attempt :=
  if unfinishedWorkerPark attempt then
    { attempt with updatedAt := now }
  else if attemptFinished attempt then
    { attempt with control := .stopped, assignmentID := "", updatedAt := now }
  else if attempt.control ≠ .stopped then
    { attempt with control := .unassigned, progress := .ready, assignmentID := "", updatedAt := now }
  else
    { attempt with assignmentID := "", updatedAt := now }

def releasedWorkerState (reason : String) : Option WorkerStateProjection :=
  finishWorkerStateTransition assignment attempt (releasedAssignment assignment now)
    (releasedAttempt attempt now) reason

def reportedThread (current : String) : String :=
  if threadID ≠ "" then threadID else current

/-- What becomes of an attempt whose execution is over: a parked one stays parked, an unfinished
one goes to `progress`, a finished one is stopped. -/
def completedAttempt (progress : ProgressState) (threadID : String) (now : Time) : Attempt :=
  if unfinishedWorkerPark attempt then
    { attempt with updatedAt := now }
  else
    { attempt with
      progress := if attemptFinished attempt then attempt.progress else progress
      control := .stopped
      threadID := reportedThread threadID attempt.threadID
      updatedAt := now }

def completedReason (reason : String) : String :=
  if unfinishedWorkerPark attempt then workerStateObservedWaiting else reason

def observedCompletedAssignment : Assignment :=
  { assignment.setState .claimed now with
    workerEpoch := snapshot.workerEpoch
    leaseExpiresAt := snapshot.validUntil
    threadID := reportedThread threadID assignment.threadID
    updatedAt := now }

/-- The worker reports the execution as completed, not yet collected: custody is renewed and the
attempt waits for collection. -/
def observedCompletedWorkerState : Option WorkerStateProjection :=
  finishWorkerStateTransition assignment attempt
    (observedCompletedAssignment assignment snapshot threadID now)
    (completedAttempt attempt .active threadID now)
    (completedReason attempt workerStateObservedCompleted)

def completedAssignment (workerEpoch threadID : String) (now : Time) : Assignment :=
  { assignment.setState .completed now with
    workerEpoch := workerEpoch
    leaseExpiresAt := 0
    threadID := reportedThread threadID assignment.threadID
    updatedAt := now }

def completedWorkerState (workerEpoch threadID : String) (now : Time) (reason : String) :
    Option WorkerStateProjection :=
  finishWorkerStateTransition assignment attempt
    (completedAssignment assignment workerEpoch threadID now)
    (completedAttempt attempt .verifying threadID now) (completedReason attempt reason)

def observedControl : ControlState :=
  if observation.control = .unset then .running else observation.control

def ControlState.observable : ControlState → Bool
  | .preparing | .running | .draining | .paused | .pausedUncheckpointed | .resuming
  | .waitingExternal => true
  | _ => false

/-- What a claimed observation makes of the attempt's progress and control, and why. Coordinator
intent outlives the worker's view of it. -/
def claimedAttemptState (control : ControlState) : ProgressState × ControlState × String :=
  if workerOwnsStopIntent attempt then
    (attempt.progress, attempt.control, workerStateObservedPresent)
  else if attemptFinished attempt then
    (attempt.progress, .stopped, terminalAttemptStopRequired)
  else if attempt.control = .resuming then
    (attempt.progress, attempt.control, workerStateObservedPresent)
  else if attempt.progress = .waitingExternal then
    (.waitingExternal, .waitingExternal, workerStateObservedWaiting)
  else if attempt.control = .waitingExternal then
    (attempt.progress, attempt.control, workerStateObservedWaiting)
  else if control = .waitingExternal then
    (attempt.progress, attempt.control, workerStateObservedPresent)
  else
    (.active, control, workerStateObservedPresent)

def claimedAssignment : Assignment :=
  { assignment.setState .claimed now with
    workerEpoch := snapshot.workerEpoch
    threadID := observation.threadID
    updatedAt := now
    leaseExpiresAt :=
      if assignment.state = .unknown ∨ ¬now < assignment.leaseExpiresAt then snapshot.validUntil
      else assignment.leaseExpiresAt }

def claimedAttempt : Attempt :=
  let next := claimedAttemptState attempt (observedControl observation)
  { attempt with
    assignmentID := assignment.id
    progress := next.1
    control := next.2.1
    threadID := reportedThread observation.threadID attempt.threadID
    updatedAt := now }

def claimedWorkerState : Option WorkerStateProjection :=
  finishWorkerStateTransition assignment attempt
    (claimedAssignment assignment observation snapshot now)
    (claimedAttempt assignment attempt observation now)
    (claimedAttemptState attempt (observedControl observation)).2.2

def unknownAssignment : Assignment :=
  { assignment.setState .unknown now with
    workerEpoch := snapshot.workerEpoch
    threadID := observation.threadID
    updatedAt := now }

def unknownAttempt : Attempt :=
  if attemptFinished attempt || !workerOwnsStopIntent attempt then
    { attempt with control := .stopped, updatedAt := now }
  else
    { attempt with updatedAt := now }

def unknownWorkerState : Option WorkerStateProjection :=
  if assignment.state = .unknown then none
  else
    finishWorkerStateTransition assignment attempt
      (unknownAssignment assignment observation snapshot now) (unknownAttempt attempt now)
      workerStateObservedUnknown

/-! ## Planning one assignment -/

def planObservedTransition : Except Err (Option WorkerStateProjection) :=
  if observation.assignmentID ≠ assignment.id ∨ observation.assignmentEpoch ≠ assignment.epoch then
    .error { text := "assignment observation identity mismatch for " ++ quote assignment.id }
  else
    match observation.state with
    | .claimed =>
      if (observedControl observation).observable then
        .ok (claimedWorkerState assignment attempt observation snapshot now)
      else
        .error { text := "assignment " ++ quote assignment.id ++ " has invalid observed control" }
    | .released =>
      if snapshot.workerEpoch ≠ assignment.workerEpoch ∨ observation.threadID ≠ assignment.threadID then
        .error
          { text := "released observation execution identity mismatch for " ++ quote assignment.id }
      else
        .ok (releasedWorkerState assignment attempt now workerStateObservedStopped)
    | .completed =>
      if acceptedWorkerCommand commands assignment .collect then
        .ok (completedWorkerState assignment attempt snapshot.workerEpoch observation.threadID now
          workerStateCollectAccepted)
      else
        .ok (observedCompletedWorkerState assignment attempt snapshot observation.threadID now)
    | .unknown => .ok (unknownWorkerState assignment attempt observation snapshot now)
    | _ => .error { text := "assignment " ++ quote assignment.id ++ " has invalid observed state" }

def planOmittedTransition : Option WorkerStateProjection :=
  if acceptedWorkerCommand commands assignment .stop then
    -- accepted responsibility is not stop proof
    none
  else if acceptedWorkerCommand commands assignment .collect then
    completedWorkerState assignment attempt assignment.workerEpoch assignment.threadID now
      workerStateCollectAccepted
  else if workerOwnsStopIntent attempt ∨ attempt.control = .resuming then
    none
  else if rejectedWorkerCommand commands assignment .prepare ∨
      rejectedWorkerCommand commands assignment .dispatch then
    releasedWorkerState assignment attempt now workerStateCommandRejected
  else if attemptFinished attempt then
    if attempt.control = .stopped ∨ assignment.workerEpoch ≠ snapshot.workerEpoch then none
    else
      finishWorkerStateTransition assignment attempt { assignment with updatedAt := now }
        { attempt with control := .stopped, updatedAt := now } terminalAttemptStopRequired
  else if !waitingExternal attempt ∧ acceptedWorkerCommand commands assignment .dispatch ∧
      assignment.state = .claimed then
    finishWorkerStateTransition assignment attempt { assignment with updatedAt := now }
      { attempt with progress := .active, control := .running, updatedAt := now }
      workerStateDispatchAccepted
  else if assignment.state = .unknown ∨ assignment.workerEpoch ≠ snapshot.workerEpoch then
    releasedWorkerState assignment attempt now workerStateObservedAbsent
  else
    none

def planWorkerStateTransition (observation : Option WorkerAssignmentObservation)
    (snapshot : WorkerSnapshot) (commands : List WorkerCommandRecord) (now : Time) :
    Except Err (Option WorkerStateProjection) :=
  match observation with
  | some o => planObservedTransition assignment attempt o snapshot commands now
  | none => .ok (planOmittedTransition assignment attempt snapshot commands now)

/-! ## The whole snapshot -/

def checkObservations (snapshot : WorkerSnapshot) : List WorkerAssignmentObservation →
    List (String × Int) → Except Err Unit
  | [], _ => .ok ()
  | o :: os, seen =>
    if o.assignmentID = "" ∨ o.assignmentEpoch < 1 ∨ o.observedAt = 0 ∨
        snapshot.observedAt < o.observedAt then
      .error { text := "worker " ++ quote snapshot.workerID ++ " has invalid assignment observation" }
    else if (o.assignmentID, o.assignmentEpoch) ∈ seen then
      .error
        { text := "worker " ++ quote snapshot.workerID ++ " repeats assignment observation " ++
            quote (o.assignmentID ++ "/" ++ toString o.assignmentEpoch) }
    else checkObservations snapshot os ((o.assignmentID, o.assignmentEpoch) :: seen)

def observationOf (assignment : Assignment) : Option WorkerAssignmentObservation :=
  snapshot.assignments.find? fun o =>
    o.assignmentID = assignment.id ∧ o.assignmentEpoch = assignment.epoch

def attemptByID (attempts : List Attempt) (id : String) : Option Attempt :=
  attempts.reverse.find? fun a => a.id = id

/-- The transition planned for one assignment: none for another worker's, for one that is not
claimed or unknown, without an attempt or with an inconsistent observation. -/
def planAssignmentTransition (records : CoordinatorRecords) (snapshot : WorkerSnapshot)
    (commands : List WorkerCommandRecord) (now : Time) (assignment : Assignment) :
    Option WorkerStateTransition :=
  if assignment.workerID ≠ snapshot.workerID ∨
      ¬(assignment.state = .claimed ∨ assignment.state = .unknown) then none
  else
    match attemptByID records.attempts assignment.attemptID with
    | none => none
    | some attempt =>
      match planWorkerStateTransition assignment attempt (observationOf snapshot assignment)
          snapshot commands now with
      | .ok (some next) =>
        some
          { coordinatorEpoch := snapshot.coordinatorEpoch
            workerID := snapshot.workerID
            workerEpoch := snapshot.workerEpoch
            workerSequence := snapshot.sequence
            transitionedAt := now
            expectedAssignment := assignment
            expectedAttemptRevision := attempt.revision
            assignment := next.assignment
            attempt := next.attempt
            reason := next.reason }
      | _ => none

/-- Every transition one complete snapshot and the recorded acknowledgements call for, in
assignment order. -/
def planWorkerStateTransitions (records : CoordinatorRecords) (snapshot : WorkerSnapshot)
    (commands : List WorkerCommandRecord) (now : Time) : Except Err (List WorkerStateTransition) :=
  if snapshot.workerID = "" ∨ snapshot.workerEpoch = "" ∨ snapshot.coordinatorEpoch < 1 ∨
      snapshot.sequence < 1 ∨ now = 0 then
    .error { text := "worker state reconciliation requires a complete snapshot and time" }
  else if !snapshot.connected ∨ ¬now < snapshot.validUntil then
    .error { text := "worker " ++ quote snapshot.workerID ++ " snapshot is disconnected or stale" }
  else
    match checkObservations snapshot snapshot.assignments [] with
    | .error e => .error e
    | .ok () =>
      .ok ((records.assignments.insertionSort fun a b => a.id ≤ b.id).filterMap
        (planAssignmentTransition records snapshot commands now))

end Steward
