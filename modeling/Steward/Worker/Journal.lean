import Steward.Domain.Throttle
import Steward.Lib.Table
import Steward.Watchdog.QuotaGuard

/-!
# The worker's journal

`internal/workerruntime/journal.go` and the pure parts of `runtime.go`: the durable record of each
attempt a worker holds, what it reports about one, and what it reads out of the commands it has
answered. Session titles, usage, telemetry, deferral notes and continuation snapshots are left out.
-/

namespace Steward.Worker

inductive Phase
  | claimed
  | preparing
  | prepared
  | dispatching
  | running
  | stopping
  | stopped
  | waiting
  | collecting
  | completed
  | failed
  | unknown
deriving DecidableEq

def Phase.text : Phase → String
  | .claimed => "claimed"
  | .preparing => "preparing"
  | .prepared => "prepared"
  | .dispatching => "dispatching"
  | .running => "running"
  | .stopping => "stopping"
  | .stopped => "stopped"
  | .waiting => "waiting-external"
  | .collecting => "collecting"
  | .completed => "completed"
  | .failed => "failed"
  | .unknown => "unknown"

structure ExecutionIdentity where
  (attemptID threadID workflowRunID taskID dispatchToken : String := "")
deriving DecidableEq

/-- What the worker was told to execute; `content` stands for everything it passes on unread. -/
structure ExecutionPackage where
  (id coordinatorID : String := "")
  coordinatorEpoch : Int := 0
  identity : ExecutionIdentity := {}
  route : ProviderRoute := {}
  timeout : Duration := 0
  createdAt : Time := 0
  content : String := ""
deriving DecidableEq

structure ExecutionPackageManifest where
  package : ExecutionPackage := {}
  sha256 : String := ""
deriving DecidableEq

def ExecutionPackage.sameIgnoringCoordinatorEpoch (left right : ExecutionPackage) : Bool :=
  { left with coordinatorEpoch := 0 } = { right with coordinatorEpoch := 0 }

structure LocalThrottleRequest where
  kind : ThrottleCommandKind := .unset
  bucket : BucketKey := {}
  phase : Watchdog.Phase := .unset
  resetsAt : Option Time := none
  reason : String := ""
  requestedAt : Time := 0
  drainNoticeSent : Bool := false
  drainNoticeSentAt : Option Time := none
  drainNoticePending : Bool := false
  (recoveredAt stoppedAt : Option Time := none)
  stoppedTurnID : String := ""
  checkpoint : Option CheckpointMetadata := none
  resumedAt : Option Time := none
deriving DecidableEq

def LocalThrottleRequest.drainNoticeDelivered (r : LocalThrottleRequest) : Bool :=
  r.drainNoticeSent ∨ r.drainNoticePending = false

inductive ProviderResumeState
  | unset
  | scheduled
  | quotaWait
  | sent
  | exhausted
  | recovered
deriving DecidableEq

structure ProviderResumeRecord where
  (turnID kind detail : String := "")
  observedAt : Time := 0
  (errors resumes budget : Int := 0)
  resumeAt : Option Time := none
  waitReason : String := ""
  state : ProviderResumeState := .unset
deriving DecidableEq

structure TurnEndCheck where
  nudges : Int := 0
  nudgedTurnID : String := ""
  nudgeSent : Bool := false
deriving DecidableEq

inductive ThreadState
  | missing
  | created
  | active
  | stopped
deriving DecidableEq

structure AttemptRecord where
  assignment : Assignment := {}
  package : ExecutionPackageManifest := {}
  phase : Phase := .claimed
  (workspacePath threadID failure : String := "")
  commandRequests : List (String × WorkerCommand) := []
  commandResults : List (String × WorkerAcknowledgement) := []
  throttleRequests : List (String × ThrottleCommand) := []
  throttleResults : List (String × ThrottleAcknowledgement) := []
  pendingThrottle : Option ThrottleCommand := none
  stopObservedSequence : Int := 0
  (localThrottle lastLocalThrottle : Option LocalThrottleRequest := none)
  observedThreadState : Option ThreadState := none
  observedTurnID : String := ""
  turnEnd : Option TurnEndCheck := none
  providerResume : Option ProviderResumeRecord := none
  prepareAttempts : Nat := 0
  firstPrepareFailure : String := ""
  (stopConfirmed settlePending : Bool := false)
  updatedAt : Time := 0
deriving DecidableEq

structure ParkedAssignment where
  assignmentID : String := ""
  assignmentEpoch : Int := 0
  attemptID : String := ""
  attemptRevision : Int := 0
deriving DecidableEq

structure ClosedQuotaPool where
  (poolID admission reason : String := "")
deriving DecidableEq

structure ProviderResumePolicy where
  maxResumes : Nat := 0
  maxDelay : Duration := 0
  closedPools : List ClosedQuotaPool := []
deriving DecidableEq

/-- What the coordinator asks for with a snapshot: which of its observations it has, and the parked
assignments. -/
structure SnapshotRequest where
  observedWorkerEpoch : String := ""
  observedSequence : Int := 0
  parkedReported : Bool := false
  parked : List ParkedAssignment := []
  providerResume : Option ProviderResumePolicy := none
deriving DecidableEq

structure Journal where
  workerEpoch : String := ""
  sequence : Int := 0
  attempts : Table (fun r : AttemptRecord => r.assignment.id) := .empty
  parked : List (String × ParkedAssignment) := []
  parkedReported : Bool := false
  parkedObservedAt : Time := 0
  parkedAcknowledgedSequence : Int := 0
  providerResumePolicy : Option ProviderResumePolicy := none

namespace AttemptRecord

variable (r : AttemptRecord)

def pkg : ExecutionPackage := r.package.package

/-! ## Reading the answered commands -/

/-- A command of this kind was taken, and was not refused. -/
def hasCommandRequest (kind : WorkerCommandKind) : Bool :=
  r.commandRequests.any fun entry =>
    entry.2.kind = kind ∧ (r.commandResults.lookup entry.1).all WorkerAcknowledgement.accepted

def acceptedThrottle (entry : String × ThrottleCommand) : Option (ThrottleCommand × Time) :=
  if entry.2.kind = .drain ∨ entry.2.kind = .hardStop ∨ entry.2.kind = .resume then
    ((r.throttleResults.lookup entry.1).filter ThrottleAcknowledgement.accepted).map fun ack =>
      (entry.2, ack.acknowledgedAt)
  else none

/-- The later of two accepted commands; of two the clock cannot order, a pause. -/
def laterThrottle (latest next : ThrottleCommand × Time) : ThrottleCommand × Time :=
  if latest.2 < next.2 then next
  else if next.2 = latest.2 ∧ latest.1.createdAt < next.1.createdAt then next
  else if next.2 = latest.2 ∧ next.1.createdAt = latest.1.createdAt ∧ latest.1.kind = .resume ∧
      next.1.kind ≠ .resume then next
  else latest

def latestThrottle : Option (ThrottleCommand × Time) :=
  (r.throttleRequests.filterMap r.acceptedThrottle).foldl
    (fun latest next => some (latest.elim next fun latest => laterThrottle latest next)) none

def throttlePaused : Bool := r.latestThrottle.any fun latest => latest.1.kind ≠ .resume

/-- An operator's stop of exactly this execution was accepted and is in force. -/
def hasAcceptedAttentionStop (digest : ThrottleCommand → String) : Bool :=
  r.phase = .stopped ∧ r.stopConfirmed = true ∧
    r.throttleRequests.any fun entry =>
      (r.throttleResults.lookup entry.1).any fun ack =>
        entry.2.attentionStop.any fun binding =>
          entry.2.kind = .hardStop ∧ binding.commandDigest ≠ "" ∧
            binding.commandDigest = digest entry.2 ∧
            entry.2.id = ack.commandID ∧ entry.2.attemptID = ack.attemptID ∧ ack.accepted = true ∧
            ack.result = .stopped ∧ entry.2.assignmentID = r.assignment.id ∧
            entry.2.attemptID = r.assignment.attemptID ∧
            entry.2.assignmentEpoch = r.assignment.epoch ∧
            entry.2.workerID = r.assignment.workerID ∧ entry.2.threadID = r.pkg.identity.threadID ∧
            entry.2.workspacePath = r.workspacePath ∧ entry.2.route = r.pkg.route ∧
            entry.2.quotaPoolID = r.pkg.route.quotaPoolID ∧
            binding.coordinatorID = r.pkg.coordinatorID ∧
            binding.coordinatorEpoch = r.pkg.coordinatorEpoch ∧
            binding.workflowRunID = r.pkg.identity.workflowRunID ∧
            binding.taskID = r.pkg.identity.taskID

/-! ## Limits -/

def timeUp (now : Time) : Bool := 0 < r.pkg.timeout ∧ ¬now < r.pkg.createdAt + r.pkg.timeout

def taskTimeoutExpired (now : Time) : Bool :=
  r.phase ≠ .completed ∧ r.phase ≠ .failed ∧ r.phase ≠ .collecting ∧ r.timeUp now = true

def attemptLive (now : Time) : Bool :=
  r.hasCommandRequest .stop = false ∧ r.assignment.state = .claimed ∧
    (r.assignment.leaseExpiresAt = 0 ∨ now < r.assignment.leaseExpiresAt)

end AttemptRecord

def permanentCollectionFailurePrefix : String := "permanent collection size failure: "

def permanentSecretFailurePrefix : String := "permanent collection secret failure: "

/-- The failure is an intent whose bounded result is not durable yet. -/
def permanentCollectionIntent (failure : String) : Bool :=
  permanentCollectionFailurePrefix.toList.isPrefixOf failure.toList ∨
    permanentSecretFailurePrefix.toList.isPrefixOf failure.toList

/-! ## Reporting -/

def AttemptRecord.reported (digest : ThrottleCommand → String) (r : AttemptRecord) :
    AssignmentState × ControlState :=
  match r.phase with
  | .claimed | .preparing | .prepared | .dispatching => (.claimed, .preparing)
  | .running | .stopping | .collecting => (.claimed, .running)
  | .waiting => (.claimed, .waitingExternal)
  | .stopped =>
    if r.stopConfirmed = true ∧ (r.hasCommandRequest .stop = true ∨ r.hasAcceptedAttentionStop digest = true) then
      (.released, .stopped)
    else if r.throttlePaused = true ∨ r.localThrottle.isSome then (.claimed, .paused)
    else (.claimed, .running)
  | .completed => (.completed, .stopped)
  | .failed => if permanentCollectionIntent r.failure then (.claimed, .running) else (.completed,
      .stopped)
  | .unknown => (.unknown, .stopped)

def observation (digest : ThrottleCommand → String) (r : AttemptRecord) (now : Time) :
    WorkerAssignmentObservation :=
  { assignmentID := r.assignment.id, assignmentEpoch := r.assignment.epoch
    state := (r.reported digest).1, control := (r.reported digest).2
    threadID := r.threadID, workspacePath := r.workspacePath, observedAt := now }

/-! ## Writing -/

variable (r : AttemptRecord)

def AttemptRecord.enter (phase : Phase) (failure workspace thread : String)
    (now : Time) : AttemptRecord :=
  { r with
    phase := phase
    failure := failure
    workspacePath := if workspace = "" then r.workspacePath else workspace
    threadID := if thread = "" then r.threadID else thread
    stopConfirmed := if phase = .running then false else r.stopConfirmed
    stopObservedSequence := if phase = .running then 0 else r.stopObservedSequence
    updatedAt := now }

/-- The attempt as the journal holds it is still the collection that was started. -/
def sameCollection (current started : AttemptRecord) : Bool :=
  current.phase = .collecting ∧ current.localThrottle = none ∧
    current.assignment.id = started.assignment.id ∧
    current.assignment.epoch = started.assignment.epoch ∧
    current.pkg.identity.attemptID = started.pkg.identity.attemptID

def AttemptRecord.answered (command : WorkerCommand) (ack : WorkerAcknowledgement) :
    AttemptRecord :=
  { r with
    commandRequests := (command.id, command) :: r.commandRequests
    commandResults := (command.id, ack) :: r.commandResults
    updatedAt := ack.acknowledgedAt }

def AttemptRecord.throttled (command : ThrottleCommand) : AttemptRecord :=
  match command.kind with
  | .drain => { r with phase := .stopped }
  | .hardStop =>
    { r with
      phase := .stopped
      stopConfirmed := r.stopConfirmed || command.attentionStop.isSome
      observedThreadState := if command.attentionStop.isSome then some .stopped else r.observedThreadState }
  | .resume => { r with stopConfirmed := false, stopObservedSequence := 0, phase := .running }
  | _ => r

def AttemptRecord.throttleAnswered (command : ThrottleCommand)
    (ack : ThrottleAcknowledgement) : AttemptRecord :=
  let r := { r with
    throttleRequests := (command.id, command) :: r.throttleRequests
    throttleResults := (command.id, ack) :: r.throttleResults
    pendingThrottle := none }
  let r := if ack.accepted then r.throttled command else r
  { r with updatedAt := ack.acknowledgedAt }

structure Updated where
  sequence : Int
  (before after : Option AttemptRecord)

namespace Journal

variable (j : Journal)

/-- Change the record of an assignment. The change is told the sequence it moves to; `none` changes
nothing, and an observation for operators does not move the sequence. A record under another
identity is refused. -/
def update (id : String) (moves : Bool) (change : Int → AttemptRecord → Option AttemptRecord) :
    Option (Updated × Journal) :=
  match j.attempts.get? id with
  | none => some ({ sequence := j.sequence, before := none, after := none }, j)
  | some r =>
    match change (j.sequence + 1) r with
    | none => some ({ sequence := j.sequence, before := some r, after := some r }, j)
    | some r' =>
      if r'.assignment.id = id then
        let sequence := if moves then j.sequence + 1 else j.sequence
        some ({ sequence := sequence, before := some r, after := some r' },
          { j with attempts := j.attempts.put r', sequence := sequence })
      else none

def remove (id : String) : Journal :=
  { j with
    attempts := j.attempts.filter fun r => r.assignment.id ≠ id
    parked := j.parked.filter fun entry => entry.1 ≠ id
    sequence := j.sequence + 1 }

def nextParked (request : SnapshotRequest) : List (String × ParkedAssignment) :=
  request.parked.map fun parked =>
    match j.parked.lookup parked.assignmentID with
    | some previous =>
      (parked.assignmentID, if parked.attemptRevision < previous.attemptRevision then previous else parked)
    | none => (parked.assignmentID, parked)

/-- Apply a statement about parked assignments. An attempt whose park it ends loses its stopped
fence. -/
def applyParked (request : SnapshotRequest) (now : Time) : Journal :=
  let next := j.nextParked request
  let released := j.attempts.rows.filter fun r =>
    (j.parked.lookup r.assignment.id).isSome ∧ (next.lookup r.assignment.id).isNone
  { j with
    attempts := j.attempts.putAll (released.map fun r => { r with stopObservedSequence := 0 })
    parkedAcknowledgedSequence :=
      if request.observedWorkerEpoch = j.workerEpoch ∧ request.observedSequence ≤ j.sequence then
        request.observedSequence
      else 0
    parked := next
    parkedReported := true
    parkedObservedAt := now
    sequence := j.sequence + 1 }

end Journal

end Steward.Worker
