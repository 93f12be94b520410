import Steward.Domain.Orchestrator

/-!
# The worker protocol

`internal/domain/worker_protocol.go`: what a worker reports (snapshots and assignment
observations), what the coordinator commands, how workers acknowledge, and the transitions and
lease requests both sides commit against an exact snapshot.
-/

namespace Steward

inductive WorkerHealth
  | unset
  | ready
  | degraded
  | offline
deriving DecidableEq

structure WorkerProjectInventory where
  name : String := ""
  available : Bool := false
deriving DecidableEq

structure WorkerProviderInventory where
  instanceID : String := ""
  models : List String := []
  quotaPoolID : String := ""
  available : Bool := false
deriving DecidableEq

structure AllocatableCapacity where
  executorSlots : Int := 0
  cpuUnits : Rat := 0
  (memoryMB scratchMB : Int := 0)
deriving DecidableEq

/-- The part of a worker's inventory that admission, capacity and command delivery read. -/
structure WorkerInventory where
  (catalogRevision id : String := "")
  acceptBacklog : Bool := false
  health : WorkerHealth := .unset
  projects : List WorkerProjectInventory := []
  providers : List WorkerProviderInventory := []
  cpuClass : CPUClass := .unset
  allocatable : AllocatableCapacity := {}
deriving DecidableEq

structure WorkerAssignmentObservation where
  assignmentID : String := ""
  assignmentEpoch : Int := 0
  state : AssignmentState := .unset
  control : ControlState := .unset
  (threadID workspacePath : String := "")
  observedAt : Time := 0
deriving DecidableEq

/-- A worker's epoch-bound report to the coordinator; the assignment list is complete. -/
structure WorkerSnapshot where
  (workerID workerEpoch : String := "")
  (coordinatorEpoch sequence : Int := 0)
  connected : Bool := false
  inventory : WorkerInventory := {}
  assignments : List WorkerAssignmentObservation := []
  (observedAt validUntil : Time := 0)
deriving DecidableEq

inductive WorkerCommandKind
  | prepare
  | dispatch
  | stop
  | collect
deriving DecidableEq

def WorkerCommandKind.text : WorkerCommandKind → String
  | .prepare => "prepare"
  | .dispatch => "dispatch"
  | .stop => "stop"
  | .collect => "collect"

def WorkerCommandKind.newWork : WorkerCommandKind → Bool
  | .prepare | .dispatch => true
  | .stop | .collect => false

structure WorkerCommand where
  id : String := ""
  kind : WorkerCommandKind := .prepare
  (workerID workerEpoch : String := "")
  coordinatorEpoch : Int := 0
  assignmentID : String := ""
  (assignmentEpoch expectedWorkerSequence : Int := 0)
  createdAt : Time := 0
deriving DecidableEq

structure WorkerAcknowledgement where
  (commandID workerID workerEpoch : String := "")
  coordinatorEpoch : Int := 0
  assignmentID : String := ""
  (assignmentEpoch workerSequence : Int := 0)
  accepted : Bool := false
  detail : String := ""
  acknowledgedAt : Time := 0
deriving DecidableEq

structure WorkerCommandRecord where
  command : WorkerCommand := {}
  acknowledgement : Option WorkerAcknowledgement := none
deriving DecidableEq

structure WorkerStateTransition where
  coordinatorEpoch : Int := 0
  (workerID workerEpoch : String := "")
  workerSequence : Int := 0
  transitionedAt : Time := 0
  expectedAssignment : Assignment := {}
  expectedAttemptRevision : Int := 0
  assignment : Assignment := {}
  attempt : Attempt := {}
  reason : String := ""
deriving DecidableEq

structure AssignmentPlanItem where
  assignment : Assignment := {}
  expectedAttemptRevision : Int := 0
  workerEpoch : String := ""
  workerSnapshotSequence : Int := 0
deriving DecidableEq

structure AssignmentPlanCommit where
  coordinatorEpoch : Int := 0
  committedAt : Time := 0
  items : List AssignmentPlanItem := []
deriving DecidableEq

/-- An epoch-bound worker claim; the lease token is the capability committed with the offer. -/
structure AssignmentClaimRequest where
  coordinatorEpoch : Int := 0
  (workerID workerEpoch assignmentID : String := "")
  assignmentEpoch : Int := 0
  leaseToken : String := ""
  (claimedAt leaseExpiresAt : Time := 0)
deriving DecidableEq

structure AssignmentLeaseRenewal where
  coordinatorEpoch : Int := 0
  (workerID workerEpoch : String := "")
  workerSequence : Int := 0
  assignmentID : String := ""
  assignmentEpoch : Int := 0
  leaseToken : String := ""
  (renewedAt leaseExpiresAt : Time := 0)
deriving DecidableEq

def workerAccepts (snapshot : WorkerSnapshot) (now : Time) : Bool :=
  snapshot.connected && decide (now < snapshot.validUntil) && snapshot.inventory.acceptBacklog &&
    snapshot.inventory.health == .ready

/-- The record of a command of one kind for one epoch of an assignment. The Go map is keyed by
`"id/epoch/kind"` and keeps the last record of a key. -/
def workerCommandRecord? (records : List WorkerCommandRecord) (assignmentID : String)
    (assignmentEpoch : Int) (kind : WorkerCommandKind) : Option WorkerCommandRecord :=
  records.reverse.find? fun r =>
    r.command.assignmentID = assignmentID ∧ r.command.assignmentEpoch = assignmentEpoch ∧
      r.command.kind = kind

end Steward
