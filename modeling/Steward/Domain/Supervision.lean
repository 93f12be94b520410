import Steward.Domain.Orchestrator

/-!
# Campaign supervision records

The durable supervision records of `internal/domain/supervision.go`: actors, gates, the evidence
they are reviewed against, holds, overseer activations, review incidents and the run's own
supervision row.
-/

namespace Steward

inductive ActorKind
  | unset
  | overseer
  | operator
deriving DecidableEq

structure Actor where
  kind : ActorKind := .unset
  principal : String := ""
  activationEpoch : Int := 0
deriving DecidableEq

inductive GateState
  | unset
  | pendingEvidence
  | readyForReview
  | accepted
  | held
  | escalated
  | cancelled
deriving DecidableEq

/-- A declared gate of the effective graph. `final` marks the final-settlement gate, which
guards the run's settlement and protects no task. -/
structure GateDefinition where
  (id name : String := "")
  (observedTaskIDs protectedTaskIDs : List String := [])
  final : Bool := false
deriving DecidableEq

structure Gate where
  definition : GateDefinition := {}
  runID : String := ""
  state : GateState := .unset
  graphRevision : Int := 0
  evidenceSnapshotID : String := ""
  revision : Int := 0
  updatedAt : Time := 0
deriving DecidableEq

structure ArtifactDigest where
  (artifactID digest : String := "")
deriving DecidableEq

structure CommitIdentity where
  (repository commit : String := "")
deriving DecidableEq

/-- What one observed task contributed to a review: the exact attempt, not the task's current
one. -/
structure ProducerEvidence where
  (taskID attemptID : String := "")
  resultRevision : Int := 0
  artifactDigests : List ArtifactDigest := []
  commitIdentities : List CommitIdentity := []
deriving DecidableEq

structure EvidenceSnapshot where
  id : String := ""
  graphRevision : Int := 0
  producers : List ProducerEvidence := []
  takenAt : Time := 0
deriving DecidableEq

inductive HoldScopeKind
  | unset
  | run
  | branch
deriving DecidableEq

structure HoldScope where
  kind : HoldScopeKind := .unset
  branchRootTaskID : String := ""
deriving DecidableEq

inductive HoldState
  | unset
  | active
  | released
deriving DecidableEq

structure Hold where
  (id runID : String := "")
  scope : HoldScope := {}
  owner : Actor := {}
  graphRevision : Int := 0
  resolvedTaskIDs : List String := []
  state : HoldState := .unset
  reason : String := ""
  createdAt : Time := 0
  releasedAt : Option Time := none
deriving DecidableEq

def Hold.covers (h : Hold) (taskID : String) : Bool :=
  h.state = .active ∧ (h.scope.kind = .run ∨ taskID ∈ h.resolvedTaskIDs)

inductive ActivationState
  | unset
  | idle
  | pendingDispatch
  | active
  | spent
  | revoked
  | recoveryRequired
  | escalated
  | closed
deriving DecidableEq

inductive ActivationOutcome
  | none
  | decided
  | noDecision
  | expired
  | revoked
  | closed
  | decidedByOperator
deriving DecidableEq

/-- What an activation is woken for: a review, which is the unset purpose, or a repair. -/
inductive RecoveryActivationPurpose
  | unset
  | repair
deriving DecidableEq

/-- One bounded, schedulable supervision unit. Its identity and its dispatch identity are derived
from the run and the epoch it was made at. -/
structure Activation where
  (id runID : String := "")
  epoch : Int := 0
  purpose : RecoveryActivationPurpose := .unset
  graphRevision : Int := 0
  dispatchIdentity : String := ""
  readyAt : Time := 0
  (readyTieID principal : String := "")
  state : ActivationState := .unset
  leaseToken : String := ""
  (leaseExpiresAt deadline : Option Time := none)
  incidentID : String := ""
  (turnsUsed recoveredCount operatorDecisions consumedEventCursor : Int := 0)
  outcome : ActivationOutcome := .none
  (startedAt closedAt : Option Time := none)
deriving DecidableEq

inductive IncidentState
  | unset
  | «open»
  | escalated
  | resolved
deriving DecidableEq

def IncidentState.unresolved : IncidentState → Bool
  | .open | .escalated => true
  | _ => false

theorem unresolved_eq_false_iff (s : IncidentState) : s.unresolved = false ↔ s ≠ .open ∧
    s ≠ .escalated := by
  cases s <;> simp [IncidentState.unresolved]

inductive IncidentOutcome
  | unset
  | gateAccepted
  | concludeFailure
  | remediated
  | cancelled
deriving DecidableEq

structure ResolutionReceipt where
  actor : Actor := {}
  outcome : IncidentOutcome := .unset
  evidenceSnapshotID : String := ""
  expectedRevision : Int := 0
  (requestID reason : String := "")
  resolvedAt : Time := 0
deriving DecidableEq

inductive IncidentDisposition
  | unset
  | gateDecision
  | concludeFailure
  | operatorAction
deriving DecidableEq

structure ReviewIncident where
  (id runID sourceEventID sourceTaskID sourceAttemptID gateID : String := "")
  revision : Int := 0
  requiredDisposition : IncidentDisposition := .unset
  state : IncidentState := .unset
  reason : String := ""
  resolution : Option ResolutionReceipt := none
  openedAt : Time := 0
deriving DecidableEq

structure SupervisionClosure where
  commandID : String := ""
  actor : Actor := {}
  closedAt : Time := 0
deriving DecidableEq

structure SupervisionEscalation where
  notifyThread : Bool := false
  threadID : String := ""
deriving DecidableEq

structure SupervisionConfig where
  (maxActivations maxTurnsPerActivation : Int := 0)
  activationDeadline : Duration := 0
  escalation : SupervisionEscalation := {}
deriving DecidableEq

structure SupervisionRecord where
  runID : String := ""
  config : SupervisionConfig := {}
  (eventCursor activationEpoch activationsUsed budgetGrantedActivations revision : Int := 0)
  (createdAt updatedAt : Time := 0)
  closedByCancel : Option SupervisionClosure := none
deriving DecidableEq

def SupervisionRecord.activationBudgetRemaining (r : SupervisionRecord) : Bool :=
  let budget := if r.budgetGrantedActivations ≤ 0 then r.config.maxActivations
    else r.budgetGrantedActivations
  r.activationsUsed < budget

end Steward
