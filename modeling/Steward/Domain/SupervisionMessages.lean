import Mathlib.Data.Prod.Lex
import Steward.Domain.SupervisionTransitions

/-!
# Supervision events and answers

The durable messages of supervision: the events an activation consumes
(`internal/backlog/supervision_activation.go`) and the answers a supervision request was given
(`internal/store/sqlite/supervision.go`), with the rows the store keeps them in.
-/

namespace Steward

open Text

/-! ## Events -/

inductive SupervisionTriggerKind
  | unset
  | gateReviewReady
  | taskJudgmentRequired
  | routeBlockPersistent
  | operatorReassessment
  | reviewTimeout
  | terminationFinalReport
deriving DecidableEq

/-- One inbox entry. The sequence is assigned when it is appended; the acknowledged purposes are
metadata of the store and no part of the event. -/
structure SupervisionEvent where
  (id runID : String := "")
  kind : SupervisionTriggerKind := .unset
  sequence : Int := 0
  (reason gateID taskID attemptID incidentID : String := "")
  graphRevision : Int := 0
  artifacts : List ArtifactDigest := []
  occurredAt : Time := 0
  acknowledgedPurposes : List RecoveryActivationPurpose := []
deriving DecidableEq

/-- The row of one event; `consumed` is the projection that readers from before acknowledgements
existed go by. -/
structure SupervisionInboxRow where
  (id runID : String := "")
  sequence : Int := 0
  consumed : Bool := false
  record : SupervisionEvent := {}
deriving DecidableEq

/-! ## Answers -/

structure SupervisionDecision where
  replay : Bool := false
  supervisionRevision : Int := 0
  gate : Option Gate := none
  gateDecision : Option GateDecision := none
  hold : Option Hold := none
  activation : Option Activation := none
  incident : Option ReviewIncident := none
  record : Option SupervisionRecord := none
  (releasedAssignmentIDs claimedTaskIDs : List String := [])
  attemptRevision : Int := 0
deriving DecidableEq

structure ContinuationReceipt where
  (runID requestID : String := "")
  actor : Actor := {}
  (epoch grantedActivations : Int := 0)
  reason : String := ""
  issuedAt : Time := 0
deriving DecidableEq

inductive SupervisionOperation
  | gateReconsider
  | gateDecision
  | holdPlace
  | holdRelease
  | activationTransition
  | incidentOpen
  | incidentResolve
  | activationContinuation
deriving DecidableEq

def SupervisionOperation.text : SupervisionOperation → String
  | .gateReconsider => "gate-reconsider"
  | .gateDecision => "gate-decision"
  | .holdPlace => "hold-place"
  | .holdRelease => "hold-release"
  | .activationTransition => "activation-transition"
  | .incidentOpen => "incident-open"
  | .incidentResolve => "incident-resolve"
  | .activationContinuation => "activation-continuation"

inductive SupervisionAnswer
  | decision (decision : SupervisionDecision)
  | continuation (receipt : ContinuationReceipt)
deriving DecidableEq

/-- The receipt of one request key: what it was first asked, by the digest of its payload, and what
it was answered. -/
structure SupervisionReceipt where
  requestID : String
  operation : SupervisionOperation
  (runID payloadSHA256 : String)
  answer : SupervisionAnswer
  recordedAt : Time
deriving DecidableEq

end Steward
