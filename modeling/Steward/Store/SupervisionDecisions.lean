import Steward.Store.SupervisionDecision

/-!
# Supervision decisions

The seven operations of the decision transaction: `DecideGate`, `PlaceHold`, `ReleaseHold`,
`RecordActivationTransition`, `OpenReviewIncident` and `ResolveReviewIncident` of
`internal/store/sqlite/supervision_decisions.go` and `ReconsiderGate` of `supervision_gates.go`,
with a gate's evidence and the check a decision makes of it. A transaction reads one clock, `now`.
The digests of payloads and evidence are parameters.
-/

namespace Steward

open Except Text Store

/-- The truncated digest of a gate's identity, its graph revision and the producers of its
evidence. -/
abbrev EvidenceDigest := String → Int → List ProducerEvidence → String

def Time.orNow (requested now : Time) : Time := if requested = 0 then now else requested

namespace Store

variable (s : Store)

/-! ## Evidence -/

def succeededAttempt (runID taskID : String) : Option Attempt :=
  (currentAttempt runID s.attempts.rows taskID).filter fun a => a.progress = .succeeded

def attemptArtifactDigests (attemptID : String) : List ArtifactDigest :=
  (s.artifacts.rows.filter fun a => a.attemptID = attemptID).map fun a =>
    { artifactID := a.id, digest := a.sha256 }

def producerEvidence (runID taskID : String) : Option ProducerEvidence :=
  (s.succeededAttempt runID taskID).map fun attempt =>
    { taskID := taskID
      attemptID := attempt.id
      resultRevision := attempt.revision
      artifactDigests := s.attemptArtifactDigests attempt.id }

def evidenceID (evidenceDigest : EvidenceDigest) (gate : Gate) (producers : List ProducerEvidence) :
    String :=
  "evidence:" ++ gate.definition.id ++ ":" ++
    evidenceDigest gate.definition.id gate.graphRevision producers

/-- The evidence of a gate recomputed from the rows that are the evidence, and whether every
observed task has a succeeded attempt. -/
def supervisionGateEvidence (evidenceDigest : EvidenceDigest) (runID : String) (gate : Gate) :
    EvidenceSnapshot × Bool :=
  let observed := gate.definition.observedTaskIDs
  let producers := observed.filterMap (s.producerEvidence runID)
  let verified := observed ≠ [] ∧ ∀ taskID ∈ observed, (s.producerEvidence runID taskID).isSome
  if verified then
    ({ id := evidenceID evidenceDigest gate producers, graphRevision := gate.graphRevision
       producers := producers }, true)
  else ({ graphRevision := gate.graphRevision, producers := producers }, false)

def digestMatches (runID : String) (digest : ArtifactDigest) : Bool :=
  (s.artifacts.get? digest.artifactID).any fun a =>
    a.workflowRunID = runID ∧ a.sha256 = digest.digest

def producerMatches (runID : String) (gate : Gate) (producer : ProducerEvidence) : Bool :=
  gate.definition.observes producer.taskID &&
    ((s.attempts.get? producer.attemptID).any fun attempt =>
      attempt.workflowRunID = runID ∧ attempt.taskID = producer.taskID ∧
        attempt.progress = .succeeded ∧ attempt.revision = producer.resultRevision) &&
    producer.artifactDigests.all (s.digestMatches runID)

/-- The check of the evidence a decision names: the graph revision, what it lists, and that every
observed task is listed. -/
def supervisionEvidenceMatches (runID : String) (evidence : EvidenceSnapshot) (gate : Gate) : Bool :=
  !blank evidence.id && decide (evidence.graphRevision = gate.graphRevision) &&
    evidence.producers.all (s.producerMatches runID gate) &&
    gate.definition.observedTaskIDs.all fun taskID =>
      evidence.producers.any fun producer => producer.taskID = taskID

/-! ## Gate decisions -/

def unauthorized (e : Err) : Err :=
  { text := e.text, sentinel := some .supervisionUnauthorizedActor }

def requireAuthority (state : DecisionContext) (actor : Actor) (now : Time) : Except Err Unit :=
  match authorizeSupervisionActor state.record state.activation actor now with
  | .ok () => .ok ()
  | .error e => .error (unauthorized e)

def supervisionActorCoversRun (state : DecisionContext) (actor : Actor) (now : Time) : Bool :=
  match authorizeSupervisionActor state.record state.activation actor now with
  | .ok () => true
  | .error _ => false

end Store

def GateDecisionOutcome.text : GateDecisionOutcome → String
  | .unset => ""
  | .accept => "accept"
  | .reject => "reject"
  | .cancel => "cancel"

structure GateDecisionRequest where
  (runID gateID requestID : String := "")
  actor : Actor := {}
  (expectedGraphRevision expectedGateRevision : Int := 0)
  evidence : EvidenceSnapshot := {}
  outcome : GateDecisionOutcome := .unset
  (reason incidentID : String := "")
  decidedAt : Time := 0
deriving DecidableEq

structure GateReconsiderRequest where
  (runID gateID requestID : String := "")
  actor : Actor := {}
  reason : String := ""
  «at» : Time := 0
deriving DecidableEq

/-- A request for one dispatch hold; a zero graph revision does not fence. -/
structure HoldRequest where
  (runID holdID requestID : String := "")
  actor : Actor := {}
  scope : HoldScope := {}
  expectedGraphRevision : Int := 0
  reason : String := ""
  placedAt : Time := 0
deriving DecidableEq

structure HoldReleaseRequest where
  (runID holdID requestID : String := "")
  actor : Actor := {}
  reason : String := ""
  releasedAt : Time := 0
deriving DecidableEq

/-- The guards a caller observed outside the store. -/
structure ActivationObservations where
  (leaseValid executionObserved runtimeProvenStopped recoveryComplete : Bool := false)
  operatorAuthorized : Bool := false
deriving DecidableEq

/-- One activation state transition; a zero epoch does not fence. -/
structure ActivationRequest where
  (runID activationID requestID : String := "")
  actor : Actor := {}
  event : ActivationEvent := .triggerFired
  (expectedEpoch expectedSupervisionRevision : Int := 0)
  observations : ActivationObservations := {}
  (dispatchIdentity leaseToken : String := "")
  (leaseExpiresAt deadline : Option Time := none)
  consumedEventCursor : Int := 0
  outcome : ActivationOutcome := .none
  transitionedAt : Time := 0
deriving DecidableEq

structure IncidentRequest where
  (runID incidentID requestID : String := "")
  actor : Actor := {}
  (sourceEventID sourceTaskID sourceAttemptID gateID : String := "")
  requiredDisposition : IncidentDisposition := .unset
  reason : String := ""
  openedAt : Time := 0
deriving DecidableEq

structure IncidentResolutionRequest where
  (runID incidentID requestID : String := "")
  actor : Actor := {}
  event : IncidentEvent := .raise
  gateID : String := ""
  expectedRevision : Int := 0
  outcome : IncidentOutcome := .unset
  (evidenceSnapshotID reason : String := "")
  resolvedAt : Time := 0
deriving DecidableEq

namespace Store

variable (now : Time)

variable (s : Store) (request : GateDecisionRequest)

def decidedGate (gate : Gate) (next : GateState) : Gate :=
  { gate with
    state := next
    evidenceSnapshotID := request.evidence.id
    revision := gate.revision + 1
    updatedAt := request.decidedAt.orNow now }

def recordedDecision (record : SupervisionRecord) : GateDecision :=
  { id := "gate-decision:" ++ request.gateID ++ ":" ++ request.requestID
    runID := request.runID
    gateID := request.gateID
    actor := request.actor
    activationEpoch := record.activationEpoch
    graphRevision := request.expectedGraphRevision
    evidence := request.evidence
    outcome := request.outcome
    requestID := request.requestID
    reason := request.reason
    incidentID := request.incidentID
    decidedAt := request.decidedAt.orNow now }

def countOperatorDecision (actor : Actor) (state : DecisionContext) : Except Err Store :=
  let activation := state.activation
  if actor.kind = .operator ∧ activation.id ≠ "" ∧ activation.epoch = state.record.activationEpoch ∧
      activation.state.live then
    s.saveSupervisionActivation { activation with operatorDecisions := activation.operatorDecisions + 1 }
  else .ok s

def resolveGateIncident (next : GateState) : Except Err (Store × Option ReviewIncident) :=
  if next = .accepted ∧ !blank request.incidentID then do
    let incident ← s.loadSupervisionIncident request.runID request.incidentID
    let next ← incidentTransition
      { incident := incident, event := .gateAccepted, actor := request.actor
        matchingGateIncident := incident.gateID = request.gateID
        expectedRevision := incident.revision }
    let incident :=
      { incident with
        state := next
        revision := incident.revision + 1
        resolution := some
          { actor := request.actor, outcome := .gateAccepted
            evidenceSnapshotID := request.evidence.id, expectedRevision := incident.revision
            requestID := request.requestID, reason := request.reason
            resolvedAt := request.decidedAt.orNow now } }
    return (s.saveSupervisionIncident incident, some incident)
  else .ok (s, none)

def gateDecisionTransition (state : DecisionContext) (gate : Gate) : Except Err GateState :=
  gateTransition
    { gate := gate
      event := if request.outcome = .reject then .reject else .accept
      actor := request.actor
      expectedGraphRevision := request.expectedGraphRevision
      evidenceMatches := s.supervisionEvidenceMatches request.runID request.evidence gate
      sinkSettled := state.snapshot.runTerminal }

def applyGateDecision : SupervisionApply := fun s state => do
  request.actor.validate
  requireAuthority state request.actor (request.decidedAt.orNow now)
  let gate ← s.loadSupervisionGate request.runID request.gateID
  refuseWhen (request.expectedGateRevision ≠ gate.revision)
    (supervisionRefusal .supervisionStaleRevision
      ("decision names gate revision " ++ toString request.expectedGateRevision ++
        ", the gate is at " ++ toString gate.revision))
  let next ← s.gateDecisionTransition request state gate
  let decided := decidedGate now request gate next
  let recorded := recordedDecision now request state.record
  let s ← s.saveSupervisionGate decided
  let s ← s.appendGateDecision recorded
  let s ← s.countOperatorDecision request.actor state
  let (s, incident) ← s.resolveGateIncident now request next
  return (s, { gate := some decided, gateDecision := some recorded, incident := incident })

def applyGateReconsider (evidenceDigest : EvidenceDigest) (request : GateReconsiderRequest) :
    SupervisionApply := fun s state => do
  let gate ← s.loadSupervisionGate request.runID request.gateID
  let (evidence, verified) := s.supervisionGateEvidence evidenceDigest request.runID gate
  let next ← gateTransition
    { gate := gate, event := .reconsider, actor := request.actor, producersVerified := verified
      freshSnapshot := verified, sinkSettled := state.snapshot.runTerminal }
  let reopened :=
    { gate with
      state := next, evidenceSnapshotID := evidence.id, revision := gate.revision + 1
      updatedAt := request.at.orNow now }
  let s ← s.saveSupervisionGate reopened
  return (s, { gate := some reopened })

/-! ## Holds -/

def requestedHold (request : HoldRequest) (state : DecisionContext) : Hold × Bool :=
  let hold : Hold :=
    { id := request.holdID, runID := request.runID, scope := request.scope, owner := request.actor
      graphRevision := state.snapshot.graphRevision, reason := request.reason
      createdAt := request.placedAt.orNow now }
  if request.scope.kind = .branch then
    match supervisionBranchClosure state.tasks request.scope.branchRootTaskID with
    | some resolved => ({ hold with resolvedTaskIDs := resolved }, true)
    | none => (hold, false)
  else (hold, true)

def applyHoldPlace (request : HoldRequest) : SupervisionApply := fun s state => do
  refuseWhen
    (request.expectedGraphRevision ≠ 0 ∧ request.expectedGraphRevision ≠ state.snapshot.graphRevision)
    (supervisionRefusal .supervisionStaleRevision
      ("hold names graph revision " ++ toString request.expectedGraphRevision ++
        ", the run is at " ++ toString state.snapshot.graphRevision))
  match s.loadSupervisionHold request.runID request.holdID with
  | some existing =>
    .error
      { text := "hold " ++ quote existing.id ++ " already exists in state " ++
          quote existing.state.text
        sentinel := some .supervisionRequestConflict }
  | none =>
    let (hold, rootExists) := requestedHold now request state
    let next ← holdTransition
      { hold := hold, event := .place, actor := request.actor
        actorScopeCoversRun :=
          supervisionActorCoversRun state request.actor (request.placedAt.orNow now)
        branchRootExists := rootExists, closureRecomputed := true }
    let hold := { hold with state := next }
    return (s.saveSupervisionHold hold, { hold := some hold })

def applyHoldRelease (request : HoldReleaseRequest) : SupervisionApply := fun s state => do
  match s.loadSupervisionHold request.runID request.holdID with
  | none => .error (recordNotFound "hold" request.holdID request.runID)
  | some hold =>
    requireAuthority state request.actor (request.releasedAt.orNow now)
    let next ← holdTransition
      { hold := hold, event := .release, actor := request.actor, actorScopeCoversRun := true }
    let hold := { hold with state := next, releasedAt := some (request.releasedAt.orNow now) }
    return (s.saveSupervisionHold hold, { hold := some hold })

/-! ## Activations -/

/-- Whether an activation other than the one decided still counts against the rule that at most one
is valid. One below the run's current epoch never does. -/
def otherActivationValid (candidate : Activation) (currentEpoch : Int) : Bool :=
  ¬candidate.epoch < currentEpoch ∧ candidate.state.live

def requestedActivation (request : ActivationRequest) (record : SupervisionRecord) : Activation :=
  ((s.loadSupervisionActivations request.runID).find? fun a => a.id = request.activationID).getD
    { id := request.activationID, runID := request.runID, epoch := record.activationEpoch
      state := .idle, dispatchIdentity := request.dispatchIdentity }

def supervisionInboxPending (runID : String) : Bool :=
  s.supervisionInbox.rows.any fun row => row.runID = runID ∧ !row.consumed

def consumeSupervisionInbox (runID : String) (cursor : Int) : Store :=
  { s with
    supervisionInbox := s.supervisionInbox.putAll
      ((s.supervisionInbox.rows.filter fun row => row.runID = runID ∧ row.sequence ≤ cursor).map
        fun row => { row with consumed := true }) }

def transitionedActivation (request : ActivationRequest) (result : ActivationTransitionResult)
    (activation : Activation) : Activation :=
  let started := request.transitionedAt.orNow now
  let next :=
    { activation with
      state := result.state
      epoch := result.epoch
      dispatchIdentity :=
        if request.dispatchIdentity ≠ "" then request.dispatchIdentity else activation.dispatchIdentity
      leaseToken := if request.leaseToken ≠ "" then request.leaseToken else activation.leaseToken
      leaseExpiresAt := request.leaseExpiresAt.or activation.leaseExpiresAt
      deadline := request.deadline.or activation.deadline
      consumedEventCursor := max activation.consumedEventCursor request.consumedEventCursor
      outcome := if request.outcome ≠ .none then request.outcome else activation.outcome }
  match result.state with
  | .active =>
    { next with
      startedAt := next.startedAt.or (some started)
      turnsUsed := if request.event = .decisionRecorded then next.turnsUsed + 1 else next.turnsUsed }
  | .revoked => { next with leaseToken := "", leaseExpiresAt := none }
  | .closed => { next with closedAt := some started }
  | _ => next

def transitionedRecord (result : ActivationTransitionResult) (activation : Activation)
    (record : SupervisionRecord) : SupervisionRecord :=
  let used := if result.countsTowardBudget then record.activationsUsed + 1 else record.activationsUsed
  { record with
    activationsUsed := used
    budgetGrantedActivations :=
      if result.freshBudget then used + record.config.maxActivations
      else record.budgetGrantedActivations
    activationEpoch := max record.activationEpoch result.epoch
    eventCursor := max record.eventCursor activation.consumedEventCursor }

def applyActivationTransition (request : ActivationRequest) : SupervisionApply := fun s state => do
  let activation := s.requestedActivation request state.record
  let others := (s.loadSupervisionActivations request.runID).filter fun a =>
    a.id ≠ request.activationID
  refuseWhen (request.expectedEpoch ≠ 0 ∧ request.expectedEpoch ≠ activation.epoch)
    (supervisionRefusal .supervisionStaleRevision
      ("transition names epoch " ++ toString request.expectedEpoch ++ ", the activation is at " ++
        toString activation.epoch))
  let result ← activationTransition
    { activation := activation
      event := request.event
      actor := request.actor
      supervised := true
      inboxNonEmpty := s.supervisionInboxPending request.runID
      activationBudgetRemaining := state.record.activationBudgetRemaining
      turnsRemaining := activation.turnsUsed < state.record.config.maxTurnsPerActivation
      otherValidActivation := others.any fun a => otherActivationValid a state.record.activationEpoch
      leaseValid := request.observations.leaseValid
      expectedEpoch := request.expectedEpoch
      revisionMatches := request.expectedSupervisionRevision = state.record.revision
      executionObserved := request.observations.executionObserved
      runtimeProvenStopped := request.observations.runtimeProvenStopped
      recoveryComplete := request.observations.recoveryComplete
      operatorAuthorized := request.observations.operatorAuthorized }
  let activation := transitionedActivation now request result activation
  let record := transitionedRecord result activation state.record
  let s := if activation.consumedEventCursor > state.record.eventCursor then
      s.consumeSupervisionInbox request.runID record.eventCursor
    else s
  let s ← s.saveSupervisionActivation activation
  return (s, { activation := some activation, record := some record })

/-! ## Review incidents -/

def applyIncidentOpen (request : IncidentRequest) : SupervisionApply := fun s state => do
  let existing := s.loadSupervisionIncidents request.runID
  refuseWhen (existing.any fun i => i.id = request.incidentID)
    { text := "incident " ++ quote request.incidentID ++ " already exists"
      sentinel := some .supervisionRequestConflict }
  let next ← incidentTransition
    { event := .raise
      actor := request.actor
      reasonChangedOrThresholdCrossed := !existing.any fun i =>
        i.state ≠ .resolved ∧ i.reason = request.reason ∧ i.sourceTaskID = request.sourceTaskID
      actorScopeCoversRun :=
        supervisionActorCoversRun state request.actor (request.openedAt.orNow now) }
  let incident : ReviewIncident :=
    { id := request.incidentID, runID := request.runID, sourceEventID := request.sourceEventID
      sourceTaskID := request.sourceTaskID, sourceAttemptID := request.sourceAttemptID
      gateID := request.gateID, revision := 1, requiredDisposition := request.requiredDisposition
      state := next, reason := request.reason, openedAt := request.openedAt.orNow now }
  return (s.saveSupervisionIncident incident, { incident := some incident })

/-- The observed terminal failure that concluding a failure needs. -/
def supervisionSourceTerminallyFailed (incident : ReviewIncident) : Bool :=
  !blank incident.sourceAttemptID && (s.attempts.get? incident.sourceAttemptID).any fun a =>
      a.progress = .failed ∨ a.progress = .cancelled

def applyIncidentResolve (request : IncidentResolutionRequest) : SupervisionApply := fun s state => do
  let incident ← s.loadSupervisionIncident request.runID request.incidentID
  let next ← incidentTransition
    { incident := incident
      event := request.event
      actor := request.actor
      reasonChangedOrThresholdCrossed := true
      actorScopeCoversRun :=
        supervisionActorCoversRun state request.actor (request.resolvedAt.orNow now)
      matchingGateIncident := request.gateID ≠ "" ∧ incident.gateID = request.gateID
      taskTerminallyFailed := s.supervisionSourceTerminallyFailed incident
      expectedRevision := request.expectedRevision }
  let receipt : ResolutionReceipt :=
    { actor := request.actor, outcome := request.outcome
      evidenceSnapshotID := request.evidenceSnapshotID, expectedRevision := incident.revision
      requestID := request.requestID, reason := request.reason
      resolvedAt := request.resolvedAt.orNow now }
  let incident :=
    { incident with
      state := next
      revision := incident.revision + 1
      resolution := if next = .resolved then some receipt else incident.resolution
      reason := if next = .escalated then request.reason else incident.reason }
  return (s.saveSupervisionIncident incident, { incident := some incident })

end Store

/-! ## The operations -/

inductive SupervisionPayload
  | gateDecision (request : GateDecisionRequest)
  | gateReconsider (request : GateReconsiderRequest)
  | holdPlace (request : HoldRequest)
  | holdRelease (request : HoldReleaseRequest)
  | activationTransition (request : ActivationRequest)
  | incidentOpen (request : IncidentRequest)
  | incidentResolve (request : IncidentResolutionRequest)
deriving DecidableEq

namespace SupervisionPayload

def operation : SupervisionPayload → SupervisionOperation
  | .gateDecision _ => .gateDecision
  | .gateReconsider _ => .gateReconsider
  | .holdPlace _ => .holdPlace
  | .holdRelease _ => .holdRelease
  | .activationTransition _ => .activationTransition
  | .incidentOpen _ => .incidentOpen
  | .incidentResolve _ => .incidentResolve

def runID : SupervisionPayload → String
  | .gateDecision r => r.runID
  | .gateReconsider r => r.runID
  | .holdPlace r => r.runID
  | .holdRelease r => r.runID
  | .activationTransition r => r.runID
  | .incidentOpen r => r.runID
  | .incidentResolve r => r.runID

def requestID : SupervisionPayload → String
  | .gateDecision r => r.requestID
  | .gateReconsider r => r.requestID
  | .holdPlace r => r.requestID
  | .holdRelease r => r.requestID
  | .activationTransition r => r.requestID
  | .incidentOpen r => r.requestID
  | .incidentResolve r => r.requestID

def check : SupervisionPayload → Except Err Unit
  | .gateDecision r =>
    if r.outcome ≠ .accept ∧ r.outcome ≠ .reject then
      .error { text := "unknown gate decision outcome " ++ quote r.outcome.text }
    else
      refuseWhen (blank r.reason) { text := "a gate decision needs a reason" }
  | .gateReconsider r =>
    refuseWhen (blank r.reason) { text := "a gate reconsideration needs a reason" }
  | .holdPlace r =>
    refuseWhen (blank r.holdID ∨ blank r.reason) { text := "a hold needs an id and a reason" }
  | .holdRelease _ => .ok ()
  | .activationTransition r =>
    refuseWhen (blank r.activationID) { text := "an activation transition needs an activation id" }
  | .incidentOpen r =>
    refuseWhen (blank r.incidentID ∨ blank r.reason ∨ blank r.sourceEventID)
      { text := "a review incident needs an id, a source event and a normalized reason" }
  | .incidentResolve r =>
    refuseWhen (blank r.reason) { text := "an incident resolution needs a reason" }

def apply (evidenceDigest : EvidenceDigest) (now : Time) : SupervisionPayload → SupervisionApply
  | .gateDecision r => applyGateDecision now r
  | .gateReconsider r => applyGateReconsider now evidenceDigest r
  | .holdPlace r => applyHoldPlace now r
  | .holdRelease r => applyHoldRelease now r
  | .activationTransition r => applyActivationTransition now r
  | .incidentOpen r => applyIncidentOpen now r
  | .incidentResolve r => applyIncidentResolve now r

end SupervisionPayload

namespace Store

section

variable (evidenceDigest : EvidenceDigest) (payloadDigest : SupervisionPayload → String)

variable (s : Store) (now : Time)

def decideSupervision (payload : SupervisionPayload) :
    Except Err (Store × SupervisionDecision) := do
  payload.check
  s.supervisionDecision now payload.operation payload.runID payload.requestID
    (payloadDigest payload) (payload.apply evidenceDigest now)

def decideGate (request : GateDecisionRequest) :
    Except Err (Store × SupervisionDecision) :=
  s.decideSupervision evidenceDigest payloadDigest now (.gateDecision request)

def reconsiderGate (request : GateReconsiderRequest) :
    Except Err (Store × SupervisionDecision) :=
  s.decideSupervision evidenceDigest payloadDigest now (.gateReconsider request)

def placeHold (request : HoldRequest) :
    Except Err (Store × SupervisionDecision) :=
  s.decideSupervision evidenceDigest payloadDigest now (.holdPlace request)

def releaseHold (request : HoldReleaseRequest) :
    Except Err (Store × SupervisionDecision) :=
  s.decideSupervision evidenceDigest payloadDigest now (.holdRelease request)

end

/-! ## What an operation writes -/

section

variable {s s' : Store} {now : Time} {state : DecisionContext} {d : SupervisionDecision}

theorem saveSupervisionActivation_ok {activation : Activation}
    (h : s.saveSupervisionActivation activation = .ok s') :
    ∃ activations, s' = { s with activations := activations } := by
  unfold saveSupervisionActivation at h
  split at h
  · split_ifs at h
    exact ⟨_, (ok.inj h).symm⟩
  · exact ⟨_, (ok.inj h).symm⟩

theorem countOperatorDecision_ok {actor : Actor} (h : s.countOperatorDecision actor state = .ok s') :
    ∃ activations, s' = { s with activations := activations } := by
  unfold countOperatorDecision at h
  dsimp only at h
  split_ifs at h
  · exact saveSupervisionActivation_ok h
  · exact ⟨_, (ok.inj h).symm⟩

variable {request : GateDecisionRequest}

theorem resolveGateIncident_ok {next : GateState} {incident : Option ReviewIncident}
    (h : s.resolveGateIncident now request next = .ok (s', incident)) :
    ∃ incidents, s' = { s with incidents := incidents } := by
  unfold resolveGateIncident at h
  split_ifs at h
  · obtain ⟨incident', -, h⟩ := of_bind h
    obtain ⟨next', -, h⟩ := of_bind h
    cases h
    exact ⟨_, rfl⟩
  · cases h
    exact ⟨_, rfl⟩

theorem loadSupervisionGate_ok {runID gateID : String} {gate : Gate}
    (h : s.loadSupervisionGate runID gateID = .ok gate) :
    s.gates.get? gateID = some gate ∧ gate.runID = runID := by
  unfold loadSupervisionGate at h
  split at h
  · rename_i found hfound
    cases h
    obtain ⟨hget, hrun⟩ := Option.filter_eq_some_iff.1 hfound
    exact ⟨hget, by simpa using hrun⟩
  · cases h

/-- A gate decision wrote the decided gate over the one it names and logged itself; beside that it
may count on an activation and close an incident. -/
theorem applyGateDecision_ok (h : applyGateDecision now request s state = .ok (s', d)) :
    ∃ gate next activations incidents, s.loadSupervisionGate request.runID
      request.gateID = .ok gate ∧ s.gateDecisionTransition request state gate = .ok next ∧
      d.gate = some (decidedGate now request gate next) ∧
      d.gateDecision = some (recordedDecision now request state.record) ∧
      s' = { s with
        gates := s.gates.put (decidedGate now request gate next)
        decisions := s.decisions.put (recordedDecision now request state.record)
        activations := activations
        incidents := incidents } := by
  obtain ⟨_, -, h⟩ := of_bind h
  obtain ⟨_, -, h⟩ := of_bind h
  obtain ⟨gate, hgate, h⟩ := of_bind h
  replace h := past_guard h
  obtain ⟨next, hnext, h⟩ := of_bind h
  obtain ⟨s₁, hsave, h⟩ := of_bind h
  obtain ⟨s₂, hlog, h⟩ := of_bind h
  obtain ⟨s₃, hcount, h⟩ := of_bind h
  obtain ⟨⟨s₄, incident⟩, hincident, h⟩ := of_bind h
  cases h
  obtain rfl := saveSupervisionGate_ok hsave
  obtain ⟨-, -, rfl⟩ := appendGateDecision_ok_iff.1 hlog
  obtain ⟨activations, rfl⟩ := countOperatorDecision_ok hcount
  obtain ⟨incidents, rfl⟩ := resolveGateIncident_ok hincident
  exact ⟨gate, next, activations, incidents, hgate, hnext, rfl, rfl, rfl⟩

variable {evidenceDigest : EvidenceDigest}

theorem applyGateReconsider_ok {request : GateReconsiderRequest}
    (h : applyGateReconsider now evidenceDigest request s state = .ok (s', d)) :
    ∃ gate next, s.loadSupervisionGate request.runID request.gateID = .ok gate ∧ gateTransition
        { gate := gate, event := .reconsider, actor := request.actor
          producersVerified := (s.supervisionGateEvidence evidenceDigest request.runID gate).2
          freshSnapshot := (s.supervisionGateEvidence evidenceDigest request.runID gate).2
          sinkSettled := state.snapshot.runTerminal } = .ok next ∧
      s' = { s with
        gates := s.gates.put
          { gate with
            state := next
            evidenceSnapshotID := (s.supervisionGateEvidence evidenceDigest request.runID gate).1.id
            revision := gate.revision + 1
            updatedAt := request.at.orNow now } } := by
  obtain ⟨gate, hgate, h⟩ := of_bind h
  obtain ⟨next, hnext, h⟩ := of_bind h
  obtain ⟨s₁, hsave, h⟩ := of_bind h
  cases h
  exact ⟨gate, next, hgate, hnext, saveSupervisionGate_ok hsave⟩

theorem applyHoldPlace_ok {request : HoldRequest}
    (h : applyHoldPlace now request s state = .ok (s', d)) :
    ∃ hold : Hold, hold.id = request.holdID ∧ hold.runID = request.runID ∧ d.hold = some hold ∧
      s' = s.saveSupervisionHold hold := by
  replace h := past_guard h
  split at h
  · cases h
  · have hnames : ∀ requested, requestedHold now request state = requested →
        requested.1.id = request.holdID ∧ requested.1.runID = request.runID := by
      rintro _ rfl
      unfold requestedHold
      split_ifs
      · split <;> exact ⟨rfl, rfl⟩
      · exact ⟨rfl, rfl⟩
    generalize requestedHold now request state = requested at h hnames
    replace hnames := hnames _ rfl
    obtain ⟨next, -, h⟩ := of_bind h
    cases h
    exact ⟨{ requested.1 with state := next }, hnames.1, hnames.2, rfl, rfl⟩

theorem applyHoldRelease_ok {request : HoldReleaseRequest}
    (h : applyHoldRelease now request s state = .ok (s', d)) :
    ∃ holds, s' = { s with holds := holds } := by
  unfold applyHoldRelease at h
  split at h
  · cases h
  · obtain ⟨_, -, h⟩ := of_bind h
    obtain ⟨next, -, h⟩ := of_bind h
    cases h
    exact ⟨_, rfl⟩

theorem applyActivationTransition_ok {request : ActivationRequest}
    (h : applyActivationTransition now request s state = .ok (s', d)) :
    ∃ activations supervisionInbox,
      s' = { s with activations := activations, supervisionInbox := supervisionInbox } := by
  replace h := past_guard h
  obtain ⟨result, -, h⟩ := of_bind h
  obtain ⟨s₁, hsave, h⟩ := of_bind h
  cases h
  obtain ⟨activations, rfl⟩ := saveSupervisionActivation_ok hsave
  split_ifs
  · exact ⟨_, _, rfl⟩
  · exact ⟨_, _, rfl⟩

theorem applyIncidentOpen_ok {request : IncidentRequest}
    (h : applyIncidentOpen now request s state = .ok (s', d)) :
    ∃ incident : ReviewIncident, incident.id = request.incidentID ∧ incident.runID = request.runID ∧
      d.incident = some incident ∧ s' = s.saveSupervisionIncident incident := by
  replace h := past_guard h
  obtain ⟨next, -, h⟩ := of_bind h
  cases h
  exact ⟨_, rfl, rfl, rfl, rfl⟩

theorem applyIncidentResolve_ok {request : IncidentResolutionRequest}
    (h : applyIncidentResolve now request s state = .ok (s', d)) :
    ∃ incidents, s' = { s with incidents := incidents } := by
  obtain ⟨incident, -, h⟩ := of_bind h
  obtain ⟨next, -, h⟩ := of_bind h
  cases h
  exact ⟨_, rfl⟩

theorem apply_writes {payload : SupervisionPayload}
    (h : payload.apply evidenceDigest now s state = .ok (s', d)) :
    ∃ gates decisions holds incidents activations supervisionInbox,
      s' = { s with
        gates := gates, decisions := decisions, holds := holds, incidents := incidents
        activations := activations, supervisionInbox := supervisionInbox } := by
  cases payload with
  | gateDecision request =>
    obtain ⟨_, _, _, _, -, -, -, -, rfl⟩ := applyGateDecision_ok h
    exact ⟨_, _, _, _, _, _, rfl⟩
  | gateReconsider request =>
    obtain ⟨_, _, -, -, rfl⟩ := applyGateReconsider_ok h
    exact ⟨_, _, _, _, _, _, rfl⟩
  | holdPlace request =>
    obtain ⟨_, -, -, -, rfl⟩ := applyHoldPlace_ok h
    exact ⟨_, _, _, _, _, _, rfl⟩
  | holdRelease request =>
    obtain ⟨_, rfl⟩ := applyHoldRelease_ok h
    exact ⟨_, _, _, _, _, _, rfl⟩
  | activationTransition request =>
    obtain ⟨_, _, rfl⟩ := applyActivationTransition_ok h
    exact ⟨_, _, _, _, _, _, rfl⟩
  | incidentOpen request =>
    obtain ⟨_, -, -, -, rfl⟩ := applyIncidentOpen_ok h
    exact ⟨_, _, _, _, _, _, rfl⟩
  | incidentResolve request =>
    obtain ⟨_, rfl⟩ := applyIncidentResolve_ok h
    exact ⟨_, _, _, _, _, _, rfl⟩

/-- A payload on a new request key, when it commits: its operation, the sweep of what the operation
left, its record and its receipt. -/
theorem decideSupervision_ok {payloadDigest : SupervisionPayload → String}
    {payload : SupervisionPayload} (hnew : s.supervisionReceipts.get? payload.requestID = none)
    (h : s.decideSupervision evidenceDigest payloadDigest now payload = .ok (s', d)) :
    payload.check = .ok () ∧ (blank payload.runID = false ∧ blank payload.requestID = false) ∧
      ∃ state mid applied swept out, s.decisionContext payload.runID = some state ∧
        payload.apply evidenceDigest now s state = .ok (mid, applied) ∧
        mid.releaseNarrowedOffers (mid.supervisionState payload.runID) now = .ok swept ∧
        d = decidedAnswer applied out (decidedRecord payload.runID now state.record applied.record) ∧
        s' = { swept with
          supervision := swept.supervision.put
            (decidedRecord payload.runID now state.record applied.record)
          supervisionReceipts := swept.supervisionReceipts.put
            { requestID := payload.requestID, operation := payload.operation
              runID := payload.runID, payloadSHA256 := payloadDigest payload
              answer := .decision d, recordedAt := now } } := by
  obtain ⟨_, hcheck, h⟩ := of_bind h
  obtain ⟨hnamed, hcases⟩ := supervisionDecision_ok h
  refine ⟨hcheck, hnamed, ?_⟩
  rcases hcases with ⟨hsome, -⟩ | ⟨-, state, hstate, hfresh⟩
  · rw [hnew] at hsome
    cases hsome
  · obtain ⟨mid, applied, swept, out, happly, hsweep, hd, hs'⟩ := freshDecision_ok hfresh
    exact ⟨state, mid, applied, swept, out, hstate, happly, hsweep, hd, hs'⟩

theorem decideSupervision_replay {payloadDigest : SupervisionPayload → String}
    {payload : SupervisionPayload}
    (hused : (s.supervisionReceipts.get? payload.requestID).isSome = true)
    (h : s.decideSupervision evidenceDigest payloadDigest now payload = .ok (s', d)) : s' = s := by
  obtain ⟨_, -, h⟩ := of_bind h
  rcases (supervisionDecision_ok h).2 with ⟨-, hsame⟩ | ⟨hnone, -⟩
  · exact hsame
  · rw [hnone] at hused
    cases hused

variable {payloadDigest : SupervisionPayload → String}

/-- A new gate decision, when it commits, moved the gate it names by its table and logged itself. -/
theorem decideGate_ok (hnew : s.supervisionReceipts.get? request.requestID = none)
    (h : s.decideGate evidenceDigest payloadDigest now request = .ok (s', d)) :
    ∃ state gate next, s.decisionContext request.runID = some state ∧
      s.gates.get? request.gateID = some gate ∧ gate.runID = request.runID ∧
      s.gateDecisionTransition request state gate = .ok next ∧
      s'.gates = s.gates.put (decidedGate now request gate next) ∧
      s'.decisions = s.decisions.put (recordedDecision now request state.record) := by
  obtain ⟨-, -, state, mid, applied, swept, out, hstate, happly, hsweep, -, rfl⟩ :=
    @decideSupervision_ok _ _ _ _ _ _ (.gateDecision request) hnew h
  obtain ⟨assignments, attempts, rfl⟩ := releaseNarrowedOffers_ok hsweep
  obtain ⟨gate, next, _, _, hgate, hnext, -, -, rfl⟩ := applyGateDecision_ok happly
  obtain ⟨hrow, hrun⟩ := loadSupervisionGate_ok hgate
  exact ⟨state, gate, next, hstate, hrow, hrun, hnext, rfl, rfl⟩

end

end Store

end Steward
