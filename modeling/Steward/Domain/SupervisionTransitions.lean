import Steward.Domain.Errors
import Steward.Domain.Supervision

/-!
# The supervision state machines

`GateTransition`, `HoldTransition` and `IncidentTransition` of `internal/domain/supervision.go`:
pure functions from a record, an event and the guards its transaction read to the next state, or to
a refusal that wraps one of the supervision sentinels.
-/

namespace Steward

/-! ## Texts -/

def GateState.text : GateState → String
  | .unset => ""
  | .pendingEvidence => "pending-evidence"
  | .readyForReview => "ready-for-review"
  | .accepted => "accepted"
  | .held => "held"
  | .escalated => "escalated"
  | .cancelled => "cancelled"

def HoldState.text : HoldState → String
  | .unset => ""
  | .active => "active"
  | .released => "released"

def HoldScopeKind.text : HoldScopeKind → String
  | .unset => ""
  | .run => "run"
  | .branch => "branch"

def IncidentState.text : IncidentState → String
  | .unset => ""
  | .open => "open"
  | .escalated => "escalated"
  | .resolved => "resolved"

def ActorKind.text : ActorKind → String
  | .unset => ""
  | .overseer => "overseer"
  | .operator => "operator"

/-! ## Actors -/

def supervisionRefusal (sentinel : Sentinel) (text : String) : Err :=
  { text := text, sentinel := some sentinel }

def Actor.sameIdentity (a other : Actor) : Bool :=
  a.kind = other.kind ∧ a.principal = other.principal ∧
    (a.kind = .overseer → a.activationEpoch = other.activationEpoch)

def Actor.validate (a : Actor) : Except Err Unit :=
  if a.kind = .unset then
    .error (supervisionRefusal .supervisionUnauthorizedActor
      ("unknown actor kind " ++ quote a.kind.text))
  else if Text.blank a.principal then
    .error (supervisionRefusal .supervisionUnauthorizedActor "actor has no principal")
  else .ok ()

/-! ## Gates -/

inductive GateEvent
  | producersSucceeded
  | producerNotSucceeded
  | accept
  | reject
  | reviewDeadlineExpired
  | producerReplaced
  | activationBudgetExhausted
  | amendmentTouchesScope
  | amendmentOutsideScope
  | reconsider
  | newProducerEvidence
  | runCancelled
deriving DecidableEq

def GateEvent.text : GateEvent → String
  | .producersSucceeded => "producers-succeeded"
  | .producerNotSucceeded => "producer-not-succeeded"
  | .accept => "accept"
  | .reject => "reject"
  | .reviewDeadlineExpired => "review-deadline-expired"
  | .producerReplaced => "producer-replaced"
  | .activationBudgetExhausted => "activation-budget-exhausted"
  | .amendmentTouchesScope => "amendment-touches-scope"
  | .amendmentOutsideScope => "amendment-outside-scope"
  | .reconsider => "reconsider"
  | .newProducerEvidence => "new-producer-evidence"
  | .runCancelled => "run-cancelled"

structure GateTransitionInput where
  gate : Gate := {}
  event : GateEvent := .producersSucceeded
  actor : Actor := {}
  expectedGraphRevision : Int := 0
  (evidenceMatches producersVerified successorOfferedOrStarted freshSnapshot : Bool := false)
  revalidationReceiptID : String := ""
  sinkSettled : Bool := false
deriving DecidableEq

variable (in' : GateTransitionInput)

def decideGate (next : GateState) : Except Err GateState :=
  match in'.actor.validate with
  | .error e => .error e
  | .ok () =>
    if in'.expectedGraphRevision ≠ in'.gate.graphRevision then
      .error (supervisionRefusal .supervisionStaleRevision
        ("decision names graph revision " ++ toString in'.expectedGraphRevision ++
          ", the gate is at " ++ toString in'.gate.graphRevision))
    else if !in'.evidenceMatches then
      .error (supervisionRefusal .supervisionStaleRevision
        "the decision's evidence snapshot no longer matches")
    else .ok next

def reconsiderGate (what : String) : Except Err GateState :=
  if in'.actor.kind ≠ .operator then
    .error (supervisionRefusal .supervisionUnauthorizedActor
      ("reconsideration of " ++ what ++ " gate is operator-authorized"))
  else if !in'.freshSnapshot then
    .error (supervisionRefusal .supervisionPrerequisite
      "reconsideration needs a fresh evidence snapshot")
  else .ok .readyForReview

def gateTransition : Except Err GateState :=
  let state := if in'.gate.state = .unset then .pendingEvidence else in'.gate.state
  if in'.sinkSettled then
    .error (supervisionRefusal .supervisionTerminal
      "the run settled; supervision capabilities are revoked")
  else if state = .cancelled then
    .error (supervisionRefusal .supervisionTerminal "the gate is cancelled")
  else if in'.event = .runCancelled then .ok .cancelled
  else
    match state, in'.event with
    | .pendingEvidence, .producersSucceeded =>
      if in'.producersVerified then .ok .readyForReview
      else
        .error (supervisionRefusal .supervisionPrerequisite
          "observed results are not verified and in coordinator custody")
    | .pendingEvidence, .producerNotSucceeded => .ok .pendingEvidence
    | .pendingEvidence, .accept | .pendingEvidence, .reject =>
      .error (supervisionRefusal .supervisionPrerequisite "the gate has no evidence to review")
    | .readyForReview, .accept => decideGate in' .accepted
    | .readyForReview, .reject => decideGate in' .held
    | .readyForReview, .reviewDeadlineExpired | .readyForReview, .activationBudgetExhausted =>
      .ok .escalated
    | .readyForReview, .producerReplaced => .ok .pendingEvidence
    | .accepted, .producerReplaced =>
      if in'.successorOfferedOrStarted then
        .error (supervisionRefusal .supervisionPrerequisite
          "a protected task is already offered or started; use explicit recovery or a new run")
      else .ok .pendingEvidence
    | .accepted, .amendmentTouchesScope => .ok .pendingEvidence
    | .accepted, .amendmentOutsideScope =>
      if Text.blank in'.revalidationReceiptID then
        .error (supervisionRefusal .supervisionPrerequisite
          "carrying an acceptance forward needs an atomic revalidation receipt")
      else .ok .accepted
    | .held, .reconsider => reconsiderGate in' "a held"
    | .held, .newProducerEvidence =>
      if in'.producersVerified then .ok .pendingEvidence
      else .error (supervisionRefusal .supervisionPrerequisite
        "new producer evidence is not verified")
    | .held, .accept | .held, .reject =>
      .error (supervisionRefusal .supervisionPrerequisite
        "a held gate needs fresh evidence or operator-authorized reconsideration")
    | .escalated, .reconsider => reconsiderGate in' "an escalated"
    | .escalated, .accept =>
      .error (supervisionRefusal .supervisionPrerequisite
        "an escalated gate settles through incident resolution, not acceptance")
    | _, _ =>
      .error (supervisionRefusal .supervisionIllegalTransition
        ("gate " ++ state.text ++ " cannot handle " ++ in'.event.text))

def GateState.pending (g : GateState) : Prop := g = .unset ∨ g = .pendingEvidence

/-- The rows of the gate table, with what each of them needs. -/
inductive GateRow (in' : GateTransitionInput) : GateState → Prop
  | cancelled (hstate : in'.gate.state ≠ .cancelled) (hevent : in'.event = .runCancelled) :
      GateRow in' .cancelled
  | ready (hstate : in'.gate.state.pending) (hevent : in'.event = .producersSucceeded)
      (hverified : in'.producersVerified = true) : GateRow in' .readyForReview
  | waiting (hstate : in'.gate.state.pending) (hevent : in'.event = .producerNotSucceeded) :
      GateRow in' .pendingEvidence
  | accepted (hstate : in'.gate.state = .readyForReview) (hevent : in'.event = .accept)
      (hrevision : in'.expectedGraphRevision = in'.gate.graphRevision)
      (hmatches : in'.evidenceMatches = true) : GateRow in' .accepted
  | rejected (hstate : in'.gate.state = .readyForReview) (hevent : in'.event = .reject)
      (hrevision : in'.expectedGraphRevision = in'.gate.graphRevision)
      (hmatches : in'.evidenceMatches = true) : GateRow in' .held
  | escalated (hstate : in'.gate.state = .readyForReview)
      (hevent : in'.event = .reviewDeadlineExpired ∨ in'.event = .activationBudgetExhausted) :
      GateRow in' .escalated
  | replaced (hstate : in'.gate.state = .readyForReview ∨ in'.gate.state = .accepted)
      (hevent : in'.event = .producerReplaced) : GateRow in' .pendingEvidence
  | reopened (hstate : in'.gate.state = .accepted) (hevent : in'.event = .amendmentTouchesScope) :
      GateRow in' .pendingEvidence
  | carried (hstate : in'.gate.state = .accepted) (hevent : in'.event = .amendmentOutsideScope) :
      GateRow in' .accepted
  | reconsidered (hstate : in'.gate.state = .held ∨ in'.gate.state = .escalated)
      (hevent : in'.event = .reconsider) (hoperator : in'.actor.kind = .operator)
      (hfresh : in'.freshSnapshot = true) : GateRow in' .readyForReview
  | refreshed (hstate : in'.gate.state = .held) (hevent : in'.event = .newProducerEvidence)
      (hverified : in'.producersVerified = true) : GateRow in' .pendingEvidence

section

variable {in' : GateTransitionInput} {next result : GateState}

theorem GateRow.of_accept (h : GateRow in' next) (hevent : in'.event = .accept) :
    next = .accepted ∧ in'.gate.state = .readyForReview ∧
      in'.expectedGraphRevision = in'.gate.graphRevision ∧ in'.evidenceMatches = true := by
  cases h <;> simp_all

theorem GateRow.of_reject (h : GateRow in' next) (hevent : in'.event = .reject) :
    next = .held ∧ in'.gate.state = .readyForReview := by
  cases h <;> simp_all

theorem GateRow.of_reconsider (h : GateRow in' next) (hevent : in'.event = .reconsider) :
    next = .readyForReview ∧ (in'.gate.state = .held ∨ in'.gate.state = .escalated) ∧
      in'.actor.kind = .operator ∧ in'.freshSnapshot = true := by
  cases h <;> simp_all

theorem GateRow.of_producersSucceeded (h : GateRow in' next)
    (hevent : in'.event = .producersSucceeded) :
    next = .readyForReview ∧ in'.gate.state.pending := by
  cases h <;> simp_all

theorem decideGate_ok (h : decideGate in' next = .ok result) : result = next ∧
    in'.expectedGraphRevision = in'.gate.graphRevision ∧ in'.evidenceMatches = true := by
  unfold decideGate at h
  split at h
  · cases h
  · split_ifs at h with hrevision hmatches
    exact ⟨(Except.ok.inj h).symm, not_not.1 hrevision, by simpa using hmatches⟩

theorem reconsiderGate_ok {what : String} (h : reconsiderGate in' what = .ok result) :
    result = .readyForReview ∧ in'.actor.kind = .operator ∧ in'.freshSnapshot = true := by
  unfold reconsiderGate at h
  split_ifs at h with hoperator hfresh
  exact ⟨(Except.ok.inj h).symm, not_not.1 hoperator, by simpa using hfresh⟩

theorem gateTransition_row (h : gateTransition in' = .ok next) :
    in'.sinkSettled = false ∧ GateRow in' next := by
  unfold gateTransition at h
  dsimp only at h
  generalize hg : (if in'.gate.state = .unset then GateState.pendingEvidence else in'.gate.state) =
    state at h
  have hpending : state = .pendingEvidence → in'.gate.state.pending := by
    rw [← hg]
    unfold GateState.pending
    cases in'.gate.state <;> simp
  have hother : ∀ g, g ≠ .pendingEvidence → state = g → in'.gate.state = g := by
    intro g hne
    rw [← hg]
    split_ifs
    · exact fun hsame => absurd hsame.symm hne
    · exact id
  split at h
  · cases h
  rename_i hsettled
  refine ⟨by simpa using hsettled, ?_⟩
  split at h
  · cases h
  rename_i hcancelled
  split at h
  · rename_i hevent
    cases h
    refine .cancelled (fun hstate => hcancelled ?_) hevent
    rw [← hg, hstate]
    rfl
  · split at h
    all_goals try (cases h; done)
    all_goals rename_i hevent
    · split_ifs at h with hverified
      cases h
      exact .ready (hpending rfl) hevent hverified
    · cases h
      exact .waiting (hpending rfl) hevent
    · obtain ⟨rfl, hrevision, hmatches⟩ := decideGate_ok h
      exact .accepted (hother _ (by decide) rfl) hevent hrevision hmatches
    · obtain ⟨rfl, hrevision, hmatches⟩ := decideGate_ok h
      exact .rejected (hother _ (by decide) rfl) hevent hrevision hmatches
    · cases h
      exact .escalated (hother _ (by decide) rfl) (.inl hevent)
    · cases h
      exact .escalated (hother _ (by decide) rfl) (.inr hevent)
    · cases h
      exact .replaced (.inl (hother _ (by decide) rfl)) hevent
    · split_ifs at h
      cases h
      exact .replaced (.inr (hother _ (by decide) rfl)) hevent
    · cases h
      exact .reopened (hother _ (by decide) rfl) hevent
    · split_ifs at h
      cases h
      exact .carried (hother _ (by decide) rfl) hevent
    · obtain ⟨rfl, hoperator, hfresh⟩ := reconsiderGate_ok h
      exact .reconsidered (.inl (hother _ (by decide) rfl)) hevent hoperator hfresh
    · split_ifs at h with hverified
      cases h
      exact .refreshed (hother _ (by decide) rfl) hevent hverified
    · obtain ⟨rfl, hoperator, hfresh⟩ := reconsiderGate_ok h
      exact .reconsidered (.inr (hother _ (by decide) rfl)) hevent hoperator hfresh

end

inductive GateDecisionOutcome
  | unset
  | accept
  | reject
  | cancel
deriving DecidableEq

/-- One append-only decision record. -/
structure GateDecision where
  (id runID gateID : String := "")
  actor : Actor := {}
  (activationEpoch graphRevision : Int := 0)
  evidence : EvidenceSnapshot := {}
  outcome : GateDecisionOutcome := .unset
  (requestID reason incidentID : String := "")
  decidedAt : Time := 0
deriving DecidableEq

/-! ## Holds -/

inductive HoldEvent
  | place
  | duplicateSamePayload
  | duplicateChangedPayload
  | release
  | amendmentAddsDescendants
  | closureMemberClaimed
  | runSettled
deriving DecidableEq

def HoldEvent.text : HoldEvent → String
  | .place => "place"
  | .duplicateSamePayload => "duplicate-same-payload"
  | .duplicateChangedPayload => "duplicate-changed-payload"
  | .release => "release"
  | .amendmentAddsDescendants => "amendment-adds-descendants"
  | .closureMemberClaimed => "closure-member-claimed"
  | .runSettled => "run-settled"

structure HoldTransitionInput where
  hold : Hold := {}
  event : HoldEvent := .place
  actor : Actor := {}
  (actorScopeCoversRun branchRootExists closureRecomputed : Bool := false)
deriving DecidableEq

variable (in' : HoldTransitionInput)

def placeHold : Except Err HoldState :=
  match in'.actor.validate with
  | .error e => .error e
  | .ok () =>
    if !in'.actorScopeCoversRun then
      .error (supervisionRefusal .supervisionUnauthorizedActor
        "the actor's scope does not cover this run")
    else
      match in'.hold.scope.kind with
      | .run => .ok .active
      | .branch =>
        if Text.blank in'.hold.scope.branchRootTaskID then
          .error (supervisionRefusal .supervisionPrerequisite "a branch hold needs a root task")
        else if !in'.branchRootExists then
          .error (supervisionRefusal .supervisionPrerequisite
            ("the branch root does not exist at graph revision " ++ toString in'.hold.graphRevision))
        else if !in'.closureRecomputed then
          .error (supervisionRefusal .supervisionPrerequisite
            "the downstream closure was not computed in this transaction")
        else .ok .active
      | .unset =>
        .error (supervisionRefusal .supervisionPrerequisite
          ("unknown hold scope " ++ quote in'.hold.scope.kind.text))

def releaseHold : Except Err HoldState :=
  match in'.actor.validate with
  | .error e => .error e
  | .ok () =>
    if !in'.actor.sameIdentity in'.hold.owner ∧ in'.actor.kind ≠ .operator then
      .error (supervisionRefusal .supervisionUnauthorizedActor
        "only the owner or an operator may release this hold")
    else if in'.actor.kind = .overseer ∧ in'.hold.owner.kind = .operator then
      .error (supervisionRefusal .supervisionUnauthorizedActor
        "an overseer cannot clear an operator hold")
    else .ok .released

def holdTransition : Except Err HoldState :=
  match in'.hold.state, in'.event with
  | .unset, .place => placeHold in'
  | .unset, event =>
    .error (supervisionRefusal .supervisionIllegalTransition
      ("no hold exists to receive " ++ event.text))
  | .active, .duplicateSamePayload | .active, .closureMemberClaimed => .ok .active
  | .active, .duplicateChangedPayload =>
    .error (supervisionRefusal .supervisionStaleRevision
      "the request key was already used with a different payload")
  | .active, .release => releaseHold in'
  | .active, .amendmentAddsDescendants =>
    if in'.closureRecomputed then .ok .active
    else
      .error (supervisionRefusal .supervisionPrerequisite
        "the amendment did not recompute the held closure atomically")
  | .active, .runSettled => .ok .released
  | .active, .place =>
    .error (supervisionRefusal .supervisionIllegalTransition
      ("hold " ++ in'.hold.state.text ++ " cannot handle " ++ in'.event.text))
  | .released, _ => .error (supervisionRefusal .supervisionTerminal "the hold is released")

/-! ## Incidents -/

inductive IncidentEvent
  | raise
  | gateAccepted
  | escalate
  | concludeFailure
  | deadlineExpired
  | bulkClose
  | operatorResolve
  | operatorCancel
  | runCancelled
deriving DecidableEq

def IncidentEvent.text : IncidentEvent → String
  | .raise => "raise"
  | .gateAccepted => "gate-accepted"
  | .escalate => "escalate"
  | .concludeFailure => "conclude-failure"
  | .deadlineExpired => "deadline-expired"
  | .bulkClose => "bulk-close"
  | .operatorResolve => "operator-resolve"
  | .operatorCancel => "operator-cancel"
  | .runCancelled => "run-cancelled"

structure IncidentTransitionInput where
  incident : ReviewIncident := {}
  event : IncidentEvent := .raise
  actor : Actor := {}
  (reasonChangedOrThresholdCrossed actorScopeCoversRun matchingGateIncident : Bool := false)
  taskTerminallyFailed : Bool := false
  expectedRevision : Int := 0
deriving DecidableEq

variable (in' : IncidentTransitionInput)

def requireIncidentRevision (next : IncidentState) : Except Err IncidentState :=
  if in'.expectedRevision ≠ in'.incident.revision then
    .error (supervisionRefusal .supervisionStaleRevision
      ("resolution names incident revision " ++ toString in'.expectedRevision ++
        ", the incident is at " ++ toString in'.incident.revision))
  else .ok next

def requireRunScope : Except Err Unit :=
  match in'.actor.validate with
  | .error e => .error e
  | .ok () =>
    if !in'.actorScopeCoversRun then
      .error (supervisionRefusal .supervisionUnauthorizedActor
        "the actor's scope does not cover this run")
    else .ok ()

def resolveEscalated : Except Err IncidentState :=
  match in'.actor.validate with
  | .error e => .error e
  | .ok () =>
    if in'.actor.kind ≠ .operator then
      .error (supervisionRefusal .supervisionUnauthorizedActor
        "an escalation stays unresolved until operator action")
    else if in'.event = .operatorResolve then requireIncidentRevision in' .resolved
    else .ok .resolved

def incidentTransition : Except Err IncidentState :=
  let illegal := supervisionRefusal .supervisionIllegalTransition
    ("incident " ++ in'.incident.state.text ++ " cannot handle " ++ in'.event.text)
  if in'.incident.state = .resolved then
    .error (supervisionRefusal .supervisionTerminal "the incident is resolved")
  else if in'.event = .runCancelled ∧ in'.incident.state ≠ .unset then .ok .resolved
  else
    match in'.incident.state, in'.event with
    | .unset, .raise =>
      if in'.reasonChangedOrThresholdCrossed then .ok .open
      else
        .error (supervisionRefusal .supervisionPrerequisite
          "the normalized block reason did not change and no threshold was crossed")
    | .open, .gateAccepted =>
      if in'.matchingGateIncident then .ok .resolved
      else
        .error (supervisionRefusal .supervisionPrerequisite
          "a gate acceptance closes only its own incident")
    | .open, .escalate =>
      match requireRunScope in' with
      | .error e => .error e
      | .ok () => .ok .escalated
    | .open, .concludeFailure =>
      match requireRunScope in' with
      | .error e => .error e
      | .ok () =>
        if in'.taskTerminallyFailed then requireIncidentRevision in' .resolved
        else
          .error (supervisionRefusal .supervisionPrerequisite
            "conclude-failure needs an observed terminal task failure")
    | .open, .deadlineExpired => .ok .escalated
    | .open, .bulkClose =>
      .error (supervisionRefusal .supervisionPrerequisite
        "v1 resolves one named incident at a time")
    | .escalated, .operatorResolve | .escalated, .operatorCancel => resolveEscalated in'
    | .escalated, .concludeFailure | .escalated, .escalate =>
      if in'.actor.kind = .overseer then
        .error (supervisionRefusal .supervisionUnauthorizedActor
          "an escalation stays unresolved until operator action")
      else .error illegal
    | _, _ => .error illegal

/-! ## The rows a cancelled run takes -/

theorem gateTransition_runCancelled {gate : Gate} {actor : Actor} (h : gate.state ≠ .cancelled) :
    gateTransition { gate := gate, event := .runCancelled, actor := actor } = .ok .cancelled := by
  have hstate : (if gate.state = .unset then GateState.pendingEvidence else gate.state) ≠
    .cancelled := by
    split_ifs
    · decide
    · exact h
  simp [gateTransition, hstate]

theorem incidentTransition_runCancelled {incident : ReviewIncident} {actor : Actor} {revision : Int}
    (h : incident.state.unresolved = true) :
    incidentTransition
      { incident := incident, event := .runCancelled, actor := actor, expectedRevision := revision } =
        .ok .resolved := by
  unfold incidentTransition
  cases hs : incident.state <;> simp [hs, IncidentState.unresolved] at h ⊢

theorem holdTransition_release {hold : Hold} {actor : Actor} (hactive : hold.state = .active)
    (hoperator : actor.kind = .operator) (hprincipal : Text.blank actor.principal = false) :
    holdTransition { hold := hold, event := .release, actor := actor } = .ok .released := by
  simp [holdTransition, hactive, releaseHold, Actor.validate, hoperator, hprincipal]

theorem holdTransition_runSettled {hold : Hold} (hactive : hold.state = .active) :
    holdTransition { hold := hold, event := .runSettled } = .ok .released := by
  simp [holdTransition, hactive]

end Steward
