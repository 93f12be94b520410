import Steward.Domain.SupervisionTransitions
import Steward.Lib.Except

/-!
# The activation state machine

`ActivationTransition` of `internal/domain/supervision.go`: the rows an overseer activation moves
by, and which raise its epoch or spend the activation budget. With it the rule of
`supervision_authority.go`: an overseer acts only while its activation is the run's current one,
active, under a live lease and before its deadline.
-/

namespace Steward

open Except

/-! ## Texts -/

def ActivationState.text : ActivationState → String
  | .unset => ""
  | .idle => "idle"
  | .pendingDispatch => "pending-dispatch"
  | .active => "active"
  | .spent => "spent"
  | .revoked => "revoked"
  | .recoveryRequired => "recovery-required"
  | .escalated => "escalated"
  | .closed => "closed"

def ActivationState.live : ActivationState → Bool
  | .pendingDispatch | .active => true
  | _ => false

inductive ActivationEvent
  | triggerFired
  | dispatchConfirmed
  | dispatchUndelivered
  | dispatchAmbiguous
  | decisionRecorded
  | limitReached
  | leaseExpired
  | operatorTakeover
  | threadLost
  | reconciliationAcknowledged
  | reconciliationAmbiguous
  | eventsArrived
  | runSettled
  | operatorContinuation
deriving DecidableEq

def ActivationEvent.text : ActivationEvent → String
  | .triggerFired => "trigger-fired"
  | .dispatchConfirmed => "dispatch-confirmed"
  | .dispatchUndelivered => "dispatch-undelivered"
  | .dispatchAmbiguous => "dispatch-ambiguous"
  | .decisionRecorded => "decision-recorded"
  | .limitReached => "limit-reached"
  | .leaseExpired => "lease-expired"
  | .operatorTakeover => "operator-takeover"
  | .threadLost => "thread-lost"
  | .reconciliationAcknowledged => "reconciliation-acknowledged"
  | .reconciliationAmbiguous => "reconciliation-ambiguous"
  | .eventsArrived => "events-arrived"
  | .runSettled => "run-settled"
  | .operatorContinuation => "operator-continuation"

/-! ## The machine -/

structure ActivationTransitionInput where
  activation : Activation := {}
  event : ActivationEvent := .triggerFired
  actor : Actor := {}
  (supervised inboxNonEmpty activationBudgetRemaining turnsRemaining : Bool := false)
  (otherValidActivation leaseValid : Bool := false)
  expectedEpoch : Int := 0
  (revisionMatches executionObserved runtimeProvenStopped recoveryComplete : Bool := false)
  operatorAuthorized : Bool := false
deriving DecidableEq

/-- The next state and epoch, whether the transition spent budget, and whether an operator granted a
fresh one. -/
structure ActivationTransitionResult where
  state : ActivationState := .unset
  epoch : Int := 0
  (countsTowardBudget freshBudget : Bool := false)
deriving DecidableEq

def Activation.current (a : Activation) : ActivationState :=
  if a.state = .unset then .idle else a.state

variable (in' : ActivationTransitionInput)

def wakeActivation : Except Err ActivationTransitionResult :=
  if !in'.supervised then
    .error (supervisionRefusal .supervisionPrerequisite "the run has no supervision record")
  else if !in'.inboxNonEmpty then
    .error (supervisionRefusal .supervisionPrerequisite "no pending supervision events to consume")
  else if in'.otherValidActivation then
    .error (supervisionRefusal .supervisionPrerequisite
      "another activation is already valid for this run")
  else if !in'.activationBudgetRemaining then
    .ok { state := .escalated, epoch := in'.activation.epoch }
  else .ok { state := .pendingDispatch, epoch := in'.activation.epoch }

def replacePendingDispatch : Except Err ActivationTransitionResult :=
  if !in'.operatorAuthorized ∨ in'.actor.kind ≠ .operator then
    .error (supervisionRefusal .supervisionUnauthorizedActor
      "only an operator may replace a pending dispatch")
  else if !in'.inboxNonEmpty then
    .error (supervisionRefusal .supervisionPrerequisite
      "reassessment requires a pending supervision event")
  else if !in'.activationBudgetRemaining then
    .ok { state := .escalated, epoch := in'.activation.epoch }
  else .ok { state := .pendingDispatch, epoch := in'.activation.epoch + 1 }

def recordActivationDecision : Except Err ActivationTransitionResult :=
  if !in'.leaseValid then
    .error (supervisionRefusal .supervisionPrerequisite "the activation lease is not live")
  else if in'.expectedEpoch ≠ in'.activation.epoch then
    .error (supervisionRefusal .supervisionStaleRevision
      ("decision names epoch " ++ toString in'.expectedEpoch ++ ", the activation is at " ++
        toString in'.activation.epoch))
  else if !in'.revisionMatches then
    .error (supervisionRefusal .supervisionStaleRevision
      "the decision's expected revision is not current")
  else if !in'.turnsRemaining then
    .error (supervisionRefusal .supervisionBudgetExhausted "no turns remain in this activation")
  else .ok { state := .active, epoch := in'.activation.epoch }

def takeOverActivation : Except Err ActivationTransitionResult :=
  match in'.actor.validate with
  | .error e => .error e
  | .ok () =>
    if in'.actor.kind ≠ .operator then
      .error (supervisionRefusal .supervisionUnauthorizedActor
        "only an operator may take over supervision")
    else .ok { state := .revoked, epoch := in'.activation.epoch + 1 }

def continueActivation : Except Err ActivationTransitionResult :=
  match in'.actor.validate with
  | .error e => .error e
  | .ok () =>
    if in'.actor.kind ≠ .operator ∨ !in'.operatorAuthorized then
      .error (supervisionRefusal .supervisionUnauthorizedActor
        "continuation needs explicit operator authorization")
    else .ok { state := .idle, epoch := in'.activation.epoch + 1, freshBudget := true }

/-- Settlement closes and an authorized continuation restarts an activation in every state but
`closed`; a state with no row for an event refuses it. -/
def activationTransition : Except Err ActivationTransitionResult :=
  let epoch := in'.activation.epoch
  if in'.activation.current = .closed then
    .error (supervisionRefusal .supervisionTerminal "the activation is closed")
  else
    match in'.event with
    | .runSettled => .ok { state := .closed, epoch := epoch }
    | .operatorContinuation => continueActivation in'
    | event =>
      match in'.activation.current, event with
      | .idle, .triggerFired => wakeActivation in'
      | .pendingDispatch, .eventsArrived => replacePendingDispatch in'
      | .pendingDispatch, .dispatchConfirmed =>
        if !in'.leaseValid then
          .error (supervisionRefusal .supervisionPrerequisite
            "dispatch was confirmed without a live lease")
        else .ok { state := .active, epoch := epoch, countsTowardBudget := true }
      | .pendingDispatch, .dispatchUndelivered =>
        if in'.executionObserved then
          .error (supervisionRefusal .supervisionPrerequisite
            "execution was observed, so the dispatch is not undelivered")
        else .ok { state := .pendingDispatch, epoch := epoch }
      | .pendingDispatch, .dispatchAmbiguous => .ok { state := .recoveryRequired, epoch := epoch }
      | .active, .decisionRecorded => recordActivationDecision in'
      | .active, .limitReached => .ok { state := .spent, epoch := epoch }
      | .active, .leaseExpired => .ok { state := .revoked, epoch := epoch }
      | .active, .operatorTakeover => takeOverActivation in'
      | .active, .threadLost =>
        if !in'.runtimeProvenStopped then .ok { state := .recoveryRequired, epoch := epoch }
        else
          .ok { state := .idle, epoch := epoch + 1, countsTowardBudget := in'.executionObserved }
      | .revoked, .reconciliationAcknowledged =>
        if !in'.recoveryComplete then
          .error (supervisionRefusal .supervisionPrerequisite
            "effect-safe recovery has not completed")
        else .ok { state := .idle, epoch := epoch + 1 }
      | .revoked, .reconciliationAmbiguous => .ok { state := .recoveryRequired, epoch := epoch }
      | .spent, .eventsArrived =>
        if !in'.activationBudgetRemaining then .ok { state := .escalated, epoch := epoch }
        else .ok { state := .idle, epoch := epoch + 1 }
      | state, event =>
        .error (supervisionRefusal .supervisionIllegalTransition
          ("activation " ++ state.text ++ " cannot handle " ++ event.text))

/-! ## Authority -/

def activationLeaseLive (activation : Activation) (now : Time) : Bool :=
  if Text.blank activation.leaseToken then false
  else
    match activation.leaseExpiresAt with
    | none => false
    | some expiry => now < expiry

def activationPastDeadline (activation : Activation) (now : Time) : Bool :=
  match activation.deadline with
  | none => false
  | some deadline => ¬now < deadline

/-- Whether an actor may act on a run's supervision: an operator always, an overseer only through
the run's current activation. -/
def authorizeSupervisionActor (record : SupervisionRecord) (activation : Activation) (actor : Actor)
    (now : Time) : Except Err Unit := do
  actor.validate
  if actor.kind = .operator then return ()
  refuseWhen (actor.kind ≠ .overseer) (supervisionRefusal .supervisionUnauthorizedActor
      ("actor kind " ++ quote actor.kind.text ++ " may not act on supervision"))
  refuseWhen (actor.activationEpoch ≠ record.activationEpoch)
    (supervisionRefusal .supervisionStaleRevision
      ("actor names activation epoch " ++ toString actor.activationEpoch ++ ", run " ++
        quote record.runID ++ " is at " ++ toString record.activationEpoch))
  refuseWhen (activation.runID ≠ record.runID ∨ activation.epoch ≠ record.activationEpoch)
    (supervisionRefusal .supervisionUnauthorizedActor
      ("run " ++ quote record.runID ++ " has no activation at epoch " ++
        toString record.activationEpoch))
  refuseWhen (activation.state ≠ .active) (supervisionRefusal .supervisionPrerequisite
      ("the activation is " ++ activation.state.text ++ ", not active"))
  refuseWhen (activation.purpose = .repair) (supervisionRefusal .supervisionUnauthorizedActor
      "a repair activation has no reviewer or hold authority")
  refuseWhen (!activationLeaseLive activation now) (supervisionRefusal .supervisionPrerequisite
      "the activation lease expired, so its decision authority is revoked")
  refuseWhen (activationPastDeadline activation now)
    (supervisionRefusal .supervisionPrerequisite "the activation passed its maximum elapsed time")

end Steward
