import Steward.Domain.Orchestrator

/-!
# Errors

A Go error is its text together with the sentinel it wraps, when it wraps one: callers tell
errors apart by the sentinel (`errors.Is`), operators read the text.
-/

namespace Steward

inductive Sentinel
  | supervisionStaleRevision
  | supervisionPrerequisite
  | supervisionUnauthorizedActor
  | supervisionBudgetExhausted
  | supervisionTerminal
  | supervisionIllegalTransition
  | supervisionRequestConflict
  | supervisionRecordNotFound
  | supervisionNotConfigured
  | activationDispatch
  | supervisionBlocked
  | noRows
  | constraint
  | staleCoordinatorEpoch
  | staleWorkerSnapshot
  | workerUnavailable
  | executorCapacity
  | executorCapacityEvidence
  | staleAttemptRevision
  | staleWorkerStateTransition
  | staleWorkflowProjection
  | assignmentClaim
  | assignmentLeaseRenewal
  | adminCommandStateConflict
  | adminTargetNotFound
  | invalidAdminCommandOutcome
  | invalidUnknownRecovery
  | staleUnknownRecovery
  | workerCommand
  | workerAcknowledgement
  | taskWaitTerminalAttempt
  | taskWaitStaleRevision
  | taskWaitTurnNotLive
  | taskWaitForeignThread
  | taskWaitReplayChanged
  | taskWaitReplayCondition
  | taskWaitReplaySettled
  | taskWaitReplayNotParked
  | askApproverRequired
  | askAlreadyAnswered
  | askSettled
  | askAnswerRefused
  | staleTurnOutcomeAttemptRevision
  | staleThrottleAttemptRevision
  | staleQuotaAdmissionRevision
  | turnOutcomeWaiting
  | staleGraph
  | supervisionAmendmentRefused
deriving DecidableEq

structure Err where
  text : String
  sentinel : Option Sentinel := none
deriving DecidableEq

/-- Go's `%q` of a string with nothing to escape. -/
def quote (s : String) : String := "\"" ++ s ++ "\""

end Steward
