import Steward.Domain.Sink
import Steward.Domain.Throttle

/-!
# Audit events and operator recovery

`internal/domain/admin.go`: the audit record every production transition writes, and the operator's
resolution of an unknown assignment.
-/

namespace Steward

inductive AdminTargetType
  | unset
  | attempt
  | workflowRun
  | assignment
  | coordinator
  | worker
  | workerCommand
  | quotaPool
  | throttle
deriving DecidableEq

inductive UnknownRecoveryOutcome
  | unset
  | stopped
  | failed
deriving DecidableEq

structure UnknownAssignmentRecovery where
  (id assignmentID : String := "")
  (coordinatorEpoch expectedAssignmentEpoch expectedAttemptRevision : Int := 0)
  outcome : UnknownRecoveryOutcome := .unset
  (evidenceID evidenceSHA256 actor reason : String := "")
  recoveredAt : Time := 0
deriving DecidableEq

inductive AdminCommandState
  | unset
  | pending
  | applied
  | rejected
  | failed
deriving DecidableEq

def AdminCommandState.text : AdminCommandState → String
  | .unset => ""
  | .pending => "pending"
  | .applied => "applied"
  | .rejected => "rejected"
  | .failed => "failed"

def AdminTargetType.text : AdminTargetType → String
  | .unset => ""
  | .attempt => "attempt"
  | .workflowRun => "workflow-run"
  | .assignment => "assignment"
  | .coordinator => "coordinator"
  | .worker => "worker"
  | .workerCommand => "worker-command"
  | .quotaPool => "quota-pool"
  | .throttle => "throttle"

/-- A whole-run cancel, the one kind of admin command that is modelled, fenced on an unfinished
attempt of the run, or on the run itself when it has none. -/
structure AdminCommand where
  id : String := ""
  targetType : AdminTargetType := .unset
  targetID : String := ""
  expectedRevision : Int := 0
  (reason requestedBy : String := "")
  state : AdminCommandState := .unset
  failure : String := ""
  appliedAt : Option Time := none
deriving DecidableEq

structure AdminCommandApplication where
  commandID : String := ""
  expectedCommandState : AdminCommandState := .unset
  expectedTargetRevision : Int := 0
  attempt : Option Attempt := none
  relatedAttempts : List Attempt := []
  workflowRun : Option WorkflowRun := none
  state : AdminCommandState := .unset
  failure : String := ""
  appliedAt : Time := 0
deriving DecidableEq

def AdminCommandApplication.reject (application : AdminCommandApplication) (failure : String) :
    AdminCommandApplication :=
  { application with
    state := .rejected, failure := failure, attempt := none, relatedAttempts := []
    workflowRun := none }

structure NativeAuditDetail where
  coordinatorEpoch : Int := 0
  workerEpoch : String := ""
  (assignmentEpoch workerSequence expectedRevision revision : Int := 0)
  (idempotencyIdentity outcome : String := "")
deriving DecidableEq

inductive AuditDetail
  | none
  | native (detail : NativeAuditDetail)
  | unknownRecovery (recovery : UnknownAssignmentRecovery) (attempt : Attempt)
  | sinkSettled (sink : SinkTask)
  | quotaAdmission (transition : QuotaAdmissionTransition)
  | adminCommand (state : AdminCommandState) (expectedRevision : Int) (currentRevision : Option Int)
      (failure : String)
  | supervisionClosed (commandID : String)
      (resolvedIncidents cancelledGates releasedHolds : List String) (supervisionRevision : Int) (sinkSettled : Bool)
deriving DecidableEq

structure AuditEvent where
  (id kind workflowRunID taskID attemptID : String := "")
  targetType : AdminTargetType := .unset
  (targetID actor reason : String := "")
  detail : AuditDetail := .none
  createdAt : Time := 0
deriving DecidableEq

end Steward
