import Mathlib.Data.Prod.Lex
import Mathlib.Data.String.Basic
import Steward.Domain.Quota

/-!
# Throttle directives, commands and their delivery

`internal/domain/throttle.go`. A directive asks every execution on a quota pool to warn, drain or
stop; the coordinator turns it into one command per affected attempt and keeps, under the directive
and the attempt, what became of it.
-/

namespace Steward

inductive ThrottleSeverity
  | unset
  | warn
  | drain
  | stop
deriving DecidableEq

def ThrottleSeverity.text : ThrottleSeverity → String
  | .unset => ""
  | .warn => "warn"
  | .drain => "drain"
  | .stop => "stop"

/-- A request to throttle a pool, made by the admission transition of one revision. -/
structure ThrottleDirective where
  (id quotaPoolID : String := "")
  admissionRevision : Int := 0
  severity : ThrottleSeverity := .unset
  bucketEpochs : List QuotaBucketEpoch := []
  reason : String := ""
  deadline : Option Time := none
  createdAt : Time := 0
deriving DecidableEq

structure QuotaAdmissionTransition where
  expectedRevision : Int := 0
  record : QuotaAdmissionRecord := {}
  directive : Option ThrottleDirective := none
deriving DecidableEq

inductive ThrottleCommandKind
  | unset
  | warn
  | drain
  | hardStop
  | resume
deriving DecidableEq

def ThrottleCommandKind.text : ThrottleCommandKind → String
  | .unset => ""
  | .warn => "warn"
  | .drain => "drain"
  | .hardStop => "hard-stop"
  | .resume => "resume"

inductive ThrottleDeliveryState
  | unset
  | pending
  | acknowledged
  | rejected
  | cancelled
deriving DecidableEq

def ThrottleDeliveryState.text : ThrottleDeliveryState → String
  | .unset => ""
  | .pending => "pending"
  | .acknowledged => "acknowledged"
  | .rejected => "rejected"
  | .cancelled => "cancelled"

inductive ThrottleAcknowledgementResult
  | unset
  | warned
  | checkpointed
  | checkpointFailed
  | stopped
  | resumed
deriving DecidableEq

def ThrottleAcknowledgementResult.text : ThrottleAcknowledgementResult → String
  | .unset => ""
  | .warned => "warned"
  | .checkpointed => "checkpointed"
  | .checkpointFailed => "checkpoint-failed"
  | .stopped => "stopped"
  | .resumed => "resumed"

structure CheckpointMetadata where
  (artifactID path sha256 : String := "")
  size : Int := 0
  capturedAt : Time := 0
deriving DecidableEq

structure AttentionStopCommand where
  coordinatorID : String := ""
  coordinatorEpoch : Int := 0
  (workflowRunID taskID : String := "")
  appliedRevision : Int := 0
  commandDigest : String := ""
deriving DecidableEq

structure ThrottleCommand where
  (id directiveID attemptID assignmentID : String := "")
  assignmentEpoch : Int := 0
  (workerID threadID workspacePath : String := "")
  route : ProviderRoute := {}
  kind : ThrottleCommandKind := .unset
  quotaPoolID : String := ""
  bucketEpochs : List QuotaBucketEpoch := []
  reason : String := ""
  deadline : Option Time := none
  checkpoint : Option CheckpointMetadata := none
  attentionStop : Option AttentionStopCommand := none
  createdAt : Time := 0
deriving DecidableEq

structure ThrottleAcknowledgement where
  (commandID attemptID : String := "")
  accepted : Bool := false
  result : ThrottleAcknowledgementResult := .unset
  checkpoint : Option CheckpointMetadata := none
  error : String := ""
  acknowledgedAt : Time := 0
deriving DecidableEq

structure ThrottleAttemptRecord where
  (directiveID attemptID : String := "")
  revision : Int := 0
  command : ThrottleCommand := {}
  priorCommandIDs : List String := []
  delivery : ThrottleDeliveryState := .unset
  result : ThrottleAcknowledgementResult := .unset
  control : ControlState := .unset
  checkpoint : Option CheckpointMetadata := none
  acknowledgedAt : Option Time := none
  failure : String := ""
  updatedAt : Time := 0
deriving DecidableEq

def ThrottleAttemptRecord.key (r : ThrottleAttemptRecord) : String ×ₗ String :=
  toLex (r.directiveID, r.attemptID)

structure ThrottleAttemptTransition where
  expectedRevision : Int := 0
  record : ThrottleAttemptRecord := {}
deriving DecidableEq

end Steward
