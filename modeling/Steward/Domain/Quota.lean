import Steward.Domain.Orchestrator

/-!
# Quota pools and their admission

`QuotaPool` of `internal/domain/orchestrator.go` and the admission records of
`internal/domain/throttle.go`.
-/

namespace Steward

def AdmissionState.text : AdmissionState → String
  | .unset => ""
  | .open => "open"
  | .constrained => "constrained"
  | .draining => "draining"
  | .closed => "closed"
  | .recovering => "recovering"

structure BucketKey where
  (providerInstanceID accountID limitID window : String := "")
deriving DecidableEq

/-- How far the named buckets of a pool can be trusted. -/
inductive BucketSelection
  | unset
  | resolved
  | unknown
deriving DecidableEq

structure QuotaPool where
  checksDisabled : Bool := false
  (id provider accountID : String := "")
  providerInstanceIDs : List String := []
  buckets : List BucketKey := []
  bucketSelection : BucketSelection := .unset
  admission : AdmissionState := .unset
  (maxConcurrent activeAssignments : Int := 0)
deriving DecidableEq

def BucketKey.text (k : BucketKey) : String :=
  k.providerInstanceID ++ "/" ++ (if k.accountID = "" then "" else k.accountID ++ "/") ++
    k.limitID ++ "/" ++ k.window

structure QuotaBucketEpoch where
  bucket : BucketKey := {}
  epoch : String := ""
deriving DecidableEq

structure QuotaAdmissionRecord where
  quotaPoolID : String := ""
  revision : Int := 0
  admission : AdmissionState := .unset
  observedAt : Time := 0
  bucketEpochs : List QuotaBucketEpoch := []
  reason : String := ""
  appliedAt : Time := 0
deriving DecidableEq

end Steward
