import Steward.Domain.Quota
import Mathlib.Data.Rat.Init

/-!
# Quota buckets

The watchdog's part of `internal/domain/domain.go`: the readings of a quota window, the stored state
machine of a bucket, the actions its policy asks for, and the threads and resume intents it acts on.
Percentages are rationals. The texts that only reach logs and the audit log are left out.
-/

namespace Steward.Watchdog

def minute : Duration := 60000000000

def second : Duration := 1000000000

/-- The position of a bucket in the policy state machine; `unset` is the zero value. -/
inductive Phase
  | unset
  | normal
  | warned
  | draining
  | stopped
deriving DecidableEq

def Phase.rank : Phase → Nat
  | .warned => 1
  | .draining => 2
  | .stopped => 3
  | _ => 0

structure QuotaSnapshot where
  key : BucketKey := {}
  limitName : String := ""
  usedPercent : Rat := 0
  windowDuration : Duration := 0
  resetsAt : Option Time := none
  modelSelector : String := ""
  observedAt : Time := 0
  sourceEventID : String := ""
deriving DecidableEq

def QuotaSnapshot.isExpired (s : QuotaSnapshot) (now : Time) : Bool := s.resetsAt.any (· ≤ now)

structure ThresholdSet where
  (warnPercent drainPercent stopPercent : Rat := 0)
deriving DecidableEq

structure Reading where
  «at» : Time := 0
  used : Rat := 0
deriving DecidableEq

structure BucketState where
  key : BucketKey := {}
  phase : Phase := .unset
  epoch : String := ""
  windowDuration : Duration := 0
  (limitName modelSelector : String := "")
  usedPercent : Rat := 0
  resetsAt : Option Time := none
  observedAt : Time := 0
  lastEventID : String := ""
  drainDeadline : Option Time := none
  rearmObservations : Int := 0
  healthy : Bool := false
  (recoveredAt stoppedAt : Option Time := none)
  updatedAt : Time := 0
  recent : List Reading := []
  ratePerMinute : Rat := 0
  exhaustsIn : Option Duration := none
  etaStrikes : Int := 0
  appliedThresholds : Option ThresholdSet := none
  probedAt : Option Time := none
deriving DecidableEq

def epochFor : Option Time → String
  | none => ""
  | some resetsAt => toString (resetsAt / second)

inductive ActionKind
  | warn
  | drain
  | stop
  | rearm
  | userResumed
deriving DecidableEq

structure Action where
  kind : ActionKind := .warn
  bucket : BucketKey := {}
  snapshot : QuotaSnapshot := {}
  epochUnchanged : Bool := false
deriving DecidableEq

/-- One policy evaluation. `ignored` says that a reading was refused, or that an expired grace
period does not stop anything. -/
structure Decision where
  state : BucketState := {}
  actions : List Action := []
  ignored : Bool := false
deriving DecidableEq

structure Thread where
  (id providerInstanceID model : String := "")
  running : Bool := false
  turnID : String := ""
  latestUserMessageAt : Option Time := none
  (hasPendingApprovals hasPendingUserInput : Bool := false)
  archivedAt : Option Time := none
deriving DecidableEq

/-- Go's `strings.ToLower`, on ASCII. -/
def lower (s : String) : String := String.ofList (s.toList.map Char.toLower)

def Thread.matchesBucket (t : Thread) (key : BucketKey) (modelSelector : String) : Bool :=
  t.providerInstanceID = key.providerInstanceID ∧
    (modelSelector = "" ∨ Text.contains (lower t.model) (lower modelSelector) = true)

inductive ResumeStatus
  | pending
  | eligible
  | resuming
  | resumed
  | cancelled
  | failed
deriving DecidableEq

structure ResumeIntent where
  (threadID providerInstanceID model : String := "")
  stoppedByWatchdog : Bool := false
  stoppedAt : Time := 0
  (stoppedTurnID stopGeneration : String := "")
  checkpointExpected : Bool := false
  status : ResumeStatus := .pending
  buckets : List BucketKey := []
  updatedAt : Time := 0
  resumedAt : Option Time := none
deriving DecidableEq

def ResumeIntent.considered (i : ResumeIntent) : Bool := i.status = .pending ∨ i.status = .eligible

end Steward.Watchdog
