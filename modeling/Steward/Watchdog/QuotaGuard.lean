import Steward.Domain.Worker
import Steward.Watchdog.Daemon

/-!
# The worker's quota guard and the operator's rearm

`internal/workerruntime/quota_guard.go` and `internal/daemon/rearm.go`: the two other processes that
read and write the watchdog's buckets. The worker asks whether a route must pause and whether a
paused attempt may resume; a resume that no reading backs is recorded as a probe. The operator's
rearm sets a bucket to normal.
-/

namespace Steward.Watchdog

variable (cfg : Config)

/-! ## Pausing -/

structure PauseRequest where
  bucket : BucketKey := {}
  requestedAt : Time := 0
deriving DecidableEq

def routeThread (route : ProviderRoute) : Thread :=
  { providerInstanceID := route.providerInstanceID, model := route.model }

/-- The draining or stopped bucket that governs a thread right now; the most severe one wins, and
the first of equals. -/
def governingPause (thread : Thread) (states : List BucketState) (now : Time) : Option BucketState :=
  (states.filter fun st =>
      (st.phase = .draining ∨ st.phase = .stopped) ∧ cfg.ignoredWindow st.key.window = false ∧
        thread.matchesBucket st.key st.modelSelector = true ∧ windowPassed st now = false ∧
        cfg.staleDraining st now = false).foldl
    (fun governing st =>
      match governing with
      | none => some st
      | some g => if g.phase.rank < st.phase.rank then some st else some g)
    none

variable (st : BucketState) (now : Time)

/-- A probe was sent for the bucket's epoch and no reading has arrived since, within the time a
probe is given. -/
def probeOutstanding : Bool :=
  st.probedAt.any fun probedAt => ¬probedAt < st.observedAt ∧ now < probedAt + cfg.probeAfterReset

/-- The bucket that requires an attempt of this route to pause; `none` is a failure to read. -/
def pauseRequired (route : ProviderRoute) : Program (Option (Option BucketState)) :=
  if cfg.quotaChecks = false then pure (some none)
  else do
    let states ← ask .listBuckets
    match (states : Option (List BucketState)) with
    | none => pure none
    | some states => do
      let now ← ask .now
      pure (some (governingPause cfg (routeThread route)
        (states.filter fun st => probeOutstanding cfg st now = false) now))

/-! ## Resuming -/

/-- Whether a bucket that has not recovered may be probed at all: stopped below the stop threshold,
not probed in this epoch, with an old reading. -/
def probeDue : Bool :=
  st.phase = .stopped ∧ 0 < cfg.probeAfterReset ∧ st.probedAt = none ∧
    ¬(cfg.engineOf st).stopPercent ≤ st.usedPercent ∧ ¬now - st.observedAt < cfg.probeAfterReset

/-- Probe a bucket: when nothing on the host would produce a reading, one paused attempt is resumed
and the probe is recorded on the bucket. `none` is a failure. -/
def probe : Program (Option Bool) :=
  if probeDue cfg st now = false then pure (some false)
  else do
    let threads ← ask .listThreads
    match (threads : Option (List Thread)) with
    | none => pure none
    | some threads =>
      if threads.any fun t => t.running ∧ t.matchesBucket st.key st.modelSelector then pure (some false)
      else do
        let saved ← ask (.saveBucket { st with probedAt := some now, updatedAt := now })
        if (saved : Bool) = false then pure none
        else do
          let recorded ← ask (.recordAction st.key now)
          pure (if (recorded : Bool) = true then some true else none)

/-- Whether the bucket that paused an attempt has recovered under the watchdog's rules, or may be
probed by resuming; `none` is a failure. -/
def resumeAllowed (pause : PauseRequest) (route : ProviderRoute) : Program (Option Bool) :=
  if cfg.quotaChecks = false then pure (some true)
  else do
    let states ← ask .listBuckets
    match (states : Option (List BucketState)) with
    | none => pure none
    | some states => do
      let now ← ask .now
      if bucketsRecovered cfg [pause.bucket] pause.requestedAt (routeThread route) states now
          (fun st => probeWindowOpen cfg st now) then pure (some true)
      else
        match stateByKey states pause.bucket with
        | none => pure (some false)
        | some st => probe cfg st now

/-! ## The operator's rearm -/

structure RearmRequest where
  key : BucketKey := {}
  reason : String := ""
  force : Bool := false
deriving DecidableEq

def operatorRearmed (before : BucketState) (now : Time) : BucketState :=
  { before with
    phase := .normal
    recoveredAt := some now
    stoppedAt := none
    drainDeadline := none
    probedAt := none
    etaStrikes := 0
    rearmObservations := 0
    healthy := before.usedPercent < (cfg.engineOf before).warnPercent
    updatedAt := now }

/-- Apply one operator rearm at a time; the result says whether it was done. A bucket at or above
the stop threshold is refused without force. -/
def rearmBucket (req : RearmRequest) (now : Time) : Program Bool :=
  if Text.blank req.reason then pure false
  else do
    let states ← ask .listBuckets
    match (states : Option (List BucketState)) with
    | none => pure false
    | some states =>
      match stateByKey states req.key with
      | none => pure false
      | some before =>
        if (cfg.engineOf before).stopPercent ≤ before.usedPercent ∧ req.force = false then pure false
        else do
          let saved ← ask (.saveBucket (operatorRearmed cfg before now))
          if (saved : Bool) = false then pure false
          else do
            let cleared ← ask (.clearThreadNotices req.key)
            if (cleared : Bool) = false then pure false else ask (.recordAction req.key now)

end Steward.Watchdog
