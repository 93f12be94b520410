import Steward.Watchdog.Bucket

/-!
# The quota policy

`internal/policy/policy.go`: the pure state machine of one bucket. A reading, a timer tick or a load
under new thresholds turns the stored state into a new one and a list of actions.
-/

namespace Steward.Watchdog

/-- Percent per minute over the readings of the rate window, and the time to exhaustion at that
rate, in exact numbers. -/
def exactRate (rateWindow : Duration) (recent : List Reading) (now : Time) : Rat × Option Duration :=
  let kept := recent.filter fun r => ¬r.at < now - rateWindow
  match recent.getLast?, kept.head? with
  | some last, some oldest =>
    let high := kept.foldl (fun high r => if high.used < r.used then r else high) last
    -- A burst of readings a few seconds apart is measured over the whole span to now.
    let span := if high.at - oldest.at < 2 * minute then now - oldest.at else high.at - oldest.at
    let rise := high.used - oldest.used
    if span < 2 * minute ∨ rise ≤ 0 then (0, none)
    else
      let rate := rise / ((span : Rat) / (minute : Rat))
      let remaining := 100 - high.used
      if remaining ≤ 0 then (rate, some 0) else (rate, some (remaining / rate * (minute : Rat)).floor)
  | _, _ => (0, none)

/-- The ladder of one bucket. `estimate` is the arithmetic of `burnRate`, which the source does in
float64: the theorems hold for every estimate, and runs on numbers use the exact one. -/
structure Thresholds where
  (warnPercent drainPercent stopPercent rearmPercent : Rat := 0)
  gracePeriod : Duration := 0
  rearmObservations : Int := 0
  (resetTolerance rateWindow warnETA drainETA resetExemption : Duration := 0)
  runwayMargin : Rat := 0
  hardStopETA : Duration := 0
  estimate : List Reading → Time → Rat × Option Duration := exactRate rateWindow

def extensionMargin : Rat := 5

namespace Thresholds

variable (t : Thresholds)

/-- The projection that stops below the stop threshold: two minutes unless configured. -/
def hardStop : Duration := if t.hardStopETA ≤ 0 then 2 * minute else t.hardStopETA

def applied : ThresholdSet :=
  { warnPercent := t.warnPercent, drainPercent := t.drainPercent, stopPercent := t.stopPercent }

def level (used : Rat) : Phase :=
  if t.stopPercent ≤ used then .stopped
  else if t.drainPercent ≤ used then .draining
  else if t.warnPercent ≤ used then .warned
  else .normal

def rateHistory : Duration := if t.rateWindow ≤ 0 then 10 * minute else t.rateWindow

/-- The projection from the last readings; it needs two of them. -/
def burnRate (recent : List Reading) (now : Time) : Rat × Option Duration :=
  if t.rateWindow ≤ 0 ∨ recent.length < 2 then (0, none) else t.estimate recent now

def runwayHolds (eta untilReset : Duration) : Bool :=
  (if t.runwayMargin ≤ 0 then 1 else t.runwayMargin) * (untilReset : Rat) ≤ (eta : Rat)

def etaLevel (eta : Duration) : Phase :=
  if eta ≤ t.hardStop then .stopped
  else if eta ≤ t.drainETA then .draining
  else if eta ≤ t.warnETA then .warned
  else .unset

def exempt (resetsAt : Option Time) (now : Time) : Bool :=
  resetsAt.any fun r => 0 < t.resetExemption ∧ 0 < r - now ∧ r - now ≤ t.resetExemption

def lasts (resetsAt : Option Time) (exhaustsIn : Option Duration) (now : Time) : Bool :=
  match resetsAt, exhaustsIn with
  | some r, some eta => 0 < t.rateWindow ∧ 0 < r - now ∧ t.runwayHolds eta (r - now)
  | _, _ => false

/-- The percentage ladder with the exhaustion ladder on top, and the strikes of the projection: it
needs two consecutive readings before it acts. -/
def wantedLevel (snap : QuotaSnapshot) (state : BucketState) (now : Time) : Phase × Int :=
  if t.exempt snap.resetsAt now ∨ t.lasts snap.resetsAt state.exhaustsIn now then
    (.normal, state.etaStrikes)
  else
    let level := t.level snap.usedPercent
    match state.exhaustsIn with
    | none => (level, state.etaStrikes)
    | some eta =>
      if t.warnPercent ≤ snap.usedPercent ∧ 0 < t.rateWindow ∧
          (snap.resetsAt.all fun r => eta < r - now) ∧ level.rank < (t.etaLevel eta).rank then
        if state.etaStrikes + 1 < 2 then (level, state.etaStrikes + 1)
        else (t.etaLevel eta, state.etaStrikes + 1)
      else (level, state.etaStrikes)

/-- Whether the reading belongs to a new window, or shows an extended quota. -/
def detectReset (snap : QuotaSnapshot) (prev : BucketState) : Bool :=
  match prev.resetsAt with
  | none => false
  | some resetsAt =>
    prev.observedAt ≠ 0 ∧
      (resetsAt < snap.observedAt ∨ (snap.resetsAt.any fun r => t.resetTolerance < r - resetsAt) ∨
        (prev.phase ≠ .normal ∧ snap.usedPercent < prev.usedPercent ∧
          snap.usedPercent < t.warnPercent - extensionMargin))

end Thresholds

def BucketState.rearmed (state : BucketState) (now : Time) : BucketState :=
  { state with
    recoveredAt := some now, phase := .normal, drainDeadline := none, stoppedAt := none
    probedAt := none, rearmObservations := 0 }

def snapshotFromState (st : BucketState) : QuotaSnapshot :=
  { key := st.key, limitName := st.limitName, usedPercent := st.usedPercent, resetsAt := st.resetsAt
    modelSelector := st.modelSelector, observedAt := st.observedAt, sourceEventID := st.lastEventID
    windowDuration := st.windowDuration }

def actionFor : Phase → ActionKind
  | .draining => .drain
  | .stopped => .stop
  | _ => .warn

namespace Thresholds

variable (t : Thresholds)

variable (snap : QuotaSnapshot) (state : BucketState)

variable (prev : BucketState) (now : Time)

/-- The rearms a reading causes: a new window, or usage that stayed low without a reset time. -/
def rearms : BucketState × List Action :=
  let rearm : Action := { kind := .rearm, bucket := snap.key, snapshot := snap }
  if t.detectReset snap state then
    (state.rearmed now, if state.phase ≠ .normal then [rearm] else [])
  else if state.phase ≠ .normal ∧ state.resetsAt = none then
    if snap.usedPercent < t.rearmPercent then
      if t.rearmObservations ≤ state.rearmObservations + 1 then (state.rearmed now, [rearm])
      else ({ state with rearmObservations := state.rearmObservations + 1 }, [])
    else ({ state with rearmObservations := 0 }, [])
  else (state, [])

def measured (reset : Bool) (state : BucketState) : BucketState :=
  let recent := (if reset then [] else state.recent) ++
    [{ «at» := snap.observedAt, used := snap.usedPercent }]
  let (rate, exhaustsIn) := t.burnRate recent snap.observedAt
  { state with
    recent := recent.dropWhile fun r => r.at < snap.observedAt - 2 * t.rateHistory
    ratePerMinute := rate
    exhaustsIn := exhaustsIn }

/-- Raise the bucket to the wanted level. Draining and stopped never fall within a window; a warning
falls once nothing asks for it. -/
def escalate (want : Phase) (state : BucketState) (now : Time) : BucketState × List Action :=
  let state :=
    if state.phase = .warned ∧ want = .normal ∧ snap.usedPercent < t.warnPercent then
      { state with phase := .normal }
    else state
  if state.phase.rank < want.rank then
    let state := { state with phase := want }
    let state :=
      if want = .draining then { state with drainDeadline := some (now + t.gracePeriod) }
      else if want = .stopped then { state with drainDeadline := none, stoppedAt := some now }
      else state
    (state, [{ kind := actionFor want, bucket := snap.key, snapshot := snap }])
  else (state, [])

def recorded : BucketState :=
  { state with
    windowDuration := snap.windowDuration
    limitName := snap.limitName
    modelSelector := snap.modelSelector
    usedPercent := snap.usedPercent
    resetsAt := snap.resetsAt
    epoch := epochFor snap.resetsAt
    observedAt := snap.observedAt
    lastEventID := snap.sourceEventID
    updatedAt := now
    healthy := state.phase = .normal ∧ snap.usedPercent < t.warnPercent
    appliedThresholds := some t.applied }

def stateFor : BucketState :=
  if prev.key = {} then { key := snap.key, phase := .normal } else prev

def refuses : Bool :=
  snap.key ≠ state.key ∨ (snap.sourceEventID ≠ "" ∧ snap.sourceEventID = state.lastEventID) ∨
    (state.observedAt ≠ 0 ∧ snap.observedAt < state.observedAt) ∨ snap.isExpired now

/-- The level an accepted reading asks for, with the rearmed and metered state it is judged on. A
reading without a projected level clears the strikes. -/
def judged : BucketState × Phase :=
  let metered := t.measured snap (t.detectReset snap state) (t.rearms snap state now).1
  let (want, strikes) := t.wantedLevel snap metered now
  ({ metered with etaStrikes := if strikes = metered.etaStrikes then 0 else strikes }, want)

def evaluate : Decision :=
  let state := stateFor snap prev
  if refuses snap state now then { state := prev, ignored := true }
  else
    let (struck, want) := t.judged snap state now
    let (raised, raise) := t.escalate snap want struck now
    { state := t.recorded snap raised now, actions := (t.rearms snap state now).2 ++ raise }

def rederive : Decision :=
  let want := t.level prev.usedPercent
  if prev.key = {} ∨ prev.phase = .normal ∨ prev.phase.rank ≤ want.rank then { state := prev }
  else
    { state :=
        { prev with
          phase := want
          stoppedAt := none
          drainDeadline := none
          probedAt := none
          etaStrikes := 0
          rearmObservations := 0
          recoveredAt := if want = .normal then some now else prev.recoveredAt
          healthy := want = .normal ∧ prev.usedPercent < t.warnPercent
          appliedThresholds := some t.applied
          updatedAt := now }
      actions :=
        [{ kind := .rearm, bucket := prev.key, snapshot := snapshotFromState prev
           epochUnchanged := true }] }

/-- A drain whose grace period expired becomes a stop, as for a reading: the last one at or above
the stop threshold, or an exhaustion projected under the floor. -/
def tick : Decision :=
  if prev.phase ≠ .draining ∨ (prev.drainDeadline.all fun deadline => now < deadline) then
    { state := prev }
  else if t.lasts prev.resetsAt prev.exhaustsIn now ∨ t.exempt prev.resetsAt now ∨
      (prev.usedPercent < t.stopPercent ∧ prev.exhaustsIn.all fun eta => t.hardStop < eta) then
    { state := { prev with drainDeadline := none, updatedAt := now }, ignored := true }
  else
    { state :=
        { prev with
          phase := .stopped, drainDeadline := none, stoppedAt := some now, healthy := false
          updatedAt := now }
      actions := [{ kind := .stop, bucket := prev.key, snapshot := snapshotFromState prev }] }

end Thresholds

end Steward.Watchdog
