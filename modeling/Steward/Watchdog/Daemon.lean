import Steward.Lib.Process
import Steward.Watchdog.Policy
import Mathlib.Data.List.Sort

/-!
# The watchdog

`internal/daemon`: readings, grace timers, thread polls and the load-time re-derivation, as programs
of calls to the state store and to T3. Every call can fail, and the process can end between any two.
Other runners, notifications and log lines are left out, as is the audit log except where a failure
to write it ends an operation.
-/

namespace Steward.Watchdog

open Process

/-! ## Configuration -/

structure Override where
  (provider limitName window : String := "")
  minWindowDuration : Duration := 0
  (warnPercent drainPercent stopPercent : Option Rat := none)
  gracePeriod : Option Duration := none

structure WindowOverride where
  (label model : String := "")

/-- The settings the watchdog reads. `pathMatch` is Go's `path.Match`, a malformed pattern matching
nothing; `messageText` renders a notice, and can fail. -/
structure Config where
  quotaChecks : Bool := true
  thresholds : Thresholds := {}
  overrides : List Override := []
  windows : List (String × WindowOverride) := []
  ignoreWindows : List String := []
  maxSnapshotAge : Duration := 0
  dryRun : Bool := false
  controlAllowed : Bool := true
  stopMode : String := ""
  escalateToSessionStop : Bool := false
  stopVerifyTimeout : Duration := 0
  stopRetries : Int := 0
  stopNewSessions : Bool := false
  quotaStaleAfter : Duration := 0
  resumeEnabled : Bool := false
  belowPercent : Rat := 0
  (resetSettleDelay intervalBetweenThreads : Duration := 0)
  maxConcurrentPerProvider : Int := 0
  prompt : String := ""
  (maxIntentAge probeAfterReset : Duration := 0)
  pathMatch : String → String → Bool := fun pattern value => pattern = value
  messageText : ActionKind → QuotaSnapshot → BucketState → Duration → Time → Option String :=
    fun _ _ _ _ _ => some ""

namespace Config

variable (cfg : Config)

def glob (pattern value : String) : Bool := pattern = "" ∨
    cfg.pathMatch (lower pattern) (lower value) = true

def overrideMatches (o : Override) (key : BucketKey) (limitName : String) (duration : Duration) :
    Bool :=
  ¬(0 < o.minWindowDuration ∧ duration < o.minWindowDuration) ∧
    cfg.glob o.provider key.providerInstanceID ∧ cfg.glob o.window key.window ∧
    (o.limitName = "" ∨ cfg.glob o.limitName limitName ∨ cfg.glob o.limitName key.limitID)

def thresholdsFor (key : BucketKey) (limitName : String) (duration : Duration) : Thresholds :=
  match cfg.overrides.find? fun o => cfg.overrideMatches o key limitName duration with
  | none => cfg.thresholds
  | some o =>
    { cfg.thresholds with
      warnPercent := o.warnPercent.getD cfg.thresholds.warnPercent
      drainPercent := o.drainPercent.getD cfg.thresholds.drainPercent
      stopPercent := o.stopPercent.getD cfg.thresholds.stopPercent
      gracePeriod := o.gracePeriod.getD cfg.thresholds.gracePeriod }

def engineOf (st : BucketState) : Thresholds := cfg.thresholdsFor st.key st.limitName st.windowDuration

def ignoredWindow (window : String) : Bool :=
  cfg.ignoreWindows.any fun ignored =>
    ignored ≠ "" ∧ cfg.pathMatch (lower ignored) (lower window) = true

/-- The observation age past which a draining bucket is disregarded: an hour unless configured. -/
def quotaStaleThreshold : Duration :=
  if cfg.quotaStaleAfter ≤ 0 then 60 * minute else cfg.quotaStaleAfter

def staleDraining (st : BucketState) (now : Time) : Bool :=
  st.phase = .draining ∧ cfg.quotaStaleThreshold < now - st.observedAt

def relabelled (snap : QuotaSnapshot) : QuotaSnapshot :=
  match cfg.windows.lookup snap.key.window with
  | none => snap
  | some o =>
    { snap with
      limitName := if o.label = "" then snap.limitName else o.label
      modelSelector := if o.model = "" then snap.modelSelector else o.model }

end Config

def shippedConfig : Config where
  thresholds :=
    { warnPercent := 85, drainPercent := 90, stopPercent := 95, rearmPercent := 50
      gracePeriod := minute, rearmObservations := 2, resetTolerance := 5 * minute
      rateWindow := 10 * minute, warnETA := 30 * minute, drainETA := 15 * minute
      resetExemption := 10 * minute, runwayMargin := 1 }
  ignoreWindows := ["overage"]
  maxSnapshotAge := 720 * minute
  stopMode := "interrupt"
  escalateToSessionStop := true
  stopVerifyTimeout := 20 * second
  stopRetries := 3
  stopNewSessions := true
  resumeEnabled := true
  belowPercent := 50
  resetSettleDelay := 2 * minute
  intervalBetweenThreads := 45 * second
  maxConcurrentPerProvider := 1
  maxIntentAge := 20160 * minute
  probeAfterReset := 5 * minute

/-! ## Calls -/

structure ThreadOwners where
  (live settled : List (String × String) := [])
deriving DecidableEq

/-- What the watchdog, and the other processes that use its buckets, ask of the clock, the state
database, the worker journal and T3. A warning and a stop carry the bucket they are sent for. -/
inductive Call
  | now
  | owners
  | markEventSeen (eventID : String) (seenAt : Time)
  | loadBucket (key : BucketKey)
  | saveBucket (state : BucketState)
  | listBuckets
  | markThreadNotice (threadID : String) (bucket : BucketKey) (epoch : String) (kind : ActionKind)
      (noticeAt : Time)
  | threadNotices (bucket : BucketKey) (epoch : String) (kind : ActionKind)
  | clearThreadNotices (bucket : BucketKey)
  | loadResumeIntent (threadID : String)
  | saveResumeIntent (intent : ResumeIntent)
  | listResumeIntents
  | recordAction (bucket : BucketKey) (recordedAt : Time)
  | listThreads
  | verifyDeadline
  | warnThread (thread : Thread) (kind : ActionKind) (text : String) (cause : BucketKey)
  | stopThread (thread : Thread) (mode : String) (cause : BucketKey)
  | resumeThread (thread : Thread) (prompt : String)
deriving DecidableEq

/-- The answer to a call; `none` and `false` are failures. -/
abbrev Call.Reply : Call → Type
  | .now => Time
  | .owners => Option ThreadOwners
  | .markEventSeen .. | .markThreadNotice .. => Option Bool
  | .loadBucket .. => Option BucketState
  | .listBuckets => Option (List BucketState)
  | .threadNotices .. => Option (List (String × Time))
  | .loadResumeIntent .. => Option (Option ResumeIntent)
  | .listResumeIntents => Option (List ResumeIntent)
  | .listThreads => Option (List Thread)
  | .verifyDeadline => Bool
  | _ => Bool

abbrev Program := Process Call Call.Reply

def ask (c : Call) : Program c.Reply := request c

/-! ## Notices -/

def userMessageTolerance : Duration := 10 * second

def userResumedAfter (stoppedAt : Option Time) (t : Thread) : Bool :=
  match stoppedAt, t.latestUserMessageAt with
  | some stopped, some message => stopped + userMessageTolerance < message
  | _, _ => false

/-- Threads the watchdog may act on, and those the user resumed after the bucket's stop. -/
def splitUserResumed (threads : List Thread) (st : BucketState) :
    Program (List Thread × List Thread) :=
  if threads = [] then pure ([], [])
  else do
    let recorded ← ask (.threadNotices st.key st.epoch .userResumed)
    fold (fun (split : List Thread × List Thread) t =>
        if (((recorded : Option (List (String × Time))).getD []).lookup t.id).isSome then
          pure (split.1, split.2 ++ [t])
        else if !userResumedAfter st.stoppedAt t then pure (split.1 ++ [t], split.2)
        else do
          let _ ← ask (.markThreadNotice t.id st.key st.epoch .userResumed
            (t.latestUserMessageAt.getD 0))
          pure (split.1, split.2 ++ [t]))
      ([], []) threads

def unownedThreads (threads : List Thread) (owners : ThreadOwners) : List Thread :=
  threads.filter fun t => (owners.live.lookup t.id).isNone

def ownedThreads : Program ThreadOwners := do
  let owners ← ask .owners
  pure ((owners : Option ThreadOwners).getD {})

variable (cfg : Config)

/-! ## Intents -/

def stopIntent (t : Thread) (bucket : BucketKey) (now : Time) (drain : Bool)
    (existing : Option ResumeIntent) : ResumeIntent :=
  let intent : ResumeIntent :=
    { threadID := t.id, providerInstanceID := t.providerInstanceID, model := t.model
      stoppedByWatchdog := true, stoppedAt := now, stoppedTurnID := t.turnID
      stopGeneration := toString now, checkpointExpected := drain, status := .pending
      buckets := [bucket], updatedAt := now }
  match existing with
  | none => intent
  | some existing =>
    if existing.considered then
      { intent with
        buckets := bucket :: (existing.buckets.filter fun b => b ≠ bucket).eraseDups
        stoppedAt := existing.stoppedAt }
    else intent

def saveIntent (t : Thread) (bucket : BucketKey) (now : Time) (drain : Bool) : Program Unit := do
  let existing ← ask (.loadResumeIntent t.id)
  match (existing : Option (Option ResumeIntent)) with
  | none => pure ()
  | some existing => do
    let _ ← ask (.saveResumeIntent (stopIntent t bucket now drain existing))
    pure ()

/-! ## Acting on threads -/

variable (intent : ResumeIntent) (thread : Thread) (threads : List Thread) (a : Action)
  (state : BucketState) (states : List BucketState)

/-- Send one thread its notice, once per kind and epoch. A delivered drain request counts as a
stop. -/
def notifyThread (text : String) (t : Thread) : Program Unit := do
  let now ← ask .now
  let fresh ← ask (.markThreadNotice t.id a.bucket state.epoch a.kind now)
  if (fresh : Option Bool) ≠ some true ∨ cfg.controlAllowed = false then pure ()
  else do
    let sent ← ask (.warnThread t a.kind text a.bucket)
    if a.kind = .drain ∧ (sent : Bool) = true then do
      let now ← ask .now
      saveIntent t a.bucket now true
    else pure ()

def notifyThreads : Program Unit :=
  if threads = [] then pure ()
  else do
    let now ← ask .now
    let grace := (cfg.thresholdsFor a.bucket a.snapshot.limitName
      a.snapshot.windowDuration).gracePeriod
    match cfg.messageText a.kind a.snapshot state grace now with
    | none => pure ()
    | some text => each (notifyThread cfg a state text) threads

/-- Send the warn or drain message. A thread the user resumed after the stop only gets the
warning. -/
def warnThreads : Program Unit := do
  let split ← splitUserResumed threads state
  notifyThreads cfg split.1 a state
  notifyThreads cfg split.2 { a with kind := .warn } state

def stopNoticeEpoch (epoch : String) (t : Thread) : String :=
  if t.turnID = "" then epoch else epoch ++ "/" ++ t.turnID

def stillRunning (t : Thread) : Bool :=
  ((threads.filter fun cur => cur.id = t.id).getLast?).any Thread.running

/-- List the threads until every remaining one stopped or the timeout passed. A round waits two
seconds unless less is left, which bounds their number. -/
def waitStopped : Nat → List Thread → Program (List Thread)
  | 0, remaining => pure remaining
  | rounds + 1, remaining => do
    let threads ← ask .listThreads
    let remaining :=
      match (threads : Option (List Thread)) with
      | none => remaining
      | some threads => remaining.filter (stillRunning threads)
    let expired ← ask .verifyDeadline
    if remaining = [] ∨ (expired : Bool) = true then pure remaining else waitStopped rounds remaining

def verifyStops (mode : String) (cause : BucketKey) : Nat → List Thread → Program (List Thread)
  | 0, remaining => pure remaining
  | retries + 1, remaining =>
    if remaining = [] then pure []
    else do
      let remaining ← waitStopped ((cfg.stopVerifyTimeout / (2 * second)).toNat + 2) remaining
      if remaining = [] ∨ retries = 0 then pure remaining
      else do
        let mode := if cfg.escalateToSessionStop then "session-stop" else mode
        each (fun t => do let _ ← ask (.stopThread t mode cause); pure ()) remaining
        verifyStops mode cause retries remaining

variable (owners : ThreadOwners) (memory : Memory) (st : BucketState) (now : Time)

def stopTargets (threads : List Thread) : Program (List Thread) :=
  fold (fun targets t => do
      let fresh ← ask (.markThreadNotice t.id a.bucket (stopNoticeEpoch state.epoch t) .stop now)
      pure (if (fresh : Option Bool) = some true then targets ++ [t] else targets))
    [] threads

/-- The targets that kept running. Nothing is sent in a dry run; every target counts as stopped. -/
def unstopped (cause : BucketKey) (targets : List Thread) : Program (List Thread) :=
  if cfg.dryRun then pure [] else verifyStops cfg cfg.stopMode cause (cfg.stopRetries + 1).toNat
    targets

/-- Stop threads, verify that they left the running state, and record resume intents for those that
did. -/
def stopThreads : Program Unit := do
  let now ← ask .now
  let split ← splitUserResumed threads state
  let targets ← stopTargets a state now split.1
  if targets = [] ∨ cfg.controlAllowed = false then pure ()
  else do
    each (fun t => do let _ ← ask (.stopThread t cfg.stopMode a.bucket); pure ()) targets
    let remaining ← unstopped cfg a.bucket targets
    each (fun t =>
        if t.id ∈ remaining.map Thread.id then pure ()
        else do
          let now ← ask .now
          saveIntent t a.bucket now false)
      targets

def affectedThreads : Program (Option (List Thread)) := do
  let threads ← ask .listThreads
  match (threads : Option (List Thread)) with
  | none => pure none
  | some threads => do
    let owners ← ownedThreads
    pure (some ((unownedThreads threads owners).filter fun t =>
      t.running ∧ t.matchesBucket a.bucket a.snapshot.modelSelector))

def execute (a : Action) : Program Unit :=
  match a.kind with
  | .rearm =>
    if a.epochUnchanged then pure ()
    else do
      let _ ← ask (.clearThreadNotices a.bucket)
      pure ()
  | .userResumed => pure ()
  | kind => do
    let affected ← affectedThreads a
    match affected with
    | none | some [] => pure ()
    | some threads => if kind = .stop then stopThreads cfg threads a state else warnThreads cfg threads a state

/-! ## Readings and timers -/

def handleSnapshot (reading : QuotaSnapshot) : Program Unit := do
  let now ← ask .now
  let snap := cfg.relabelled reading
  if cfg.maxSnapshotAge < (now : Time) - snap.observedAt then pure ()
  else do
    let fresh ← ask (.markEventSeen (snap.sourceEventID ++ "#" ++ snap.key.window) now)
    if (fresh : Option Bool) ≠ some true then pure ()
    else do
      let prev ← ask (.loadBucket snap.key)
      match (prev : Option BucketState) with
      | none => pure ()
      | some prev =>
        let decision :=
          (cfg.thresholdsFor snap.key snap.limitName snap.windowDuration).evaluate snap prev now
        if decision.ignored then pure ()
        else do
          let saved ← ask (.saveBucket decision.state)
          if (saved : Bool) = false ∨ (cfg.ignoredWindow snap.key.window ∧ decision.actions ≠ []) ∨
              cfg.quotaChecks = false then pure ()
          else each (execute cfg decision.state) decision.actions

def windowPassed : Bool := st.resetsAt.any (· ≤ now)

/-- Lower every stored phase the loaded thresholds would not produce. -/
def rederive : Program Unit := do
  let states ← ask .listBuckets
  match (states : Option (List BucketState)) with
  | none => pure ()
  | some states => do
    let now ← ask .now
    each (fun st =>
        let decision := (cfg.engineOf st).rederive st now
        if st.phase = .normal ∨ windowPassed st now ∨ decision.actions = [] then pure ()
        else do
          let saved ← ask (.saveBucket decision.state)
          if (saved : Bool) = false then pure ()
          else each (execute cfg decision.state) decision.actions)
      states

def tickBucket (st : BucketState) : Program Unit :=
  if st.phase ≠ .draining then pure ()
  else
    let decision := (cfg.engineOf st).tick st now
    if decision.ignored then do
      let _ ← ask (.saveBucket decision.state)
      pure ()
    else if decision.actions = [] then pure ()
    else do
      let saved ← ask (.saveBucket decision.state)
      if (saved : Bool) = false then pure ()
      else each (execute cfg decision.state) decision.actions

def tickBuckets : Program Unit :=
  if cfg.quotaChecks = false then pure ()
  else do
    let states ← ask .listBuckets
    match (states : Option (List BucketState)) with
    | none => pure ()
    | some states => do
      let now ← ask .now
      each (tickBucket cfg now) states

/-! ## Resuming -/

/-- What the process remembers between polls: the last resume and the last probed reset of each
provider. -/
structure Memory where
  (lastResume probed : List (String × Time) := [])
deriving DecidableEq

def threadByID (id : String) : Option Thread :=
  (threads.filter fun t => t.id = id).getLast?

def stateByKey (key : BucketKey) : Option BucketState :=
  (states.filter fun st => st.key = key).getLast?

def applicableHealthy : Bool :=
  states.all fun st =>
    cfg.ignoredWindow st.key.window ∨ thread.matchesBucket st.key st.modelSelector = false ∨
      windowPassed st now ∨ st.healthy = true

def probeWindowOpen : Bool :=
  match st.resetsAt with
  | none => false
  | some resetsAt =>
    0 < cfg.probeAfterReset ∧ ¬now < resetsAt + (cfg.probeAfterReset + cfg.resetSettleDelay) ∧
      ¬resetsAt < st.observedAt

def bucketRecovered (stoppedAt : Time) (states : List BucketState) (now : Time)
    (probe : BucketState → Bool) (key : BucketKey) : Bool :=
  match stateByKey states key with
  | none => false
  | some st =>
    match st.recoveredAt.filter (stoppedAt < ·) with
    | none => probe st
    | some recoveredAt =>
      st.phase = .normal ∧ ¬cfg.belowPercent ≤ st.usedPercent ∧
        ¬now < recoveredAt + cfg.resetSettleDelay

/-- The resume rule: every bucket that caused the stop has recovered, and every other one that
applies is healthy. -/
def bucketsRecovered (stopped : List BucketKey) (stoppedAt : Time) (thread : Thread)
    (states : List BucketState) (now : Time) (probe : BucketState → Bool) : Bool :=
  stopped.all (bucketRecovered cfg stoppedAt states now probe) ∧
    applicableHealthy cfg thread states now

def probeAllowed (st : BucketState) : Bool :=
  probeWindowOpen cfg st now ∧
    (memory.probed.lookup st.key.providerInstanceID).all fun last => some last ≠ st.resetsAt

inductive CancelReason
  | owned
  | settled
  | deleted
  | archived
  | aged
  | userMessage
deriving DecidableEq

def messagedSince : Bool :=
  userResumedAfter (some intent.stoppedAt) thread

def cancelReason (thread : Option Thread) (owners : ThreadOwners) (now : Time) :
    Option CancelReason :=
  if (owners.live.lookup intent.threadID).isSome then some .owned
  else if (owners.settled.lookup intent.threadID).isSome then some .settled
  else
    match thread with
    | none => some .deleted
    | some thread =>
      if thread.archivedAt.isSome then some .archived
      else if cfg.maxIntentAge < now - intent.stoppedAt then some .aged
      else if cfg.dryRun = false ∧ messagedSince intent thread then some .userMessage
      else none

/-- Whether an intent that stands is left for a later poll without asking about quota. -/
def deferred : Bool :=
  (cfg.dryRun = false ∧ thread.running = true) ∨ cfg.resumeEnabled = false ∨
    thread.hasPendingApprovals = true ∨ thread.hasPendingUserInput = true

def judgeIntent (candidates : List ResumeIntent) (intent : ResumeIntent) :
    Program (List ResumeIntent) :=
  let thread := threadByID threads intent.threadID
  if (cancelReason cfg intent thread owners now).isSome then do
    let _ ← ask (.saveResumeIntent { intent with status := .cancelled, updatedAt := now })
    pure candidates
  else
    let thread := thread.getD {}
    if deferred cfg thread then pure candidates
    else if bucketsRecovered cfg intent.buckets intent.stoppedAt thread states now
        (probeAllowed cfg memory now) = false then do
      if intent.status = .eligible then do
        let _ ← ask (.saveResumeIntent { intent with status := .pending, updatedAt := now })
        pure candidates
      else pure candidates
    else if intent.status = .eligible then pure (candidates ++ [intent])
    else do
      let intent := { intent with status := .eligible, updatedAt := now }
      let saved ← ask (.saveResumeIntent intent)
      pure (if (saved : Bool) = true then candidates ++ [intent] else candidates)

def resumeOne : Program Unit :=
  if cfg.controlAllowed = false then pure ()
  else do
    let intent := { intent with status := .resuming, updatedAt := now }
    let saved ← ask (.saveResumeIntent intent)
    if (saved : Bool) = false then pure ()
    else do
      let sent ← ask (.resumeThread thread cfg.prompt)
      let intent :=
        if (sent : Bool) = true then { intent with status := .resumed, resumedAt := some now }
        else { intent with status := .failed }
      let _ ← ask (.saveResumeIntent intent)
      pure ()

def unconfirmedReset : Option Time :=
  st.resetsAt.filter fun resetsAt => ¬resetsAt < st.observedAt ∧ resetsAt < now

def probesOf : List (String × Time) :=
  intent.buckets.filterMap fun key =>
    ((stateByKey states key).bind fun st => unconfirmedReset st now).map fun resetsAt =>
      (key.providerInstanceID, resetsAt)

structure Batch where
  launched : List (String × Int) := []
  memory : Memory := {}
  aborted : Bool := false

def launchOne (batch : Batch) (intent : ResumeIntent) : Program Batch :=
  let provider := intent.providerInstanceID
  let launched := (batch.launched.lookup provider).getD 0
  if batch.aborted ∨ cfg.maxConcurrentPerProvider ≤ launched ∨
      (batch.memory.lastResume.lookup provider).any fun last => now - last <
      cfg.intervalBetweenThreads then
    pure batch
  else do
    let thread := (threadByID threads intent.threadID).getD {}
    let recheck ← ask .now
    if applicableHealthy cfg thread states recheck = false then pure { batch with aborted := true }
    else do
      resumeOne cfg intent thread now
      pure
        { batch with
          launched := (provider, launched + 1) :: batch.launched
          memory :=
            { lastResume := (provider, now) :: batch.memory.lastResume
              probed := (probesOf intent states now).reverse ++ batch.memory.probed } }

/-- Cancel stale intents, mark eligible ones, and resume them, one provider at a time. -/
def advanceResumes : Program Memory := do
  let intents ← ask .listResumeIntents
  match (intents : Option (List ResumeIntent)) with
  | none | some [] => pure memory
  | some intents => do
    let now ← ask .now
    let candidates ← fold (judgeIntent cfg threads states owners memory now) [] intents
    let batch ← fold (launchOne cfg threads states now) { memory := memory }
      (candidates.insertionSort fun a b => a.stoppedAt ≤ b.stoppedAt)
    pure batch.memory

/-! ## Polls -/

def pollBucket (stoppedAny : Bool) (st : BucketState) : Program Bool :=
  let running := (unownedThreads threads owners).filter fun t =>
    t.running ∧ t.matchesBucket st.key st.modelSelector
  let action (kind : ActionKind) : Action := { kind := kind, bucket := st.key, snapshot := snapshotFromState st }
  if cfg.quotaChecks = false ∨ st.phase = .normal ∨ cfg.ignoredWindow st.key.window ∨
      windowPassed st now ∨ cfg.staleDraining st now ∨ running = [] then pure stoppedAny
  else
    match st.phase with
    | .warned => do
      warnThreads cfg running (action .warn) st
      pure stoppedAny
    | .draining => do
      warnThreads cfg running (action .drain) st
      pure stoppedAny
    | .stopped =>
      if cfg.stopNewSessions = false then pure stoppedAny
      else do
        let split ← splitUserResumed running st
        if split.1 = [] then pure stoppedAny
        else do
          stopThreads cfg split.1 (action .stop) st
          pure true
    | _ => pure stoppedAny

def relist (stoppedAny : Bool) (threads : List Thread) : Program (Option (List Thread)) :=
  if stoppedAny then ask .listThreads else pure (some threads)

/-- Reconcile the threads: notices and stops for those that run under an escalated bucket, then the
resume intents. -/
def pollThreads : Program Memory := do
  let threads ← ask .listThreads
  match (threads : Option (List Thread)) with
  | none => pure memory
  | some threads => do
    let states ← ask .listBuckets
    match (states : Option (List BucketState)) with
    | none => pure memory
    | some states => do
      let now ← ask .now
      let owners ← ownedThreads
      let stoppedAny ← fold (pollBucket cfg threads owners now) false states
      let fresh ← relist stoppedAny threads
      match fresh with
      | none => pure memory
      | some threads =>
        if cfg.quotaChecks = false then pure memory
        else advanceResumes cfg threads states owners memory

/-! ## Operations -/

/-- What the watchdog does at a time. A start re-derives the stored phases and polls. -/
inductive Op
  | start
  | reading (snap : QuotaSnapshot)
  | tick
  | poll
deriving DecidableEq

def Op.program : Op → Program Memory
  | .start => do
    rederive cfg
    pollThreads cfg {}
  | .reading snap => do
    handleSnapshot cfg snap
    pure memory
  | .tick => do
    tickBuckets cfg
    pure memory
  | .poll => pollThreads cfg memory

end Steward.Watchdog
