import Steward.Worker.Journal

/-!
# The worker runtime: one attempt

`internal/workerruntime`: preparing, dispatching, collecting and stopping one attempt, and the end
of a turn, as programs of calls to the journal, the registry of running collections, the host's
quota state and the execution driver. Any call can fail, and the process can end between any two.
The driver is the production one, with every optional check; an observation made with the worker
lock released may have no answer yet. Continuation snapshots, session titles, deferral and turn-end
notes and log lines are left out, and long texts are not cut.
-/

namespace Steward.Worker

open Process

/-! ## Calls -/

/-- What an observation reports instead of a thread state: T3 gave no answer, or the contained run
has ended with a known cause. -/
inductive ObserveError
  | unavailable (text : String)
  | ended (failure text : String)
deriving DecidableEq

/-- A failed preparation; of one with unproven custody nothing is known. -/
inductive PrepareError
  | custody (text : String)
  | failed (text : String)
deriving DecidableEq

inductive Published
  | ok
  | settleUnproven
  | failed (text : String)
deriving DecidableEq

/-- The outcome of one collection: published, refused for good by its size or its secrets, lost with
the work it was to capture, or to be tried again. -/
inductive CollectOutcome
  | ok
  | settleUnproven
  | permanent (secret : Bool) (text : String)
  | lost (failure : String)
  | deferred (text : String)
deriving DecidableEq

structure ProviderTurnError where
  (kind detail : String := "")
deriving DecidableEq

/-- The calls of one attempt to the execution driver. A resume says whether the worker resumes a
pause of its own or carries out a command. -/
inductive DriverCall
  | prepare
  | inspectWorkspace
  | observeThread
  | observeThreadTurn
  | createThread (workspace : String)
  | stopThread
  | stopPreparation
  | collectFailure (workspace failure : String)
  | settle
  | cleanup (workspace : String)
  | warn (command : ThrottleCommand)
  | checkpoint (command : ThrottleCommand)
  | requestQuotaDrain (command : ThrottleCommand)
  | readQuotaCheckpoint
  | quotaPauseCompleted (turnID : String)
  | resume (command : ThrottleCommand) (own : Bool)
  | providerTurnError
  | resumeAfterProviderError (token : String) (state : ProviderResumeRecord)
  | liveCommands (workspace : String)
  | nudgeLiveCommands (token : String)
  | snapshotWorkInProgress (workspace : String)
deriving DecidableEq

/-- The answers of the driver. An outer `none` is an observation that is not made yet; live commands
that cannot be looked for are `none`. -/
abbrev DriverCall.Reply : DriverCall → Type
  | .prepare => Except PrepareError String
  | .inspectWorkspace => Option (Except String (String × Bool))
  | .observeThread => Except ObserveError ThreadState
  | .observeThreadTurn => Option (Except String (ThreadState × String))
  | .collectFailure .. => Published
  | .checkpoint .. => Except String (Option CheckpointMetadata)
  | .readQuotaCheckpoint => Option CheckpointMetadata
  | .quotaPauseCompleted .. => Option (Except String Bool)
  | .providerTurnError => Except String (Option ProviderTurnError)
  | .liveCommands .. => Option (List String)
  | .snapshotWorkInProgress .. => String
  | _ => Except String Unit

/-- The collection of one execution, in the registry of the process. The journal keeps a record
under the assignment it is for. -/
structure FlightKey where
  assignmentID : String
  epoch : Int
  attemptID : String
deriving DecidableEq

def flightKey (id : String) (r : AttemptRecord) : FlightKey :=
  { assignmentID := id, epoch := r.assignment.epoch, attemptID := r.pkg.identity.attemptID }

structure ParkedStatement where
  reported : Bool := false
  observedAt : Time := 0
  acknowledgedSequence : Int := 0
  parked : List (String × ParkedAssignment) := []
deriving DecidableEq

/-- What the runtime asks of its clock, its journal, its process, the host and the driver. -/
inductive Call
  | now
  | sequence
  | attempts
  | load (id : String)
  | update (id : String) (moves : Bool) (change : Int → AttemptRecord → Option AttemptRecord)
  | remove (id : String) (gone : AttemptRecord → Bool)
  | statement
  | applyPolicy (policy : Option ProviderResumePolicy)
  | applyParked (request : SnapshotRequest) (now : Time)
  | report (now : Time)
  | providerResume
  | failuresRedacted
  | setFailuresRedacted
  | redact (id text : String)
  | registered (key : FlightKey)
  | join (key : FlightKey)
  | register (key : FlightKey)
  | launch (key : FlightKey)
  | release (key : FlightKey)
  | host (call : Watchdog.Call)
  | driver (id : String) (pkg : ExecutionPackage) (call : DriverCall)

/-- The answers; a journal call that fails replies `none` or `false`, and a collection that has not
ended has no outcome. -/
abbrev Call.Reply : Call → Type
  | .now => Time
  | .sequence => Option Int
  | .attempts => Option (List AttemptRecord)
  | .load _ => Option (Option AttemptRecord)
  | .update .. => Option Updated
  | .statement => Option ParkedStatement
  | .providerResume => Option ProviderResumePolicy
  | .redact .. => Option String
  | .join _ | .launch _ => Option CollectOutcome
  | .setFailuresRedacted | .register _ | .release _ => Unit
  | .host c => c.Reply
  | .driver _ _ c => c.Reply
  | .remove .. | .applyPolicy _ | .applyParked .. | .report _ | .failuresRedacted | .registered
      _ => Bool

/-- Why a step gives up: the journal failed, which ends a pass; the attempt is on record as failed
already; anything else is tried again by a later pass. -/
inductive Fault
  | journal
  | attemptFailed
  | deferred (text : String)
deriving DecidableEq

def Fault.text : Fault → String
  | .journal => "worker journal: unavailable"
  | .attemptFailed => "attempt failed while observing its execution"
  | .deferred text => text

abbrev Task := Fallible Fault Call Call.Reply

def ask (c : Call) : Task c.Reply := Fallible.request c

def fail {α : Type} (f : Fault) : Task α := Fallible.fail f

def attempt {α : Type} (t : Task α) : Task (Except Fault α) := Fallible.attempt t

def onlyIf (c : Prop) [Decidable c] (t : Task Unit) : Task Unit := if c then t else pure ()

def succeed (reply : Except String Unit) (context : String) : Task Unit :=
  match reply with
  | .ok () => pure ()
  | .error text => fail (.deferred (context ++ text))

/-- The settings of a worker. `digest` is the digest an attention stop is bound to; `summary` and
`describe` render a quota pause. -/
structure Config where
  watchdog : Watchdog.Config := {}
  quota : Bool := true
  (workerID workerEpoch : String := "")
  coordinatorEpoch : Int := 0
  pauseEscalation : Duration := 0
  providerResumeBackoff : List Duration := []
  (snapshotTTL retention : Duration := 0)
  digest : ThrottleCommand → String := fun command => command.id
  summary : Watchdog.BucketState → String := fun st => st.key.text
  describe : LocalThrottleRequest → String := fun request => request.reason

variable (cfg : Config)

/-! ## The journal -/

variable (id : String) (r : AttemptRecord) (turnID : String)

def currentRecord : Task (Option AttemptRecord) := do
  match ← ask (.load id) with
  | none => fail .journal
  | some r => pure r

def recordOf : Task AttemptRecord := do
  match ← currentRecord id with
  | none => fail .journal
  | some r => pure r

def update (id : String) (moves : Bool) (change : Int → AttemptRecord → Option AttemptRecord) :
    Task Updated := do
  match ← ask (.update id moves change) with
  | none => fail .journal
  | some updated => pure updated

def modify (change : AttemptRecord → Option AttemptRecord) : Task Unit := do
  let _ ← update id true fun _ r => change r
  pure ()

def amend (change : AttemptRecord → Option AttemptRecord) : Task Unit := do
  let updated ← update id true fun _ r => change r
  if updated.before.isNone then fail .journal else pure ()

def withheldFailure : String :=
  "failure reason withheld: the result secret scan could not check it for credentials"

def recordableFailure (text : String) : Task String :=
  if text = "" then pure ""
  else do
    let redacted ← ask (.redact id text)
    pure ((redacted : Option String).getD withheldFailure)

def writePhase (phase : Phase) (failure workspace thread : String) : Task Unit := do
  let now ← ask .now
  amend id fun r => some (r.enter phase failure workspace thread now)

def markPhase (phase : Phase) (failure workspace thread : String) : Task Unit := do
  let failure ← recordableFailure id failure
  writePhase id phase failure workspace thread

def markUnknown (detail : String) : Task Unit := do
  let detail ← recordableFailure id detail
  writePhase id .unknown detail "" ""

def markFailed (detail : String) : Task Unit := do
  match ← currentRecord id with
  | none => fail (.deferred "failed assignment missing from journal")
  | some r => do
    let stopped ← ask (.driver id r.pkg .stopPreparation)
    succeed stopped ""
    let detail ← recordableFailure id detail
    writePhase id .failed detail "" ""

def observeThread (id : String) (pkg : ExecutionPackage) : Task ThreadState := do
  match ← ask (.driver id pkg .observeThread) with
  | .ok state => pure state
  | .error (.unavailable text) => fail (.deferred text)
  | .error (.ended failure text) => do
    match ← attempt (markFailed id failure) with
    | .ok () => fail .attemptFailed
    | .error .journal => fail .journal
    | .error e => fail (.deferred (text ++ "; failing the attempt deferred: " ++ e.text))

def noteThreadState (observed : ThreadState) : Task Unit := do
  let _ ← update id false fun _ r =>
    if r.observedThreadState = some observed then none
    else some { r with observedThreadState := some observed }
  pure ()

/-! ## Preparing and dispatching -/

def maxPrepareAttempts : Nat := 3

def preparationLogName (attemptID : String) (ordinal : Nat) : String :=
  attemptID ++ ".preparation." ++ toString ordinal ++ ".log"

def setPrepareAttempts (attempts : Nat) : Task Unit := do
  let now ← ask .now
  modify id fun r =>
    if r.prepareAttempts = attempts then none
    else some { r with prepareAttempts := attempts, updatedAt := now }

/-- An earlier preparation left no cause: the worker restarted before it was recorded. -/
def AttemptRecord.lostFirstFailure : Bool :=
  r.firstPrepareFailure = "" ∧ 0 < r.prepareAttempts

def firstFailure (text : String) : Task String :=
  if r.firstPrepareFailure = "" ∧ r.lostFirstFailure = false then recordableFailure id text
  else pure r.firstPrepareFailure

/-- A preparation failed. A spent budget fails the attempt and quotes the first failure. -/
def prepareFailed (attempts : Nat) (text : String) : Task Unit := do
  let first ← firstFailure id r text
  if maxPrepareAttempts ≤ attempts then
    let quoted :=
      if r.lostFirstFailure then
        "not retained, the worker restarted before it was recorded; read " ++
          preparationLogName r.pkg.identity.attemptID 1
      else first
    markFailed id ("preparation failed " ++ toString attempts ++ " times; first error: " ++
      quoted ++ "; last error: " ++ text)
  else do
    let failure ← recordableFailure id ("preparation failed: " ++ text)
    let now ← ask .now
    modify id fun current =>
      some { current with
        prepareAttempts := attempts
        firstPrepareFailure :=
          if current.firstPrepareFailure = "" then first else current.firstPrepareFailure
        failure := failure
        updatedAt := now }
    fail (.deferred ("preparation attempt " ++ toString attempts ++ " failed: " ++ text))

/-- Run one preparation. It is counted before it runs, and a preparation nothing is known of is not
counted. -/
def prepareOnce : Task Unit := do
  setPrepareAttempts id (r.prepareAttempts + 1)
  match ← ask (.driver id r.pkg .prepare) with
  | .error (.custody text) => do
    setPrepareAttempts id r.prepareAttempts
    fail (.deferred text)
  | .error (.failed text) => prepareFailed id r (r.prepareAttempts + 1) text
  | .ok workspace =>
    if Text.blank workspace then markFailed id "preparation returned an empty workspace"
    else markPhase id .prepared "" workspace ""

def prepare (id : String) : Task Unit := do
  let r ← recordOf id
  match r.phase with
  | .prepared | .running | .stopped | .completed | .dispatching | .collecting => pure ()
  | .claimed => do
    markPhase id .preparing "" "" ""
    prepareOnce id r
  | .preparing => prepareOnce id r
  | phase => fail (.deferred ("prepare is invalid in phase \"" ++ phase.text ++ "\""))

def expireExecution : Task Unit := do
  onlyIf (r.phase ≠ .stopping) (markPhase id .stopping "task timeout expired" r.workspacePath
    r.threadID)
  match ← ask (.driver id r.pkg .stopThread) with
  | .error _ => pure ()
  | .ok () => do
    match ← attempt (observeThread id r.pkg) with
    | .ok .stopped | .ok .missing => markFailed id "task timeout expired; execution stopped"
    | _ => pure ()

def expireTask : Task Unit :=
  match r.phase with
  | .claimed | .preparing | .prepared => markFailed id "task timeout expired before dispatch"
  | _ => expireExecution id r

def createThread (id : String) (r : AttemptRecord) : Task Unit := do
  let thread := r.pkg.identity.threadID
  match ← ask (.driver id r.pkg (.createThread r.workspacePath)) with
  | .error text => do
    match ← attempt (observeThread id r.pkg) with
    | .ok .active => markPhase id .running "" r.workspacePath thread
    | .ok .stopped => markPhase id .stopped "" r.workspacePath thread
    | .ok .missing => markFailed id ("T3 thread creation failed: " ++ text)
    | .error .attemptFailed => pure ()
    | _ => markUnknown id ("T3 create outcome is ambiguous: " ++ text)
  | .ok () => do
    match ← attempt (observeThread id r.pkg) with
    | .error .attemptFailed => pure ()
    | .error e => markUnknown id ("T3 create could not be proven: " ++ e.text)
    | .ok .missing => markUnknown id "T3 create could not be proven"
    | .ok _ => markPhase id .running "" r.workspacePath thread

def reconcileDispatch : Task Unit := do
  let r ← recordOf id
  match ← attempt (observeThread id r.pkg) with
  | .error e => fail (.deferred ("T3 observation unavailable before dispatch: " ++ e.text))
  | .ok .active => markPhase id .running "" r.workspacePath r.pkg.identity.threadID
  | .ok .stopped => markPhase id .stopped "" r.workspacePath r.pkg.identity.threadID
  | .ok .missing => createThread id r
  | .ok .created => markUnknown id "T3 returned an unknown dispatch state"

def dispatchPrepared : Task Unit := do
  let now ← ask .now
  if r.taskTimeoutExpired now then expireTask id r
  else if r.phase ≠ .prepared ∧ r.phase ≠ .dispatching then
    fail (.deferred ("dispatch is invalid in phase \"" ++ r.phase.text ++ "\""))
  else do
    onlyIf (r.phase ≠ .dispatching) (markPhase id .dispatching "" r.workspacePath "")
    reconcileDispatch id

def dispatch : Task Unit := do
  let r ← recordOf id
  match r.phase with
  | .running | .stopped | .stopping | .waiting | .collecting | .completed | .failed => pure ()
  | .claimed | .preparing => do
    prepare id
    let r ← recordOf id
    if r.phase ≠ .prepared then pure () else dispatchPrepared id r
  | _ => dispatchPrepared id r

def dispatchIfPrepared : Task Unit := do
  let r ← recordOf id
  if r.phase ≠ .prepared then pure () else dispatch id

/-! ## Collecting -/

/-- The journal still names the attempt a collection was started for as collecting. -/
def collectionClaimed : Task Bool := do
  let current ← currentRecord id
  pure (current.any fun current => sameCollection current r)

def collectionRunning : String :=
  "finalization is still running from an earlier pass; its result is taken on a later one"

/-- Run the collection of an attempt once at a time. Without a result there is nothing left to
collect. -/
def collectOnce : Task (Option CollectOutcome) := do
  if ← ask (.registered (flightKey id r)) then do
    match ← ask (.join (flightKey id r)) with
    | none => fail (.deferred ("collection deferred: " ++ collectionRunning))
    | some outcome => pure (some outcome)
  else do
    let _ ← ask (.register (flightKey id r))
    match ← attempt (collectionClaimed id r) with
    | .error e => do
      let _ ← ask (.release (flightKey id r))
      fail e
    | .ok false => do
      let _ ← ask (.release (flightKey id r))
      pure none
    | .ok true => do
      match ← ask (.launch (flightKey id r)) with
      | none => fail (.deferred ("collection deferred: " ++ collectionRunning ++ " (started this pass)"))
      | some outcome => pure (some outcome)

/-- The failure of a finished collection decides the attempt, unless it is no longer that collection
or has a stop. -/
def AttemptRecord.collectionFailed (current r : AttemptRecord) (failure : String) (now : Time) :
    Option AttemptRecord :=
  if sameCollection current r = false ∨ current.hasCommandRequest .stop = true then none
  else some { current with phase := .failed, failure := failure, updatedAt := now }

/-- Record the failure of a collection that cannot succeed; the result says whether it was still the
attempt's. -/
def failFinishedCollection (failure : String) : Task Bool := do
  if ← collectionClaimed id r then do
    let stopped ← ask (.driver id r.pkg .stopPreparation)
    succeed stopped ""
    let now ← ask .now
    modify id fun current => current.collectionFailed r failure now
    let _ ← ask (.release (flightKey id r))
    pure true
  else do
    let _ ← ask (.release (flightKey id r))
    pure false

def AttemptRecord.collectionCompleted (current r : AttemptRecord) (settleUnproven : Bool)
    (now : Time) : Option AttemptRecord :=
  if sameCollection current r = false then none
  else
    some { current with
      phase := .completed
      failure := ""
      settlePending := settleUnproven
      workspacePath := if r.workspacePath = "" then current.workspacePath else r.workspacePath
      threadID := if r.threadID = "" then current.threadID else r.threadID
      updatedAt := now }

def completeCollection (settleUnproven : Bool) : Task Unit := do
  let now ← ask .now
  modify id fun current => current.collectionCompleted r settleUnproven now
  let _ ← ask (.release (flightKey id r))
  pure ()

def permanentFailure (secret : Bool) (text : String) : String :=
  (if secret then permanentSecretFailurePrefix else permanentCollectionFailurePrefix) ++ text ++
    "; raw outputs, thread archive and capture retained in worker workspace/custody for this " ++
    "assignment; recover using the journal workspace path"

def finishCollection : CollectOutcome → Task Unit
  | .ok => completeCollection id r false
  | .settleUnproven => completeCollection id r true
  | .permanent secret text => do
    if ← failFinishedCollection id r (permanentFailure secret text) then
      fail (.deferred ("collection failed permanently; bounded failure custody pending: " ++ text))
    else pure ()
  | .lost failure => do
    let _ ← failFinishedCollection id r failure
    pure ()
  | .deferred text => do
    let _ ← ask (.release (flightKey id r))
    fail (.deferred ("collection deferred: " ++ text))

def runCollection : Task Unit := do
  match ← collectOnce id r with
  | none => pure ()
  | some outcome => finishCollection id r outcome

def AttemptRecord.failurePublished (current r : AttemptRecord) (failure : String)
    (settleUnproven : Bool) (now : Time) : Option AttemptRecord :=
  if current.phase ≠ .failed ∨ current.assignment.epoch ≠ r.assignment.epoch ∨
      current.pkg.identity.attemptID ≠ r.pkg.identity.attemptID ∨ current.failure ≠ failure then none
  else some { current with phase := .completed, settlePending := settleUnproven, updatedAt := now }

def AttemptRecord.failureRedacted (current : AttemptRecord) (raw redacted : String) :
    Option AttemptRecord :=
  if current.phase ≠ .failed ∨ current.failure ≠ raw then none
  else some { current with failure := redacted }

def publishFailure : Task Unit := do
  match ← ask (.redact id r.failure) with
  | none => fail (.deferred "collection deferred: redact failure reason")
  | some redacted => do
    onlyIf (redacted ≠ r.failure) (modify id fun current => current.failureRedacted r.failure
      redacted)
    match ← ask (.driver id r.pkg (.collectFailure r.workspacePath redacted)) with
    | .failed text => fail (.deferred ("publish failed result: " ++ text))
    | published => do
      let now ← ask .now
      modify id fun current => current.failurePublished r redacted (published = .settleUnproven) now

def failMissingWorkspace : Task Unit := do
  markFailed id "workspace is missing; outputs cannot be collected"
  let r ← recordOf id
  onlyIf (r.phase = .failed) (publishFailure id r)

/-- Collect the outputs of a stopped attempt. A collection that is registered owns the workspace. -/
def collectOutputs : Task Unit := do
  onlyIf (r.phase ≠ .collecting) (markPhase id .collecting "" r.workspacePath r.threadID)
  let registered ← ask (.registered (flightKey id r))
  if r.workspacePath ≠ "" ∧ (registered : Bool) = false then do
    match ← ask (.driver id r.pkg .inspectWorkspace) with
    | none => pure ()
    | some (.ok (_, false)) => failMissingWorkspace id
    | some _ => runCollection id r
  else runCollection id r

def pausedByWatchdog : Fault :=
  .deferred "collection deferred: attempt is paused by the quota watchdog"

def collect (id : String) : Task Unit := do
  let r ← recordOf id
  match r.phase with
  | .completed => pure ()
  | .failed => publishFailure id r
  | .stopped | .collecting => if r.localThrottle.isSome then fail pausedByWatchdog else collectOutputs id r
  | phase => fail (.deferred ("collect is invalid in phase \"" ++ phase.text ++ "\""))

/-! ## Stopping -/

def sameExecution (current stopped : AttemptRecord) : Bool :=
  current.phase = .stopping ∧ current.assignment.epoch = stopped.assignment.epoch ∧
    current.package = stopped.package ∧ current.workspacePath = stopped.workspacePath ∧
    current.threadID = stopped.threadID

def confirmStop (stopped : AttemptRecord) : Task Unit := do
  let now ← ask .now
  let updated ← update id true fun _ r =>
    if sameExecution r stopped then
      some { r with
        phase := .stopped, stopConfirmed := true, threadID := r.pkg.identity.threadID, updatedAt := now }
    else none
  if updated.before.any fun r => sameExecution r stopped then pure ()
  else fail (.deferred "stop confirmation execution identity changed")

def stopExecution : Task Unit := do
  markPhase id .stopping "" r.workspacePath r.threadID
  let stopped ← ask (.driver id r.pkg .stopThread)
  succeed stopped "stop outcome is unproven: "
  confirmStop id r

/-- A stop yields to a collection that is running or has a result waiting. -/
def stopAfterCollection : Task Unit := do
  match ← attempt (collect id) with
  | .error e => fail (.deferred ("stop deferred: " ++ e.text))
  | .ok () => do
    let current ← currentRecord id
    if current.any fun current => current.phase ≠ .completed ∧ current.phase ≠ .failed then
      fail (.deferred "stop deferred: collection custody still active")
    else pure ()

def stop : Task Unit := do
  let r ← recordOf id
  match r.phase with
  | .completed | .failed => pure ()
  | .claimed | .preparing | .prepared => markFailed id "stopped by the coordinator before dispatch"
  | .collecting => do
    if ← ask (.registered (flightKey id r)) then stopAfterCollection id else stopExecution id r
  | _ => stopExecution id r

/-! ## A turn that ended on a provider error -/

def defaultProviderResumeBackoff : List Duration :=
  [Watchdog.minute, 5 * Watchdog.minute, 15 * Watchdog.minute]

def maxProviderResumes : Nat := 10

def maxProviderResumeDelay : Duration := 360 * Watchdog.minute

/-- The delays before each in-session resume, within the coordinator's limits. -/
def providerResumeSchedule (policy : Option ProviderResumePolicy) : List Duration :=
  let schedule :=
    if cfg.providerResumeBackoff = [] then defaultProviderResumeBackoff else cfg.providerResumeBackoff
  let limit := policy.elim maxProviderResumes fun p => min maxProviderResumes p.maxResumes
  let longest := policy.elim maxProviderResumeDelay fun p =>
    if 0 < p.maxDelay then min maxProviderResumeDelay p.maxDelay else maxProviderResumeDelay
  (schedule.take limit).map fun delay => min (max delay 0) longest

def updateProviderResume (change : ProviderResumeRecord → ProviderResumeRecord) : Task Unit := do
  let now ← ask .now
  modify id fun r =>
    some { r with providerResume := some (change (r.providerResume.getD {})), updatedAt := now }

def failProviderError (state : ProviderResumeRecord) : Task Unit := do
  let evidence ← ask (.driver id r.pkg (.snapshotWorkInProgress r.workspacePath))
  markFailed id ("infrastructure: provider error (" ++ state.kind ++ ") after " ++
    toString state.resumes ++ " of " ++ toString state.budget ++ " in-session resumes: " ++
    (if state.detail = "" then "T3 recorded no detail" else state.detail) ++ "; " ++
    (evidence : String))
  collect id

/-- The host's bucket that pauses a route. A worker without quota state has none; `none` is a
failure to read it. -/
def pauseRequired (route : ProviderRoute) : Task (Option (Option Watchdog.BucketState)) :=
  if cfg.quota = false then pure (some none)
  else Fallible.lift ((Watchdog.pauseRequired cfg.watchdog route).embed Call.host fun _ r => r)

def closedPool (policy : Option ProviderResumePolicy) (poolID : String) : Option ClosedQuotaPool :=
  if poolID = "" then none
  else policy.bind fun p => p.closedPools.find? fun pool => pool.poolID = poolID

variable (pkg : ExecutionPackage)

/-- Why a due resume waits for quota: the coordinator closed the pool, or the host pauses the
route. -/
def providerResumeQuotaWait : Task String := do
  let policy ← ask .providerResume
  match closedPool policy pkg.route.quotaPoolID with
  | some pool =>
    pure ("quota-closed: pool " ++ pool.poolID ++ " admission is " ++ pool.admission ++
      (if pool.reason = "" then "" else ": " ++ pool.reason))
  | none => do
    match ← pauseRequired cfg pkg.route with
    | some (some pause) => pure ("quota-closed: " ++ cfg.summary pause)
    | _ => pure ""

def resumeAnswering (state : ProviderResumeState) (waitReason : String)
    (current : ProviderResumeRecord) : ProviderResumeRecord :=
  if current.turnID = turnID then { current with state := state, waitReason := waitReason } else current

variable (current : ProviderResumeRecord)

def sendProviderResume : Task Unit := do
  let now ← ask .now
  if current.resumeAt.any fun resumeAt => (now : Time) < resumeAt then pure ()
  else do
    let reason ← providerResumeQuotaWait cfg pkg
    if reason ≠ "" then
      if current.state = .quotaWait ∧ current.waitReason = reason then pure ()
      else updateProviderResume id (resumeAnswering current.turnID .quotaWait reason)
    else do
      match ← ask (.driver id pkg (.resumeAfterProviderError
          (pkg.identity.dispatchToken ++ "/provider-resume/" ++ current.turnID) current)) with
      | .error _ => pure ()
      | .ok () => updateProviderResume id (resumeAnswering current.turnID .sent "")

def rebudgeted (budget : Nat) : ProviderResumeRecord :=
  if (budget : Int) < current.resumes then
    { current with budget := budget, state := .exhausted, resumeAt := none, waitReason := "" }
  else { current with budget := budget }

def resumeWhenDue : Task Unit := do
  let policy ← ask .providerResume
  let budget := (providerResumeSchedule cfg policy).length
  let current' := rebudgeted current budget
  onlyIf (current.budget ≠ budget ∨ (budget : Int) < current.resumes)
    (updateProviderResume id fun _ => current')
  if current'.state = .exhausted then do
    match ← currentRecord id with
    | none => pure ()
    | some r => failProviderError id r current'
  else sendProviderResume cfg id pkg current'

def ProviderResumeRecord.observed (turnID : String) (failure : ProviderTurnError)
    (detail : String) (budget : Nat) (now : Time) : ProviderResumeRecord :=
  { current with
    turnID := turnID, kind := failure.kind, observedAt := now, detail := detail
    errors := current.errors + 1, budget := budget, waitReason := "" }

def claimProviderResume (failure : ProviderTurnError) : Task Unit := do
  let policy ← ask .providerResume
  let schedule := providerResumeSchedule cfg policy
  let now ← ask .now
  let detail ← recordableFailure id failure.detail
  let current := r.providerResume.getD {}
  let next := current.observed turnID failure detail schedule.length now
  match schedule[current.resumes.toNat]? with
  | none => do
    let next := { next with state := .exhausted, resumeAt := none }
    updateProviderResume id fun _ => next
    failProviderError id r next
  | some delay => do
    let next :=
      { next with resumes := current.resumes + 1, state := .scheduled, resumeAt := some (now + delay) }
    updateProviderResume id fun _ => next
    resumeWhenDue cfg id r.pkg next

def checkProviderError : Task Bool := do
  match ← ask (.driver id r.pkg .providerTurnError) with
  | .error _ => pure true
  | .ok none => do
    onlyIf (r.providerResume.isSome ∧ (r.providerResume.getD {}).turnID ≠ turnID)
      (updateProviderResume id fun state =>
        { state with turnID := turnID, state := .recovered, resumeAt := none, waitReason := "" })
    pure false
  | .ok (some failure) => do
    claimProviderResume cfg id r turnID failure
    pure true

def holdForProviderError : Task Bool :=
  let current := r.providerResume.getD {}
  if current.turnID ≠ turnID then checkProviderError cfg id r turnID
  else
    match current.state with
    | .scheduled | .quotaWait => do
      resumeWhenDue cfg id r.pkg current
      pure true
    | .sent => pure true
    | .exhausted => do
      failProviderError id r current
      pure true
    | .recovered => pure false
    | .unset => checkProviderError cfg id r turnID

/-! ## A turn that left commands running -/

def maxLiveCommandNudges : Int := 2

def updateTurnEnd (change : TurnEndCheck → TurnEndCheck) : Task Unit := do
  let now ← ask .now
  modify id fun r => some { r with turnEnd := some (change (r.turnEnd.getD {})), updatedAt := now }

def sendLiveCommandNudge (turnID : String) : Task Unit := do
  match ← ask (.driver id pkg
      (.nudgeLiveCommands (pkg.identity.dispatchToken ++ "/turn-end/" ++ turnID))) with
  | .error _ => pure ()
  | .ok () => updateTurnEnd id fun current =>
    if current.nudgedTurnID = turnID then { current with nudgeSent := true } else current

def failLiveCommands (commands : List String) (nudges : Int) : Task Unit := do
  let evidence ← ask (.driver id r.pkg (.snapshotWorkInProgress r.workspacePath))
  updateTurnEnd id fun current => current
  markFailed id ("live-children-at-turn-end: " ++
    (if commands.length = 1 then "1 background command" else
      toString commands.length ++ " background commands") ++
    " still running after " ++ toString nudges ++ " nudges: " ++ "; ".intercalate commands ++ "; " ++
    (evidence : String))
  collect id

def nudgeOrFail (commands : List String) : Task Unit := do
  let check := r.turnEnd.getD {}
  if maxLiveCommandNudges ≤ check.nudges then failLiveCommands id r commands check.nudges
  else do
    updateTurnEnd id fun current =>
      { current with nudges := check.nudges + 1, nudgedTurnID := turnID, nudgeSent := false }
    sendLiveCommandNudge id r.pkg turnID

def holdForLiveCommands : Task Bool := do
  let check := r.turnEnd.getD {}
  if check.nudgedTurnID = turnID then do
    onlyIf (check.nudgeSent = false) (sendLiveCommandNudge id r.pkg turnID)
    pure true
  else do
    match ← ask (.driver id r.pkg (.liveCommands r.workspacePath)) with
    | none => do
      updateTurnEnd id fun current => current
      pure false
    | some [] => pure false
    | some commands => do
      nudgeOrFail id r turnID commands
      pure true

/-! ## A turn that may be parked -/

/-- How long a statement may be believed: a minute unless configured. -/
def parkedReportLifetime : Duration := if 0 < cfg.snapshotTTL then cfg.snapshotTTL else Watchdog.minute

/-- Whether the coordinator still calls an assignment parked; `none` when its statement is too old
to tell. -/
def parkedBy (statement : ParkedStatement) (r : AttemptRecord) (now : Time) : Option Bool :=
  if statement.reported = false then some false
  else if parkedReportLifetime cfg < now - statement.observedAt then none
  else
    match statement.parked.lookup r.assignment.id with
    | none =>
      if r.stopObservedSequence = 0 ∨ statement.acknowledgedSequence < r.stopObservedSequence then none
      else some false
    | some parked => if parked.assignmentEpoch ≠ r.assignment.epoch then none else some true

def liveTaskWait : Task (Option Bool) := do
  let statement ← ask .statement
  let now ← ask .now
  pure ((statement : Option ParkedStatement).bind fun statement => parkedBy cfg statement r now)

def noteEndedTurn : Task Unit :=
  modify id fun r =>
    if r.observedTurnID = turnID then none
    else some { r with observedTurnID := turnID, stopObservedSequence := 0 }

def noteStopObserved : Task AttemptRecord := do
  let updated ← update id true fun sequence r =>
    if r.stopObservedSequence = 0 then some { r with stopObservedSequence := sequence } else none
  pure (updated.after.getD {})

def collectUnlessHeld : Task Unit := do
  if ← holdForProviderError cfg id r turnID then pure ()
  else do
    if ← holdForLiveCommands id r turnID then pure () else collect id

def collectEnded : Task Unit := do
  noteEndedTurn id turnID
  let r ← noteStopObserved id
  match ← liveTaskWait cfg r with
  | none => pure ()
  | some false => do
    onlyIf (r.phase = .waiting) (markPhase id .stopped "" r.workspacePath r.threadID)
    collectUnlessHeld cfg id r turnID
  | some true =>
    if r.phase = .waiting then pure ()
    else markPhase id .waiting "" r.workspacePath r.pkg.identity.threadID

/-- Park the attempt instead of collecting it while the coordinator calls it parked. -/
def collectUnlessWaiting : Task Unit :=
  if r.phase = .failed then collect id
  else if r.localThrottle.isSome then fail pausedByWatchdog
  else do
    match ← ask (.driver id r.pkg .observeThreadTurn) with
    | some (.ok (.active, _)) => markPhase id .running "" r.workspacePath r.threadID
    | some (.ok (.stopped, turnID)) => if turnID = "" then pure () else collectEnded cfg id turnID
    | _ => pure ()

end Steward.Worker
