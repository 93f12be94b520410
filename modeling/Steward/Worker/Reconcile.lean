import Steward.Worker.Runtime

/-!
# The worker runtime: deliveries and passes

`internal/workerruntime`: the local quota pause of a thread the worker owns, the coordinator's
throttle and lifecycle commands, its statements about parked assignments, and the reconcile pass. A
failure on one attempt never stops the others; only a failure of the journal ends a pass.
-/

namespace Steward.Worker

variable (cfg : Config)

/-! ## The local quota pause -/

/-- The pause in force belongs to an earlier quota episode than the one now governing the route. -/
def quotaEpisodeEnded (prior : LocalThrottleRequest) (pause : Watchdog.BucketState) (now : Time) :
    Bool :=
  if prior.recoveredAt.isSome then true
  else if prior.resetsAt.any fun resetsAt => resetsAt ≤ now then true
  else if prior.bucket ≠ pause.key then prior.kind = .drain ∧ prior.drainNoticeDelivered = true
  else false

variable (id : String) (r : AttemptRecord) (command : ThrottleCommand) (now : Time)

def localThrottleCommand (request : LocalThrottleRequest) : ThrottleCommand :=
  { id := "local-" ++ request.kind.text ++ "-" ++ r.pkg.identity.attemptID ++ "-" ++
      toString request.requestedAt
    attemptID := r.pkg.identity.attemptID, assignmentID := r.assignment.id
    assignmentEpoch := r.assignment.epoch, workerID := cfg.workerID, threadID := r.pkg.identity.threadID
    workspacePath := r.workspacePath, route := r.pkg.route, kind := request.kind
    quotaPoolID := r.pkg.route.quotaPoolID
    bucketEpochs := [{ bucket := request.bucket, epoch := Watchdog.epochFor request.resetsAt }]
    reason := cfg.describe request, checkpoint := request.checkpoint, createdAt := request.requestedAt }

def AttemptRecord.withPause (change : LocalThrottleRequest → LocalThrottleRequest) :
    Option AttemptRecord :=
  r.localThrottle.map fun request => { r with localThrottle := some (change request) }

def markLocalPauseRecovered : Task Unit :=
  onlyIf (r.localThrottle.any fun request => request.recoveredAt = none)
    (modify id fun current => current.withPause fun request => { request with recoveredAt := some now })

/-- A checkpoint already taken is kept while the stop waits for the turn observation. -/
def keepPauseCheckpoint : Option CheckpointMetadata → Task Unit
  | none => pure ()
  | some checkpoint =>
    modify id fun current => current.withPause fun request => { request with checkpoint := some checkpoint }

variable (pkg : ExecutionPackage) (request : SnapshotRequest) (prior : Option LocalThrottleRequest)
  (checkpoint : Option CheckpointMetadata) (pause : LocalThrottleRequest) (now : Time)

def AttemptRecord.pauseStopped (turnID : String) (now : Time) : Option AttemptRecord :=
  r.localThrottle.map fun request =>
    { r with
      localThrottle := some
        { request with
          stoppedAt := if request.stoppedAt = none then some now else request.stoppedAt
          checkpoint := checkpoint.orElse fun _ => request.checkpoint
          stoppedTurnID := if request.stoppedTurnID = "" then turnID else request.stoppedTurnID }
      phase := .stopped
      failure := ""
      threadID := r.pkg.identity.threadID
      observedThreadState := some .stopped
      updatedAt := now }

def pauseCheckpoint : Option CheckpointMetadata → Task (Option CheckpointMetadata)
  | some checkpoint => pure (some checkpoint)
  | none => do
    match ← currentRecord id with
    | none => pure none
    | some r => if r.localThrottle.isSome then ask (.driver id r.pkg .readQuotaCheckpoint) else pure none

def markLocalPauseStopped : Task Unit := do
  let checkpoint ← pauseCheckpoint id checkpoint
  let r ← recordOf id
  match ← ask (.driver id r.pkg .observeThreadTurn) with
  | some (.ok (.stopped, turnID)) =>
    if turnID = "" then keepPauseCheckpoint id checkpoint
    else do
      let now ← ask .now
      amend id fun r => r.pauseStopped checkpoint turnID now
  | _ => keepPauseCheckpoint id checkpoint

/-- What a pass does about a bucket that requires a pause: observe, or act with this kind. -/
def pauseKind (pause : Watchdog.BucketState) (now : Time) : Option ThrottleCommandKind :=
  let kind : ThrottleCommandKind := if pause.phase = .stopped then .hardStop else .drain
  match prior with
  | none => some .drain
  | some prior =>
    if prior.kind ≠ .drain then some kind
    else if prior.drainNoticeDelivered = false then some .drain
    else if kind = .drain then none
    else if now - prior.drainNoticeSentAt.getD prior.requestedAt < cfg.pauseEscalation then none
    else some kind

/-- The pause a pass asks for. A pause that goes on keeps its first request time. -/
def pauseRequest (pause : Watchdog.BucketState)
    (kind : ThrottleCommandKind) (now : Time) : LocalThrottleRequest :=
  { kind := kind, bucket := pause.key, phase := pause.phase, resetsAt := pause.resetsAt
    reason := cfg.summary pause, requestedAt := prior.elim now fun prior => prior.requestedAt
    drainNoticePending := kind = .drain
    drainNoticeSentAt := prior.bind fun prior => prior.drainNoticeSentAt }

def stopForQuota : Task Unit := do
  match ← ask (.driver id pkg .stopThread) with
  | .error _ => pure ()
  | .ok () => markLocalPauseStopped id none

/-- Send the drain notice. One that cannot be delivered to a stopped bucket in time becomes a
stop. -/
def sendDrainNotice (request : LocalThrottleRequest) (retrying : Bool) (now : Time) : Task Unit := do
  match ← ask (.driver id r.pkg (.requestQuotaDrain (localThrottleCommand cfg r request))) with
  | .ok () => do
    let sentAt ← ask .now
    modify id fun current => current.withPause fun request =>
      { request with drainNoticeSent := true, drainNoticePending := false, drainNoticeSentAt := some sentAt }
  | .error _ =>
    if retrying = false ∨ request.phase ≠ .stopped ∨ now - request.requestedAt < cfg.pauseEscalation then
      pure ()
    else do
      amend id fun current => some { current with
        localThrottle := some { request with kind := .hardStop, drainNoticePending := false } }
      stopForQuota id r.pkg

def applyPause (pause : Watchdog.BucketState)
    (kind : ThrottleCommandKind) (now : Time) : Task Unit := do
  let request := pauseRequest cfg prior pause kind now
  amend id fun current => some { current with localThrottle := some request, updatedAt := now }
  if kind = .drain then sendDrainNotice cfg id r request prior.isSome now else stopForQuota id r.pkg

def pauseForQuota : Task Unit :=
  if cfg.quota = false ∨ r.pkg.identity.threadID = "" then pure ()
  else do
    match ← pauseRequired cfg r.pkg.route with
    | none => pure ()
    | some none => do
      let now ← ask .now
      markLocalPauseRecovered id r now
    | some (some pause) => do
      let now ← ask .now
      let prior := r.localThrottle.filter fun prior => quotaEpisodeEnded prior pause now = false
      match pauseKind cfg prior pause now with
      | none => pure ()
      | some kind => applyPause cfg id r prior pause kind now

def AttemptRecord.pauseCompleted (current r : AttemptRecord) (now : Time) : Option AttemptRecord :=
  if current.localThrottle.any fun request =>
      r.localThrottle.any fun checked => request.stoppedTurnID = checked.stoppedTurnID then
    some { current with
      lastLocalThrottle := current.localThrottle, localThrottle := none, stopObservedSequence := 0
      updatedAt := now }
  else none

def collectCompleted : Task Unit := do
  let now ← ask .now
  let updated ← update id true fun _ current => current.pauseCompleted r now
  if (updated.before.bind fun current => current.pauseCompleted r now).isNone then
    fail (.deferred ("quota-pause completion fence changed for assignment \"" ++ id ++ "\""))
  else do
    let current ← recordOf id
    collectUnlessWaiting cfg id current

/-- Whether the turn that a quota drain stopped finished the task, in which case it is collected.
`none` when the check has no answer. -/
def collectCompletedLocalPause : Task (Option Bool) := do
  match r.localThrottle.map LocalThrottleRequest.stoppedTurnID with
  | none | some "" => pure (some false)
  | some turnID => do
    match ← ask (.driver id r.pkg (.quotaPauseCompleted turnID)) with
    | none | some (.error _) => pure none
    | some (.ok false) => pure (some false)
    | some (.ok true) => do
      collectCompleted cfg id r
      pure (some true)

def parkForQuota (pause : Watchdog.BucketState) : Task Unit := do
  let now ← ask .now
  let request : LocalThrottleRequest :=
    { kind := .drain, bucket := pause.key, phase := pause.phase, resetsAt := pause.resetsAt
      reason := "turn ended during a host quota drain", requestedAt := now, drainNoticeSent := true }
  amend id fun current => some { current with localThrottle := some request, updatedAt := now }
  markLocalPauseStopped id none
  let r ← recordOf id
  let _ ← collectCompletedLocalPause cfg id r
  pure ()

def parkStoppedForQuota : Task Bool := do
  match ← pauseRequired cfg r.pkg.route with
  | none => pure true
  | some none => pure false
  | some (some pause) => do
    parkForQuota cfg id pause
    pure true

def AttemptRecord.pauseEnded : AttemptRecord :=
  { r with
    lastLocalThrottle :=
      (r.localThrottle.map fun request => { request with resumedAt := some now }).orElse
        fun _ => r.lastLocalThrottle
    localThrottle := none
    phase := .running
    failure := ""
    stopObservedSequence := 0
    observedThreadState := some .active
    updatedAt := now }

def endLocalPause : Task Unit := do
  let now ← ask .now
  amend id fun r => some (r.pauseEnded now)

/-- Whether the host's bucket that paused an attempt lets it resume; `none` is a failure to read
it. -/
def resumeAllowed (route : ProviderRoute) : Task (Option Bool) :=
  if cfg.quota = false then pure (some false)
  else
    Process.Fallible.lift ((Watchdog.resumeAllowed cfg.watchdog
      { bucket := pause.bucket, requestedAt := pause.requestedAt } route).embed Call.host
      fun _ r => r)

def resumePaused : Task Unit := do
  match ← ask (.driver id r.pkg (.resume
      (localThrottleCommand cfg r { pause with kind := .resume, requestedAt := now }) true)) with
  | .error _ => pure ()
  | .ok () => endLocalPause id

def resumeIfRecovered : Task Unit :=
  if r.attemptLive now = false then pure ()
  else do
    if ← ask (.registered (flightKey id r)) then pure ()
    else if r.phase = .collecting then pure ()
    else do
      match ← resumeAllowed cfg pause r.pkg.route with
      | some true => if r.timeUp now then pure () else resumePaused cfg id r pause now
      | _ => pure ()

/-- A stopped pause whose turn is known: it is collected when the turn finished the task, and
resumed otherwise. -/
def advancePause : Task Unit := do
  match ← collectCompletedLocalPause cfg id r with
  | some false => resumeIfRecovered cfg id r pause now
  | _ => pure ()

/-- Repair a pause whose stopped turn is not known yet, and advance it when that succeeds. -/
def repairPause : Task Unit := do
  markLocalPauseStopped id checkpoint
  match ← currentRecord id with
  | none => pure ()
  | some r =>
    match r.localThrottle with
    | none => pure ()
    | some pause => if pause.stoppedTurnID = "" then pure () else advancePause cfg id r pause now

def reconcileLocalPause : Task Unit := do
  match ← attempt (observeThread id r.pkg) with
  | .error _ => pure ()
  | .ok observed => do
    noteThreadState id observed
    match observed with
    | .active => endLocalPause id
    | .missing => markUnknown id "paused T3 thread is missing"
    | _ =>
      if pause.stoppedTurnID = "" then repairPause cfg id pause.checkpoint now
      else advancePause cfg id r pause now

/-! ## Throttle commands -/

def throttleMatches (r : AttemptRecord) : Bool :=
  r.assignment.epoch = command.assignmentEpoch ∧ command.attemptID = r.assignment.attemptID ∧
    command.threadID = r.pkg.identity.threadID ∧ command.workspacePath = r.workspacePath ∧
    command.route = r.pkg.route

/-- What an answer makes of a record: nothing, when the command is not for it or is answered
already. -/
def AttemptRecord.takeAnswer (ack : ThrottleAcknowledgement) : Option AttemptRecord :=
  if throttleMatches command r = false ∨ (r.throttleResults.lookup command.id).isSome then none
  else some (r.throttleAnswered command ack)

def finishThrottle (accepted : Bool) (result : ThrottleAcknowledgementResult)
    (checkpoint : Option CheckpointMetadata) (detail : String) : Task ThrottleAcknowledgement := do
  let now ← ask .now
  let ack : ThrottleAcknowledgement :=
    { commandID := command.id, attemptID := command.attemptID, accepted := accepted, result := result
      checkpoint := checkpoint, error := detail, acknowledgedAt := now }
  let updated ← update command.assignmentID true fun _ r => r.takeAnswer command ack
  match updated.before.filter (throttleMatches command) with
  | none => pure { ack with accepted := false, result := .unset, checkpoint := none }
  | some r => pure ((r.throttleResults.lookup command.id).getD ack)

def refuseThrottle (detail : String) : Task ThrottleAcknowledgement :=
  finishThrottle command false .unset none detail

def finishEffect (result : ThrottleAcknowledgementResult) (checkpoint : Option CheckpointMetadata) :
    Except String Unit → Task ThrottleAcknowledgement
  | .ok () => finishThrottle command true result checkpoint ""
  | .error text => do
    let detail ← recordableFailure command.assignmentID text
    finishThrottle command false result checkpoint detail

def applyThrottle : Task ThrottleAcknowledgement :=
  match command.kind with
  | .warn => do
    let reply ← ask (.driver command.assignmentID pkg (.warn command))
    finishEffect command .warned none reply
  | .drain => do
    match ← ask (.driver command.assignmentID pkg (.checkpoint command)) with
    | .ok (some checkpoint) => finishEffect command .checkpointed (some checkpoint) (.ok ())
    | .ok none => finishEffect command .checkpointFailed none (.error "checkpoint evidence is missing")
    | .error text => finishEffect command .checkpointFailed none (.error text)
  | .hardStop => do
    let reply ← ask (.driver command.assignmentID pkg .stopThread)
    finishEffect command .stopped none reply
  | .resume => do
    let reply ← ask (.driver command.assignmentID pkg (.resume command false))
    finishEffect command .resumed none reply
  | .unset => finishEffect command .unset none (.error "unsupported throttle command kind")

/-- Execute a throttle command that was taken. No command overtakes a collection. -/
def executeThrottle : Task ThrottleAcknowledgement := do
  let current ← currentRecord command.assignmentID
  let r := current.getD {}
  let now ← ask .now
  if command.kind = .resume ∧ r.timeUp now = true then refuseThrottle command "task timeout expired"
  else do
    let registered ← ask (.registered (flightKey command.assignmentID r))
    if (registered : Bool) = true ∨ r.phase = .collecting then
      refuseThrottle command
        "the attempt is being collected; its turn is over and no throttle command applies"
    else applyThrottle command r.pkg

def throttleAddressed (r : AttemptRecord) : Bool :=
  command.workerID = cfg.workerID ∧ throttleMatches command r = true ∧ command.route.workerID = cfg.workerID ∧
    command.quotaPoolID = r.pkg.route.quotaPoolID

def attentionBound : Bool :=
  command.attentionStop.all fun binding =>
    command.kind = .hardStop ∧ binding.commandDigest ≠ "" ∧ binding.commandDigest = cfg.digest command

def attentionMatches : Bool :=
  command.attentionStop.all fun binding =>
    binding.coordinatorID = pkg.coordinatorID ∧ binding.coordinatorEpoch = pkg.coordinatorEpoch ∧
      binding.workflowRunID = pkg.identity.workflowRunID ∧ binding.taskID = pkg.identity.taskID

def takeThrottle : Task ThrottleAcknowledgement := do
  let now ← ask .now
  modify command.assignmentID fun r => some { r with pendingThrottle := some command, updatedAt := now }
  executeThrottle command

def replayThrottle (ack : ThrottleAcknowledgement) : Task ThrottleAcknowledgement := do
  if r.throttleRequests.lookup command.id ≠ some command then
    fail (.deferred "worker runtime: throttle command id was reused with different content")
  else do
    let error ← recordableFailure command.assignmentID ack.error
    pure { ack with error := error }

def takeAddressed : Task ThrottleAcknowledgement :=
  if throttleAddressed cfg command r = false then
    refuseThrottle command "stale or mismatched throttle command"
  else if attentionMatches command r.pkg = false then
    refuseThrottle command "attention stop execution identity changed"
  else takeThrottle command

def deliverThrottle : Task ThrottleAcknowledgement :=
  if attentionBound cfg command = false then
    refuseThrottle command "invalid attention stop command binding or digest"
  else do
    match ← currentRecord command.assignmentID with
    | none => refuseThrottle command "stale or mismatched throttle command"
    | some r =>
      match r.throttleResults.lookup command.id with
      | some ack => replayThrottle r command ack
      | none => takeAddressed cfg r command

/-! ## Lifecycle commands -/

/-- A lifecycle command is current and for the execution on record. The result is why not. -/
def validateCommand (command : WorkerCommand) (sequence : Int) (r : Option AttemptRecord) :
    Option String :=
  if command.id = "" ∨ command.workerID ≠ cfg.workerID ∨ command.workerEpoch ≠ cfg.workerEpoch ∨
      command.coordinatorEpoch ≠ cfg.coordinatorEpoch ∨ sequence < command.expectedWorkerSequence then
    some "stale worker command identity or sequence"
  else
    match r with
    | none => some "unknown or stale assignment"
    | some r =>
      if command.assignmentEpoch ≠ r.assignment.epoch then some "unknown or stale assignment"
      else if (command.kind = .prepare ∨ command.kind = .dispatch) ∧ r.hasCommandRequest .stop = true then
        some "execution has a durable stop request"
      else none

def acknowledgement (command : WorkerCommand) (sequence : Int) (accepted : Bool) (detail : String)
    (now : Time) : WorkerAcknowledgement :=
  { commandID := command.id, workerID := cfg.workerID, workerEpoch := cfg.workerEpoch
    coordinatorEpoch := cfg.coordinatorEpoch, assignmentID := command.assignmentID
    assignmentEpoch := command.assignmentEpoch, workerSequence := sequence, accepted := accepted
    detail := detail, acknowledgedAt := now }

/-- What an answered command makes of a record: nothing, when the command is for another epoch or is
answered already. -/
def AttemptRecord.takeCommand (command : WorkerCommand) (ack : WorkerAcknowledgement) :
    Option AttemptRecord :=
  if r.assignment.epoch ≠ command.assignmentEpoch ∨ (r.commandResults.lookup command.id).isSome then none
  else some (r.answered command ack)

def finishCommand (command : WorkerCommand) (accepted : Bool) (detail : String) :
    Task WorkerAcknowledgement := do
  let now ← ask .now
  let updated ← update command.assignmentID true fun sequence r =>
    r.takeCommand command (acknowledgement cfg command sequence accepted detail now)
  match updated.before.filter fun r => r.assignment.epoch = command.assignmentEpoch with
  | none => pure (acknowledgement cfg command updated.sequence false detail now)
  | some r =>
    pure ((r.commandResults.lookup command.id).getD
      (acknowledgement cfg command updated.sequence accepted detail now))

def commandEffect (command : WorkerCommand) : Task Unit :=
  match command.kind with
  | .prepare => prepare command.assignmentID
  | .dispatch => dispatch command.assignmentID
  | .stop => stop command.assignmentID
  | .collect => collectUnlessWaiting cfg command.assignmentID r

/-- Carry a lifecycle command out and answer it. A failed effect is still an accepted command. -/
def applyCommand (command : WorkerCommand) : Task WorkerAcknowledgement := do
  match ← attempt (commandEffect cfg r command) with
  | .ok () => finishCommand cfg command true ""
  | .error e => do
    let detail ← recordableFailure command.assignmentID e.text
    finishCommand cfg command true detail

def replayCommand (command : WorkerCommand) (ack : WorkerAcknowledgement) :
    Task WorkerAcknowledgement := do
  if r.commandRequests.lookup command.id ≠ some command then
    fail (.deferred "worker runtime: command id was reused with different content")
  else do
    let detail ← recordableFailure command.assignmentID ack.detail
    pure { ack with detail := detail }

def packageChanged (supplied : ExecutionPackageManifest) (r : AttemptRecord) : Bool :=
  supplied.package.id ≠ "" ∧ supplied.sha256 ≠ r.package.sha256 ∧
    supplied.package.sameIgnoringCoordinatorEpoch r.pkg = false

def takeCommand (r : Option AttemptRecord) (command : WorkerCommand)
    (supplied : ExecutionPackageManifest) : Task WorkerAcknowledgement := do
  match ← ask .sequence with
  | none => fail .journal
  | some sequence =>
    match validateCommand cfg command sequence r with
    | some detail => finishCommand cfg command false detail
    | none =>
      if packageChanged supplied (r.getD {}) then
        finishCommand cfg command false "execution package changed after claim"
      else applyCommand cfg (r.getD {}) command

def deliverCommand (command : WorkerCommand) (supplied : ExecutionPackageManifest) :
    Task WorkerAcknowledgement := do
  let r ← currentRecord command.assignmentID
  match r.bind fun r => (r.commandResults.lookup command.id).map fun ack => (r, ack) with
  | some (r, ack) => replayCommand r command ack
  | none => takeCommand cfg r command supplied

/-! ## The reconcile pass -/

/-- Settle an attempt whose last effect was ambiguous by observing it. -/
def recoverUnknown : Task Unit := do
  match ← attempt (observeThread id r.pkg) with
  | .error _ => pure ()
  | .ok .active => markPhase id .running "" r.workspacePath r.pkg.identity.threadID
  | .ok .stopped => do
    markPhase id .stopped "" r.workspacePath r.pkg.identity.threadID
    collectUnlessWaiting cfg id r
  | .ok .missing =>
    markFailed id ("T3 thread never started: " ++
      (if r.failure = "" then "execution could not be recovered" else r.failure))
  | .ok .created => pure ()

def AttemptRecord.prunable : Bool :=
  r.phase = .completed ∨ (r.phase = .stopped ∧ r.stopConfirmed = true)

def prune : Task Unit := do
  let cleaned ← ask (.driver id r.pkg (.cleanup r.workspacePath))
  succeed cleaned ""
  if ← ask (.remove id AttemptRecord.prunable) then pure () else fail .journal

def reconcileWaiting : Task Unit :=
  if r.hasCommandRequest .stop then stop id
  else do
    match ← attempt (observeThread id r.pkg) with
    | .error _ => pure ()
    | .ok .active => markPhase id .running "" r.workspacePath r.pkg.identity.threadID
    | .ok .stopped => collectUnlessWaiting cfg id r
    | .ok .missing => markUnknown id "parked T3 thread is missing"
    | .ok .created => pure ()

def reconcileTurnEnd : Task Unit := do
  if ← parkStoppedForQuota cfg id r then pure ()
  else do
    markPhase id .stopped "" r.workspacePath r.pkg.identity.threadID
    collectUnlessWaiting cfg id r

def reconcileRunning : Task Unit := do
  match ← attempt (observeThread id r.pkg) with
  | .error _ => pure ()
  | .ok observed => do
    noteThreadState id observed
    match observed with
    | .active => pauseForQuota cfg id r
    | .stopped => if r.localThrottle.isSome then markLocalPauseStopped id none else reconcileTurnEnd cfg id r
    | .missing => markUnknown id "running T3 thread is missing"
    | .created => pure ()

def reconcileEnded : Task Unit := do
  match ← attempt (observeThread id r.pkg) with
  | .ok .active => markPhase id .running "" r.workspacePath r.pkg.identity.threadID
  | .ok .stopped => collectUnlessWaiting cfg id r
  | _ => pure ()

def reconcileStopped : Task Unit :=
  if r.hasCommandRequest .stop then
    if r.stopConfirmed = false then stop id
    else onlyIf (cfg.retention ≤ now - r.updatedAt) (prune id r)
  else
    match r.localThrottle with
    | some pause => reconcileLocalPause cfg id r pause now
    | none => if r.throttlePaused then pure () else reconcileEnded cfg id r

def resumePreparing (workspace : String) (present : Bool) : Task Unit :=
  if present then markPhase id .prepared "" workspace "" else prepare id

def reconcilePreparing : Task Unit := do
  match ← ask (.driver id r.pkg .inspectWorkspace) with
  | none | some (.error _) => pure ()
  | some (.ok (workspace, present)) => do
    resumePreparing id workspace present
    onlyIf (r.hasCommandRequest .dispatch = true) (dispatchIfPrepared id)

def reconcileStopping : Task Unit := do
  match ← ask (.driver id r.pkg .stopThread) with
  | .error _ => pure ()
  | .ok () => confirmStop id r

def reconcileCompleted : Task Unit :=
  if r.settlePending then do
    match ← ask (.driver id r.pkg .settle) with
    | .error _ => pure ()
    | .ok () => modify id fun current => some { current with settlePending := false }
  else onlyIf (permanentCollectionIntent r.failure = false ∧ cfg.retention ≤ now - r.updatedAt) (prune id r)

def reconcilePhase : Task Unit :=
  match r.phase with
  | .running => reconcileRunning cfg id r
  | .waiting => reconcileWaiting cfg id r
  | .stopped => reconcileStopped cfg id r now
  | .preparing => reconcilePreparing id r
  | .prepared => onlyIf (r.hasCommandRequest .dispatch = true) (dispatchIfPrepared id)
  | .dispatching => reconcileDispatch id
  | .stopping => reconcileStopping id r
  | .collecting =>
    if r.hasCommandRequest .stop = true ∧ r.stopConfirmed = false then stop id else collect id
  | .failed => onlyIf (permanentCollectionIntent r.failure = true) (collect id)
  | .unknown => recoverUnknown cfg id r
  | .completed => reconcileCompleted cfg id r now
  | .claimed => pure ()

def swallow (t : Task Unit) : Task Unit := do
  match ← attempt t with
  | .error .journal => fail .journal
  | _ => pure ()

def AttemptRecord.stopDue : Bool :=
  r.hasCommandRequest .stop = true ∧ r.stopConfirmed = false ∧ r.phase ≠ .completed ∧
    r.phase ≠ .failed

def reconcileAttempt : Task Unit :=
  if r.stopDue then swallow (stop id) else swallow (reconcilePhase cfg id r now)

/-- One attempt in a pass: its timeout, then a pending throttle command, then its phase. -/
def passAttempt (r : AttemptRecord) : Task Unit :=
  if r.taskTimeoutExpired now then swallow (expireTask r.assignment.id r)
  else
    match r.pendingThrottle with
    | some command => do
      let _ ← executeThrottle command
      pure ()
    | none => reconcileAttempt cfg r.assignment.id r now

def AttemptRecord.recordedFailureRedacted (current : AttemptRecord) (raw redacted : String) :
    Option AttemptRecord :=
  if current.failure ≠ raw then none else some { current with failure := redacted }

def redactRecorded : Task Bool :=
  if r.failure = "" ∨ permanentCollectionIntent r.failure = true then pure true
  else do
    match ← ask (.redact r.assignment.id r.failure) with
    | none => pure false
    | some redacted =>
      if redacted = r.failure then pure true
      else do
        match ← ask (.update r.assignment.id true fun _ current =>
            current.recordedFailureRedacted r.failure redacted) with
        | none => pure false
        | some _ => pure true

/-- Redact recorded failures one after another; the result says whether all are checked. -/
def redactAll : Bool → List AttemptRecord → Task Bool
  | complete, [] => pure complete
  | complete, r :: rest => do
    let checked ← redactRecorded r
    redactAll (complete && checked) rest

/-- Redact, once per process, the failures a journal of an earlier release holds raw. -/
def redactRecordedFailures : Task Unit := do
  if ← ask .failuresRedacted then pure ()
  else do
    match ← ask .attempts with
    | none => pure ()
    | some attempts => do
      if ← redactAll true attempts then ask .setFailuresRedacted else pure ()

def reconcilePass : Task Unit := do
  redactRecordedFailures
  match ← ask .attempts with
  | none => fail .journal
  | some attempts => do
    let now ← ask .now
    Process.Fallible.each (passAttempt cfg now) attempts

/-! ## The exchange -/

def validateSnapshotRequest : Option String :=
  if request.observedSequence < 0 ∨
      ¬(request.observedWorkerEpoch = "" ↔ request.observedSequence = 0) then
    some "worker protocol: snapshot acknowledgement requires an epoch and positive sequence"
  else if request.parkedReported = false ∧ request.parked ≠ [] then
    some "worker protocol: parked assignments listed without the reported flag"
  else if request.parked.any fun p =>
      p.assignmentID = "" ∨ p.assignmentEpoch < 1 ∨ p.attemptID = "" ∨ p.attemptRevision < 0 then
    some "worker protocol: parked assignment identity is incomplete"
  else if ¬(request.parked.map ParkedAssignment.assignmentID).Nodup then
    some "worker protocol: parked assignments repeat an assignment"
  else none

def applyStatement : Task Unit := do
  if ← ask (.applyPolicy request.providerResume) then do
    if request.parkedReported = false then pure ()
    else do
      let now ← ask .now
      if ← ask (.applyParked request now) then pure () else fail .journal
  else fail .journal

def applyParkedAssignments : Task Unit :=
  match validateSnapshotRequest request with
  | some text => fail (.deferred text)
  | none => applyStatement request

def snapshot : Task Unit := do
  reconcilePass cfg
  let now ← ask .now
  if ← ask (.report now) then pure () else fail .journal

end Steward.Worker
