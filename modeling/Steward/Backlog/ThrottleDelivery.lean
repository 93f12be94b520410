import Steward.Backlog.QuotaAdmission

/-!
# Delivering throttle commands

`internal/backlog/throttle_delivery.go` and `reconcileWorkerThrottle` of `worker_exchange.go`. A
directive becomes one durable record per affected attempt; answers are applied to the records, an
expired drain becomes a hard stop, and a pause is resumed when its pool has room. Each of the four
stages of an exchange commits what it planned before it talks to the worker, so a stage that fails
leaves what was committed.
-/

namespace Steward

open Except List

/-! ## Commands -/

/-- The execution of an attempt that a directive affects. -/
structure ThrottleAttemptBinding where
  attempt : Attempt := {}
  assignment : Assignment := {}
  workspacePath : String := ""
deriving DecidableEq

def validateThrottleBinding (b : ThrottleAttemptBinding) : Except Err Unit := do
  refuseWhen (b.attempt.id = "" ∨ b.assignment.id = "" ∨ b.assignment.workerID = "" ∨
      b.assignment.threadID = "" ∨ b.workspacePath = "")
    { text := "throttle binding execution identity must be complete" }
  refuseWhen (b.attempt.assignmentID ≠ b.assignment.id ∨ b.assignment.attemptID ≠ b.attempt.id)
    { text := "throttle binding attempt " ++ quote b.attempt.id ++ " does not match assignment " ++
        quote b.assignment.id }
  refuseWhen (b.assignment.epoch ≤ 0 ∨ b.assignment.route.quotaPoolID = "")
    { text := "throttle binding attempt " ++ quote b.attempt.id ++ " has incomplete route identity" }

def commandKindForDirective (d : ThrottleDirective) : Except Err ThrottleCommandKind := do
  refuseWhen (d.id = "" ∨ d.quotaPoolID = "" ∨ d.admissionRevision ≤ 0)
    { text := "throttle directive identity must be complete" }
  match d.severity with
  | .warn => .ok .warn
  | .drain => .ok .drain
  | .stop => .ok .hardStop
  | .unset =>
    .error { text := "throttle directive " ++ quote d.id ++ " has invalid severity " ++
               quote d.severity.text }

section

variable (hash : CoordinatorHash)

def throttleCommandID (directiveID attemptID : String) (kind : ThrottleCommandKind)
    (revision : Int) : String :=
  "throttle-command-" ++ hash.sum "throttle-command"
    (directiveID ++ "\x00" ++ attemptID ++ "\x00" ++ kind.text ++ "\x00" ++ toString revision)

def throttleCommand (d : ThrottleDirective) (b : ThrottleAttemptBinding)
    (kind : ThrottleCommandKind) (revision : Int) (now : Time) : ThrottleCommand :=
  { id := throttleCommandID hash d.id b.attempt.id kind revision
    directiveID := d.id
    attemptID := b.attempt.id
    assignmentID := b.assignment.id
    assignmentEpoch := b.assignment.epoch
    workerID := b.assignment.workerID
    threadID := b.assignment.threadID
    workspacePath := b.workspacePath
    route := b.assignment.route
    kind := kind
    quotaPoolID := d.quotaPoolID
    bucketEpochs := d.bucketEpochs
    reason := d.reason
    deadline := d.deadline
    createdAt := now }

def followupThrottleCommand (previous : ThrottleCommand) (kind : ThrottleCommandKind)
    (revision : Int) (checkpoint : Option CheckpointMetadata) (now : Time) : ThrottleCommand :=
  { previous with
    id := throttleCommandID hash previous.directiveID previous.attemptID kind revision
    kind := kind
    deadline := none
    checkpoint := checkpoint
    createdAt := now }

end

/-! ## Reading records -/

def indexThrottleAttemptRecords :
    List ThrottleAttemptRecord → List (String ×ₗ String) → Except Err Unit
  | [], _ => .ok ()
  | r :: rest, seen => do
    validateThrottleAttemptRecord r
    refuseWhen (r.key ∈ seen)
      { text := "throttle attempt records repeat directive " ++ quote r.directiveID ++
          " attempt " ++ quote r.attemptID }
    indexThrottleAttemptRecords rest (r.key :: seen)

def sortThrottleAttemptTransitions (ts : List ThrottleAttemptTransition) :
    List ThrottleAttemptTransition :=
  ts.insertionSort fun a b => a.record.key ≤ b.record.key

def ThrottleCommand.before (a b : ThrottleCommand) : Prop :=
  if a.workerID = b.workerID then a.id ≤ b.id else a.workerID ≤ b.workerID

instance : DecidableRel ThrottleCommand.before := fun a b =>
  inferInstanceAs (Decidable (if a.workerID = b.workerID then a.id ≤ b.id else a.workerID ≤ b.workerID))

def sortThrottleCommands (cs : List ThrottleCommand) : List ThrottleCommand :=
  cs.insertionSort ThrottleCommand.before

/-- What a stage plans: transitions to commit, and commands to send afterwards. -/
structure ThrottlePlan where
  transitions : List ThrottleAttemptTransition := []
  commands : List ThrottleCommand := []
deriving DecidableEq

def ThrottlePlan.sorted (p : ThrottlePlan) : ThrottlePlan :=
  { transitions := sortThrottleAttemptTransitions p.transitions
    commands := sortThrottleCommands p.commands }

def ThrottlePlan.append (p q : ThrottlePlan) : ThrottlePlan :=
  { transitions := p.transitions ++ q.transitions, commands := p.commands ++ q.commands }

/-! ## New directives -/

def checkThrottleBindings : List ThrottleAttemptBinding → List String → Except Err Unit
  | [], _ => .ok ()
  | b :: rest, seen => do
    validateThrottleBinding b
    refuseWhen (b.attempt.id ∈ seen)
      { text := "throttle bindings repeat attempt " ++ quote b.attempt.id }
    checkThrottleBindings rest (b.attempt.id :: seen)

section

variable (hash : CoordinatorHash) (previous : List ThrottleAttemptRecord) (now : Time)

variable (d : ThrottleDirective) (b : ThrottleAttemptBinding) (kind : ThrottleCommandKind)

def newThrottleRecord : ThrottleAttemptRecord :=
  { directiveID := d.id
    attemptID := b.attempt.id
    revision := 1
    command := throttleCommand hash d b kind 1 now
    delivery := .pending
    control := if kind = .drain ∨ kind = .hardStop then .draining else b.attempt.control
    updatedAt := now }

def replayDelivery (existing : ThrottleAttemptRecord) : Except Err ThrottlePlan :=
  if existing.delivery = .pending ∧ existing.command.kind = kind then
    if existing.command ≠ throttleCommand hash d b kind 1 existing.command.createdAt then
      .error { text := "throttle command " ++ quote existing.command.id ++
                 " execution identity changed" }
    else .ok { commands := [existing.command] }
  else .ok {}

def planDelivery (b : ThrottleAttemptBinding) : Except Err ThrottlePlan :=
  if b.assignment.route.quotaPoolID ≠ d.quotaPoolID ∨ b.attempt.control.holdsProviderSlot = false then
    .ok {}
  else
    match previous.find? fun r => r.key = toLex (d.id, b.attempt.id) with
    | some existing => replayDelivery hash d b kind existing
    | none =>
      let record := newThrottleRecord hash now d b kind
      .ok { transitions := [{ record := record }], commands := [record.command] }

def planDirective (d : ThrottleDirective) (kind : ThrottleCommandKind) :
    List ThrottleAttemptBinding → Except Err ThrottlePlan
  | [] => .ok {}
  | b :: rest => do
    let first ← planDelivery hash previous now d kind b
    let others ← planDirective d kind rest
    return first.append others

def planDirectives (bindings : List ThrottleAttemptBinding) :
    List ThrottleDirective → List String → Except Err ThrottlePlan
  | [], _ => .ok {}
  | d :: rest, seen => do
    let kind ← commandKindForDirective d
    refuseWhen (d.id ∈ seen) { text := "throttle deliveries repeat directive " ++ quote d.id }
    let first ← planDirective hash previous now d kind bindings
    let others ← planDirectives bindings rest (d.id :: seen)
    return first.append others

def planThrottleDeliveries (directives : List ThrottleDirective)
    (bindings : List ThrottleAttemptBinding) : Except Err ThrottlePlan := do
  refuseWhen (now = 0) { text := "throttle delivery time must be set" }
  indexThrottleAttemptRecords previous []
  let bindings := bindings.insertionSort fun a b => a.attempt.id ≤ b.attempt.id
  checkThrottleBindings bindings []
  let plan ← planDirectives hash previous now bindings
    (directives.insertionSort fun a b => a.id ≤ b.id) []
  return plan.sorted

/-! ## Expired drains -/

def expireDrain (r : ThrottleAttemptRecord) : Option ThrottleAttemptTransition :=
  if r.command.kind ≠ .drain ∨ r.control ≠ .draining ∨ r.command.deadline.all (now < ·) then none
  else
    some
      { expectedRevision := r.revision
        record :=
          { r with
            revision := r.revision + 1
            priorCommandIDs := r.priorCommandIDs ++ [r.command.id]
            command := followupThrottleCommand hash r.command .hardStop (r.revision + 1) none now
            delivery := .pending
            result := .unset
            acknowledgedAt := none
            failure := ""
            updatedAt := now } }

def planThrottleDeadlineExpirations : Except Err ThrottlePlan := do
  refuseWhen (now = 0) { text := "throttle deadline time must be set" }
  indexThrottleAttemptRecords previous []
  let transitions := previous.filterMap (expireDrain hash now)
  return { transitions := transitions, commands := transitions.map (·.record.command) : ThrottlePlan }.sorted

/-! ## Resumes -/

def throttleResumeReason (pool : QuotaPool) (admission : QuotaAdmissionRecord) : String :=
  if pool.checksDisabled then
    "quota resume permitted for pool " ++ pool.id ++ ": " ++
      (if admission.reason = "" then "quota checks disabled by coordinator policy"
        else admission.reason) ++ "; recovery not observed"
  else
    "quota pool " ++ pool.id ++ " recovered" ++
      (if admission.reason = "" then "" else ": " ++ admission.reason)

def resumedRecord (pool : QuotaPool) (admission : QuotaAdmissionRecord)
    (r : ThrottleAttemptRecord) : ThrottleAttemptRecord :=
  { r with
    revision := r.revision + 1
    priorCommandIDs := r.priorCommandIDs ++ [r.command.id]
    command :=
      { followupThrottleCommand hash r.command .resume (r.revision + 1) r.checkpoint now with
        reason := throttleResumeReason pool admission }
    delivery := .pending
    result := .unset
    control := .resuming
    acknowledgedAt := none
    failure := ""
    updatedAt := now }

def takeSlot (pools : List QuotaPool) (poolID : String) : List QuotaPool :=
  pools.map fun p => if p.id = poolID then { p with activeAssignments := p.activeAssignments + 1 } else p

/-- The newest record of one attempt: a pause is resumed if its pool admits work and has a slot
free, a resume that was not answered is sent again. -/
def planResume (admissions : List QuotaAdmissionRecord) (pools : List QuotaPool)
    (r : ThrottleAttemptRecord) : List QuotaPool × ThrottlePlan :=
  let pending := r.control = .resuming ∧ r.delivery = .pending
  if r.control ≠ .paused ∧ r.control ≠ .pausedUncheckpointed ∧ ¬pending then (pools, {})
  else
    match pools.find? fun p => p.id = r.command.quotaPoolID with
    | none => (pools, {})
    | some pool =>
      if pending then (pools, { commands := [r.command] })
      else
        match admissions.find? fun a => a.quotaPoolID = r.command.quotaPoolID with
        | none => (pools, {})
        | some admission =>
          if admission.admission ≠ .open ∧ admission.admission ≠ .recovering then (pools, {})
          else if pool.maxConcurrent ≤ pool.activeAssignments then (pools, {})
          else
            let record := resumedRecord hash now pool admission r
            (takeSlot pools pool.id,
              { transitions := [{ expectedRevision := r.revision, record := record }]
                commands := [record.command] })

def planResumes (admissions : List QuotaAdmissionRecord) :
    List QuotaPool → List ThrottleAttemptRecord → ThrottlePlan
  | _, [] => {}
  | pools, r :: rest =>
    let (pools, first) := planResume hash now admissions pools r
    first.append (planResumes admissions pools rest)

def checkResumeAdmissions : List QuotaAdmissionRecord → List String → Except Err Unit
  | [], _ => .ok ()
  | a :: rest, seen => do
    refuseWhen (a.quotaPoolID = "") { text := "quota admission identity is required" }
    refuseWhen (a.quotaPoolID ∈ seen)
      { text := "quota admissions repeat pool " ++ quote a.quotaPoolID }
    checkResumeAdmissions rest (a.quotaPoolID :: seen)

def checkResumePools : List QuotaPool → List String → Except Err Unit
  | [], _ => .ok ()
  | p :: rest, seen => do
    refuseWhen
      (p.id = "" ∨ p.maxConcurrent ≤ 0 ∨ p.activeAssignments < 0 ∨
      p.maxConcurrent < p.activeAssignments)
      { text := "quota pool " ++ quote p.id ++ " has invalid resume concurrency" }
    refuseWhen (p.id ∈ seen) { text := "quota resume pools repeat pool " ++ quote p.id }
    checkResumePools rest (p.id :: seen)

def latestThrottleRecords (records : List ThrottleAttemptRecord) : List ThrottleAttemptRecord :=
  (((records.map (·.attemptID)).dedup).insertionSort (· ≤ ·)).filterMap (latestThrottleRecord records)

def planThrottleResumes (admissions : List QuotaAdmissionRecord) (pools : List QuotaPool) :
    Except Err ThrottlePlan := do
  refuseWhen (now = 0) { text := "throttle resume time must be set" }
  indexThrottleAttemptRecords previous []
  checkResumeAdmissions admissions []
  checkResumePools pools []
  return (planResumes hash now admissions pools (latestThrottleRecords previous)).sorted

end

/-- What becomes of one attempt: nothing, its unanswered resume once more, or a resume. -/
theorem planResume_cases (hash : CoordinatorHash) (now : Time)
    (admissions : List QuotaAdmissionRecord) (pools : List QuotaPool) (r : ThrottleAttemptRecord) :
    planResume hash now admissions pools r = (pools, {}) ∨
      planResume hash now admissions pools r = (pools, { commands := [r.command] }) ∨
      ∃ pool admission, pool.id = r.command.quotaPoolID ∧ admission ∈ admissions ∧
        admission.quotaPoolID = r.command.quotaPoolID ∧
        (admission.admission = .open ∨ admission.admission = .recovering) ∧
        (r.control = .paused ∨ r.control = .pausedUncheckpointed) ∧
        planResume hash now admissions pools r = (takeSlot pools pool.id,
          { transitions := [{ expectedRevision := r.revision
                              record := resumedRecord hash now pool admission r }]
            commands := [(resumedRecord hash now pool admission r).command] }) := by
  unfold planResume
  dsimp only
  split
  · exact .inl rfl
  · rename_i hresumable
    split
    · exact .inl rfl
    · rename_i pool hpool
      split
      · exact .inr (.inl rfl)
      · rename_i hpending
        split
        · exact .inl rfl
        · rename_i admission hadmission
          split
          · exact .inl rfl
          · rename_i hopen
            split
            · exact .inl rfl
            · exact .inr (.inr ⟨pool, admission, by simpa using find?_some hpool,
                mem_of_find?_eq_some hadmission, by simpa using find?_some hadmission,
                by tauto, by tauto, rfl⟩)

/-! ## Acknowledgements -/

/-- How deep a relative path ends below its start; `none` when it leaves it. -/
def pathDepth : List (List Char) → Nat → Option Nat
  | [], depth => some depth
  | component :: rest, depth =>
    if component = [] ∨ component = ['.'] then pathDepth rest depth
    else if component = ['.', '.'] then
      match depth with
      | 0 => none
      | depth + 1 => pathDepth rest depth
    else pathDepth rest (depth + 1)

def safeRelativePath (path : String) : Bool :=
  path.toList.head? ≠ some '/' ∧ (pathDepth (path.toList.splitOn '/') 0).any (0 < ·)

def validateCheckpoint (checkpoint : Option CheckpointMetadata) : Except Err CheckpointMetadata :=
  match checkpoint with
  | none => .error { text := "complete checkpoint metadata is required" }
  | some c => do
    refuseWhen (c.artifactID = "" ∨ c.path = "" ∨ c.sha256 = "" ∨ c.size ≤ 0 ∨ c.capturedAt = 0)
      { text := "complete checkpoint metadata is required" }
    refuseWhen (!safeRelativePath c.path)
      { text := "checkpoint path " ++ quote c.path ++ " must be safe and relative" }
    return c

def invalidThrottleResult (command : ThrottleCommand) (result : ThrottleAcknowledgementResult) :
    Err :=
  { text := "throttle command " ++ quote command.id ++ " kind " ++ quote command.kind.text ++
      " cannot accept result " ++ quote result.text }

def rejectedRecord (r : ThrottleAttemptRecord) (ack : ThrottleAcknowledgement) :
    ThrottleAttemptRecord :=
  { r with
    delivery := .rejected
    result := .unset
    failure := ack.error
    control :=
      if r.command.kind = .resume then
        if r.checkpoint.isSome then .paused else .pausedUncheckpointed
      else r.control }

def applyThrottleAcknowledgement (r : ThrottleAttemptRecord) (ack : ThrottleAcknowledgement) :
    Except Err ThrottleAttemptRecord :=
  if !ack.accepted then .ok (rejectedRecord r ack)
  else
    let settled := { r with delivery := .acknowledged, result := ack.result, failure := "" }
    let invalid : Except Err ThrottleAttemptRecord :=
      .error (invalidThrottleResult r.command ack.result)
    match r.command.kind, ack.result with
    | .warn, .warned => .ok settled
    | .drain, .checkpointed => do
      let checkpoint ← (validateCheckpoint ack.checkpoint).mapError fun err =>
        { err with text := "checkpoint acknowledgement for command " ++ quote r.command.id ++
            ": " ++ err.text }
      return { settled with checkpoint := some checkpoint, control := .paused }
    | .drain, .checkpointFailed => .ok { settled with control := .draining, failure := ack.error }
    | .hardStop, .stopped => .ok { settled with checkpoint := none, control := .pausedUncheckpointed }
    | .resume, .resumed => .ok { settled with control := .running }
    | .unset, _ =>
      .error { text := "throttle command " ++ quote r.command.id ++ " has invalid kind " ++
                 quote r.command.kind.text }
    | _, _ => invalid

def checkAcknowledgedRecords :
    List ThrottleAttemptRecord → List String → List (String × String) → Except Err Unit
  | [], _, _ => .ok ()
  | r :: rest, commands, prior => do
    validateThrottleAttemptRecord r
    refuseWhen (r.command.id ∈ commands)
      { text := "throttle attempt records repeat command " ++ quote r.command.id }
    r.priorCommandIDs.forM fun id => do
      refuseWhen (id = "")
        { text := "throttle attempt record " ++ quote r.command.id ++ " has an empty prior command" }
      refuseWhen (prior.any fun p => p.1 = id ∧ p.2 ≠ r.attemptID)
        { text := "throttle attempt records repeat prior command " ++ quote id }
    checkAcknowledgedRecords rest (r.command.id :: commands)
      (r.priorCommandIDs.map (fun id => (id, r.attemptID)) ++ prior)

def priorCommandAttempt (records : List ThrottleAttemptRecord) (commandID : String) : Option String :=
  (records.find? fun r => commandID ∈ r.priorCommandIDs).map (·.attemptID)

section

variable (records : List ThrottleAttemptRecord) (now : Time)

def acknowledgedAttemptMismatch (ack : ThrottleAcknowledgement) (want : String) : Err :=
  { text := "throttle acknowledgement " ++ quote ack.commandID ++ " names attempt " ++
      quote ack.attemptID ++ ", want " ++ quote want }

def planAcknowledgement (ack : ThrottleAcknowledgement) :
    Except Err (Option ThrottleAttemptTransition) :=
  match records.find? fun r => r.command.id = ack.commandID with
  | none =>
    match priorCommandAttempt records ack.commandID with
    | none =>
      .error { text := "throttle acknowledgement names unknown command " ++ quote ack.commandID }
    | some attemptID =>
      if attemptID ≠ ack.attemptID then .error (acknowledgedAttemptMismatch ack attemptID) else .ok none
  | some r =>
    if r.attemptID ≠ ack.attemptID then .error (acknowledgedAttemptMismatch ack r.attemptID)
    else if r.delivery ≠ .pending then .ok none
    else do
      let applied ← applyThrottleAcknowledgement r ack
      return some
        { expectedRevision := r.revision
          record :=
            { applied with
              revision := r.revision + 1
              acknowledgedAt := some ack.acknowledgedAt
              updatedAt := now } }

def planAcknowledgements :
    List ThrottleAcknowledgement → List ThrottleAcknowledgement →
    Except Err (List ThrottleAttemptTransition)
  | [], _ => .ok []
  | ack :: rest, seen => do
    refuseWhen (ack.commandID = "" ∨ ack.attemptID = "" ∨ ack.acknowledgedAt = 0)
      { text := "throttle acknowledgement identity and time are required" }
    match seen.find? fun a => a.commandID = ack.commandID with
    | some prior =>
      if prior = ack then planAcknowledgements rest seen
      else
        .error { text := "throttle acknowledgements conflict for command " ++ quote ack.commandID }
    | none =>
      let first ← planAcknowledgement records now ack
      let others ← planAcknowledgements rest (ack :: seen)
      return first.toList ++ others

def planThrottleAcknowledgements (acknowledgements : List ThrottleAcknowledgement) :
    Except Err (List ThrottleAttemptTransition) := do
  refuseWhen (now = 0) { text := "throttle acknowledgement time must be set" }
  checkAcknowledgedRecords records [] []
  let transitions ← planAcknowledgements records now
    (acknowledgements.insertionSort fun a b => a.commandID ≤ b.commandID) []
  return sortThrottleAttemptTransitions transitions

end

/-! ## The stages of an exchange -/

/-- The stages in which an exchange sends throttle commands. -/
inductive ThrottleStage
  | pending
  | delivery
  | expiry
  | resume
deriving DecidableEq

abbrev ThrottleTransport :=
  ThrottleStage → List ThrottleCommand → List ThrottleAcknowledgement × List Err

structure ThrottleExchange where
  hash : CoordinatorHash
  advance : Store.AdvanceAttentionStop
  transport : ThrottleTransport
  now : Time

def applyThrottleAttemptTransitions (records : List ThrottleAttemptRecord)
    (transitions : List ThrottleAttemptTransition) : List ThrottleAttemptRecord :=
  ((Table.ofList ThrottleAttemptRecord.key records).putAll (transitions.map (·.record))).rows

namespace Store

variable (x : ThrottleExchange) (s : Store)

def commitThrottleIntent (transitions : List ThrottleAttemptTransition) : Except Err Store :=
  if transitions = [] then .ok s else s.commitThrottleAttemptTransitions x.advance transitions

/-- Commit what was planned, send the commands, and commit the answers. The store and the errors of
the stage: what was committed before an error stays. -/
def reconcilePlannedThrottleCommands (stage : ThrottleStage) (previous : List ThrottleAttemptRecord)
    (plan : ThrottlePlan) : Store × List Err :=
  match s.commitThrottleIntent x plan.transitions with
  | .error e => (s, [e])
  | .ok s =>
    if plan.commands = [] then (s, [])
    else
      let (acks, errs) := x.transport stage plan.commands
      let current := applyThrottleAttemptTransitions previous plan.transitions
      match planThrottleAcknowledgements current x.now acks with
      | .error e => (s, errs ++ [e])
      | .ok transitions =>
        match s.commitThrottleIntent x transitions with
        | .error e => (s, errs ++ [e])
        | .ok s => (s, errs)

def throttleStage (workerID : String) (stage : ThrottleStage)
    (planned : List ThrottleAttemptRecord → Except Err ThrottlePlan) : Store × List Err :=
  let previous := s.loadThrottleAttemptRecordsFor workerID
  match planned previous with
  | .error e => (s, [e])
  | .ok plan => s.reconcilePlannedThrottleCommands x stage previous plan

def planPendingThrottleCommands (previous : List ThrottleAttemptRecord) :
    Except Err ThrottlePlan := do
  previous.forM validateThrottleAttemptRecord
  let commands := (previous.filter fun r => r.delivery = .pending).map (·.command)
  return { commands := sortThrottleCommands commands }

/-- The executions a worker reports that a directive can reach: of attempts not force started, on
assignments known to be running there, with their workspace. -/
def throttleBindings (snapshot : WorkerSnapshot) : List ThrottleAttemptBinding :=
  snapshot.assignments.filterMap fun o => do
    let assignment ← s.assignments.get? o.assignmentID
    let attempt ← s.attempts.get? assignment.attemptID
    if assignment.workerID = snapshot.workerID ∧ attempt.adminForceStart = false ∧
        (assignment.state = .claimed ∨ assignment.state = .unknown) ∧
        attempt.assignmentID = assignment.id ∧ assignment.threadID ≠ "" ∧
        o.assignmentEpoch = assignment.epoch ∧ o.workspacePath ≠ "" then
      some { attempt := attempt, assignment := assignment, workspacePath := o.workspacePath }
    else none

def reconcileWorkerThrottle (snapshot : WorkerSnapshot) (directives : List ThrottleDirective)
    (pools : List QuotaPool) : Store × List Err :=
  let worker := snapshot.workerID
  let (s, errs) := s.throttleStage x worker .pending planPendingThrottleCommands
  if errs ≠ [] then (s, errs)
  else
    let bindings := s.throttleBindings snapshot
    let (s, errs) := s.throttleStage x worker .delivery fun previous =>
      planThrottleDeliveries x.hash previous x.now directives bindings
    if errs ≠ [] then (s, errs)
    else
      let (s, errs) := s.throttleStage x worker .expiry fun previous =>
        planThrottleDeadlineExpirations x.hash previous x.now
      if errs ≠ [] then (s, errs)
      else
        s.throttleStage x worker .resume fun previous =>
          planThrottleResumes x.hash previous x.now s.quotaAdmissions.rows pools

end Store

end Steward
