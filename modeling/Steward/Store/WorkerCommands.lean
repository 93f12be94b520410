import Steward.Store.Assignments
import Steward.Store.WorkerReconcile

/-!
# Lifecycle commands on record

`CommitWorkerCommands`, `LoadPendingWorkerCommands` and `AcknowledgeWorkerCommand` of
`internal/store/sqlite/worker_commands.go`, and the sessions they are fenced by:
`SaveWorkerSnapshot` and `AdvanceCoordinatorEpoch` of `fleet.go`. A command is on record before it
is delivered, and a kind of command for one epoch of an assignment has one row. The review fence
reads tables outside this model; its answer is a parameter.
-/

namespace Steward

open Except Text Table

def WorkerCommand.sameEffect (a b : WorkerCommand) : Bool :=
  a.assignmentID = b.assignmentID ∧ a.assignmentEpoch = b.assignmentEpoch ∧ a.kind = b.kind

def workerCommandError (text : String) : Err := { text := text, sentinel := some .workerCommand }

variable (snapshot : WorkerSnapshot) (command : WorkerCommand) (assignment : Assignment)

def validateWorkerCommand : Except Err Unit :=
  refuseWhen (!proper command.id ∨ command.workerID = "" ∨ command.workerEpoch = "" ∨
      command.coordinatorEpoch < 1 ∨ command.assignmentID = "" ∨ command.assignmentEpoch < 1 ∨
      command.expectedWorkerSequence < 1 ∨ command.createdAt = 0)
    (workerCommandError "invalid command identity or snapshot")

def commandMatches : Bool :=
  assignment.workerID = command.workerID ∧ assignment.workerEpoch = command.workerEpoch ∧
    assignment.epoch = command.assignmentEpoch

/-- The custody states a command may address: new work needs a claim, stop and collection also
address unknown custody. -/
def commandAddresses : Bool :=
  assignment.state = .claimed ∨ (assignment.state = .unknown ∧ command.kind.newWork = false)

def validateCommandAssignment : Except Err Unit := do
  refuseWhen (!commandMatches command assignment)
    (workerCommandError ("assignment identity mismatch for " ++ quote command.id))
  refuseWhen (!commandAddresses command assignment)
    (workerCommandError (if command.kind.newWork then
        "command " ++ quote command.id ++ " requires a claimed assignment"
      else
        "command " ++ quote command.id ++ " cannot target assignment state " ++
          quote assignment.state.text))

def workerCommandCurrentlyDeliverable : Bool :=
  commandMatches command assignment && commandAddresses command assignment

def validateWorkerAcknowledgement (ack : WorkerAcknowledgement) : Except Err Unit :=
  refuseWhen (ack.commandID = "" ∨ ack.workerID = "" ∨ ack.workerEpoch = "" ∨
      ack.coordinatorEpoch < 1 ∨ ack.assignmentID = "" ∨ ack.assignmentEpoch < 1 ∨
      ack.workerSequence < 1 ∨ ack.acknowledgedAt = 0)
    { text := "invalid acknowledgement identity or snapshot", sentinel := some .workerAcknowledgement }

def attemptStartable (attempt : Attempt) (assignment : Assignment) : Bool :=
  attempt.id = assignment.attemptID ∧ attempt.assignmentID = assignment.id ∧
    attempt.progress.terminal = false ∧ attempt.completedAt = none ∧
    attempt.progress ≠ .waitingExternal ∧ attempt.control ≠ .waitingExternal ∧
    attempt.control ≠ .stopped

def commandCommittedID (commandID : String) : String := "worker-command:" ++ commandID ++ ":committed"

def commandAcknowledgedID (commandID : String) : String :=
  "worker-command:" ++ commandID ++ ":acknowledged"

def validateWorkerSnapshot : Except Err Unit := do
  refuseWhen (!proper snapshot.workerID ∨ !proper snapshot.workerEpoch ∨
      snapshot.coordinatorEpoch < 1 ∨ snapshot.sequence < 1 ∨ snapshot.observedAt = 0 ∨
      ¬snapshot.observedAt < snapshot.validUntil)
    { text := "invalid worker snapshot identity, epoch, sequence, or validity" }
  refuseWhen (snapshot.inventory.id ≠ snapshot.workerID)
    { text := "worker snapshot " ++ quote snapshot.workerID ++ " inventory identity mismatch" }

/-- A snapshot without what advances on an otherwise idle report. -/
def WorkerSnapshot.substance : WorkerSnapshot :=
  { snapshot with
    sequence := 0
    observedAt := 0
    validUntil := 0
    assignments := snapshot.assignments.map fun o => { o with observedAt := 0 } }

def workerSnapshotAuditID : String :=
  numbered ("worker-snapshot:" ++ snapshot.workerID ++ ":" ++ snapshot.workerEpoch)
    snapshot.sequence

def workerSnapshotRefreshDue (stored incoming : WorkerSnapshot) : Bool :=
  ¬incoming.observedAt < stored.observedAt + (stored.validUntil - stored.observedAt) / 2

namespace Store

/-! ## Sessions -/

def insertWorkerSnapshotAuditEvent (s : Store) (snapshot : WorkerSnapshot) : Except Err Store :=
  let outcome := if snapshot.connected then "observed" else "disconnected"
  s.insertNativeAuditEvent
    { id := workerSnapshotAuditID snapshot
      kind := "worker-snapshot-" ++ outcome
      targetType := .worker
      targetID := snapshot.workerID
      actor := "worker:" ++ snapshot.workerID
      reason := "worker snapshot observed"
      createdAt := snapshot.observedAt }
    { coordinatorEpoch := snapshot.coordinatorEpoch
      workerEpoch := snapshot.workerEpoch
      workerSequence := snapshot.sequence
      revision := snapshot.sequence
      idempotencyIdentity := workerSnapshotAuditID snapshot
      outcome := outcome }

def snapshotStale (current snapshot : WorkerSnapshot) : Bool :=
  (current.workerEpoch = snapshot.workerEpoch ∧ snapshot.sequence ≤ current.sequence) ∨
    ¬current.observedAt < snapshot.observedAt

/-- Store a worker's report; the stored observation is returned. With `observe`, one that says
nothing new is stored only when a refresh is due. The operator stops it may prove are writes of
their own. -/
def saveWorkerSnapshot (s : Store) (snapshot : WorkerSnapshot) (observe refresh : Bool) :
    Except Err (Store × WorkerSnapshot) := do
  validateWorkerSnapshot snapshot
  s.requireCoordinatorEpoch snapshot.coordinatorEpoch
  let stored := { s with workerSnapshots := s.workerSnapshots.put snapshot }
  match s.loadWorkerSnapshot snapshot.workerID with
  | none =>
    let s ← stored.insertWorkerSnapshotAuditEvent snapshot
    return (s, snapshot)
  | some current =>
    if current = snapshot then
      if observe then return (s, current)
      else
        let s ← s.insertWorkerSnapshotAuditEvent snapshot
        return (s, snapshot)
    else
      refuseWhen (snapshotStale current snapshot)
        { text := "worker " ++ quote snapshot.workerID ++ " epoch " ++ quote snapshot.workerEpoch ++
            " sequence " ++ toString snapshot.sequence
          sentinel := some .staleWorkerSnapshot }
      if observe ∧ current.substance = snapshot.substance then
        if !refresh ∧ !workerSnapshotRefreshDue current snapshot then return (s, current)
        else return (stored, snapshot)
      else
        let s ← stored.insertWorkerSnapshotAuditEvent snapshot
        return (s, snapshot)

def advanceCoordinatorEpoch (s : Store) (expected : Int) (now : Time) : Except Err Store := do
  s.requireCoordinatorEpoch expected
  let s := { s with coordinatorEpoch := s.coordinatorEpoch + 1 }
  let identity := numbered "coordinator-epoch" s.coordinatorEpoch
  s.insertNativeAuditEvent
    { id := identity
      kind := "coordinator-epoch-advanced"
      targetType := .coordinator
      targetID := "coordinator"
      actor := "coordinator"
      reason := "coordinator epoch advanced"
      createdAt := now }
    { coordinatorEpoch := s.coordinatorEpoch
      expectedRevision := expected
      revision := s.coordinatorEpoch
      idempotencyIdentity := identity
      outcome := "advanced" }

/-! ## Committing commands -/

section

variable (review : Attempt → Except Err String)

def workerCommandAttemptEligible (s : Store) (command : WorkerCommand) (assignment : Assignment) :
    Except Err Bool :=
  if command.kind.newWork = false then .ok true
  else do
    let attempt ← s.loadAttempt assignment.attemptID
    let refusal ← review attempt
    return refusal = "" && attemptStartable attempt assignment

def insertWorkerCommandAuditEvent (s : Store) (command : WorkerCommand) : Except Err Store :=
  s.insertNativeAuditEvent
    { id := commandCommittedID command.id
      kind := "worker-command-committed"
      targetType := .workerCommand
      targetID := command.id
      actor := "coordinator"
      reason := "worker command persisted before delivery"
      createdAt := command.createdAt }
    { coordinatorEpoch := command.coordinatorEpoch
      workerEpoch := command.workerEpoch
      assignmentEpoch := command.assignmentEpoch
      workerSequence := command.expectedWorkerSequence
      idempotencyIdentity := command.id
      outcome := command.kind.text }

/-- A command for the same effect that an earlier authority issued and nobody acknowledged: it can
no longer be delivered, and a fresh one supersedes it. -/
def superseded (command : WorkerCommand) (record : WorkerCommandRecord) : Bool :=
  record.command.sameEffect command && record.acknowledgement.isNone &&
    decide (record.command.coordinatorEpoch ≠ command.coordinatorEpoch)

def insertWorkerCommand (s : Store) (command : WorkerCommand) : Except Err Store :=
  let kept := s.workerCommands.filter fun r => !superseded command r
  if kept.rows.any (fun r => r.command.id = command.id || r.command.sameEffect command) then
    .error (workerCommandError ("commit command " ++ quote command.id))
  else .ok { s with workerCommands := kept.put { command := command } }

/-- The exact fresh snapshot a new command names must be the stored one, and the worker ready. -/
def requireCommandWorker (s : Store) (command : WorkerCommand) : Except Err Unit :=
  let changed : Err :=
    { text := "worker " ++ quote command.workerID ++ " snapshot changed"
      sentinel := some .staleWorkerSnapshot }
  match s.loadWorkerSnapshot command.workerID with
  | none => .error changed
  | some snapshot => do
    refuseWhen (snapshot.workerEpoch ≠ command.workerEpoch ∨
      snapshot.coordinatorEpoch ≠ command.coordinatorEpoch ∨
      snapshot.sequence ≠ command.expectedWorkerSequence) changed
    refuseWhen (!workerAccepts snapshot command.createdAt)
      { text := "worker " ++ quote command.workerID ++ " is disconnected, stale, or not ready"
        sentinel := some .workerUnavailable }

def commitNewCommand (s : Store) (command : WorkerCommand) :
    Except Err (Store × Option WorkerCommand) := do
  s.requireCoordinatorEpoch command.coordinatorEpoch
  s.requireCommandWorker command
  let assignment ← s.loadAssignment command.assignmentID
  validateCommandAssignment command assignment
  let eligible ← s.workerCommandAttemptEligible review command assignment
  if !eligible then return (s, none)
  let s ← s.insertWorkerCommand command
  let s ← s.insertWorkerCommandAuditEvent command
  return (s, some command)

def commitWorkerCommand (s : Store) (command : WorkerCommand) :
    Except Err (Store × Option WorkerCommand) :=
  match s.workerCommands.get? command.id with
  | some current =>
    if current.command ≠ command then
      .error (workerCommandError ("command " ++ quote command.id ++ " replay changes identity"))
    else do
      let s ← s.insertWorkerCommandAuditEvent command
      return (s, some command)
  | none => s.commitNewCommand review command

def commitCommandBatch (s : Store) :
    List WorkerCommand → List String → Except Err (Store × List WorkerCommand)
  | [], _ => .ok (s, [])
  | command :: commands, seen => do
    validateWorkerCommand command
    refuseWhen (command.id ∈ seen) (workerCommandError ("duplicate command " ++ quote command.id))
    let (s, committed) ← s.commitWorkerCommand review command
    let (s, rest) ← commitCommandBatch s commands (command.id :: seen)
    return (s, committed.toList ++ rest)

def commitWorkerCommands (s : Store) (commands : List WorkerCommand) :
    Except Err (Store × List WorkerCommand) :=
  if commands = [] then .error (workerCommandError "empty command batch")
  else s.commitCommandBatch review commands []

/-! ## Delivery -/

def deliverableCommands (s : Store) : List WorkerCommand → Except Err (List WorkerCommand)
  | [] => .ok []
  | command :: commands => do
    let assignment ← s.loadAssignment command.assignmentID
    let eligible ←
      if workerCommandCurrentlyDeliverable command assignment then
        s.workerCommandAttemptEligible review command assignment
      else .ok false
    let rest ← s.deliverableCommands commands
    return if eligible then command :: rest else rest

def awaitsDelivery (workerID workerEpoch : String) (coordinatorEpoch workerSequence : Int)
    (record : WorkerCommandRecord) : Bool :=
  record.command.workerID = workerID ∧ record.command.workerEpoch = workerEpoch ∧
    record.command.coordinatorEpoch = coordinatorEpoch ∧
    record.command.expectedWorkerSequence ≤ workerSequence ∧ record.acknowledgement = none

def loadPendingWorkerCommands (s : Store) (workerID workerEpoch : String)
    (coordinatorEpoch workerSequence : Int) (now : Time) : Except Err (List WorkerCommand) := do
  s.requireCoordinatorEpoch coordinatorEpoch
  s.requireCurrentWorker workerID workerEpoch coordinatorEpoch workerSequence now
  s.deliverableCommands review ((s.workerCommands.rows.filter
    (awaitsDelivery workerID workerEpoch coordinatorEpoch workerSequence)).map fun r => r.command)

end

/-! ## Acknowledgement -/

variable (s : Store) (workerID : String) (ack : WorkerAcknowledgement)

def insertWorkerAcknowledgementAuditEvent : Except Err Store :=
  let outcome := if ack.accepted then "accepted" else "rejected"
  s.insertNativeAuditEvent
    { id := commandAcknowledgedID ack.commandID
      kind := "worker-command-" ++ outcome
      targetType := .workerCommand
      targetID := ack.commandID
      actor := "worker:" ++ ack.workerID
      reason := "worker command acknowledgement observed"
      createdAt := ack.acknowledgedAt }
    { coordinatorEpoch := ack.coordinatorEpoch
      workerEpoch := ack.workerEpoch
      assignmentEpoch := ack.assignmentEpoch
      workerSequence := ack.workerSequence
      idempotencyIdentity := ack.commandID
      outcome := outcome }

/-- The sequence advances on every exchange, so only the epochs fence an acknowledgement. -/
def requireWorkerAcknowledgementSnapshot : Except Err Unit :=
  let stale : Err :=
    { text := "worker " ++ quote ack.workerID ++ " acknowledgement snapshot is not current"
      sentinel := some .staleWorkerSnapshot }
  match s.loadWorkerSnapshot ack.workerID with
  | none => .error stale
  | some snapshot => do
    refuseWhen (snapshot.workerEpoch ≠ ack.workerEpoch ∨
      snapshot.coordinatorEpoch ≠ ack.coordinatorEpoch) stale
    refuseWhen (!workerAccepts snapshot ack.acknowledgedAt)
      { text := "worker " ++ quote ack.workerID ++ " is disconnected, stale, or not ready"
        sentinel := some .workerUnavailable }

def answers (command : WorkerCommand) : Bool :=
  command.workerID = ack.workerID ∧ command.workerEpoch = ack.workerEpoch ∧
    command.coordinatorEpoch = ack.coordinatorEpoch ∧ command.assignmentID = ack.assignmentID ∧
    command.assignmentEpoch = ack.assignmentEpoch

def acknowledgeWorkerCommand : Except Err Store := do
  validateWorkerAcknowledgement ack
  let record := s.workerCommands.get? ack.commandID
  match record.bind fun r => r.acknowledgement with
  | some current =>
    refuseWhen (current ≠ ack)
      { text := "acknowledgement for " ++ quote ack.commandID ++ " conflicts with durable response"
        sentinel := some .workerAcknowledgement }
    s.insertWorkerAcknowledgementAuditEvent ack
  | none =>
    s.requireCoordinatorEpoch ack.coordinatorEpoch
    s.requireWorkerAcknowledgementSnapshot ack
    let mismatch : Err :=
      { text := "command identity mismatch for " ++ quote ack.commandID
        sentinel := some .workerAcknowledgement }
    match record with
    | none => .error mismatch
    | some record =>
      refuseWhen (!answers ack record.command) mismatch
      let s :=
        { s with
          workerCommands := s.workerCommands.put { record with acknowledgement := some ack } }
      s.insertWorkerAcknowledgementAuditEvent ack

/-! ## What reconciliation reads -/

def workerCommandsOf : List WorkerCommandRecord :=
  s.workerCommands.rows.filter fun r => r.command.workerID = workerID

def workerRecords : CoordinatorRecords :=
  let assignments := s.assignments.rows.filter fun a => a.workerID = workerID
  { assignments := assignments
    attempts := s.attempts.rows.filter fun t => assignments.any fun a => a.attemptID = t.id }

def loadWorkerCommandRecordsFor : Except Err (List WorkerCommandRecord) :=
  if workerID = "" then .error { text := "worker identity is required" }
  else .ok (s.workerCommandsOf workerID)

def loadWorkerExchangeRecords : Except Err CoordinatorRecords :=
  if workerID = "" then .error { text := "worker identity is required" }
  else .ok (s.workerRecords workerID)

/-! ## What the transactions do -/

section

variable {s s' : Store}

/-- A stored report is valid, replaces the worker's row or leaves it, and is audited under its own
identity. -/
theorem saveWorkerSnapshot_ok {snapshot stored : WorkerSnapshot} {observe refresh : Bool}
    (h : s.saveWorkerSnapshot snapshot observe refresh = .ok (s', stored)) :
    validateWorkerSnapshot snapshot = .ok () ∧ ∃ workerSnapshots auditEvents,
      s' = { s with workerSnapshots := workerSnapshots, auditEvents := auditEvents } ∧
      (workerSnapshots = s.workerSnapshots ∨ workerSnapshots = s.workerSnapshots.put snapshot) ∧
      EventsFrom s.auditEvents auditEvents (workerSnapshotAuditID snapshot) := by
  obtain ⟨⟨⟩, hvalid, h⟩ := of_bind h
  replace h := past_guard h
  refine ⟨hvalid, ?_⟩
  have hsame : EventsFrom s.auditEvents s.auditEvents (workerSnapshotAuditID snapshot) :=
    fun e he => .inl he
  split at h
  · obtain ⟨auditEvents, rfl, hevents⟩ := audited_ok h
    exact ⟨_, auditEvents, rfl, .inr rfl, hevents⟩
  · split at h
    · split at h
      · cases h
        exact ⟨_, _, rfl, .inl rfl, hsame⟩
      · obtain ⟨auditEvents, rfl, hevents⟩ := audited_ok h
        exact ⟨_, auditEvents, rfl, .inl rfl, hevents⟩
    · replace h := past_guard h
      split at h
      · split at h
        · cases h
          exact ⟨_, _, rfl, .inl rfl, hsame⟩
        · cases h
          exact ⟨_, _, rfl, .inr rfl, hsame⟩
      · obtain ⟨auditEvents, rfl, hevents⟩ := audited_ok h
        exact ⟨_, auditEvents, rfl, .inr rfl, hevents⟩

theorem advanceCoordinatorEpoch_ok {expected : Int} {now : Time}
    (h : s.advanceCoordinatorEpoch expected now = .ok s') :
    ∃ auditEvents, s' = { s with coordinatorEpoch := s.coordinatorEpoch + 1, auditEvents := auditEvents } ∧
      EventsFrom s.auditEvents auditEvents
      (numbered "coordinator-epoch" (s.coordinatorEpoch + 1)) := by
  replace h := past_guard h
  obtain ⟨auditEvents, rfl, hevents⟩ := insertNativeAuditEvent_spec h
  exact ⟨auditEvents, rfl, hevents⟩

theorem acknowledgeWorkerCommand_ok {ack : WorkerAcknowledgement}
    (h : s.acknowledgeWorkerCommand ack = .ok s') :
    ∃ record ∈ s.workerCommands.rows, ∃ auditEvents,
      EventsFrom s.auditEvents auditEvents (commandAcknowledgedID ack.commandID) ∧
      (s' = { s with auditEvents := auditEvents } ∨ record.acknowledgement = none ∧
        s' = { s with
          workerCommands := s.workerCommands.put { record with acknowledgement := some ack }
          auditEvents := auditEvents }) := by
  replace h := past_guard h
  dsimp only at h
  split at h
  · rename_i current hack
    obtain ⟨record, hrecord, -⟩ := Option.bind_eq_some_iff.1 hack
    replace h := past_guard h
    obtain ⟨auditEvents, rfl, hevents⟩ := insertNativeAuditEvent_spec h
    exact ⟨record, mem_of_get? hrecord, auditEvents, hevents, .inl rfl⟩
  · rename_i hack
    replace h := past_guard h
    obtain ⟨-, -, h⟩ := of_bind h
    split at h
    · cases h
    · rename_i record hrecord
      replace h := past_guard h
      obtain ⟨auditEvents, rfl, hevents⟩ := insertNativeAuditEvent_spec h
      rw [hrecord, Option.bind_some] at hack
      exact ⟨record, mem_of_get? hrecord, auditEvents, hevents, .inr ⟨hack, rfl⟩⟩

/-! ## What a commit does -/

def commanded (s : Store) (command : WorkerCommand) (auditEvents : Table AuditEvent.id) : Store :=
  { s with
    workerCommands :=
      (s.workerCommands.filter fun r => !superseded command r).put { command := command }
    auditEvents := auditEvents }

def EffectFree (s : Store) (command : WorkerCommand) : Prop :=
  ∀ r ∈ s.workerCommands.rows, superseded command r = false →
    r.command.id ≠ command.id ∧ r.command.sameEffect command = false

variable {command : WorkerCommand}

theorem any_kept_iff : ((s.workerCommands.filter fun r => !superseded command r).rows.any fun r =>
      r.command.id = command.id || r.command.sameEffect command) = false ↔ s.EffectFree command := by
  simp only [filter, List.any_eq_false, List.mem_filter, Bool.not_eq_true', Bool.or_eq_true,
    decide_eq_true_eq, not_or, Bool.not_eq_true, and_imp]
  rfl

theorem insertWorkerCommand_ok (h : s.insertWorkerCommand command = .ok s') :
    s.EffectFree command ∧ s' = s.commanded command s.auditEvents := by
  unfold insertWorkerCommand at h
  dsimp only at h
  split_ifs at h with hany
  exact ⟨any_kept_iff.1 (Bool.not_eq_true _ ▸ hany), (Except.ok.inj h).symm⟩

theorem insertWorkerCommand_of_free (h : s.EffectFree command) :
    s.insertWorkerCommand command = .ok (s.commanded command s.auditEvents) := by
  unfold insertWorkerCommand
  rw [if_neg (by rw [any_kept_iff.2 h]; exact Bool.false_ne_true)]
  rfl

variable {review : Attempt → Except Err String}

/-- A committed command leaves the store as it is, is a replay whose audit event is renewed, or
finds its fences and takes its row. -/
theorem commitWorkerCommand_ok {committed : Option WorkerCommand}
    (h : s.commitWorkerCommand review command = .ok (s', committed)) :
    s' = s ∨ ∃ auditEvents, EventsFrom s.auditEvents auditEvents (commandCommittedID command.id) ∧
      ((∃ r ∈ s.workerCommands.rows, r.command = command) ∧
        s' = { s with auditEvents := auditEvents } ∨ s.coordinatorEpoch = command.coordinatorEpoch ∧
        (∃ assignment, s.assignments.get? command.assignmentID = some assignment ∧
          commandMatches command assignment = true) ∧
        s.EffectFree command ∧ s' = s.commanded command auditEvents) := by
  unfold commitWorkerCommand at h
  split at h
  · rename_i current hcurrent
    split_ifs at h with hsame
    obtain ⟨auditEvents, rfl, hevents⟩ := audited_ok h
    exact .inr ⟨auditEvents, hevents, .inl ⟨⟨current, mem_of_get? hcurrent, not_not.1 hsame⟩, rfl⟩⟩
  · obtain ⟨hepoch, h⟩ := of_guard h
    obtain ⟨-, -, h⟩ := of_bind h
    obtain ⟨assignment, hassigned, h⟩ := of_bind h
    obtain ⟨⟨⟩, hvalid, h⟩ := of_bind h
    obtain ⟨eligible, -, h⟩ := of_bind h
    obtain ⟨hmatches, -⟩ := of_guard hvalid
    split at h
    · cases h
      exact .inl rfl
    · obtain ⟨inserted, hinserted, h⟩ := of_bind h
      obtain ⟨auditEvents, rfl, hevents⟩ := audited_ok h
      obtain ⟨hfree, rfl⟩ := insertWorkerCommand_ok hinserted
      exact .inr ⟨auditEvents, hevents, .inr ⟨not_not.1 hepoch,
        ⟨assignment, loadAssignment_ok hassigned, by simpa using hmatches⟩, hfree, rfl⟩⟩

theorem commitCommandBatch_invariant {I : Store → Prop} {commands : List WorkerCommand}
    (hstep : ∀ (s s' : Store), ∀ command ∈ commands, ∀ committed,
    validateWorkerCommand command = .ok () →
      s.commitWorkerCommand review command = .ok (s', committed) → I s → I s')
    {seen : List String} {result : List WorkerCommand}
    (h : s.commitCommandBatch review commands seen = .ok (s', result)) (hs : I s) : I s' := by
  induction commands generalizing s seen result with
  | nil =>
    cases h
    exact hs
  | cons command commands ih =>
    obtain ⟨⟨⟩, hvalid, h⟩ := of_bind h
    replace h := past_guard h
    obtain ⟨⟨s₁, first⟩, hfirst, h⟩ := of_bind h
    obtain ⟨⟨s₂, rest⟩, hrest, h⟩ := of_bind h
    cases h
    refine ih (fun s s' c hc => hstep s s' c (.tail _ hc)) hrest ?_
    exact hstep s s₁ command (.head _) first hvalid hfirst hs

theorem insertWorkerCommandAuditEvent_of_new (hproper : proper command.id = true)
    (htime : command.createdAt ≠ 0) (hnew : s.auditEvents.get? (commandCommittedID command.id) = none) :
    ∃ auditEvents, s.insertWorkerCommandAuditEvent command =
      .ok { s with auditEvents := auditEvents } := by
  have hid : proper (commandCommittedID command.id) = true :=
    proper_between (by decide) (by decide) command.id
  have hkind : proper "worker-command-committed" = true := by decide
  have hactor : proper "coordinator" = true := by decide
  have hreason : proper "worker command persisted before delivery" = true := by decide
  have houtcome : proper command.kind.text = true := by
    cases command.kind <;> decide
  exact ⟨_, insertNativeAuditEvent_of_new hid hkind hproper hactor hreason hproper houtcome
    (by simp) htime hnew⟩

/-- A command that is not on record and finds its fences takes its row if its attempt may be
started, and is skipped if not. -/
theorem commitWorkerCommand_of_new {snapshot : WorkerSnapshot} {assignment : Assignment}
    {eligible : Bool} (hproper : proper command.id = true) (htime : command.createdAt ≠ 0)
    (hepoch : s.coordinatorEpoch = command.coordinatorEpoch)
    (hstored : s.loadWorkerSnapshot command.workerID = some snapshot)
    (hsession : snapshot.workerEpoch = command.workerEpoch ∧
      snapshot.coordinatorEpoch = command.coordinatorEpoch ∧
      snapshot.sequence = command.expectedWorkerSequence)
    (haccepts : workerAccepts snapshot command.createdAt = true)
    (hassigned : s.assignments.get? command.assignmentID = some assignment)
    (hmatches : commandMatches command assignment = true)
    (haddresses : commandAddresses command assignment = true)
    (heligible : s.workerCommandAttemptEligible review command assignment = .ok eligible)
    (hnew : s.workerCommands.get? command.id = none) (hfree : s.EffectFree command)
    (hunaudited : s.auditEvents.get? (commandCommittedID command.id) = none) :
    ∃ auditEvents, s.commitWorkerCommand review command =
      .ok (if eligible then (s.commanded command auditEvents, some command) else (s, none)) := by
  have hworker : s.requireCommandWorker command = .ok () := by
    unfold requireCommandWorker
    simp [hstored, hsession, haccepts, refuseWhen]
  have hcustody : validateCommandAssignment command assignment = .ok () := by
    simp [validateCommandAssignment, hmatches, haddresses, refuseWhen]
  have hload : s.loadAssignment command.assignmentID = .ok assignment := by
    simp [loadAssignment, hassigned]
  unfold commitWorkerCommand
  rw [hnew]
  unfold commitNewCommand requireCoordinatorEpoch
  rw [refuseWhen_of_not (not_not.2 hepoch), ok_bind, hworker, ok_bind, hload,
    ok_bind, hcustody, ok_bind, heligible, ok_bind]
  cases eligible with
  | false => exact ⟨s.auditEvents, rfl⟩
  | true =>
    obtain ⟨auditEvents, haudit⟩ := insertWorkerCommandAuditEvent_of_new
      (s := s.commanded command s.auditEvents) hproper htime hunaudited
    refine ⟨auditEvents, ?_⟩
    rw [insertWorkerCommand_of_free hfree, ok_bind, haudit]
    rfl

/-- When every candidate's custody and attempt can be read, delivery selects exactly those whose
custody and attempt still hold. -/
theorem deliverableCommands_of_readable {commands : List WorkerCommand}
    (h : ∀ c ∈ commands, ∃ assignment eligible, s.loadAssignment c.assignmentID = .ok assignment ∧
      s.workerCommandAttemptEligible review c assignment = .ok eligible) :
    ∃ pending, s.deliverableCommands review commands = .ok pending ∧
      ∀ c, c ∈ pending ↔ c ∈ commands ∧ ∃ assignment, s.loadAssignment
        c.assignmentID = .ok assignment ∧ workerCommandCurrentlyDeliverable c assignment = true ∧
        s.workerCommandAttemptEligible review c assignment = .ok true := by
  induction commands with
  | nil => exact ⟨[], rfl, by simp⟩
  | cons c commands ih =>
    obtain ⟨rest, hrest, hmem⟩ := ih fun c' hc' => h c' (.tail _ hc')
    obtain ⟨assignment, eligible, hassigned, heligible⟩ := h c (.head _)
    have hhead : ∀ c', c' = c → ((∃ assignment', s.loadAssignment c'.assignmentID = .ok assignment' ∧
        workerCommandCurrentlyDeliverable c' assignment' = true ∧
        s.workerCommandAttemptEligible review c' assignment' = .ok true) ↔
        workerCommandCurrentlyDeliverable c assignment = true ∧ eligible = true) := by
      rintro _ rfl
      simp [hassigned, heligible]
    unfold deliverableCommands
    rw [hassigned, ok_bind]
    by_cases hdeliver : workerCommandCurrentlyDeliverable c assignment = true
    · simp only [if_pos hdeliver, heligible, hrest, ok_bind]
      cases eligible with
      | true =>
        refine ⟨c :: rest, rfl, fun c' => ?_⟩
        rw [List.mem_cons, List.mem_cons, hmem, or_and_right]
        exact or_congr_left (iff_self_and.2 fun heq => (hhead c' heq).2 ⟨hdeliver, rfl⟩)
      | false =>
        refine ⟨rest, rfl, fun c' => ?_⟩
        rw [List.mem_cons, hmem, or_and_right]
        refine (or_iff_right fun hc => ?_).symm
        exact Bool.false_ne_true ((hhead c' hc.1).1 hc.2).2
    · simp only [if_neg hdeliver, hrest, ok_bind]
      refine ⟨rest, rfl, fun c' => ?_⟩
      rw [List.mem_cons, hmem, or_and_right]
      refine (or_iff_right fun hc => ?_).symm
      exact hdeliver ((hhead c' hc.1).1 hc.2).1

end

end Store

end Steward
