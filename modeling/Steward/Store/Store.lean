import Steward.Domain.Admin
import Steward.Domain.Amendment
import Steward.Domain.SupervisionMessages
import Steward.Domain.TaskWait
import Steward.Domain.Worker
import Steward.Lib.Table

/-!
# The coordinator's store

The tables of `internal/store/sqlite` that the modelled transactions use, and the reads and writes
they share. A transaction maps a store to the store it commits, or to an error, and then nothing is
committed. A stored document decodes to the record it encodes, and the columns beside it repeat its
fields.
-/

namespace Steward

open Except Text

structure Store where
  coordinatorEpoch : Int := 1
  workflows : Table Workflow.id := .empty
  workflowRuns : Table WorkflowRun.id := .empty
  tasks : Table Task.id := .empty
  attempts : Table Attempt.id := .empty
  assignments : Table Assignment.id := .empty
  workerSnapshots : Table WorkerSnapshot.workerID := .empty
  workerCommands : Table (fun r : WorkerCommandRecord => r.command.id) := .empty
  auditEvents : Table AuditEvent.id := .empty
  adminCommands : Table AdminCommand.id := .empty
  throttleDirectives : Table ThrottleDirective.id := .empty
  throttleAttempts : Table ThrottleAttemptRecord.key := .empty
  supervision : Table SupervisionRecord.runID := .empty
  gates : Table (fun g : Gate => g.definition.id) := .empty
  decisions : Table GateDecision.id := .empty
  holds : Table Hold.id := .empty
  incidents : Table ReviewIncident.id := .empty
  activations : Table Activation.id := .empty
  supervisionInbox : Table SupervisionInboxRow.id := .empty
  supervisionReceipts : Table SupervisionReceipt.requestID := .empty
  quotaPools : Table QuotaPool.id := .empty
  quotaAdmissions : Table QuotaAdmissionRecord.quotaPoolID := .empty
  taskWaits : Table TaskWait.id := .empty
  taskWaitEvents : Table TaskWaitReconciliation.id := .empty
  artifacts : Table Artifact.id := .empty
  graphRevisions : Table GraphDefinition.key := .empty
  graphRequests : Table GraphRequest.id := .empty

namespace Store

variable (s : Store)

/-! ## Reads -/

def requireCoordinatorEpoch (expected : Int) : Except Err Unit :=
  refuseWhen (s.coordinatorEpoch ≠ expected)
    { text := "expected " ++ toString expected ++ ", current " ++ toString s.coordinatorEpoch
      sentinel := some .staleCoordinatorEpoch }

def loadAttempt (id : String) : Except Err Attempt :=
  match s.attempts.get? id with
  | some a => .ok a
  | none => .error { text := "load attempt " ++ quote id, sentinel := some .noRows }

def loadAssignment (id : String) : Except Err Assignment :=
  match s.assignments.get? id with
  | some a => .ok a
  | none => .error { text := "load assignment " ++ quote id, sentinel := some .noRows }

def loadWorkerSnapshot (workerID : String) : Option WorkerSnapshot :=
  s.workerSnapshots.get? workerID

/-! ## Writes -/

def updateAttempt (attempt : Attempt) (expectedRevision : Int) : Except Err Store :=
  match s.attempts.get? attempt.id with
  | some current =>
    if current.revision = expectedRevision then
      .ok { s with attempts := s.attempts.put attempt }
    else
      .error { text := "attempt " ++ quote attempt.id ++ " expected " ++ toString expectedRevision
               sentinel := some .staleAttemptRevision }
  | none =>
    .error { text := "attempt " ++ quote attempt.id ++ " expected " ++ toString expectedRevision
             sentinel := some .staleAttemptRevision }

/-- Record an audit event. An event of the same identity and content is a replay; one with other
content is refused. -/
def insertAuditEvent (event : AuditEvent) : Except Err Store :=
  if !proper event.id ∨ !proper event.kind ∨ event.createdAt = 0 then
    .error { text := "invalid audit event " ++ quote event.id }
  else
    match s.auditEvents.get? event.id with
    | some existing =>
      if existing = event then .ok s
      else
        .error
          { text := "audit event " ++ quote event.id ++
              " is immutable and already has different content" }
    | none => .ok { s with auditEvents := s.auditEvents.put event }

def requireAuditField (label value : String) : Except Err Unit :=
  refuseWhen (!proper value) { text := "native audit " ++ label ++ " must be nonempty and trimmed" }

def insertNativeAuditEvent (event : AuditEvent) (detail : NativeAuditDetail) : Except Err Store := do
  requireAuditField "id" event.id
  requireAuditField "kind" event.kind
  requireAuditField "target id" event.targetID
  requireAuditField "actor" event.actor
  requireAuditField "reason" event.reason
  requireAuditField "idempotency identity" detail.idempotencyIdentity
  requireAuditField "outcome" detail.outcome
  refuseWhen (event.targetType = .unset ∨ event.createdAt = 0)
    { text := "native audit target type and time are required" }
  s.insertAuditEvent { event with detail := .native detail }

def requireNativeAuditEvent (id : String) : Except Err Unit :=
  refuseWhen (s.auditEvents.get? id = none)
    { text := "production transition is missing native audit event " ++ quote id }

/-! ## What the reads and writes do -/

variable {s : Store}

theorem loadAttempt_eq_ok_iff {id : String} {attempt : Attempt} :
    s.loadAttempt id = .ok attempt ↔ s.attempts.get? id = some attempt := by
  unfold loadAttempt
  split <;> simp [*]

theorem loadAttempt_ok {id : String} {attempt : Attempt}
    (h : s.loadAttempt id = .ok attempt) : s.attempts.get? id = some attempt :=
  loadAttempt_eq_ok_iff.1 h

theorem loadAssignment_ok {id : String} {assignment : Assignment}
    (h : s.loadAssignment id = .ok assignment) : s.assignments.get? id = some assignment := by
  unfold loadAssignment at h
  split at h
  · rename_i hrow
    rw [hrow, ok.inj h]
  · cases h

variable {s' : Store}

theorem updateAttempt_ok {attempt : Attempt} {expectedRevision : Int}
    (h : s.updateAttempt attempt expectedRevision = .ok s') :
    (∃ current, s.attempts.get? attempt.id = some current ∧ current.revision = expectedRevision) ∧
      s' = { s with attempts := s.attempts.put attempt } := by
  unfold updateAttempt at h
  split at h
  · rename_i current hrow
    split_ifs at h with hrevision
    exact ⟨⟨current, hrow, hrevision⟩, (ok.inj h).symm⟩
  · cases h

variable {event : AuditEvent} {detail : NativeAuditDetail}

theorem insertAuditEvent_ok (h : s.insertAuditEvent event = .ok s') :
    ∃ auditEvents, s' = { s with auditEvents := auditEvents } := by
  unfold insertAuditEvent at h
  split_ifs at h
  split at h
  · split_ifs at h
    exact ⟨s.auditEvents, (ok.inj h).symm⟩
  · exact ⟨_, (ok.inj h).symm⟩

theorem insertNativeAuditEvent_ok (h : s.insertNativeAuditEvent event detail = .ok s') :
    ∃ auditEvents, s' = { s with auditEvents := auditEvents } := by
  unfold insertNativeAuditEvent at h
  simp only [requireAuditField, refuseWhen_bind_eq_ok_iff] at h
  exact insertAuditEvent_ok h.2.2.2.2.2.2.2.2

/-- The later table holds no event but the earlier ones and one of the given identity. -/
def EventsFrom (before after : Table AuditEvent.id) (id : String) : Prop :=
  ∀ e ∈ after.rows, e ∈ before.rows ∨ e.id = id

theorem insertAuditEvent_events (h : s.insertAuditEvent event = .ok s') :
    EventsFrom s.auditEvents s'.auditEvents event.id := by
  intro e he
  unfold insertAuditEvent at h
  split_ifs at h
  split at h
  · split_ifs at h
    cases h
    exact .inl he
  · cases h
    rcases Table.mem_put_iff.1 he with rfl | ⟨he, -⟩
    · exact .inr rfl
    · exact .inl he

theorem insertNativeAuditEvent_spec (h : s.insertNativeAuditEvent event detail = .ok s') :
    ∃ auditEvents, s' = { s with auditEvents := auditEvents } ∧
      EventsFrom s.auditEvents auditEvents event.id := by
  obtain ⟨auditEvents, rfl⟩ := insertNativeAuditEvent_ok h
  unfold insertNativeAuditEvent at h
  simp only [requireAuditField, refuseWhen_bind_eq_ok_iff] at h
  exact ⟨auditEvents, rfl, insertAuditEvent_events h.2.2.2.2.2.2.2.2⟩

/-- A transaction that ends by recording its event and answering. -/
theorem audited_ok {β : Type} {x y : β}
    (h : (do let s ← s.insertNativeAuditEvent event detail; .ok (s, x)) = ok (s', y)) :
    ∃ auditEvents, s' = { s with auditEvents := auditEvents } ∧
      EventsFrom s.auditEvents auditEvents event.id := by
  obtain ⟨audited, haudit, h⟩ := of_bind h
  cases h
  exact insertNativeAuditEvent_spec haudit

theorem insertAuditEvent_get? (h : s.insertAuditEvent event = .ok s') :
    s'.auditEvents.get? event.id = some event ∧
      ∀ id e, s.auditEvents.get? id = some e → s'.auditEvents.get? id = some e := by
  unfold insertAuditEvent at h
  split_ifs at h
  split at h
  · rename_i existing hexisting
    split_ifs at h with hsame
    rw [← ok.inj h, hexisting, hsame]
    exact ⟨rfl, fun _ _ he => he⟩
  · rename_i hnone
    cases h
    refine ⟨Table.get?_put_self _ _, fun id e he => ?_⟩
    rw [Table.get?_put_of_ne _ fun hid => ?_, he]
    rw [hid, he] at hnone
    cases hnone

theorem insertNativeAuditEvent_get? (h : s.insertNativeAuditEvent event detail = .ok s') :
    s'.auditEvents.get? event.id = some { event with detail := .native detail } ∧
      ∀ id e, s.auditEvents.get? id = some e → s'.auditEvents.get? id = some e := by
  unfold insertNativeAuditEvent at h
  simp only [requireAuditField, refuseWhen_bind_eq_ok_iff] at h
  have hget := insertAuditEvent_get? h.2.2.2.2.2.2.2.2
  exact hget

theorem updateAttempt_of_current {attempt current : Attempt} {expectedRevision : Int}
    (hcurrent : s.attempts.get? attempt.id = some current)
    (hrevision : current.revision = expectedRevision) :
    s.updateAttempt attempt expectedRevision = .ok { s with attempts := s.attempts.put attempt } := by
  simp [updateAttempt, hcurrent, hrevision]

theorem insertAuditEvent_of_new (hid : proper event.id = true)
    (hkind : proper event.kind = true) (htime : event.createdAt ≠ 0)
    (hnew : s.auditEvents.get? event.id = none) :
    s.insertAuditEvent event = .ok { s with auditEvents := s.auditEvents.put event } := by
  unfold insertAuditEvent
  rw [if_neg (by simp [hid, hkind, htime]), hnew]

theorem insertNativeAuditEvent_of_new (hid : proper event.id = true)
    (hkind : proper event.kind = true) (htarget : proper event.targetID = true)
    (hactor : proper event.actor = true) (hreason : proper event.reason = true)
    (hidentity : proper detail.idempotencyIdentity = true)
    (houtcome : proper detail.outcome = true) (htype : event.targetType ≠ .unset)
    (htime : event.createdAt ≠ 0) (hnew : s.auditEvents.get? event.id = none) :
    s.insertNativeAuditEvent event detail =
      .ok { s with auditEvents := s.auditEvents.put { event with detail := .native detail } } := by
  simp only [insertNativeAuditEvent, requireAuditField, refuseWhen, hid, hkind, htarget,
    hactor, hreason, hidentity, houtcome, htype, htime, Bool.not_true, Bool.false_eq_true, if_false,
    or_self, ok_bind]
  exact insertAuditEvent_of_new hid hkind htime hnew

end Store

end Steward
