import Steward.Store.Store

/-!
# Recovering an unknown assignment

`internal/store/sqlite/recovery.go`: an operator resolves an assignment whose execution is unknown.
The resolution is fenced by the coordinator epoch, the assignment's state and epoch and the
attempt's revision, and recorded under its own identity, so a repeat is a replay.
-/

namespace Steward

open Except Text

structure UnknownAssignmentRecoveryDecision where
  recovery : UnknownAssignmentRecovery := {}
  assignment : Assignment := {}
  attempt : Attempt := {}
  event : AuditEvent := {}
  replay : Bool := false
deriving DecidableEq

variable (recovery : UnknownAssignmentRecovery)

def validateUnknownRecovery : Except Err Unit := do
  let invalid : Err :=
    { text := "invalid unknown-assignment recovery", sentinel := some .invalidUnknownRecovery }
  refuseWhen (!proper recovery.id ∨ !proper recovery.assignmentID ∨
      recovery.coordinatorEpoch < 1 ∨ recovery.expectedAssignmentEpoch < 1 ∨
      recovery.expectedAttemptRevision < 0 ∨ !proper recovery.evidenceID ∨
      !proper recovery.actor ∨ !proper recovery.reason ∨ recovery.recoveredAt = 0) invalid
  refuseWhen (recovery.outcome ≠ .stopped ∧ recovery.outcome ≠ .failed) invalid
  refuseWhen (recovery.evidenceSHA256.utf8ByteSize ≠ 64) invalid
  refuseWhen (!recovery.evidenceSHA256.toList.all hexDigit) invalid

def sameUnknownRecoveryIdentity (left right : UnknownAssignmentRecovery) : Bool :=
  { left with recoveredAt := 0 } = { right with recoveredAt := 0 }

def unknownRecoveryEventID : String :=
  "unknown-recovery:" ++ recovery.id

def unknownExecutionFailed : String := "unknown execution resolved as failed by reviewed evidence"

def recoveredAssignment (assignment : Assignment) : Assignment :=
  let released :=
    { assignment.setState .released recovery.recoveredAt with
      leaseExpiresAt := 0
      updatedAt := recovery.recoveredAt }
  if recovery.outcome = .stopped then { released with dispatchState := .stopped } else released

def recoveredAttempt (attempt : Attempt) : Attempt :=
  let freed :=
    { attempt with
      assignmentID := ""
      revision := attempt.revision + 1
      updatedAt := recovery.recoveredAt }
  match recovery.outcome with
  | .stopped =>
    if attempt.progress.terminal ∨ attempt.completedAt ≠ none then { freed with control := .stopped }
    else { freed with progress := .ready, control := .unassigned, threadID := "", failure := "" }
  | .failed =>
    { freed with
      progress := .failed
      control := .stopped
      failure := unknownExecutionFailed
      completedAt := some recovery.recoveredAt }
  | .unset => freed

def unknownRecoveryEvent (assignment : Assignment) (attempt : Attempt) : AuditEvent :=
  { id := unknownRecoveryEventID recovery
    kind := "unknown-assignment-recovered"
    workflowRunID := attempt.workflowRunID
    taskID := attempt.taskID
    attemptID := attempt.id
    targetType := .assignment
    targetID := assignment.id
    actor := recovery.actor
    reason := recovery.reason
    detail := .unknownRecovery recovery attempt
    createdAt := recovery.recoveredAt }

namespace Store

variable (s : Store) (recovery : UnknownAssignmentRecovery)

def replayUnknownRecovery (event : AuditEvent) : Except Err UnknownAssignmentRecoveryDecision :=
  let conflict : Err :=
    { text := "id " ++ quote recovery.id ++ " already has different content"
      sentinel := some .invalidUnknownRecovery }
  match event.detail with
  | .unknownRecovery recorded attempt =>
    if !sameUnknownRecoveryIdentity recorded recovery then .error conflict
    else do
      let assignment ← s.loadAssignment recovery.assignmentID
      return { recovery := recorded, assignment := assignment, attempt := attempt, event := event
               replay := true }
  | _ => .error conflict

/-- Resolve an unknown assignment. The fenced update of the assignment finds the row it was just
compared with. -/
def applyUnknownRecovery : Except Err (Store × UnknownAssignmentRecoveryDecision) := do
  s.requireCoordinatorEpoch recovery.coordinatorEpoch
  let assignment ← s.loadAssignment recovery.assignmentID
  refuseWhen (assignment.state ≠ .unknown ∨ assignment.epoch ≠ recovery.expectedAssignmentEpoch)
    { text := "assignment " ++ quote assignment.id ++ " state or epoch changed"
      sentinel := some .staleUnknownRecovery }
  let attempt ← s.loadAttempt assignment.attemptID
  refuseWhen (attempt.revision ≠ recovery.expectedAttemptRevision ∨
      attempt.assignmentID ≠ assignment.id)
    { text := "attempt " ++ quote attempt.id ++ " changed", sentinel := some .staleUnknownRecovery }
  let assignment := recoveredAssignment recovery assignment
  let attempt := recoveredAttempt recovery attempt
  let s := { s with assignments := s.assignments.put assignment }
  let s ← s.updateAttempt attempt recovery.expectedAttemptRevision
  let event := unknownRecoveryEvent recovery assignment attempt
  let s ← s.insertAuditEvent event
  return (s, { recovery := recovery, assignment := assignment, attempt := attempt, event := event })

def recoverUnknownAssignment : Except Err (Store × UnknownAssignmentRecoveryDecision) := do
  validateUnknownRecovery recovery
  match s.auditEvents.get? (unknownRecoveryEventID recovery) with
  | some event =>
    let decision ← s.replayUnknownRecovery recovery event
    return (s, decision)
  | none => s.applyUnknownRecovery recovery

/-! ## What a recovery does -/

/-- The recovery is new and its fences hold for this assignment and this attempt. -/
structure Recoverable (s : Store) (recovery : UnknownAssignmentRecovery) (assignment : Assignment)
    (attempt : Attempt) : Prop where
  valid : validateUnknownRecovery recovery = .ok ()
  fresh : s.auditEvents.get? (unknownRecoveryEventID recovery) = none
  coordinator : s.coordinatorEpoch = recovery.coordinatorEpoch
  assigned : s.assignments.get? recovery.assignmentID = some assignment
  unknown : assignment.state = .unknown
  epoch : assignment.epoch = recovery.expectedAssignmentEpoch
  attempted : s.attempts.get? assignment.attemptID = some attempt
  revision : attempt.revision = recovery.expectedAttemptRevision
  custody : attempt.assignmentID = assignment.id

def recovered (s : Store) (recovery : UnknownAssignmentRecovery) (assignment : Assignment)
    (attempt : Attempt) : Store :=
  { s with
    assignments := s.assignments.put (recoveredAssignment recovery assignment)
    attempts := s.attempts.put (recoveredAttempt recovery attempt)
    auditEvents :=
      s.auditEvents.put (unknownRecoveryEvent recovery (recoveredAssignment recovery assignment)
        (recoveredAttempt recovery attempt)) }

@[simp] theorem recoveredAttempt_id (attempt : Attempt) :
    (recoveredAttempt recovery attempt).id = attempt.id := by
  unfold recoveredAttempt
  split
  · split_ifs <;> rfl
  · rfl
  · rfl

variable {s : Store} {recovery : UnknownAssignmentRecovery}

theorem validateUnknownRecovery_ok (h : validateUnknownRecovery recovery = .ok ()) :
    proper recovery.id = true ∧ recovery.recoveredAt ≠ 0 := by
  obtain ⟨hfields, -⟩ := of_guard h
  simp only [not_or] at hfields
  obtain ⟨hid, -, -, -, -, -, -, -, htime⟩ := hfields
  exact ⟨by simpa using hid, htime⟩

theorem recoverUnknownAssignment_of_recoverable {assignment : Assignment} {attempt : Attempt}
    (h : s.Recoverable recovery assignment attempt) :
    ∃ decision, s.recoverUnknownAssignment recovery =
      .ok (s.recovered recovery assignment attempt, decision) := by
  obtain ⟨hid, htime⟩ := validateUnknownRecovery_ok h.valid
  have hproper : proper (unknownRecoveryEventID recovery) = true :=
    proper_append (by decide) hid
  have hkind : proper "unknown-assignment-recovered" = true := by decide
  have hrow : s.attempts.get? (recoveredAttempt recovery attempt).id = some attempt := by
    rw [recoveredAttempt_id, Table.key_of_get? h.attempted, h.attempted]
  have hupdate : ∀ assignments, updateAttempt { s with assignments := assignments }
      (recoveredAttempt recovery attempt) recovery.expectedAttemptRevision = .ok
          { s with
            assignments := assignments
            attempts := s.attempts.put (recoveredAttempt recovery attempt) } :=
    fun _ => updateAttempt_of_current hrow h.revision
  have haudit : ∀ s₁ : Store, s₁.auditEvents = s.auditEvents → ∀ assignment attempt,
      s₁.insertAuditEvent (unknownRecoveryEvent recovery assignment attempt) = .ok
          { s₁ with
            auditEvents := s₁.auditEvents.put
              (unknownRecoveryEvent recovery assignment attempt) } := by
    intro s₁ hs₁ _ _
    exact insertAuditEvent_of_new hproper hkind htime (by rw [hs₁]; exact h.fresh)
  unfold recoverUnknownAssignment
  rw [h.valid, ok_bind, h.fresh]
  unfold applyUnknownRecovery requireCoordinatorEpoch loadAssignment loadAttempt
  rw [refuseWhen_of_not (by simp [h.coordinator]), ok_bind, h.assigned]
  rw [ok_bind, refuseWhen_of_not (by simp [h.unknown, h.epoch]), ok_bind, h.attempted]
  dsimp only
  rw [ok_bind, refuseWhen_of_not (by simp [h.revision, h.custody]), ok_bind,
    hupdate, ok_bind, haudit, ok_bind]
  · exact ⟨_, rfl⟩
  · rfl

theorem recoverUnknownAssignment_ok {s' : Store} {decision : UnknownAssignmentRecoveryDecision}
    (h : s.recoverUnknownAssignment recovery = .ok (s', decision)) :
    s' = s ∨ ∃ assignment attempt, s.Recoverable recovery assignment attempt ∧
      s' = s.recovered recovery assignment attempt := by
  have hcommit := h
  obtain ⟨⟨⟩, hvalid, h⟩ := of_bind h
  split at h
  · obtain ⟨_, -, h⟩ := of_bind h
    exact .inl (congrArg Prod.fst (Except.ok.inj h)).symm
  · rename_i hfresh
    obtain ⟨hcoordinator, h⟩ := of_guard h
    obtain ⟨assignment, hassignment, h⟩ := of_bind h
    obtain ⟨hstate, h⟩ := of_guard h
    obtain ⟨attempt, hattempt, h⟩ := of_bind h
    obtain ⟨hcustody, -⟩ := of_guard h
    simp only [not_or, not_not] at hcoordinator hstate hcustody
    have hrecoverable : s.Recoverable recovery assignment attempt :=
      ⟨hvalid, hfresh, hcoordinator, loadAssignment_ok hassignment, hstate.1, hstate.2,
        loadAttempt_ok hattempt, hcustody.1, hcustody.2⟩
    obtain ⟨_, happlied⟩ := recoverUnknownAssignment_of_recoverable hrecoverable
    rw [hcommit, Except.ok.injEq, Prod.mk.injEq] at happlied
    exact .inr ⟨assignment, attempt, hrecoverable, happlied.1⟩

end Store

end Steward
