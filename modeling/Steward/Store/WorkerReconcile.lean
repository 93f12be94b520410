import Steward.Backlog.WorkerReconcile
import Steward.Store.Store

/-!
# Committing reconciled worker state

`CommitWorkerStateTransitions` of `internal/store/sqlite/worker_reconcile.go`: one transaction that
applies a batch of planned assignment and attempt projections, each against its own list of fences.
One refused transition rolls the whole batch back.
-/

namespace Steward

open Except

def staleTransition (text : String) : Err :=
  { text := text, sentinel := some .staleWorkerStateTransition }

def validateWorkerStateTransition (tr : WorkerStateTransition) : Except Err Unit := do
  let expected := tr.expectedAssignment
  let next := tr.assignment
  refuseWhen (tr.coordinatorEpoch < 1 ∨ tr.workerID = "" ∨ tr.workerEpoch = "" ∨
      tr.workerSequence < 1 ∨ tr.transitionedAt = 0 ∨ tr.reason = "")
    (staleTransition "incomplete worker snapshot identity")
  refuseWhen (expected.id = "" ∨ expected.attemptID = "" ∨ expected.workerID ≠ tr.workerID ∨
      expected.epoch < 1 ∨ ¬(expected.state = .claimed ∨ expected.state = .unknown))
    (staleTransition "invalid expected assignment")
  refuseWhen (next.id ≠ expected.id ∨ next.attemptID ≠ expected.attemptID ∨
      next.workerID ≠ expected.workerID ∨ next.epoch ≠ expected.epoch ∨
      next.leaseToken ≠ expected.leaseToken ∨ next.dispatchToken ≠ expected.dispatchToken)
    (staleTransition "assignment identity changed")
  refuseWhen (¬(next.state = .claimed ∨ next.state = .unknown ∨ next.state = .released ∨
      next.state = .completed))
    (staleTransition "invalid next assignment state")
  refuseWhen ((next.state = .claimed ∨ next.state = .unknown) ∧
      next.workerEpoch ≠ tr.workerEpoch)
    (staleTransition "recovered assignment is not bound to current worker epoch")
  refuseWhen (tr.attempt.id ≠ expected.attemptID ∨
      (tr.attempt.assignmentID ≠ next.id ∧ next.state ≠ .released) ∨
      tr.attempt.revision ≠ tr.expectedAttemptRevision + 1)
    (staleTransition "invalid attempt projection")
  refuseWhen (next.state = .released ∧ tr.attempt.assignmentID ≠ "" ∧
      (tr.attempt.assignmentID ≠ next.id ∨ unfinishedWorkerPark tr.attempt = false))
    (staleTransition "released assignment remains attached to attempt")

/-- Release of a parked attempt's custody may change only custody state, lease and times, and the
attempt's revision and time. -/
def durableParkReleaseHandoff (current : Attempt) (custody : Assignment)
    (tr : WorkerStateTransition) : Bool :=
  tr.assignment.unknownSince = none ∧ unfinishedWorkerPark current = true ∧
    current.assignmentID = custody.id ∧ tr.attempt.assignmentID = custody.id ∧
    tr.assignment.leaseExpiresAt = 0 ∧ tr.attempt.updatedAt = tr.transitionedAt ∧
    tr.assignment.updatedAt = tr.transitionedAt ∧
    { tr.attempt with revision := current.revision, updatedAt := current.updatedAt } = current ∧
    { tr.assignment with
      state := custody.state, unknownSince := custody.unknownSince
      leaseExpiresAt := custody.leaseExpiresAt, updatedAt := custody.updatedAt } = custody

def stopProven (snapshot : WorkerSnapshot) (current : Assignment) : Bool :=
  snapshot.assignments.any fun o =>
    o.assignmentID = current.id ∧ o.assignmentEpoch = current.epoch ∧ o.state = .released ∧
      snapshot.workerEpoch = current.workerEpoch ∧ o.threadID = current.threadID

def coordinatorIntent (c : ControlState) : Bool :=
  c = .draining ∨ c = .paused ∨ c = .pausedUncheckpointed ∨ c = .resuming

def checkWorkerStateTransition (snapshot : WorkerSnapshot) (assignment : Assignment)
    (attempt : Attempt) (tr : WorkerStateTransition) : Except Err Unit := do
  refuseWhen (assignment ≠ tr.expectedAssignment)
    (staleTransition ("assignment " ++ quote tr.assignment.id ++ " changed concurrently"))
  refuseWhen (attempt.revision ≠ tr.expectedAttemptRevision ∨ attempt.id ≠ tr.attempt.id ∨
      attempt.id ≠ tr.expectedAssignment.attemptID)
    (staleTransition ("attempt " ++ quote tr.attempt.id ++ " expected revision " ++
      toString tr.expectedAttemptRevision ++ ", current " ++ toString attempt.revision))
  refuseWhen (tr.assignment.state = .released ∧
      (tr.attempt.assignmentID ≠ "" ∨ unfinishedWorkerPark attempt = true) ∧
      durableParkReleaseHandoff attempt assignment tr = false)
    (staleTransition "released assignment does not preserve current parked custody")
  refuseWhen (tr.assignment.state = .claimed ∧ coordinatorIntent attempt.control = true ∧
      (tr.attempt.control = .preparing ∨ tr.attempt.control = .running ∨
        (tr.attempt.control = .resuming ∧ attempt.control ≠ .resuming)))
    (staleTransition "worker projection cannot resume coordinator intent")
  refuseWhen ((tr.reason = workerStateObservedStopped ∨ tr.reason = "stop-accepted" ∨
      (tr.assignment.state = .released ∧
        (coordinatorIntent attempt.control = true ∨ attempt.progress = .cancelled))) ∧
      stopProven snapshot assignment = false)
    (staleTransition "stopped observation execution identity changed")

def checkFinishedAttempt (current : Attempt) (tr : WorkerStateTransition) : Except Err Unit :=
  let next := tr.attempt
  refuseWhen (attemptFinished current = true ∧
      (next.progress ≠ current.progress ∨
        (next.control ≠ .stopped ∧
          ¬(tr.assignment.state = .claimed ∧ next.control = current.control ∧
            workerOwnsStopIntent current = true)) ∨
        next.completedAt ≠ current.completedAt ∨ next.failure ≠ current.failure ∨
        next.checkpointArtifactID ≠ current.checkpointArtifactID ∨
        next.finalSummaryArtifactID ≠ current.finalSummaryArtifactID ∨
        next.reviewVerdict ≠ current.reviewVerdict))
    (staleTransition ("finished attempt " ++ quote current.id ++
      " cannot be projected live or lose evidence"))

def workerStateAuditID (tr : WorkerStateTransition) : String :=
  Text.numbered ("worker-state:" ++ tr.assignment.id) tr.attempt.revision

section

variable (digest : ThrottleCommand → String)

/-- Whether an operator's stop still owns this cancelled revision of the attempt. The digest of a
command is a parameter. -/
def pendingAttentionStop (records : List ThrottleAttemptRecord) (attempt : Attempt)
    (assignment : Assignment) (coordinatorEpoch : Int) : Bool :=
  records.any fun record =>
    match record.command.attentionStop with
    | none => false
    | some binding =>
      record.attemptID = attempt.id ∧ binding.appliedRevision = attempt.revision ∧
        binding.coordinatorEpoch = coordinatorEpoch ∧ binding.workflowRunID = attempt.workflowRunID ∧
        binding.taskID = attempt.taskID ∧ record.command.attemptID = attempt.id ∧
        record.command.route = assignment.route ∧ record.command.assignmentID = assignment.id ∧
        record.command.assignmentEpoch = assignment.epoch ∧
        record.command.workerID = assignment.workerID ∧
        record.command.threadID = assignment.threadID ∧ binding.commandDigest ≠ "" ∧
        binding.commandDigest = digest record.command

namespace Store

variable (s : Store) (tr : WorkerStateTransition)

def loadCoordinatorRecords : CoordinatorRecords :=
  { attempts := s.attempts.rows, assignments := s.assignments.rows }

/-- Write a transition's rows and its audit event. The fenced update of the assignment finds its
row: the row was just compared with the expected assignment. -/
def writeWorkerStateTransition : Except Err Store := do
  let s := { s with assignments := s.assignments.put tr.assignment }
  let s ← s.updateAttempt tr.attempt tr.expectedAttemptRevision
  s.insertNativeAuditEvent
    { id := workerStateAuditID tr
      kind := "worker-state-" ++ tr.assignment.state.text
      workflowRunID := tr.attempt.workflowRunID
      taskID := tr.attempt.taskID
      attemptID := tr.attempt.id
      targetType := .assignment
      targetID := tr.assignment.id
      actor := "worker:" ++ tr.workerID
      reason := tr.reason
      createdAt := tr.transitionedAt }
    { coordinatorEpoch := tr.coordinatorEpoch
      workerEpoch := tr.workerEpoch
      assignmentEpoch := tr.assignment.epoch
      workerSequence := tr.workerSequence
      expectedRevision := tr.expectedAttemptRevision
      revision := tr.attempt.revision
      idempotencyIdentity := workerStateAuditID tr
      outcome := tr.assignment.state.text }

def requireTransitionSnapshot : Except Err WorkerSnapshot :=
  let changed := staleTransition ("worker " ++ quote tr.workerID ++ " snapshot changed or expired")
  match s.loadWorkerSnapshot tr.workerID with
  | none => .error changed
  | some snapshot =>
    if snapshot.workerEpoch ≠ tr.workerEpoch ∨ snapshot.coordinatorEpoch ≠ tr.coordinatorEpoch ∨
        snapshot.sequence ≠ tr.workerSequence ∨ !snapshot.connected ∨
        ¬tr.transitionedAt < snapshot.validUntil then
      .error changed
    else .ok snapshot

def applyWorkerStateTransition : Except Err (Store × Assignment) := do
  s.requireCoordinatorEpoch tr.coordinatorEpoch
  let snapshot ← s.requireTransitionSnapshot tr
  let assignment ← s.loadAssignment tr.assignment.id
  let attempt ← s.loadAttempt tr.attempt.id
  if assignment = tr.assignment ∧ attempt = tr.attempt then
    s.requireNativeAuditEvent (workerStateAuditID tr)
    return (s, assignment)
  checkWorkerStateTransition snapshot assignment attempt tr
  if attempt.progress = .cancelled ∧ attempt.control = .draining ∧
      pendingAttentionStop digest s.throttleAttempts.rows attempt assignment tr.coordinatorEpoch =
      true then
    return (s, assignment)
  checkFinishedAttempt attempt tr
  let s ← s.writeWorkerStateTransition tr
  return (s, tr.assignment)

def applyWorkerStateTransitions (s : Store) :
    List WorkerStateTransition → List String → List String → Except Err (Store × List Assignment)
  | [], _, _ => .ok (s, [])
  | tr :: trs, seenAssignments, seenAttempts => do
    validateWorkerStateTransition tr
    refuseWhen (tr.assignment.id ∈ seenAssignments)
      { text := "worker state transitions repeat assignment " ++ quote tr.assignment.id }
    refuseWhen (tr.attempt.id ∈ seenAttempts)
      { text := "worker state transitions repeat attempt " ++ quote tr.attempt.id }
    let (s, applied) ← s.applyWorkerStateTransition digest tr
    let (s, rest) ← applyWorkerStateTransitions s trs (tr.assignment.id :: seenAssignments)
      (tr.attempt.id :: seenAttempts)
    return (s, applied :: rest)

def commitWorkerStateTransitions (trs : List WorkerStateTransition) :
    Except Err (Store × List Assignment) :=
  s.applyWorkerStateTransitions digest trs [] []

/-! ## What a batch does -/

/-- A transition and the rows it replaces: the live assignment it expects, whose identity it keeps,
and the attempt of that assignment. -/
structure Transitions (s : Store) (tr : WorkerStateTransition) (attempt : Attempt) : Prop where
  assigned : s.assignments.get? tr.assignment.id = some tr.expectedAssignment
  named : tr.expectedAssignment.id ≠ "" ∧ 1 ≤ tr.expectedAssignment.epoch
  live : tr.expectedAssignment.state = .claimed ∨ tr.expectedAssignment.state = .unknown
  same : tr.assignment.id = tr.expectedAssignment.id ∧
    tr.assignment.attemptID = tr.expectedAssignment.attemptID ∧
    tr.assignment.workerID = tr.expectedAssignment.workerID ∧
    tr.assignment.epoch = tr.expectedAssignment.epoch ∧
    tr.assignment.leaseToken = tr.expectedAssignment.leaseToken ∧
    tr.assignment.dispatchToken = tr.expectedAssignment.dispatchToken
  taken : tr.assignment.state ≠ .offered
  attempted : s.attempts.get? tr.attempt.id = some attempt
  projected : tr.attempt.id = tr.assignment.attemptID
  finished : checkFinishedAttempt attempt tr = .ok ()

def transitioned (auditEvents : Table AuditEvent.id) : Store :=
  { s with
    assignments := s.assignments.put tr.assignment
    attempts := s.attempts.put tr.attempt
    auditEvents := auditEvents }

variable {digest} {s s' : Store}

theorem applyWorkerStateTransition_ok {tr : WorkerStateTransition} {applied : Assignment}
    (hvalid : validateWorkerStateTransition tr = .ok ())
    (h : s.applyWorkerStateTransition digest tr = .ok (s', applied)) :
    s' = s ∨ ∃ attempt auditEvents, s.Transitions tr attempt ∧
      EventsFrom s.auditEvents auditEvents (workerStateAuditID tr) ∧
      s' = s.transitioned tr auditEvents := by
  replace h := past_guard h
  obtain ⟨snapshot, -, h⟩ := of_bind h
  obtain ⟨current, hcurrent, h⟩ := of_bind h
  obtain ⟨attempt, hattempt, h⟩ := of_bind h
  split at h
  · obtain ⟨_, -, h⟩ := of_bind h
    exact .inl (congrArg Prod.fst (ok.inj h)).symm
  · obtain ⟨⟨⟩, hchecked, h⟩ := of_bind h
    split at h
    · exact .inl (congrArg Prod.fst (ok.inj h)).symm
    · obtain ⟨⟨⟩, hfinished, h⟩ := of_bind h
      obtain ⟨written, hwritten, h⟩ := of_bind h
      cases h
      obtain ⟨updated, hupdated, haudit⟩ := of_bind hwritten
      obtain ⟨-, rfl⟩ := updateAttempt_ok hupdated
      obtain ⟨auditEvents, rfl, hevents⟩ := insertNativeAuditEvent_spec haudit
      obtain ⟨hexpected, -⟩ := of_guard hchecked
      obtain rfl := not_not.1 hexpected
      obtain ⟨-, hvalid⟩ := of_guard hvalid
      obtain ⟨hnamed, hvalid⟩ := of_guard hvalid
      obtain ⟨hsame, hvalid⟩ := of_guard hvalid
      obtain ⟨hstate, hvalid⟩ := of_guard hvalid
      replace hvalid := past_guard hvalid
      obtain ⟨hprojected, -⟩ := of_guard hvalid
      simp only [not_or, not_and_or, not_not, not_lt] at hnamed hsame hprojected
      refine .inr ⟨attempt, auditEvents, ⟨loadAssignment_ok hcurrent, ⟨hnamed.1, hnamed.2.2.2.1⟩,
        hnamed.2.2.2.2, hsame, ?_, loadAttempt_ok hattempt, hprojected.1.trans hsame.2.1.symm,
        hfinished⟩, hevents, rfl⟩
      rcases not_not.1 hstate with h | h | h | h <;> simp [h]

theorem applyWorkerStateTransitions_rel {R : Store → Store → Prop} (hrefl : ∀ s, R s s)
    (htrans : ∀ a b c, R a b → R b c → R a c)
    (hstep : ∀ (s : Store) (tr : WorkerStateTransition) attempt auditEvents,
      s.Transitions tr attempt → EventsFrom s.auditEvents auditEvents (workerStateAuditID tr) →
        R s (s.transitioned tr auditEvents))
    {trs : List WorkerStateTransition} {seenAssignments seenAttempts : List String}
    {applied : List Assignment}
    (h : s.applyWorkerStateTransitions digest trs seenAssignments seenAttempts = .ok (s', applied)) :
    R s s' := by
  induction trs generalizing s seenAssignments seenAttempts applied with
  | nil =>
    obtain ⟨rfl, -⟩ := Prod.mk.inj (ok.inj h)
    exact hrefl s
  | cons tr trs ih =>
    obtain ⟨⟨⟩, hvalid, h⟩ := of_bind h
    replace h := past_guard h
    replace h := past_guard h
    obtain ⟨⟨s₁, first⟩, hfirst, h⟩ := of_bind h
    obtain ⟨⟨s₂, rest⟩, hrest, h⟩ := of_bind h
    cases h
    refine htrans _ _ _ ?_ (ih hrest)
    rcases applyWorkerStateTransition_ok hvalid hfirst with
      rfl | ⟨_, _, htransitions, hevents, rfl⟩
    · exact hrefl _
    · exact hstep _ _ _ _ htransitions hevents

end Store

end

end Steward
