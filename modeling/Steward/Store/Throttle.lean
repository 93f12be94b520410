import Steward.Store.TurnOutcome

/-!
# Storing quota admissions and throttle records

`internal/store/sqlite/throttle.go` and `throttle_delivery.go`. A batch of admission transitions is
committed with the directives it gives rise to; a batch of throttle transitions takes the control
states of its records over to their attempts. Both carry optimistic revisions, and an exact replay
changes nothing.
-/

namespace Steward

open Except

/-! ## The shape of a batch -/

def directiveMatchesAdmission : ThrottleSeverity → AdmissionState → Bool
  | .warn, .constrained => true
  | .drain, .draining => true
  | .stop, .closed => true
  | _, _ => false

def ThrottleDirective.boundTo (d : ThrottleDirective) (record : QuotaAdmissionRecord) : Bool :=
  d.quotaPoolID = record.quotaPoolID ∧ d.admissionRevision = record.revision ∧ d.id ≠ "" ∧
    d.bucketEpochs = record.bucketEpochs ∧ directiveMatchesAdmission d.severity record.admission

def checkQuotaAdmissionTransitions : List QuotaAdmissionTransition → Option String → Except Err Unit
  | [], _ => .ok ()
  | t :: rest, previous => do
    refuseWhen (t.record.quotaPoolID = "")
      { text := "quota admission transition pool ID is required" }
    refuseWhen (previous = some t.record.quotaPoolID)
      { text := "quota admission transition repeats pool " ++ quote t.record.quotaPoolID }
    refuseWhen (t.expectedRevision < 0 ∨ t.record.revision ≠ t.expectedRevision + 1)
      { text := "quota admission transition " ++ quote t.record.quotaPoolID ++
          " has invalid revision " ++ toString t.record.revision ++ " after " ++
          toString t.expectedRevision }
    refuseWhen (∃ d ∈ t.directive, d.boundTo t.record = false)
      { text := "quota admission transition " ++ quote t.record.quotaPoolID ++
          " has an invalid directive binding" }
    checkQuotaAdmissionTransitions rest (some t.record.quotaPoolID)

def checkThrottleAttemptTransitions :
    List ThrottleAttemptTransition → Option (String ×ₗ String) → Except Err Unit
  | [], _ => .ok ()
  | t :: rest, previous => do
    let r := t.record
    refuseWhen (r.directiveID = "" ∨ r.attemptID = "" ∨ r.command.id = "" ∨
        r.command.directiveID ≠ r.directiveID ∨ r.command.attemptID ≠ r.attemptID)
      { text := "throttle attempt transition has invalid identity" }
    refuseWhen (t.expectedRevision < 0 ∨ r.revision ≠ t.expectedRevision + 1)
      { text := "throttle attempt transition " ++ quote r.directiveID ++ "/" ++ quote r.attemptID ++
          " has invalid revision " ++ toString r.revision ++ " after " ++
          toString t.expectedRevision }
    refuseWhen (previous = some r.key)
      { text := "throttle attempt transitions repeat directive " ++ quote r.directiveID ++
          " attempt " ++ quote r.attemptID }
    checkThrottleAttemptTransitions rest (some r.key)

namespace Store

/-! ## Admissions -/

section

variable (s : Store)

variable (t : QuotaAdmissionTransition)

def staleQuotaAdmission (actual : Int) : Err :=
  { text := "for pool " ++ quote t.record.quotaPoolID ++ ": expected " ++
      toString t.expectedRevision ++ ", current " ++ toString actual
    sentinel := some .staleQuotaAdmissionRevision }

def compareReplayedDirective (d : ThrottleDirective) : Except Err Bool :=
  match s.throttleDirectives.get? d.id with
  | none =>
    .error { text := "load replayed throttle directive " ++ quote d.id, sentinel := some .noRows }
  | some existing =>
    if existing = d then .ok true
    else .error
      { text := "throttle directive " ++ quote d.id ++ " replay differs from committed record" }

def compareQuotaAdmissionTransition : Except Err Bool :=
  match s.quotaAdmissions.get? t.record.quotaPoolID with
  | none => if t.expectedRevision ≠ 0 then .error (staleQuotaAdmission t 0) else .ok false
  | some existing =>
    if existing = t.record then
      match t.directive with
      | none => .ok true
      | some d => s.compareReplayedDirective d
    else if existing.revision ≠ t.expectedRevision then
      .error (staleQuotaAdmission t existing.revision)
    else .ok false

def insertThrottleDirective (d : ThrottleDirective) : Except Err Store :=
  if s.throttleDirectives.rows.any (fun r => r.id = d.id ∨
      (r.quotaPoolID = d.quotaPoolID ∧ r.admissionRevision = d.admissionRevision)) then
    .error { text := "save throttle directive " ++ quote d.id, sentinel := some .constraint }
  else .ok { s with throttleDirectives := s.throttleDirectives.put d }

def saveQuotaAdmission : Except Err Store :=
  let s := { s with quotaAdmissions := s.quotaAdmissions.put t.record }
  match t.directive with
  | none => .ok s
  | some d => s.insertThrottleDirective d

def quotaAdmissionAuditEvent : AuditEvent :=
  { id := Text.numbered ("quota-admission:" ++ t.record.quotaPoolID) t.record.revision
    kind := "quota-admission-" ++ t.record.admission.text
    targetType := .quotaPool
    targetID := t.record.quotaPoolID
    actor := "coordinator"
    reason := t.record.reason
    detail := .quotaAdmission t
    createdAt := t.record.appliedAt }

def commitQuotaAdmissionTransition : Except Err Store := do
  if ← s.compareQuotaAdmissionTransition t then s.insertAuditEvent (quotaAdmissionAuditEvent t)
  else
    let s ← s.saveQuotaAdmission t
    s.insertAuditEvent (quotaAdmissionAuditEvent t)

def commitQuotaAdmissionTransitions (input : List QuotaAdmissionTransition) : Except Err Store := do
  let transitions := input.insertionSort fun a b => a.record.quotaPoolID ≤ b.record.quotaPoolID
  checkQuotaAdmissionTransitions transitions none
  transitions.foldlM commitQuotaAdmissionTransition s

end

/-! ## Throttle records -/

section

variable (s : Store)

def loadThrottleAttemptRecordsFor (workerID : String) : List ThrottleAttemptRecord :=
  s.throttleAttempts.rows.filter fun r => r.command.workerID = workerID

def throttledAttempt (attempt : Attempt) (r : ThrottleAttemptRecord) : Attempt :=
  { attempt with
    control := r.control
    checkpointArtifactID := (r.checkpoint.map (·.artifactID)).getD attempt.checkpointArtifactID
    revision := attempt.revision + 1
    updatedAt := r.updatedAt }

variable (t : ThrottleAttemptTransition)

/-- A record's control reaches a live attempt: a new record can only start to drain one that holds a
provider slot, a later one follows the record it replaces. -/
def syncThrottleAttemptControl : Except Err Store :=
  match s.attempts.get? t.record.attemptID with
  | none => .ok s
  | some attempt =>
    if attempt.progress.terminal ∨ attempt.control = t.record.control then .ok s
    else if t.expectedRevision = 0 then
      if t.record.control ≠ .draining ∨ attempt.control.holdsProviderSlot = false then
        .error
          { text := "new throttle control " ++ quote t.record.control.text ++
              " is invalid from attempt control " ++ quote attempt.control.text }
      else s.updateAttempt (throttledAttempt attempt t.record) attempt.revision
    else if (s.throttleAttempts.get? t.record.key).any (·.revision = t.expectedRevision) then
      s.updateAttempt (throttledAttempt attempt t.record) attempt.revision
    else
      .error
        { text := "load previous throttle control for " ++ quote t.record.directiveID ++ "/" ++
            quote t.record.attemptID
          sentinel := some .noRows }

def throttleAttemptAuditEvent : AuditEvent :=
  let r := t.record
  { id := Text.numbered ("throttle-attempt:" ++ r.directiveID ++ ":" ++ r.attemptID) r.revision
    kind := "throttle-attempt-" ++ r.delivery.text
    attemptID := r.attemptID
    targetType := .throttle
    targetID := r.directiveID ++ "/" ++ r.attemptID
    actor :=
      if r.delivery = .acknowledged ∨ r.delivery = .rejected then "worker:" ++ r.command.workerID
      else "coordinator"
    reason :=
      if Text.blank r.command.reason then "quota throttle attempt transition" else r.command.reason
    createdAt := r.updatedAt }

def throttleAttemptAuditDetail : NativeAuditDetail :=
  { assignmentEpoch := t.record.command.assignmentEpoch
    expectedRevision := t.expectedRevision
    revision := t.record.revision
    idempotencyIdentity := t.record.command.id
    outcome := t.record.delivery.text ++
      (if t.record.result = .unset then "" else ":" ++ t.record.result.text) }

def insertThrottleAttemptAuditEvent : Except Err Store :=
  s.insertNativeAuditEvent (throttleAttemptAuditEvent t) (throttleAttemptAuditDetail t)

abbrev AdvanceAttentionStop := Store → ThrottleAttemptRecord → Except Err (Table TaskWait.id)

def commitThrottleAttemptTransition (advance : AdvanceAttentionStop)
    (t : ThrottleAttemptTransition) : Except Err Store := do
  if ← s.compareThrottleAttemptTransition t then s.insertThrottleAttemptAuditEvent t
  else
    let s ← s.syncThrottleAttemptControl t
    let s := s.saveThrottleAttempt t.record
    let taskWaits ← advance s t.record
    { s with taskWaits := taskWaits }.insertThrottleAttemptAuditEvent t

def commitThrottleAttemptTransitions (advance : AdvanceAttentionStop)
    (input : List ThrottleAttemptTransition) : Except Err Store := do
  let transitions := input.insertionSort fun a b => a.record.key ≤ b.record.key
  checkThrottleAttemptTransitions transitions none
  transitions.foldlM (fun s t => s.commitThrottleAttemptTransition advance t) s

end

/-! ## What a commit does -/

section

variable {s s' : Store}

/-- A replay changes nothing but the audit trail; a new admission replaces the pool's record and
inserts its directive. -/
theorem commitQuotaAdmissionTransition_ok {t : QuotaAdmissionTransition}
    (h : s.commitQuotaAdmissionTransition t = .ok s') :
    s'.throttleAttempts = s.throttleAttempts ∧
      ∀ d ∈ s'.throttleDirectives.rows, d ∈ s.throttleDirectives.rows ∨ d ∈ t.directive := by
  obtain ⟨replayed, -, h⟩ := of_bind h
  cases replayed with
  | true =>
    obtain ⟨auditEvents, rfl⟩ := insertAuditEvent_ok h
    exact ⟨rfl, fun d hd => .inl hd⟩
  | false =>
    obtain ⟨mid, hsave, h⟩ := of_bind h
    obtain ⟨auditEvents, rfl⟩ := insertAuditEvent_ok h
    unfold saveQuotaAdmission at hsave
    cases hdirective : t.directive with
    | none =>
      rw [hdirective] at hsave
      cases hsave
      exact ⟨rfl, fun d hd => .inl hd⟩
    | some d =>
      rw [hdirective] at hsave
      dsimp only at hsave
      unfold insertThrottleDirective at hsave
      split_ifs at hsave
      cases hsave
      refine ⟨rfl, fun e he => ?_⟩
      rcases Table.mem_put_iff.1 he with rfl | ⟨he, -⟩
      · exact .inr rfl
      · exact .inl he

theorem commitQuotaAdmissionTransitions_ok {ts : List QuotaAdmissionTransition}
    (h : s.commitQuotaAdmissionTransitions ts = .ok s') :
    s'.throttleAttempts = s.throttleAttempts ∧ ∀ d ∈ s'.throttleDirectives.rows,
        d ∈ s.throttleDirectives.rows ∨ ∃ t ∈ ts, d ∈ t.directive := by
  obtain ⟨-, -, h⟩ := of_bind h
  refine foldlM_invariant (I := fun s₁ : Store =>
    s₁.throttleAttempts = s.throttleAttempts ∧ ∀ d ∈ s₁.throttleDirectives.rows,
      d ∈ s.throttleDirectives.rows ∨ ∃ t ∈ ts, d ∈ t.directive) ?_ ⟨rfl, fun d hd => .inl hd⟩ h
  rintro s₁ t ht s₂ ⟨hrecords, hdirectives⟩ hstep
  obtain ⟨hrecords', hdirectives'⟩ := commitQuotaAdmissionTransition_ok hstep
  refine ⟨hrecords'.trans hrecords, fun d hd => ?_⟩
  rcases hdirectives' d hd with hd | hd
  · exact hdirectives d hd
  · exact .inr ⟨t, (List.mem_insertionSort _).1 ht, hd⟩

variable {t : ThrottleAttemptTransition}

/-- Taking a control state over changes at most the record's own attempt, which was live. -/
theorem syncThrottleAttemptControl_ok (h : s.syncThrottleAttemptControl t = .ok s') :
    s' = s ∨ ∃ attempt, s.attempts.get? t.record.attemptID = some attempt ∧
      attempt.progress.terminal = false ∧
      s' = { s with attempts := s.attempts.put (throttledAttempt attempt t.record) } := by
  unfold syncThrottleAttemptControl at h
  split at h
  · exact .inl (Except.ok.inj h).symm
  · rename_i attempt hattempt
    split_ifs at h with hkept hnew hdrain hprevious
    · exact .inl (Except.ok.inj h).symm
    all_goals
      have hlive : attempt.progress.terminal = false := by simpa using (not_or.1 hkept).1
      exact .inr ⟨attempt, hattempt, hlive, (updateAttempt_ok h).2⟩

theorem compareThrottleAttemptTransition_replayed
    (h : s.compareThrottleAttemptTransition t = .ok true) :
    s.throttleAttempts.get? t.record.key = some t.record := by
  unfold compareThrottleAttemptTransition at h
  split at h
  · split_ifs at h
    cases h
  · rename_i existing hexisting
    split_ifs at h with hsame
    · rw [hexisting, hsame]
    · cases h

/-- What a committed transition leaves: its record, its attempt under the record's control, and
the other rows of these tables as they were. -/
structure Throttled (s : Store) (t : ThrottleAttemptTransition) (s' : Store) : Prop where
  record : ∀ k, s'.throttleAttempts.get? k =
    if t.record.key = k then some t.record else s.throttleAttempts.get? k
  directives : s'.throttleDirectives = s.throttleDirectives
  assignments : s'.assignments = s.assignments
  admissions : s'.quotaAdmissions = s.quotaAdmissions
  attempts : s'.attempts = s.attempts ∨
    ∃ attempt, s.attempts.get? t.record.attemptID = some attempt ∧
      attempt.progress.terminal = false ∧
      s'.attempts = s.attempts.put (throttledAttempt attempt t.record)

theorem commitThrottleAttemptTransition_ok {advance : AdvanceAttentionStop}
    (h : s.commitThrottleAttemptTransition advance t = .ok s') : Throttled s t s' := by
  obtain ⟨replayed, hcompare, h⟩ := of_bind h
  cases replayed with
  | true =>
    obtain ⟨auditEvents, rfl⟩ := insertNativeAuditEvent_ok h
    refine ⟨fun k => ?_, rfl, rfl, rfl, .inl rfl⟩
    split_ifs with hk
    · rw [← hk]
      exact compareThrottleAttemptTransition_replayed hcompare
    · rfl
  | false =>
    obtain ⟨mid, hsync, h⟩ := of_bind h
    obtain ⟨taskWaits, -, h⟩ := of_bind h
    obtain ⟨auditEvents, rfl⟩ := insertNativeAuditEvent_ok h
    rcases syncThrottleAttemptControl_ok hsync with rfl | ⟨attempt, hattempt, hlive, rfl⟩
    · exact ⟨fun k => Table.get?_put _ _ k, rfl, rfl, rfl, .inl rfl⟩
    · exact ⟨fun k => Table.get?_put _ _ k, rfl, rfl, rfl, .inr ⟨attempt, hattempt, hlive, rfl⟩⟩

def KeepsRecords (s s' : Store) : Prop :=
  ∀ k, (s.throttleAttempts.get? k).isSome → (s'.throttleAttempts.get? k).isSome

theorem Throttled.keepsRecords (h : Throttled s t s') : KeepsRecords s s' := by
  intro k hk
  rw [h.record k]
  split_ifs
  · rfl
  · exact hk

/-- A committed batch leaves a record under each of its keys, and under every earlier key. -/
theorem commitThrottleAttemptTransitions_ok {advance : AdvanceAttentionStop}
    {ts : List ThrottleAttemptTransition}
    (h : s.commitThrottleAttemptTransitions advance ts = .ok s') :
    s'.throttleDirectives = s.throttleDirectives ∧ KeepsRecords s s' ∧
      ∀ t ∈ ts, (s'.throttleAttempts.get? t.record.key).isSome := by
  obtain ⟨-, -, h⟩ := of_bind h
  have hkeeps : s'.throttleDirectives = s.throttleDirectives ∧ KeepsRecords s s' := by
    refine foldlM_invariant (I := fun s₁ : Store =>
      s₁.throttleDirectives = s.throttleDirectives ∧ KeepsRecords s s₁) ?_ ⟨rfl, fun _ hk => hk⟩ h
    rintro s₁ t - s₂ ⟨hdirectives, hrecords⟩ hstep
    have hstep := commitThrottleAttemptTransition_ok hstep
    exact ⟨hstep.directives.trans hdirectives, fun k hk => hstep.keepsRecords k (hrecords k hk)⟩
  have hput := foldlM_each (Q := fun (t : ThrottleAttemptTransition) (s : Store) =>
      (s.throttleAttempts.get? t.record.key).isSome)
    (fun s₁ t s₂ hstep => by rw [(commitThrottleAttemptTransition_ok hstep).record, if_pos rfl]; rfl)
    (fun s₁ t s₂ u hu hstep => (commitThrottleAttemptTransition_ok hstep).keepsRecords _ hu) h
  exact ⟨hkeeps.1, hkeeps.2, fun t ht => hput t ((List.mem_insertionSort _).2 ht)⟩

end

end Store

end Steward
