import Steward.Backlog.TurnOutcome
import Steward.Store.TaskWaits

/-!
# Storing the outcomes of finished turns

`internal/store/sqlite/turn_outcome.go` and the comparison of throttle records in
`throttle_delivery.go`. A transition is accepted if its attempt is at the revision the plan read, or
if the attempt already is what the transition would make of it; the batch is accepted as a whole or
not at all.
-/

namespace Steward

open Except List

def turnOutcomeAuditID (outcomeID : String) : String := "turn-outcome:" ++ outcomeID

def turnOutcomeAuditDetail (t : TurnOutcomeTransition) : NativeAuditDetail :=
  { expectedRevision := t.expectedAttemptRevision
    revision := t.attempt.revision
    idempotencyIdentity := t.outcomeID
    outcome := t.attempt.lastTurnOutcomeMarker.text }

def turnOutcomeAuditEvent (t : TurnOutcomeTransition) : AuditEvent :=
  { id := turnOutcomeAuditID t.outcomeID
    kind := "turn-outcome-" ++ t.attempt.lastTurnOutcomeMarker.text
    workflowRunID := t.attempt.workflowRunID
    taskID := t.attempt.taskID
    attemptID := t.attempt.id
    targetType := .attempt
    targetID := t.attempt.id
    actor := "coordinator"
    reason := "verified worker turn outcome committed"
    createdAt := t.attempt.updatedAt }

/-- A transition names its outcome, its attempt at the next revision and a throttle record of it;
transitions come in the order of their attempts and repeat none. -/
def checkTurnOutcomeTransitions : List TurnOutcomeTransition → Option String → Except Err Unit
  | [], _ => .ok ()
  | t :: rest, previous => do
    refuseWhen (t.outcomeID = "" ∨ t.attempt.id = "" ∨ t.attempt.lastTurnOutcomeID ≠ t.outcomeID)
      { text := "turn outcome transition has invalid identity" }
    refuseWhen (t.expectedAttemptRevision < 0 ∨ t.attempt.revision ≠ t.expectedAttemptRevision + 1)
      { text := "turn outcome transition " ++ quote t.outcomeID ++ " has invalid attempt revision " ++
          toString t.attempt.revision ++ " after " ++ toString t.expectedAttemptRevision }
    refuseWhen (previous = some t.attempt.id)
      { text := "turn outcome transitions repeat attempt " ++ quote t.attempt.id }
    refuseWhen (∃ r ∈ t.throttle, r.record.attemptID ≠ t.attempt.id)
      { text := "turn outcome transition " ++ quote t.outcomeID ++
        " has mismatched throttle attempt" }
    checkTurnOutcomeTransitions rest (some t.attempt.id)

namespace Store

variable (s : Store)

def loadTurnOutcomeState : List Attempt × List ThrottleAttemptRecord :=
  (s.attempts.rows, s.throttleAttempts.rows)

variable (t : TurnOutcomeTransition)

def staleTurnOutcomeAttempt (actual : Int) : Err :=
  { text := "for attempt " ++ quote t.attempt.id ++ " outcome " ++ quote t.outcomeID ++
      ": expected " ++ toString t.expectedAttemptRevision ++ ", current " ++ toString actual
    sentinel := some .staleTurnOutcomeAttemptRevision }

def compareTurnOutcomeAttempt : Except Err Bool :=
  match s.attempts.get? t.attempt.id with
  | none => .error (staleTurnOutcomeAttempt t 0)
  | some existing =>
    if existing = t.attempt then .ok true
    else if existing.revision ≠ t.expectedAttemptRevision then
      .error (staleTurnOutcomeAttempt t existing.revision)
    else .ok false

def staleThrottleAttempt (t : ThrottleAttemptTransition) (actual : Int) : Err :=
  { text := "for directive " ++ quote t.record.directiveID ++ " attempt " ++
      quote t.record.attemptID ++ ": expected " ++ toString t.expectedRevision ++ ", current " ++
      toString actual
    sentinel := some .staleThrottleAttemptRevision }

def compareThrottleAttemptTransition (t : ThrottleAttemptTransition) : Except Err Bool :=
  match s.throttleAttempts.get? t.record.key with
  | none =>
    if t.expectedRevision ≠ 0 then .error (staleThrottleAttempt t 0) else .ok false
  | some existing =>
    if existing = t.record then .ok true
    else if existing.revision ≠ t.expectedRevision then
      .error (staleThrottleAttempt t existing.revision)
    else .ok false

def compareTurnOutcome : Except Err Unit := do
  let _ ← s.compareTurnOutcomeAttempt t
  t.throttle.forM fun r => do
    let _ ← s.compareThrottleAttemptTransition r
    .ok ()

def saveThrottleAttempt (r : ThrottleAttemptRecord) : Store :=
  { s with throttleAttempts := s.throttleAttempts.put r }

def writeTurnOutcome : Except Err Store := do
  let s := { s with attempts := s.attempts.put t.attempt }
  let s ← s.insertNativeAuditEvent (turnOutcomeAuditEvent t) (turnOutcomeAuditDetail t)
  .ok ((t.throttle.map fun r => s.saveThrottleAttempt r.record).getD s)

def commitTurnOutcomeTransitions (input : List TurnOutcomeTransition) : Except Err Store := do
  let transitions := sortTransitions input
  checkTurnOutcomeTransitions transitions none
  transitions.forM s.compareTurnOutcome
  transitions.foldlM writeTurnOutcome s

def recordTaskWaitReconciliations (events : List TaskWaitReconciliation) : Except Err Store :=
  events.foldlM (fun (s : Store) event => do
    refuseWhen (event.id = "" ∨ event.attemptID = "")
      { text := "task wait reconciliation needs an identity and an attempt" }
    .ok (s.recordTaskWaitEvent event)) s

/-! ## What a commit does -/

section

variable {s s' : Store}

def turnOutcomeEvent (t : TurnOutcomeTransition) : AuditEvent :=
  { turnOutcomeAuditEvent t with detail := .native (turnOutcomeAuditDetail t) }

variable {t : TurnOutcomeTransition} {replayed : Bool} {u : Unit} {ts : List TurnOutcomeTransition}

theorem compareTurnOutcomeAttempt_ok (h : s.compareTurnOutcomeAttempt t = .ok replayed) :
    ∃ existing, s.attempts.get? t.attempt.id = some existing ∧
      (existing = t.attempt ∨ existing.revision = t.expectedAttemptRevision) := by
  unfold compareTurnOutcomeAttempt at h
  split at h
  · cases h
  · rename_i existing hexisting
    refine ⟨existing, hexisting, ?_⟩
    split_ifs at h with hsame hrevision
    · exact .inl hsame
    · exact .inr (not_not.1 hrevision)

theorem compareThrottleAttemptTransition_ok {t : ThrottleAttemptTransition}
    (h : s.compareThrottleAttemptTransition t = .ok replayed) {existing : ThrottleAttemptRecord}
    (hexisting : s.throttleAttempts.get? t.record.key = some existing) :
    existing = t.record ∨ existing.revision = t.expectedRevision := by
  unfold compareThrottleAttemptTransition at h
  rw [hexisting] at h
  dsimp only at h
  split_ifs at h with hsame hrevision
  · exact .inl hsame
  · exact .inr (not_not.1 hrevision)

/-- What a batch found before it wrote anything. -/
structure Compared (s : Store) (t : TurnOutcomeTransition) : Prop where
  attempt : ∃ existing, s.attempts.get? t.attempt.id = some existing ∧
    (existing = t.attempt ∨ existing.revision = t.expectedAttemptRevision)
  throttle : ∀ r ∈ t.throttle, ∀ existing, s.throttleAttempts.get? r.record.key = some existing →
    existing = r.record ∨ existing.revision = r.expectedRevision

theorem compareTurnOutcome_ok (h : s.compareTurnOutcome t = .ok u) : Compared s t := by
  obtain ⟨replayed, hattempt, h⟩ := of_bind h
  refine ⟨compareTurnOutcomeAttempt_ok hattempt, fun r hr existing hexisting => ?_⟩
  rw [Option.mem_def.1 hr] at h
  obtain ⟨replayed, hthrottle, -⟩ := of_bind h
  exact compareThrottleAttemptTransition_ok hthrottle hexisting

structure Checked (t : TurnOutcomeTransition) : Prop where
  outcome : t.attempt.lastTurnOutcomeID = t.outcomeID
  revision : t.attempt.revision = t.expectedAttemptRevision + 1
  throttle : ∀ r ∈ t.throttle, r.record.attemptID = t.attempt.id

theorem checkTurnOutcomeTransitions_ok {previous : Option String}
    (h : checkTurnOutcomeTransitions ts previous = .ok u)
    (hsorted : ts.Pairwise fun a b => a.attempt.id ≤ b.attempt.id) :
    (∀ t ∈ ts, Checked t) ∧ (ts.map fun t => t.attempt.id).Nodup ∧
      ∀ p, previous = some p → (∀ t ∈ ts, p ≤ t.attempt.id) → ∀ t ∈ ts, p ≠ t.attempt.id := by
  induction ts generalizing previous with
  | nil => simp
  | cons t ts ih =>
    obtain ⟨hfirst, hsorted⟩ := pairwise_cons.1 hsorted
    obtain ⟨hidentity, h⟩ := of_guard h
    obtain ⟨hrevision, h⟩ := of_guard h
    obtain ⟨hprevious, h⟩ := of_guard h
    obtain ⟨hthrottle, h⟩ := of_guard h
    obtain ⟨hchecked, hdistinct, hlater⟩ := ih h hsorted
    simp only [not_or, not_not] at hidentity hrevision
    refine ⟨fun u hu => ?_, ?_, fun p hp hle u hu heq => ?_⟩
    · rcases mem_cons.1 hu with rfl | hu
      · exact ⟨hidentity.2.2, hrevision.2, by simpa using hthrottle⟩
      · exact hchecked u hu
    · refine nodup_cons.2 ⟨fun hmem => ?_, hdistinct⟩
      obtain ⟨u, hu, heq⟩ := mem_map.1 hmem
      exact hlater _ rfl hfirst u hu heq.symm
    · rcases mem_cons.1 hu with rfl | hu
      · exact hprevious (by rw [hp, heq])
      · -- The head lies between the previous attempt and this one.
        have hhead : p = t.attempt.id :=
          le_antisymm (hle t (.head _)) (heq ▸ hfirst u hu)
        exact hprevious (by rw [hp, hhead])

theorem writeTurnOutcome_ok (h : s.writeTurnOutcome t = .ok s') :
    s'.attempts = s.attempts.put t.attempt ∧ s'.taskWaits = s.taskWaits ∧
      s'.throttleAttempts = s.throttleAttempts.putAll (t.throttle.map (·.record)).toList ∧
      s'.auditEvents.get? (turnOutcomeAuditID t.outcomeID) = some (turnOutcomeEvent t) ∧
      ∀ id e, s.auditEvents.get? id = some e → s'.auditEvents.get? id = some e := by
  unfold writeTurnOutcome at h
  obtain ⟨written, hevent, h⟩ := of_bind h
  obtain ⟨hget, hkept⟩ := insertNativeAuditEvent_get? hevent
  obtain ⟨events, rfl⟩ := insertNativeAuditEvent_ok hevent
  cases hthrottle : t.throttle with
  | none | some =>
    rw [hthrottle] at h
    cases h
    exact ⟨rfl, rfl, rfl, hget, hkept⟩

structure Committed (ts : List TurnOutcomeTransition) (s s' : Store) : Prop where
  attempts : s'.attempts = s.attempts.putAll (ts.map (·.attempt))
  taskWaits : s'.taskWaits = s.taskWaits
  throttle : s'.throttleAttempts =
    s.throttleAttempts.putAll (ts.flatMap fun t => (t.throttle.map (·.record)).toList)
  recorded : ∀ t ∈ ts, s'.auditEvents.get? (turnOutcomeAuditID t.outcomeID) =
    some (turnOutcomeEvent t)
  kept : ∀ id e, s.auditEvents.get? id = some e → s'.auditEvents.get? id = some e

theorem writeTurnOutcomes_ok (h : ts.foldlM writeTurnOutcome s = .ok s') : Committed ts s s' := by
  induction ts generalizing s with
  | nil =>
    cases h
    exact ⟨rfl, rfl, rfl, by simp, fun _ _ he => he⟩
  | cons t ts ih =>
    rw [foldlM_cons] at h
    obtain ⟨mid, hmid, h⟩ := of_bind h
    obtain ⟨hattempts, hwaits, hthrottle, hevent, hkept⟩ := writeTurnOutcome_ok hmid
    have hrest := ih h
    refine ⟨?_, hrest.taskWaits.trans hwaits, ?_, fun u hu => ?_, fun id e he =>
      hrest.kept id e (hkept id e he)⟩
    · rw [hrest.attempts, hattempts, map_cons, Table.putAll_cons]
    · rw [hrest.throttle, hthrottle, flatMap_cons]
      exact foldl_append.symm
    · rcases mem_cons.1 hu with rfl | hu
      · exact hrest.kept _ _ hevent
      · exact hrest.recorded u hu

/-- A committed batch: its transitions are well formed, name distinct attempts, passed the
comparison with the store the batch found, and are all written. -/
theorem commitTurnOutcomeTransitions_ok {input : List TurnOutcomeTransition}
    (h : s.commitTurnOutcomeTransitions input = .ok s') :
    ∃ ts, (∀ t, t ∈ ts ↔ t ∈ input) ∧ (ts.map fun t => t.attempt.id).Nodup ∧
      (∀ t ∈ ts, Checked t ∧ Compared s t) ∧ Committed ts s s' := by
  unfold commitTurnOutcomeTransitions at h
  obtain ⟨_, hcheck, h⟩ := of_bind h
  obtain ⟨_, hcompare, h⟩ := of_bind h
  have hsorted : (sortTransitions input).Pairwise fun a b => a.attempt.id ≤ b.attempt.id :=
    pairwise_insertionSort _ _
  obtain ⟨hchecked, hdistinct, -⟩ := checkTurnOutcomeTransitions_ok hcheck hsorted
  refine ⟨sortTransitions input, fun t => mem_insertionSort _, hdistinct, fun t ht =>
    ⟨hchecked t ht, ?_⟩, writeTurnOutcomes_ok h⟩
  exact compareTurnOutcome_ok (forM_eq_ok hcompare t ht)

end

end Store

end Steward
