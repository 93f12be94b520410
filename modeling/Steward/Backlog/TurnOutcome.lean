import Steward.Backlog.Coordinator
import Steward.Domain.TaskWait
import Steward.Domain.TurnOutcome

/-!
# Planning the outcomes of finished turns

`internal/backlog/turn_outcome.go`: an explicit `done` finishes the attempt unless it is parked on a
live task-bound wait, in which case the marker is refused and the contradiction recorded; `waiting`
parks it; any other marker only matters under an active throttle command, whose control it confirms.
-/

namespace Steward

open Except

/-! ## Throttle records -/

def validateThrottleAttemptRecord (r : ThrottleAttemptRecord) : Except Err Unit := do
  refuseWhen (r.directiveID = "" ∨ r.attemptID = "" ∨ r.revision ≤ 0 ∨ r.command.id = "" ∨
      r.command.directiveID ≠ r.directiveID ∨ r.command.attemptID ≠ r.attemptID ∨
      r.command.kind = .unset ∨ r.command.workerID = "" ∨ r.command.threadID = "" ∨
      r.command.workspacePath = "" ∨ r.command.quotaPoolID = "")
    { text := "throttle attempt record identity is invalid" }
  refuseWhen (r.delivery = .unset)
    { text := "throttle attempt record " ++ quote r.command.id ++ " has invalid delivery state " ++
        quote r.delivery.text }

def throttleRecordIsNewer (candidate current : ThrottleAttemptRecord) : Bool :=
  if candidate.command.createdAt ≠ current.command.createdAt then
    current.command.createdAt < candidate.command.createdAt
  else if candidate.updatedAt ≠ current.updatedAt then current.updatedAt < candidate.updatedAt
  else current.directiveID < candidate.directiveID

def latestThrottleRecord (records : List ThrottleAttemptRecord) (attemptID : String) :
    Option ThrottleAttemptRecord :=
  (records.filter fun r => r.attemptID = attemptID).foldl (fun latest r =>
      match latest with
      | none => some r
      | some current => if throttleRecordIsNewer r current then some r else some current) none

def activeTurnThrottle (r : ThrottleAttemptRecord) : Bool :=
  if r.delivery = .cancelled then false
  else
    match r.command.kind with
    | .drain | .hardStop =>
      r.control = .draining ∨ r.control = .paused ∨ r.control = .pausedUncheckpointed
    | .resume => r.control = .resuming
    | _ => false

/-! ## One outcome -/

def validateTurnOutcome (o : TurnOutcome) : Except Err Unit := do
  refuseWhen (o.id = "" ∨ o.attemptID = "" ∨ o.observedAt = 0)
    { text := "turn outcome identity and observation time are required" }
  match o.marker with
  | .done => .ok ()
  | .continue | .missing | .waiting =>
    refuseWhen (o.verificationPassed ∨ o.failure ≠ "" ∨ o.finalSummaryArtifactID ≠ "" ∨
        o.reviewVerdict ≠ none ∨ o.reviewGate ≠ none)
      { text := "nonterminal turn outcome " ++ quote o.id ++ " carries terminal result data" }
  | .unset =>
    .error { text := "turn outcome " ++ quote o.id ++ " has invalid marker " ++ quote o.marker.text }

def outcomeAttempt (attempt : Attempt) (o : TurnOutcome) (control : ControlState) (now : Time) :
    Attempt :=
  let next :=
    { attempt with
      revision := attempt.revision + 1
      lastTurnOutcomeID := o.id
      lastTurnOutcomeMarker := o.marker
      updatedAt := now }
  match o.marker with
  | .done =>
    { next with
      control := .stopped
      completedAt := some o.observedAt
      finalSummaryArtifactID := o.finalSummaryArtifactID
      reviewVerdict := o.reviewVerdict
      reviewGate := o.reviewGate
      progress := if o.verificationPassed then .succeeded else .failed
      failure :=
        if o.verificationPassed then ""
        else if o.failure = "" then "verification failed" else o.failure }
  | .waiting =>
    { next with progress := .waitingExternal, control := .waitingExternal, completedAt := none }
  | _ => { next with control := control }

def outcomeThrottle (throttle : ThrottleAttemptRecord) (marker : TurnOutcomeMarker) (now : Time) :
    ThrottleAttemptTransition :=
  let next := { throttle with revision := throttle.revision + 1, updatedAt := now }
  { expectedRevision := throttle.revision
    record :=
      if marker ≠ .done then next
      else if throttle.delivery = .pending then
        { next with
          control := .stopped
          delivery := .cancelled
          failure := "attempt completed before throttle command settled" }
      else { next with control := .stopped } }

inductive TurnOutcomeDecision
  | skip
  | refuse (refusal : TaskWaitReconciliation)
  | record (transition : TurnOutcomeTransition)

def TurnOutcomeDecision.transition? : TurnOutcomeDecision → Option TurnOutcomeTransition
  | .record t => some t
  | _ => none

def TurnOutcomeDecision.refusal? : TurnOutcomeDecision → Option TaskWaitReconciliation
  | .refuse r => some r
  | _ => none

def outcomeTransition (attempt : Attempt) (o : TurnOutcome)
    (throttle : Option ThrottleAttemptRecord) (now : Time) : TurnOutcomeTransition :=
  { outcomeID := o.id
    expectedAttemptRevision := attempt.revision
    attempt := outcomeAttempt attempt o ((throttle.map ThrottleAttemptRecord.control).getD .unset) now
    throttle := throttle.map fun r => outcomeThrottle r o.marker now }

section

variable (hash : CoordinatorHash)

def doneWhileWaiting (attempt : Attempt) (o : TurnOutcome) (waitID : String) (now : Time) :
    TaskWaitReconciliation :=
  { id := stableCoordinatorID hash "reconciliation" o.id
    kind := .doneWhileWaiting
    attemptID := o.attemptID
    waitID := waitID
    threadID := attempt.threadID
    detail := "turn outcome " ++ quote o.id ++ " reported done while task-bound wait " ++
      quote waitID ++ " was live; refused"
    observedAt := now }

def planTurnOutcome (attempts : List Attempt) (throttle : List ThrottleAttemptRecord)
    (liveTaskWaits : List (String × String)) (now : Time) (o : TurnOutcome) :
    Except Err TurnOutcomeDecision :=
  match attempts.find? fun a => a.id = o.attemptID with
  | none =>
    .error { text := "turn outcome " ++ quote o.id ++ " names unknown attempt " ++ quote o.attemptID }
  | some attempt =>
    if attempt.lastTurnOutcomeID = o.id then
      if attempt.lastTurnOutcomeMarker ≠ o.marker then
        .error
          { text := "turn outcome " ++ quote o.id ++ " marker changed from " ++
              quote attempt.lastTurnOutcomeMarker.text ++ " to " ++ quote o.marker.text }
      else .ok .skip
    else if attempt.progress.terminal then .ok .skip
    else
      match (liveTaskWaits.lookup o.attemptID).filter fun _ => o.marker = .done with
      | some waitID => .ok (.refuse (doneWhileWaiting hash attempt o waitID now))
      | none =>
        let active := (latestThrottleRecord throttle o.attemptID).filter activeTurnThrottle
        if o.marker ≠ .done ∧ o.marker ≠ .waiting ∧ active = none then .ok .skip
        else .ok (.record (outcomeTransition attempt o active now))

/-! ## A batch -/

def checkTurnOutcomeAttempts : List Attempt → List String → Except Err Unit
  | [], _ => .ok ()
  | a :: rest, seen => do
    refuseWhen (a.id = "" ∨ a.revision < 0)
      { text := "turn outcome attempt identity and revision are invalid" }
    refuseWhen (a.id ∈ seen) { text := "turn outcome attempts repeat " ++ quote a.id }
    checkTurnOutcomeAttempts rest (a.id :: seen)

def planOutcomes (attempts : List Attempt) (throttle : List ThrottleAttemptRecord)
    (liveTaskWaits : List (String × String)) (now : Time) :
    List TurnOutcome → List String →
      Except Err (List TurnOutcomeTransition × List TaskWaitReconciliation)
  | [], _ => .ok ([], [])
  | o :: rest, seen => do
    validateTurnOutcome o
    refuseWhen (o.attemptID ∈ seen) { text := "turn outcomes repeat attempt " ++ quote o.attemptID }
    let decision ← planTurnOutcome hash attempts throttle liveTaskWaits now o
    let (transitions, refusals) ←
      planOutcomes attempts throttle liveTaskWaits now rest (o.attemptID :: seen)
    .ok (decision.transition?.toList ++ transitions, decision.refusal?.toList ++ refusals)

def outcomeOrder (a b : TurnOutcome) : Prop :=
  a.attemptID < b.attemptID ∨ a.attemptID = b.attemptID ∧ a.id ≤ b.id

instance : DecidableRel outcomeOrder := fun _ _ => inferInstanceAs (Decidable (_ ∨ _))

def sortTransitions (transitions : List TurnOutcomeTransition) : List TurnOutcomeTransition :=
  transitions.insertionSort fun a b => a.attempt.id ≤ b.attempt.id

def planTurnOutcomesWithTaskWaits (attempts : List Attempt) (throttle : List ThrottleAttemptRecord)
    (outcomes : List TurnOutcome) (liveTaskWaits : List (String × String)) (now : Time) :
    Except Err (List TurnOutcomeTransition × List TaskWaitReconciliation) := do
  refuseWhen (now = 0) { text := "turn outcome reconciliation time must be set" }
  checkTurnOutcomeAttempts attempts []
  throttle.forM validateThrottleAttemptRecord
  let (transitions, refusals) ←
    planOutcomes hash attempts throttle liveTaskWaits now (outcomes.insertionSort outcomeOrder) []
  .ok (sortTransitions transitions, refusals)

/-! ## What is planned -/

/-- A planned transition records an outcome on an attempt that was neither finished nor already had
it; a `done` among them found no live wait. -/
structure Records (attempts : List Attempt) (throttle : List ThrottleAttemptRecord)
    (liveTaskWaits : List (String × String)) (now : Time) (t : TurnOutcomeTransition)
    (attempt : Attempt) (o : TurnOutcome) : Prop where
  found : attempts.find? (fun a => a.id = o.attemptID) = some attempt
  fresh : attempt.lastTurnOutcomeID ≠ o.id
  unfinished : attempt.progress.terminal = false
  free : o.marker = .done → liveTaskWaits.lookup o.attemptID = none
  transition : t = outcomeTransition attempt o
    ((latestThrottleRecord throttle o.attemptID).filter activeTurnThrottle) now

variable {hash} {attempts : List Attempt} {throttle : List ThrottleAttemptRecord}
  {liveTaskWaits : List (String × String)} {now : Time}

variable {o : TurnOutcome} {t : TurnOutcomeTransition}

theorem planTurnOutcome_ok {decision : TurnOutcomeDecision}
    (h : planTurnOutcome hash attempts throttle liveTaskWaits now o = .ok decision)
    (ht : decision.transition? = some t) :
    ∃ attempt, Records attempts throttle liveTaskWaits now t attempt o := by
  unfold planTurnOutcome at h
  split at h
  · cases h
  · rename_i attempt hfound
    split_ifs at h with hlast hmarker hterminal
    · cases h
      cases ht
    · cases h
      cases ht
    · split at h
      · cases h
        cases ht
      · rename_i hlive
        dsimp only at h
        split_ifs at h with hidle
        · cases h
          cases ht
        · cases h
          refine ⟨attempt, hfound, hlast, by simpa using hterminal, fun hdone => ?_,
            (Option.some.inj ht).symm⟩
          cases hlookup : liveTaskWaits.lookup o.attemptID with
          | none => rfl
          | some waitID => simp [hlookup, hdone] at hlive

variable {outcomes : List TurnOutcome} {transitions : List TurnOutcomeTransition}
  {refusals : List TaskWaitReconciliation} {attempt : Attempt}

theorem planOutcomes_ok {seen : List String}
    (h : planOutcomes hash attempts throttle liveTaskWaits now outcomes seen = .ok (transitions,
    refusals)) :
    ∀ t ∈ transitions, ∃ attempt o, Records attempts throttle liveTaskWaits now t attempt o := by
  induction outcomes generalizing seen transitions refusals with
  | nil =>
    cases h
    simp
  | cons o rest ih =>
    obtain ⟨_, -, h⟩ := of_bind h
    replace h := past_guard h
    obtain ⟨decision, hdecision, h⟩ := of_bind h
    obtain ⟨⟨later, laterRefusals⟩, hlater, h⟩ := of_bind h
    cases h
    intro t ht
    rcases List.mem_append.1 ht with ht | ht
    · obtain ⟨attempt, hrecords⟩ := planTurnOutcome_ok hdecision (Option.mem_toList.1 ht)
      exact ⟨attempt, o, hrecords⟩
    · exact ih hlater t ht

theorem planTurnOutcomesWithTaskWaits_ok
    (h : planTurnOutcomesWithTaskWaits hash attempts throttle outcomes liveTaskWaits now =
      .ok (transitions, refusals)) :
    ∀ t ∈ transitions, ∃ attempt o, Records attempts throttle liveTaskWaits now t attempt o := by
  replace h := past_guard h
  obtain ⟨_, -, h⟩ := of_bind h
  obtain ⟨_, -, h⟩ := of_bind h
  obtain ⟨⟨planned, _⟩, hplanned, h⟩ := of_bind h
  cases h
  intro t ht
  exact planOutcomes_ok hplanned t ((List.mem_insertionSort _).1 ht)

theorem Records.attempt_eq (h : Records attempts throttle liveTaskWaits now t attempt o) :
    t.attempt.id = o.attemptID ∧ t.expectedAttemptRevision = attempt.revision ∧
      t.attempt.revision = attempt.revision + 1 ∧
      (t.attempt.progress.terminal = true → o.marker = .done) := by
  have hid : attempt.id = o.attemptID := by simpa using List.find?_some h.found
  have hunfinished := h.unfinished
  have hparked : ProgressState.waitingExternal.terminal = false := rfl
  rw [h.transition]
  cases hmarker : o.marker <;>
    simp [outcomeTransition, outcomeAttempt, hmarker, hid, hunfinished, hparked]

theorem Records.throttle_revision (h : Records attempts throttle liveTaskWaits now t attempt o)
    {r : ThrottleAttemptTransition} (hr : t.throttle = some r) :
    r.record.revision = r.expectedRevision + 1 := by
  rw [h.transition] at hr
  obtain ⟨record, -, rfl⟩ := Option.map_eq_some_iff.1 hr
  unfold outcomeThrottle
  split_ifs <;> rfl

end

end Steward
