import Steward.Backlog.WorkerEvidence
import Steward.Store.WorkerReconcile

/-!
# Agreement of planning and committing worker evidence

The planner and the transaction have their own rules for the same evidence. `Uncommittable` lists
where they disagree: custody whose command was rejected while its attempt is cancelled, an accepted
dispatch left behind by an earlier session, and evidence that keeps an attempt's reference to
another assignment.
-/

namespace Steward

open Except Text Store Table List

/-! ## The disagreements -/

variable (a : Assignment) (t : Attempt) (snapshot : WorkerSnapshot)

def CompletionRecorded (ob : WorkerAssignmentObservation) (snapshot : WorkerSnapshot) : Prop :=
  a.state = .claimed ∧ a.unknownSince = none ∧ a.workerEpoch = snapshot.workerEpoch ∧
    a.leaseExpiresAt = snapshot.validUntil ∧ a.threadID = reportedThread ob.threadID a.threadID ∧
    (unfinishedWorkerPark t = true ∨
      ((attemptFinished t = true ∨ t.progress = .active) ∧ t.control = .stopped ∧
        t.threadID = reportedThread ob.threadID t.threadID))

/-- The evidence about one assignment that is planned and then refused. -/
inductive Uncommittable (a : Assignment) (t : Attempt) (o : Option WorkerAssignmentObservation)
    (snapshot : WorkerSnapshot) (commands : List WorkerCommandRecord) : Prop
  | rejectedCancelled (idle : OmittedIdle a t o commands) (rejected : Rejected a commands)
      (cancelled : t.progress = .cancelled)
  | rejectedPark (idle : OmittedIdle a t o commands) (rejected : Rejected a commands)
      (park : unfinishedWorkerPark t = true) (unnamed : t.assignmentID ≠ a.id)
  | dispatched (idle : OmittedIdle a t o commands) (willing : ¬Rejected a commands)
      (unfinished : attemptFinished t = false) (dispatched : Dispatched a t commands)
      (changed : ¬(t.progress = .active ∧ t.control = .running))
      (stale : a.workerEpoch ≠ snapshot.workerEpoch ∨ t.assignmentID ≠ a.id)
  | terminalStop (idle : OmittedIdle a t o commands) (willing : ¬Rejected a commands)
      (finished : attemptFinished t = true) (running : t.control ≠ .stopped)
      (session : a.workerEpoch = snapshot.workerEpoch) (unnamed : t.assignmentID ≠ a.id)
  | absentPark (idle : OmittedIdle a t o commands) (willing : ¬Rejected a commands)
      (unfinished : attemptFinished t = false) (undispatched : ¬Dispatched a t commands)
      (lost : a.state = .unknown ∨ a.workerEpoch ≠ snapshot.workerEpoch)
      (park : unfinishedWorkerPark t = true) (unnamed : t.assignmentID ≠ a.id)
  | collectedUnobserved (omitted : o = none)
      (running : acceptedWorkerCommand commands a .stop = false)
      (accepted : acceptedWorkerCommand commands a .collect = true) (unnamed : t.assignmentID ≠ a.id)
  | stoppedPark (ob : WorkerAssignmentObservation) (observed : o = some ob)
      (released : ob.state = .released) (session : snapshot.workerEpoch = a.workerEpoch)
      (thread : ob.threadID = a.threadID) (park : unfinishedWorkerPark t = true)
      (unnamed : t.assignmentID ≠ a.id)
  | completed (ob : WorkerAssignmentObservation) (observed : o = some ob)
      (completed : ob.state = .completed)
      (changed : acceptedWorkerCommand commands a .collect = true ∨
        ¬CompletionRecorded a t ob snapshot) (unnamed : t.assignmentID ≠ a.id)
  | observedUnknown (ob : WorkerAssignmentObservation) (observed : o = some ob)
      (unknown : ob.state = .unknown) (known : a.state ≠ .unknown) (unnamed : t.assignmentID ≠ a.id)

/-! ## One transition against the fences -/

def plannedTransition (now : Time)
    (a' : Assignment) (t' : Attempt) (reason : String) : WorkerStateTransition :=
  { coordinatorEpoch := snapshot.coordinatorEpoch
    workerID := snapshot.workerID
    workerEpoch := snapshot.workerEpoch
    workerSequence := snapshot.sequence
    transitionedAt := now
    expectedAssignment := a
    expectedAttemptRevision := t.revision
    assignment := a'
    attempt := { t' with revision := t.revision + 1 }
    reason := reason }

def Passes (now : Time) (a' : Assignment) (t' : Attempt) (reason : String) : Prop :=
  validateWorkerStateTransition (plannedTransition a t snapshot now a' t' reason) = .ok () ∧
    checkWorkerStateTransition snapshot a t (plannedTransition a t snapshot now a' t' reason) =
      .ok ()

def Refused (commands : List WorkerCommandRecord) (now : Time) : Prop :=
  ∃ a' t' reason, PlannedFrom a t (observationOf snapshot a) snapshot commands now a' t' reason ∧
    finishWorkerStateTransition a t a' t' reason ≠ none ∧ ¬Passes a t snapshot now a' t' reason

/-- A live assignment of the worker with its attempt, as the store's writers leave them, and a
complete snapshot. -/
structure LiveRow (a : Assignment) (t : Attempt) (snapshot : WorkerSnapshot) (now : Time) : Prop where
  worker : a.workerID = snapshot.workerID
  live : a.state = .claimed ∨ a.state = .unknown
  id : proper a.id = true
  attemptID : a.attemptID ≠ ""
  epoch : 1 ≤ a.epoch
  attempt : t.id = a.attemptID
  complete : 1 ≤ snapshot.coordinatorEpoch ∧ snapshot.workerID ≠ "" ∧ snapshot.workerEpoch ≠ "" ∧
    1 ≤ snapshot.sequence ∧ now ≠ 0

variable {a : Assignment} {t : Attempt} {o : Option WorkerAssignmentObservation}
  {snapshot : WorkerSnapshot} {commands : List WorkerCommandRecord} {now : Time}
  {a' : Assignment} {t' : Attempt} {reason : String}

section

variable (h : PlannedFrom a t o snapshot commands now a' t' reason)
include h

theorem PlannedFrom.assignment_identity :
    a'.id = a.id ∧ a'.attemptID = a.attemptID ∧ a'.workerID = a.workerID ∧ a'.epoch = a.epoch ∧
      a'.leaseToken = a.leaseToken ∧ a'.dispatchToken = a.dispatchToken := by
  cases h with
  | observedUnknown ob observed unknown known =>
    simp [unknownAssignment, Assignment.setState, known]
  | _ => simp [claimedAssignment, releasedAssignment, completedAssignment,
      observedCompletedAssignment, Assignment.setState]

theorem PlannedFrom.next_state (hlive : a.state = .claimed ∨ a.state = .unknown) :
    a'.state = .claimed ∨ a'.state = .unknown ∨ a'.state = .released ∨ a'.state = .completed := by
  cases h with
  | terminalStop | dispatched => rcases hlive with hs | hs <;> simp [hs]
  | _ => simp [claimedAssignment, releasedAssignment, completedAssignment,
      observedCompletedAssignment, unknownAssignment]

theorem PlannedFrom.attempt_id : t'.id = t.id := by
  rw [h.moved.record]

end

/-- The reasons of planned transitions; none but a stop observation claims a stop. -/
theorem PlannedFrom.reason_proper (h : PlannedFrom a t o snapshot commands now a' t' reason) :
    proper reason = true ∧ reason ≠ "stop-accepted" ∧
      (reason = workerStateObservedStopped → ∃ ob, o = some ob ∧ ob.state = .released ∧
        snapshot.workerEpoch = a.workerEpoch ∧ ob.threadID = a.threadID) := by
  cases h with
  | present ob =>
    unfold claimedAttemptState
    split_ifs <;> dsimp only <;> exact ⟨by decide, by decide, fun hr => absurd hr (by decide)⟩
  | stopped ob observed released session thread =>
    exact ⟨by decide, by decide, fun _ => ⟨ob, observed, released, session, thread⟩⟩
  | collected | collectedUnobserved | observedCompleted =>
    unfold completedReason
    split_ifs <;> exact ⟨by decide, by decide, fun hr => absurd hr (by decide)⟩
  | _ => exact ⟨by decide, by decide, fun hr => absurd hr (by decide)⟩

theorem validate_planned_iff (row : LiveRow a t snapshot now)
    (h : PlannedFrom a t o snapshot commands now a' t' reason) :
    validateWorkerStateTransition (plannedTransition a t snapshot now a' t' reason) = .ok () ↔
      (a'.state = .claimed ∨ a'.state = .unknown → a'.workerEpoch = snapshot.workerEpoch) ∧
      (t'.assignmentID ≠ a.id → a'.state = .released) ∧
      (a'.state = .released → t'.assignmentID ≠ "" →
        t'.assignmentID = a.id ∧ unfinishedWorkerPark t' = true) := by
  obtain ⟨hid, hattempt, hworker, hepoch, hlease, hdispatch⟩ := h.assignment_identity
  obtain ⟨hcoord, hwid, hwepoch, hseq, hnow⟩ := row.complete
  have hreason : reason ≠ "" := by
    rintro rfl
    exact absurd h.reason_proper.1 (by decide)
  have hidne : a.id ≠ "" := by
    intro hempty
    have := row.id
    rw [hempty] at this
    exact absurd this (by decide)
  have hnext : ¬a'.state = .claimed → ¬a'.state = .unknown → ¬a'.state = .released →
      a'.state = .completed := by
    intro h1 h2 h3
    simpa [h1, h2, h3] using h.next_state row.live
  have hlive : ¬a.state = .claimed → a.state = .unknown := by
    intro h1
    simpa [h1] using row.live
  simp only [validateWorkerStateTransition, refuseWhen_bind_eq_ok_iff,
    refuseWhen_eq_ok_iff, not_or, not_and, not_not, not_lt, ne_eq, Bool.not_eq_false,
    plannedTransition, hid, hattempt, hworker, hepoch, hlease, hdispatch, hcoord, hwid, hwepoch,
    hseq, hnow, hreason, hidne, row.attemptID, row.worker, row.epoch, h.attempt_id, row.attempt,
    not_false_eq_true, and_self, true_and, and_true]
  exact ⟨fun hv => ⟨hv.2.2.1, hv.2.2.2.1, hv.2.2.2.2⟩, fun hv => ⟨hlive, hnext, hv⟩⟩

/-! ## Evidence that is committed -/

variable {s s' : Store} {ob : WorkerAssignmentObservation} {b : Assignment}

theorem stopProven_of_observed (hob : observationOf snapshot a = some ob)
    (released : ob.state = .released) (session : snapshot.workerEpoch = a.workerEpoch)
    (thread : ob.threadID = a.threadID) : stopProven snapshot a = true := by
  obtain ⟨hmem, hid, hepoch⟩ := mem_of_observationOf hob
  exact any_eq_true.2 ⟨ob, hmem, by simp [hid, hepoch, released, session, thread]⟩

theorem stopProven_of_omitted (homit : observationOf snapshot a = none) :
    stopProven snapshot a = false := by
  have hnone := find?_eq_none.1 homit
  refine any_eq_false.2 fun ob hmem hproof => hnone ob hmem ?_
  simp only [decide_eq_true_eq] at hproof ⊢
  exact ⟨hproof.1, hproof.2.1⟩

theorem releasedAttempt_assignmentID (hpark : unfinishedWorkerPark t = false) :
    (releasedAttempt t now).assignmentID = "" := by
  unfold releasedAttempt
  rw [if_neg (by simp [hpark])]
  split_ifs <;> rfl

section

variable (row : LiveRow a t snapshot now)
  (h : PlannedFrom a t o snapshot commands now (releasedAssignment a now) (releasedAttempt t now) reason)
  (named : unfinishedWorkerPark t = true → t.assignmentID = a.id)
include row h named

theorem validate_released :
    validateWorkerStateTransition (plannedTransition a t snapshot now (releasedAssignment a now)
      (releasedAttempt t now) reason) = .ok () := by
  rw [validate_planned_iff row h]
  refine ⟨fun hs => ?_, fun _ => by simp [releasedAssignment], fun _ hne => ?_⟩
  · simp [releasedAssignment] at hs
  · by_cases hpark : unfinishedWorkerPark t = true
    · rw [releasedAttempt_of_park hpark]
      exact ⟨named hpark, hpark⟩
    · exact absurd (releasedAttempt_assignmentID (by simpa using hpark)) hne

/-- A release passes the fences when a parked attempt names the released custody, and a stop is
proven where the attempt's stop is the coordinator's own. -/
theorem check_released (proven : stopProven snapshot a = true ∨ (reason ≠ workerStateObservedStopped ∧
      coordinatorIntent t.control = false ∧ t.progress ≠ .cancelled)) :
    checkWorkerStateTransition snapshot a t (plannedTransition a t snapshot now
      (releasedAssignment a now) (releasedAttempt t now) reason) = .ok () := by
  simp only [checkWorkerStateTransition, refuseWhen_bind_eq_ok_iff,
    refuseWhen_eq_ok_iff, not_or, not_and, not_not, ne_eq, Bool.not_eq_false]
  refine ⟨rfl, ⟨rfl, h.attempt_id.symm, row.attempt⟩, fun _ hcustody => ?_, fun hs => ?_,
    fun hr => ?_⟩
  · by_cases hpark : unfinishedWorkerPark t = true
    · rw [releasedAttempt_of_park hpark]
      exact decide_eq_true ⟨rfl, hpark, named hpark, named hpark, rfl, rfl, rfl, rfl, rfl⟩
    · have hid : (releasedAttempt t now).assignmentID = "" :=
        releasedAttempt_assignmentID (by simpa using hpark)
      simp [plannedTransition, hid, hpark] at hcustody
  · simp [plannedTransition, releasedAssignment] at hs
  · rcases proven with hproven | ⟨hreason, hintent, hcancelled⟩
    · exact hproven
    · have hreason' := h.reason_proper.2.1
      simp [plannedTransition, hreason, hreason', hintent, hcancelled] at hr

end

theorem coordinatorIntent_iff (t : Attempt) :
    coordinatorIntent t.control = true ↔ workerOwnsStopIntent t = true ∨ t.control = .resuming := by
  simp [coordinatorIntent, workerOwnsStopIntent, or_assoc]

theorem OmittedIdle.no_intent (h : OmittedIdle a t o commands) :
    coordinatorIntent t.control = false := by
  rw [← Bool.not_eq_true, coordinatorIntent_iff, h.2.2.2.1]
  simp [h.2.2.2.2]

theorem PlannedFrom.keeps_resume (h : PlannedFrom a t o snapshot commands now a' t' reason)
    (hr : t.control = .resuming) : t'.control ≠ .preparing ∧ t'.control ≠ .running := by
  rcases h.moved.control with ⟨hc, -⟩ | ⟨hc, -⟩ | ⟨-, hc | ⟨-, hc | ⟨-, hfree⟩⟩⟩
  · simp [hc, hr]
  · simp [hc]
  · simp [hc]
  · simp [hc]
  · exact absurd hr hfree

theorem check_held (row : LiveRow a t snapshot now)
    (h : PlannedFrom a t (observationOf snapshot a) snapshot commands now a' t' reason)
    (held : a'.state ≠ .released) :
    checkWorkerStateTransition snapshot a t (plannedTransition a t snapshot now a' t' reason) =
      .ok () := by
  simp only [checkWorkerStateTransition, refuseWhen_bind_eq_ok_iff,
    refuseWhen_eq_ok_iff, not_or, not_and, not_not, ne_eq, Bool.not_eq_false]
  refine ⟨rfl, ⟨rfl, h.attempt_id.symm, row.attempt⟩, fun hs => absurd hs held,
    fun _ hintent => ?_, fun hr => ?_⟩
  · rcases (coordinatorIntent_iff t).1 hintent with hstop | hresume
    · obtain ⟨hp, hrun, hres⟩ := h.keeps_stop_intent hstop
      exact ⟨hp, hrun, fun hc => absurd hc hres⟩
    · obtain ⟨hp, hrun⟩ := h.keeps_resume hresume
      exact ⟨hp, hrun, fun _ => hresume⟩
  · obtain ⟨-, hnotAccepted, hstop⟩ := h.reason_proper
    simp only [plannedTransition, hnotAccepted, held, false_and, or_false] at hr
    obtain ⟨ob, hob, released, session, thread⟩ := hstop hr
    exact stopProven_of_observed hob released session thread

section

variable (h : PlannedFrom a t o snapshot commands now a' t' reason)
include h

theorem PlannedFrom.finished_control (hf : attemptFinished t = true) : t'.control = .stopped ∨
      (a'.state = .claimed ∧ t'.control = t.control ∧ workerOwnsStopIntent t = true) := by
  rcases h.moved.control with ⟨hsame, hclaimed⟩ | ⟨hstopped, -⟩ | ⟨hunfinished, -⟩
  · exact .inr ⟨(hclaimed hf).1, hsame, (hclaimed hf).2⟩
  · exact .inl hstopped
  · cases hf.symm.trans hunfinished

theorem checkFinished_planned :
    checkFinishedAttempt t (plannedTransition a t snapshot now a' t' reason) = .ok () := by
  refine refuseWhen_of_not ?_ _
  rintro ⟨hf, hbad⟩
  have hprogress := h.keeps_finished_progress hf
  have hcontrol := h.finished_control hf
  rw [h.moved.record] at hbad
  rcases hcontrol with hc | ⟨hs, hc, hstop⟩ <;> simp_all [plannedTransition]

end

/-! ## Evidence that changes nothing -/

theorem finishWorkerStateTransition_eq_none_iff : finishWorkerStateTransition a t a' t'
      reason = none ↔ a = { a' with updatedAt := a.updatedAt } ∧
        t = { t' with revision := t.revision, updatedAt := t.updatedAt } := by
  unfold finishWorkerStateTransition
  split_ifs with h
  · exact ⟨fun _ => h, fun _ => rfl⟩
  · exact ⟨fun hsome => absurd hsome (by simp), fun hsame => absurd hsame h⟩

theorem finish_of_state_ne (h : a'.state ≠ a.state) :
    finishWorkerStateTransition a t a' t' reason ≠ none := by
  rw [Ne, finishWorkerStateTransition_eq_none_iff]
  rintro ⟨ha, -⟩
  exact h (congrArg Assignment.state ha).symm

theorem finish_dispatched_eq_none_iff : finishWorkerStateTransition a t { a with updatedAt := now }
        { t with progress := .active, control := .running, updatedAt := now } reason = none ↔
      t.progress = .active ∧ t.control = .running := by
  rw [finishWorkerStateTransition_eq_none_iff]
  cases t
  simp

theorem finish_completed_eq_none_iff :
    finishWorkerStateTransition a t (observedCompletedAssignment a snapshot ob.threadID now)
        (completedAttempt t .active ob.threadID now) reason = none ↔
      CompletionRecorded a t ob snapshot := by
  have hassignment : a = { observedCompletedAssignment a snapshot ob.threadID now with
      updatedAt := a.updatedAt } ↔ a.state = .claimed ∧ a.unknownSince = none ∧
        a.workerEpoch = snapshot.workerEpoch ∧ a.leaseExpiresAt = snapshot.validUntil ∧
        a.threadID = reportedThread ob.threadID a.threadID := by
    cases a
    simp [observedCompletedAssignment, Assignment.setState]
    tauto
  have hattempt : t = { completedAttempt t .active ob.threadID now with
      revision := t.revision, updatedAt := t.updatedAt } ↔ (unfinishedWorkerPark t = true ∨
        ((attemptFinished t = true ∨ t.progress = .active) ∧ t.control = .stopped ∧
          t.threadID = reportedThread ob.threadID t.threadID)) := by
    unfold completedAttempt
    by_cases hpark : unfinishedWorkerPark t = true
    · simp [hpark]
    · by_cases hf : attemptFinished t = true
      · simp only [hpark, hf, if_true]
        cases t
        simp
      · simp only [hpark, hf]
        cases t
        simp
  rw [finishWorkerStateTransition_eq_none_iff, hassignment, hattempt, CompletionRecorded]
  simp only [and_assoc]

/-! ## Accepted and refused evidence -/

@[simp] theorem completedAttempt_assignmentID (t : Attempt) (progress : ProgressState)
    (threadID : String) (now : Time) :
    (completedAttempt t progress threadID now).assignmentID = t.assignmentID := by
  unfold completedAttempt
  split_ifs <;> rfl

@[simp] theorem unknownAttempt_assignmentID (t : Attempt) (now : Time) :
    (unknownAttempt t now).assignmentID = t.assignmentID := by
  unfold unknownAttempt
  split_ifs <;> rfl

section

variable (row : LiveRow a t snapshot now)
  (h : PlannedFrom a t (observationOf snapshot a) snapshot commands now a' t' reason)
include row h

/-- Evidence that keeps custody is accepted when it binds the custody to the current session and
the attempt names it. -/
theorem accepted_held (held : a'.state ≠ .released)
    (session : a'.state = .claimed ∨ a'.state = .unknown → a'.workerEpoch = snapshot.workerEpoch)
    (named : t'.assignmentID = a.id) : Passes a t snapshot now a' t' reason :=
  ⟨(validate_planned_iff row h).2 ⟨session, fun hne => absurd named hne, fun hs => absurd hs held⟩,
    check_held row h held⟩

theorem PlannedFrom.accepted (changed : finishWorkerStateTransition a t a' t' reason ≠ none)
    (hc : ¬Uncommittable a t (observationOf snapshot a) snapshot commands) :
    Passes a t snapshot now a' t' reason := by
  have planned := h
  have held : a.state ≠ .released := by
    rcases row.live with hs | hs <;> simp [hs]
  cases h with
  | present ob =>
    exact accepted_held row planned (by simp [claimedAssignment]) (fun _ => rfl) rfl
  | stopped ob observed released session thread =>
    have named : unfinishedWorkerPark t = true → t.assignmentID = a.id := fun park =>
      by_contra fun unnamed => hc (.stoppedPark ob observed released session thread park unnamed)
    exact ⟨validate_released row planned named, check_released row planned named
      (.inl (stopProven_of_observed observed released session thread))⟩
  | collected ob observed completed accepted =>
    have named : t.assignmentID = a.id :=
      by_contra fun unnamed => hc (.completed ob observed completed (.inl accepted) unnamed)
    exact accepted_held row planned (by simp [completedAssignment]) (by simp [completedAssignment])
      (by simpa using named)
  | observedCompleted ob observed completed uncollected =>
    have named : t.assignmentID = a.id := by_contra fun unnamed =>
      hc (.completed ob observed completed
        (.inr fun recorded => changed (finish_completed_eq_none_iff.2 recorded)) unnamed)
    exact accepted_held row planned (by simp [observedCompletedAssignment]) (fun _ => rfl)
      (by simpa using named)
  | observedUnknown ob observed unknown known =>
    have named : t.assignmentID = a.id :=
      by_contra fun unnamed => hc (.observedUnknown ob observed unknown known unnamed)
    exact accepted_held row planned (by simp [unknownAssignment]) (fun _ => rfl)
      (by simpa using named)
  | collectedUnobserved omitted running accepted =>
    have named : t.assignmentID = a.id :=
      by_contra fun unnamed => hc (.collectedUnobserved omitted running accepted unnamed)
    exact accepted_held row planned (by simp [completedAssignment]) (by simp [completedAssignment])
      (by simpa using named)
  | rejected idle rejected =>
    have named : unfinishedWorkerPark t = true → t.assignmentID = a.id := fun park =>
      by_contra fun unnamed => hc (.rejectedPark idle rejected park unnamed)
    have hcancelled : t.progress ≠ .cancelled := fun hp => hc (.rejectedCancelled idle rejected hp)
    exact ⟨validate_released row planned named, check_released row planned named
      (.inr ⟨by decide, idle.no_intent, hcancelled⟩)⟩
  | terminalStop idle willing finished running session =>
    have named : t.assignmentID = a.id :=
      by_contra fun unnamed => hc (.terminalStop idle willing finished running session unnamed)
    exact accepted_held row planned held (fun _ => session) named
  | dispatched idle willing unfinished dispatched =>
    have hchanged := finish_dispatched_eq_none_iff.not.1 changed
    have session : a.workerEpoch = snapshot.workerEpoch := by_contra fun stale =>
      hc (.dispatched idle willing unfinished dispatched hchanged (.inl stale))
    have named : t.assignmentID = a.id := by_contra fun unnamed =>
      hc (.dispatched idle willing unfinished dispatched hchanged (.inr unnamed))
    exact accepted_held row planned held (fun _ => session) named
  | absent idle willing unfinished undispatched lost =>
    have named : unfinishedWorkerPark t = true → t.assignmentID = a.id := fun park =>
      by_contra fun unnamed =>
        hc (.absentPark idle willing unfinished undispatched lost park unnamed)
    have hcancelled : t.progress ≠ .cancelled := by
      intro hp
      simp [attemptFinished, hp, ProgressState.terminal] at unfinished
    exact ⟨validate_released row planned named, check_released row planned named
      (.inr ⟨by decide, idle.no_intent, hcancelled⟩)⟩

theorem refused_unnamed (changed : finishWorkerStateTransition a t a' t' reason ≠ none)
    (held : a'.state ≠ .released) (unnamed : t'.assignmentID ≠ a.id) :
    Refused a t snapshot commands now := by
  refine ⟨a', t', reason, h, changed, fun passes => ?_⟩
  obtain ⟨-, hnamed, -⟩ := (validate_planned_iff row h).1 passes.1
  exact held (hnamed unnamed)

end

theorem refused_park (park : unfinishedWorkerPark t = true) (unnamed : t.assignmentID ≠ a.id) :
    checkWorkerStateTransition snapshot a t (plannedTransition a t snapshot now
      (releasedAssignment a now) (releasedAttempt t now) reason) ≠ .ok () := by
  simp only [checkWorkerStateTransition, Ne, refuseWhen_bind_eq_ok_iff, not_and, not_or,
    not_not, Bool.not_eq_false]
  intro _ _ hhandoff
  have handoff := hhandoff (by simp [plannedTransition, releasedAssignment]) (.inr park)
  simp only [durableParkReleaseHandoff, decide_eq_true_eq] at handoff
  exact absurd handoff.2.2.1 unnamed

/-- Release of omitted custody of a cancelled attempt is refused: its stop is not proven. -/
theorem refused_cancelled (omitted : observationOf snapshot a = none)
    (cancelled : t.progress = .cancelled) :
    checkWorkerStateTransition snapshot a t (plannedTransition a t snapshot now
      (releasedAssignment a now) (releasedAttempt t now) reason) ≠ .ok () := by
  simp only [checkWorkerStateTransition, Ne, refuseWhen_bind_eq_ok_iff,
    refuseWhen_eq_ok_iff, not_and, not_not]
  intro _ _ _ _ hproven
  have hreleased : (releasedAssignment a now).state = .released := by simp [releasedAssignment]
  exact absurd (stopProven_of_omitted omitted) (hproven (.inr (.inr ⟨hreleased, .inr cancelled⟩)))

theorem Uncommittable.refused (row : LiveRow a t snapshot now)
    (h : Uncommittable a t (observationOf snapshot a) snapshot commands) :
    Refused a t snapshot commands now := by
  have held : a.state ≠ .released ∧ a.state ≠ .completed := by
    rcases row.live with hs | hs <;> simp [hs]
  have hreleased : (releasedAssignment a now).state ≠ a.state := by
    simpa [releasedAssignment] using held.1.symm
  have hcompleted : ∀ epoch thread, (completedAssignment a epoch thread now).state ≠ a.state := by
    simpa [completedAssignment] using held.2.symm
  cases h with
  | rejectedCancelled idle rejected cancelled =>
    exact ⟨_, _, _, .rejected idle rejected, finish_of_state_ne hreleased,
      fun passes => refused_cancelled idle.1 cancelled passes.2⟩
  | rejectedPark idle rejected park unnamed =>
    exact ⟨_, _, _, .rejected idle rejected, finish_of_state_ne hreleased,
      fun passes => refused_park park unnamed passes.2⟩
  | dispatched idle willing unfinished dispatched changed stale =>
    have planned : PlannedFrom a t (observationOf snapshot a) snapshot commands now _ _ _ :=
      .dispatched idle willing unfinished dispatched
    rcases stale with stale | unnamed
    · refine ⟨_, _, _, planned, finish_dispatched_eq_none_iff.not.2 changed, fun passes => stale ?_⟩
      exact ((validate_planned_iff row planned).1 passes.1).1 row.live
    · exact refused_unnamed row planned (finish_dispatched_eq_none_iff.not.2 changed) held.1 unnamed
  | terminalStop idle willing finished running session unnamed =>
    refine refused_unnamed row (.terminalStop idle willing finished running session) ?_ held.1 unnamed
    rw [Ne, finishWorkerStateTransition_eq_none_iff]
    rintro ⟨-, ht⟩
    exact running (congrArg Attempt.control ht)
  | absentPark idle willing unfinished undispatched lost park unnamed =>
    exact ⟨_, _, _, .absent idle willing unfinished undispatched lost, finish_of_state_ne hreleased,
      fun passes => refused_park park unnamed passes.2⟩
  | collectedUnobserved omitted running accepted unnamed =>
    exact refused_unnamed row (.collectedUnobserved omitted running accepted)
      (finish_of_state_ne (hcompleted _ _)) (by simp [completedAssignment]) (by simpa using unnamed)
  | stoppedPark ob observed released session thread park unnamed =>
    exact ⟨_, _, _, .stopped ob observed released session thread, finish_of_state_ne hreleased,
      fun passes => refused_park park unnamed passes.2⟩
  | completed ob observed completed changed unnamed =>
    by_cases accepted : acceptedWorkerCommand commands a .collect = true
    · exact refused_unnamed row (.collected ob observed completed accepted)
        (finish_of_state_ne (hcompleted _ _)) (by simp [completedAssignment]) (by simpa using unnamed)
    · exact refused_unnamed row (.observedCompleted ob observed completed (by simpa using accepted))
        (finish_completed_eq_none_iff.not.2 (changed.resolve_left accepted))
        (by simp [observedCompletedAssignment]) (by simpa using unnamed)
  | observedUnknown ob observed unknown known unnamed =>
    exact refused_unnamed row (.observedUnknown ob observed unknown known)
      (finish_of_state_ne (by simpa [unknownAssignment] using known.symm))
      (by simp [unknownAssignment]) (by simpa using unnamed)

/-! ## Planning, over the stored rows -/

def LiveIn (records : CoordinatorRecords) (snapshot : WorkerSnapshot) (a : Assignment)
    (t : Attempt) : Prop :=
  a.workerID = snapshot.workerID ∧ (a.state = .claimed ∨ a.state = .unknown) ∧
    attemptByID records.attempts a.attemptID = some t

variable {records : CoordinatorRecords}

theorem plan_of_planned (live : LiveIn records snapshot a t)
    (h : PlannedFrom a t (observationOf snapshot a) snapshot commands now a' t' reason)
    (changed : finishWorkerStateTransition a t a' t' reason ≠ none) :
    planAssignmentTransition records snapshot commands now a =
      some (plannedTransition a t snapshot now a' t' reason) := by
  obtain ⟨p, hp⟩ := Option.ne_none_iff_exists'.1 changed
  obtain ⟨ha, ht, hr⟩ := finishWorkerStateTransition_some hp
  obtain ⟨hau, htu⟩ := h.updatedAt
  have hsame : p.assignment = a' := by
    rw [ha, htu, ← hau]
  have hplan := planWorkerStateTransition_of_planned
    (fun ob hob => (mem_of_observationOf hob).2) ⟨a', t', reason, h, hp⟩
  obtain ⟨hworker, hstate, hattempt⟩ := live
  unfold planAssignmentTransition
  rw [if_neg (by simp [hworker, hstate]), hattempt]
  simp only [hplan, plannedTransition, hsame, ht, hr]

theorem planned_of_plan {tr : WorkerStateTransition}
    (h : planAssignmentTransition records snapshot commands now a = some tr) :
    ∃ t a' t' reason, LiveIn records snapshot a t ∧
      PlannedFrom a t (observationOf snapshot a) snapshot commands now a' t' reason ∧
      finishWorkerStateTransition a t a' t' reason ≠ none ∧
      tr = plannedTransition a t snapshot now a' t' reason := by
  obtain ⟨-, hworker, hstate, t, ht, -, a', t', reason, hfrom, hfinish⟩ :=
    planAssignmentTransition_some h
  have hne : finishWorkerStateTransition a t a' t' reason ≠ none := by simp [hfinish]
  have hlive : LiveIn records snapshot a t := ⟨hworker, hstate, ht⟩
  refine ⟨t, a', t', reason, hlive, hfrom, hne, ?_⟩
  exact Option.some.inj (h.symm.trans (plan_of_planned hlive hfrom hne))

/-! ## Applying one transition -/

/-- The store still holds the session the transitions were planned from. -/
structure CurrentSession (s : Store) (snapshot : WorkerSnapshot) (now : Time) : Prop where
  epoch : s.coordinatorEpoch = snapshot.coordinatorEpoch
  stored : s.loadWorkerSnapshot snapshot.workerID = some snapshot
  connected : snapshot.connected = true
  unexpired : now < snapshot.validUntil
  worker : proper snapshot.workerID = true

/-- The store still holds the rows a transition was planned from, and no event of its own. -/
structure CurrentRow (s : Store) (a : Assignment) (t : Attempt) : Prop where
  assignment : s.assignments.get? a.id = some a
  attempt : s.attempts.get? a.attemptID = some t
  unaudited : s.auditEvents.get? (numbered ("worker-state:" ++ a.id) (t.revision + 1)) = none

/-- One applied transition touches its own rows and its own event only. -/
structure Frame (s s' : Store) (a : Assignment) : Prop where
  epoch : s'.coordinatorEpoch = s.coordinatorEpoch
  snapshots : s'.workerSnapshots = s.workerSnapshots
  assignments : ∀ id, a.id ≠ id → s'.assignments.get? id = s.assignments.get? id
  attempts : ∀ id, a.attemptID ≠ id → s'.attempts.get? id = s.attempts.get? id
  auditEvents : ∀ b : Assignment, a.id ≠ b.id → ∀ n,
    s'.auditEvents.get? (numbered ("worker-state:" ++ b.id) n) =
      s.auditEvents.get? (numbered ("worker-state:" ++ b.id) n)

theorem Frame.refl (s : Store) (a : Assignment) : Frame s s a :=
  ⟨rfl, rfl, fun _ _ => rfl, fun _ _ => rfl, fun _ _ _ => rfl⟩

theorem Frame.session (f : Frame s s' a) (h : CurrentSession s snapshot now) :
    CurrentSession s' snapshot now := by
  refine ⟨f.epoch.trans h.epoch, ?_, h.connected, h.unexpired, h.worker⟩
  have := h.stored
  unfold loadWorkerSnapshot at this ⊢
  rw [f.snapshots, this]

theorem Frame.row {u : Attempt} (f : Frame s s' a) (hid : a.id ≠ b.id)
    (hattempt : a.attemptID ≠ b.attemptID) (h : CurrentRow s b u) : CurrentRow s' b u :=
  ⟨(f.assignments _ hid).trans h.assignment, (f.attempts _ hattempt).trans h.attempt,
    (f.auditEvents b hid _).trans h.unaudited⟩

theorem worker_state_identity_proper (id : String) (n : Int) :
    proper (numbered ("worker-state:" ++ id) n) = true := by
  have htext : ("worker-state:" ++ id).toList = 'w' :: ("orker-state:" ++ id).toList := by
    simp
  refine numbered_proper (fun hempty => ?_) ?_ n
  · rw [hempty] at htext
    simp at htext
  · rw [htext]
    rfl

theorem worker_state_identity_ne {m n : Int} (h : a.id ≠ b.id) :
    numbered ("worker-state:" ++ a.id) m ≠ numbered ("worker-state:" ++ b.id) n := by
  intro heq
  have hbase := congrArg String.toList (numbered_base_inj heq)
  rw [String.toList_append, String.toList_append, append_cancel_left_eq] at hbase
  exact h (String.toList_inj.1 hbase)

theorem write_planned (session : CurrentSession s snapshot now) (row : LiveRow a t snapshot now)
    (current : CurrentRow s a t) (h : PlannedFrom a t o snapshot commands now a' t' reason) :
    ∃ s', s.writeWorkerStateTransition (plannedTransition a t snapshot now a' t' reason) = .ok s' ∧
      Frame s s' a := by
  obtain ⟨hid, -⟩ := h.assignment_identity
  obtain ⟨htext, hkind⟩ : proper a'.state.text = true ∧
    proper ("worker-state-" ++ a'.state.text) = true := by
    rcases h.next_state row.live with h | h | h | h <;> rw [h] <;> decide
  have hattemptID : t'.id = a.attemptID := h.attempt_id.trans row.attempt
  have hidentity : workerStateAuditID (plannedTransition a t snapshot now a' t' reason) =
      numbered ("worker-state:" ++ a.id) (t.revision + 1) := by
    simp only [workerStateAuditID, plannedTransition, hid]
  have hupdate := @updateAttempt_of_current { s with assignments := s.assignments.put a' }
    { t' with revision := t.revision + 1 } t t.revision (hattemptID ▸ current.attempt) rfl
  have hproper := worker_state_identity_proper a.id (t.revision + 1)
  have hactor : proper ("worker:" ++ snapshot.workerID) = true :=
    proper_append rfl session.worker
  unfold writeWorkerStateTransition
  simp only [plannedTransition] at hidentity hupdate ⊢
  rw [hupdate, ok_bind, hidentity, hid]
  rw [insertNativeAuditEvent_of_new hproper hkind row.id hactor h.reason_proper.1 hproper htext
    (by simp) row.complete.2.2.2.2 current.unaudited]
  refine ⟨_, rfl, rfl, rfl, fun id hne => ?_, fun id hne => ?_, fun b hne n => ?_⟩
  · exact get?_put_of_ne _ (by rwa [hid])
  · exact get?_put_of_ne _ (by rwa [← hattemptID] at hne)
  · exact get?_put_of_ne _ (worker_state_identity_ne hne)

section Batch

variable (digest : ThrottleCommand → String)

section

variable (session : CurrentSession s snapshot now) (row : LiveRow a t snapshot now)
  (current : CurrentRow s a t) (h : PlannedFrom a t o snapshot commands now a' t' reason)
include session row current h

/-- Of a planned transition of current rows, only the fences are left to decide. -/
theorem apply_planned_eq :
    s.applyWorkerStateTransition digest (plannedTransition a t snapshot now a' t' reason) = (do
      checkWorkerStateTransition snapshot a t (plannedTransition a t snapshot now a' t' reason)
      if t.progress = .cancelled ∧ t.control = .draining ∧
          pendingAttentionStop digest s.throttleAttempts.rows t a snapshot.coordinatorEpoch =
          true then
        return (s, a)
      checkFinishedAttempt t (plannedTransition a t snapshot now a' t' reason)
      let s ← s.writeWorkerStateTransition (plannedTransition a t snapshot now a' t' reason)
      return (s, a')) := by
  have hepoch : s.requireCoordinatorEpoch
      (plannedTransition a t snapshot now a' t' reason).coordinatorEpoch = .ok () :=
    refuseWhen_of_not (by simp [plannedTransition, session.epoch]) _
  have hsnapshot : s.requireTransitionSnapshot (plannedTransition a t snapshot now a' t' reason) =
      .ok snapshot := by
    simp [requireTransitionSnapshot, plannedTransition, session.stored, session.connected,
      session.unexpired]
  have hassignment : s.loadAssignment
      (plannedTransition a t snapshot now a' t' reason).assignment.id = .ok a := by
    rw [plannedTransition, h.assignment_identity.1, loadAssignment, current.assignment]
  have hattempt : s.loadAttempt (plannedTransition a t snapshot now a' t' reason).attempt.id =
    .ok t := by
    rw [plannedTransition, h.attempt_id, row.attempt, loadAttempt, current.attempt]
  have hnew : ¬(a = (plannedTransition a t snapshot now a' t' reason).assignment ∧
      t = (plannedTransition a t snapshot now a' t' reason).attempt) := by
    rintro ⟨-, ht⟩
    have hrevision : t.revision = t.revision + 1 := congrArg Attempt.revision ht
    omega
  unfold applyWorkerStateTransition
  rw [hepoch, hsnapshot, hassignment, hattempt]
  simp only [ok_bind]
  rw [if_neg hnew]
  rfl

theorem apply_planned_accepted (hcheck : checkWorkerStateTransition snapshot a t
      (plannedTransition a t snapshot now a' t' reason) = .ok ()) :
    ∃ s' applied, s.applyWorkerStateTransition digest
        (plannedTransition a t snapshot now a' t' reason) = .ok (s', applied) ∧ Frame s s' a := by
  rw [apply_planned_eq digest session row current h, hcheck, ok_bind]
  split_ifs with hpending
  · exact ⟨s, a, rfl, Frame.refl s a⟩
  · obtain ⟨s', hwrite, hframe⟩ := write_planned session row current h
    refine ⟨s', a', ?_, hframe⟩
    rw [checkFinished_planned h, hwrite]
    rfl

end

theorem apply_cons_iff {s' : Store} {tr : WorkerStateTransition} {applied : Assignment}
    {trs : List WorkerStateTransition} {seenAssignments seenAttempts : List String}
    (hvalid : validateWorkerStateTransition tr = .ok ())
    (hassignment : tr.assignment.id ∉ seenAssignments) (hattempt : tr.attempt.id ∉ seenAttempts)
    (happly : s.applyWorkerStateTransition digest tr = .ok (s', applied)) :
    (∃ r, s.applyWorkerStateTransitions digest (tr :: trs) seenAssignments seenAttempts = .ok r) ↔
      ∃ r, s'.applyWorkerStateTransitions digest trs (tr.assignment.id :: seenAssignments)
        (tr.attempt.id :: seenAttempts) = .ok r := by
  rw [applyWorkerStateTransitions, hvalid, refuseWhen_of_not hassignment,
    refuseWhen_of_not hattempt, happly]
  simp only [ok_bind]
  constructor
  · rintro ⟨r, hr⟩
    obtain ⟨x, hx, -⟩ := of_bind hr
    exact ⟨x, hx⟩
  · rintro ⟨x, hx⟩
    exact ⟨_, bind_eq_ok_iff.2 ⟨x, hx, rfl⟩⟩

/-- A batch planned from current rows is accepted exactly when none is uncommittable: each applied
transition leaves the rows ahead of it current. -/
theorem apply_batch_iff (assignments : List Assignment) (s : Store)
    (seenAssignments seenAttempts : List String) (session : CurrentSession s snapshot now)
    (hrows : ∀ a ∈ assignments, ∀ t, LiveIn records snapshot a t →
      LiveRow a t snapshot now ∧ CurrentRow s a t)
    (hdistinct : assignments.Pairwise fun a b => ∀ t u, LiveIn records snapshot a t →
      LiveIn records snapshot b u → a.id ≠ b.id ∧ a.attemptID ≠ b.attemptID)
    (hseen : ∀ a ∈ assignments, ∀ t, LiveIn records snapshot a t →
      a.id ∉ seenAssignments ∧ a.attemptID ∉ seenAttempts) :
    (∃ r, s.applyWorkerStateTransitions digest
        (assignments.filterMap (planAssignmentTransition records snapshot commands now))
        seenAssignments seenAttempts = .ok r) ↔
      ∀ a ∈ assignments, ∀ t, LiveIn records snapshot a t →
        ¬Uncommittable a t (observationOf snapshot a) snapshot commands := by
  induction assignments generalizing s seenAssignments seenAttempts with
  | nil => simp [applyWorkerStateTransitions]
  | cons a rest ih =>
    rw [pairwise_cons] at hdistinct
    have hrest := fun b hb => hrows b (.tail _ hb)
    have hrestSeen := fun b hb => hseen b (.tail _ hb)
    rw [forall_mem_cons]
    cases hplan : planAssignmentTransition records snapshot commands now a with
    | none =>
      rw [filterMap_cons_none hplan, ih s seenAssignments seenAttempts session hrest hdistinct.2
        hrestSeen]
      refine (and_iff_right fun t live hbad => ?_).symm
      obtain ⟨a', t', reason, hfrom, hchanged, -⟩ :=
        hbad.refused (hrows a (.head _) t live).1
      cases (hplan.symm.trans (plan_of_planned live hfrom hchanged))
    | some tr =>
      obtain ⟨t, a', t', reason, live, hfrom, hchanged, rfl⟩ := planned_of_plan hplan
      obtain ⟨row, current⟩ := hrows a (.head _) t live
      rw [filterMap_cons_some hplan]
      obtain ⟨hnewAssignment, hnewAttempt⟩ := hseen a (.head _) t live
      have hid : a'.id = a.id := hfrom.assignment_identity.1
      have hattemptID : t'.id = a.attemptID := hfrom.attempt_id.trans row.attempt
      by_cases hbad : Uncommittable a t (observationOf snapshot a) snapshot commands
      · refine iff_of_false ?_ fun hall => hall.1 t live hbad
        obtain ⟨b', u', r', hfrom', hchanged', hrefused⟩ := hbad.refused row
        have hsame : plannedTransition a t snapshot now a' t' reason =
            plannedTransition a t snapshot now b' u' r' :=
          Option.some.inj (hplan.symm.trans (plan_of_planned live hfrom' hchanged'))
        rw [hsame, applyWorkerStateTransitions]
        rintro ⟨r, hr⟩
        simp only [bind_eq_ok_iff] at hr
        obtain ⟨_, hvalid, _, -, _, -, x, happly, -⟩ := hr
        rw [apply_planned_eq digest session row current hfrom', bind_eq_ok_iff] at happly
        exact hrefused ⟨hvalid, happly.elim fun _ hcheck => hcheck.1⟩
      · obtain ⟨hvalid, hcheck⟩ := hfrom.accepted row hchanged hbad
        obtain ⟨s', applied, happly, hframe⟩ :=
          apply_planned_accepted digest session row current hfrom hcheck
        have hgood : ∀ u, LiveIn records snapshot a u →
            ¬Uncommittable a u (observationOf snapshot a) snapshot commands := fun u hu => by
          rwa [Option.some.inj (hu.2.2.symm.trans live.2.2)]
        rw [and_iff_right hgood, apply_cons_iff digest hvalid (by rwa [plannedTransition, hid])
          (by rwa [plannedTransition, hattemptID]) happly]
        refine ih s' _ _ (hframe.session session) (fun b hb u hu => ?_) hdistinct.2
          fun b hb u hu => ?_
        · obtain ⟨hidne, hattemptne⟩ := hdistinct.1 b hb t u live hu
          exact ⟨(hrest b hb u hu).1, hframe.row hidne hattemptne (hrest b hb u hu).2⟩
        · obtain ⟨hidne, hattemptne⟩ := hdistinct.1 b hb t u live hu
          simp only [plannedTransition, hid, hattemptID, mem_cons, not_or]
          exact ⟨⟨hidne.symm, (hrestSeen b hb u hu).1⟩, hattemptne.symm, (hrestSeen b hb u hu).2⟩

end Batch

/-! ## Whole batches -/

/-- A store as the writers leave it, with the worker's current snapshot: an attempt has at most one
live assignment, live assignments carry their identities, and the event of an attempt's next
revision is not recorded yet. -/
structure Reconcilable (s : Store) (snapshot : WorkerSnapshot) : Prop where
  epoch : s.coordinatorEpoch = snapshot.coordinatorEpoch
  stored : s.loadWorkerSnapshot snapshot.workerID = some snapshot
  worker : proper snapshot.workerID = true
  exclusive : ∀ a ∈ s.assignments.rows, ∀ b ∈ s.assignments.rows,
    (a.state = .claimed ∨ a.state = .unknown) → (b.state = .claimed ∨ b.state = .unknown) →
    a.attemptID = b.attemptID → a = b
  identified : ∀ a ∈ s.assignments.rows, (a.state = .claimed ∨ a.state = .unknown) →
    proper a.id = true ∧ a.attemptID ≠ "" ∧ 1 ≤ a.epoch
  unaudited : ∀ a ∈ s.assignments.rows, (a.state = .claimed ∨ a.state = .unknown) →
    ∀ t, s.attempts.get? a.attemptID = some t →
      s.auditEvents.get? (numbered ("worker-state:" ++ a.id) (t.revision + 1)) = none

theorem planWorkerStateTransitions_ok {trs : List WorkerStateTransition}
    (h : planWorkerStateTransitions records snapshot commands now = .ok trs) :
    (1 ≤ snapshot.coordinatorEpoch ∧ snapshot.workerID ≠ "" ∧ snapshot.workerEpoch ≠ "" ∧
      1 ≤ snapshot.sequence ∧ now ≠ 0) ∧ snapshot.connected = true ∧ now < snapshot.validUntil ∧
      trs = (records.assignments.insertionSort fun a b => a.id ≤ b.id).filterMap
        (planAssignmentTransition records snapshot commands now) := by
  unfold planWorkerStateTransitions at h
  split_ifs at h with hcomplete hcurrent
  split at h
  · cases h
  · simp only [not_or, not_lt, Bool.not_eq_true', Bool.not_eq_false] at hcomplete hcurrent
    obtain ⟨hworker, hsession, hepoch, hsequence, hnow⟩ := hcomplete
    exact ⟨⟨hepoch, hworker, hsession, hsequence, hnow⟩, hcurrent.1, not_le.1 hcurrent.2,
      (Except.ok.inj h).symm⟩

theorem liveIn_records_iff : LiveIn s.loadCoordinatorRecords snapshot a t ↔
      a.workerID = snapshot.workerID ∧ (a.state = .claimed ∨ a.state = .unknown) ∧
        s.attempts.get? a.attemptID = some t := by
  unfold LiveIn attemptByID loadCoordinatorRecords
  rw [find?_reverse_rows]

/-- The batch planned from a store and its worker's snapshot is committed exactly when none of the
worker's live assignments is uncommittable. -/
theorem planned_batch_commits_iff (digest : ThrottleCommand → String) (s : Store)
    (snapshot : WorkerSnapshot) (commands : List WorkerCommandRecord) (now : Time)
    (trs : List WorkerStateTransition) (hs : Reconcilable s snapshot)
    (hplan : planWorkerStateTransitions s.loadCoordinatorRecords snapshot commands now = .ok trs) :
    (∃ r, s.commitWorkerStateTransitions digest trs = .ok r) ↔
      ∀ a ∈ s.assignments.rows, a.workerID = snapshot.workerID →
        (a.state = .claimed ∨ a.state = .unknown) → ∀ t, s.attempts.get? a.attemptID = some t →
          ¬Uncommittable a t (observationOf snapshot a) snapshot commands := by
  obtain ⟨hcomplete, hconnected, hunexpired, rfl⟩ := planWorkerStateTransitions_ok hplan
  have hperm : (s.assignments.rows.insertionSort fun a b => a.id ≤ b.id).Perm s.assignments.rows :=
    perm_insertionSort _ _
  have hdistinct : s.assignments.rows.Pairwise fun a b =>
      ∀ t u, LiveIn s.loadCoordinatorRecords snapshot a t →
        LiveIn s.loadCoordinatorRecords snapshot b u → a.id ≠ b.id ∧ a.attemptID ≠ b.attemptID := by
    refine s.assignments.sorted.imp_of_mem fun {a b} ha hb hlt t u hat hbu => ?_
    exact ⟨ne_of_lt hlt, fun heq => ne_of_lt hlt
      (congrArg Assignment.id (hs.exclusive a ha b hb hat.2.1 hbu.2.1 heq))⟩
  refine (apply_batch_iff digest _ s [] []
    ⟨hs.epoch, hs.stored, hconnected, hunexpired, hs.worker⟩ (fun a ha t live => ?_)
    (hdistinct.perm hperm.symm fun {a b} hab t u ht hu => ?_) (by simp)).trans ?_
  · have hmem := hperm.mem_iff.1 ha
    obtain ⟨hworker, hlive, hattempt⟩ := liveIn_records_iff.1 live
    obtain ⟨hid, hattemptID, hepoch⟩ := hs.identified a hmem hlive
    exact ⟨⟨hworker, hlive, hid, hattemptID, hepoch, key_of_get? hattempt, hcomplete⟩,
      mem_rows_iff.1 hmem, hattempt, hs.unaudited a hmem hlive t hattempt⟩
  · obtain ⟨hid, hattemptID⟩ := hab u t hu ht
    exact ⟨hid.symm, hattemptID.symm⟩
  · constructor
    · intro h a ha hworker hlive t ht
      exact h a (hperm.mem_iff.2 ha) t (liveIn_records_iff.2 ⟨hworker, hlive, ht⟩)
    · intro h a ha t live
      obtain ⟨hworker, hlive, ht⟩ := liveIn_records_iff.1 live
      exact h a (hperm.mem_iff.1 ha) hworker hlive t ht

def custody (pairs : List (Assignment × Attempt)) : Store :=
  { attempts := ofList Attempt.id (pairs.map Prod.snd)
    assignments := ofList Assignment.id (pairs.map Prod.fst)
    workerSnapshots := ofList WorkerSnapshot.workerID [emptySnapshot] }

def acceptedCommand (assignmentID : String) (kind : WorkerCommandKind) : WorkerCommandRecord :=
  { command := { id := "command", kind := kind, workerID := "worker", assignmentID := assignmentID
                 assignmentEpoch := 1 }
    acknowledgement := some { commandID := "command", accepted := true } }

/-- Custody of a parked attempt, and of one that an earlier session of the worker was preparing. -/
def lostCustody : Store :=
  custody [(heldAssignment, parkedAttempt),
    ({ heldAssignment with id := "sibling", attemptID := "second", workerEpoch := "earlier", state := .claimed },
      { id := "second", assignmentID := "sibling", revision := 1, progress := .active, control := .preparing })]

/-- Both are gone from the snapshot of the new session, and are released in one batch. -/
theorem parked_custody_commits : ∃ trs, planWorkerStateTransitions lostCustody.loadCoordinatorRecords
        emptySnapshot [acceptedCommand "sibling" .prepare] 2 = .ok trs ∧ trs.length = 2 ∧
      ∃ r, lostCustody.commitWorkerStateTransitions (fun _ => "") trs = .ok r := by
  have hrows : ∀ a ∈ lostCustody.assignments.rows, ∀ t ∈ lostCustody.attempts.get? a.attemptID,
      t.assignmentID = a.id ∧ t.progress ≠ .cancelled ∧
        ¬acceptedWorkerCommand [acceptedCommand "sibling" .prepare] a .dispatch = true := by decide
  refine ⟨_, rfl, rfl, (planned_batch_commits_iff (fun _ => "") lostCustody emptySnapshot
    [acceptedCommand "sibling" .prepare] 2 _
    ⟨rfl, rfl, by decide, by decide, by decide, fun _ _ _ _ _ => rfl⟩ rfl).2 ?_⟩
  intro a ha _ _ t ht hbad
  obtain ⟨hnamed, hactive, hundispatched⟩ := hrows a ha t ht
  cases hbad with
  | rejectedCancelled _ _ cancelled => exact hactive cancelled
  | dispatched _ _ _ dispatched => exact hundispatched dispatched.2.1
  | rejectedPark _ _ _ unnamed | terminalStop _ _ _ _ _ unnamed | absentPark _ _ _ _ _ _ unnamed
  | collectedUnobserved _ _ _ unnamed | stoppedPark _ _ _ _ _ _ unnamed | completed _ _ _ _ unnamed
  | observedUnknown _ _ _ _ unnamed => exact unnamed hnamed

/-- An accepted dispatch left behind by an earlier session is planned and never committed. -/
theorem stale_dispatch_blocks_batch :
    ¬∀ (digest : ThrottleCommand → String) (s : Store) (snapshot : WorkerSnapshot)
      (commands : List WorkerCommandRecord) (now : Time) (trs : List WorkerStateTransition),
      Reconcilable s snapshot →
      planWorkerStateTransitions s.loadCoordinatorRecords snapshot commands now = .ok trs →
      ∃ r, s.commitWorkerStateTransitions digest trs = .ok r := by
  intro h
  obtain ⟨r, hr⟩ := h (fun _ => "")
    (custody [({ heldAssignment with state := .claimed, workerEpoch := "earlier" },
      { parkedAttempt with progress := .active, control := .preparing })])
    emptySnapshot [acceptedCommand "assignment" .dispatch] 2 _
    ⟨rfl, rfl, by decide, by decide, by decide, fun _ _ _ _ _ => rfl⟩ rfl
  exact absurd hr (by rintro ⟨⟩)

end Steward
