import Steward.Backlog.WorkerReconcile

/-!
# What worker evidence can and cannot do

`PlannedFrom` lists every projection the planner can produce, with its guards. By cases over it:
worker evidence never takes a stop back, never changes the progress of a finished attempt, keeps
parks, and releases custody only on a stop observation or on the three kinds of missing custody.
-/

namespace Steward

open Except Option List

/-! ## The planned projections -/

/-- Evidence about an omitted assignment that reaches the coordinator's own conclusions: no
accepted stop or collection, and no stop or resume in force. -/
def OmittedIdle (a : Assignment) (t : Attempt) (o : Option WorkerAssignmentObservation)
    (commands : List WorkerCommandRecord) : Prop :=
  o = none ∧ acceptedWorkerCommand commands a .stop = false ∧
    acceptedWorkerCommand commands a .collect = false ∧ workerOwnsStopIntent t = false ∧
    t.control ≠ .resuming

abbrev Rejected (a : Assignment) (commands : List WorkerCommandRecord) : Prop :=
  rejectedWorkerCommand commands a .prepare = true ∨ rejectedWorkerCommand commands a .dispatch = true

abbrev Dispatched (a : Assignment) (t : Attempt) (commands : List WorkerCommandRecord) : Prop :=
  waitingExternal t = false ∧ acceptedWorkerCommand commands a .dispatch = true ∧ a.state = .claimed

/-- The projections the planner produces before unchanged ones are dropped: the next assignment,
the next attempt and the reason, for each kind of evidence. -/
inductive PlannedFrom (a : Assignment) (t : Attempt) (o : Option WorkerAssignmentObservation)
    (snapshot : WorkerSnapshot) (commands : List WorkerCommandRecord) (now : Time) :
    Assignment → Attempt → String → Prop
  | present (ob : WorkerAssignmentObservation) (observed : o = some ob)
      (claimed : ob.state = .claimed) (control : (observedControl ob).observable = true) :
      PlannedFrom a t o snapshot commands now (claimedAssignment a ob snapshot now)
        (claimedAttempt a t ob now) (claimedAttemptState t (observedControl ob)).2.2
  | stopped (ob : WorkerAssignmentObservation) (observed : o = some ob)
      (released : ob.state = .released) (session : snapshot.workerEpoch = a.workerEpoch)
      (thread : ob.threadID = a.threadID) :
      PlannedFrom a t o snapshot commands now (releasedAssignment a now) (releasedAttempt t now)
        workerStateObservedStopped
  | collected (ob : WorkerAssignmentObservation) (observed : o = some ob)
      (completed : ob.state = .completed)
      (accepted : acceptedWorkerCommand commands a .collect = true) :
      PlannedFrom a t o snapshot commands now
        (completedAssignment a snapshot.workerEpoch ob.threadID now)
        (completedAttempt t .verifying ob.threadID now)
        (completedReason t workerStateCollectAccepted)
  | observedCompleted (ob : WorkerAssignmentObservation) (observed : o = some ob)
      (completed : ob.state = .completed)
      (uncollected : acceptedWorkerCommand commands a .collect = false) :
      PlannedFrom a t o snapshot commands now
        (observedCompletedAssignment a snapshot ob.threadID now)
        (completedAttempt t .active ob.threadID now) (completedReason t workerStateObservedCompleted)
  | observedUnknown (ob : WorkerAssignmentObservation) (observed : o = some ob)
      (unknown : ob.state = .unknown) (known : a.state ≠ .unknown) :
      PlannedFrom a t o snapshot commands now (unknownAssignment a ob snapshot now)
        (unknownAttempt t now) workerStateObservedUnknown
  | collectedUnobserved (omitted : o = none)
      (running : acceptedWorkerCommand commands a .stop = false)
      (accepted : acceptedWorkerCommand commands a .collect = true) :
      PlannedFrom a t o snapshot commands now (completedAssignment a a.workerEpoch a.threadID now)
        (completedAttempt t .verifying a.threadID now)
        (completedReason t workerStateCollectAccepted)
  | rejected (idle : OmittedIdle a t o commands) (rejected : Rejected a commands) :
      PlannedFrom a t o snapshot commands now (releasedAssignment a now) (releasedAttempt t now)
        workerStateCommandRejected
  | terminalStop (idle : OmittedIdle a t o commands) (willing : ¬Rejected a commands)
      (finished : attemptFinished t = true) (running : t.control ≠ .stopped)
      (session : a.workerEpoch = snapshot.workerEpoch) :
      PlannedFrom a t o snapshot commands now { a with updatedAt := now }
        { t with control := .stopped, updatedAt := now } terminalAttemptStopRequired
  | dispatched (idle : OmittedIdle a t o commands) (willing : ¬Rejected a commands)
      (unfinished : attemptFinished t = false) (dispatched : Dispatched a t commands) :
      PlannedFrom a t o snapshot commands now { a with updatedAt := now }
        { t with progress := .active, control := .running, updatedAt := now }
        workerStateDispatchAccepted
  | absent (idle : OmittedIdle a t o commands) (willing : ¬Rejected a commands)
      (unfinished : attemptFinished t = false) (undispatched : ¬Dispatched a t commands)
      (lost : a.state = .unknown ∨ a.workerEpoch ≠ snapshot.workerEpoch) :
      PlannedFrom a t o snapshot commands now (releasedAssignment a now) (releasedAttempt t now)
        workerStateObservedAbsent

variable {p : WorkerStateProjection}

theorem finishWorkerStateTransition_some {a a' : Assignment} {t t' : Attempt} {reason : String}
    (h : finishWorkerStateTransition a t a' t' reason = some p) :
    p.assignment = { a' with updatedAt := t'.updatedAt } ∧
      p.attempt = { t' with revision := t.revision + 1 } ∧ p.reason = reason := by
  unfold finishWorkerStateTransition at h
  split_ifs at h
  rw [some.injEq] at h
  subst h
  exact ⟨rfl, rfl, rfl⟩

variable {a : Assignment} {t : Attempt} {o : Option WorkerAssignmentObservation}
  {snapshot : WorkerSnapshot} {commands : List WorkerCommandRecord} {now : Time}
  {a' : Assignment} {t' : Attempt} {reason : String}

/-- What evidence leaves of an attempt: its progress moves only while it is neither finished nor
parked, and its control is kept, is stopped, or moves while the attempt is unfinished. -/
structure Moved (o : Option WorkerAssignmentObservation) (now : Time) (a' : Assignment)
    (t t' : Attempt) : Prop where
  record : t' = { t with progress := t'.progress, control := t'.control, assignmentID := t'.assignmentID
                         threadID := t'.threadID, updatedAt := now }
  progress : t'.progress = t.progress ∨ attemptFinished t = false ∧ waitingExternal t = false
  control : t'.control = t.control ∧ (attemptFinished t = true →
      a'.state = .claimed ∧ workerOwnsStopIntent t = true) ∨
    t'.control = .stopped ∧ (unfinishedWorkerPark t = true → ∃ ob, o = some ob ∧ ob.state = .unknown) ∨
    attemptFinished t = false ∧ (t'.control = .waitingExternal ∨ waitingExternal t = false ∧
      (t'.control = .unassigned ∨ workerOwnsStopIntent t = false ∧ t.control ≠ .resuming))

theorem releasedAttempt_moved : Moved o now a' t (releasedAttempt t now) := by
  unfold releasedAttempt
  split_ifs <;> exact ⟨rfl, by simp_all [unfinishedWorkerPark], by simp_all [unfinishedWorkerPark]⟩

theorem completedAttempt_moved (progress : ProgressState) (threadID : String) :
    Moved o now a' t (completedAttempt t progress threadID now) := by
  unfold completedAttempt
  split_ifs <;> exact ⟨rfl, by simp_all [unfinishedWorkerPark], by simp_all [unfinishedWorkerPark]⟩

theorem claimedAttempt_moved (ob : WorkerAssignmentObservation) (h : a'.state = .claimed) :
    Moved o now a' t (claimedAttempt a t ob now) := by
  unfold claimedAttempt claimedAttemptState
  split_ifs <;> exact ⟨rfl, by simp_all [waitingExternal],
    by simp_all [waitingExternal, unfinishedWorkerPark]⟩

theorem PlannedFrom.moved (h : PlannedFrom a t o snapshot commands now a' t' reason) :
    Moved o now a' t t' := by
  cases h with
  | present ob => exact claimedAttempt_moved ob (by simp [claimedAssignment])
  | stopped | rejected | absent => exact releasedAttempt_moved
  | collected | observedCompleted | collectedUnobserved => exact completedAttempt_moved _ _
  | observedUnknown ob observed unknown =>
    unfold unknownAttempt
    split_ifs with hstops
    · exact ⟨rfl, .inl rfl, .inr (.inl ⟨rfl, fun _ => ⟨ob, observed, unknown⟩⟩)⟩
    · exact ⟨rfl, .inl rfl, .inl ⟨rfl, by simp_all⟩⟩
  | terminalStop _ _ finished =>
    exact ⟨rfl, .inl rfl, .inr (.inl ⟨rfl, by simp [unfinishedWorkerPark, finished]⟩)⟩
  | dispatched idle _ unfinished dispatched =>
    exact ⟨rfl, .inr ⟨unfinished, dispatched.1⟩,
      .inr (.inr ⟨unfinished, .inr ⟨dispatched.1, .inr ⟨idle.2.2.2.1, idle.2.2.2.2⟩⟩⟩)⟩

theorem PlannedFrom.updatedAt (h : PlannedFrom a t o snapshot commands now a' t' reason) :
    a'.updatedAt = now ∧ t'.updatedAt = now :=
  ⟨by cases h <;> rfl, congrArg Attempt.updatedAt h.moved.record⟩

def IsPlanned (a : Assignment) (t : Attempt) (o : Option WorkerAssignmentObservation)
    (snapshot : WorkerSnapshot) (commands : List WorkerCommandRecord) (now : Time)
    (p : WorkerStateProjection) : Prop :=
  ∃ a' t' reason, PlannedFrom a t o snapshot commands now a' t' reason ∧
    finishWorkerStateTransition a t a' t' reason = some p

theorem IsPlanned.spec (h : IsPlanned a t o snapshot commands now p) :
    ∃ t', PlannedFrom a t o snapshot commands now p.assignment t' p.reason ∧
      p.attempt = { t' with revision := t.revision + 1 } := by
  obtain ⟨a', t', reason, hfrom, hfinish⟩ := h
  obtain ⟨ha, ht, hr⟩ := finishWorkerStateTransition_some hfinish
  obtain ⟨hau, htu⟩ := hfrom.updatedAt
  have hsame : p.assignment = a' := by
    rw [ha, htu, ← hau]
  refine ⟨t', ?_, ht⟩
  rw [hsame, hr]
  exact hfrom

variable {ob : WorkerAssignmentObservation} {records : CoordinatorRecords} {tr : WorkerStateTransition}

theorem planObservedTransition_some (h : planObservedTransition a t ob snapshot commands now = .ok (some p)) :
    IsPlanned a t (some ob) snapshot commands now p := by
  unfold planObservedTransition at h
  split at h
  · cases h
  split at h
  · rename_i hstate
    split_ifs at h with hcontrol
    exact ⟨_, _, _, .present ob rfl hstate hcontrol, ok.inj h⟩
  · rename_i hstate
    split_ifs at h with hexec
    rw [not_or, not_not, not_not] at hexec
    exact ⟨_, _, _, .stopped ob rfl hstate hexec.1 hexec.2, ok.inj h⟩
  · rename_i hstate
    split_ifs at h with hcollect
    · exact ⟨_, _, _, .collected ob rfl hstate hcollect, ok.inj h⟩
    · exact ⟨_, _, _, .observedCompleted ob rfl hstate (by simpa using hcollect), ok.inj h⟩
  · rename_i hstate
    rw [ok.injEq] at h
    unfold unknownWorkerState at h
    split_ifs at h with hknown
    exact ⟨_, _, _, .observedUnknown ob rfl hstate hknown, h⟩
  · cases h

theorem planOmittedTransition_some (h : planOmittedTransition a t snapshot commands now = some p) :
    IsPlanned a t none snapshot commands now p := by
  unfold planOmittedTransition at h
  split at h
  · cases h
  rename_i hstop
  rw [Bool.not_eq_true] at hstop
  split at h
  · rename_i hcollect
    exact ⟨_, _, _, .collectedUnobserved rfl hstop hcollect, h⟩
  rename_i hcollect
  rw [Bool.not_eq_true] at hcollect
  split at h
  · cases h
  rename_i hintent
  rw [not_or, Bool.not_eq_true] at hintent
  have hidle : OmittedIdle a t none commands := ⟨rfl, hstop, hcollect, hintent⟩
  split at h
  · rename_i hrejected
    exact ⟨_, _, _, .rejected hidle hrejected, h⟩
  rename_i hwilling
  split at h
  · rename_i hfinished
    split_ifs at h with hskip
    rw [not_or, not_not] at hskip
    exact ⟨_, _, _, .terminalStop hidle hwilling hfinished hskip.1 hskip.2, h⟩
  rename_i hunfinished
  rw [Bool.not_eq_true] at hunfinished
  split at h
  · rename_i hdispatch
    rw [Bool.not_eq_true'] at hdispatch
    exact ⟨_, _, _, .dispatched hidle hwilling hunfinished hdispatch, h⟩
  rename_i hdispatch
  rw [Bool.not_eq_true'] at hdispatch
  split_ifs at h with hlost
  exact ⟨_, _, _, .absent hidle hwilling hunfinished hdispatch hlost, h⟩

theorem planWorkerStateTransition_some
    (h : planWorkerStateTransition a t o snapshot commands now = .ok (some p)) :
    IsPlanned a t o snapshot commands now p := by
  cases o with
  | none => exact planOmittedTransition_some (ok.inj h)
  | some ob => exact planObservedTransition_some h

theorem planWorkerStateTransition_of_idle (idle : OmittedIdle a t o commands) :
    planWorkerStateTransition a t o snapshot commands now = .ok (
      if Rejected a commands then releasedWorkerState a t now workerStateCommandRejected
      else if attemptFinished t then
        if t.control = .stopped ∨ a.workerEpoch ≠ snapshot.workerEpoch then none
        else
          finishWorkerStateTransition a t { a with updatedAt := now }
            { t with control := .stopped, updatedAt := now } terminalAttemptStopRequired
      else if Dispatched a t commands then
        finishWorkerStateTransition a t { a with updatedAt := now }
          { t with progress := .active, control := .running, updatedAt := now }
          workerStateDispatchAccepted
      else if a.state = .unknown ∨ a.workerEpoch ≠ snapshot.workerEpoch then
        releasedWorkerState a t now workerStateObservedAbsent
      else none) := by
  obtain ⟨rfl, hstop, hcollect, hintent, hresume⟩ := idle
  unfold planWorkerStateTransition planOmittedTransition
  rw [if_neg (by simp [hstop]), if_neg (by simp [hcollect]), if_neg (by simp [hintent, hresume])]
  simp only [Bool.not_eq_true']

theorem planWorkerStateTransition_of_planned
    (hid : ∀ ob, o = some ob → ob.assignmentID = a.id ∧ ob.assignmentEpoch = a.epoch)
    (h : IsPlanned a t o snapshot commands now p) :
    planWorkerStateTransition a t o snapshot commands now = .ok (some p) := by
  obtain ⟨a', t', reason, hfrom, hfinish⟩ := h
  cases hfrom with
  | present ob observed | stopped ob observed | collected ob observed
  | observedCompleted ob observed | observedUnknown ob observed =>
    subst observed
    obtain ⟨h1, h2⟩ := hid ob rfl
    simp [planWorkerStateTransition, planObservedTransition, claimedWorkerState, releasedWorkerState,
      completedWorkerState, observedCompletedWorkerState, unknownWorkerState, *]
  | collectedUnobserved omitted running accepted =>
    subst omitted
    simp [planWorkerStateTransition, planOmittedTransition, running, accepted, completedWorkerState,
      hfinish]
  | rejected idle rejected =>
    rw [planWorkerStateTransition_of_idle idle, if_pos rejected, releasedWorkerState, hfinish]
  | terminalStop idle willing finished running session =>
    rw [planWorkerStateTransition_of_idle idle, if_neg willing, if_pos finished,
      if_neg (by simp [running, session]), hfinish]
  | dispatched idle willing unfinished dispatched =>
    rw [planWorkerStateTransition_of_idle idle, if_neg willing, if_neg (by simp [unfinished]),
      if_pos dispatched, hfinish]
  | absent idle willing unfinished undispatched lost =>
    rw [planWorkerStateTransition_of_idle idle, if_neg willing, if_neg (by simp [unfinished]),
      if_neg undispatched, if_pos lost, releasedWorkerState, hfinish]

/-! ## Coordinator intent -/

/-- A positive observation that the execution stopped: the worker of the same session reports this
epoch of the assignment, on the same thread, as released. -/
def StopObserved (a : Assignment) (snapshot : WorkerSnapshot) : Prop :=
  ∃ ob ∈ snapshot.assignments, ob.assignmentID = a.id ∧ ob.assignmentEpoch = a.epoch ∧
    ob.state = .released ∧ snapshot.workerEpoch = a.workerEpoch ∧ ob.threadID = a.threadID

theorem waitingExternal_iff (t : Attempt) :
    waitingExternal t = true ↔ t.progress = .waitingExternal ∨ t.control = .waitingExternal := by
  simp [waitingExternal]

theorem workerOwnsStopIntent_iff (t : Attempt) : workerOwnsStopIntent t = true ↔
      t.control = .draining ∨ t.control = .paused ∨ t.control = .pausedUncheckpointed := by
  simp [workerOwnsStopIntent]

theorem releasedAttempt_of_park (h : unfinishedWorkerPark t = true) :
    releasedAttempt t now = { t with updatedAt := now } :=
  if_pos h

section

variable (h : PlannedFrom a t o snapshot commands now a' t' reason)
include h

theorem PlannedFrom.keeps_progress_park (hp : t.progress = .waitingExternal) :
    t'.progress = .waitingExternal := by
  rcases h.moved.progress with hsame | ⟨-, hunparked⟩
  · exact hsame.trans hp
  · simp [waitingExternal, hp] at hunparked

theorem PlannedFrom.keeps_control_park (hc : t.control = .waitingExternal)
    (hf : attemptFinished t = false) (hu : ∀ ob, o = some ob → ob.state ≠ .unknown) :
    waitingExternal t' = true := by
  have hw : waitingExternal t = true := (waitingExternal_iff t).2 (.inr hc)
  refine (waitingExternal_iff t').2 (.inr ?_)
  rcases h.moved.control with ⟨hsame, -⟩ | ⟨-, hunknown⟩ | ⟨-, hwaiting | ⟨hunparked, -⟩⟩
  · exact hsame.trans hc
  · obtain ⟨ob, hob, hstate⟩ := hunknown (by simp [unfinishedWorkerPark, hf, hw])
    exact absurd hstate (hu ob hob)
  · exact hwaiting
  · simp [hw] at hunparked

theorem PlannedFrom.keeps_stop_intent (hs : workerOwnsStopIntent t = true) :
    t'.control ≠ .preparing ∧ t'.control ≠ .running ∧ t'.control ≠ .resuming := by
  have hc := (workerOwnsStopIntent_iff t).1 hs
  rcases h.moved.control with ⟨hsame, -⟩ | ⟨hstopped, -⟩ | ⟨-, hwaiting | ⟨-, hleft | ⟨hfree, -⟩⟩⟩
  · rcases hc with hc | hc | hc <;> simp [hsame, hc]
  · simp [hstopped]
  · simp [hwaiting]
  · simp [hleft]
  · simp [hs] at hfree

theorem PlannedFrom.keeps_finished_progress (hf : attemptFinished t = true) : t'.progress = t.progress :=
  h.moved.progress.resolve_right fun hmoved => by simp [hf] at hmoved

theorem PlannedFrom.released_cases
    (hob : ∀ ob, o = some ob → ob ∈ snapshot.assignments ∧ ob.assignmentID = a.id ∧
      ob.assignmentEpoch = a.epoch) (hstate : a.state ≠ .released) (hr : a'.state = .released) :
    StopObserved a snapshot ∨ a.state = .unknown ∨ a.workerEpoch ≠ snapshot.workerEpoch ∨
      rejectedWorkerCommand commands a .prepare = true ∨
      rejectedWorkerCommand commands a .dispatch = true := by
  cases h with
  | present ob => simp [claimedAssignment] at hr
  | stopped ob observed released session thread =>
    obtain ⟨hmem, hid, hepoch⟩ := hob ob observed
    exact .inl ⟨ob, hmem, hid, hepoch, released, session, thread⟩
  | collected | collectedUnobserved => simp [completedAssignment] at hr
  | observedCompleted => simp [observedCompletedAssignment] at hr
  | observedUnknown => simp [unknownAssignment] at hr
  | rejected _ rejected => exact .inr (.inr (.inr rejected))
  | terminalStop | dispatched => exact absurd hr hstate
  | absent _ _ _ _ lost =>
    rcases lost with hun | hep
    · exact .inr (.inl hun)
    · exact .inr (.inr (.inl hep))

end

/-! ## Every planned transition -/

theorem planAssignmentTransition_some
    (h : planAssignmentTransition records snapshot commands now a = some tr) :
    tr.expectedAssignment = a ∧ a.workerID = snapshot.workerID ∧
    (a.state = .claimed ∨ a.state = .unknown) ∧
    ∃ t, attemptByID records.attempts a.attemptID = some t ∧ tr.expectedAttemptRevision = t.revision ∧
      IsPlanned a t (observationOf snapshot a) snapshot commands now
        ⟨tr.assignment, tr.attempt, tr.reason⟩ := by
  unfold planAssignmentTransition at h
  split at h
  · cases h
  rename_i hsel
  rw [not_or, not_not, not_not] at hsel
  split at h
  · cases h
  rename_i t ht
  split at h
  · rename_i next hplan
    rw [some.injEq] at h
    subst h
    exact ⟨rfl, hsel.1, hsel.2, t, ht, rfl, planWorkerStateTransition_some hplan⟩
  · cases h

theorem mem_of_observationOf (h : observationOf snapshot a = some ob) :
    ob ∈ snapshot.assignments ∧ ob.assignmentID = a.id ∧ ob.assignmentEpoch = a.epoch := by
  have hid := find?_some h
  simp only [decide_eq_true_eq] at hid
  exact ⟨mem_of_find?_eq_some h, hid⟩

theorem planWorkerStateTransitions_mem {trs : List WorkerStateTransition}
    (h : planWorkerStateTransitions records snapshot commands now = .ok trs) (htr : tr ∈ trs) :
    ∃ a ∈ records.assignments, planAssignmentTransition records snapshot commands now a =
      some tr := by
  unfold planWorkerStateTransitions at h
  split_ifs at h
  split at h
  · cases h
  · rw [ok.injEq] at h
    subst h
    obtain ⟨a, ha, hplan⟩ := mem_filterMap.1 htr
    exact ⟨a, (mem_insertionSort _).1 ha, hplan⟩

/-- What planned transitions keep of the coordinator's intent: a park, a requested stop, and the
progress of a finished attempt; and custody is released without a stop observation only if it was
unknown, of an earlier session or rejected. -/
theorem worker_evidence_keeps_intent (records : CoordinatorRecords) (snapshot : WorkerSnapshot)
    (commands : List WorkerCommandRecord) (now : Time) (trs : List WorkerStateTransition)
    (h : planWorkerStateTransitions records snapshot commands now = .ok trs)
    (tr : WorkerStateTransition) (htr : tr ∈ trs) :
    ∃ t, attemptByID records.attempts tr.expectedAssignment.attemptID = some t ∧
      (t.progress = .waitingExternal → tr.attempt.progress = .waitingExternal) ∧
      (t.control = .waitingExternal → attemptFinished t = false →
        (∀ ob, observationOf snapshot tr.expectedAssignment = some ob → ob.state ≠ .unknown) →
        waitingExternal tr.attempt = true) ∧
      (t.control = .draining ∨ t.control = .paused ∨ t.control = .pausedUncheckpointed →
        tr.attempt.control ≠ .preparing ∧ tr.attempt.control ≠ .running ∧
        tr.attempt.control ≠ .resuming) ∧
      (t.progress.terminal = true ∨ t.completedAt ≠ none → tr.attempt.progress = t.progress) ∧
      (tr.assignment.state = .released → StopObserved tr.expectedAssignment snapshot ∨
        tr.expectedAssignment.state = .unknown ∨
        tr.expectedAssignment.workerEpoch ≠ snapshot.workerEpoch ∨
        rejectedWorkerCommand commands tr.expectedAssignment .prepare = true ∨
        rejectedWorkerCommand commands tr.expectedAssignment .dispatch = true) := by
  obtain ⟨a, -, hplan⟩ := planWorkerStateTransitions_mem h htr
  obtain ⟨rfl, -, hstate, t, ht, -, hplanned⟩ := planAssignmentTransition_some hplan
  obtain ⟨t', hfrom, hattempt⟩ := hplanned.spec
  simp only at hfrom hattempt
  rw [hattempt]
  refine ⟨t, ht, hfrom.keeps_progress_park, fun hc hf hu => ?_, fun hs => ?_, fun hf => ?_,
    fun hr => ?_⟩
  · exact hfrom.keeps_control_park hc hf hu
  · exact hfrom.keeps_stop_intent ((workerOwnsStopIntent_iff t).2 hs)
  · refine hfrom.keeps_finished_progress ?_
    simpa [attemptFinished, isSome_iff_ne_none] using hf
  · refine hfrom.released_cases (fun ob hob => mem_of_observationOf hob) ?_ hr
    rcases hstate with hs | hs <;> simp [hs]

def emptySnapshot : WorkerSnapshot :=
  { workerID := "worker", workerEpoch := "session", coordinatorEpoch := 1, sequence := 1
    connected := true, observedAt := 1, validUntil := 10 }

def heldAssignment : Assignment :=
  { id := "assignment", attemptID := "attempt", workerID := "worker", workerEpoch := "session"
    state := .unknown, unknownSince := some 1, epoch := 1, leaseExpiresAt := 1 }

def parkedAttempt : Attempt :=
  { id := "attempt", assignmentID := "assignment", revision := 3, progress := .waitingExternal
    control := .waitingExternal }

theorem parkedAttempt_stays_parked :
    ∃ tr, planWorkerStateTransitions { attempts := [parkedAttempt], assignments :=
        [heldAssignment] } emptySnapshot [] 2 = .ok [tr] ∧ tr.assignment.state = .released ∧
      tr.attempt.progress = .waitingExternal := by
  refine ⟨_, rfl, rfl, ?_⟩
  obtain ⟨t, ht, hprogress, -⟩ := worker_evidence_keeps_intent
    { attempts := [parkedAttempt], assignments := [heldAssignment] } emptySnapshot [] 2 _ rfl _
    (mem_singleton_self _)
  have hparked : t = parkedAttempt := (some.inj ht).symm
  exact hprogress (by rw [hparked]; rfl)

/-- A finished attempt is stopped, also when its control still says it waits. -/
theorem finished_control_park_is_stopped :
    ¬∀ (records : CoordinatorRecords) (snapshot : WorkerSnapshot)
      (commands : List WorkerCommandRecord) (now : Time) (trs : List WorkerStateTransition),
      planWorkerStateTransitions records snapshot commands now = .ok trs →
      ∀ tr ∈ trs, ∀ t, attemptByID records.attempts tr.expectedAssignment.attemptID = some t →
        waitingExternal t = true → waitingExternal tr.attempt = true := by
  intro h
  have hstopped := h
    { attempts := [{ parkedAttempt with progress := .failed }]
      assignments := [{ heldAssignment with state := .claimed }] }
    emptySnapshot [] 2 _ rfl _ (mem_singleton_self _) _ rfl rfl
  exact absurd hstopped (by decide)

end Steward
