import Steward.Backlog.CommandRecords

/-!
# Whether a needed command is delivered

Planning suppresses a command that the current authority issued and nobody answered, whichever
session of the worker it was issued to. Delivery selects commands by the session. A needed command
is therefore left pending exactly when no earlier session of the worker was given it under the
current authority.
-/

namespace Steward

open Except Table Store Text List

/-! ## A pass over the worker's current session -/

/-- The worker's current session: its snapshot is the stored one, of the current authority, and the
worker is ready. -/
structure LiveSession (s : Store) (snapshot : WorkerSnapshot) (now : Time) : Prop where
  stored : s.loadWorkerSnapshot snapshot.workerID = some snapshot
  coordinator : snapshot.coordinatorEpoch = s.coordinatorEpoch
  accepts : workerAccepts snapshot now = true
  time : now ≠ 0

def Store.planFor (hash : CoordinatorHash) (s : Store) (snapshot : WorkerSnapshot) (now : Time)
    (a : Assignment) : Option WorkerCommand :=
  planAssignmentCommand hash (s.workerRecords snapshot.workerID) snapshot
    (s.workerCommandsOf snapshot.workerID) now a

def AllowedBy (admission : Option WorkerAdmissionPolicy) (records : CoordinatorRecords)
    (command : WorkerCommand) : Bool :=
  admission.all fun policy => policy.allowsCommand records command

section

variable {hash : CoordinatorHash} {review : Attempt → Except Err String}
  {admission : Option WorkerAdmissionPolicy} {s : Store} {snapshot : WorkerSnapshot} {now : Time}
  {a : Assignment} {t : Attempt} {kind : WorkerCommandKind}

theorem LiveSession.identified (hs : CommandsOnRecord hash s)
    (hsession : LiveSession s snapshot now) : snapshot.Identified :=
  hs.sessions snapshot (mem_of_get? hsession.stored)

theorem attemptByID_workerRecords (ha : a ∈ s.assignments.rows)
    (hworker : a.workerID = snapshot.workerID) :
    attemptByID (s.workerRecords snapshot.workerID).attempts a.attemptID =
      s.attempts.get? a.attemptID := by
  rw [← find?_reverse_rows]
  unfold attemptByID workerRecords
  rw [← filter_reverse, find?_filter]
  congr 1
  funext t
  rw [Bool.eq_iff_iff]
  simp only [any_eq_true, mem_filter, decide_eq_true_eq]
  constructor
  · exact And.right
  · intro h
    exact ⟨⟨a, ⟨ha, hworker⟩, h.symm⟩, h⟩

theorem planWorkerCommands_workerRecords (hidentified : snapshot.Identified)
    (hsession : LiveSession s snapshot now) :
    planWorkerCommands hash (s.workerRecords snapshot.workerID) snapshot
        (s.workerCommandsOf snapshot.workerID) now =
      .ok ((s.assignments.rows.filter fun a => a.workerID = snapshot.workerID).findSome?
        (s.planFor hash snapshot now)).toList := by
  obtain ⟨hworker, hepoch, hcoordinator, hsequence⟩ := hidentified
  have haccepts := hsession.accepts
  simp only [workerAccepts, Bool.and_eq_true, decide_eq_true_eq] at haccepts
  obtain ⟨⟨⟨hconnected, hfresh⟩, -⟩, -⟩ := haccepts
  unfold planWorkerCommands
  rw [if_neg (by simp [hworker, hepoch, hsession.time]; omega), if_neg (by simp [hconnected]; omega)]
  congr 3
  refine Pairwise.insertionSort_eq (Pairwise.imp le_of_lt ?_)
  exact s.assignments.sorted.sublist filter_sublist

/-- What a pass issues: the first planned command, if the quota policy lets it through. -/
theorem issueWorkerCommands_eq (hidentified : snapshot.Identified)
    (hsession : LiveSession s snapshot now) :
    s.issueWorkerCommands hash review snapshot now admission = s.commitPlanned review
        ((((s.assignments.rows.filter fun a => a.workerID = snapshot.workerID).findSome?
          (s.planFor hash snapshot now)).toList).filter
            (AllowedBy admission (s.workerRecords snapshot.workerID))) := by
  unfold issueWorkerCommands loadWorkerExchangeRecords loadWorkerCommandRecordsFor plannedCommands
  rw [if_neg hidentified.1, if_neg hidentified.1, ok_bind, ok_bind,
    planWorkerCommands_workerRecords hidentified hsession, ok_bind]
  cases admission with
  | none =>
    rw [pure_eq_ok, ok_bind]
    congr 1
    exact (filter_eq_self.2 fun _ _ => rfl).symm
  | some policy =>
    dsimp only
    rw [pure_eq_ok, ok_bind]
    congr 1
    refine Pairwise.insertionSort_eq ?_
    cases ((s.assignments.rows.filter fun a => a.workerID = snapshot.workerID).findSome?
      (s.planFor hash snapshot now)) with
    | none => exact Pairwise.nil
    | some command => exact (pairwise_singleton _ command).sublist filter_sublist

/-! ## Planned commands are committed -/

variable {o : WorkerAssignmentObservation} {existing : WorkerCommandKind → Option WorkerCommandRecord}
  {command : WorkerCommand}

theorem nextWorkerCommand_unissued (h : nextWorkerCommand a t o existing = some kind) :
    existing kind = none :=
  (nextWorkerCommand_of_acknowledged (fun _ _ h => h)
    (fun _ _ h hnone => by rw [hnone] at h; cases h) h).1

section

variable (hs : CommandsOnRecord hash s) (ha : a ∈ s.assignments.rows)
include hs ha

theorem CommandsOnRecord.worker {r : WorkerCommandRecord} (hr : r ∈ s.workerCommands.rows)
    (hid : r.command.assignmentID = a.id) (hepoch : r.command.assignmentEpoch = a.epoch) :
    r.command.workerID = a.workerID := by
  obtain ⟨a', ha', hcustody⟩ := (hs.recorded r hr).2.2
  rw [hid, mem_rows_iff.1 ha] at ha'
  cases ha'
  rcases hcustody with hlater | ⟨-, hworker⟩
  · omega
  · exact hworker

theorem existing_eq_none_iff (hworker : a.workerID = snapshot.workerID) :
    existingWorkerCommand (s.workerCommandsOf snapshot.workerID) snapshot.coordinatorEpoch a
    kind = none ↔
      ∀ r ∈ s.workerCommands.rows, ¬CommandStands snapshot.coordinatorEpoch a kind r := by
  rw [existingWorkerCommand_eq_none_iff]
  constructor
  · intro h r hr hstands
    refine h r (mem_filter.2 ⟨hr, ?_⟩) hstands
    simp [hs.worker ha hr hstands.1 hstands.2.1, hworker]
  · intro h r hr
    exact h r (mem_filter.1 hr).1

theorem planFor_eq_some (hplan : s.planFor hash snapshot now a = some command) :
    Addressed snapshot a ∧ ∃ t kind, s.attempts.get? a.attemptID = some t ∧
      nextWorkerCommand a t (observedAssignment snapshot a.id)
        (existingWorkerCommand (s.workerCommandsOf snapshot.workerID) snapshot.coordinatorEpoch a) =
          some kind ∧
      command = boundCommand hash snapshot now a kind ∧
      ∀ r ∈ s.workerCommands.rows, ¬CommandStands snapshot.coordinatorEpoch a kind r := by
  obtain ⟨haddressed, t, kind, ht, hnext, rfl⟩ := planAssignmentCommand_some hplan
  rw [attemptByID_workerRecords ha haddressed.worker] at ht
  exact ⟨haddressed, t, kind, ht, hnext, rfl,
    (existing_eq_none_iff hs ha haddressed.worker).1 (nextWorkerCommand_unissued hnext)⟩

end

theorem Addressed.commandAddresses (h : Addressed snapshot a)
    (hclaimed : command.kind.newWork = true → a.state = .claimed) :
    commandAddresses command a = true := by
  refine decide_eq_true (h.live.imp_right fun hstate => ⟨hstate, ?_⟩)
  rw [← Bool.not_eq_true]
  intro hnew
  rw [hclaimed hnew] at hstate
  cases hstate

theorem eligible_readable (hreview : ∀ t, ∃ refusal, review t = .ok refusal) (ha : Assigned s a)
    (command : WorkerCommand) :
    ∃ eligible, s.workerCommandAttemptEligible review command a = .ok eligible := by
  obtain ⟨-, -, t, ht⟩ := ha
  obtain ⟨refusal, hrefusal⟩ := hreview t
  unfold workerCommandAttemptEligible loadAttempt
  rw [ht]
  split_ifs
  · exact ⟨true, rfl⟩
  · rw [ok_bind, hrefusal]
    exact ⟨_, rfl⟩

theorem eligible_iff (ht : s.attempts.get? a.attemptID = some t) :
    s.workerCommandAttemptEligible review command a = .ok true ↔
      (command.kind.newWork = true → review t = .ok "" ∧ attemptStartable t a = true) := by
  unfold workerCommandAttemptEligible loadAttempt
  rw [ht]
  cases hkind : command.kind.newWork with
  | false => simp
  | true =>
    rw [if_neg (by simp), ok_bind]
    cases review t with
    | error e => simp
    | ok refusal => simp [ok_bind]

section

variable (hfree : hash.CollisionFree) (hs : CommandsOnRecord hash s) (ha : a ∈ s.assignments.rows)
  (hsession : LiveSession s snapshot now)
  (hunissued : ∀ r ∈ s.workerCommands.rows, ¬CommandStands snapshot.coordinatorEpoch a kind r)

include hfree hs hsession hunissued in
theorem boundCommand_fresh {r : WorkerCommandRecord} (hr : r ∈ s.workerCommands.rows) :
    r.command.id ≠ (boundCommand hash snapshot now a kind).id := by
  intro hid
  rw [(hs.recorded r hr).1] at hid
  obtain ⟨hepoch, hassignment, hassignmentEpoch, hkind⟩ :=
    workerCommandID_inj hfree (hs.recorded r hr).2.1.1 (hsession.identified hs).2.2.1 hid
  exact hunissued r hr ⟨hassignment, hassignmentEpoch, hkind, .inr hepoch⟩

include hfree hs hsession hunissued in
theorem boundCommand_effectFree : s.EffectFree (boundCommand hash snapshot now a kind) := by
  intro r hr hkept
  refine ⟨boundCommand_fresh hfree hs hsession hunissued hr, ?_⟩
  rw [← Bool.not_eq_true]
  intro heffect
  obtain ⟨hassignment, hassignmentEpoch, hkind⟩ := sameEffect_iff.1 heffect
  have hnot := hunissued r hr
  simp only [CommandStands, hassignment, hassignmentEpoch, hkind, boundCommand, true_and, not_or,
    not_not] at hnot
  have hepoch : r.command.coordinatorEpoch ≠
    (boundCommand hash snapshot now a kind).coordinatorEpoch :=
    hnot.2
  simp [superseded, heffect, hnot.1, hepoch] at hkept

include hfree hs hsession hunissued in
/-- Nor was it ever audited: an event of the current authority still has its row. -/
theorem boundCommand_unaudited :
    s.auditEvents.get? (commandCommittedID (boundCommand hash snapshot now a kind).id) = none := by
  cases hevent : s.auditEvents.get?
    (commandCommittedID (boundCommand hash snapshot now a kind).id) with
  | none => rfl
  | some e =>
    exfalso
    obtain ⟨epoch, assignmentID, assignmentEpoch, kind', hid, hfirst, -, hcurrent⟩ :=
      hs.audited e (mem_of_get? hevent) _ (key_of_get? hevent)
    obtain ⟨hepoch, -⟩ := workerCommandID_inj hfree (hsession.identified hs).2.2.1 hfirst hid
    obtain ⟨r, hr, hrid, -⟩ := hcurrent (hepoch.symm.trans hsession.coordinator)
    exact boundCommand_fresh hfree hs hsession hunissued hr hrid

include hfree hs ha hsession hunissued in
/-- An unissued command for an assignment of the session is committed, unless its attempt may not be
started. -/
theorem commitPlanned_boundCommand (haddressed : Addressed snapshot a)
    (hclaimed : kind.newWork = true → a.state = .claimed) {eligible : Bool}
    (heligible : s.workerCommandAttemptEligible review (boundCommand hash snapshot now a kind) a =
      .ok eligible) :
    ∃ auditEvents, s.commitPlanned review [boundCommand hash snapshot now a kind] =
      .ok (if eligible then s.commanded (boundCommand hash snapshot now a kind) auditEvents else s) := by
  obtain ⟨hworker, hepoch, hcoordinator, hsequence⟩ := hsession.identified hs
  obtain ⟨hid, hassignmentEpoch, -⟩ := hs.assigned a ha
  have hvalid : validateWorkerCommand (boundCommand hash snapshot now a kind) = .ok () := by
    have hproper : proper (boundCommand hash snapshot now a kind).id = true :=
      workerCommandID_proper hash _ _ _ _
    refine refuseWhen_of_not ?_ _
    rw [hproper]
    rintro (hempty | hempty | hempty | hlow | hempty | hlow | hlow | hempty)
    · cases hempty
    · exact hworker hempty
    · exact hepoch hempty
    · exact absurd hcoordinator (not_le.2 hlow)
    · exact hid hempty
    · exact absurd hassignmentEpoch (not_le.2 hlow)
    · exact absurd hsequence (not_le.2 hlow)
    · exact hsession.time hempty
  obtain ⟨auditEvents, hcommit⟩ := commitWorkerCommand_of_new
    (workerCommandID_proper hash _ _ _ _) hsession.time hsession.coordinator.symm hsession.stored
    ⟨rfl, rfl, rfl⟩ hsession.accepts (mem_rows_iff.1 ha)
    (by simp [commandMatches, boundCommand, haddressed.worker, haddressed.session])
    (haddressed.commandAddresses hclaimed) heligible
    (by
      cases hrow : s.workerCommands.get? (boundCommand hash snapshot now a kind).id with
      | none => rfl
      | some r =>
        exact absurd (key_of_get? hrow) (boundCommand_fresh hfree hs hsession hunissued
          (mem_of_get? hrow)))
    (boundCommand_effectFree hfree hs hsession hunissued)
    (boundCommand_unaudited hfree hs hsession hunissued)
  refine ⟨auditEvents, ?_⟩
  unfold commitPlanned commitWorkerCommands
  rw [if_neg (cons_ne_nil _ _), if_neg (cons_ne_nil _ _)]
  unfold commitCommandBatch
  rw [hvalid, ok_bind, refuseWhen_of_not not_mem_nil, ok_bind, hcommit]
  cases eligible <;> rfl

end

/-! ## What a pass leaves on record -/

theorem nextWorkerCommand_claimed (h : nextWorkerCommand a t o existing = some kind)
    (hnew : kind.newWork = true) : a.state = .claimed := by
  unfold nextWorkerCommand at h
  split at h
  · split_ifs at h
    cases h
    cases hnew
  · split at h
    · split_ifs at h
      cases h
      cases hnew
    · split at h
      · cases h
      · rename_i hidle
        exact not_not.1 (not_or.1 hidle).1

section

variable (hfree : hash.CollisionFree) (hs : CommandsOnRecord hash s)
  (hsession : LiveSession s snapshot now)
include hfree hs hsession

theorem issueWorkerCommands_cases (hreview : ∀ t, ∃ refusal, review t = .ok refusal) :
    s.issueWorkerCommands hash review snapshot now admission = .ok s ∨
      ∃ b ∈ s.assignments.rows, ∃ kind auditEvents,
        s.planFor hash snapshot now b = some (boundCommand hash snapshot now b kind) ∧
        s.issueWorkerCommands hash review snapshot now admission =
          .ok (s.commanded (boundCommand hash snapshot now b kind) auditEvents) := by
  rw [issueWorkerCommands_eq (hsession.identified hs) hsession]
  cases hfirst : (s.assignments.rows.filter fun a => a.workerID = snapshot.workerID).findSome?
      (s.planFor hash snapshot now) with
  | none => exact .inl rfl
  | some command =>
    obtain ⟨b, hb, hplan⟩ := exists_of_findSome?_eq_some hfirst
    have hrow : b ∈ s.assignments.rows := (mem_filter.1 hb).1
    obtain ⟨haddressed, t, kind, -, hnext, rfl, hunissued⟩ := planFor_eq_some hs hrow hplan
    obtain ⟨eligible, heligible⟩ := eligible_readable hreview (hs.assigned b hrow)
      (boundCommand hash snapshot now b kind)
    obtain ⟨auditEvents, hcommit⟩ := commitPlanned_boundCommand hfree hs hrow hsession hunissued
      haddressed (nextWorkerCommand_claimed hnext) heligible
    rw [Option.toList_some, filter_singleton]
    cases AllowedBy admission (s.workerRecords snapshot.workerID)
      (boundCommand hash snapshot now b kind) with
    | true =>
      rw [cond_true, hcommit]
      cases eligible with
      | true => exact .inr ⟨b, hrow, kind, auditEvents, hplan, rfl⟩
      | false => exact .inl rfl
    | false => exact .inl rfl

theorem issueWorkerCommands_of_turn (ha : a ∈ s.assignments.rows)
    (hplan : s.planFor hash snapshot now a = some (boundCommand hash snapshot now a kind))
    (hturn : ∀ b ∈ s.assignments.rows, b.id < a.id → s.planFor hash snapshot now b = none)
    (hallowed : AllowedBy admission (s.workerRecords snapshot.workerID)
      (boundCommand hash snapshot now a kind) = true)
    (heligible : s.workerCommandAttemptEligible review (boundCommand hash snapshot now a kind) a = .ok true) :
    ∃ auditEvents, s.issueWorkerCommands hash review snapshot now admission =
      .ok (s.commanded (boundCommand hash snapshot now a kind) auditEvents) := by
  obtain ⟨haddressed, t, kind', -, hnext, hkind, hunissued⟩ := planFor_eq_some hs ha hplan
  obtain rfl : kind = kind' := congrArg WorkerCommand.kind hkind
  have hfirst : (s.assignments.rows.filter fun a => a.workerID = snapshot.workerID).findSome?
      (s.planFor hash snapshot now) = some (boundCommand hash snapshot now a kind) := by
    refine Table.findSome?_of_first (s.assignments.sorted.sublist filter_sublist)
      (mem_filter.2 ⟨ha, by simp [haddressed.worker]⟩) hplan ?_
    intro b hb
    exact hturn b (mem_filter.1 hb).1
  obtain ⟨auditEvents, hcommit⟩ := commitPlanned_boundCommand hfree hs ha hsession hunissued
    haddressed (nextWorkerCommand_claimed hnext) heligible
  refine ⟨auditEvents, ?_⟩
  rw [issueWorkerCommands_eq (hsession.identified hs) hsession, hfirst, Option.toList_some,
    filter_singleton, hallowed, cond_true, hcommit]
  rfl

end

theorem loadPendingWorkerCommands_spec (hs : CommandsOnRecord hash s)
    (hsession : LiveSession s snapshot now) (hreview : ∀ t, ∃ refusal, review t = .ok refusal) :
    ∃ pending, s.loadPendingWorkerCommands review snapshot.workerID snapshot.workerEpoch
        snapshot.coordinatorEpoch snapshot.sequence now = .ok pending ∧
      ∀ c, c ∈ pending ↔ (∃ r ∈ s.workerCommands.rows, awaitsDelivery snapshot.workerID
          snapshot.workerEpoch snapshot.coordinatorEpoch snapshot.sequence r = true ∧ r.command = c) ∧
        ∃ a, s.assignments.get? c.assignmentID = some a ∧ workerCommandCurrentlyDeliverable c
          a = true ∧ s.workerCommandAttemptEligible review c a = .ok true := by
  have hload : ∀ c a, s.loadAssignment c = .ok a ↔ s.assignments.get? c = some a := by
    intro c a
    refine ⟨loadAssignment_ok, fun h => ?_⟩
    simp [loadAssignment, h]
  have hreadable : ∀ c ∈ (s.workerCommands.rows.filter (awaitsDelivery snapshot.workerID
      snapshot.workerEpoch snapshot.coordinatorEpoch snapshot.sequence)).map fun r => r.command,
      ∃ a eligible, s.loadAssignment c.assignmentID = .ok a ∧
        s.workerCommandAttemptEligible review c a = .ok eligible := by
    intro c hc
    obtain ⟨r, hr, rfl⟩ := mem_map.1 hc
    obtain ⟨a, ha, -⟩ := (hs.recorded r (mem_filter.1 hr).1).2.2
    obtain ⟨eligible, heligible⟩ :=
      eligible_readable hreview (hs.assigned a (mem_of_get? ha)) r.command
    exact ⟨a, eligible, (hload _ _).2 ha, heligible⟩
  obtain ⟨pending, hpending, hmem⟩ := deliverableCommands_of_readable hreadable
  refine ⟨pending, ?_, fun c => ?_⟩
  · have hworker : s.requireCurrentWorker snapshot.workerID snapshot.workerEpoch
        snapshot.coordinatorEpoch snapshot.sequence now = .ok () := by
      unfold requireCurrentWorker
      simp [hsession.stored, hsession.accepts, refuseWhen]
    unfold loadPendingWorkerCommands requireCoordinatorEpoch
    rw [refuseWhen_of_not (not_not.2 hsession.coordinator.symm), ok_bind, hworker, ok_bind]
    exact hpending
  · rw [hmem]
    simp only [mem_map, mem_filter, hload, and_assoc]

end

/-! ## Needed commands -/

def Store.acknowledgedCommand (s : Store) (a : Assignment) (kind : WorkerCommandKind) :
    Option WorkerCommandRecord :=
  s.workerCommands.rows.find? fun r => r.command.assignmentID = a.id ∧
    r.command.assignmentEpoch = a.epoch ∧ r.command.kind = kind ∧ r.acknowledgement.isSome = true

/-- An assignment bound to the worker's session needs a command: it is the next one once only
acknowledged commands count. -/
structure CommandNeeded (s : Store) (snapshot : WorkerSnapshot) (a : Assignment) (t : Attempt)
    (kind : WorkerCommandKind) : Prop where
  row : a ∈ s.assignments.rows
  addressed : Addressed snapshot a
  attempt : s.attempts.get? a.attemptID = some t
  next : nextWorkerCommand a t (observedAssignment snapshot a.id) (s.acknowledgedCommand a) =
    some kind

/-- A planning pass for an assignment that needs a command: the session is current, no assignment
before it takes the pass, and policy and fence admit the command. -/
structure CommandTurn (hash : CoordinatorHash) (review : Attempt → Except Err String)
    (admission : Option WorkerAdmissionPolicy) (s : Store) (snapshot : WorkerSnapshot) (now : Time)
    (a : Assignment) (t : Attempt) (kind : WorkerCommandKind) : Prop where
  session : LiveSession s snapshot now
  needed : CommandNeeded s snapshot a t kind
  turn : ∀ b ∈ s.assignments.rows, b.id < a.id → s.planFor hash snapshot now b = none
  allowed : AllowedBy admission (s.workerRecords snapshot.workerID)
    (boundCommand hash snapshot now a kind) = true
  startable : kind.newWork = true → review t = .ok "" ∧ attemptStartable t a = true
  reviewable : ∀ t, ∃ refusal, review t = .ok refusal

/-- The pass leaves an unacknowledged command of the kind on record, and delivery returns it to the
current session. -/
def LeavesPending (hash : CoordinatorHash) (review : Attempt → Except Err String)
    (admission : Option WorkerAdmissionPolicy) (s : Store) (snapshot : WorkerSnapshot) (now : Time)
    (a : Assignment) (kind : WorkerCommandKind) : Prop :=
  ∃ s' pending, s.commandPass hash review snapshot now admission = .ok (s', pending) ∧
    ∃ c ∈ pending, c.assignmentID = a.id ∧ c.assignmentEpoch = a.epoch ∧ c.kind = kind ∧
      s'.workerCommands.get? c.id = some { command := c }

/-- No unanswered command of the kind was issued, under the current authority, to another session of
the worker or ahead of its sequence. -/
def UnansweredInSession (s : Store) (snapshot : WorkerSnapshot) (a : Assignment)
    (kind : WorkerCommandKind) : Prop :=
  ∀ r ∈ s.workerCommands.rows, r.acknowledgement = none → r.command.assignmentID = a.id →
    r.command.assignmentEpoch = a.epoch → r.command.kind = kind →
    r.command.coordinatorEpoch = s.coordinatorEpoch →
      r.command.workerEpoch = snapshot.workerEpoch ∧
      r.command.expectedWorkerSequence ≤ snapshot.sequence

section

variable {hash : CoordinatorHash} {review : Attempt → Except Err String}
  {admission : Option WorkerAdmissionPolicy} {s : Store} {snapshot : WorkerSnapshot} {now : Time}
  {a : Assignment} {t : Attempt} {kind : WorkerCommandKind}

variable {r : WorkerCommandRecord}

theorem acknowledgedCommand_eq_some (h : s.acknowledgedCommand a kind = some r) :
    r ∈ s.workerCommands.rows ∧ r.command.assignmentID = a.id ∧
      r.command.assignmentEpoch = a.epoch ∧ r.command.kind = kind ∧ r.acknowledgement ≠ none := by
  have hr := find?_some h
  simp only [decide_eq_true_eq] at hr
  obtain ⟨hid, hepoch, hkind, hack⟩ := hr
  exact ⟨mem_of_find?_eq_some h, hid, hepoch, hkind, Option.isSome_iff_ne_none.1 hack⟩

theorem acknowledgedCommand_eq_none (h : s.acknowledgedCommand a kind = none)
    (hr : r ∈ s.workerCommands.rows) (hid : r.command.assignmentID = a.id)
    (hepoch : r.command.assignmentEpoch = a.epoch) (hkind : r.command.kind = kind) :
    r.acknowledgement = none := by
  have hnot := find?_eq_none.1 h r hr
  simpa [hid, hepoch, hkind] using hnot

section

variable (hs : CommandsOnRecord hash s) (hneeded : CommandNeeded s snapshot a t kind)
include hs hneeded

theorem CommandNeeded.next_existing : s.acknowledgedCommand a kind = none ∧
      nextWorkerCommand a t (observedAssignment snapshot a.id)
          (existingWorkerCommand (s.workerCommandsOf snapshot.workerID) snapshot.coordinatorEpoch a) =
        if existingWorkerCommand (s.workerCommandsOf snapshot.workerID) snapshot.coordinatorEpoch a
            kind = none then some kind else none := by
  have hworker := hneeded.addressed.worker
  have hkept : ∀ k r, s.acknowledgedCommand a k = some r → existingWorkerCommand
      (s.workerCommandsOf snapshot.workerID) snapshot.coordinatorEpoch a k = some r := by
    intro k r hacknowledged
    obtain ⟨hr, hid, hepoch, hkind, hack⟩ := acknowledgedCommand_eq_some hacknowledged
    cases hexisting : existingWorkerCommand (s.workerCommandsOf snapshot.workerID)
        snapshot.coordinatorEpoch a k with
    | none =>
      exact absurd ⟨hid, hepoch, hkind, .inl hack⟩
        ((existing_eq_none_iff hs hneeded.row hworker).1 hexisting r hr)
    | some r' =>
      obtain ⟨hr', hid', hepoch', hkind', -⟩ := existingWorkerCommand_eq_some hexisting
      have heffect : r'.command.sameEffect r.command = true :=
        sameEffect_iff.2 ⟨hid'.trans hid.symm, hepoch'.trans hepoch.symm, hkind'.trans hkind.symm⟩
      rw [hs.unique r' (mem_filter.1 hr').1 r hr heffect]
  have hopen : ∀ k r, existingWorkerCommand (s.workerCommandsOf snapshot.workerID)
      snapshot.coordinatorEpoch a k = some r → s.acknowledgedCommand a k = none →
      r.acknowledgement = none := by
    intro k r hexisting hnone
    obtain ⟨hr, hid, hepoch, hkind, -⟩ := existingWorkerCommand_eq_some hexisting
    exact acknowledgedCommand_eq_none hnone (mem_filter.1 hr).1 hid hepoch hkind
  exact nextWorkerCommand_of_acknowledged hkept hopen hneeded.next

theorem CommandNeeded.planFor : s.planFor hash snapshot now a =
      if existingWorkerCommand (s.workerCommandsOf snapshot.workerID) snapshot.coordinatorEpoch a
          kind = none then some (boundCommand hash snapshot now a kind) else none := by
  have ha := hneeded.addressed
  unfold Store.planFor planAssignmentCommand
  rw [if_neg (by simp [ha.worker, ha.session, ha.live]),
    (attemptByID_workerRecords hneeded.row ha.worker).trans hneeded.attempt]
  dsimp only
  rw [(hneeded.next_existing hs).2]
  split_ifs <;> rfl

theorem CommandNeeded.standing (hr : r ∈ s.workerCommands.rows)
    (hstands : CommandStands snapshot.coordinatorEpoch a kind r) :
    r.acknowledgement = none ∧ r.command.coordinatorEpoch = snapshot.coordinatorEpoch := by
  have hnone := acknowledgedCommand_eq_none (hneeded.next_existing hs).1 hr hstands.1
    hstands.2.1 hstands.2.2.1
  exact ⟨hnone, hstands.2.2.2.resolve_left (not_not.2 hnone)⟩

end

/-- Once a pass issued what it does, the needed command is pending exactly when a record of the
session for the effect awaits delivery. -/
theorem leavesPending_iff_awaits (hturn : CommandTurn hash review admission s snapshot now a t kind)
    {s' : Store} (hissue : s.issueWorkerCommands hash review snapshot now admission = .ok s')
    (hs' : CommandsOnRecord hash s') (hsession : LiveSession s' snapshot now)
    (hassignments : s'.assignments = s.assignments) (hattempts : s'.attempts = s.attempts) :
    LeavesPending hash review admission s snapshot now a kind ↔
      ∃ r ∈ s'.workerCommands.rows, r.acknowledgement = none ∧ r.command.assignmentID = a.id ∧
        r.command.assignmentEpoch = a.epoch ∧ r.command.kind = kind ∧
        r.command.workerEpoch = snapshot.workerEpoch ∧
        r.command.coordinatorEpoch = snapshot.coordinatorEpoch ∧
        r.command.expectedWorkerSequence ≤ snapshot.sequence := by
  have hrow : s'.assignments.get? a.id = some a :=
    hassignments ▸ mem_rows_iff.1 hturn.needed.row
  obtain ⟨pending, hpending, hmem⟩ := loadPendingWorkerCommands_spec hs' hsession hturn.reviewable
  have hpass : s.commandPass hash review snapshot now admission = .ok (s', pending) := by
    unfold Store.commandPass
    rw [hissue, ok_bind, hpending]
    rfl
  constructor
  · rintro ⟨s'', pending', hpass', c, hc, hid, hepoch, hkind, -⟩
    obtain ⟨rfl, rfl⟩ := Prod.mk.inj (Except.ok.inj (hpass.symm.trans hpass'))
    obtain ⟨⟨r, hr, hawaits, rfl⟩, -⟩ := (hmem c).1 hc
    simp only [awaitsDelivery, decide_eq_true_eq] at hawaits
    obtain ⟨-, hworkerEpoch, hcoordinator, hsequence, hack⟩ := hawaits
    exact ⟨r, hr, hack, hid, hepoch, hkind, hworkerEpoch, hcoordinator, hsequence⟩
  · rintro ⟨r, hr, hack, hid, hepoch, hkind, hworkerEpoch, hcoordinator, hsequence⟩
    have hworker : r.command.workerID = snapshot.workerID :=
      (hs'.worker (mem_of_get? hrow) hr hid hepoch).trans hturn.needed.addressed.worker
    have hrecord : r = { command := r.command } := by
      cases r
      rw [← hack]
    refine ⟨s', pending, hpass, r.command, (hmem r.command).2 ⟨⟨r, hr, ?_, rfl⟩, a, ?_, ?_, ?_⟩,
      hid, hepoch, hkind, hrecord ▸ mem_rows_iff.1 hr⟩
    · simp [awaitsDelivery, hworker, hworkerEpoch, hcoordinator, hsequence, hack]
    · rw [hid, hrow]
    · have haddressed := hturn.needed.addressed
      simp only [workerCommandCurrentlyDeliverable, commandMatches, Bool.and_eq_true,
        decide_eq_true_eq]
      exact ⟨⟨haddressed.worker.trans hworker.symm, haddressed.session.trans hworkerEpoch.symm,
        hepoch.symm⟩, haddressed.commandAddresses
        (hkind ▸ nextWorkerCommand_claimed hturn.needed.next)⟩
    · refine (eligible_iff (hattempts ▸ hturn.needed.attempt)).2 fun hnew => ?_
      rw [hkind] at hnew
      exact hturn.startable hnew

theorem CommandTurn.leavesPending_iff (hfree : hash.CollisionFree) (hs : CommandsOnRecord hash s)
    (hturn : CommandTurn hash review admission s snapshot now a t kind) :
    LeavesPending hash review admission s snapshot now a kind ↔
      UnansweredInSession s snapshot a kind := by
  obtain ⟨hsession, hneeded, hfirst, hallowed, hstartable, hreviewable⟩ := id hturn
  by_cases hunissued : existingWorkerCommand (s.workerCommandsOf snapshot.workerID)
      snapshot.coordinatorEpoch a kind = none
  · -- nothing on record stands for the command: the pass issues it, and no record blocks it
    have hnone := (existing_eq_none_iff hs hneeded.row hneeded.addressed.worker).1 hunissued
    have hplan : s.planFor hash snapshot now a = some (boundCommand hash snapshot now a kind) := by
      rw [hneeded.planFor hs, if_pos hunissued]
    obtain ⟨auditEvents, hissue⟩ := issueWorkerCommands_of_turn hfree hs hsession hneeded.row hplan
      hfirst hallowed ((eligible_iff hneeded.attempt).2 hstartable)
    refine iff_of_true ?_ ?_
    · refine (leavesPending_iff_awaits hturn hissue (hs.issue hissue)
        ⟨hsession.stored, hsession.coordinator, hsession.accepts, hsession.time⟩ rfl rfl).2 ?_
      exact ⟨_, mem_commanded.2 (.inl rfl), rfl, rfl, rfl, rfl, rfl, rfl, le_refl _⟩
    · intro r hr hack hid hepoch hkind hcoordinator
      exact absurd ⟨hid, hepoch, hkind, .inr (hcoordinator.trans hsession.coordinator.symm)⟩
        (hnone r hr)
  · -- a record stands for it: the pass issues nothing for the assignment, and leaves the record
    obtain ⟨r, hr⟩ := Option.ne_none_iff_exists'.1 hunissued
    obtain ⟨hmem, hstands⟩ := existingWorkerCommand_eq_some hr
    have hmem : r ∈ s.workerCommands.rows := (mem_filter.1 hmem).1
    obtain ⟨hack, hcoordinator⟩ := hneeded.standing hs hmem hstands
    have honly : ∀ {s' : Store}, CommandsOnRecord hash s' → r ∈ s'.workerCommands.rows →
        ∀ r' ∈ s'.workerCommands.rows, r'.command.assignmentID = a.id →
        r'.command.assignmentEpoch = a.epoch → r'.command.kind = kind → r' = r := by
      intro s' hs' hr r' hr' hid hepoch hkind
      exact hs'.unique r' hr' r hr (sameEffect_iff.2
        ⟨hid.trans hstands.1.symm, hepoch.trans hstands.2.1.symm, hkind.trans hstands.2.2.1.symm⟩)
    obtain ⟨s', hissue, hs', hsession', hassignments, hattempts, hmem'⟩ : ∃ s',
        s.issueWorkerCommands hash review snapshot now admission = .ok s' ∧
        CommandsOnRecord hash s' ∧ LiveSession s' snapshot now ∧ s'.assignments = s.assignments ∧
        s'.attempts = s.attempts ∧ r ∈ s'.workerCommands.rows := by
      rcases issueWorkerCommands_cases hfree hs hsession hreviewable with
        hissue | ⟨b, hb, kind', auditEvents, hplanned, hissue⟩
      · exact ⟨s, hissue, hs, hsession, rfl, rfl, hmem⟩
      · refine ⟨_, hissue, hs.issue hissue,
          ⟨hsession.stored, hsession.coordinator, hsession.accepts, hsession.time⟩, rfl, rfl,
          mem_commanded.2 (.inr ⟨hmem, ?_, ?_⟩)⟩
        · -- the command issued instead is for another assignment
          have hother : r.command.sameEffect (boundCommand hash snapshot now b kind') = false := by
            rw [← Bool.not_eq_true]
            intro heffect
            have hid := hstands.1.symm.trans (sameEffect_iff.1 heffect).1
            rw [← eq_of_key_eq hneeded.row hb hid, hneeded.planFor hs, if_neg hunissued] at hplanned
            cases hplanned
          simp [superseded, hother]
        · obtain ⟨-, -, kind'', -, -, hkind'', hfresh⟩ := planFor_eq_some hs hb hplanned
          obtain rfl : kind' = kind'' := congrArg WorkerCommand.kind hkind''
          exact boundCommand_fresh hfree hs hsession hfresh hmem
    rw [leavesPending_iff_awaits hturn hissue hs' hsession' hassignments hattempts]
    constructor
    · rintro ⟨r', hr', -, hid, hepoch, hkind, hworkerEpoch, -, hsequence⟩ u hu - hid' hepoch' hkind' -
      rw [honly hs' hmem' r' hr' hid hepoch hkind] at hworkerEpoch hsequence
      rw [honly hs hmem u hu hid' hepoch' hkind']
      exact ⟨hworkerEpoch, hsequence⟩
    · intro h
      obtain ⟨hworkerEpoch, hsequence⟩ := h r hmem hack hstands.1 hstands.2.1 hstands.2.2.1
        (hcoordinator.trans hsession.coordinator)
      exact ⟨r, hmem', hack, hstands.1, hstands.2.1, hstands.2.2.1, hworkerEpoch, hcoordinator,
        hsequence⟩

end

/-- In every run, a planning pass for an assignment of the worker's session leaves the command it
needs pending exactly when no unanswered command for it was issued to another session under the
current authority. -/
theorem needed_command_pending_iff (hash : CoordinatorHash) (hfree : hash.CollisionFree)
    (ops : List CommandOp) (review : Attempt → Except Err String)
    (admission : Option WorkerAdmissionPolicy) (snapshot : WorkerSnapshot) (now : Time)
    (a : Assignment) (t : Attempt) (kind : WorkerCommandKind)
    (hturn : CommandTurn hash review admission (Runs.run (commandStep hash) {} ops) snapshot now a t kind) :
    LeavesPending hash review admission (Runs.run (commandStep hash) {} ops) snapshot now a kind ↔
      UnansweredInSession (Runs.run (commandStep hash) {} ops) snapshot a kind :=
  hturn.leavesPending_iff hfree ((commandsOnRecord_empty hash).run ops)

/-! ## A restarted session -/

/-- A character as its code in decimal digits, closed by a letter. -/
def codeText (c : Char) : List Char := c.toNat.repr.toList ++ ['f']

theorem flatMap_codeText_inj {xs ys : List Char}
    (h : xs.flatMap codeText = ys.flatMap codeText) : xs = ys := by
  have hdigits : ∀ n : Nat, 'f' ∉ n.repr.toList.reverse := fun n hmem =>
    not_mem_toString (by decide) (by decide) (Int.ofNat n) (mem_reverse.1 hmem)
  induction xs generalizing ys with
  | nil =>
    cases ys with
    | nil => rfl
    | cons y ys => simp [codeText] at h
  | cons x xs ih =>
    cases ys with
    | nil => simp [codeText] at h
    | cons y ys =>
      have hreverse := congrArg reverse h
      simp only [flatMap_cons, codeText, reverse_append, reverse_cons,
        append_assoc, singleton_append] at hreverse
      obtain ⟨hrest, hcode⟩ := append_cons_inj (hdigits _) (hdigits _) hreverse
      have hnat := nat_repr_inj (String.toList_inj.1 (reverse_inj.1 hcode))
      rw [Char.toNat_inj.1 hnat, ih (reverse_inj.1 hrest)]

/-- A hash without collisions: the codes of the characters. -/
def codeHash : CoordinatorHash where
  sum _ identity := String.ofList (identity.toList.flatMap codeText)
  hex _ identity := by
    rw [String.toList_ofList, all_eq_true]
    intro c hc
    obtain ⟨d, -, hd⟩ := mem_flatMap.1 hc
    rcases mem_append.1 hd with hdigit | hclose
    · rw [Nat.toList_repr] at hdigit
      exact hexDigit_of_isDigit (Nat.isDigit_of_mem_toDigits (by decide) (by decide) hdigit)
    · rw [mem_singleton.1 hclose]
      decide

theorem codeHash_collisionFree : codeHash.CollisionFree := by
  intro x y h
  exact String.toList_inj.1 (flatMap_codeText_inj (String.ofList_injective h))

def cancelledAttempt : Attempt :=
  { id := "attempt", revision := 1, progress := .cancelled, control := .running
    assignmentID := "a", threadID := "thread" }

def runningCustody : Assignment :=
  { id := "a", attemptID := "attempt", workerID := "worker", workerEpoch := "first"
    state := .claimed, epoch := 1, threadID := "thread", leaseExpiresAt := 90 }

def observingSession (workerEpoch : String) (observedAt : Time) : WorkerSnapshot :=
  { workerID := "worker", workerEpoch := workerEpoch, coordinatorEpoch := 1, sequence := 1
    connected := true
    inventory := { id := "worker", acceptBacklog := true, health := .ready }
    assignments :=
      [{ assignmentID := "a", assignmentEpoch := 1, state := .claimed, control := .running
         threadID := "thread", observedAt := observedAt }]
    observedAt := observedAt, validUntil := 99 }

def runningRecords : CoordinatorRecords :=
  { attempts := [cancelledAttempt], assignments := [runningCustody] }

/-- A stop is issued to the first session, and the worker restarts before it answers. -/
def restarted (records : CoordinatorRecords) : List CommandOp :=
  records.attempts.map .saveAttempt ++ records.assignments.map .saveAssignment ++
    [.report (observingSession "first" 1) true false,
      .plan records (observingSession "first" 1) [] 2 none fun _ => .ok "",
      .report (observingSession "second" 3) true false,
      .reconcile (fun _ => "")
        ((planWorkerStateTransitions records (observingSession "second" 3) [] 4).toOption.getD [])]

def reboundCustody : Assignment := { runningCustody with workerEpoch := "second", updatedAt := 4 }

def stoppedAttempt : Attempt :=
  { cancelledAttempt with control := .stopped, revision := 2, updatedAt := 4 }

def siblingRecords : CoordinatorRecords :=
  { attempts := [{ cancelledAttempt with id := "other", assignmentID := "0" }, cancelledAttempt]
    assignments := [{ runningCustody with id := "0", attemptID := "other" }, runningCustody] }

theorem siblingStop_state :
    let s := Runs.run (commandStep codeHash) {} (restarted siblingRecords)
    s.loadWorkerSnapshot "worker" = some (observingSession "second" 3) ∧ s.coordinatorEpoch = 1 ∧
      reboundCustody ∈ s.assignments.rows ∧ s.attempts.get? "attempt" = some stoppedAttempt ∧
      nextWorkerCommand reboundCustody stoppedAttempt (observedAssignment
        (observingSession "second" 3) "a") (s.acknowledgedCommand reboundCustody) = some .stop ∧
      (∀ b ∈ s.assignments.rows, b.id < "a" → s.planFor codeHash (observingSession "second" 3) 5 b = none) ∧
      s.workerCommands.rows.map (fun r => (r.command.assignmentID, r.command.workerEpoch, r.acknowledgement)) =
        [("0", "first", none)] := by
  decide +kernel

/-- The unanswered stop is for another assignment, so the second session is given this one's. -/
theorem restarted_session_is_stopped :
    LeavesPending codeHash (fun _ => .ok "") none
      (Runs.run (commandStep codeHash) {} (restarted siblingRecords)) (observingSession "second" 3) 5
      reboundCustody .stop := by
  obtain ⟨hstored, hepoch, hrow, hattempt, hnext, hturn, hcommands⟩ := siblingStop_state
  refine (needed_command_pending_iff codeHash codeHash_collisionFree (restarted siblingRecords)
    (fun _ => .ok "") none (observingSession "second" 3) 5 reboundCustody stoppedAttempt .stop
    { session := ⟨hstored, hepoch.symm, by decide, by decide⟩
      needed := ⟨hrow, ⟨rfl, rfl, .inl rfl⟩, hattempt, hnext⟩
      turn := hturn
      allowed := rfl
      startable := fun h => nomatch h
      reviewable := fun _ => ⟨"", rfl⟩ }).2 fun r hr _ hid => ?_
  have hmem := hcommands ▸ mem_map_of_mem hr
  have hsibling : r.command.assignmentID = "0" := congrArg Prod.fst (mem_singleton.1 hmem)
  exact absurd (hsibling.symm.trans hid) (by decide)

theorem unansweredStop_state :
    let s := Runs.run (commandStep codeHash) {} (restarted runningRecords)
    s.loadWorkerSnapshot "worker" = some (observingSession "second" 3) ∧ s.coordinatorEpoch = 1 ∧
      s.assignments.rows = [reboundCustody] ∧ s.attempts.get? "attempt" = some stoppedAttempt ∧
      nextWorkerCommand reboundCustody stoppedAttempt (observedAssignment
        (observingSession "second" 3) "a") (s.acknowledgedCommand reboundCustody) = some .stop ∧
      (s.commandPass codeHash (fun _ => .ok "") (observingSession "second" 3) 5 none).map Prod.snd =
        .ok [] := by
  decide +kernel

/-- The second session is never given the stop: the one its predecessor did not answer stands for
it. -/
theorem restarted_session_loses_stop :
    ¬∀ (hash : CoordinatorHash) (ops : List CommandOp) (review : Attempt → Except Err String)
      (admission : Option WorkerAdmissionPolicy) (snapshot : WorkerSnapshot) (now : Time)
      (a : Assignment) (t : Attempt) (kind : WorkerCommandKind), hash.CollisionFree →
      CommandTurn hash review admission (Runs.run (commandStep hash) {} ops) snapshot now a t kind →
      LeavesPending hash review admission (Runs.run (commandStep hash) {} ops) snapshot now a
        kind := by
  intro h
  obtain ⟨hstored, hepoch, hrows, hattempt, hnext, hpass⟩ := unansweredStop_state
  obtain ⟨s', pending, hpass', c, hc, -⟩ := h codeHash (restarted runningRecords) (fun _ => .ok "")
    none (observingSession "second" 3) 5 reboundCustody stoppedAttempt .stop codeHash_collisionFree
    { session := ⟨hstored, hepoch.symm, by decide, by decide⟩
      needed := ⟨by simp [hrows], ⟨rfl, rfl, .inl rfl⟩, hattempt, hnext⟩
      turn := fun b hb hlt => by
        rw [hrows, mem_singleton] at hb
        exact absurd hlt (hb ▸ lt_irrefl _)
      allowed := rfl
      startable := fun h => nomatch h
      reviewable := fun _ => ⟨"", rfl⟩ }
  rw [hpass'] at hpass
  cases hpass
  cases hc

end Steward
