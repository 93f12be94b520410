import Steward.Backlog.Coordinator
import Steward.Lib.Runs
import Steward.Store.WorkerCommands

/-!
# Passes over a worker's commands, and what they leave on record

`reconcileWorkerCommands` of `internal/backlog/coordinator.go` runs several transactions: it commits
the state a snapshot proves, plans and commits commands, reads those to deliver and records the
answers. A run interleaves these, of any worker and planned from whatever was loaded earlier, with
worker reports, new coordinator sessions and other writers; `CommandsOnRecord` is kept by every run.
-/

namespace Steward

open Except Table Text Store

/-! ## The pass -/

/-- The commands a pass issues: planned from the worker's records, and let through by the quota
policy when there is one. -/
def plannedCommands (hash : CoordinatorHash) (records : CoordinatorRecords)
    (snapshot : WorkerSnapshot) (commandRecords : List WorkerCommandRecord) (now : Time)
    (admission : Option WorkerAdmissionPolicy) : Except Err (List WorkerCommand) := do
  let planned ← planWorkerCommands hash records snapshot commandRecords now
  match admission with
  | none => return planned
  | some policy => return (policy.filterCommands records planned).1

namespace Store

section

variable (hash : CoordinatorHash) (review : Attempt → Except Err String)

def commitPlanned (s : Store) (commands : List WorkerCommand) : Except Err Store :=
  if commands = [] then .ok s else (s.commitWorkerCommands review commands).map Prod.fst

def issueWorkerCommands (s : Store) (snapshot : WorkerSnapshot) (now : Time)
    (admission : Option WorkerAdmissionPolicy) : Except Err Store := do
  let records ← s.loadWorkerExchangeRecords snapshot.workerID
  let commandRecords ← s.loadWorkerCommandRecordsFor snapshot.workerID
  let planned ← plannedCommands hash records snapshot commandRecords now admission
  s.commitPlanned review planned

def commandPass (s : Store) (snapshot : WorkerSnapshot) (now : Time)
    (admission : Option WorkerAdmissionPolicy) : Except Err (Store × List WorkerCommand) := do
  let s ← s.issueWorkerCommands hash review snapshot now admission
  let pending ← s.loadPendingWorkerCommands review snapshot.workerID snapshot.workerEpoch
    snapshot.coordinatorEpoch snapshot.sequence now
  return (s, pending)

end

end Store

/-! ## Runs -/

/-- Whether a later row of an assignment continues an earlier one: a later epoch, or the same epoch
of the same worker. -/
def Assignment.Continues (earlier later : Assignment) : Prop :=
  earlier.epoch < later.epoch ∨ earlier.epoch = later.epoch ∧ earlier.workerID = later.workerID

instance (earlier later : Assignment) : Decidable (earlier.Continues later) :=
  inferInstanceAs (Decidable (_ ∨ _))

/-- A transaction of a run. `plan` commits what the planner makes of records loaded earlier;
`saveAttempt` and `saveAssignment` are the writes of all others, which keep assignments identified,
attached to an attempt and of one worker for one epoch. -/
inductive CommandOp
  | plan (records : CoordinatorRecords) (snapshot : WorkerSnapshot)
      (commandRecords : List WorkerCommandRecord) (now : Time)
      (admission : Option WorkerAdmissionPolicy) (review : Attempt → Except Err String)
  | acknowledge (ack : WorkerAcknowledgement)
  | report (snapshot : WorkerSnapshot) (observe refresh : Bool)
  | advance (expected : Int) (now : Time)
  | reconcile (digest : ThrottleCommand → String) (transitions : List WorkerStateTransition)
  | saveAttempt (attempt : Attempt)
  | saveAssignment (assignment : Assignment)

variable (hash : CoordinatorHash) (s : Store)

def Store.saveAssignment (assignment : Assignment) : Except Err Store :=
  if assignment.id = "" ∨ assignment.epoch < 1 ∨ s.attempts.get? assignment.attemptID = none ∨
      (s.assignments.get? assignment.id).any (fun row => !decide (row.Continues assignment)) then
    .error { text := "invalid assignment " ++ quote assignment.id }
  else .ok { s with assignments := s.assignments.put assignment }

def CommandOp.commit : CommandOp → Except Err Store
  | .plan records snapshot commandRecords now admission review => do
    let planned ← plannedCommands hash records snapshot commandRecords now admission
    s.commitPlanned review planned
  | .acknowledge ack => s.acknowledgeWorkerCommand ack
  | .report snapshot observe refresh => (s.saveWorkerSnapshot snapshot observe refresh).map Prod.fst
  | .advance expected now => s.advanceCoordinatorEpoch expected now
  | .reconcile digest transitions =>
    (s.commitWorkerStateTransitions digest transitions).map Prod.fst
  | .saveAttempt attempt => .ok { s with attempts := s.attempts.put attempt }
  | .saveAssignment assignment => s.saveAssignment assignment

def commandStep (op : CommandOp) : Store :=
  Runs.committed s (op.commit hash s)

/-! ## What every run keeps true -/

/-- An audit event of a commit names a command of the current or an earlier authority; one of the
current authority is still on record. -/
def Issued (id : String) : Prop :=
  ∃ epoch assignmentID assignmentEpoch kind,
    id = workerCommandID hash epoch assignmentID assignmentEpoch kind ∧ 1 ≤ epoch ∧
      epoch ≤ s.coordinatorEpoch ∧
      (epoch = s.coordinatorEpoch → ∃ r ∈ s.workerCommands.rows,
        r.command.id = id ∧ r.command.coordinatorEpoch = epoch)

def Assigned (a : Assignment) : Prop :=
  a.id ≠ "" ∧ 1 ≤ a.epoch ∧ ∃ t, s.attempts.get? a.attemptID = some t

def WorkerSnapshot.Identified (snapshot : WorkerSnapshot) : Prop :=
  snapshot.workerID ≠ "" ∧ snapshot.workerEpoch ≠ "" ∧ 1 ≤ snapshot.coordinatorEpoch ∧
    1 ≤ snapshot.sequence

/-- A command never runs ahead of its assignment, and addresses the worker of its epoch. -/
def Custodial (command : WorkerCommand) : Prop :=
  ∃ a, s.assignments.get? command.assignmentID = some a ∧
    (command.assignmentEpoch < a.epoch ∨
      command.assignmentEpoch = a.epoch ∧ command.workerID = a.workerID)

def Recorded (hash : CoordinatorHash) (s : Store) (c : WorkerCommand) : Prop :=
  c.id = workerCommandID hash c.coordinatorEpoch c.assignmentID c.assignmentEpoch c.kind ∧
    (1 ≤ c.coordinatorEpoch ∧ c.coordinatorEpoch ≤ s.coordinatorEpoch) ∧ Custodial s c

structure CommandsOnRecord (hash : CoordinatorHash) (s : Store) : Prop where
  recorded : ∀ r ∈ s.workerCommands.rows, Recorded hash s r.command
  unique : ∀ r ∈ s.workerCommands.rows, ∀ r' ∈ s.workerCommands.rows,
    r.command.sameEffect r'.command = true → r = r'
  assigned : ∀ a ∈ s.assignments.rows, Assigned s a
  audited : ∀ e ∈ s.auditEvents.rows, ∀ id, e.id = commandCommittedID id → Issued hash s id
  sessions : ∀ w ∈ s.workerSnapshots.rows, w.Identified

theorem commandsOnRecord_empty (hash : CoordinatorHash) : CommandsOnRecord hash {} where
  recorded _ h := nomatch h
  unique _ h := nomatch h
  assigned _ h := nomatch h
  audited _ h := nomatch h
  sessions _ h := nomatch h

/-! ## Transactions that write no command -/

theorem Assignment.Continues.refl (a : Assignment) : a.Continues a := .inr ⟨rfl, rfl⟩

variable {a : Assignment}

theorem Assignment.Continues.trans {b c : Assignment} (hab : a.Continues b) (hbc : b.Continues c) :
    a.Continues c := by
  rcases hab with hab | ⟨hab, hworker⟩
  · rcases hbc with hbc | ⟨hbc, -⟩
    · exact .inl (hab.trans hbc)
    · exact .inl (hbc ▸ hab)
  · rcases hbc with hbc | ⟨hbc, hworker'⟩
    · exact .inl (hab ▸ hbc)
    · exact .inr ⟨hab.trans hbc, hworker.trans hworker'⟩

/-- A step that leaves the commands alone: rows continue, no attempt goes away, and no event is one
of a commit. -/
structure KeepsCommands (s s' : Store) : Prop where
  commands : s'.workerCommands = s.workerCommands
  epoch : s'.coordinatorEpoch = s.coordinatorEpoch
  sessions : ∀ w ∈ s'.workerSnapshots.rows, w ∈ s.workerSnapshots.rows ∨ w.Identified
  attempts : ∀ id t, s.attempts.get? id = some t → ∃ t', s'.attempts.get? id = some t'
  custody : ∀ id a, s.assignments.get? id = some a →
    ∃ a', s'.assignments.get? id = some a' ∧ a.Continues a'
  assigned : ∀ a ∈ s'.assignments.rows, a ∈ s.assignments.rows ∨ Assigned s' a
  events : ∀ e ∈ s'.auditEvents.rows, e ∈ s.auditEvents.rows ∨ ∀ id, e.id ≠ commandCommittedID id

theorem KeepsCommands.refl (s : Store) : KeepsCommands s s where
  commands := rfl
  epoch := rfl
  sessions _ h := .inl h
  attempts _ t h := ⟨t, h⟩
  custody _ a h := ⟨a, h, Assignment.Continues.refl a⟩
  assigned _ h := .inl h
  events _ h := .inl h

theorem Assigned.mono {s s' : Store}
    (hattempts : ∀ id t, s.attempts.get? id = some t → ∃ t', s'.attempts.get? id = some t')
    (h : Assigned s a) : Assigned s' a := by
  obtain ⟨hid, hepoch, t, ht⟩ := h
  exact ⟨hid, hepoch, hattempts _ t ht⟩

theorem KeepsCommands.trans (a b c : Store) (hab : KeepsCommands a b) (hbc : KeepsCommands b c) :
    KeepsCommands a c where
  commands := hbc.commands.trans hab.commands
  epoch := hbc.epoch.trans hab.epoch
  sessions w h := (hbc.sessions w h).elim (hab.sessions w) .inr
  attempts id t h := by
    obtain ⟨t', h⟩ := hab.attempts id t h
    exact hbc.attempts id t' h
  custody id x h := by
    obtain ⟨y, hy, hxy⟩ := hab.custody id x h
    obtain ⟨z, hz, hyz⟩ := hbc.custody id y hy
    exact ⟨z, hz, hxy.trans hyz⟩
  assigned x h := by
    rcases hbc.assigned x h with h | h
    · exact (hab.assigned x h).imp_right (Assigned.mono hbc.attempts)
    · exact .inr h
  events e h := (hbc.events e h).elim (hab.events e) .inr

theorem Custodial.of_continues {s s' : Store} {command : WorkerCommand}
    (hcustody : ∀ id a, s.assignments.get? id = some a →
      ∃ a', s'.assignments.get? id = some a' ∧ a.Continues a')
    (h : Custodial s command) : Custodial s' command := by
  obtain ⟨a, ha, hepoch⟩ := h
  obtain ⟨a', ha', hcontinues⟩ := hcustody _ a ha
  refine ⟨a', ha', ?_⟩
  rcases hcontinues with hlater | ⟨hsame, hworker⟩
  · left
    rcases hepoch with hepoch | ⟨hepoch, -⟩ <;> omega
  · rw [← hsame, ← hworker]
    exact hepoch

section

variable {hash : CoordinatorHash} {s s' : Store}

theorem CommandsOnRecord.of_keeps (h : KeepsCommands s s') (hs : CommandsOnRecord hash s) :
    CommandsOnRecord hash s' where
  recorded r hr := by
    obtain ⟨hid, hauthority, hcustodial⟩ := hs.recorded r (h.commands ▸ hr)
    exact ⟨hid, h.epoch ▸ hauthority, hcustodial.of_continues h.custody⟩
  unique := h.commands ▸ hs.unique
  assigned a ha := (h.assigned a ha).elim (fun ha => (hs.assigned a ha).mono h.attempts) id
  audited e he id hid := by
    unfold Issued
    rw [h.commands, h.epoch]
    exact (h.events e he).elim (fun he => hs.audited e he id hid) fun hne => absurd hid (hne id)
  sessions w hw := (h.sessions w hw).elim (hs.sessions w) id

theorem committedID_ne_workerState (tr : WorkerStateTransition) (id : String) :
    workerStateAuditID tr ≠ commandCommittedID id := by
  unfold workerStateAuditID commandCommittedID numbered
  simp only [String.append_assoc]
  exact append_ne 8 (by decide) (by decide) (by decide) _ _

theorem committedID_ne_snapshot (snapshot : WorkerSnapshot) (id : String) :
    workerSnapshotAuditID snapshot ≠ commandCommittedID id := by
  unfold workerSnapshotAuditID commandCommittedID numbered
  simp only [String.append_assoc]
  exact append_ne 8 (by decide) (by decide) (by decide) _ _

theorem committedID_ne_epoch (n : Int) (id : String) :
    numbered "coordinator-epoch" n ≠ commandCommittedID id := by
  unfold commandCommittedID numbered
  simp only [String.append_assoc]
  exact append_ne 8 (by decide) (by decide) (by decide) _ _

theorem committedID_ne_acknowledged (acknowledged id : String) :
    commandAcknowledgedID acknowledged ≠ commandCommittedID id := by
  exact append_ne_right 9 (by decide) (by decide) (by decide) _ _

theorem commandCommittedID_inj {a b : String} (h : commandCommittedID a = commandCommittedID b) :
    a = b := by
  unfold commandCommittedID at h
  rw [String.append_left_inj, String.append_right_inj] at h
  exact h

variable {event : String} {r record : WorkerCommandRecord} {ack : WorkerAcknowledgement}
  {admission : Option WorkerAdmissionPolicy}

theorem events_of_other {before after : Table AuditEvent.id} (h : EventsFrom before after event)
    (hne : ∀ id, event ≠ commandCommittedID id) :
    ∀ e ∈ after.rows, e ∈ before.rows ∨ ∀ id, e.id ≠ commandCommittedID id := by
  intro e he
  rcases h e he with he | heq
  · exact .inl he
  · exact .inr fun id => heq ▸ hne id

theorem keepsCommands_putAttempt (s : Store) (attempt : Attempt) :
    KeepsCommands s { s with attempts := s.attempts.put attempt } := by
  refine { KeepsCommands.refl s with attempts := fun id t h => ?_, assigned := fun a h => .inl h }
  simp only [get?_put]
  split_ifs
  · exact ⟨attempt, rfl⟩
  · exact ⟨t, h⟩

theorem keepsCommands_putAssignment (ha : Assigned s a)
    (hrow : ∀ row, s.assignments.get? a.id = some row → row.Continues a) :
    KeepsCommands s { s with assignments := s.assignments.put a } := by
  refine { KeepsCommands.refl s with custody := fun id row h => ?_, assigned := fun b h => ?_ }
  · simp only [get?_put]
    split_ifs with hid
    · exact ⟨a, rfl, hrow row (hid ▸ h)⟩
    · exact ⟨row, h, Assignment.Continues.refl row⟩
  · rcases mem_put_iff.1 h with rfl | ⟨h, -⟩
    · exact .inr ha
    · exact .inl h

variable {command : WorkerCommand} {auditEvents : Table AuditEvent.id} {snapshot : WorkerSnapshot}
  {now : Time}

theorem keepsCommands_events (h : EventsFrom s.auditEvents auditEvents event)
    (hne : ∀ id, event ≠ commandCommittedID id) :
    KeepsCommands s { s with auditEvents := auditEvents } :=
  { KeepsCommands.refl s with events := events_of_other h hne, assigned := fun _ h => .inl h }

theorem saveAssignment_keeps (h : s.saveAssignment a = .ok s') : KeepsCommands s s' := by
  unfold saveAssignment at h
  split_ifs at h with hinvalid
  cases h
  simp only [not_or, not_lt] at hinvalid
  obtain ⟨hid, hepoch, hattempt, hrow⟩ := hinvalid
  refine keepsCommands_putAssignment ⟨hid, hepoch, Option.ne_none_iff_exists'.1 hattempt⟩ ?_
  intro row hget
  simpa [hget] using hrow

theorem report_keeps {stored : WorkerSnapshot} {observe refresh : Bool}
    (h : s.saveWorkerSnapshot snapshot observe refresh = .ok (s', stored)) : KeepsCommands s s' := by
  obtain ⟨hvalid, workerSnapshots, auditEvents, rfl, hsaved, hevents⟩ := saveWorkerSnapshot_ok h
  obtain ⟨hvalid, -⟩ := of_guard hvalid
  have hidentified : snapshot.Identified := by
    simp only [not_or, Bool.not_eq_true', Bool.not_eq_false, not_lt] at hvalid
    obtain ⟨hworker, hsession, hepoch, hsequence, -⟩ := hvalid
    exact ⟨fun hempty => by simp [hempty, proper] at hworker,
      fun hempty => by simp [hempty, proper] at hsession, hepoch, hsequence⟩
  refine { KeepsCommands.refl s with
    events := events_of_other hevents (committedID_ne_snapshot snapshot)
    sessions := fun w hw => ?_
    assigned := fun _ h => .inl h }
  rcases hsaved with rfl | rfl
  · exact .inl hw
  · rcases mem_put_iff.1 hw with rfl | ⟨hw, -⟩
    · exact .inr hidentified
    · exact .inl hw

theorem reconcile_keeps {digest : ThrottleCommand → String} {trs : List WorkerStateTransition}
    {applied : List Assignment}
    (h : s.commitWorkerStateTransitions digest trs = .ok (s', applied)) : KeepsCommands s s' := by
  refine applyWorkerStateTransitions_rel KeepsCommands.refl KeepsCommands.trans ?_ h
  intro s tr attempt auditEvents htr hevents
  obtain ⟨hid, hepoch⟩ := htr.named
  obtain ⟨hnext, -, hnextWorker, hnextEpoch, -, -⟩ := htr.same
  -- the attempt first, so that the row is attached to it
  have hattached := keepsCommands_putAttempt s tr.attempt
  refine KeepsCommands.trans _ _ _ (KeepsCommands.trans _ _ _ hattached
    (keepsCommands_putAssignment ⟨hnext ▸ hid, hnextEpoch ▸ hepoch, tr.attempt, ?_⟩ ?_))
    (keepsCommands_events hevents (committedID_ne_workerState tr))
  · rw [← htr.projected]
    exact get?_put_self _ _
  · intro row hrow
    cases hrow.symm.trans htr.assigned
    exact .inr ⟨hnextEpoch.symm, hnextWorker.symm⟩

/-! ## Transactions that write commands, or start a session -/

theorem sameEffect_iff {c d : WorkerCommand} : c.sameEffect d = true ↔
    c.assignmentID = d.assignmentID ∧ c.assignmentEpoch = d.assignmentEpoch ∧ c.kind = d.kind := by
  simp [WorkerCommand.sameEffect]

theorem sameEffect_comm (c d : WorkerCommand) : c.sameEffect d = d.sameEffect c := by
  simp only [WorkerCommand.sameEffect, eq_comm]

theorem CommandsOnRecord.advance {expected : Int} (hs : CommandsOnRecord hash s)
    (h : s.advanceCoordinatorEpoch expected now = .ok s') : CommandsOnRecord hash s' := by
  obtain ⟨auditEvents, rfl, hevents⟩ := advanceCoordinatorEpoch_ok h
  refine { hs with recorded := fun r hr => ?_, audited := fun e he id hid => ?_ }
  · obtain ⟨hrid, ⟨hfirst, hlast⟩, hcustodial⟩ := hs.recorded r hr
    exact ⟨hrid, ⟨hfirst, by simp only; omega⟩, hcustodial⟩
  · rcases events_of_other hevents (committedID_ne_epoch _) e he with he | hne
    · obtain ⟨epoch, assignmentID, assignmentEpoch, kind, hname, hfirst, hlast, -⟩ :=
        hs.audited e he id hid
      refine ⟨epoch, assignmentID, assignmentEpoch, kind, hname, hfirst, ?_, fun hcurrent => ?_⟩
      · simp only
        omega
      · simp only at hcurrent
        omega
    · exact absurd hid (hne id)

theorem mem_put_answered (hrecord : record ∈ s.workerCommands.rows)
    (hr : r ∈ (s.workerCommands.put { record with acknowledgement := some ack }).rows) :
    ∃ before ∈ s.workerCommands.rows, before.command = r.command := by
  rcases mem_put_iff.1 hr with rfl | ⟨hr, -⟩
  · exact ⟨record, hrecord, rfl⟩
  · exact ⟨r, hr, rfl⟩

theorem CommandsOnRecord.answer (hs : CommandsOnRecord hash s)
    (hrecord : record ∈ s.workerCommands.rows) (ack : WorkerAcknowledgement) :
    CommandsOnRecord hash { s with
      workerCommands := s.workerCommands.put { record with acknowledgement := some ack } } := by
  refine { hs with
    recorded := fun r hr => ?_
    unique := fun r hr r' hr' heffect => ?_
    audited := fun e he id hid => ?_ }
  · obtain ⟨before, hbefore, heq⟩ := mem_put_answered hrecord hr
    rw [← heq]
    exact hs.recorded before hbefore
  · obtain ⟨before, hbefore, heq⟩ := mem_put_answered hrecord hr
    obtain ⟨before', hbefore', heq'⟩ := mem_put_answered hrecord hr'
    rw [← heq, ← heq'] at heffect
    have hsame := hs.unique before hbefore before' hbefore' heffect
    exact eq_of_key_eq hr hr' (by rw [← heq, ← heq', hsame])
  · obtain ⟨epoch, assignmentID, assignmentEpoch, kind, hname, hfirst, hlast, hrow⟩ :=
      hs.audited e he id hid
    refine ⟨epoch, assignmentID, assignmentEpoch, kind, hname, hfirst, hlast, fun hcurrent => ?_⟩
    obtain ⟨r, hr, hrid, hrepoch⟩ := hrow hcurrent
    by_cases hkey : r.command.id = record.command.id
    · obtain rfl := eq_of_key_eq hr hrecord hkey
      exact ⟨_, mem_put_iff.2 (.inl rfl), hrid, hrepoch⟩
    · exact ⟨r, mem_put_iff.2 (.inr ⟨hr, hkey⟩), hrid, hrepoch⟩

theorem CommandsOnRecord.acknowledge (hs : CommandsOnRecord hash s)
    (h : s.acknowledgeWorkerCommand ack = .ok s') : CommandsOnRecord hash s' := by
  obtain ⟨record, hrecord, auditEvents, hevents, rfl | ⟨-, rfl⟩⟩ :=
    acknowledgeWorkerCommand_ok h
  · exact hs.of_keeps (keepsCommands_events hevents (committedID_ne_acknowledged _))
  · exact (hs.answer hrecord ack).of_keeps
      (keepsCommands_events (s := { s with
          workerCommands := s.workerCommands.put { record with acknowledgement := some ack } })
        hevents (committedID_ne_acknowledged _))

theorem mem_commanded :
    r ∈ (s.commanded command auditEvents).workerCommands.rows ↔ r = { command := command } ∨
      r ∈ s.workerCommands.rows ∧ superseded command r = false ∧ r.command.id ≠ command.id := by
  unfold commanded
  rw [mem_put_iff]
  simp only [Table.filter, List.mem_filter, Bool.not_eq_true', and_assoc]

variable {review : Attempt → Except Err String}

section

variable (hs : CommandsOnRecord hash s)
  (hid : command.id = workerCommandID hash command.coordinatorEpoch command.assignmentID command.assignmentEpoch command.kind)
include hs hid

theorem CommandsOnRecord.commanded (hfirst : 1 ≤ command.coordinatorEpoch)
    (hepoch : s.coordinatorEpoch = command.coordinatorEpoch) (hcustodial : Custodial s command)
    (hfree : s.EffectFree command)
    (hevents : EventsFrom s.auditEvents auditEvents (commandCommittedID command.id)) :
    CommandsOnRecord hash (s.commanded command auditEvents) where
  recorded r hr := by
    rcases mem_commanded.1 hr with rfl | ⟨hr, -⟩
    · exact ⟨hid, ⟨hfirst, hepoch.ge⟩, hcustodial⟩
    · exact hs.recorded r hr
  unique r hr r' hr' heffect := by
    rcases mem_commanded.1 hr with rfl | ⟨hr, hkept, -⟩
    · rcases mem_commanded.1 hr' with rfl | ⟨hr', hkept', -⟩
      · rfl
      · rw [sameEffect_comm, (hfree r' hr' hkept').2] at heffect
        cases heffect
    · rcases mem_commanded.1 hr' with rfl | ⟨hr', -⟩
      · rw [(hfree r hr hkept).2] at heffect
        cases heffect
      · exact hs.unique r hr r' hr' heffect
  assigned := hs.assigned
  audited e he id hname := by
    have hrow : ({ command := command } : WorkerCommandRecord) ∈
        (s.commanded command auditEvents).workerCommands.rows := mem_commanded.2 (.inl rfl)
    rcases hevents e he with he | heq
    · obtain ⟨epoch, assignmentID, assignmentEpoch, kind, hissued, hfirst', hlast, hcurrent⟩ :=
        hs.audited e he id hname
      refine ⟨epoch, assignmentID, assignmentEpoch, kind, hissued, hfirst', hlast, fun heq => ?_⟩
      obtain ⟨r, hr, hrid, hrepoch⟩ := hcurrent heq
      have hkept : superseded command r = false := by
        simp [superseded, hrepoch.trans (heq.trans hepoch)]
      by_cases hkey : r.command.id = command.id
      · exact ⟨_, hrow, hkey.symm.trans hrid, hepoch.symm.trans heq.symm⟩
      · exact ⟨r, mem_commanded.2 (.inr ⟨hr, hkept, hkey⟩), hrid, hrepoch⟩
    · obtain rfl := commandCommittedID_inj (heq.symm.trans hname)
      exact ⟨_, _, _, _, hid, hfirst, hepoch.ge, fun _ => ⟨_, hrow, rfl, rfl⟩⟩
  sessions := hs.sessions

theorem CommandsOnRecord.commitWorkerCommand
    {committed : Option WorkerCommand} (hvalid : validateWorkerCommand command = .ok ())
    (h : s.commitWorkerCommand review command = .ok (s', committed)) : CommandsOnRecord hash s' := by
  rcases commitWorkerCommand_ok h with rfl | ⟨auditEvents, hevents,
    ⟨⟨r, hr, rfl⟩, rfl⟩ | ⟨hepoch, ⟨a, ha, hmatches⟩, hfree, rfl⟩⟩
  · exact hs
  · refine { hs with audited := fun e he id hname => ?_ }
    rcases hevents e he with he | heq
    · exact hs.audited e he id hname
    · obtain rfl := commandCommittedID_inj (heq.symm.trans hname)
      obtain ⟨-, ⟨hfirst, hlast⟩, -⟩ := hs.recorded r hr
      exact ⟨_, _, _, _, hid, hfirst, hlast, fun _ => ⟨r, hr, rfl, rfl⟩⟩
  · have hfirst : 1 ≤ command.coordinatorEpoch := by
      have hshape := refuseWhen_eq_ok_iff.1 hvalid
      simp only [not_or, not_lt] at hshape
      exact hshape.2.2.2.1
    simp only [commandMatches, decide_eq_true_eq] at hmatches
    exact hs.commanded hid hfirst hepoch ⟨a, ha, .inr ⟨hmatches.2.2.symm, hmatches.1.symm⟩⟩ hfree
      hevents

end

theorem plannedCommands_mem {records : CoordinatorRecords}
    {commandRecords : List WorkerCommandRecord} {planned : List WorkerCommand}
    (h : plannedCommands hash records snapshot commandRecords now admission = .ok planned)
    (hmem : command ∈ planned) :
    ∃ a ∈ records.assignments, ∃ kind, command = boundCommand hash snapshot now a kind := by
  obtain ⟨all, hall, h⟩ := of_bind h
  split at h
  · cases h
    exact planWorkerCommands_mem hall hmem
  · cases h
    simp only [WorkerAdmissionPolicy.filterCommands, List.mem_insertionSort, List.mem_filter] at hmem
    exact planWorkerCommands_mem hall hmem.1

theorem commitPlanned_invariant {I : Store → Prop} {commands : List WorkerCommand}
    (hstep : ∀ (s s' : Store), ∀ command ∈ commands, ∀ committed,
    validateWorkerCommand command = .ok () →
      s.commitWorkerCommand review command = .ok (s', committed) → I s → I s')
    (h : s.commitPlanned review commands = .ok s') (hs : I s) : I s' := by
  unfold Store.commitPlanned at h
  split_ifs at h
  · cases h
    exact hs
  · obtain ⟨result, h⟩ := map_fst_eq_ok h
    unfold commitWorkerCommands at h
    split_ifs at h
    exact commitCommandBatch_invariant hstep h hs

theorem CommandsOnRecord.planned {records : CoordinatorRecords}
    {commandRecords : List WorkerCommandRecord}
    {planned : List WorkerCommand} (hs : CommandsOnRecord hash s)
    (hplanned : plannedCommands hash records snapshot commandRecords now admission = .ok planned)
    (h : s.commitPlanned review planned = .ok s') : CommandsOnRecord hash s' := by
  refine commitPlanned_invariant (fun s s' c hc committed hvalid hcommit hs => ?_) h hs
  obtain ⟨a, -, kind, rfl⟩ := plannedCommands_mem hplanned hc
  exact hs.commitWorkerCommand rfl hvalid hcommit

theorem CommandsOnRecord.issue (hs : CommandsOnRecord hash s)
    (h : s.issueWorkerCommands hash review snapshot now admission = .ok s') :
    CommandsOnRecord hash s' := by
  obtain ⟨records, -, h⟩ := of_bind h
  obtain ⟨commandRecords, -, h⟩ := of_bind h
  obtain ⟨planned, hplanned, h⟩ := of_bind h
  exact hs.planned hplanned h

/-! ## Whole runs -/

theorem CommandsOnRecord.step (hs : CommandsOnRecord hash s) (op : CommandOp) :
    CommandsOnRecord hash (commandStep hash s op) := by
  unfold commandStep
  cases hop : op.commit hash s with
  | error e => exact hs
  | ok s' =>
    cases op with
    | plan records snapshot commandRecords now admission review =>
      obtain ⟨planned, hplanned, hcommit⟩ := of_bind hop
      exact hs.planned hplanned hcommit
    | acknowledge ack => exact hs.acknowledge hop
    | report snapshot observe refresh =>
      obtain ⟨stored, hreport⟩ := map_fst_eq_ok hop
      exact hs.of_keeps (report_keeps hreport)
    | advance expected now => exact hs.advance hop
    | reconcile digest transitions =>
      obtain ⟨applied, hreconcile⟩ := map_fst_eq_ok hop
      exact hs.of_keeps (reconcile_keeps hreconcile)
    | saveAttempt attempt =>
      cases hop
      exact hs.of_keeps (keepsCommands_putAttempt s attempt)
    | saveAssignment assignment => exact hs.of_keeps (saveAssignment_keeps hop)

theorem CommandsOnRecord.run (hs : CommandsOnRecord hash s) (ops : List CommandOp) :
    CommandsOnRecord hash (Runs.run (commandStep hash) s ops) :=
  Runs.run_invariant (P := fun _ _ => True) (fun _ op h _ => h.step op) hs
    (Runs.along_of_forall fun _ _ _ => trivial)

end

end Steward
