import Mathlib.Data.Finset.Prod
import Mathlib.Data.List.MinMax
import Steward.Backlog.CommandDelivery

/-!
# Whether stop and collection get their turn

A pass plans one command, for the first assignment in identity order that needs one. A command that
the quota policy or the attempt fence refuses is not put on record and is planned again: nothing
behind it ever is. While every refusable command in front is admitted, each pass puts one more
effect on record, of four for each assignment in front.
-/

namespace Steward

open Except Runs Store Table List Option

/-! ## Repeated passes -/

/-- A transaction of repeated passes of one coordinator session under one policy: a planning pass,
an answer, a report, or the state a report proves. -/
inductive PassOp
  | pass (snapshot : WorkerSnapshot) (now : Time)
  | acknowledge (ack : WorkerAcknowledgement)
  | report (snapshot : WorkerSnapshot) (observe refresh : Bool)
  | reconcile (digest : ThrottleCommand → String) (transitions : List WorkerStateTransition)

def PassOp.isPass : PassOp → Bool
  | .pass _ _ => true
  | _ => false

section

variable (hash : CoordinatorHash) (review : Attempt → Except Err String)
  (admission : Option WorkerAdmissionPolicy)

def PassOp.commit (s : Store) : PassOp → Except Err Store
  | .pass snapshot now => s.issueWorkerCommands hash review snapshot now admission
  | .acknowledge ack => s.acknowledgeWorkerCommand ack
  | .report snapshot observe refresh => (s.saveWorkerSnapshot snapshot observe refresh).map Prod.fst
  | .reconcile digest transitions =>
    (s.commitWorkerStateTransitions digest transitions).map Prod.fst

def passStep (s : Store) (op : PassOp) : Store :=
  committed s (op.commit hash review admission s)

end

/-- A command of this kind was issued for this epoch of the assignment. -/
def CommandOnRecord (s : Store) (assignmentID : String) (assignmentEpoch : Int)
    (kind : WorkerCommandKind) : Prop :=
  ∃ r ∈ s.workerCommands.rows, r.command.assignmentID = assignmentID ∧
    r.command.assignmentEpoch = assignmentEpoch ∧ r.command.kind = kind

/-- A pass of the current session in which an assignment waits for a command and quota policy and
attempt fence admit the new work planned in front of it. -/
structure PassUnblocked (hash : CoordinatorHash) (review : Attempt → Except Err String)
    (admission : Option WorkerAdmissionPolicy) (s : Store) (snapshot : WorkerSnapshot) (now : Time)
    (assignmentID : String) (assignmentEpoch : Int) (kind : WorkerCommandKind) : Prop where
  session : LiveSession s snapshot now
  reviewable : ∀ t, ∃ refusal, review t = .ok refusal
  needed : ∃ a ∈ s.assignments.rows, a.id = assignmentID ∧ a.epoch = assignmentEpoch ∧
    s.planFor hash snapshot now a = some (boundCommand hash snapshot now a kind)
  admitted : ∀ b ∈ s.assignments.rows, b.id < assignmentID → ∀ command,
    s.planFor hash snapshot now b = some command → command.kind.newWork = true →
      AllowedBy admission (s.workerRecords snapshot.workerID) command = true ∧
        s.workerCommandAttemptEligible review command b = .ok true

/-! ## Effects on record only grow -/

/-- A command of the effect is answered or of the current authority. -/
def EffectStands (s : Store) (effect : (String × Int) × WorkerCommandKind) : Prop :=
  ∃ r ∈ s.workerCommands.rows, r.command.assignmentID = effect.1.1 ∧
    r.command.assignmentEpoch = effect.1.2 ∧ r.command.kind = effect.2 ∧
    (r.acknowledgement ≠ none ∨ r.command.coordinatorEpoch = s.coordinatorEpoch)

instance (s : Store) (effect : (String × Int) × WorkerCommandKind) :
    Decidable (EffectStands s effect) :=
  inferInstanceAs (Decidable (∃ r ∈ _, _))

/-- What a transaction of a pass run keeps: the authority, the epochs of the assignments, and every
effect on record. -/
structure KeepsEffects (s s' : Store) : Prop where
  epoch : s'.coordinatorEpoch = s.coordinatorEpoch
  rows : ∀ b ∈ s'.assignments.rows, ∃ a ∈ s.assignments.rows, a.id = b.id ∧ a.epoch = b.epoch
  commands : ∀ r ∈ s.workerCommands.rows, ∃ r' ∈ s'.workerCommands.rows,
    r'.command.sameEffect r.command = true ∧
      (r.acknowledgement ≠ none ∨ r.command.coordinatorEpoch = s.coordinatorEpoch →
        r'.acknowledgement ≠ none ∨ r'.command.coordinatorEpoch = s'.coordinatorEpoch)

section

variable {hash : CoordinatorHash} {review : Attempt → Except Err String}
  {admission : Option WorkerAdmissionPolicy} {s s' : Store}

theorem KeepsEffects.recorded (h : KeepsEffects s s') {id : String} {epoch : Int}
    {kind : WorkerCommandKind} (hs : CommandOnRecord s id epoch kind) :
    CommandOnRecord s' id epoch kind := by
  obtain ⟨r, hr, rfl, rfl, rfl⟩ := hs
  obtain ⟨r', hr', hsame, -⟩ := h.commands r hr
  exact ⟨r', hr', sameEffect_iff.1 hsame⟩

theorem KeepsEffects.standing (h : KeepsEffects s s') {effect : (String × Int) × WorkerCommandKind}
    (hs : EffectStands s effect) : EffectStands s' effect := by
  obtain ⟨r, hr, hid, hepoch, hkind, hstands⟩ := hs
  obtain ⟨r', hr', hsame, hkept⟩ := h.commands r hr
  obtain ⟨hid', hepoch', hkind'⟩ := sameEffect_iff.1 hsame
  exact ⟨r', hr', hid'.trans hid, hepoch'.trans hepoch, hkind'.trans hkind, hkept hstands⟩

theorem KeepsEffects.trans (a b c : Store) (hab : KeepsEffects a b) (hbc : KeepsEffects b c) :
    KeepsEffects a c where
  epoch := hbc.epoch.trans hab.epoch
  rows z hz := by
    obtain ⟨y, hy, hid, hepoch⟩ := hbc.rows z hz
    obtain ⟨x, hx, hid', hepoch'⟩ := hab.rows y hy
    exact ⟨x, hx, hid'.trans hid, hepoch'.trans hepoch⟩
  commands r hr := by
    obtain ⟨r', hr', hsame, hkept⟩ := hab.commands r hr
    obtain ⟨r'', hr'', hsame', hkept'⟩ := hbc.commands r' hr'
    obtain ⟨hid, hepoch, hkind⟩ := sameEffect_iff.1 hsame
    obtain ⟨hid', hepoch', hkind'⟩ := sameEffect_iff.1 hsame'
    exact ⟨r'', hr'', sameEffect_iff.2 ⟨hid'.trans hid, hepoch'.trans hepoch, hkind'.trans hkind⟩,
      fun h => hkept' (hkept h)⟩

theorem KeepsEffects.of_commands (hcommands : s'.workerCommands = s.workerCommands)
    (hepoch : s'.coordinatorEpoch = s.coordinatorEpoch)
    (hrows : ∀ b ∈ s'.assignments.rows, ∃ a ∈ s.assignments.rows, a.id = b.id ∧ a.epoch = b.epoch) :
    KeepsEffects s s' where
  epoch := hepoch
  rows := hrows
  commands r hr := ⟨r, hcommands ▸ hr, sameEffect_iff.2 ⟨rfl, rfl, rfl⟩, hepoch ▸ id⟩

theorem sameRows (s : Store) :
    ∀ b ∈ s.assignments.rows, ∃ a ∈ s.assignments.rows, a.id = b.id ∧ a.epoch = b.epoch :=
  fun b hb => ⟨b, hb, rfl, rfl⟩

theorem KeepsEffects.refl (s : Store) : KeepsEffects s s := of_commands rfl rfl (sameRows s)

theorem reconcile_keepsEffects {digest : ThrottleCommand → String}
    {trs : List WorkerStateTransition} {applied : List Assignment}
    (h : s.commitWorkerStateTransitions digest trs = .ok (s', applied)) : KeepsEffects s s' := by
  refine applyWorkerStateTransitions_rel KeepsEffects.refl KeepsEffects.trans ?_ h
  intro s tr attempt auditEvents htr _
  refine KeepsEffects.of_commands rfl rfl fun b hb => ?_
  rcases mem_put_iff.1 hb with rfl | ⟨hb, -⟩
  · exact ⟨tr.expectedAssignment, mem_of_get? htr.assigned, htr.same.1.symm, htr.same.2.2.2.1.symm⟩
  · exact ⟨b, hb, rfl, rfl⟩

theorem acknowledge_keepsEffects {ack : WorkerAcknowledgement}
    (h : s.acknowledgeWorkerCommand ack = .ok s') : KeepsEffects s s' := by
  obtain ⟨record, hrecord, auditEvents, -, rfl | ⟨-, rfl⟩⟩ := acknowledgeWorkerCommand_ok h
  · exact KeepsEffects.of_commands rfl rfl (sameRows s)
  · refine ⟨rfl, sameRows s, fun r hr => ?_⟩
    by_cases hkey : r.command.id = record.command.id
    · obtain rfl := eq_of_key_eq hr hrecord hkey
      exact ⟨_, mem_put_iff.2 (.inl rfl), sameEffect_iff.2 ⟨rfl, rfl, rfl⟩,
        fun _ => .inl (some_ne_none _)⟩
    · exact ⟨r, mem_put_iff.2 (.inr ⟨hr, hkey⟩), sameEffect_iff.2 ⟨rfl, rfl, rfl⟩, id⟩

theorem commanded_keepsEffects {command : WorkerCommand} {auditEvents : Table AuditEvent.id}
    (hepoch : s.coordinatorEpoch = command.coordinatorEpoch) (hfree : s.EffectFree command) :
    KeepsEffects s (s.commanded command auditEvents) := by
  refine ⟨rfl, sameRows s, fun r hr => ?_⟩
  by_cases hsuper : superseded command r = true
  · -- the command stands where the superseded one did not
    simp only [superseded, Bool.and_eq_true] at hsuper
    exact ⟨_, mem_commanded.2 (.inl rfl), (sameEffect_comm _ _).trans hsuper.1.1,
      fun _ => .inr hepoch.symm⟩
  · rw [Bool.not_eq_true] at hsuper
    exact ⟨r, mem_commanded.2 (.inr ⟨hr, hsuper, (hfree r hr hsuper).1⟩),
      sameEffect_iff.2 ⟨rfl, rfl, rfl⟩, id⟩

theorem commitWorkerCommand_keepsEffects {command : WorkerCommand} {committed : Option WorkerCommand}
    (h : s.commitWorkerCommand review command = .ok (s', committed)) : KeepsEffects s s' := by
  rcases commitWorkerCommand_ok h with rfl | ⟨auditEvents, -, ⟨-, rfl⟩ | ⟨hepoch, -, hfree, rfl⟩⟩
  · exact KeepsEffects.refl s'
  · exact KeepsEffects.of_commands rfl rfl (sameRows s)
  · exact commanded_keepsEffects hepoch hfree

theorem issue_keepsEffects {snapshot : WorkerSnapshot} {now : Time}
    (h : s.issueWorkerCommands hash review snapshot now admission = .ok s') : KeepsEffects s s' := by
  obtain ⟨records, -, h⟩ := of_bind h
  obtain ⟨commandRecords, -, h⟩ := of_bind h
  obtain ⟨planned, -, h⟩ := of_bind h
  exact commitPlanned_invariant (fun before after _ _ _ _ hcommit hbefore =>
    KeepsEffects.trans s before after hbefore (commitWorkerCommand_keepsEffects hcommit)) h
    (KeepsEffects.refl s)

theorem passStep_keepsEffects (s : Store) (op : PassOp) :
    KeepsEffects s (passStep hash review admission s op) := by
  refine rel_committed KeepsEffects.refl fun s' h => ?_
  cases op with
  | pass snapshot now => exact issue_keepsEffects h
  | acknowledge ack => exact acknowledge_keepsEffects h
  | report snapshot observe refresh =>
    obtain ⟨stored, h⟩ := map_fst_eq_ok h
    obtain ⟨-, workerSnapshots, auditEvents, rfl, -, -⟩ := saveWorkerSnapshot_ok h
    exact KeepsEffects.of_commands rfl rfl (sameRows s)
  | reconcile digest transitions =>
    obtain ⟨applied, h⟩ := map_fst_eq_ok h
    exact reconcile_keepsEffects h

theorem CommandsOnRecord.passStep (hs : CommandsOnRecord hash s) (op : PassOp) :
    CommandsOnRecord hash (passStep hash review admission s op) := by
  cases op with
  | pass snapshot now =>
    exact rel_committed (R := fun s s' => CommandsOnRecord hash s → CommandsOnRecord hash s')
      (fun _ hs => hs) (fun s' h hs => hs.issue h) hs
  | acknowledge ack => exact hs.step (.acknowledge ack)
  | report snapshot observe refresh => exact hs.step (.report snapshot observe refresh)
  | reconcile digest transitions => exact hs.step (.reconcile digest transitions)

/-! ## Progress of one pass -/

variable {snapshot : WorkerSnapshot} {now : Time} {assignmentID : String} {assignmentEpoch : Int}
  {kind : WorkerCommandKind}

/-- An unblocked pass issues a command: the one waited for, or one that had not been issued for an
assignment in front of it. -/
theorem PassUnblocked.issues (hfree : hash.CollisionFree) (hs : CommandsOnRecord hash s)
    (hkind : kind.newWork = false)
    (hpass : PassUnblocked hash review admission s snapshot now assignmentID assignmentEpoch kind) :
    ∃ b ∈ s.assignments.rows, ∃ issued auditEvents, s.issueWorkerCommands hash review snapshot now
        admission = .ok (s.commanded (boundCommand hash snapshot now b issued) auditEvents) ∧
      ((b.id = assignmentID ∧ b.epoch = assignmentEpoch ∧ issued = kind) ∨
        b.id < assignmentID ∧ ¬EffectStands s ((b.id, b.epoch), issued)) := by
  obtain ⟨a, ha, rfl, rfl, hplan⟩ := hpass.needed
  -- the first assignment in order with a planned command is at or before the one that waits
  have hplanned : a ∈ s.assignments.rows.filter fun b => (s.planFor hash snapshot now b).isSome :=
    mem_filter.2 ⟨ha, by rw [hplan]; rfl⟩
  obtain ⟨b, hfirst⟩ := ne_none_iff_exists'.1 (mt (argmin_eq_none (f := Assignment.id)).1
    (ne_nil_of_mem hplanned))
  obtain ⟨hbrow, hsome⟩ := mem_filter.1 (argmin_mem hfirst)
  obtain ⟨command, hb⟩ := isSome_iff_exists.1 hsome
  obtain ⟨-, t, issued, ht, -, rfl, hunissued⟩ := planFor_eq_some hs hbrow hb
  have hturn : ∀ c ∈ s.assignments.rows, c.id < b.id → s.planFor hash snapshot now c = none := by
    intro c hc hlt
    by_contra hcplan
    exact not_lt_of_mem_argmin (mem_filter.2 ⟨hc, isSome_iff_ne_none.2 hcplan⟩) hfirst hlt
  have hle : b = a ∨ b.id < a.id := by
    rcases lt_trichotomy a.id b.id with hlt | heq | hgt
    · rw [hturn a ha hlt] at hplan
      cases hplan
    · exact .inl (eq_of_key_eq hbrow ha heq.symm)
    · exact .inr hgt
  have hsame : b = a → issued = kind := by
    rintro rfl
    rw [hplan] at hb
    exact (congrArg WorkerCommand.kind (some.inj hb)).symm
  have hadmitted : AllowedBy admission (s.workerRecords snapshot.workerID)
      (boundCommand hash snapshot now b issued) = true ∧
      s.workerCommandAttemptEligible review (boundCommand hash snapshot now b issued) b =
      .ok true := by
    by_cases hnew : issued.newWork = true
    · rcases hle with rfl | hlt
      · rw [hsame rfl, hkind] at hnew
        cases hnew
      · exact hpass.admitted b hbrow hlt _ hb hnew
    · refine ⟨?_, (eligible_iff ht).2 fun h => absurd h hnew⟩
      rw [Bool.not_eq_true] at hnew
      unfold AllowedBy
      cases admission with
      | none => rfl
      | some policy => simp [WorkerAdmissionPolicy.allowsCommand, boundCommand, hnew]
  obtain ⟨auditEvents, hissue⟩ := issueWorkerCommands_of_turn hfree hs hpass.session hbrow hb hturn
    hadmitted.1 hadmitted.2
  refine ⟨b, hbrow, issued, auditEvents, hissue, ?_⟩
  rcases hle with rfl | hlt
  · exact .inl ⟨rfl, rfl, hsame rfl⟩
  · refine .inr ⟨hlt, ?_⟩
    rintro ⟨r, hr, hid, hepoch, hrkind, hstands⟩
    exact hunissued r hr ⟨hid, hepoch, hrkind, hpass.session.coordinator ▸ hstands⟩

end

/-! ## Whole runs -/

/-- All effects of the assignments in front. -/
def effectsBefore (s : Store) (assignmentID : String) :
    Finset ((String × Int) × WorkerCommandKind) :=
  ((s.assignments.rows.filter fun b => b.id < assignmentID).map fun b => (b.id, b.epoch)).toFinset ×ˢ
    {.prepare, .dispatch, .stop, .collect}

theorem card_effectsBefore_le (s : Store) (assignmentID : String) :
    (effectsBefore s assignmentID).card ≤
      4 * (s.assignments.rows.filter fun b => b.id < assignmentID).length := by
  unfold effectsBefore
  rw [Finset.card_product, mul_comm 4]
  refine Nat.mul_le_mul ?_ (by decide)
  exact (toFinset_card_le _).trans (length_map _).le

theorem mem_effectsBefore {s : Store} {assignmentID : String} {b : Assignment}
    (hb : b ∈ s.assignments.rows) (hlt : b.id < assignmentID) (kind : WorkerCommandKind) :
    ((b.id, b.epoch), kind) ∈ effectsBefore s assignmentID := by
  refine Finset.mem_product.2
    ⟨mem_toFinset.2 (mem_map.2 ⟨b, mem_filter.2 ⟨hb, by simpa using hlt⟩, rfl⟩), ?_⟩
  cases kind <;> simp

/-- How many of the effects in front stand. -/
def standingBefore (start : Store) (assignmentID : String) (s : Store) : Nat :=
  ((effectsBefore start assignmentID).filter (EffectStands s)).card

/-- In every run, a stop or collect command an assignment waits for is on record after more than
four passes for each assignment in front of it, if no command in front is refused. -/
theorem stop_and_collect_get_their_turn (hash : CoordinatorHash) (hfree : hash.CollisionFree)
    (history : List CommandOp) (review : Attempt → Except Err String)
    (admission : Option WorkerAdmissionPolicy) (assignmentID : String) (assignmentEpoch : Int)
    (kind : WorkerCommandKind) (hkind : kind.newWork = false) (ops : List PassOp)
    (hunblocked : Runs.Along (passStep hash review admission)
      (fun s op => ∀ snapshot now, op = .pass snapshot now →
        CommandOnRecord s assignmentID assignmentEpoch kind ∨
          PassUnblocked hash review admission s snapshot now assignmentID assignmentEpoch kind)
      (Runs.run (commandStep hash) {} history) ops)
    (hpasses : 4 * ((Runs.run (commandStep hash) {} history).assignments.rows.filter
      fun b => b.id < assignmentID).length < ops.countP PassOp.isPass) :
    CommandOnRecord (Runs.run (passStep hash review admission)
      (Runs.run (commandStep hash) {} history) ops) assignmentID assignmentEpoch kind := by
  have hstart := (commandsOnRecord_empty hash).run history
  generalize run (commandStep hash) {} history = start at *
  refine goal_of_progress (I := fun s => CommandsOnRecord hash s ∧ KeepsEffects start s)
    (G := fun s => CommandOnRecord s assignmentID assignmentEpoch kind)
    (m := standingBefore start assignmentID) (n := (effectsBefore start assignmentID).card)
    (c := PassOp.isPass) ?_ ?_ ?_ ?_ ?_
    ⟨hstart, KeepsEffects.refl start⟩ hunblocked ?_
  · rintro s op ⟨hs, hkept⟩ -
    exact ⟨hs.passStep op, KeepsEffects.trans _ _ _ hkept (passStep_keepsEffects s op)⟩
  · intro s _
    exact Finset.card_filter_le _ _
  · intro s op _ _
    exact Finset.card_le_card
      (Finset.monotone_filter_right _ fun _ _ => (passStep_keepsEffects s op).standing)
  · intro s op _ _ hrecorded
    exact (passStep_keepsEffects s op).recorded hrecorded
  · rintro s op ⟨hs, hkept⟩ hcondition hpass hnot
    cases op with
    | pass snapshot now =>
      obtain ⟨b, hb, issued, auditEvents, hissue, hturn⟩ :=
        ((hcondition snapshot now rfl).resolve_left hnot).issues hfree hs hkind
      have hstep : passStep hash review admission s (.pass snapshot now) =
          s.commanded (boundCommand hash snapshot now b issued) auditEvents := by
        simp only [passStep, PassOp.commit, hissue]
        rfl
      have hrow : ({ command := boundCommand hash snapshot now b issued } : WorkerCommandRecord) ∈
          (s.commanded (boundCommand hash snapshot now b issued) auditEvents).workerCommands.rows :=
        mem_commanded.2 (.inl rfl)
      rcases hturn with ⟨hid, hepoch, rfl⟩ | ⟨hlt, hnew⟩
      · left
        rw [hstep]
        exact ⟨_, hrow, hid, hepoch, rfl⟩
      · right
        obtain ⟨a, ha, hid, hepoch⟩ := hkept.rows b hb
        have hmem : ((b.id, b.epoch), issued) ∈ effectsBefore start assignmentID := by
          rw [← hid, ← hepoch]
          exact mem_effectsBefore ha (hid ▸ hlt) issued
        have hstands : EffectStands (passStep hash review admission s (.pass snapshot now))
            ((b.id, b.epoch), issued) := by
          rw [hstep]
          exact ⟨_, hrow, rfl, rfl, rfl,
            .inr ((hcondition snapshot now rfl).resolve_left hnot).session.coordinator⟩
        refine Finset.card_lt_card (Finset.ssubset_iff_subset_ne.2 ⟨?_, fun heq => hnew ?_⟩)
        · exact Finset.monotone_filter_right _ fun _ _ => (passStep_keepsEffects s _).standing
        · have hafter := Finset.mem_filter.2 ⟨hmem, hstands⟩
          rw [← heq] at hafter
          exact (Finset.mem_filter.1 hafter).2
    | acknowledge | report | reconcile => cases hpass
  · exact lt_of_le_of_lt (card_effectsBefore_le start assignmentID)
      (lt_of_lt_of_le hpasses (Nat.le_add_left _ _))

/-! ## A start in front of a stop -/

def idleSession : WorkerSnapshot := { observingSession "first" 1 with assignments := [] }

def queuedStop : Assignment :=
  { id := "b", attemptID := "u", workerID := "worker", workerEpoch := "first", state := .claimed
    epoch := 1 }

def meteredQueue : List CommandOp :=
  [.saveAttempt { id := "t", progress := .active, control := .preparing, assignmentID := "a" },
    .saveAssignment
      { id := "a", attemptID := "t", workerID := "worker", workerEpoch := "first", state := .claimed
        epoch := 1, route := { quotaPoolID := "metered" } },
    .saveAttempt { id := "u", progress := .cancelled, control := .running, assignmentID := "b" },
    .saveAssignment queuedStop,
    .report idleSession true false]

theorem meteredQueue_state :
    let s := Runs.run (commandStep codeHash) {} meteredQueue
    s.loadWorkerSnapshot "worker" = some idleSession ∧ s.coordinatorEpoch = 1 ∧
      queuedStop ∈ s.assignments.rows ∧ s.workerCommands.rows = [] ∧
      s.planFor codeHash idleSession 2 queuedStop =
        some (boundCommand codeHash idleSession 2 queuedStop .stop) ∧
      ((((s.assignments.rows.filter fun a => a.workerID = idleSession.workerID).findSome?
        (s.planFor codeHash idleSession 2)).toList).filter
          (AllowedBy (some {}) (s.workerRecords idleSession.workerID))) = [] := by
  decide

def openPool : Option WorkerAdmissionPolicy := some { openQuotaPools := ["metered"] }

def queuePasses (n : Nat) : Store :=
  Runs.run (passStep codeHash (fun _ => .ok "") openPool)
    (Runs.run (commandStep codeHash) {} meteredQueue) (replicate n (.pass idleSession 2))

/-- With the pool open the first pass issues the start, and the second the stop behind it. -/
theorem queuePasses_state :
    (∀ s ∈ [queuePasses 0, queuePasses 1],
      (s.loadWorkerSnapshot "worker" = some idleSession ∧ s.coordinatorEpoch = 1) ∧
      (queuedStop ∈ s.assignments.rows ∧ s.planFor codeHash idleSession 2 queuedStop =
        some (boundCommand codeHash idleSession 2 queuedStop .stop)) ∧
      ∀ b ∈ s.assignments.rows, b.id < "b" → ∀ command ∈ s.planFor codeHash idleSession 2 b,
        AllowedBy openPool (s.workerRecords "worker") command = true ∧
          s.workerCommandAttemptEligible (fun _ => .ok "") command b = .ok true) ∧
    (queuePasses 1).workerCommands.rows.map (fun r => (r.command.assignmentID, r.command.kind)) =
      [("a", .prepare)] ∧
    ∃ r ∈ (queuePasses 2).workerCommands.rows, r.command.assignmentID = "b" ∧
      r.command.assignmentEpoch = 1 ∧ r.command.kind = .stop := by
  decide +kernel

theorem admitted_start_lets_stop_through : CommandOnRecord (queuePasses 5) "b" 1 .stop := by
  obtain ⟨hbefore, -, hafter⟩ := queuePasses_state
  have hunblocked : ∀ s ∈ [queuePasses 0, queuePasses 1], ∀ snapshot now,
      PassOp.pass idleSession 2 = .pass snapshot now → CommandOnRecord s "b" 1 .stop ∨
        PassUnblocked codeHash (fun _ => .ok "") openPool s snapshot now "b" 1 .stop := by
    rintro s hs _ _ ⟨⟩
    obtain ⟨⟨hstored, hepoch⟩, ⟨hrow, hplan⟩, hadmitted⟩ := hbefore s hs
    exact .inr ⟨⟨hstored, hepoch.symm, by decide, by decide⟩, fun _ => ⟨"", rfl⟩,
      ⟨queuedStop, hrow, rfl, rfl, hplan⟩,
      fun b hb hlt command hcommand _ => hadmitted b hb hlt command hcommand⟩
  simp only [mem_cons, not_mem_nil, or_false, forall_eq_or_imp, forall_eq] at hunblocked
  refine stop_and_collect_get_their_turn codeHash codeHash_collisionFree meteredQueue
    (fun _ => .ok "")
    openPool "b" 1 .stop rfl (replicate 5 (.pass idleSession 2)) ⟨hunblocked.1, hunblocked.2, ?_⟩
      (by decide)
  -- after the second pass the stop is on record, and no pass takes it off
  exact along_of_invariant (I := fun s => CommandOnRecord s "b" 1 .stop)
    (fun s op => (passStep_keepsEffects s op).recorded) (fun _ _ h _ _ _ => .inl h) hafter _

/-- No number of passes issues the stop behind a start that the policy withholds. -/
theorem withheld_start_starves_stop :
    ¬∀ (hash : CoordinatorHash) (history : List CommandOp) (review : Attempt → Except Err String)
      (admission : Option WorkerAdmissionPolicy) (snapshot : WorkerSnapshot) (now : Time)
      (a : Assignment) (kind : WorkerCommandKind), hash.CollisionFree →
      (∀ t, ∃ refusal, review t = .ok refusal) → kind.newWork = false →
      LiveSession (Runs.run (commandStep hash) {} history) snapshot now →
      a ∈ (Runs.run (commandStep hash) {} history).assignments.rows →
      (Runs.run (commandStep hash) {} history).planFor hash snapshot now a =
        some (boundCommand hash snapshot now a kind) →
      ∃ n, CommandOnRecord (Runs.run (passStep hash review admission)
        (Runs.run (commandStep hash) {} history) (List.replicate n (.pass snapshot now)))
        a.id a.epoch kind := by
  intro h
  obtain ⟨hstored, hepoch, hrow, hcommands, hplan, hwithheld⟩ := meteredQueue_state
  have hsession : LiveSession (run (commandStep codeHash) {} meteredQueue) idleSession 2 :=
    ⟨hstored, hepoch.symm, by decide, by decide⟩
  obtain ⟨n, r, hr, -⟩ := h codeHash meteredQueue (fun _ => .ok "") (some {}) idleSession 2
    queuedStop .stop codeHash_collisionFree (fun _ => ⟨"", rfl⟩) rfl hsession hrow hplan
  have hs := (commandsOnRecord_empty codeHash).run meteredQueue
  have hstep : passStep codeHash (fun _ => .ok "") (some {})
      (run (commandStep codeHash) {} meteredQueue) (.pass idleSession 2) =
        run (commandStep codeHash) {} meteredQueue := by
    simp only [passStep, PassOp.commit]
    rw [issueWorkerCommands_eq (hsession.identified hs) hsession, hwithheld]
    rfl
  have hstuck : run (passStep codeHash (fun _ => .ok "") (some {}))
      (run (commandStep codeHash) {} meteredQueue)
      (replicate n (.pass idleSession 2)) = run (commandStep codeHash) {} meteredQueue := by
    refine run_eq_self fun op hop => ?_
    rw [eq_of_mem_replicate hop]
    exact hstep
  rw [hstuck, hcommands] at hr
  cases hr

end Steward
