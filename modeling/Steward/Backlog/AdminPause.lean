import Steward.Backlog.ThrottleDirectives

/-!
# How long an administrator's pause holds

`PlanAdminPauseDelivery` stores the pause as a throttle record like those of the quota directives,
and the reconciliations treat it as one. The attempt stays paused while its pool is shut. Once the
pool is open or recovering it is resumed, whether or not the administrator asked for that.
-/

namespace Steward

open Except Runs Table List

variable {t : ThrottleAttemptTransition}

section

variable (hash : CoordinatorHash)

def planAdminPauseDelivery (directiveID reason : String) (hard : Bool) (b : ThrottleAttemptBinding)
    (now : Time) : Except Err ThrottleAttemptTransition := do
  refuseWhen (directiveID = "" ∨ Text.blank reason ∨ now = 0)
    { text := "admin pause directive, reason, and time are required" }
  validateThrottleBinding b
  refuseWhen (b.assignment.route.quotaPoolID = "")
    { text := "admin pause assignment quota pool is required" }
  let d : ThrottleDirective :=
    { id := directiveID, quotaPoolID := b.assignment.route.quotaPoolID
      severity := if hard then .stop else .drain, reason := reason, createdAt := now }
  return { record := newThrottleRecord hash now d b (if hard then .hardStop else .drain) }

theorem planAdminPauseDelivery_kind {directiveID reason : String} {hard : Bool}
    {b : ThrottleAttemptBinding} {now : Time}
    (h : planAdminPauseDelivery hash directiveID reason hard b now = .ok t) :
    t.record.command.kind ≠ .resume := by
  replace h := past_guard h
  obtain ⟨-, -, h⟩ := of_bind h
  replace h := past_guard h
  cases h
  cases hard <;> simp [newThrottleRecord, throttleCommand]

end

namespace Store

section

variable (s : Store) (attempt : Attempt) (t : ThrottleAttemptTransition)

def pauseOutcome (detail : String) : Err :=
  { text := "invalid admin command outcome: " ++ detail, sentinel := some .invalidAdminCommandOutcome }

/-- The worker of the assignment, in the assignment's session, reports it in the workspace. -/
def pauseObserved (assignment : Assignment) (workspacePath : String) : Bool :=
  s.workerSnapshots.rows.any fun w =>
    w.workerID = assignment.workerID ∧ w.workerEpoch = assignment.workerEpoch ∧
      w.assignments.any fun o =>
        o.assignmentID = assignment.id ∧ o.assignmentEpoch = assignment.epoch ∧
          o.threadID = assignment.threadID ∧ o.workspacePath = workspacePath

/-- The record of a pause command, for the attempt as the command leaves it. -/
def insertAdminPauseIntent : Except Err Store := do
  let r := t.record
  let c := r.command
  refuseWhen
    (attempt.control ≠ .draining ∨ t.expectedRevision ≠ 0 ∨ r.revision ≠ 1 ∨ r.directiveID = "" ∨
      r.attemptID ≠ attempt.id ∨ c.id = "" ∨ c.directiveID ≠ r.directiveID ∨
      c.attemptID ≠ attempt.id ∨
      c.assignmentID ≠ attempt.assignmentID ∨ c.workerID = "" ∨ c.threadID = "" ∨
      c.workspacePath = "" ∨ c.quotaPoolID = "" ∨ r.delivery ≠ .pending ∨ r.control ≠ .draining ∨
      (c.kind ≠ .drain ∧ c.kind ≠ .hardStop))
    (pauseOutcome "pause delivery intent is invalid")
  match s.assignments.get? attempt.assignmentID with
  | none =>
    .error { text := "load pause assignment " ++ quote attempt.assignmentID, sentinel := some .noRows }
  | some assignment =>
    refuseWhen (assignment.attemptID ≠ attempt.id ∨ assignment.workerID ≠ c.workerID ∨
        assignment.epoch ≠ c.assignmentEpoch ∨ assignment.threadID ≠ c.threadID ∨
        assignment.workerEpoch = "" ∨ assignment.route.quotaPoolID ≠ c.quotaPoolID ∨
        assignment.route ≠ c.route)
      (pauseOutcome "pause delivery identity changed")
    refuseWhen (s.pauseObserved assignment c.workspacePath = false)
      (pauseOutcome "pause worker observation identity changed")
    if ← s.compareThrottleAttemptTransition t then return s
    else
      refuseWhen ((s.throttleAttempts.get? r.key).isSome)
        { text := "save admin pause intent " ++ quote r.directiveID ++ "/" ++ quote r.attemptID
          sentinel := some .constraint }
      return s.saveThrottleAttempt r

variable {s attempt t}

theorem insertAdminPauseIntent_rows {paused : Store}
    (h : s.insertAdminPauseIntent attempt t = .ok paused)
    {r : ThrottleAttemptRecord} (hr : r ∈ paused.throttleAttempts.rows) :
    r = t.record ∨ (t.record.key ≠ r.key ∧ r ∈ s.throttleAttempts.rows) := by
  replace h := past_guard h
  split at h
  · cases h
  · replace h := past_guard (past_guard h)
    obtain ⟨replayed, hcompare, h⟩ := of_bind h
    cases replayed with
    | true =>
      cases h
      by_cases hkey : t.record.key = r.key
      · have hstored := compareThrottleAttemptTransition_replayed hcompare
        rw [hkey, mem_rows_iff.1 hr] at hstored
        exact .inl (Option.some.inj hstored)
      · exact .inr ⟨hkey, hr⟩
    | false =>
      replace h := past_guard h
      cases h
      rcases mem_put_iff.1 hr with rfl | ⟨hr, hkey⟩
      · exact .inl rfl
      · exact .inr ⟨Ne.symm hkey, hr⟩

end

end Store

/-! ## Resumes that are not new -/

/-- No admission on record opens the pool. -/
def Shut (q : String) (admissions : List QuotaAdmissionRecord) : Prop :=
  ∀ a ∈ admissions, a.quotaPoolID = q → a.admission ≠ .open ∧ a.admission ≠ .recovering

/-- A resume on the pool is one that stood under the same key before. -/
def Known (q : String) (earlier : List ThrottleAttemptRecord) (r : ThrottleAttemptRecord) : Prop :=
  r.command.kind = .resume → r.command.quotaPoolID = q →
    ∃ r₀ ∈ earlier, r₀.key = r.key ∧ r₀.command = r.command

section

variable {hash : CoordinatorHash} {previous earlier : List ThrottleAttemptRecord} {now : Time}
  {q : String}
  {d : ThrottleDirective} {kind : ThrottleCommandKind} {plan : ThrottlePlan}
    {r : ThrottleAttemptRecord}
  {b : ThrottleAttemptBinding} {bindings : List ThrottleAttemptBinding}
  {directives : List ThrottleDirective} {ack : ThrottleAcknowledgement}
  {acks seen : List ThrottleAcknowledgement} {ts : List ThrottleAttemptTransition}

theorem known_of_kind (h : r.command.kind ≠ .resume) : Known q earlier r :=
  fun hresume => absurd hresume h

theorem Known.of_same {r' : ThrottleAttemptRecord} (h : Known q earlier r) (hkey : r'.key = r.key)
    (hcommand : r'.command = r.command) : Known q earlier r' := by
  intro hkind hpool
  rw [hcommand] at hkind hpool
  rw [hkey, hcommand]
  exact h hkind hpool

theorem commandKindForDirective_ne_resume (h : commandKindForDirective d = .ok kind) :
    kind ≠ .resume := by
  replace h := past_guard h
  split at h <;> cases h <;> decide

theorem planThrottleDeliveries_kind
    (h : planThrottleDeliveries hash previous now directives bindings = .ok plan) :
    ∀ t ∈ plan.transitions, t.record.command.kind ≠ .resume := by
  replace h := past_guard h
  iterate 2 obtain ⟨-, -, h⟩ := of_bind h
  obtain ⟨plan, hplan, h⟩ := of_bind h
  cases h
  intro t ht
  obtain ⟨d, kind, part, hkind, hpart, ht⟩ := (planDirectives_parts hplan).2 t ((mem_insertionSort _).1 ht)
  obtain ⟨b, -, p, hp, ht⟩ := ((mem_planDirective hpart).1 t).1 ht
  rw [(planDelivery_spec hp).1 t ht]
  exact commandKindForDirective_ne_resume hkind

theorem planThrottleDeadlineExpirations_kind
    (h : planThrottleDeadlineExpirations hash previous now = .ok plan) :
    ∀ t ∈ plan.transitions, t.record.command.kind ≠ .resume := by
  replace h := past_guard h
  obtain ⟨-, -, h⟩ := of_bind h
  cases h
  intro t ht
  obtain ⟨r, -, hr⟩ := mem_filterMap.1 ((mem_insertionSort _).1 ht)
  unfold expireDrain at hr
  split_ifs at hr
  cases hr
  simp [followupThrottleCommand]

theorem planResumes_shut {admissions : List QuotaAdmissionRecord} (hshut : Shut q admissions)
    (pools : List QuotaPool) (rs : List ThrottleAttemptRecord) :
    ∀ t ∈ (planResumes hash now admissions pools rs).transitions,
      t.record.command.quotaPoolID ≠ q := by
  induction rs generalizing pools with
  | nil => simp [planResumes]
  | cons r rest ih =>
    intro t ht
    have hsplit : t ∈ (planResume hash now admissions pools r).2.transitions ∨
        t ∈ (planResumes hash now admissions (planResume hash now admissions pools r).1
          rest).transitions := mem_append.1 ht
    rcases hsplit with ht | ht
    · rcases planResume_cases hash now admissions pools r with h | h |
        ⟨pool, admission, -, hadmission, hpool, hopen, -, h⟩
      · simp [h] at ht
      · simp [h] at ht
      · rw [h] at ht
        cases mem_singleton.1 ht
        rintro rfl
        obtain ⟨hnot, hnot'⟩ := hshut admission hadmission hpool
        exact hopen.elim hnot hnot'
    · exact ih _ t ht

theorem planThrottleResumes_known {admissions : List QuotaAdmissionRecord} {pools : List QuotaPool}
    (hshut : Shut q admissions)
    (h : planThrottleResumes hash previous now admissions pools = .ok plan) :
    ∀ t ∈ plan.transitions, Known q earlier t.record := by
  replace h := past_guard h
  iterate 3 obtain ⟨-, -, h⟩ := of_bind h
  cases h
  rintro t ht - hpool
  exact absurd hpool (planResumes_shut hshut _ _ t ((mem_insertionSort _).1 ht))

/-! ## Answers -/

theorem applyThrottleAcknowledgement_same {r' : ThrottleAttemptRecord}
    (h : applyThrottleAcknowledgement r ack = .ok r') : r'.key = r.key ∧ r'.command = r.command := by
  unfold applyThrottleAcknowledgement at h
  split_ifs at h
  · cases h
    exact ⟨rfl, rfl⟩
  · split at h
    · cases h
      exact ⟨rfl, rfl⟩
    · obtain ⟨checkpoint, -, h⟩ := of_bind h
      cases h
      exact ⟨rfl, rfl⟩
    all_goals
      cases h <;> exact ⟨rfl, rfl⟩

theorem planAcknowledgement_same (h : planAcknowledgement previous now ack = .ok (some t)) :
    ∃ r ∈ previous, r.command.id = ack.commandID ∧ t.record.key = r.key ∧
    t.record.command = r.command := by
  unfold planAcknowledgement at h
  split at h
  · split at h
    · cases h
    · split_ifs at h
      cases h
  · rename_i r hr
    split_ifs at h
    · cases h
    · obtain ⟨applied, happlied, h⟩ := of_bind h
      cases h
      obtain ⟨hkey, hcommand⟩ := applyThrottleAcknowledgement_same happlied
      exact ⟨r, mem_of_find?_eq_some hr, by simpa using find?_some hr, hkey, hcommand⟩

theorem planAcknowledgements_same (h : planAcknowledgements previous now acks seen = .ok ts) :
    ∀ t ∈ ts, ∃ r ∈ previous, (∃ ack ∈ acks, ack.commandID = r.command.id) ∧ t.record.key = r.key ∧
      t.record.command = r.command := by
  induction acks generalizing seen ts with
  | nil =>
    cases h
    simp
  | cons ack rest ih =>
    replace h := past_guard h
    split at h
    · split_ifs at h
      intro t ht
      obtain ⟨r, hr, ⟨ack, hack, hid⟩, hsame⟩ := ih h t ht
      exact ⟨r, hr, ⟨ack, .tail _ hack, hid⟩, hsame⟩
    · obtain ⟨first, hfirst, h⟩ := of_bind h
      obtain ⟨others, hothers, h⟩ := of_bind h
      cases h
      intro t ht
      rcases mem_append.1 ht with ht | ht
      · cases Option.mem_toList.1 ht
        obtain ⟨r, hr, hid, hsame⟩ := planAcknowledgement_same hfirst
        exact ⟨r, hr, ⟨ack, .head _, hid.symm⟩, hsame⟩
      · obtain ⟨r, hr, ⟨ack, hack, hid⟩, hsame⟩ := ih hothers t ht
        exact ⟨r, hr, ⟨ack, .tail _ hack, hid⟩, hsame⟩

theorem planThrottleAcknowledgements_same
    (h : planThrottleAcknowledgements previous now acks = .ok ts) :
    ∀ t ∈ ts, ∃ r ∈ previous, (∃ ack ∈ acks, ack.commandID = r.command.id) ∧ t.record.key = r.key ∧
      t.record.command = r.command := by
  replace h := past_guard h
  obtain ⟨-, -, h⟩ := of_bind h
  obtain ⟨planned, hplanned, h⟩ := of_bind h
  cases h
  intro t ht
  obtain ⟨r, hr, ⟨ack, hack, hid⟩, hsame⟩ :=
    planAcknowledgements_same hplanned t ((mem_insertionSort _).1 ht)
  exact ⟨r, hr, ⟨ack, (mem_insertionSort _).1 hack, hid⟩, hsame⟩

end

namespace Store

/-! ## What a reconciliation keeps -/

/-- The pool is shut, and no record holds a new resume on it. -/
structure Holds (q : String) (earlier : List ThrottleAttemptRecord) (s : Store) : Prop where
  shut : Shut q s.quotaAdmissions.rows
  known : ∀ r ∈ s.throttleAttempts.rows, Known q earlier r

section

variable {q : String} {earlier : List ThrottleAttemptRecord} {s s' : Store} {x : ThrottleExchange}

theorem commitThrottleIntent_holds {ts : List ThrottleAttemptTransition} (hs : Holds q earlier s)
    (hts : ∀ t ∈ ts, Known q earlier t.record) (h : s.commitThrottleIntent x ts = .ok s') :
    Holds q earlier s' := by
  unfold commitThrottleIntent at h
  split_ifs at h
  · cases h
    exact hs
  · obtain ⟨-, -, h⟩ := of_bind h
    refine foldlM_invariant (fun s₁ t ht s₂ hs₁ hstep => ?_) hs h
    have hthrottled := commitThrottleAttemptTransition_ok hstep
    refine ⟨hthrottled.admissions.symm ▸ hs₁.shut, fun r hr => ?_⟩
    rw [mem_rows_iff, hthrottled.record] at hr
    split_ifs at hr
    · exact Option.some.inj hr ▸ hts t ((mem_insertionSort _).1 ht)
    · exact hs₁.known r (mem_rows_iff.2 hr)

theorem throttleStage_holds {worker : String} {stage : ThrottleStage}
    {planned : List ThrottleAttemptRecord → Except Err ThrottlePlan} (hs : Holds q earlier s)
    (hplanned : ∀ previous plan, planned previous = .ok plan →
      ∀ t ∈ plan.transitions, Known q earlier t.record) :
    Holds q earlier (s.throttleStage x worker stage planned).1 := by
  unfold throttleStage
  dsimp only
  split
  · exact hs
  · rename_i plan hplan
    have hts := hplanned _ plan hplan
    unfold reconcilePlannedThrottleCommands
    split
    · exact hs
    · rename_i mid hmid
      replace hmid := commitThrottleIntent_holds hs hts hmid
      split_ifs
      · exact hmid
      · dsimp only
        split
        · exact hmid
        · rename_i answers hanswers
          -- The answers concern records that were loaded or planned.
          have hknown : ∀ t ∈ answers, Known q earlier t.record := by
            intro t ht
            obtain ⟨r, hr, -, hkey, hcommand⟩ := planThrottleAcknowledgements_same hanswers t ht
            refine Known.of_same ?_ hkey hcommand
            rcases mem_putAll hr with hr | hr
            · obtain ⟨u, hu, rfl⟩ := mem_map.1 hr
              exact hts u hu
            · rcases mem_putAll (t := {}) hr.1 with hr | ⟨hr, -⟩
              · exact hs.known r (mem_of_mem_filter hr)
              · cases hr
          split
          · exact hmid
          · rename_i last hlast
            exact commitThrottleIntent_holds hmid hknown hlast

theorem reconcileWorkerThrottle_holds (hs : Holds q earlier s) (snapshot : WorkerSnapshot)
    (directives : List ThrottleDirective) (pools : List QuotaPool) :
    Holds q earlier (s.reconcileWorkerThrottle x snapshot directives pools).1 := by
  have hpending : Holds q earlier
      (s.throttleStage x snapshot.workerID .pending planPendingThrottleCommands).1 := by
    refine throttleStage_holds hs fun previous plan h => ?_
    obtain ⟨-, -, h⟩ := of_bind h
    cases h
    simp
  unfold reconcileWorkerThrottle
  dsimp only
  split
  · exact hpending
  · generalize hd : throttleStage x _ _ .delivery _ = delivered
    have hdelivery : Holds q earlier delivered.1 := by
      rw [← hd]
      exact throttleStage_holds hpending fun _ _ h t ht =>
        known_of_kind (planThrottleDeliveries_kind h t ht)
    split
    · exact hdelivery
    · generalize he : throttleStage x _ _ .expiry _ = expired
      have hexpiry : Holds q earlier expired.1 := by
        rw [← he]
        exact throttleStage_holds hdelivery fun _ _ h t ht =>
          known_of_kind (planThrottleDeadlineExpirations_kind h t ht)
      split
      · exact hexpiry
      · exact throttleStage_holds hexpiry fun _ _ h => planThrottleResumes_known hexpiry.shut h

/-! ## Runs of reconciliations -/

/-- A reconciliation with one worker, under the admissions that stand at its time. -/
structure Reconciliation where
  admissions : Table QuotaAdmissionRecord.quotaPoolID
  directives : List ThrottleDirective
  exchange : WorkerExchange

def reconciled (s : Store) (y : Reconciliation) : Store :=
  ({ s with quotaAdmissions := y.admissions }.exchange y.directives y.exchange).1

theorem run_reconciled_known (earlier : List ThrottleAttemptRecord) {ys : List Reconciliation}
    (hs : ∀ r ∈ s.throttleAttempts.rows, Known q earlier r)
    (hshut : ∀ y ∈ ys, Shut q y.admissions.rows) :
    ∀ r ∈ (run reconciled s ys).throttleAttempts.rows, Known q earlier r := by
  refine run_invariant (I := fun s : Store => ∀ r ∈ s.throttleAttempts.rows, Known q earlier r)
    (P := fun _ y => Shut q y.admissions.rows) (fun s y hs hy => ?_) hs
    (along_of_forall fun _ => hshut)
  have hbefore : Holds q earlier ({ s with quotaAdmissions := y.admissions }.exchanging y.exchange) :=
    ⟨hy, hs⟩
  exact (reconcileWorkerThrottle_holds hbefore y.exchange.snapshot y.directives
    y.exchange.pools).known

/-- While the pool of a paused attempt is shut, no resume on it is recorded that did not stand
before the pause, under another directive or for another attempt. -/
theorem admin_pause_holds_while_shut {hash : CoordinatorHash} {directiveID reason : String}
    {hard : Bool} {b : ThrottleAttemptBinding} {now : Time} {attempt : Attempt}
    {paused : Store} (hplan : planAdminPauseDelivery hash directiveID reason hard b now = .ok t)
    (hinsert : s.insertAdminPauseIntent attempt t = .ok paused) (ys : List Reconciliation)
    (hshut : ∀ y ∈ ys, Shut b.assignment.route.quotaPoolID y.admissions.rows) :
    ∀ r ∈ (run reconciled paused ys).throttleAttempts.rows, r.command.kind = .resume →
      r.command.quotaPoolID = b.assignment.route.quotaPoolID → ∃ r₀ ∈ s.throttleAttempts.rows,
          r₀.key = r.key ∧ r₀.command = r.command ∧ t.record.key ≠ r₀.key := by
  intro r hr hkind hpool
  obtain ⟨r₀, hr₀, hkey, hcommand⟩ := run_reconciled_known paused.throttleAttempts.rows
    (fun r hr _ _ => ⟨r, hr, rfl, rfl⟩) hshut r hr hkind hpool
  rcases insertAdminPauseIntent_rows hinsert hr₀ with rfl | ⟨hne, hr₀⟩
  · exact absurd (hcommand ▸ hkind) (planAdminPauseDelivery_kind hash hplan)
  · exact ⟨r₀, hr₀, hkey, hcommand, hne⟩

end

/-! ## A stopped attempt -/

def stoppedHolder : Attempt :=
  { id := "a", progress := .active, control := .draining, assignmentID := "s", revision := 2 }

def heldAssignment : Assignment :=
  { id := "s", attemptID := "a", workerID := "w", workerEpoch := "e", threadID := "h", epoch := 1
    state := .claimed, route := { workerID := "w", quotaPoolID := "q" } }

def holderStore : Store :=
  { attempts := ofList _ [stoppedHolder]
    assignments := ofList _ [heldAssignment]
    workerSnapshots := ofList _
      [{ workerID := "w", workerEpoch := "e"
         assignments := [{ assignmentID := "s", assignmentEpoch := 1, threadID := "h"
                           workspacePath := "/x" }] }] }

def holderPause : Except Err ThrottleAttemptTransition :=
  planAdminPauseDelivery zeroHash "p" "maintenance" true
    { attempt := stoppedHolder, assignment := heldAssignment, workspacePath := "/x" } 5

def stopping (admission : AdmissionState) : Reconciliation where
  admissions := ofList _ [{ quotaPoolID := "q", admission := admission }]
  directives := []
  exchange :=
    { attempts := holderStore.attempts
      assignments := holderStore.assignments
      snapshot := { workerID := "w" }
      pools := [{ id := "q", maxConcurrent := 2, activeAssignments := 1 }]
      throttle := { (slotExchange 11).throttle with
        transport := fun stage commands =>
          (if stage = .pending then commands.map fun c =>
            { commandID := c.id, attemptID := c.attemptID, accepted := true, result := .stopped
              acknowledgedAt := 11 }
          else [], []) } }

/-- The pool of the stopped attempt is closed in two reconciliations, and no resume is recorded. -/
theorem admin_pause_held_by_closed_pool : ∃ t paused,
    holderPause = .ok t ∧ holderStore.insertAdminPauseIntent stoppedHolder t = .ok paused ∧
      ∀ r ∈ (run reconciled paused [stopping .closed, stopping .closed]).throttleAttempts.rows,
        r.command.quotaPoolID = "q" → r.command.kind ≠ .resume := by
  obtain ⟨t, hplan, paused, hinsert⟩ : ∃ t, holderPause = .ok t ∧
      ∃ paused, holderStore.insertAdminPauseIntent stoppedHolder t = .ok paused := ⟨_, rfl, _, rfl⟩
  have hshut : ∀ y ∈ [stopping .closed, stopping .closed], Shut "q" y.admissions.rows := by
    unfold Shut
    decide
  refine ⟨t, paused, hplan, hinsert, fun r hr hpool hkind => ?_⟩
  obtain ⟨r₀, hr₀, -⟩ := admin_pause_holds_while_shut hplan hinsert _ hshut r hr hkind hpool
  cases hr₀

/-- With its pool open the attempt is resumed in the reconciliation that stops it. -/
theorem admin_pause_resumed_by_open_pool :
    ∃ t paused, holderPause = .ok t ∧ holderStore.insertAdminPauseIntent stoppedHolder
      t = .ok paused ∧ (reconciled paused (stopping .open)).throttleAttempts.rows.map (fun r =>
        (r.directiveID, r.attemptID, r.control, r.command.kind)) = [("p", "a", .resuming, .resume)] :=
  ⟨_, _, rfl, rfl, by decide⟩

end Store

end Steward
