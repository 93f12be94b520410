import Steward.Store.Assignments
import Steward.Store.Recovery
import Steward.Store.WorkerReconcile

/-!
# Custody of an attempt

What the transactions on assignments do to one row, as a step relation on the row alone. Every
transaction is such a step of every row.
-/

namespace Steward

open Except Table List

/-- The transactions that write assignments, and any change outside them. -/
inductive CustodyOp
  | offer (commit : AssignmentPlanCommit)
  | claim (request : AssignmentClaimRequest)
  | renew (renewal : AssignmentLeaseRenewal)
  | expire (coordinatorEpoch : Int) (now : Time)
  | observe (trs : List WorkerStateTransition)
  | recover (recovery : UnknownAssignmentRecovery)
  | environment (others : Store)

/-- The identity that an epoch keeps. -/
structure Assignment.SameEpoch (a a' : Assignment) : Prop where
  id : a'.id = a.id
  attempt : a'.attemptID = a.attemptID
  worker : a'.workerID = a.workerID
  epoch : a'.epoch = a.epoch
  lease : a'.leaseToken = a.leaseToken
  dispatch : a'.dispatchToken = a.dispatchToken

structure Assignment.NextEpoch (a a' : Assignment) : Prop where
  id : a'.id = a.id
  attempt : a'.attemptID = a.attemptID
  epoch : a'.epoch = a.epoch + 1
  lease : a'.leaseToken = epochIdentity a.leaseToken a'.epoch
  dispatch : a'.dispatchToken = epochIdentity a.dispatchToken a'.epoch
  thread : a'.threadID = epochIdentity ("thread-" ++ a.id) a'.epoch

/-- How a transaction may change a row: only a released row is offered again, only an offered row is
claimed, by a request with its identity, and an elapsed lease makes a claim unknown. -/
def CustodyOp.changes : CustodyOp → Assignment → Assignment → Prop
  | .offer _, a, a' => a.state = .released ∧ a'.state = .offered ∧ a.NextEpoch a'
  | .claim request, a, a' =>
    a.state = .offered ∧ request.assignmentID = a.id ∧ request.matches a = true ∧
      a' = leasedAssignment request a
  | .renew renewal, a, a' =>
    renewal.assignmentID = a.id ∧ renewal.matches a = true ∧ a' = renewedAssignment renewal a
  | .expire _ now, a, a' => a.state = .claimed ∧ a' = expiredAssignment now a
  | .observe _, a, a' =>
    (a.state = .claimed ∨ a.state = .unknown) ∧ a'.state ≠ .offered ∧ a.SameEpoch a'
  | .recover recovery, a, a' => a.state = .unknown ∧ a' = recoveredAssignment recovery a
  | .environment _, _, _ => False

def CustodyOp.introduces : CustodyOp → Assignment → Prop
  | .offer commit, a' =>
    a'.state = .offered ∧ ∃ item ∈ commit.items, a'.threadID = item.assignment.threadID
  | _, _ => False

def OneRowPerAttempt (s : Store) : Prop :=
  ∀ a ∈ s.assignments.rows, ∀ b ∈ s.assignments.rows, a.attemptID = b.attemptID → a = b

/-- What one transaction does to the rows. -/
structure CustodyStep (op : CustodyOp) (s s' : Store) : Prop where
  kept : ∀ a ∈ s.assignments.rows, ∃ a' ∈ s'.assignments.rows,
    a'.id = a.id ∧ a'.attemptID = a.attemptID ∧ (a' = a ∨ op.changes a a')
  new : ∀ a' ∈ s'.assignments.rows, (∃ a ∈ s.assignments.rows, a.id = a'.id) ∨ op.introduces a'
  unique : OneRowPerAttempt s → OneRowPerAttempt s'

/-! ## Steps compose -/

variable {op : CustodyOp} {a a' b : Assignment}

variable {c : Assignment}

theorem Assignment.SameEpoch.trans (h : a.SameEpoch b) (h' : b.SameEpoch c) : a.SameEpoch c :=
  ⟨h'.id.trans h.id, h'.attempt.trans h.attempt, h'.worker.trans h.worker, h'.epoch.trans h.epoch,
    h'.lease.trans h.lease, h'.dispatch.trans h.dispatch⟩

theorem leasedAssignment_same (request : AssignmentClaimRequest) (a : Assignment) :
    a.SameEpoch (leasedAssignment request a) := by
  unfold leasedAssignment Assignment.setState
  split_ifs <;> exact ⟨rfl, rfl, rfl, rfl, rfl, rfl⟩

theorem expiredAssignment_same (now : Time) (a : Assignment) :
    a.SameEpoch (expiredAssignment now a) := by
  unfold expiredAssignment Assignment.setState
  split_ifs <;> exact ⟨rfl, rfl, rfl, rfl, rfl, rfl⟩

theorem recoveredAssignment_state (recovery : UnknownAssignmentRecovery) (a : Assignment) :
    (recoveredAssignment recovery a).state = .released := by
  unfold recoveredAssignment
  split_ifs <;> simp

theorem CustodyOp.changes_cases (h : op.changes a a') : (a.SameEpoch a' ∧ a'.state ≠ .offered) ∨
      (a.state = .released ∧ a'.state = .offered ∧ a.NextEpoch a') := by
  cases op with
  | offer commit => exact .inr h
  | claim request =>
    obtain ⟨-, -, -, rfl⟩ := h
    exact .inl ⟨leasedAssignment_same request a, by simp [leasedAssignment]⟩
  | renew renewal =>
    obtain ⟨-, hmatches, rfl⟩ := h
    simp only [AssignmentLeaseRenewal.matches, decide_eq_true_eq] at hmatches
    exact .inl ⟨⟨rfl, rfl, rfl, rfl, rfl, rfl⟩, by simp [renewedAssignment, hmatches.2.2.2.2]⟩
  | expire epoch now =>
    obtain ⟨-, rfl⟩ := h
    exact .inl ⟨expiredAssignment_same now a, by simp [expiredAssignment]⟩
  | observe trs => exact .inl ⟨h.2.2, h.2.1⟩
  | recover recovery =>
    obtain ⟨-, rfl⟩ := h
    refine .inl ⟨?_, by simp [recoveredAssignment_state]⟩
    unfold recoveredAssignment Assignment.setState
    split_ifs <;> exact ⟨rfl, rfl, rfl, rfl, rfl, rfl⟩
  | environment others => exact h.elim

theorem CustodyOp.changes_ids (h : op.changes a a') : a'.id = a.id ∧ a'.attemptID = a.attemptID := by
  rcases changes_cases h with ⟨hsame, -⟩ | ⟨-, -, hnext⟩
  · exact ⟨hsame.id, hsame.attempt⟩
  · exact ⟨hnext.id, hnext.attempt⟩

theorem CustodyOp.changes_trans (h : op.changes a b) (h' : op.changes b c) : op.changes a c := by
  cases op with
  | offer commit => exact absurd (h.2.1.symm.trans h'.1) (by decide)
  | claim request =>
    obtain ⟨-, -, -, rfl⟩ := h
    exact absurd h'.1 (by simp [leasedAssignment])
  | renew renewal =>
    obtain ⟨hid, hmatches, rfl⟩ := h
    obtain ⟨-, -, rfl⟩ := h'
    exact ⟨hid, hmatches, rfl⟩
  | expire epoch now =>
    obtain ⟨-, rfl⟩ := h
    exact absurd h'.1 (by simp [expiredAssignment])
  | observe trs => exact ⟨h.1, h'.2.1, h.2.2.trans h'.2.2⟩
  | recover recovery =>
    obtain ⟨-, rfl⟩ := h
    exact absurd h'.1 (by simp [recoveredAssignment_state])
  | environment others => exact h.elim

theorem CustodyOp.not_changes_of_introduces (h : op.introduces a) : ¬op.changes a b := by
  cases op with
  | offer commit => exact fun h' => absurd (h.1.symm.trans h'.1) (by decide)
  | _ => exact h.elim

theorem CustodyStep.refl (op : CustodyOp) (s : Store) : CustodyStep op s s :=
  ⟨fun a ha => ⟨a, ha, rfl, rfl, .inl rfl⟩, fun a ha => .inl ⟨a, ha, rfl⟩, id⟩

theorem CustodyStep.trans (s s' s'' : Store) (h : CustodyStep op s s')
    (h' : CustodyStep op s' s'') : CustodyStep op s s'' := by
  refine ⟨fun a ha => ?_, fun c hc => ?_, fun hs => h'.unique (h.unique hs)⟩
  · obtain ⟨b, hb, hbid, hbatt, hab⟩ := h.kept a ha
    obtain ⟨c, hc, hcid, hcatt, hbc⟩ := h'.kept b hb
    refine ⟨c, hc, hcid.trans hbid, hcatt.trans hbatt, ?_⟩
    rcases hab with rfl | hab
    · exact hbc
    · rcases hbc with rfl | hbc
      · exact .inr hab
      · exact .inr (CustodyOp.changes_trans hab hbc)
  · rcases h'.new c hc with ⟨b, hb, hbid⟩ | hnew
    · rcases h.new b hb with ⟨a, ha, haid⟩ | hintro
      · exact .inl ⟨a, ha, haid.trans hbid⟩
      · obtain ⟨c', hc', hcid, -, hchange⟩ := h'.kept b hb
        rw [eq_of_key_eq hc' hc (hcid.trans hbid)] at hchange
        rcases hchange with rfl | hchange
        · exact .inr hintro
        · exact absurd hchange (CustodyOp.not_changes_of_introduces hintro)
    · exact .inr hnew

theorem CustodyStep.of_rows_eq {s s' : Store} (h : s'.assignments = s.assignments) :
    CustodyStep op s s' := by
  have hstep := CustodyStep.refl op s
  refine ⟨fun a ha => ?_, fun a ha => ?_, fun hs => ?_⟩
  · rw [h]
    exact hstep.kept a ha
  · rw [h] at ha
    exact hstep.new a ha
  · intro a ha b hb
    rw [h] at ha hb
    exact hs a ha b hb

theorem oneRowPerAttempt_of_put {s s' : Store} (hput : s'.assignments = s.assignments.put a')
    (hother : ∀ b ∈ s.assignments.rows, b.id ≠ a'.id → b.attemptID ≠ a'.attemptID)
    (hs : OneRowPerAttempt s) : OneRowPerAttempt s' := by
  intro b hb c hc hbc
  rw [hput, mem_put_iff] at hb hc
  rcases hb with rfl | ⟨hb, hbne⟩
  · rcases hc with rfl | ⟨hc, hcne⟩
    · rfl
    · exact absurd hbc.symm (hother c hc hcne)
  · rcases hc with rfl | ⟨hc, hcne⟩
    · exact absurd hbc (hother b hb hbne)
    · exact hs b hb c hc hbc

theorem CustodyStep.put {s s' : Store} (ha : a ∈ s.assignments.rows) (hchange : op.changes a a')
    (hput : s'.assignments = s.assignments.put a') : CustodyStep op s s' := by
  obtain ⟨hid, hattempt⟩ := CustodyOp.changes_ids hchange
  refine ⟨fun b hb => ?_, fun b hb => ?_, fun hs => oneRowPerAttempt_of_put hput ?_ hs⟩
  · rw [hput]
    by_cases hba : b.id = a.id
    · obtain rfl : b = a := eq_of_key_eq hb ha hba
      exact ⟨a', mem_put_iff.2 (.inl rfl), hid, hattempt, .inr hchange⟩
    · exact ⟨b, mem_put_iff.2 (.inr ⟨hb, by rw [hid]; exact hba⟩), rfl, rfl, .inl rfl⟩
  · rw [hput, mem_put_iff] at hb
    rcases hb with rfl | ⟨hb, -⟩
    · exact .inl ⟨a, ha, hid.symm⟩
    · exact .inl ⟨b, hb, rfl⟩
  · -- an attempt of the changed row has no other row, since the row keeps its attempt
    intro b hb hne hatt
    exact hne (by rw [hs b hb a ha (hatt.trans hattempt), hid])

theorem CustodyStep.insert {s s' : Store}
    (hnew : ∀ a ∈ s.assignments.rows, a.id ≠ a'.id ∧ a.attemptID ≠ a'.attemptID)
    (hintro : op.introduces a') (hput : s'.assignments = s.assignments.put a') :
    CustodyStep op s s' := by
  refine ⟨fun b hb => ?_, fun b hb => ?_, oneRowPerAttempt_of_put hput fun b hb _ => (hnew b hb).2⟩
  · rw [hput]
    exact ⟨b, mem_put_iff.2 (.inr ⟨hb, (hnew b hb).1⟩), rfl, rfl, .inl rfl⟩
  · rw [hput, mem_put_iff] at hb
    rcases hb with rfl | ⟨hb, -⟩
    · exact .inr hintro
    · exact .inl ⟨b, hb, rfl⟩

/-! ## The transactions are steps -/

namespace Store

variable {fences : AdmissionFences} {s s' : Store}

theorem insertAssignment_ok {a : Assignment} (h : s.insertAssignment a = .ok s') :
    (∀ b ∈ s.assignments.rows, b.id ≠ a.id ∧ b.attemptID ≠ a.attemptID) ∧
      s'.assignments = s.assignments.put a := by
  unfold insertAssignment at h
  split_ifs at h with hany
  refine ⟨fun b hb => ?_, by rw [← ok.inj h]⟩
  simp only [any_eq_true, decide_eq_true_eq, not_exists, not_and, not_or] at hany
  exact ⟨(hany b hb).1, (hany b hb).2.1⟩

theorem rearmAssignment_ok {a : Assignment} (h : s.rearmAssignment a = .ok s') :
    s'.assignments = s.assignments.put a := by
  unfold rearmAssignment at h
  split_ifs at h
  rw [← ok.inj h]

variable {commit : AssignmentPlanCommit} {item : AssignmentPlanItem} {offered : Option Assignment}
  {attempt : Attempt} {assignment : Assignment}

theorem placeOffer_ok {write : Store → Assignment → Except Err Store}
    (h : s.placeOffer fences commit item attempt assignment write = .ok (s', offered)) :
    s'.assignments = s.assignments ∨ ∃ graph s₁,
      write s (boundAssignment assignment graph commit.committedAt) = .ok s₁ ∧
      s'.assignments = s₁.assignments := by
  obtain ⟨_, -, h⟩ := of_bind h
  obtain ⟨enrolled, -, h⟩ := of_bind h
  split_ifs at h
  · cases h
    exact .inl rfl
  split at h
  · cases h
    exact .inl rfl
  · rename_i graph hgraph
    dsimp only at h
    split at h
    · split_ifs at h
      cases h
      exact .inl rfl
    · obtain ⟨s₁, hwrite, h⟩ := of_bind h
      obtain ⟨s₂, hupdate, h⟩ := of_bind h
      obtain ⟨_, rfl, -⟩ := audited_ok h
      obtain ⟨-, rfl⟩ := updateAttempt_ok hupdate
      exact .inr ⟨graph, s₁, hwrite, rfl⟩

theorem freshOffer_step (hitem : item ∈ commit.items) (hattempt : assignment.attemptID = attempt.id)
    (hstate : assignment.state = .offered) (hthread : assignment.threadID = item.assignment.threadID)
    (h : s.freshOffer fences commit item attempt assignment = .ok (s', offered)) :
    CustodyStep (.offer commit) s s' := by
  unfold freshOffer at h
  split at h
  · rcases placeOffer_ok h with hsame | ⟨graph, s₁, hwrite, hsame⟩
    · exact CustodyStep.of_rows_eq hsame
    · obtain ⟨hnew, hput⟩ := insertAssignment_ok hwrite
      exact CustodyStep.insert hnew ⟨hstate, item, hitem, hthread⟩ (hsame.trans hput)
  · rename_i released hreleased
    split_ifs at h with hnot
    · cases h
      exact CustodyStep.refl _ _
    rcases placeOffer_ok h with hsame | ⟨graph, s₁, hwrite, hsame⟩
    · exact CustodyStep.of_rows_eq hsame
    · have hrow : released.attemptID = attempt.id := by simpa using find?_some hreleased
      refine CustodyStep.put (mem_of_find?_eq_some hreleased) ?_
        (hsame.trans (rearmAssignment_ok hwrite))
      exact ⟨not_not.1 hnot, hstate, rfl, hattempt.trans hrow.symm, rfl, rfl, rfl, rfl⟩

theorem replayOffer_step (h : s.replayOffer commit item attempt assignment = .ok (s', offered)) :
    CustodyStep (.offer commit) s s' := by
  unfold replayOffer at h
  split_ifs at h
  · cases h
    exact CustodyStep.refl _ _
  · obtain ⟨current, -, h⟩ := of_bind h
    split_ifs at h
    · cases h
      exact CustodyStep.refl _ _
    · obtain ⟨_, rfl, -⟩ := audited_ok h
      exact CustodyStep.of_rows_eq rfl

theorem offerItem_step (hitem : item ∈ commit.items) (hstate : item.assignment.state = .offered)
    (h : s.offerItem fences commit item = .ok (s', offered)) : CustodyStep (.offer commit) s s' := by
  obtain ⟨attempt, hattempt, h⟩ := of_bind h
  obtain ⟨refusal, -, h⟩ := of_bind h
  have hskip : ∀ {r : Option Assignment},
      (ok (s, r) : Except Err (Store × Option Assignment)) = .ok (s', offered) →
        CustodyStep (.offer commit) s s' := by
    intro r hr
    cases hr
    exact CustodyStep.refl _ _
  split at h
  · exact hskip h
  split at h
  · exact replayOffer_step h
  split at h
  · exact hskip h
  split at h
  · exact hskip h
  split at h
  · split_ifs at h
    exact hskip h
  split at h
  · exact hskip h
  · exact freshOffer_step hitem (key_of_get? (loadAttempt_ok hattempt)).symm hstate rfl h

variable {expired assignments : List Assignment} {request : AssignmentClaimRequest}
  {claimed renewed : Assignment} {renewal : AssignmentLeaseRenewal} {coordinatorEpoch : Int}
  {now : Time}

theorem offerItems_step (items : List AssignmentPlanItem)
    (hitems : ∀ item ∈ items, item ∈ commit.items) {s : Store}
    {assignmentIDs attemptIDs : List String}
    (h : s.offerItems fences commit items assignmentIDs attemptIDs = .ok (s', assignments)) :
    CustodyStep (.offer commit) s s' := by
  induction items generalizing s assignmentIDs attemptIDs assignments with
  | nil =>
    cases h
    exact CustodyStep.refl _ _
  | cons item items ih =>
    obtain ⟨⟨⟩, hvalid, h⟩ := of_bind h
    replace h := past_guard h
    replace h := past_guard h
    obtain ⟨⟨s₁, first⟩, hfirst, h⟩ := of_bind h
    obtain ⟨⟨s₂, rest⟩, hrest, h⟩ := of_bind h
    cases h
    obtain ⟨hshape, -⟩ := of_guard hvalid
    simp only [not_or, not_not] at hshape
    obtain ⟨-, -, -, -, -, -, -, -, hstate, -⟩ := hshape
    exact (offerItem_step (hitems item (.head _)) hstate hfirst).trans _ _ _
      (ih (fun i hi => hitems i (.tail _ hi)) hrest)

theorem commitAssignmentPlan_step (h : s.commitAssignmentPlan fences commit = .ok (s',
    assignments)) : CustodyStep (.offer commit) s s' := by
  replace h := past_guard h
  obtain ⟨_, -, h⟩ := of_bind h
  exact offerItems_step commit.items (fun _ hi => hi) h

theorem claimAssignment_ok (h : s.claimAssignment fences request = .ok (s', claimed)) :
    ∃ assignment, s.assignments.get? request.assignmentID = some assignment ∧
      request.matches assignment = true ∧
      (s'.assignments = s.assignments ∨ assignment.state = .offered ∧
        s'.assignments = s.assignments.put (leasedAssignment request assignment)) := by
  obtain ⟨_, -, h⟩ := of_bind h
  obtain ⟨_, -, h⟩ := of_bind h
  obtain ⟨_, -, h⟩ := of_bind h
  obtain ⟨assignment, hassignment, h⟩ := of_bind h
  obtain ⟨hmatches, h⟩ := of_guard h
  obtain ⟨attempt, -, h⟩ := of_bind h
  obtain ⟨refusal, -, h⟩ := of_bind h
  replace h := past_guard h
  obtain ⟨_, -, h⟩ := of_bind h
  refine ⟨assignment, loadAssignment_ok hassignment, by simpa using hmatches, ?_⟩
  split at h
  · replace h := past_guard h
    obtain ⟨_, rfl, -⟩ := audited_ok h
    exact .inl rfl
  · obtain ⟨hoffered, h⟩ := of_guard h
    replace h := past_guard h
    replace h := past_guard h
    obtain ⟨_, -, h⟩ := of_bind h
    obtain ⟨_, hupdate, h⟩ := of_bind h
    obtain ⟨_, rfl, -⟩ := audited_ok h
    obtain ⟨-, rfl⟩ := updateAttempt_ok hupdate
    exact .inr ⟨not_not.1 hoffered, rfl⟩

theorem claimAssignment_step (h : s.claimAssignment fences request = .ok (s', claimed)) :
    CustodyStep (.claim request) s s' := by
  obtain ⟨assignment, hrow, hmatches, hsame | ⟨hoffered, hput⟩⟩ := claimAssignment_ok h
  · exact CustodyStep.of_rows_eq hsame
  · exact CustodyStep.put (mem_of_get? hrow) ⟨hoffered, (key_of_get? hrow).symm, hmatches, rfl⟩ hput

theorem renewAssignmentLease_ok (h : s.renewAssignmentLease renewal = .ok (s', renewed)) :
    ∃ assignment, s.assignments.get? renewal.assignmentID = some assignment ∧
      renewal.matches assignment = true ∧
      (s'.assignments = s.assignments ∨
        s'.assignments = s.assignments.put (renewedAssignment renewal assignment)) := by
  obtain ⟨_, -, h⟩ := of_bind h
  obtain ⟨_, -, h⟩ := of_bind h
  obtain ⟨assignment, hassignment, h⟩ := of_bind h
  obtain ⟨hmatches, h⟩ := of_guard h
  refine ⟨assignment, loadAssignment_ok hassignment, by simpa using hmatches, ?_⟩
  split at h
  · obtain ⟨_, -, h⟩ := of_bind h
    cases h
    exact .inl rfl
  · replace h := past_guard h
    obtain ⟨_, -, h⟩ := of_bind h
    obtain ⟨_, rfl, -⟩ := audited_ok h
    exact .inr rfl

theorem renewAssignmentLease_step (h : s.renewAssignmentLease renewal = .ok (s', renewed)) :
    CustodyStep (.renew renewal) s s' := by
  obtain ⟨assignment, hrow, hmatches, hsame | hput⟩ := renewAssignmentLease_ok h
  · exact CustodyStep.of_rows_eq hsame
  · exact CustodyStep.put (mem_of_get? hrow) ⟨(key_of_get? hrow).symm, hmatches, rfl⟩ hput

theorem expireLeases_step (elapsed : List Assignment) {s : Store}
    (hnodup : (elapsed.map Assignment.id).Nodup)
    (hrows : ∀ a ∈ elapsed, a ∈ s.assignments.rows ∧ a.state = .claimed)
    (h : s.expireLeases coordinatorEpoch now elapsed = .ok (s', expired)) :
    CustodyStep (.expire coordinatorEpoch now) s s' := by
  induction elapsed generalizing s expired with
  | nil =>
    cases h
    exact CustodyStep.refl _ _
  | cons a rest ih =>
    rw [map_cons, nodup_cons] at hnodup
    obtain ⟨hmem, hclaimed⟩ := hrows a (.head _)
    obtain ⟨s₁, haudit, h⟩ := of_bind h
    obtain ⟨⟨s₂, more⟩, hrest, h⟩ := of_bind h
    cases h
    obtain ⟨_, hs₁⟩ := insertNativeAuditEvent_ok haudit
    have hput : s₁.assignments = s.assignments.put (expiredAssignment now a) := by rw [hs₁]
    have hfirst : CustodyStep (.expire coordinatorEpoch now) s s₁ :=
      CustodyStep.put hmem ⟨hclaimed, rfl⟩ hput
    refine hfirst.trans _ _ _ (ih hnodup.2 (fun b hb => ?_) hrest)
    obtain ⟨hb', hbclaimed⟩ := hrows b (.tail _ hb)
    refine ⟨?_, hbclaimed⟩
    rw [hput, mem_put_iff]
    refine .inr ⟨hb', fun hid => hnodup.1 ?_⟩
    rw [(expiredAssignment_same now a).id] at hid
    exact hid ▸ mem_map_of_mem hb

theorem expireAssignmentLeases_step (h : s.expireAssignmentLeases coordinatorEpoch now = .ok (s',
    expired)) : CustodyStep (.expire coordinatorEpoch now) s s' := by
  replace h := past_guard h
  obtain ⟨_, -, h⟩ := of_bind h
  refine expireLeases_step _ (s.assignments.nodup_keys.sublist (filter_sublist.map _))
    (fun a ha => ?_) h
  obtain ⟨hmem, helapsed⟩ := mem_filter.1 ha
  simp only [leaseElapsed, decide_eq_true_eq] at helapsed
  exact ⟨hmem, helapsed.1⟩

theorem commitWorkerStateTransitions_step {digest : ThrottleCommand → String}
    {trs : List WorkerStateTransition} {applied : List Assignment}
    (h : s.commitWorkerStateTransitions digest trs = .ok (s', applied)) :
    CustodyStep (.observe trs) s s' := by
  refine applyWorkerStateTransitions_rel (CustodyStep.refl _) CustodyStep.trans ?_ h
  intro s tr attempt auditEvents htr _
  obtain ⟨hid, hattempt, hworker, hepoch, hlease, hdispatch⟩ := htr.same
  exact CustodyStep.put (mem_of_get? htr.assigned)
    ⟨htr.live, htr.taken, hid, hattempt, hworker, hepoch, hlease, hdispatch⟩ rfl

theorem recoverUnknownAssignment_step {recovery : UnknownAssignmentRecovery}
    {decision : UnknownAssignmentRecoveryDecision}
    (h : s.recoverUnknownAssignment recovery = .ok (s', decision)) :
    CustodyStep (.recover recovery) s s' := by
  rcases recoverUnknownAssignment_ok h with rfl | ⟨assignment, attempt, hrecoverable, rfl⟩
  · exact CustodyStep.refl _ _
  · exact CustodyStep.put (mem_of_get? hrecoverable.assigned) ⟨hrecoverable.unknown, rfl⟩ rfl

end Store

end Steward
