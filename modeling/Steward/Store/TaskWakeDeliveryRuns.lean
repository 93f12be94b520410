import Steward.Store.TaskWakeGroups

/-!
# Wake deliveries over whole runs

Wake passes, transitions and listings in any order, from any store. After a group of wakes has been
claimed for sending, nothing leads back to a state from which it could be claimed again.
-/

namespace Steward

open Runs Table Option Prod

/-- The three transactions. -/
inductive WakeOp
  | wake (now : Time) (cutoffs : TaskWakeCutoffs)
  | transition (id source next : String) (now : Time)
  | list (now : Time)

def wakeStep (s : Store) : WakeOp → Store
  | .wake now cutoffs => committed s ((s.wakeTaskWaitsBefore now cutoffs).map fst)
  | .transition id source next now =>
    committed s ((s.transitionTaskWake id source next now).map fst)
  | .list now => committed s ((s.taskWakesAwaitingDelivery now).map fst)

namespace Store

/-! ## One transaction -/

/-- What one transaction did to the rows. -/
inductive Delivered (s s' : Store) : WakeOp → Prop
  | nothing (op : WakeOp) : s' = s → Delivered s s' op
  | passed {now : Time} {cutoffs : TaskWakeCutoffs} {mark : String → WakeMark} :
      Paired (fun w w' => PassedBy Eq s s' (mark w.attemptID) w w') s.taskWaits s'.taskWaits →
      Delivered s s' (.wake now cutoffs)
  | moved {id source next : String} {now : Time} {wait : TaskWait} :
      s.taskWaits.get? id = some wait → WakeMoves wait source next now s s' →
      Delivered s s' (.transition id source next now)
  | listed {now : Time} {wakes : List TaskWaitWakeContext} :
      s.taskWakesAwaitingDelivery now = .ok (s', wakes) → Delivered s s' (.list now)

theorem wakeStep_delivered (s : Store) (op : WakeOp) : Delivered s (wakeStep s op) op := by
  have hcommit : ∀ {result : Except Err Store}, (∀ s', result = .ok s' → Delivered s s' op) →
      Delivered s (committed s result) op :=
    rel_committed (R := fun s s' => Delivered s s' op) fun s => .nothing op rfl
  cases op with
  | wake now cutoffs =>
    refine hcommit fun s' h => ?_
    obtain ⟨wakes, h⟩ := Except.map_fst_eq_ok h
    obtain ⟨mark, hpaired⟩ := wakeTaskWaitsBefore_paired h
    exact .passed hpaired
  | transition id source next now =>
    refine hcommit fun s' h => ?_
    obtain ⟨moved, h⟩ := Except.map_fst_eq_ok h
    rcases transitionTaskWake_ok h with ⟨-, rfl⟩ | ⟨-, wait, hwait, hmoves⟩
    · exact .nothing _ rfl
    · exact .moved hwait hmoves
  | list now =>
    refine hcommit fun s' h => ?_
    obtain ⟨wakes, h⟩ := Except.map_fst_eq_ok h
    exact .listed h

section

variable {s s' : Store} {op : WakeOp} {g : WakeGroup}

section

variable (h : Delivered s s' op)
include h

theorem Delivered.underway (hs : s.Underway g) : s'.Underway g := by
  cases h with
  | nothing op heq => exact heq ▸ hs
  | passed hpaired => exact underway_of_passed hpaired hs
  | moved hwait hmoves => exact hmoves.underway (mem_of_get? hwait) hs
  | listed hlisted => exact underway_of_listed (taskWakesAwaitingDelivery_listed hlisted) hs

/-- Every transaction keeps whose wake a woken wait is. -/
theorem Delivered.carried : ∃ mark : String → WakeMark, Paired
    (fun w w' => PassedBy (fun _ _ => True) s s' (mark w.attemptID) w w') s.taskWaits
    s'.taskWaits := by
  cases h with
  | nothing op heq =>
    subst heq
    exact ⟨fun _ => {}, Paired.refl fun w _ => .inl ⟨Redelivered.refl w, trivial⟩⟩
  | passed hpaired =>
    exact ⟨_, hpaired.mono fun _ _ _ _ hpassed => hpassed.imp_left fun h => ⟨h.toRedelivered,
      trivial⟩⟩
  | moved hwait hmoves =>
    exact ⟨fun _ => {}, hmoves.redelivered.mono fun _ _ _ _ h => .inl ⟨h, trivial⟩⟩
  | listed hlisted =>
    exact ⟨fun _ => {}, (taskWakesAwaitingDelivery_listed hlisted).mono fun _ _ _ _ h =>
      .inl ⟨h.toRedelivered, trivial⟩⟩

theorem Delivered.fresh (hs : s.FreshMessages) : s'.FreshMessages := by
  obtain ⟨mark, hcarried⟩ := h.carried
  exact fresh_of_passed hcarried hs

theorem Delivered.uniform (hfresh : s.FreshMessages) (hs : s.Uniform) : s'.Uniform := by
  cases h with
  | nothing op heq => exact heq ▸ hs
  | passed hpaired => exact uniform_of_passed hpaired hfresh hs
  | moved hwait hmoves =>
    intro g w v hw hv
    rcases member_transition_cases (mem_of_get? hwait) hmoves.woken g with ⟨-, hall⟩ | ⟨-, hnone⟩
    · rw [hmoves.moved hall hw, hmoves.moved hall hv]
    · exact hs g w v ((hmoves.unmoved hnone).1 hw) ((hmoves.unmoved hnone).1 hv)
  | listed hlisted => exact uniform_of_listed hs hlisted

end

end

/-! ## What holds of every transaction -/

def MovesTogether (s : Store) : WakeOp → Prop
  | .transition id source next now => ∀ s' wait,
    s.transitionTaskWake id source next now = .ok (s', true) → s.taskWaits.get? id = some wait →
    ∀ w ∈ s'.taskWaits.rows, w.id = id ∨ wait.deliveryID ≠ "" ∧ w.groupKey = wait.groupKey →
      w.delivery = next
  | _ => True

def NoReturn (g : WakeGroup) (s : Store) (op : WakeOp) : Prop :=
  ∀ w, s.Member g w → ∀ w' ∈ (wakeStep s op).taskWaits.rows, w'.id = w.id →
    w'.delivery = "pending" ∨ w'.delivery = "held" → w'.delivery = w.delivery

def Claims (s : Store) (op : WakeOp) (wait : TaskWait) : Prop :=
  ∃ id source now s', op = .transition id source "sending" now ∧
    (source = "pending" ∨ source = "held") ∧ s.taskWaits.get? id = some wait ∧
    s.transitionTaskWake id source "sending" now = .ok (s', true)

def Final (delivery : String) : Prop :=
  delivery = "delivered" ∨ delivery = "abandoned" ∨ delivery = "manual-recovery-required"

def Unsent (delivery : String) : Prop :=
  delivery = "pending" ∨ delivery = "held" ∨ delivery = "sending"

def KeepsFinal (s : Store) (op : WakeOp) : Prop :=
  ∀ w ∈ s.taskWaits.rows, w.woken = true → Final w.delivery →
    ∀ w' ∈ (wakeStep s op).taskWaits.rows, w'.id = w.id → ¬Unsent w'.delivery

def StaysSent (s s' : Store) : Prop :=
  ∀ w ∈ s.taskWaits.rows, ∃ w' ∈ s'.taskWaits.rows, w'.id = w.id ∧
    (w.woken = true → ¬Unsent w.delivery → w'.woken = true ∧ ¬Unsent w'.delivery)

theorem StaysSent.refl (s : Store) : StaysSent s s :=
  fun w hw => ⟨w, hw, rfl, fun hwoken hsent => ⟨hwoken, hsent⟩⟩

theorem StaysSent.trans (s₁ s₂ s₃ : Store) (h : StaysSent s₁ s₂) (h' : StaysSent s₂ s₃) :
    StaysSent s₁ s₃ := by
  intro w hw
  obtain ⟨w₂, hw₂, hid, hstays⟩ := h w hw
  obtain ⟨w₃, hw₃, hid', hstays'⟩ := h' w₂ hw₂
  exact ⟨w₃, hw₃, hid'.trans hid, fun hwoken hsent => hstays' (hstays hwoken hsent).1
    (hstays hwoken hsent).2⟩

theorem movesTogether (s : Store) (op : WakeOp) : MovesTogether s op := by
  cases op with
  | wake | list => trivial
  | transition id source next now =>
    intro s' wait h hwait w' hw' hshares
    rcases transitionTaskWake_ok h with ⟨hfalse, -⟩ | ⟨-, found, hfound, hmoves⟩
    · cases hfalse
    · cases hfound.symm.trans hwait
      obtain ⟨w, hw, hid, ⟨-, rfl⟩ | ⟨hout, rfl⟩⟩ := hmoves.paired.backward w' hw'
      · exact (delivers_spec w next now).2.2
      · refine absurd (mem_wakeTransitionGroup.2 ⟨hw, ?_⟩) hout
        rcases hshares with hsame | hshares
        · exact .inl (hsame.trans (key_of_get? hwait).symm)
        · exact .inr hshares

/-- What a row of a paired table was before, given the row it had. -/
theorem noReturn {g : WakeGroup} (s : Store) (op : WakeOp) (hs : s.Underway g) : NoReturn g s op := by
  intro w hw w' hw' hid hback
  have hdelivered := wakeStep_delivered s op
  generalize wakeStep s op = s' at hdelivered hw'
  cases hdelivered with
  | nothing op heq =>
    subst heq
    rw [eq_of_key_eq hw' hw.1 hid]
  | passed hpaired => exact ((hpaired.rel hw.1 hw' hid).of_woken hw.woken).delivery
  | @moved id source next now wait hwait hmoves =>
    rcases hmoves.paired.rel hw.1 hw' hid with ⟨hin, rfl⟩ | ⟨-, rfl⟩
    · rcases member_transition_cases (mem_of_get? hwait) hmoves.woken g with
        ⟨-, hall⟩ | ⟨-, hnone⟩
      · obtain ⟨hpending, hheld⟩ := hmoves.source_past hs hall
        obtain ⟨hpending', hheld', -⟩ := wakeTransitionAllowed_past hmoves.allowed hpending hheld
        rw [(delivers_spec w next now).2.2] at hback
        exact absurd hback (not_or.2 ⟨hpending', hheld'⟩)
      · exact absurd hin (hnone w hw)
    · rfl
  | listed hlisted =>
    rcases ((taskWakesAwaitingDelivery_listed hlisted).rel hw.1 hw' hid).past hw hs with hsame | hpast
    · exact hsame
    · exact absurd hback (not_or.2 hpast)

theorem not_unsent_of_allowed {source next : String} (h : wakeTransitionAllowed source next = true)
    (hpast : ¬Unsent source) : ¬Unsent next := by
  simp only [Unsent, not_or] at hpast ⊢
  exact wakeTransitionAllowed_past h hpast.1 hpast.2.1

theorem unsent_of_listed {delivery base : String} {p : Prop}
    (h : delivery = base ∨ delivery = "abandoned" ∧ p) (hunsent : Unsent delivery) : Unsent base := by
  rcases h with rfl | ⟨rfl, -⟩
  · exact hunsent
  · simp [Unsent] at hunsent

theorem keepsFinal (s : Store) (op : WakeOp) : KeepsFinal s op := by
  intro w hw hwoken hfinal w' hw' hid hunsent
  have hpast : ¬Unsent w.delivery := by
    rcases hfinal with h | h | h <;> rw [h] <;> simp [Unsent]
  have hdelivered := wakeStep_delivered s op
  generalize wakeStep s op = s' at hdelivered hw'
  cases hdelivered with
  | nothing op heq =>
    subst heq
    rw [eq_of_key_eq hw' hw hid] at hunsent
    exact hpast hunsent
  | passed hpaired =>
    rw [((hpaired.rel hw hw' hid).of_woken hwoken).delivery] at hunsent
    exact hpast hunsent
  | @moved id source next now wait hwait hmoves =>
    rcases hmoves.paired.rel hw hw' hid with ⟨hin, rfl⟩ | ⟨-, rfl⟩
    · rw [hmoves.source w hin] at hpast
      rw [(delivers_spec w next now).2.2] at hunsent
      exact not_unsent_of_allowed hmoves.allowed hpast hunsent
    · exact hpast hunsent
  | listed hlisted =>
    have hunsent :=
      unsent_of_listed ((taskWakesAwaitingDelivery_listed hlisted).rel hw hw' hid).delivery hunsent
    cases hgroup : w.wakeGroup.bind (s.reconciledTarget s.taskWaits.rows) with
    | none =>
      rw [hgroup, getD_none] at hunsent
      exact hpast hunsent
    | some target =>
      rw [hgroup, getD_some] at hunsent
      obtain ⟨g, hg, htarget⟩ := bind_eq_some_iff.1 hgroup
      rcases reconciledTarget_some htarget with hout | ⟨-, -, hnone⟩
      · exact hunsent.elim hout.1 fun h => h.elim hout.2.1 hout.2.2
      · obtain ⟨-, hmanual, hdone, hgone⟩ := hnone w ⟨hw, hg⟩
        exact hfinal.elim hdone fun h => h.elim hgone hmanual

/-- From a store whose groups are in one state, nothing past sending comes back. -/
theorem staysSent (s : Store) (op : WakeOp) (hs : s.Uniform) : StaysSent s (wakeStep s op) := by
  have hdelivered := wakeStep_delivered s op
  generalize wakeStep s op = s' at hdelivered
  intro w hw
  cases hdelivered with
  | nothing op heq => exact heq ▸ StaysSent.refl s w hw
  | passed hpaired =>
    obtain ⟨w', hw', hid, hpassed⟩ := hpaired.forward w hw
    refine ⟨w', hw', hid, fun hwoken hpast => ?_⟩
    have hsame := hpassed.of_woken hwoken
    rw [hsame.woken, hsame.delivery]
    exact ⟨hwoken, hpast⟩
  | @moved id source next now wait hwait hmoves =>
    obtain ⟨w', hw', hid, ⟨hin, rfl⟩ | ⟨-, rfl⟩⟩ := hmoves.paired.forward w hw
    · refine ⟨_, hw', hid, fun hwoken hpast => ?_⟩
      obtain ⟨hsame, -, hnext⟩ := delivers_spec w next now
      rw [hmoves.source w hin] at hpast
      rw [hsame.woken, hnext]
      exact ⟨hwoken, not_unsent_of_allowed hmoves.allowed hpast⟩
    · exact ⟨w', hw', hid, fun hwoken hpast => ⟨hwoken, hpast⟩⟩
  | listed hlisted =>
    obtain ⟨w', hw', hid, hrow⟩ := (taskWakesAwaitingDelivery_listed hlisted).forward w hw
    refine ⟨w', hw', hid, fun hwoken hpast => ?_⟩
    rw [hrow.woken]
    refine ⟨hwoken, fun hunsent => ?_⟩
    replace hunsent := unsent_of_listed hrow.delivery hunsent
    cases hgroup : w.wakeGroup.bind (s.reconciledTarget s.taskWaits.rows) with
    | none =>
      rw [hgroup, getD_none] at hunsent
      exact hpast hunsent
    | some target =>
      obtain ⟨g, hg, htarget⟩ := bind_eq_some_iff.1 hgroup
      rw [hgroup, getD_some, reconciledTarget_of_uniform hs htarget] at hunsent
      simp [Unsent] at hunsent

/-! ## Claims -/

section

variable {s : Store} {op : WakeOp} {wait : TaskWait} {g : WakeGroup}

theorem Claims.moves (h : Claims s op wait) : ∃ source now,
    (source = "pending" ∨ source = "held") ∧ wait ∈ s.taskWaits.rows ∧
      WakeMoves wait source "sending" now s (wakeStep s op) := by
  obtain ⟨id, source, now, s', rfl, hsource, hwait, hcommit⟩ := h
  have hstep : wakeStep s (.transition id source "sending" now) = s' := by
    simp only [wakeStep, hcommit, Except.map, committed]
  rcases transitionTaskWake_ok hcommit with ⟨hfalse, -⟩ | ⟨-, found, hfound, hmoves⟩
  · cases hfalse
  · cases hfound.symm.trans hwait
    exact ⟨source, now, hsource, mem_of_get? hwait, hstep ▸ hmoves⟩

theorem Claims.underway (h : Claims s op wait) (hg : wait.wakeGroup = some g) :
    (wakeStep s op).Underway g := by
  obtain ⟨source, now, -, hmem, hmoves⟩ := h.moves
  have hin : wait ∈ s.wakeTransitionGroup wait := mem_wakeTransitionGroup.2 ⟨hmem, .inl rfl⟩
  exact .inl (hmoves.forward_moved ⟨hmem, hg⟩ hin)

theorem Claims.not_underway (h : Claims s op wait) (hg : wait.wakeGroup = some g) :
    ¬s.Underway g := by
  intro hs
  obtain ⟨source, now, hsource, hmem, hmoves⟩ := h.moves
  rcases member_transition_cases hmem hmoves.woken g with ⟨-, hall⟩ | ⟨hnot, -⟩
  · obtain ⟨hpending, hheld⟩ := hmoves.source_past hs hall
    exact hsource.elim hpending hheld
  · exact hnot hg

theorem Claims.woken (h : Claims s op wait) : wait ∈ s.taskWaits.rows ∧ wait.woken = true := by
  obtain ⟨source, now, -, hmem, hmoves⟩ := h.moves
  exact ⟨hmem, hmoves.woken⟩

end

/-! ## Whole runs -/

variable {s : Store}

theorem underway_run {g : WakeGroup} (hs : s.Underway g) (ops : List WakeOp) :
    (run wakeStep s ops).Underway g :=
  run_invariant (I := fun s => s.Underway g) (P := fun _ _ => True)
    (fun s op hs _ => (wakeStep_delivered s op).underway hs) hs (along_of_forall fun _ _ _ => trivial)

theorem uniform_run (hs : s.FreshMessages ∧ s.Uniform) (ops : List WakeOp) :
    (run wakeStep s ops).FreshMessages ∧ (run wakeStep s ops).Uniform :=
  run_invariant (I := fun s => s.FreshMessages ∧ s.Uniform) (P := fun _ _ => True)
    (fun s op hs _ => ⟨(wakeStep_delivered s op).fresh hs.1,
    (wakeStep_delivered s op).uniform hs.1 hs.2⟩)
    hs (along_of_forall fun _ _ _ => trivial)

/-- Every message has its own group, and will keep it. -/
structure OwnGroups (s : Store) : Prop where
  fresh : s.FreshMessages
  oneThread : s.OneThread
  oneGroup : s.OneGroup

theorem OwnGroups.step (hs : s.OwnGroups) (op : WakeOp) : (wakeStep s op).OwnGroups := by
  obtain ⟨mark, hcarried⟩ := (wakeStep_delivered s op).carried
  exact ⟨fresh_of_passed hcarried hs.fresh, oneThread_of_passed hcarried hs.oneThread,
    oneGroup_of_passed hcarried hs.fresh hs.oneThread hs.oneGroup⟩

theorem ownGroups_run (hs : s.OwnGroups) (ops : List WakeOp) : (run wakeStep s ops).OwnGroups :=
  run_invariant (I := OwnGroups) (P := fun _ _ => True) (fun _ op hs _ => hs.step op) hs
    (along_of_forall fun _ _ _ => trivial)

/-- A message of the group of a member: while messages have their own groups, the wait that carries
it is a member too. -/
theorem OneGroup.wakeGroup_eq (hs : s.OneGroup) {g : WakeGroup} {w v : TaskWait}
    (hw : s.Member g w) (hv : v ∈ s.taskWaits.rows) (hwoken : v.woken = true)
    (hid : v.deliveryID = w.deliveryID) : v.wakeGroup = some g := by
  have hne : v.deliveryID ≠ "" := by
    rw [hid]
    exact (wakeGroup_eq_some_iff.1 hw.2).2.1
  have hv' : s.Member v.groupKey v := ⟨hv, wakeGroup_eq_some_iff.2 ⟨hwoken, hne, rfl⟩⟩
  rw [hs g v.groupKey w v hw hv' hid.symm]
  exact hv'.2

/-- Wake messages are sent at most once, and the waits of one message move together. `together`,
`noReturn`, `claimedOnce` and `final` hold from any store, the others from one without traces of a
sender that moved rows one by one. -/
structure SendsOnce (s : Store) (ops : List WakeOp) : Prop where
  together : Along wakeStep MovesTogether s ops
  uniform : s.FreshMessages ∧ s.Uniform → ∀ earlier rest, ops = earlier ++ rest →
    (run wakeStep s earlier).Uniform
  noReturn : ∀ g earlier later, ops = earlier ++ later →
    (∃ w, (run wakeStep s earlier).Member g w ∧ w.delivery = "sending") →
    Along wakeStep (NoReturn g) (run wakeStep s earlier) later
  pastClaim : s.FreshMessages ∧ s.Uniform → ∀ g earlier later rest, ops = earlier ++ later ++ rest →
    (∃ w, (run wakeStep s earlier).Member g w ∧ w.delivery = "sending") →
    ∀ w, (run wakeStep s (earlier ++ later)).Member g w →
      w.delivery ≠ "pending" ∧ w.delivery ≠ "held"
  claimedOnce : ∀ g earlier op later wait, ops = earlier ++ op :: later →
    Claims (run wakeStep s earlier) op wait → wait.wakeGroup = some g →
    Along wakeStep (fun s op => ∀ v, Claims s op v → v.wakeGroup ≠ some g)
      (wakeStep (run wakeStep s earlier) op) later
  sentOnce : s.OwnGroups → ∀ earlier op later wait, ops = earlier ++ op :: later →
    Claims (run wakeStep s earlier) op wait → wait.deliveryID ≠ "" →
    Along wakeStep (fun s op => ∀ v, Claims s op v → v.deliveryID ≠ wait.deliveryID)
      (wakeStep (run wakeStep s earlier) op) later
  final : Along wakeStep KeepsFinal s ops
  staysSent : s.FreshMessages ∧ s.Uniform → Throughout wakeStep StaysSent s ops

theorem wakes_are_sent_once (s : Store) (ops : List WakeOp) : SendsOnce s ops where
  together := along_of_forall fun s op _ => movesTogether s op
  uniform := by
    rintro hs earlier rest -
    exact (uniform_run hs earlier).2
  noReturn := by
    rintro g earlier later - hsending
    exact along_of_invariant (I := fun s => s.Underway g)
      (fun s op hs => (wakeStep_delivered s op).underway hs) (fun s op hs => noReturn s op hs)
      (.inl hsending) later
  pastClaim := by
    rintro hs g earlier later rest - hsending w hw
    have hunderway : (run wakeStep s (earlier ++ later)).Underway g := by
      rw [run_append]
      exact underway_run (.inl hsending) later
    obtain ⟨v, hv, hpast⟩ := hunderway.past
    rw [(uniform_run hs (earlier ++ later)).2 g w v hw hv]
    exact hpast
  claimedOnce := by
    rintro g earlier op later wait - hclaims hg
    exact along_of_invariant (I := fun s => s.Underway g)
      (fun s op hs => (wakeStep_delivered s op).underway hs)
      (fun s op hs v hv hvg => hv.not_underway hvg hs) (hclaims.underway hg) later
  sentOnce := by
    rintro hs earlier op later wait - hclaims hid
    have hg : wait.wakeGroup = some wait.groupKey :=
      wakeGroup_eq_some_iff.2 ⟨hclaims.woken.2, hid, rfl⟩
    -- A member of the claimed group stays in the store, so a wait with its message is one as well.
    refine along_of_invariant (I := fun s => s.OwnGroups ∧ s.Underway wait.groupKey)
      (fun s op hs => ⟨hs.1.step op, (wakeStep_delivered s op).underway hs.2⟩)
      (fun s op hs v hv hsame => ?_)
      ⟨(ownGroups_run hs earlier).step op, hclaims.underway hg⟩ later
    obtain ⟨w, hw, -⟩ := hs.2.past
    have hwid : w.deliveryID = wait.deliveryID := congrArg WakeGroup.deliveryID hw.key
    refine hv.not_underway ?_ hs.2
    exact hs.1.oneGroup.wakeGroup_eq hw hv.woken.1 hv.woken.2 (hsame.trans hwid.symm)
  final := along_of_forall fun s op _ => keepsFinal s op
  staysSent := by
    intro hs
    refine (throughout_iff StaysSent.refl StaysSent.trans).2 ?_
    exact along_of_invariant (I := fun s => s.FreshMessages ∧ s.Uniform) (fun s op hs =>
        ⟨(wakeStep_delivered s op).fresh hs.1, (wakeStep_delivered s op).uniform hs.1 hs.2⟩)
      (fun s op hs => staysSent s op hs.2) hs ops

/-! ## Two waits of one attempt -/

def settledPair (thread thread' : String) : Store :=
  run (waitStep localObservers) {}
    [.other [{ waitingAttempt with threadID := "" }] (waitingRecords ""),
     .register
       { requestID := "q", workflowRunID := "r", taskID := "t", attemptID := "a", threadID := thread
         wake := .all, maxDuration := 10 } 1,
     .register
       { requestID := "r", workflowRunID := "r", taskID := "t", attemptID := "a", threadID := thread'
         wake := .all, maxDuration := 10 } 2,
     .settle "tw-q" { outcome := .met } 3,
     .settle "tw-r" { outcome := .met } 3]

def claimPair : List WakeOp :=
  [.wake 4 {}, .transition "tw-q" "pending" "sending" 5, .transition "tw-r" "pending" "sending" 6]

theorem claims_of_committed {id source : String} {now : Time} {wait : TaskWait}
    (hsource : source = "pending" ∨ source = "held") (hwait : s.taskWaits.get? id = some wait)
    (h : (s.transitionTaskWake id source "sending" now).toOption.map snd = some true) :
    Claims s (.transition id source "sending" now) wait := by
  obtain ⟨⟨s', _⟩, hcommit, rfl⟩ := Except.of_toOption h
  exact ⟨id, source, now, s', rfl, hsource, hwait, hcommit⟩

theorem settledPair_state :
    ((run wakeStep (settledPair "h" "k") (claimPair.take 1)).taskWaits.get? "tw-q").map
        TaskWait.deliveryID = some "task-wake:tw-q:3" ∧
    ((run wakeStep (settledPair "h" "k") (claimPair.take 1)).transitionTaskWake "tw-q" "pending"
        "sending" 5).toOption.map snd = some true ∧
    ((run wakeStep (settledPair "h" "k") (claimPair.take 2)).taskWaits.get? "tw-r").map
        TaskWait.deliveryID = some "task-wake:tw-q:3" ∧
    ((run wakeStep (settledPair "h" "k") (claimPair.take 2)).transitionTaskWake "tw-r" "pending"
        "sending" 6).toOption.map snd = some true ∧
    (settledPair "h" "h").taskWaits.rows.map (fun w => (w.woken, w.deliveryID, w.threadID)) =
      [(false, "", "h"), (false, "", "h")] ∧
    ((run wakeStep (settledPair "h" "h") (claimPair.take 1)).taskWaits.get? "tw-q").map
        TaskWait.deliveryID = some "task-wake:tw-q:3" ∧
    ((run wakeStep (settledPair "h" "h") (claimPair.take 1)).transitionTaskWake "tw-q" "pending"
        "sending" 5).toOption.map snd = some true := by
  decide

/-- The waits of one wake set share a message but not a group when their threads differ: each of the
two is claimed, under one message identity. -/
theorem one_message_is_claimed_twice :
    ∃ w v, Claims (Runs.run wakeStep (settledPair "h" "k") (claimPair.take 1))
        (.transition "tw-q" "pending" "sending" 5) w ∧
      Claims (Runs.run wakeStep (settledPair "h" "k") (claimPair.take 2))
        (.transition "tw-r" "pending" "sending" 6) v ∧
      w.deliveryID = v.deliveryID ∧ w.deliveryID ≠ "" := by
  obtain ⟨hq, hqsends, hr, hrsends, -⟩ := settledPair_state
  obtain ⟨w, hw, hwid⟩ := map_eq_some_iff.1 hq
  obtain ⟨v, hv, hvid⟩ := map_eq_some_iff.1 hr
  refine ⟨w, v, claims_of_committed (.inl rfl) hw hqsends, claims_of_committed (.inl rfl) hv hrsends,
    hwid.trans hvid.symm, ?_⟩
  rw [hwid]
  decide

/-- A pair on one thread is claimed once: when the second wait is taken up, its message was sent
with the first. -/
theorem pair_is_sent_once : (settledPair "h" "h").OwnGroups ∧
    (∃ w, Claims (Runs.run wakeStep (settledPair "h" "h") (claimPair.take 1))
      (.transition "tw-q" "pending" "sending" 5) w ∧ w.deliveryID = "task-wake:tw-q:3") ∧
    ∀ v, Claims (Runs.run wakeStep (settledPair "h" "h") (claimPair.take 2))
      (.transition "tw-r" "pending" "sending" 6) v → v.deliveryID ≠ "task-wake:tw-q:3" := by
  obtain ⟨-, -, -, -, hrows, hq, hqsends⟩ := settledPair_state
  have hrow : ∀ w ∈ (settledPair "h" "h").taskWaits.rows,
      w.woken = false ∧ w.deliveryID = "" ∧ w.threadID = "h" := by
    intro w hw
    have hmem := List.mem_map_of_mem hw (f := fun w : TaskWait => (w.woken, w.deliveryID, w.threadID))
    rw [hrows] at hmem
    simpa using hmem
  have howns : (settledPair "h" "h").OwnGroups := by
    refine ⟨⟨fun w hw _ => (hrow w hw).2.1, fun u _ _ w hw hwoken => ?_⟩, fun w hw v hv _ => ?_, ?_⟩
    · rw [(hrow w hw).1] at hwoken
      cases hwoken
    · rw [(hrow w hw).2.2, (hrow v hv).2.2]
    · intro g g' w v hw
      have hwoken := hw.woken
      rw [(hrow w hw.1).1] at hwoken
      cases hwoken
  obtain ⟨w, hw, hwid⟩ := map_eq_some_iff.1 hq
  have hclaims := claims_of_committed (.inl rfl) hw hqsends
  refine ⟨howns, ⟨w, hclaims, hwid⟩, fun v hv => ?_⟩
  have hne : w.deliveryID ≠ "" := by
    rw [hwid]
    decide
  have hrest := (wakes_are_sent_once (settledPair "h" "h") claimPair).sentOnce howns
    (claimPair.take 1) _ (claimPair.drop 2) w rfl hclaims hne
  rw [← hwid]
  exact hrest.1 v hv

end Store

end Steward
