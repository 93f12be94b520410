import Steward.Store.TaskWakes

/-!
# Delivering wakes

`TransitionTaskWake`, `TaskWakesAwaitingDelivery` and `reconcileTaskWakeGroupsTx` of
`internal/store/sqlite`. The waits of one wake set share a message: they are claimed and settled
together, under the attempt, thread, wake revision and delivery identity in common. Rows that an
older sender moved one by one are brought back to one state first.
-/

namespace Steward

open Table Except List Bool

/-- What the members of one wake message share. -/
structure WakeGroup where
  (attemptID threadID : String := "")
  wakeRevision : Int := 0
  deliveryID : String := ""
deriving DecidableEq

namespace TaskWait

variable (w : TaskWait)

def groupKey : WakeGroup :=
  { attemptID := w.attemptID, threadID := w.threadID, wakeRevision := w.wakeRevision
    deliveryID := w.deliveryID }

def wakeGroup : Option WakeGroup :=
  if w.woken = true ∧ w.deliveryID ≠ "" then some w.groupKey else none

def advanceAttentionReceipt (state : AttentionReceiptState) (now : Time) : TaskWait :=
  let latest := w.attentionReceipts.reverse.find? fun r =>
    r.state = .applied ∨ r.state = .delivered ∨ r.state = .observed
  match latest with
  | none => w
  | some latest =>
    if w.attention = none ∨ latest.state = .observed ∨
        (state = .delivered ∧ latest.state = .delivered) then w
    else
      let delivered :=
        if state = .observed ∧ latest.state = .applied then
          [{ latest with state := .delivered, deliveredAt := some now }]
        else []
      let latest := delivered.headD latest
      let next :=
        if state = .delivered then { latest with state := state, deliveredAt := some now }
        else if state = .observed then
          { latest with
            state := state, deliveredAt := latest.deliveredAt.or (some now), observedAt := some now }
        else { latest with state := state }
      { w with attentionReceipts := w.attentionReceipts ++ delivered ++ [next] }

def delivers (next : String) (now : Time) : TaskWait :=
  let w := { w with delivery := next }
  if next = "delivered" then
    { w with deliveredAt := some now }.advanceAttentionReceipt .delivered now
  else if next = "observed" then
    { w with deliveryObservedAt := some now }.advanceAttentionReceipt .observed now
  else w

def reviewRoundID : String :=
  if Text.startsWith w.requestID "review-parent:" = false ∨ w.kind ≠ .node then ""
  else (w.node.map fun n => n.target.runID).getD ""

def awaitsDelivery : Bool :=
  w.woken && !(w.delivery = "observed" || w.delivery = "abandoned" ||
    (w.delivery = "delivered" && w.attention.isNone))

def maybeSent : Bool :=
  w.delivery = "sending" ∨ w.delivery = "recovery-required" ∨
    w.delivery = "manual-recovery-required" ∨ w.delivery = "delivered"

def stale (attempt : Attempt) : Bool :=
  attempt.progress.terminal ∨ w.wakeRevision ≠ attempt.revision

end TaskWait

def wakeTransitionAllowed (source next : String) : Bool :=
  (source = "pending" ∧ (next = "held" ∨ next = "sending")) ∨
  (source = "held" ∧ (next = "pending" ∨ next = "sending")) ∨
  ((source = "sending" ∨ source = "recovery-required") ∧
    (next = "delivered" ∨ next = "observed" ∨ next = "recovery-required")) ∨
  (source = "delivered" ∧ next = "observed") ∨
  (next = "abandoned" ∧ source ≠ "delivered" ∧ source ≠ "observed")

def taskWakeGroupClaim (members : List TaskWait) (now : Time) : TaskWaitReconciliation :=
  let ids := (members.map TaskWait.id).insertionSort (· ≤ ·)
  let first := members.headD {}
  { id := "group-delivery-claim:" ++ first.deliveryID, kind := .groupDeliveryClaim
    attemptID := first.attemptID, threadID := first.threadID, waitID := ids.headD ""
    detail := toString first.wakeRevision ++ ":[" ++ ",".intercalate (ids.map quote) ++ "]"
    observedAt := now }

namespace Store

variable (s : Store)

def taskWakeGroupClaimed (members : List TaskWait) : Bool :=
  let expected := taskWakeGroupClaim members 0
  (s.taskWaitEvents.get? expected.id).any fun event =>
    event.kind = expected.kind ∧ event.attemptID = expected.attemptID ∧
      event.threadID = expected.threadID ∧ event.detail = expected.detail

/-- The rows a transition of this wait moves: itself, and the rows of its delivery. -/
def wakeTransitionGroup (wait : TaskWait) : List TaskWait :=
  s.taskWaits.rows.filter fun member =>
    member.id = wait.id ∨ (wait.deliveryID ≠ "" ∧ member.groupKey = wait.groupKey)

/-- Move a wake and every member of its group from one delivery state to another; the flag says
whether it was committed. -/
def transitionTaskWake (id source next : String) (now : Time) : Except Err (Store × Bool) :=
  match s.taskWaits.get? id with
  | none => .error { text := "sql: no rows in result set", sentinel := some .noRows }
  | some wait =>
    if wait.delivery ≠ source then .ok (s, false)
    else if (wait.woken && wakeTransitionAllowed source next) = false then
      .error { text := "invalid task wake transition " ++ source ++ " to " ++ next }
    else
      let group := s.wakeTransitionGroup wait
      if group.any (fun member => member.delivery ≠ source) then .ok (s, false)
      else
        let moved := s.saveTaskWaits (group.map fun member => member.delivers next now)
        if group.length ≤ 1 then .ok (moved, true)
        else if next = "sending" then .ok (moved.recordTaskWaitEvent (taskWakeGroupClaim group now), true)
        else if (next = "delivered" ∨ next = "observed") ∧ s.taskWakeGroupClaimed group = false then
          .ok (s, false)
        else .ok (moved, true)

/-! ## Reconciling groups -/

/-- The state a group is brought to, from the states of its members; `none` leaves it. -/
def wakeGroupTarget (claimed : Bool) (states : List String) : Option String :=
  if "manual-recovery-required" ∈ states ∨
      (claimed = false ∧ ("sending" ∈ states ∨ "recovery-required" ∈ states ∨
      "delivered" ∈ states)) then
    some "manual-recovery-required"
  else if states.dedup.length = 1 then none
  else if "delivered" ∈ states then some "delivered"
  else if "sending" ∈ states ∨ "recovery-required" ∈ states then some "recovery-required"
  else if "abandoned" ∈ states then some "abandoned"
  else if "pending" ∈ states ∧ "held" ∈ states then some "held"
  else some "manual-recovery-required"

variable (waits : List TaskWait) (now : Time)

/-- What reconciliation decides about one group of the loaded waits. Groups are disjoint and only
claims are read, so every group is judged on what was loaded. -/
def reconciledTarget (g : WakeGroup) : Option String :=
  let members := waits.filter fun w => w.wakeGroup = some g
  if members.length < 2 then none
  else wakeGroupTarget (s.taskWakeGroupClaimed members) (members.map TaskWait.delivery)

def reconciledWait (w : TaskWait) : TaskWait :=
  match w.wakeGroup.bind (s.reconciledTarget waits) with
  | none => w
  | some target =>
    if w.delivery = target then w
    else if target = "delivered" then { w with delivery := target, deliveredAt := some now }
    else { w with delivery := target }

def ambiguousWakeEvent (g : WakeGroup) : TaskWaitReconciliation :=
  let first := (waits.filter fun w => w.wakeGroup = some g).headD {}
  { id := "group-delivery-ambiguous:" ++ first.deliveryID, kind := .groupDeliveryAmbiguous
    attemptID := first.attemptID, threadID := first.threadID, waitID := first.id
    detail := "manual recovery required: message existence cannot prove every grouped outcome was " ++
      "delivered"
    observedAt := now }

def reconcileTaskWakeGroups : Store :=
  let ambiguous := (waits.filterMap TaskWait.wakeGroup).dedup.filter fun g =>
    s.reconciledTarget waits g = some "manual-recovery-required"
  let recorded := ambiguous.foldl
    (fun s g => s.recordTaskWaitEvent (ambiguousWakeEvent waits now g)) s
  recorded.saveTaskWaits (waits.map (s.reconciledWait waits now))

/-! ## Listing wakes -/

def abandonedWakeEvent (attempt : Attempt) (now : Time) (w : TaskWait) : TaskWaitReconciliation :=
  { id := "undelivered:" ++ w.id, kind := .undelivered, attemptID := attempt.id, waitID := w.id
    threadID := w.threadID
    detail := "wake for attempt revision " ++ toString w.wakeRevision ++
      " could not be delivered: attempt is " ++ quote attempt.progress.text ++ " at revision " ++
      toString attempt.revision
    observedAt := now }

def abandonWake (attempt : Attempt) (now : Time) (s : Store) (w : TaskWait) : Store :=
  (s.saveTaskWait { w with delivery := "abandoned" }).recordTaskWaitEvent
    (abandonedWakeEvent attempt now w)

def askAnswerWorkspace (assignment : Assignment) (waits : List TaskWait) : String :=
  if (waits.any fun w => w.ask.isSome ∨ w.reviewRoundID ≠ "") = false ∨ assignment.workerID = "" then ""
  else
    match s.loadWorkerSnapshot assignment.workerID with
    | none => ""
    | some snapshot =>
      ((snapshot.assignments.find? fun o => o.assignmentID = assignment.id).map
        WorkerAssignmentObservation.workspacePath).getD ""

def awaitingWakes (s : Store) (attemptID : String) :
    Except Err (Store × Option TaskWaitWakeContext) := do
  let members := (waits.filter fun w => w.awaitsDelivery ∧ w.attemptID = attemptID).insertionSort
    fun a b => a.id ≤ b.id
  let attempt ← s.loadAttempt attemptID
  let closed := members.filter fun w => w.stale attempt && !w.maybeSent
  let live := members.filter fun w => !(w.stale attempt && !w.maybeSent)
  let s := closed.foldl (abandonWake attempt now) s
  if live = [] then .ok (s, none)
  else do
    let assignment ← s.loadAssignment attempt.assignmentID
    .ok (s, some
      { workerID := assignment.workerID, workspacePath := s.askAnswerWorkspace assignment live
        attemptID := attemptID, threadID := attempt.threadID, attemptRevision := attempt.revision
        waits := live })

def awaitingAll (waits : List TaskWait) (now : Time) :
    Store → List String → Except Err (Store × List TaskWaitWakeContext)
  | s, [] => .ok (s, [])
  | s, attemptID :: rest => do
    let (s, wake) ← awaitingWakes waits now s attemptID
    let (s, wakes) ← awaitingAll waits now s rest
    .ok (s, wake.toList ++ wakes)

/-- List the wakes whose message has not reached its thread yet, after reconciling groups. -/
def taskWakesAwaitingDelivery : Except Err (Store × List TaskWaitWakeContext) :=
  let reconciled := s.reconcileTaskWakeGroups s.taskWaits.rows now
  let waits := s.taskWaits.rows.map (s.reconciledWait s.taskWaits.rows now)
  let order := ((waits.filter TaskWait.awaitsDelivery).map TaskWait.attemptID).dedup.insertionSort
    (· ≤ ·)
  awaitingAll waits now reconciled order

/-! ## What a call does to the rows -/

/-- A wait whose delivery may have moved; whose wake it is has not. -/
structure Redelivered (w w' : TaskWait) : Prop where
  wokenAt : w'.wokenAt = w.wokenAt
  key : w'.groupKey = w.groupKey

theorem Redelivered.refl (w : TaskWait) : Redelivered w w := ⟨rfl, rfl⟩

variable {now : Time} {w wait : TaskWait} {id next source : String} {waits : List TaskWait}
  {wakes : List TaskWaitWakeContext}

section

variable {w' : TaskWait} (h : Redelivered w w')
include h

theorem Redelivered.attemptID : w'.attemptID = w.attemptID := congrArg WakeGroup.attemptID h.key

theorem Redelivered.threadID : w'.threadID = w.threadID := congrArg WakeGroup.threadID h.key

theorem Redelivered.deliveryID : w'.deliveryID = w.deliveryID := congrArg WakeGroup.deliveryID h.key

theorem Redelivered.woken : w'.woken = w.woken := by
  rw [TaskWait.woken, h.wokenAt, TaskWait.woken]

theorem Redelivered.wakeGroup : w'.wakeGroup = w.wakeGroup := by
  rw [TaskWait.wakeGroup, h.key, h.deliveryID, h.woken, TaskWait.wakeGroup]

end

theorem advanceAttentionReceipt_eq (w : TaskWait) (state : AttentionReceiptState) (now : Time) :
    ∃ receipts, w.advanceAttentionReceipt state now = { w with attentionReceipts := receipts } := by
  unfold TaskWait.advanceAttentionReceipt
  dsimp only
  split
  · exact ⟨w.attentionReceipts, rfl⟩
  · split
    · exact ⟨w.attentionReceipts, rfl⟩
    · exact ⟨_, rfl⟩

theorem delivers_spec (w : TaskWait) (next : String) (now : Time) :
    Redelivered w (w.delivers next now) ∧ (w.delivers next now).id = w.id ∧
      (w.delivers next now).delivery = next := by
  unfold TaskWait.delivers
  split_ifs
  · rw [(advanceAttentionReceipt_eq _ _ _).choose_spec]
    exact ⟨⟨rfl, rfl⟩, rfl, rfl⟩
  · rw [(advanceAttentionReceipt_eq _ _ _).choose_spec]
    exact ⟨⟨rfl, rfl⟩, rfl, rfl⟩
  · exact ⟨⟨rfl, rfl⟩, rfl, rfl⟩

theorem mem_wakeTransitionGroup {s : Store} : w ∈ s.wakeTransitionGroup wait ↔
      w ∈ s.taskWaits.rows ∧ (w.id = wait.id ∨ wait.deliveryID ≠ "" ∧
      w.groupKey = wait.groupKey) := by
  simp [wakeTransitionGroup]

/-- What a committed transition did: its wait was woken, every member of its group was in the source
state, and every one of them is moved. -/
structure WakeMoves (wait : TaskWait) (source next : String) (now : Time) (s s' : Store) : Prop where
  woken : wait.woken = true
  allowed : wakeTransitionAllowed source next = true
  source : ∀ w ∈ s.wakeTransitionGroup wait, w.delivery = source
  waits : s'.taskWaits =
    s.taskWaits.putAll ((s.wakeTransitionGroup wait).map fun w => w.delivers next now)

variable {s s' : Store}

theorem transitionTaskWake_ok {moved : Bool}
    (h : s.transitionTaskWake id source next now = .ok (s', moved)) :
    moved = false ∧ s' = s ∨ moved = true ∧
      ∃ wait, s.taskWaits.get? id = some wait ∧ WakeMoves wait source next now s s' := by
  unfold transitionTaskWake at h
  cases hwait : s.taskWaits.get? id with
  | none =>
    rw [hwait] at h
    cases h
  | some wait =>
    simp only [hwait] at h
    have hdone : ∀ moved' : Store, moved'.taskWaits =
          s.taskWaits.putAll ((s.wakeTransitionGroup wait).map fun w => w.delivers next now) →
        (wait.woken && wakeTransitionAllowed source next) ≠ false →
        ¬((s.wakeTransitionGroup wait).any fun w => decide (w.delivery ≠ source)) = true →
        WakeMoves wait source next now s moved' := by
      intro moved' hwaits hallowed hsource
      rw [ne_eq, not_eq_false, and_eq_true] at hallowed
      refine ⟨hallowed.1, hallowed.2, fun w hw => ?_, hwaits⟩
      by_contra hne
      exact hsource (any_eq_true.2 ⟨w, hw, by simpa using hne⟩)
    split_ifs at h with hfrom hallowed hsource hone hsending hunclaimed
    · cases h
      exact .inl ⟨rfl, rfl⟩
    · cases h
      exact .inl ⟨rfl, rfl⟩
    · cases h
      exact .inr ⟨rfl, wait, rfl, hdone _ rfl hallowed hsource⟩
    · cases h
      exact .inr ⟨rfl, wait, rfl, hdone _ (by rw [recordTaskWaitEvent_taskWaits]; rfl) hallowed
        hsource⟩
    · cases h
      exact .inl ⟨rfl, rfl⟩
    · cases h
      exact .inr ⟨rfl, wait, rfl, hdone _ rfl hallowed hsource⟩

theorem WakeMoves.paired (h : WakeMoves wait source next now s s') :
    Paired (fun w w' => w ∈ s.wakeTransitionGroup wait ∧ w' = w.delivers next now ∨
      w ∉ s.wakeTransitionGroup wait ∧ w' = w) s.taskWaits s'.taskWaits := by
  rw [h.waits]
  exact Paired.of_putAll (fun w hw => (mem_wakeTransitionGroup.1 hw).1)
    fun w _ => (delivers_spec w next now).2.1

theorem reconciledWait_spec (s : Store) (waits : List TaskWait) (now : Time) (w : TaskWait) :
    Redelivered w (s.reconciledWait waits now w) ∧ (s.reconciledWait waits now w).id = w.id ∧
      (s.reconciledWait waits now w).delivery =
        (w.wakeGroup.bind (s.reconciledTarget waits)).getD w.delivery := by
  unfold reconciledWait
  cases w.wakeGroup.bind (s.reconciledTarget waits) with
  | none => exact ⟨Redelivered.refl w, rfl, rfl⟩
  | some target =>
    dsimp only
    split_ifs with hsame
    · exact ⟨Redelivered.refl w, rfl, hsame⟩
    · exact ⟨⟨rfl, rfl⟩, rfl, rfl⟩
    · exact ⟨⟨rfl, rfl⟩, rfl, rfl⟩

theorem foldl_recordTaskWaitEvent {α : Type} (event : α → TaskWaitReconciliation) (s : Store)
    (xs : List α) :
    (xs.foldl (fun s x => s.recordTaskWaitEvent (event x)) s).taskWaits = s.taskWaits ∧
      (xs.foldl (fun s x => s.recordTaskWaitEvent (event x)) s).attempts = s.attempts := by
  induction xs generalizing s with
  | nil => exact ⟨rfl, rfl⟩
  | cons x xs ih =>
    rw [foldl_cons, (ih _).1, (ih _).2]
    exact ⟨recordTaskWaitEvent_taskWaits _ _, recordTaskWaitEvent_attempts _ _⟩

theorem reconcileTaskWakeGroups_waits (s : Store) (waits : List TaskWait) (now : Time) :
    (s.reconcileTaskWakeGroups waits now).taskWaits =
      s.taskWaits.putAll (waits.map (s.reconciledWait waits now)) ∧
    (s.reconcileTaskWakeGroups waits now).attempts = s.attempts := by
  unfold reconcileTaskWakeGroups saveTaskWaits
  dsimp only
  rw [(foldl_recordTaskWaitEvent _ _ _).1, (foldl_recordTaskWaitEvent _ _ _).2]
  exact ⟨rfl, rfl⟩

/-! ## What a listing closes -/

/-- A listing closes this wake: its turn is gone and no message of it can exist. -/
def closesWake (s : Store) (w : TaskWait) : Bool :=
  w.awaitsDelivery && (s.attempts.get? w.attemptID).any w.stale && !w.maybeSent

theorem foldl_abandonWake (attempt : Attempt) (now : Time) (s : Store) (ws : List TaskWait) :
    (ws.foldl (abandonWake attempt now) s).taskWaits =
      s.taskWaits.putAll (ws.map fun w => { w with delivery := "abandoned" }) ∧
    (ws.foldl (abandonWake attempt now) s).attempts = s.attempts := by
  induction ws generalizing s with
  | nil => exact ⟨rfl, rfl⟩
  | cons w ws ih =>
    rw [foldl_cons, (ih _).1, (ih _).2, abandonWake, recordTaskWaitEvent_taskWaits,
      recordTaskWaitEvent_attempts]
    exact ⟨rfl, rfl⟩

theorem awaitingWakes_ok {wake : Option TaskWaitWakeContext}
    (h : awaitingWakes waits now s id = .ok (s', wake)) :
    s'.attempts = s.attempts ∧ ∃ closed : List TaskWait,
      (∀ w, w ∈ closed ↔ w ∈ waits ∧ w.attemptID = id ∧ s.closesWake w = true) ∧
      s'.taskWaits = s.taskWaits.putAll (closed.map fun w => { w with delivery := "abandoned" }) := by
  unfold awaitingWakes at h
  dsimp only at h
  obtain ⟨attempt, hattempt, h⟩ := of_bind h
  have hfound := loadAttempt_ok hattempt
  generalize hclosed : filter (fun w : TaskWait => w.stale attempt && !w.maybeSent) _ = closed at h
  have hmem : ∀ w, w ∈ closed ↔ w ∈ waits ∧ w.attemptID = id ∧ s.closesWake w = true := by
    intro w
    rw [← hclosed]
    simp only [mem_filter, mem_insertionSort, closesWake, and_eq_true, decide_eq_true_eq]
    constructor
    · rintro ⟨⟨hw, hawaits, rfl⟩, hstale, hunsent⟩
      exact ⟨hw, rfl, ⟨hawaits, by rw [hfound]; exact hstale⟩, hunsent⟩
    · rintro ⟨hw, rfl, ⟨hawaits, hstale⟩, hunsent⟩
      rw [hfound] at hstale
      exact ⟨⟨hw, hawaits, rfl⟩, hstale, hunsent⟩
  have hdone : ∀ final, final = closed.foldl (abandonWake attempt now) s →
      final.attempts = s.attempts ∧ ∃ closed : List TaskWait,
        (∀ w, w ∈ closed ↔ w ∈ waits ∧ w.attemptID = id ∧ s.closesWake w = true) ∧
        final.taskWaits = s.taskWaits.putAll
        (closed.map fun w => { w with delivery := "abandoned" }) := by
    rintro final rfl
    exact ⟨(foldl_abandonWake attempt now s closed).2, closed, hmem,
      (foldl_abandonWake attempt now s closed).1⟩
  split_ifs at h
  · cases h
    exact hdone _ rfl
  · obtain ⟨assignment, -, h⟩ := of_bind h
    cases h
    exact hdone _ rfl

theorem awaitingAll_ok {ids : List String} (h : awaitingAll waits now s ids = .ok (s', wakes)) :
    s'.attempts = s.attempts ∧ ∃ closed : List TaskWait,
      (∀ w, w ∈ closed ↔ w ∈ waits ∧ w.attemptID ∈ ids ∧ s.closesWake w = true) ∧
      s'.taskWaits = s.taskWaits.putAll (closed.map fun w => { w with delivery := "abandoned" }) := by
  induction ids generalizing s wakes with
  | nil =>
    cases h
    exact ⟨rfl, [], by simp, rfl⟩
  | cons id ids ih =>
    obtain ⟨⟨mid, wake⟩, hfirst, h⟩ := of_bind h
    obtain ⟨⟨final, rest⟩, hrest, h⟩ := of_bind h
    cases h
    obtain ⟨hattempts, closed, hclosed, hwaits⟩ := awaitingWakes_ok hfirst
    obtain ⟨hattempts', closed', hclosed', hwaits'⟩ := ih hrest
    refine ⟨hattempts'.trans hattempts, closed ++ closed', fun w => ?_, ?_⟩
    · have hsame : mid.closesWake w = s.closesWake w := by unfold closesWake; rw [hattempts]
      rw [mem_append, hclosed, hclosed', hsame, mem_cons]
      tauto
    · rw [hwaits', hwaits, map_append, putAll, putAll, putAll, foldl_append]

/-- What a listing does to a wait: its group is reconciled, and then it is closed if its turn is
gone. -/
theorem taskWakesAwaitingDelivery_ok (h : s.taskWakesAwaitingDelivery now = .ok (s', wakes)) :
    s'.attempts = s.attempts ∧
    Paired (fun w w' => ∃ mid, mid = s.reconciledWait s.taskWaits.rows now w ∧
      (s.closesWake mid = true ∧ w' = { mid with delivery := "abandoned" } ∨
        s.closesWake mid = false ∧ w' = mid)) s.taskWaits s'.taskWaits := by
  unfold taskWakesAwaitingDelivery at h
  obtain ⟨hattempts, closed, hclosed, hwaits⟩ := awaitingAll_ok h
  obtain ⟨hrows, hsame⟩ := reconcileTaskWakeGroups_waits s s.taskWaits.rows now
  have hreconciled : Paired (fun w w' => w' = s.reconciledWait s.taskWaits.rows now w)
      s.taskWaits (s.reconcileTaskWakeGroups s.taskWaits.rows now).taskWaits := by
    rw [hrows]
    refine (Paired.of_putAll (fun w hw => hw)
      fun w _ => (reconciledWait_spec s s.taskWaits.rows now w).2.1).mono ?_
    rintro w hw w' - (⟨-, rfl⟩ | ⟨hout, -⟩)
    · rfl
    · exact absurd hw hout
  have hmem : ∀ w ∈ (s.reconcileTaskWakeGroups s.taskWaits.rows now).taskWaits.rows,
      w ∈ s.taskWaits.rows.map (s.reconciledWait s.taskWaits.rows now) := by
    intro w hw
    obtain ⟨v, hv, -, rfl⟩ := hreconciled.backward w hw
    exact mem_map_of_mem hv
  have hback : ∀ w ∈ s.taskWaits.rows.map (s.reconciledWait s.taskWaits.rows now),
      w ∈ (s.reconcileTaskWakeGroups s.taskWaits.rows now).taskWaits.rows := by
    intro w hw
    obtain ⟨v, hv, rfl⟩ := mem_map.1 hw
    obtain ⟨w', hw', -, rfl⟩ := hreconciled.forward v hv
    exact hw'
  have hcloses : ∀ w, (s.reconcileTaskWakeGroups s.taskWaits.rows now).closesWake w =
    s.closesWake w := by
    intro w
    unfold closesWake
    rw [hsame]
  have hclosing := Paired.of_putAll (f := fun w : TaskWait => { w with delivery := "abandoned" })
    (fun w hw => hback w ((hclosed w).1 hw).1) fun w _ => rfl
  refine ⟨hattempts.trans hsame, ?_⟩
  rw [hwaits]
  refine (hreconciled.comp hclosing).mono ?_
  rintro w - w'' - ⟨mid, hmid, rfl, hlast⟩
  refine ⟨_, rfl, ?_⟩
  rcases hlast with ⟨hin, rfl⟩ | ⟨hout, rfl⟩
  · exact .inl ⟨(hcloses _).symm.trans ((hclosed _).1 hin).2.2, rfl⟩
  · refine .inr ⟨?_, rfl⟩
    by_contra hcloses'
    rw [not_eq_false] at hcloses'
    refine hout ((hclosed _).2 ⟨hmem _ hmid, ?_, (hcloses _).trans hcloses'⟩)
    rw [mem_insertionSort, mem_dedup, mem_map]
    refine ⟨_, mem_filter.2 ⟨hmem _ hmid, ?_⟩, rfl⟩
    simp only [closesWake, and_eq_true] at hcloses'
    exact hcloses'.1.1

end Store

end Steward
