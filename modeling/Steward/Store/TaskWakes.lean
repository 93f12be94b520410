import Steward.Store.ExecutorCapacity
import Steward.Store.TaskWaits

/-!
# Waking parked attempts

`WakeTaskWaitsBefore` of `internal/store/sqlite/task_wait.go`: one pass over the attempts whose
wake set is ready, in the order their waits settled. Each is resumed, abandoned with its
execution, told of a settlement while it runs, or left settled and unwoken for a later pass.
-/

namespace Steward

open Except

/-- An older ordinary contender a wake is served behind. -/
structure TaskWakeCutoff where
  readyAt : Time := 0
  attemptID : String := ""
deriving DecidableEq

/-- The current evidence about a worker that a coordinator pass supplies. -/
structure TaskWakeWorkerAuthorization where
  workerEpoch : String := ""
  snapshotSequence : Int := 0
  catalogRevision : String := ""
  validUntil : Time := 0
  providers : List WorkerProviderInventory := []
  projects : List WorkerProjectInventory := []
deriving DecidableEq

/-- What bounds one wake pass. `authorizedWorkers` is `none` for the bare pass without worker
evidence; the contending worker and pool restrict it to the wakes that share one. -/
structure TaskWakeCutoffs where
  (worker pool : List (String × TaskWakeCutoff) := [])
  authorizedWorkers : Option (List (String × TaskWakeWorkerAuthorization)) := none
  admissionValidAfter : Time := 0
  (contendingWorker contendingPool : String := "")
deriving DecidableEq

def TaskWakeCutoffs.contending (c : TaskWakeCutoffs) : Bool :=
  c.contendingWorker ≠ "" ∨ c.contendingPool ≠ ""

def TaskWakeCutoffs.shares (c : TaskWakeCutoffs) (a : Assignment) : Bool :=
  a.workerID = c.contendingWorker ∨ a.route.quotaPoolID = c.contendingPool

structure WakeCandidate where
  attemptID : String := ""
  settled : Time := 0
  ready : List TaskWait := []
deriving DecidableEq

def WakeCandidate.newerThan (c : WakeCandidate) (cutoff : TaskWakeCutoff) : Bool :=
  cutoff.readyAt < c.settled ∨ (c.settled = cutoff.readyAt ∧ cutoff.attemptID ≤ c.attemptID)

/-- What admission says about one wake: resume it, leave it for a later pass with a reason, or
leave it to the pass it belongs to. -/
inductive WakeDecision
  | resume
  | defer (code detail workerID poolID : String)
  | skip
deriving DecidableEq

def authorizedTaskWakeRoute (providers : List WorkerProviderInventory) (route : ProviderRoute) :
    Bool :=
  providers.any fun p => p.available ∧ p.instanceID = route.providerInstanceID ∧
    p.quotaPoolID = route.quotaPoolID ∧ route.model ∈ p.models

def authorizedTaskWakeProject (projects : List WorkerProjectInventory) (project : String) : Bool :=
  project ≠ "" ∧ projects.any fun p => p.name = project ∧ p.available

def workerUnavailableWakeDetail (workerID : String) : String :=
  "worker " ++ quote workerID ++ ", which holds the parked workspace, has no current authorized " ++
    "snapshot offering this route and project; the wake waits for it, and is abandoned only if the " ++
    "worker returns without the execution"

def earliestSettled (ready : List TaskWait) : Time :=
  match ready with
  | [] => 0
  | w :: ws => ws.foldl (fun t v => min t (v.settledAt.getD 0)) (w.settledAt.getD 0)

namespace Store

variable (s : Store)

def waitsOf (attemptID : String) : List TaskWait :=
  s.taskWaits.rows.filter fun w => w.attemptID = attemptID

def wakeCandidates : List WakeCandidate :=
  let candidates := (s.taskWaits.rows.map TaskWait.attemptID).dedup.filterMap fun id =>
    (taskWaitWakeSet (s.waitsOf id)).map fun ready =>
      { attemptID := id, settled := earliestSettled ready, ready := ready : WakeCandidate }
  candidates.insertionSort fun a b =>
    a.settled < b.settled ∨ (a.settled = b.settled ∧ a.attemptID ≤ b.attemptID)

def hasReadyTaskWaits : Bool :=
  s.taskWaits.rows.any fun w => w.ready ∧
    (w.wake = .each ∨ ¬∃ v ∈ s.taskWaits.rows, v.attemptID = w.attemptID ∧ v.live)

/-! ## Admission -/

variable (cutoffs : TaskWakeCutoffs) (ready : List TaskWait) (c : WakeCandidate) (attempt : Attempt)
  (assignment : Assignment) (now : Time)

def frozenTaskWakeProject : Except Err String :=
  match s.workflowRuns.get? attempt.workflowRunID with
  | none => .error { text := "load wake workflow run " ++ quote attempt.workflowRunID
                     sentinel := some .noRows }
  | some run =>
    match s.workflows.get? run.workflowID with
    | none => .error { text := "load wake workflow " ++ quote run.workflowID, sentinel := some .noRows }
    | some workflow =>
      if assignment.project ≠ "" ∧ assignment.project ≠ workflow.project then
        .error
          { text := "assignment " ++ quote assignment.id ++ " frozen project " ++
              quote assignment.project ++ " disagrees with workflow " ++ quote workflow.id ++
              " project " ++ quote workflow.project }
      else .ok workflow.project

/-- Whether the worker that holds the parked workspace still offers its route and project, by the
evidence of the pass and by the snapshot on record. -/
def wakeWorkerCurrent (project : String) (now : Time) : Bool :=
  match (cutoffs.authorizedWorkers.getD []).lookup assignment.workerID,
    s.loadWorkerSnapshot assignment.workerID with
  | some authorization, some snapshot =>
    authorization.workerEpoch = assignment.workerEpoch ∧ ¬authorization.validUntil < now ∧
      authorizedTaskWakeProject authorization.projects project ∧
      snapshot.workerEpoch = authorization.workerEpoch ∧
      snapshot.sequence = authorization.snapshotSequence ∧
      snapshot.inventory.catalogRevision = authorization.catalogRevision ∧
      ¬snapshot.validUntil < now ∧
      authorizedTaskWakeRoute snapshot.inventory.providers assignment.route ∧
      authorizedTaskWakeProject snapshot.inventory.projects project ∧
      authorizedTaskWakeRoute authorization.providers assignment.route
  | _, _ => false

def poolOpen (pool : QuotaPool) : Bool :=
  cutoffs.admissionValidAfter ≠ 0 ∧
    (pool.checksDisabled ∨ "-free".toList <:+ pool.id.toList ∨
      s.quotaAdmissions.rows.any fun a => a.quotaPoolID = pool.id ∧
        ¬a.observedAt < cutoffs.admissionValidAfter ∧
        (a.admission = .open ∨
          (attempt.adminForceStart ∧ (a.admission = .constrained ∨ a.admission = .recovering))))

def poolActive (poolID : String) : List Assignment → Except Err Int
  | [] => .ok 0
  | other :: rest =>
    if other.route.quotaPoolID ≠ poolID then poolActive poolID rest
    else do
      let owner ← s.loadAttempt other.attemptID
      let active ← poolActive poolID rest
      .ok (if assignmentOwnsExecutorCapacity owner other then active + 1 else active)

def wakePoolDecision : Except Err WakeDecision :=
  let poolID := assignment.route.quotaPoolID
  if poolID = "" then .ok .resume
  else
    match s.quotaPools.get? poolID with
    | none =>
      .ok (.defer "wake-quota-admission"
        ("quota pool " ++ quote poolID ++ " has no current open admission")
        assignment.workerID poolID)
    | some pool =>
      if !s.poolOpen cutoffs attempt pool then
        .ok (.defer "wake-quota-admission"
          ("quota pool " ++ quote poolID ++ " has no current open admission")
          assignment.workerID poolID)
      else do
        let active ← s.poolActive poolID s.assignments.rows
        if 0 < pool.maxConcurrent ∧ pool.maxConcurrent ≤ active then
          .ok (.defer "wake-pool-concurrency"
            ("quota pool " ++ quote poolID ++ " has " ++ toString active ++
              " assignments holding slots at its concurrency limit of " ++
              toString pool.maxConcurrent)
            assignment.workerID poolID)
        else .ok .resume

def wakeCapacityDecision : Except Err WakeDecision :=
  match s.requireExecutorCapacity assignment.workerID now assignment.workerEpoch
      (assignmentExecutorDemand attempt assignment) with
  | .ok _ => .ok .resume
  | .error e =>
    if e.sentinel = some .executorCapacity ∨ e.sentinel = some .executorCapacityEvidence then
      .ok (.defer "wake-executor-capacity" e.text assignment.workerID assignment.route.quotaPoolID)
    else .error e

def wakeWorkerReady : Except Err Bool :=
  if assignment.route.providerInstanceID = "" then .ok true
  else do
    let project ← s.frozenTaskWakeProject attempt assignment
    .ok (s.wakeWorkerCurrent cutoffs assignment project now)

def wakeResourceDecision : Except Err WakeDecision := do
  let decision ← s.wakePoolDecision cutoffs attempt assignment
  match decision with
  | .resume => s.wakeCapacityDecision attempt assignment now
  | other => .ok other

/-- The admission of one wake: the worker's evidence, the older contenders, the quota pool and the
executor capacity, in that order. -/
def wakeDecision : Except Err WakeDecision := do
  let current ← s.wakeWorkerReady cutoffs attempt assignment now
  if !current then
    .ok (.defer "wake-worker-unavailable" (workerUnavailableWakeDetail assignment.workerID)
      assignment.workerID "")
  else
    match cutoffs.worker.lookup assignment.workerID |>.filter c.newerThan with
    | some cutoff =>
      .ok (.defer "wake-yields-to-older-work"
        ("attempt " ++ quote cutoff.attemptID ++
        ", ready before this wait settled, is served first " ++
          "on worker " ++ quote assignment.workerID) assignment.workerID "")
    | none =>
      let poolID := assignment.route.quotaPoolID
      if cutoffs.contending ∧ !cutoffs.shares assignment then .ok .skip
      else
        match cutoffs.pool.lookup poolID |>.filter c.newerThan with
        | some cutoff =>
          .ok (.defer "wake-yields-to-older-work"
            ("attempt " ++ quote cutoff.attemptID ++ ", ready before this wait settled, is served " ++
              "first in quota pool " ++ quote poolID) assignment.workerID poolID)
        | none => s.wakeResourceDecision cutoffs attempt assignment now

/-! ## What a pass writes -/

def wokenWait (firstID : String) (attempt : Attempt) (delivery : String) (resumption : Bool)
    (now : Time) (w : TaskWait) : TaskWait :=
  { w with
    wokenAt := some now
    delivery := delivery
    wakeRevision := attempt.revision
    resumption := resumption
    deliveryID :=
      if w.deliveryID = "" then "task-wake:" ++ firstID ++ ":" ++ toString attempt.revision
      else w.deliveryID }

def saveTaskWaits (waits : List TaskWait) : Store := { s with taskWaits := s.taskWaits.putAll waits }

def wokenWaits (delivery : String) (resumption : Bool) (now : Time) : List TaskWait :=
  ready.map (wokenWait ((ready.head?.map TaskWait.id).getD "") attempt delivery resumption now)

def markTaskWaitsWoken (delivery : String) (resumption : Bool) (now : Time) : Store :=
  s.saveTaskWaits (wokenWaits ready attempt delivery resumption now)

/-- A wait that carries the reason its wake was deferred. A reason that is already recorded is
kept, and the same cause keeps the instant it was first observed. -/
def deferredWait (code detail workerID poolID : String) (now : Time) (w : TaskWait) : TaskWait :=
  match w.wakeDeferral with
  | none =>
    { w with
      wakeDeferral := some
        { code := code, detail := detail, workerID := workerID, poolID := poolID, observedAt := now } }
  | some previous =>
    if previous.code = code ∧ previous.detail = detail ∧ previous.workerID = workerID ∧
        previous.poolID = poolID then w
    else
      { w with
        wakeDeferral := some
          { code := code, detail := detail, workerID := workerID, poolID := poolID
            observedAt := if previous.code = code then previous.observedAt else now } }

def deferTaskWake (code detail workerID poolID : String) (now : Time) : Store :=
  match cutoffs.authorizedWorkers with
  | none => s
  | some _ => s.saveTaskWaits (ready.map (deferredWait code detail workerID poolID now))

def taskWaitExecutionAbandoned : Except Err (Option String) :=
  if attempt.assignmentID = "" then .ok none
  else do
    let assignment ← s.loadAssignment attempt.assignmentID
    if assignment.attemptID ≠ attempt.id then
      .ok (some ("assignment " ++ quote assignment.id ++ " no longer owns parked attempt " ++
        quote attempt.id))
    else if assignment.state.settled then
      .ok (some ("assignment " ++ quote assignment.id ++ " settled as " ++ quote assignment.state.text ++
        " while attempt " ++ quote attempt.id ++
        " was parked on a task-bound wait; the execution cannot be resumed"))
    else .ok none

variable (reason : String) (now : Time)

def revokedAssignment (a : Assignment) : Assignment :=
  { a with
    dispatchToken := ""
    dispatchError := "task authority revoked: " ++ reason
    updatedAt := now }

def revokedAttempt : Attempt :=
  { attempt with
    revision := attempt.revision + 1
    progress := .failed
    control := .stopped
    failure := reason
    completedAt := some now
    updatedAt := now }

def revokeTaskAuthority : Except Err Store :=
  let held := s.assignments.rows.filter fun a => a.attemptID = attempt.id ∧ a.dispatchToken ≠ ""
  let threadID := (((held.filter fun a => a.threadID ≠ "").getLast?).map Assignment.threadID).getD
    attempt.threadID
  let s := { s with assignments := s.assignments.putAll (held.map (revokedAssignment reason now)) }
  let s := s.recordTaskWaitEvent
    { id := "revocation:" ++ attempt.id, kind := .authorityRevoked, attemptID := attempt.id
      threadID := threadID, detail := reason, observedAt := now }
  if attempt.progress.terminal then .ok s
  else s.saveAttemptFenced (revokedAttempt attempt reason now) attempt.revision

def resumedAttempt : Attempt :=
  { attempt with
    revision := attempt.revision + 1
    progress := .active
    control := .resuming
    lastTurnOutcomeID := ""
    lastTurnOutcomeMarker := .unset
    updatedAt := now }

def resumeWake : Except Err (Store × Option TaskWaitWakeContext) := do
  let resumed := resumedAttempt attempt now
  let s ← s.saveAttemptFenced resumed attempt.revision
  let cleared := c.ready.map fun w => { w with wakeDeferral := none }
  let woken := wokenWaits cleared resumed "pending" true now
  .ok (s.saveTaskWaits woken,
    some { attemptID := c.attemptID, threadID := resumed.threadID, attemptRevision := resumed.revision
           waits := woken })

def applyWakeDecision :
    WakeDecision → Except Err (Store × Option TaskWaitWakeContext)
  | .skip => .ok (s, none)
  | .defer code detail workerID poolID =>
    .ok (s.deferTaskWake cutoffs c.ready code detail workerID poolID now, none)
  | .resume => s.resumeWake c attempt now

def wakeParked : Except Err (Store × Option TaskWaitWakeContext) := do
  let abandoned ← s.taskWaitExecutionAbandoned attempt
  match abandoned with
  | some reason => do
    let s ← s.revokeTaskAuthority attempt reason now
    .ok (s.markTaskWaitsWoken c.ready attempt "abandoned" false now, none)
  | none => do
    let assignment ← s.loadAssignment attempt.assignmentID
    let decision ← s.wakeDecision cutoffs c attempt assignment now
    s.applyWakeDecision cutoffs c attempt now decision

def outOfScope : Except Err Bool :=
  if attempt.progress.terminal ∨ !cutoffs.contending then .ok false
  else if attempt.assignmentID = "" then .ok true
  else do
    let assignment ← s.loadAssignment attempt.assignmentID
    .ok (!cutoffs.shares assignment)

def undeliveredEvent : TaskWaitReconciliation :=
  let firstID := (c.ready.head?.map TaskWait.id).getD ""
  { id := "undelivered:" ++ firstID, kind := .undelivered, attemptID := c.attemptID, waitID := firstID
    threadID := attempt.threadID
    detail := "wait settled after attempt " ++ quote c.attemptID ++ " became " ++
      quote attempt.progress.text ++ "; the outcome could not be delivered"
    observedAt := now }

def wakeCandidate (c : WakeCandidate) : Except Err (Store × Option TaskWaitWakeContext) := do
  let attempt ← s.loadAttempt c.attemptID
  let elsewhere ← s.outOfScope cutoffs attempt
  if elsewhere then .ok (s, none)
  else if attempt.progress.terminal then
    let s := s.markTaskWaitsWoken c.ready attempt "abandoned" false now
    .ok (s.recordTaskWaitEvent (undeliveredEvent c attempt now), none)
  else if attempt.progress ≠ .waitingExternal then
    -- An earlier settlement already resumed the attempt; this one is told to the running turn.
    .ok (s.markTaskWaitsWoken c.ready attempt "pending" false now,
      some { attemptID := c.attemptID, threadID := attempt.threadID
             attemptRevision := attempt.revision
             waits := wokenWaits c.ready attempt "pending" false now })
  else s.wakeParked cutoffs c attempt now

def wakeAll (cutoffs : TaskWakeCutoffs) (now : Time) :
    Store → List WakeCandidate → Except Err (Store × List TaskWaitWakeContext)
  | s, [] => .ok (s, [])
  | s, c :: rest => do
    let (s, wake) ← s.wakeCandidate cutoffs now c
    let (s, wakes) ← wakeAll cutoffs now s rest
    .ok (s, wake.toList ++ wakes)

def wakeTaskWaitsBefore (cutoffs : TaskWakeCutoffs) :
    Except Err (Store × List TaskWaitWakeContext) := do
  refuseWhen (now = 0) { text := "task-bound wait wake needs a timestamp" }
  wakeAll cutoffs now s s.wakeCandidates

/-! ## What a pass does to one attempt -/

/-- A row left for a later pass: only the reason may be new, and a pass with worker evidence that is
not restricted to a bottleneck gives one. -/
def LeftRow (cutoffs : TaskWakeCutoffs) (w w' : TaskWait) : Prop :=
  ∃ deferral, w' = { w with wakeDeferral := deferral } ∧
    (deferral ≠ none ∨ cutoffs.authorizedWorkers = none ∨ cutoffs.contending = true)

/-- A row marked woken with the revision of an attempt. -/
def WokenRow (c : WakeCandidate) (marked : Attempt) (delivery : String) (now : Time)
    (w w' : TaskWait) : Prop :=
  ∃ resumption deferral, w' = wokenWait ((c.ready.head?.map TaskWait.id).getD "") marked delivery
    resumption now { w with wakeDeferral := deferral }

/-- The rows of a wake set are rewritten; throttles and audits are as they were. -/
structure RewritesSet (c : WakeCandidate) (R : TaskWait → TaskWait → Prop) (s s' : Store) : Prop where
  waits : s'.taskWaits = s.taskWaits ∧ (∀ w, R w w) ∨
    ∃ f, (∀ w ∈ c.ready, R w (f w)) ∧ s'.taskWaits = s.taskWaits.putAll (c.ready.map f)
  throttleAttempts : s'.throttleAttempts = s.throttleAttempts
  auditEvents : s'.auditEvents = s.auditEvents

structure LeavesSet (cutoffs : TaskWakeCutoffs) (c : WakeCandidate) (s s' : Store) : Prop
    extends RewritesSet c (LeftRow cutoffs) s s' where
  attempts : s'.attempts = s.attempts

/-- The attempt a pass takes out of its park: resumed, or failed with its execution. -/
structure Unparked (attempt next : Attempt) : Prop where
  id : next.id = attempt.id
  parked : attempt.progress = .waitingExternal
  progress : next.progress ≠ .waitingExternal
  control : next.control ≠ .waitingExternal
  revision : next.revision = attempt.revision + 1

/-- The wake set is marked woken, and an attempt that was parked is not any more. -/
structure WakesSet (c : WakeCandidate) (attempt : Attempt) (now : Time) (s s' : Store) : Prop where
  attempts : attempt.progress ≠ .waitingExternal ∧ s'.attempts = s.attempts ∨
    ∃ next, Unparked attempt next ∧ s'.attempts = s.attempts.put next
  rows : ∃ marked delivery, (delivery = "pending" ∨ delivery = "abandoned") ∧
    RewritesSet c (WokenRow c marked delivery now) s s'

section

variable {s s' : Store} {cutoffs : TaskWakeCutoffs} {c : WakeCandidate} {attempt : Attempt}
  {now : Time} {wake : Option TaskWaitWakeContext}

theorem LeavesSet.refl (h : cutoffs.authorizedWorkers = none ∨ cutoffs.contending = true) :
    LeavesSet cutoffs c s s :=
  ⟨⟨.inl ⟨rfl, fun w => ⟨w.wakeDeferral, rfl, .inr h⟩⟩, rfl, rfl⟩, rfl⟩

theorem deferredWait_left (code detail workerID poolID : String) (now : Time) (w : TaskWait) :
    LeftRow cutoffs w (deferredWait code detail workerID poolID now w) := by
  unfold deferredWait
  split
  · exact ⟨_, rfl, .inl (by simp)⟩
  · rename_i previous hprevious
    split
    · exact ⟨some previous, by rw [← hprevious], .inl (by simp)⟩
    · exact ⟨_, rfl, .inl (by simp)⟩

theorem deferTaskWake_leaves {code detail workerID poolID : String} :
    LeavesSet cutoffs c s (s.deferTaskWake cutoffs c.ready code detail workerID poolID now) := by
  unfold deferTaskWake
  split
  · rename_i hbare
    exact LeavesSet.refl (.inl hbare)
  · exact ⟨⟨.inr ⟨_, fun w _ => deferredWait_left code detail workerID poolID now w, rfl⟩, rfl,
      rfl⟩, rfl⟩

theorem markTaskWaitsWoken_rows (s : Store) (c : WakeCandidate) (attempt : Attempt)
    (delivery : String) (resumption : Bool) (now : Time) :
    RewritesSet c (WokenRow c attempt delivery now) s
      (s.markTaskWaitsWoken c.ready attempt delivery resumption now) :=
  ⟨.inr ⟨_, fun w _ => ⟨resumption, w.wakeDeferral, rfl⟩, rfl⟩, rfl, rfl⟩

theorem revokeTaskAuthority_ok {reason : String} (hparked : attempt.progress = .waitingExternal)
    (h : s.revokeTaskAuthority attempt reason now = .ok s') :
    ∃ next assignments events, Unparked attempt next ∧
      s' = { s with attempts := s.attempts.put next, assignments := assignments
                    taskWaitEvents := events } := by
  unfold revokeTaskAuthority at h
  simp only [hparked, ProgressState.terminal, Bool.false_eq_true, if_false] at h
  obtain ⟨-, rfl⟩ := saveAttemptFenced_ok h
  obtain ⟨events, hevent⟩ := recordTaskWaitEvent_eq _ _
  rw [hevent]
  exact ⟨revokedAttempt attempt reason now, _, events, ⟨rfl, hparked, by simp [revokedAttempt],
    by simp [revokedAttempt], rfl⟩, rfl⟩

theorem resumeWake_ok (hparked : attempt.progress = .waitingExternal)
    (h : s.resumeWake c attempt now = .ok (s', wake)) : WakesSet c attempt now s s' := by
  obtain ⟨written, hwrite, h⟩ := of_bind h
  obtain ⟨-, rfl⟩ := saveAttemptFenced_ok hwrite
  cases h
  refine ⟨.inr ⟨resumedAttempt attempt now, ⟨rfl, hparked, by simp [resumedAttempt],
    by simp [resumedAttempt], rfl⟩, rfl⟩, resumedAttempt attempt now, "pending", .inl rfl, .inr ?_, rfl, rfl⟩
  have hfirst : ((c.ready.map fun w => { w with wakeDeferral := none }).head?.map TaskWait.id) =
      c.ready.head?.map TaskWait.id := by
    cases c.ready <;> rfl
  unfold saveTaskWaits wokenWaits
  rw [hfirst, List.map_map]
  exact ⟨_, fun w _ => ⟨true, none, rfl⟩, rfl⟩

theorem wakeResourceDecision_ne_skip {assignment : Assignment} :
    s.wakeResourceDecision cutoffs attempt assignment now ≠ .ok .skip := by
  intro h
  obtain ⟨decision, hpool, h⟩ := of_bind h
  cases decision with
  | resume =>
    dsimp only at h
    unfold wakeCapacityDecision at h
    split at h
    · cases h
    · split_ifs at h
      cases h
  | defer code detail workerID poolID => cases h
  | skip =>
    unfold wakePoolDecision at hpool
    dsimp only at hpool
    split_ifs at hpool
    · cases hpool
    · split at hpool
      · cases hpool
      · split_ifs at hpool
        · cases hpool
        · obtain ⟨active, -, hpool⟩ := of_bind hpool
          split_ifs at hpool <;> cases hpool

theorem wakeDecision_skip {assignment : Assignment}
    (h : s.wakeDecision cutoffs c attempt assignment now = .ok .skip) :
    cutoffs.contending = true := by
  obtain ⟨current, -, h⟩ := of_bind h
  split at h
  · cases h
  · split at h
    · cases h
    · dsimp only at h
      split_ifs at h with hrestricted
      · exact hrestricted.1
      · split at h
        · cases h
        · exact absurd h wakeResourceDecision_ne_skip

theorem wakeParked_ok (hparked : attempt.progress = .waitingExternal)
    (h : s.wakeParked cutoffs c attempt now = .ok (s', wake)) :
    LeavesSet cutoffs c s s' ∨ WakesSet c attempt now s s' := by
  obtain ⟨abandoned, -, h⟩ := of_bind h
  cases abandoned with
  | some reason =>
    obtain ⟨revoked, hrevoke, h⟩ := of_bind h
    cases h
    obtain ⟨next, assignments, events, hnext, rfl⟩ := revokeTaskAuthority_ok hparked hrevoke
    obtain ⟨hwaits, -⟩ := markTaskWaitsWoken_rows s c attempt "abandoned" false now
    exact .inr ⟨.inr ⟨next, hnext, rfl⟩, attempt, "abandoned", .inr rfl, hwaits, rfl, rfl⟩
  | none =>
    obtain ⟨assignment, -, h⟩ := of_bind h
    obtain ⟨decision, hdecision, h⟩ := of_bind h
    cases decision with
    | skip =>
      cases h
      exact .inl (LeavesSet.refl (.inr (wakeDecision_skip hdecision)))
    | defer code detail workerID poolID =>
      cases h
      exact .inl deferTaskWake_leaves
    | resume => exact .inr (resumeWake_ok hparked h)

/-- Each ready attempt is left, or has its wake set marked. An attempt that is left is not
terminal. -/
theorem wakeCandidate_ok (h : s.wakeCandidate cutoffs now c = .ok (s', wake)) :
    ∃ attempt, s.attempts.get? c.attemptID = some attempt ∧
      (attempt.progress.terminal = false ∧ LeavesSet cutoffs c s s' ∨ WakesSet c attempt now s s') := by
  obtain ⟨attempt, hattempt, h⟩ := of_bind h
  obtain ⟨elsewhere, hscope, h⟩ := of_bind h
  refine ⟨attempt, loadAttempt_ok hattempt, ?_⟩
  split_ifs at h with helsewhere hterminal hrunning
  · cases h
    unfold outOfScope at hscope
    split_ifs at hscope with hall
    · cases helsewhere.symm.trans (ok.inj hscope).symm
    all_goals
      obtain ⟨hopen, hcontending⟩ := not_or.1 hall
      exact .inl ⟨by simpa using hopen, LeavesSet.refl (.inr (by simpa using hcontending))⟩
  · cases h
    obtain ⟨events, hevent⟩ := recordTaskWaitEvent_eq
      (s.markTaskWaitsWoken c.ready attempt "abandoned" false now) (undeliveredEvent c attempt now)
    rw [hevent]
    obtain ⟨hwaits, -⟩ := markTaskWaitsWoken_rows s c attempt "abandoned" false now
    refine .inr ⟨.inl ⟨fun hparked => ?_, rfl⟩, attempt, "abandoned", .inr rfl, hwaits, rfl, rfl⟩
    rw [hparked] at hterminal
    cases hterminal
  · cases h
    exact .inr ⟨.inl ⟨hrunning, rfl⟩, attempt, "pending", .inl rfl,
      markTaskWaitsWoken_rows s c attempt "pending" false now⟩
  · rw [not_not] at hrunning
    exact (wakeParked_ok hrunning h).imp_left fun hleft => ⟨by rw [hrunning]; rfl, hleft⟩

end

end Store

end Steward
