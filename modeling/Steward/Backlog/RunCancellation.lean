import Steward.Backlog.DagOperations
import Steward.Store.RunCancel

/-!
# Planning a whole-run cancel

`planRunCancellation` and `planRunClose` of `internal/backlogadmin/execution.go`: the plan is made
over the run's execution graph when some task is unfinished, and over the run's row alone when none
is. It is applied against the revisions it read.
-/

namespace Steward

open Except Table Runs Option

namespace Store

variable (s : Store)

def declaredAttempts (runID : String) : List Attempt :=
  (declaredTaskAttempts s.attempts.rows).filter fun a => a.workflowRunID = runID

def runCancelAnchorID (runID : String) : Option String :=
  (((s.declaredAttempts runID).filter fun a => !a.progress.terminal).map Attempt.id).min?

def cancelledInSnapshot (state : DAGState) (attemptID : String) : Bool :=
  (state.attempts.find? fun a => a.id = attemptID).any fun a => a.progress.terminal

def cancelPending (now : Time) : List Attempt → DAGState → Except Err DAGState
  | [], state => .ok state
  | candidate :: rest, state =>
    if cancelledInSnapshot state candidate.id then cancelPending now rest state
    else
      match state.cancelTask candidate.taskID now with
      | (_, some e) => .error e
      | (state, none) => cancelPending now rest state

def collectCancelledAttempts (state : DAGState) (original : List Attempt) : List Attempt :=
  state.attempts.filterMap fun candidate =>
    (original.find? fun a => a.id = candidate.id).bind fun previous =>
      if previous.progress.terminal ∨ candidate.progress ≠ .cancelled then none
      else
        some { candidate with revision := previous.revision + 1, adminForceStart := false }

def cancellationGraph (run : WorkflowRun) : DAGState :=
  { run := run, tasks := tasksForRun run s.tasks.rows, attempts := s.declaredAttempts run.id }

def allowedFinishedCommands (progress : ProgressState) : String :=
  match progress with
  | .failed | .cancelled => "retry, skip"
  | _ => "none (the attempt is final; submit a new workflow)"

def planRunCancellation (attempt : Attempt) (run : WorkflowRun) (now : Time) :
    Except Err (Attempt × List Attempt × WorkflowRun) := do
  refuseWhen (attempt.progress.terminal = true)
    { text := "cancel is invalid from " ++ attempt.progress.text ++ "/" ++ attempt.control.text ++
        "; allowed: " ++ allowedFinishedCommands attempt.progress }
  let original := s.declaredAttempts run.id
  let pending := (original.filter fun a => !a.progress.terminal).insertionSort fun a b => a.id ≤ b.id
  let execution ← (newDAGExecution (s.cancellationGraph run)).mapError fun err =>
    { err with text := "build cancellation DAG: " ++ err.text }
  let execution ← cancelPending now pending execution
  let cancelled := collectCancelledAttempts execution.snapshot original
  match cancelled.find? fun a => a.id = attempt.id with
  | none => .error { text := "run cancellation did not update the anchor attempt" }
  | some target =>
    return (target,
      (cancelled.filter fun a => a.id ≠ attempt.id).insertionSort fun a b => a.id ≤ b.id,
      { execution.run with revision := run.revision + 1 })

def planRunClose (runID : String) (now : Time) : Except Err WorkflowRun :=
  match s.workflowRuns.get? runID with
  | none => .error { text := "workflow run " ++ runID ++ " does not exist" }
  | some run =>
    if runSettled run then
      .error
        { text := "run " ++ runID ++ " is already settled as " ++ run.progress.text ++
            "; there is nothing to cancel" }
    else
      match s.runCancelAnchorID runID with
      | some anchor =>
        .error
          { text := "run " ++ runID ++ " has a live task again (attempt " ++ anchor ++
              "); send the cancel again so it fences on that task: t3-steward campaign cancel " ++
              runID ++ " --reason TEXT" }
      | none => .ok { run with revision := run.revision + 1, updatedAt := now }

def commandAttemptContext (id : String) : Except Err (Attempt × WorkflowRun) :=
  match s.attempts.get? id with
  | none => .error { text := "attempt " ++ quote id ++ " not found" }
  | some attempt =>
    match s.workflowRuns.get? attempt.workflowRunID with
    | none => .error { text := "task " ++ quote attempt.taskID ++ " not found" }
    | some run =>
      if (tasksForRun run s.tasks.rows).any fun t => t.id = attempt.taskID then .ok (attempt, run)
      else .error { text := "task " ++ quote attempt.taskID ++ " not found" }

def planAdminCommand (command : AdminCommand) (now : Time) : AdminCommandApplication :=
  let application : AdminCommandApplication :=
    { commandID := command.id, expectedCommandState := .pending
      expectedTargetRevision := command.expectedRevision, state := .applied, appliedAt := now }
  match command.targetType with
  | .attempt =>
    match s.commandAttemptContext command.targetID with
    | .error e => application.reject e.text
    | .ok (attempt, run) =>
      match s.planRunCancellation attempt run now with
      | .error e => application.reject e.text
      | .ok (target, related, run) =>
        { application with
          attempt := some target, relatedAttempts := related, workflowRun := some run }
  | .workflowRun =>
    match s.planRunClose command.targetID now with
    | .error e => application.reject e.text
    | .ok run => { application with workflowRun := some run }
  | _ => application.reject "unsupported admin target"

def cancelRun (resolveNode : Store → NodeRef → Except Err NodeObservation)
    (formatTime : Time → String) (commandID : String) (now : Time) : Except Err (Store × AdminCommand) :=
  match s.adminCommands.get? commandID with
  | none => .error { text := "sql: no rows in result set", sentinel := some .noRows }
  | some command =>
    if command.state ≠ .pending then
      .error { text := "command state is " ++ quote command.state.text ++ ", want pending" }
    else s.applyAdminCommand resolveNode formatTime (s.planAdminCommand command now)

end Store

/-! ## The planned run -/

theorem refreshWith_run (state : DAGState) (now : Time) (touch : Bool) :
    (refreshWith state now touch).run.id = state.run.id ∧
      (refreshWith state now touch).run.sink = state.run.sink := by
  have htasks : ∀ (tasks : List Task) (state : DAGState),
      (tasks.foldl refreshTask state).run = state.run := by
    intro tasks
    induction tasks with
    | nil => exact fun _ => rfl
    | cons t tasks ih =>
      refine fun state => (ih _).trans ?_
      unfold refreshTask
      dsimp only
      split_ifs <;> rfl
  have hrun : ∀ (run : WorkflowRun) (progress : ProgressState),
      (refreshRunWith run progress now touch).id = run.id ∧
        (refreshRunWith run progress now touch).sink = run.sink := by
    intro run progress
    unfold refreshRunWith
    dsimp only
    split_ifs <;> exact ⟨rfl, rfl⟩
  constructor
  · exact (hrun _ _).1.trans (congrArg WorkflowRun.id (htasks _ _))
  · exact (hrun _ _).2.trans (congrArg WorkflowRun.sink (htasks _ _))

theorem cancelTask_run (state : DAGState) (taskID : String) (now : Time) :
    (state.cancelTask taskID now).1.run.id = state.run.id ∧
      (state.cancelTask taskID now).1.run.sink = state.run.sink := by
  unfold DAGState.cancelTask
  split
  · exact ⟨rfl, rfl⟩
  · split
    · exact ⟨rfl, rfl⟩
    · dsimp only
      split
      · exact refreshWith_run _ now true
      · exact ⟨rfl, rfl⟩

namespace Store

variable {command : AdminCommand}

section

variable {s s' : Store} {now : Time}

theorem cancelPending_run {pending : List Attempt} {state state' : DAGState}
    (h : cancelPending now pending state = .ok state') :
    state'.run.id = state.run.id ∧ state'.run.sink = state.run.sink := by
  induction pending generalizing state with
  | nil =>
    cases h
    exact ⟨rfl, rfl⟩
  | cons candidate rest ih =>
    unfold cancelPending at h
    split at h
    · exact ih h
    · have hcancelled := cancelTask_run state candidate.taskID now
      split at h
      · cases h
      · rename_i next hnext
        rw [hnext] at hcancelled
        obtain ⟨hid, hsink⟩ := ih h
        exact ⟨hid.trans hcancelled.1, hsink.trans hcancelled.2⟩

theorem planRunCancellation_run {attempt target : Attempt} {related : List Attempt}
    {run next : WorkflowRun}
    (h : s.planRunCancellation attempt run now = .ok (target, related, next)) :
    next.id = run.id ∧ next.sink = run.sink := by
  replace h := past_guard h
  obtain ⟨execution, hnew, h⟩ := of_bind h
  obtain ⟨cancelled, hpending, h⟩ := of_bind h
  replace hnew : newDAGExecution (s.cancellationGraph run) = .ok execution := by
    cases hdag : newDAGExecution (s.cancellationGraph run) <;> rw [hdag] at hnew <;> cases hnew
    rfl
  obtain ⟨_, -, hnew⟩ := of_bind hnew
  have hrefreshed := refreshWith_run (s.cancellationGraph run) 0 false
  rw [← refresh_eq_refreshWith, ok.inj hnew] at hrefreshed
  obtain ⟨hid, hsink⟩ := cancelPending_run hpending
  dsimp only at h
  split at h
  · cases h
  · obtain ⟨-, hplan⟩ := Prod.mk.inj (ok.inj h)
    rw [← (Prod.mk.inj hplan).2]
    exact ⟨hid.trans hrefreshed.1, hsink.trans hrefreshed.2⟩

theorem planAdminCommand_names (s : Store) (command : AdminCommand) (now : Time) :
    (s.planAdminCommand command now).commandID = command.id ∧
      (s.planAdminCommand command now).expectedCommandState = .pending := by
  unfold planAdminCommand
  split
  · split
    · exact ⟨rfl, rfl⟩
    · split <;> exact ⟨rfl, rfl⟩
  · split <;> exact ⟨rfl, rfl⟩
  · exact ⟨rfl, rfl⟩

theorem planAdminCommand_run {next : WorkflowRun} {target : AdminTarget}
    (htarget : s.loadAdminTarget command.targetType command.targetID = .ok target)
    (h : (s.planAdminCommand command now).workflowRun = some next) :
    ∃ run, s.workflowRuns.get? target.runID = some run ∧ next.id = target.runID ∧
      next.sink = run.sink := by
  unfold planAdminCommand at h
  unfold loadAdminTarget at htarget
  split at h
  · rename_i htype
    rw [htype] at htarget
    split at h
    · cases h
    · rename_i attempt run hcontext
      unfold commandAttemptContext at hcontext
      split at hcontext
      · cases hcontext
      · rename_i row hattempt
        rw [hattempt] at htarget
        cases htarget
        split at hcontext
        · cases hcontext
        · rename_i found hrun
          split_ifs at hcontext
          obtain ⟨rfl, rfl⟩ := Prod.mk.inj (ok.inj hcontext)
          split at h
          · cases h
          · rename_i hplan
            cases h
            obtain ⟨hid, hsink⟩ := planRunCancellation_run hplan
            exact ⟨found, hrun, hid.trans (key_of_get? hrun), hsink⟩
  · rename_i htype
    rw [htype] at htarget
    split at h
    · cases h
    · rename_i run hplan
      cases h
      unfold planRunClose at hplan
      split at hplan
      · cases hplan
      · rename_i row hrow
        rw [hrow] at htarget
        cases htarget
        split_ifs at hplan
        split at hplan
        · cases hplan
        · have hid := key_of_get? hrow
          cases hplan
          exact ⟨row, hrow, hid, rfl⟩
  · cases h

end

/-! ## A run that was cancelled -/

/-- What happens to a run after it was cancelled: further cancels, publications of its projection,
and work that leaves the rows of runs alone. -/
inductive CancelledRunOp
  | cancel (commandID : String) (now : Time)
  | project (before : WorkflowProjectionSnapshot) (run : WorkflowRun) (attempts : List Attempt)
      (now : Time)
  | work (next : Store)

/-- The tasks of a run end as those of a cancelled one: none failed, no fix loop ran out of rounds,
and some task was cancelled. -/
def EndsCancelled (runID : String) (tasks : List Task) (attempts : List Attempt) : Prop :=
  (∀ a ∈ runOutcomes runID tasks attempts, a.progress ≠ .failed) ∧
    (∀ loop ∈ summarizeFixLoops tasks attempts, loop.exhausted = false) ∧
    ∃ a ∈ runOutcomes runID tasks attempts, a.progress = .cancelled

instance (runID : String) (tasks : List Task) (attempts : List Attempt) :
    Decidable (EndsCancelled runID tasks attempts) :=
  inferInstanceAs (Decidable (_ ∧ _ ∧ _))

theorem outcomeProgress_eq_cancelled_iff {runID : String} {tasks : List Task}
    {attempts : List Attempt} : outcomeProgress (runOutcomes runID tasks attempts)
        ((summarizeFixLoops tasks attempts).any FixLoopSummary.exhausted) = .cancelled ↔
      EndsCancelled runID tasks attempts := by
  unfold outcomeProgress EndsCancelled
  by_cases hfailed : ((runOutcomes runID tasks attempts).any (fun a => a.progress = .failed) ||
      (summarizeFixLoops tasks attempts).any FixLoopSummary.exhausted) = true
  · rw [if_pos hfailed]
    refine ⟨fun h => ProgressState.noConfusion h, fun ⟨hnone, hloops, _⟩ => ?_⟩
    rcases Bool.or_eq_true_iff.1 hfailed with hsome | hsome
    · obtain ⟨a, ha, hprogress⟩ := List.any_eq_true.1 hsome
      exact absurd (by simpa using hprogress) (hnone a ha)
    · obtain ⟨loop, hloop, hexhausted⟩ := List.any_eq_true.1 hsome
      rw [hloops loop hloop] at hexhausted
      cases hexhausted
  · rw [if_neg hfailed]
    simp only [Bool.or_eq_true, not_or, List.any_eq_true, not_exists, not_and, decide_eq_true_eq,
      Bool.not_eq_true] at hfailed
    by_cases hcancelled : (runOutcomes runID tasks attempts).any
      (fun a => a.progress = .cancelled) = true
    · rw [if_pos hcancelled]
      refine ⟨fun _ => ⟨hfailed.1, hfailed.2, ?_⟩, fun _ => rfl⟩
      simpa using hcancelled
    · rw [if_neg hcancelled]
      refine ⟨fun h => ?_, fun ⟨_, _, hsome⟩ => absurd (by simpa using hsome) hcancelled⟩
      split_ifs at h

section

variable (resolveNode : Store → NodeRef → Except Err NodeObservation) (formatTime : Time → String)

def cancelledRunStep (s : Store) : CancelledRunOp → Store
  | .cancel commandID now =>
    committed s ((s.cancelRun resolveNode formatTime commandID now).map Prod.fst)
  | .project before run attempts now =>
    committed s (s.commitWorkflowProjection resolveNode before run attempts now)
  | .work next => { next with workflowRuns := s.workflowRuns }

/-- A publication of the run is of tasks that end cancelled. -/
def PublishesCancelled (runID : String) (s : Store) : CancelledRunOp → Prop
  | .project _ run attempts _ => run.id = runID → ∀ current,
      s.loadWorkflowProjection resolveNode runID = .ok current →
      EndsCancelled runID current.tasks attempts
  | _ => True

end

section

variable {resolveNode : Store → NodeRef → Except Err NodeObservation} {formatTime : Time → String}
  {s s' : Store} {runID : String}

def SettledCancelled (s : Store) (runID : String) : Prop :=
  ∀ run, s.workflowRuns.get? runID = some run → sinkSettled run = true → run.progress = .cancelled

theorem cancelRun_pending {commandID : String} {now : Time}
    (h : s.cancelRun resolveNode formatTime commandID now = .ok (s', command)) :
    ∃ pending, s.adminCommands.get? commandID = some pending ∧
      s.applyPendingCommand resolveNode formatTime pending (s.planAdminCommand pending now) =
        .ok (s', command) := by
  unfold cancelRun at h
  split at h
  · cases h
  · rename_i pending hpending
    split_ifs at h with hstate
    obtain ⟨hcommand, hexpected⟩ := planAdminCommand_names s pending now
    have hid := key_of_get? hpending
    replace h := past_guard h
    replace h := past_guard h
    replace h := past_guard h
    rw [hcommand, hid, hpending] at h
    dsimp only at h
    rw [if_neg (by rw [hexpected]; exact hstate)] at h
    exact ⟨pending, hpending, h⟩

theorem writeRunCancel_planned {target : AdminTarget} {now : Time}
    (htarget : s.loadAdminTarget command.targetType command.targetID = .ok target)
    (h : s.writeRunCancel command (s.planAdminCommand command now) = .ok s') :
    (∀ run', s'.workflowRuns.get? target.runID = some run' →
      ∃ run, s.workflowRuns.get? target.runID = some run ∧ run'.sink = run.sink) ∧
    (∀ id, id ≠ target.runID → s'.workflowRuns.get? id = s.workflowRuns.get? id) ∧
    s'.gates = s.gates := by
  obtain ⟨attempts, rfl | ⟨next, hnext, rfl⟩⟩ := writeRunCancel_ok h
  · exact ⟨fun run' hrun' => ⟨run', hrun', rfl⟩, fun _ _ => rfl, rfl⟩
  · obtain ⟨run, hrun, hid, hsink⟩ := planAdminCommand_run htarget hnext
    refine ⟨fun run' hrun' => ⟨run, hrun, ?_⟩, fun id hne => ?_, rfl⟩
    · rw [get?_put, if_pos hid] at hrun'
      rw [← some.inj hrun', hsink]
    · exact get?_put_of_ne _ (by rw [hid]; exact hne.symm)

/-- An applied cancel found the sink of its run open, leaves it open or settled as cancelled, and
leaves other runs alone. A refused one leaves all of them alone. -/
theorem cancelRun_ok {commandID : String} {now : Time}
    (h : s.cancelRun resolveNode formatTime commandID now = .ok (s', command)) :
    ∃ pending target, s.adminCommands.get? commandID = some pending ∧
      s.loadAdminTarget pending.targetType pending.targetID = .ok target ∧
      (command.state ≠ .applied → s'.workflowRuns = s.workflowRuns) ∧
      (command.state = .applied → SettledCancelled s' target.runID ∧
        ∀ id, id ≠ target.runID → s'.workflowRuns.get? id = s.workflowRuns.get? id) := by
  obtain ⟨pending, hpending, happly⟩ := cancelRun_pending h
  obtain ⟨target, htarget, hcases⟩ := applyPendingCommand_ok happly
  refine ⟨pending, target, hpending, htarget, fun hrefused => ?_, fun happlied => ?_⟩
  · rcases hcases with ⟨-, hruns, -⟩ | ⟨_, _, _, happlied, -⟩
    · exact hruns
    · exact absurd happlied hrefused
  · rcases hcases with ⟨hrefused, -⟩ | ⟨snapshot, written, closed, -, hload, hopen, hwrite, hclose,
      hruns, -⟩
    · exact absurd happlied hrefused
    have hrow := (loadWorkflowProjection_ok hload).1
    obtain ⟨hsinks, hothers, -⟩ := writeRunCancel_planned htarget hwrite
    obtain ⟨hclosed, -⟩ := closeCancelledRun_ok hclose
    unfold SettledCancelled
    rw [hruns]
    rcases hclosed with hsame | ⟨cancelled, hid, hprogress, hput⟩
    · -- not settled: the planned row has the open sink of the row before
      rw [hsame]
      refine ⟨fun run' hrun' hsettled => ?_, hothers⟩
      obtain ⟨run, hrun, hsink⟩ := hsinks run' hrun'
      cases hrow.symm.trans hrun
      unfold sinkSettled at hsettled hopen
      rw [hsink, hopen] at hsettled
      cases hsettled
    · rw [hput]
      refine ⟨fun run' hrun' _ => ?_, fun id hne => ?_⟩
      · rw [get?_put, if_pos hid] at hrun'
        rw [← some.inj hrun', hprogress]
      · rw [get?_put_of_ne _ (by rw [hid]; exact hne.symm), hothers id hne]

/-- A publication that settles an open sink reports what the run's tasks did: cancelled exactly when
they end so. -/
theorem publication_cancelled_iff {before : WorkflowProjectionSnapshot} {run : WorkflowRun}
    {attempts : List Attempt} {now : Time} {current : WorkflowProjectionSnapshot}
    (h : s.commitWorkflowProjection resolveNode before run attempts now = .ok s')
    (hload : s.loadWorkflowProjection resolveNode run.id = .ok current)
    (hsettled : sinkSettled run = true) :
    run.progress = .cancelled ↔ EndsCancelled run.id current.tasks attempts := by
  obtain ⟨read, _, verified, _, _, hread, hopen, -, hproject, hcheck, -⟩ :=
    commitWorkflowProjection_inv h
  cases hload.symm.trans hread
  obtain ⟨hsink, hprogress⟩ := checkProjectedRun_ok hcheck
  have hid := key_of_get? (loadWorkflowProjection_ok hload).1
  have hterminal : ∀ r : WorkflowRun, sinkSettled r = true ↔ r.sinkTerminal := by
    intro r
    unfold sinkSettled WorkflowRun.sinkTerminal
    rw [any_eq_true]
  have hstill : ¬current.run.sinkTerminal := by
    rw [← hterminal, hopen]
    decide
  have hover :
    (projectRunSink current.run current.tasks attempts current.assignments now).1.sinkTerminal := by
    rw [hproject, ← hterminal]
    unfold sinkSettled
    rw [← hsink]
    exact hsettled
  have hsettles := settled_progress hstill hover
  unfold projectRunSink at hproject
  rw [hproject] at hsettles
  rw [hprogress hsettled, hsettles, hid, outcomeProgress_eq_cancelled_iff]

theorem settledCancelled_step {op : CancelledRunOp} (hs : SettledCancelled s runID)
    (hop : PublishesCancelled resolveNode runID s op) :
    SettledCancelled (cancelledRunStep resolveNode formatTime s op) runID := by
  cases op with
  | cancel commandID now =>
    change SettledCancelled
      (committed s ((s.cancelRun resolveNode formatTime commandID now).map Prod.fst)) runID
    cases hcancel : s.cancelRun resolveNode formatTime commandID now with
    | error e => exact hs
    | ok r =>
      obtain ⟨s', command⟩ := r
      obtain ⟨_, target, -, -, hrefused, happlied⟩ := cancelRun_ok hcancel
      change SettledCancelled s' runID
      by_cases hstate : command.state = .applied
      · obtain ⟨hsettled, hothers⟩ := happlied hstate
        by_cases hrun : runID = target.runID
        · rw [hrun]
          exact hsettled
        · intro run hrow
          rw [hothers runID hrun] at hrow
          exact hs run hrow
      · intro run hrow
        rw [hrefused hstate] at hrow
        exact hs run hrow
  | project before run attempts now =>
    change SettledCancelled
      (committed s (s.commitWorkflowProjection resolveNode before run attempts now)) runID
    cases hcommit : s.commitWorkflowProjection resolveNode before run attempts now with
    | error e => exact hs
    | ok s' =>
      change SettledCancelled s' runID
      obtain ⟨current, published, _, _, _, hload, -, hpublish, -, -, heq⟩ :=
        commitWorkflowProjection_inv hcommit
      obtain ⟨_, hpublished⟩ := publishAttempts_ok hpublish
      have hruns : s'.workflowRuns = s.workflowRuns.put run := by rw [heq, hpublished]
      intro row hrow hsettled
      rw [hruns, get?_put] at hrow
      split_ifs at hrow with hid
      · cases hrow
        rw [hid] at hload
        exact (publication_cancelled_iff hcommit (hid ▸ hload) hsettled).2
          (hid ▸ hop hid current hload)
      · exact hs row hrow hsettled
  | work next => exact hs

/-- After a whole-run cancel its run ends cancelled as long as every publication of it is one of
tasks that end so; and a publication that settles the sink reports cancelled only then. -/
theorem cancelled_run_ends_cancelled {commandID : String} {now : Time}
    {command pending : AdminCommand}
    {target : AdminTarget} (hcancel : s.cancelRun resolveNode formatTime commandID now = .ok (s',
      command))
    (happlied : command.state = .applied) (hpending : s.adminCommands.get? commandID = some pending)
    (htarget : s.loadAdminTarget pending.targetType pending.targetID = .ok target) :
    (∀ ops, Runs.Along (cancelledRunStep resolveNode formatTime)
        (PublishesCancelled resolveNode target.runID) s' ops →
      ∀ run, (Runs.run (cancelledRunStep resolveNode formatTime) s' ops).workflowRuns.get?
          target.runID = some run →
        sinkSettled run = true → run.progress = .cancelled) ∧
    ∀ ops before run attempts now' later current, run.id = target.runID →
      (Runs.run (cancelledRunStep resolveNode formatTime) s' ops).loadWorkflowProjection resolveNode
        run.id = .ok current →
      (Runs.run (cancelledRunStep resolveNode formatTime) s' ops).commitWorkflowProjection
        resolveNode before run attempts now' = .ok later →
      sinkSettled run = true → (run.progress = .cancelled ↔
        EndsCancelled run.id current.tasks attempts) := by
  obtain ⟨pending', target', hpending', htarget', -, hsettled⟩ := cancelRun_ok hcancel
  cases hpending.symm.trans hpending'
  cases htarget.symm.trans htarget'
  refine ⟨fun ops hops => ?_, fun ops before run attempts now' later current _ hload hcommit hover => ?_⟩
  · exact run_invariant (I := fun s => SettledCancelled s target.runID)
      (fun _ _ => settledCancelled_step) (hsettled happlied).1 hops
  · exact publication_cancelled_iff hcommit hload hover

end

/-! ## A worker that was still stopping -/

def noReferences : Store → NodeRef → Except Err NodeObservation := fun _ _ => .error { text := "none" }

def stoppingRun (finished : ProgressState) : Store :=
  let tasks : List Task :=
    [{ id := "build", name := "build", workflowID := "workflow" },
      { id := "test", name := "test", workflowID := "workflow" }]
  let run : WorkflowRun := { id := "run", workflowID := "workflow", progress := .active, revision := 1 }
  { workflowRuns := ofList WorkflowRun.id [(bindRunSink run tasks).1]
    tasks := ofList Task.id tasks
    attempts := ofList Attempt.id
      [{ id := "build-1", workflowRunID := "run", taskID := "build", number := 1, progress := finished
         control := .stopped, revision := 1 },
        { id := "test-1", workflowRunID := "run", taskID := "test", number := 1, progress := .active
          control := .running, revision := 1, assignmentID := "test-claim" }]
    assignments := ofList Assignment.id
      [{ id := "test-claim", attemptID := "test-1", state := .claimed }]
    adminCommands := ofList AdminCommand.id
      [{ id := "cancel", targetType := .attempt, targetID := "test-1", expectedRevision := 1
         reason := "stop", requestedBy := "operator", state := .pending }] }

def cancelStopping (finished : ProgressState) : Except Err (Store × AdminCommand) :=
  (stoppingRun finished).cancelRun noReferences (fun _ => "") "cancel" 5

def projection (s : Store) (now : Time) : CancelledRunOp :=
  match s.loadWorkflowProjection noReferences "run" with
  | .error _ => .work s
  | .ok before =>
    let verified :=
      (projectRunSink before.run before.tasks before.attempts before.assignments now).1
    .project before
      { before.run with
        sink := verified.sink, graphRevision := verified.graphRevision, progress := verified.progress
        completedAt := verified.completedAt, revision := before.run.revision + 1, updatedAt := now }
      before.attempts now

def stopped (s : Store) : Store :=
  { s with
    assignments := ofList Assignment.id
      [{ id := "test-claim", attemptID := "test-1", state := .released }] }

def settleLater (s : Store) : List CancelledRunOp := [.work (stopped s), projection (stopped s) 9]

/-- A task failed before the cancel: the run that was cancelled ends failed. -/
theorem cancelled_run_ends_failed :
    ∃ s' command run, cancelStopping .failed = .ok (s', command) ∧ command.state = .applied ∧
      (Runs.run (cancelledRunStep noReferences fun _ => "") s' (settleLater s')).workflowRuns.get?
        "run" = some run ∧
      sinkSettled run = true ∧ run.progress = .failed := by
  have hfailed : (cancelStopping .failed).toOption.map (fun r => (r.2.state,
      ((run (cancelledRunStep noReferences fun _ => "") r.1 (settleLater r.1)).workflowRuns.get?
        "run").map fun run => (sinkSettled run, run.progress))) =
      some (.applied, some (true, .failed)) := by
    decide
  obtain ⟨⟨s', command⟩, hcancel, hended⟩ := of_toOption hfailed
  obtain ⟨hstate, hrow⟩ := Prod.mk.inj hended
  obtain ⟨run, hrun, hended⟩ := map_eq_some_iff.1 hrow
  obtain ⟨hsettled, hprogress⟩ := Prod.mk.inj hended
  exact ⟨s', command, run, hcancel, hstate, hrun, hsettled, hprogress⟩

theorem cancelled_run_of_successes : ∃ s' command run, cancelStopping .succeeded = .ok (s', command) ∧
      (Runs.run (cancelledRunStep noReferences fun _ => "") s' (settleLater s')).workflowRuns.get?
        "run" = some run ∧
      sinkSettled run = true ∧ run.progress = .cancelled := by
  have hended : (cancelStopping .succeeded).toOption.map (fun r => (r.2.state,
      ((run (cancelledRunStep noReferences fun _ => "") r.1 (settleLater r.1)).workflowRuns.get?
        "run").map sinkSettled,
      ((stopped r.1).loadWorkflowProjection noReferences "run").toOption.map fun current =>
        decide (EndsCancelled "run" current.tasks current.attempts))) =
      some (.applied, some true, some true) := by
    decide
  obtain ⟨⟨s', command⟩, hcancelled, hended⟩ := of_toOption hended
  obtain ⟨hstate, hended⟩ := Prod.mk.inj hended
  obtain ⟨hrow, hends⟩ := Prod.mk.inj hended
  obtain ⟨run, hrun, hsettled⟩ := map_eq_some_iff.1 hrow
  obtain ⟨hends', -⟩ := cancelled_run_ends_cancelled hcancelled hstate rfl rfl
  obtain ⟨current, hload, hdecided⟩ := of_toOption hends
  have hpublishes : PublishesCancelled noReferences "run" (stopped s') (projection (stopped s') 9) := by
    unfold projection
    rw [hload]
    intro _ read hread
    cases hload.symm.trans hread
    exact of_decide_eq_true hdecided
  exact ⟨s', command, run, hcancelled, hrun, hsettled,
    hends' (settleLater s') (And.intro trivial (And.intro hpublishes trivial)) run hrun hsettled⟩

end Store

end Steward
