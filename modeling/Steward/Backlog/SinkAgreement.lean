import Steward.Backlog.DagRuns
import Steward.Domain.SinkOutcome

/-!
# The graph and the sink agree on a run's outcome

Two aggregations of the same attempts: `runProgress` of the graph execution and the outcome a
settled sink publishes. Once every latest attempt is terminal both are one function of them,
`outcomeProgress`.
-/

namespace Steward

open Except List

/-! ## The graph -/

section

variable {tasks : List Task} {attempts : List Attempt}

def latestOutcomes (tasks : List Task) (attempts : List Attempt) : List Attempt :=
  tasks.map fun t => currentTaskAttempt attempts t.id

theorem mem_latestOutcomes {a : Attempt} :
    a ∈ latestOutcomes tasks attempts ↔ ∃ t ∈ tasks, currentTaskAttempt attempts t.id = a :=
  mem_map

theorem unfulfilled_cases {a : Attempt} (hterminal : a.progress.terminal = true)
    (h : a.fulfilled = false) :
    a.progress = .failed ∨ a.progress = .cancelled ∨ a.progress = .skipped := by
  cases hp : a.progress <;> simp [hp, ProgressState.terminal, Attempt.fulfilled] at hterminal h ⊢

theorem not_fulfilled {a : Attempt} (h : a.progress = .failed ∨ a.progress = .cancelled) :
    a.fulfilled = false := by
  rcases h with h | h <;> simp [Attempt.fulfilled, h]

def unfulfilledTasks (tasks : List Task) (attempts : List Attempt) : List (Task × Attempt) :=
  (tasks.map fun t => (t, currentTaskAttempt attempts t.id)).filter fun p => !p.2.fulfilled

theorem mem_unfulfilledTasks {p : Task × Attempt} : p ∈ unfulfilledTasks tasks attempts ↔
    p.1 ∈ tasks ∧ p.2 = currentTaskAttempt attempts p.1.id ∧ p.2.fulfilled = false := by
  rw [unfulfilledTasks, mem_filter, mem_map]
  constructor
  · rintro ⟨⟨t, ht, rfl⟩, hopen⟩
    exact ⟨ht, rfl, by simpa using hopen⟩
  · rintro ⟨ht, hcurrent, hopen⟩
    exact ⟨⟨p.1, ht, Prod.ext rfl hcurrent.symm⟩, by simpa using hopen⟩

theorem unfulfilledTasks_eq (h : OnlyLatestSucceeded attempts) :
    ((tasks.map fun t => (t, currentTaskAttempt attempts t.id)).filter fun p =>
      !(taskSucceeded attempts p.1.id ||
        decide (p.2.progress = .skipped ∧ p.2.failure = verdictBranchSkipped))) =
      unfulfilledTasks tasks attempts := by
  refine filter_congr fun p hp => ?_
  obtain ⟨t, -, rfl⟩ := mem_map.1 hp
  refine congrArg not ?_
  rw [Bool.eq_iff_iff, Bool.or_eq_true, taskSucceeded_iff_current h]
  simp only [Attempt.fulfilled, decide_eq_true_eq]

theorem any_unfulfilledTasks (states : List ProgressState)
    (hstates : ∀ a : Attempt, a.progress ∈ states → a.fulfilled = false) :
    ((unfulfilledTasks tasks attempts).any fun p => decide (p.2.progress ∈ states)) =
      (latestOutcomes tasks attempts).any fun a => decide (a.progress ∈ states) := by
  rw [Bool.eq_iff_iff]
  simp only [any_eq_true, decide_eq_true_eq]
  constructor
  · rintro ⟨p, hp, hprogress⟩
    obtain ⟨ht, hcurrent, -⟩ := mem_unfulfilledTasks.1 hp
    exact ⟨p.2, mem_latestOutcomes.2 ⟨p.1, ht, hcurrent.symm⟩, hprogress⟩
  · rintro ⟨a, ha, hprogress⟩
    obtain ⟨t, ht, rfl⟩ := mem_latestOutcomes.1 ha
    exact ⟨(t, _), mem_unfulfilledTasks.2 ⟨ht, rfl, hstates _ hprogress⟩, hprogress⟩

theorem no_unfulfilledTasks (hterminal : ∀ t ∈ tasks,
      (currentTaskAttempt attempts t.id).progress.terminal = true)
    (states : List ProgressState) (hstates : ∀ p ∈ states, p.terminal = false) :
    ((unfulfilledTasks tasks attempts).any fun p => decide (p.2.progress ∈ states)) = false := by
  rw [any_eq_false]
  intro p hp
  obtain ⟨ht, hcurrent, -⟩ := mem_unfulfilledTasks.1 hp
  rw [decide_eq_true_eq]
  intro hmem
  have hover := hterminal p.1 ht
  rw [← hcurrent, hstates _ hmem] at hover
  cases hover

/-- Every task is fulfilled exactly when the graph counts none. -/
theorem unfulfilledTasks_eq_nil_iff : unfulfilledTasks tasks attempts = [] ↔
    (latestOutcomes tasks attempts).all Attempt.fulfilled = true := by
  rw [all_eq_true, eq_nil_iff_forall_not_mem]
  constructor
  · intro hnone a ha
    obtain ⟨t, ht, rfl⟩ := mem_latestOutcomes.1 ha
    by_contra hopen
    exact hnone (t, _) (mem_unfulfilledTasks.2 ⟨ht, rfl, by simpa using hopen⟩)
  · intro hall p hp
    obtain ⟨ht, hcurrent, hopen⟩ := mem_unfulfilledTasks.1 hp
    rw [hcurrent, hall _ (mem_latestOutcomes.2 ⟨p.1, ht, rfl⟩)] at hopen
    cases hopen

theorem unfulfilled_run_cases (hterminal : ∀ t ∈ tasks,
      (currentTaskAttempt attempts t.id).progress.terminal = true)
    (h : (latestOutcomes tasks attempts).all Attempt.fulfilled = false) :
    (latestOutcomes tasks attempts).any (fun a => a.progress = .failed) = true ∨
      (latestOutcomes tasks attempts).any (fun a => a.progress = .cancelled) = true ∨
      ((unfulfilledTasks tasks attempts).any fun p => decide (p.2.progress ∈ [.skipped])) = true := by
  obtain ⟨a, ha, hopen⟩ := all_eq_false.1 h
  obtain ⟨t, ht, rfl⟩ := mem_latestOutcomes.1 ha
  have hunfulfilled := eq_false_of_ne_true hopen
  simp only [any_eq_true]
  rcases unfulfilled_cases (hterminal t ht) hunfulfilled with hp | hp | hp
  · exact .inl ⟨_, ha, by simp [hp]⟩
  · exact .inr (.inl ⟨_, ha, by simp [hp]⟩)
  · exact .inr (.inr ⟨(t, _), mem_unfulfilledTasks.2 ⟨ht, rfl, hunfulfilled⟩,
      decide_eq_true (mem_singleton.2 hp)⟩)

theorem fulfilled_run (h : (latestOutcomes tasks attempts).all Attempt.fulfilled = true)
    {p : ProgressState} (hp : p = .failed ∨ p = .cancelled) :
    (latestOutcomes tasks attempts).any (fun a => a.progress = p) = false := by
  rw [any_eq_false]
  intro a ha
  have hfulfilled := all_eq_true.1 h a ha
  rw [decide_eq_true_eq]
  rintro rfl
  rw [not_fulfilled hp] at hfulfilled
  cases hfulfilled

theorem runProgress_eq_outcomeProgress (hnonempty : tasks ≠ []) (h : OnlyLatestSucceeded attempts)
    (hterminal : ∀ t ∈ tasks, (currentTaskAttempt attempts t.id).progress.terminal = true) :
    runProgress tasks attempts = outcomeProgress (latestOutcomes tasks attempts)
      ((summarizeFixLoops tasks attempts).any FixLoopSummary.exhausted) := by
  have hactive := no_unfulfilledTasks hterminal [.active, .verifying, .waitingExternal] (by decide)
  have hready := no_unfulfilledTasks hterminal [.ready, .queued] (by decide)
  have hneeds := no_unfulfilledTasks hterminal [.needsInput] (by decide)
  have hfailed := @any_unfulfilledTasks tasks attempts [.failed]
    fun a ha => not_fulfilled (.inl (by simpa using ha))
  have hcancelled := @any_unfulfilledTasks tasks attempts [.cancelled]
    fun a ha => not_fulfilled (.inr (by simpa using ha))
  unfold runProgress outcomeProgress
  simp only [unfulfilledTasks_eq h, hactive, hready, hneeds, hfailed, hcancelled]
  generalize (summarizeFixLoops tasks attempts).any FixLoopSummary.exhausted = exhausted
  simp only [unfulfilledTasks_eq_nil_iff, mem_singleton]
  cases hall : (latestOutcomes tasks attempts).all Attempt.fulfilled with
  | true =>
    rw [fulfilled_run hall (.inl rfl), fulfilled_run hall (.inr rfl)]
    cases exhausted <;> simp [hnonempty]
  | false =>
    rcases unfulfilled_run_cases hterminal hall with hone | hone | hone
    · simp [hone]
    · cases hfail : (latestOutcomes tasks attempts).any fun a => decide (a.progress = .failed) <;>
        cases exhausted <;> simp [hone]
    · simp only [mem_singleton] at hone
      simp [hone]

end

/-! ## The execution -/

section

variable {state s : DAGState}

/-- The current attempt of every task is terminal. -/
def DAGState.Over (state : DAGState) : Prop :=
  ∀ t ∈ state.tasks, (currentTaskAttempt state.attempts t.id).progress.terminal = true

theorem not_unstarted_of_terminal {a : Attempt} (h : a.progress.terminal = true) :
    a.unstarted = false := by
  cases hp : a.progress <;> simp [hp, ProgressState.terminal, Attempt.unstarted] at h ⊢

theorem sweep_of_over {all tasks : List Task} {attempts : List Attempt} {changed : Bool}
    (h : ∀ t ∈ tasks, (currentTaskAttempt attempts t.id).progress.terminal = true) :
    tasks.foldl (skipVerdictBranch all) (attempts, changed) = (attempts, changed) := by
  refine Runs.run_eq_self fun t ht => ?_
  unfold skipVerdictBranch
  simp only [not_unstarted_of_terminal (h t ht), Bool.false_eq_true, if_false]
  split <;> rfl

theorem refreshTask_of_over {t : Task}
    (h : (currentTaskAttempt state.attempts t.id).progress.terminal = true) :
    refreshTask state t = state := by
  unfold refreshTask
  split
  · rfl
  · refine if_neg ?_
    rintro (hp | hp) <;> simp [hp, ProgressState.terminal] at h

theorem newDAGExecution_of_over (h : newDAGExecution state = .ok s) (hover : state.Over) :
    s.tasks = state.tasks ∧ s.attempts = state.attempts := by
  obtain ⟨_, -, hs⟩ := of_bind h
  cases hs
  have hkept : refreshVerdictBranches state.tasks (state.tasks.length + 1) state.attempts =
      state.attempts := by
    unfold refreshVerdictBranches
    rw [sweep_of_over hover]
    rfl
  have hsame : state.tasks.foldl refreshTask state = state :=
    Runs.run_eq_self fun t ht => refreshTask_of_over (hover t ht)
  unfold refresh
  dsimp only
  rw [hkept]
  exact ⟨congrArg DAGState.tasks hsame, congrArg DAGState.attempts hsame⟩

theorem currentAttempt_of_own {runID : String} {attempts : List Attempt}
    (h : ∀ a ∈ attempts, a.workflowRunID = runID) (taskID : String) :
    currentAttempt runID attempts taskID = latestAttempt attempts taskID := by
  unfold currentAttempt
  rw [filter_eq_self.2 fun a ha => decide_eq_true (h a ha)]

/-- For every run with a task that a graph execution accepts, whose latest attempts are all terminal
and alone can have succeeded, and whose executions are quiescent, an open sink settles on the
progress the execution computes. -/
theorem sink_agrees_with_graph {assignments : List Assignment} {now : Time}
    (h : newDAGExecution state = .ok s) (hnonempty : state.tasks ≠ []) (hover : state.Over)
    (hlatest : OnlyLatestSucceeded state.attempts)
    (hquiet : runExecutionsQuiescent state.run.id state.attempts assignments = true)
    (hopen : ¬state.run.sinkTerminal)
    (hok : (projectRunSink state.run state.tasks state.attempts assignments now).2 = none) :
    (projectRunSink state.run state.tasks state.attempts assignments now).1.sinkTerminal ∧
      (projectRunSink state.run state.tasks state.attempts assignments now).1.progress =
        runProgress s.tasks s.attempts := by
  obtain ⟨htasks, hattempts⟩ := newDAGExecution_of_over h hover
  obtain ⟨_, hvalid, -⟩ := of_bind h
  have haccepted := DAGState.indexAndValidate_ok_iff.1 hvalid
  have hown : ∀ a ∈ state.attempts, a.workflowRunID = state.run.id :=
    fun a ha => (haccepted.attempts a ha).2.1
  have hterminal : ∀ t ∈ state.tasks, ∃ a,
      currentAttempt state.run.id state.attempts t.id = some a ∧ a.progress.terminal = true := by
    intro t ht
    obtain ⟨a, ha, hcurrent⟩ := haccepted.latest ht
    exact ⟨a, by rw [currentAttempt_of_own hown, ha], by rw [← hcurrent]; exact hover t ht⟩
  have hsettled := projectRunSink_settles hopen hok hquiet hterminal
  have houtcomes : runOutcomes state.run.id state.tasks state.attempts =
      latestOutcomes state.tasks state.attempts :=
    map_congr_left fun t _ => by rw [currentAttempt_of_own hown, currentTaskAttempt]
  refine ⟨hsettled, ?_⟩
  rw [htasks, hattempts, runProgress_eq_outcomeProgress hnonempty hlatest hover, ← houtcomes]
  exact settled_progress hopen hsettled

def retriedAndCancelled : DAGState :=
  { run := { id := "run", workflowID := "workflow" }
    tasks := [{ id := "build", name := "build", workflowID := "workflow" },
      { id := "check", name := "check", workflowID := "workflow", needs := ["build"] }]
    attempts :=
      [{ id := "build-1", workflowRunID := "run", taskID := "build", number := 1, progress := .failed
         control := .stopped },
        { id := "build-2", workflowRunID := "run", taskID := "build", number := 2, progress := .succeeded
          control := .stopped },
        { id := "check-1", workflowRunID := "run", taskID := "check", number := 1
          progress := .cancelled, control := .stopped }] }

theorem retriedAndCancelled_agrees :
    (projectRunSink retriedAndCancelled.run retriedAndCancelled.tasks retriedAndCancelled.attempts []
        1).1.progress =
        runProgress retriedAndCancelled.tasks retriedAndCancelled.attempts ∧
      runProgress retriedAndCancelled.tasks retriedAndCancelled.attempts = .cancelled := by
  have hdag : newDAGExecution retriedAndCancelled = .ok (refresh retriedAndCancelled) := by
    decide
  have hlatest : OnlyLatestSucceeded retriedAndCancelled.attempts := by
    unfold OnlyLatestSucceeded
    decide
  have hover : retriedAndCancelled.Over := by
    unfold DAGState.Over
    decide
  have hagrees := (@sink_agrees_with_graph _ _ [] 1 hdag (by decide) hover hlatest
    (by decide) (by rintro ⟨sink, hsome, -⟩; cases hsome) (by decide)).2
  have hkept := newDAGExecution_of_over hdag hover
  rw [hkept.1, hkept.2] at hagrees
  exact ⟨hagrees, by decide⟩

end

end Steward
