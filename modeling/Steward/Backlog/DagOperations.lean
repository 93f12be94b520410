import Steward.Backlog.Dag
import Steward.Lib.Graph
import Steward.Lib.Runs

/-!
# Operations on the workflow graph

The mutations of `DAGExecution` in `internal/backlog/dag.go`. Each changes attempts in place, then
refreshes the progress of the whole run at the given time; it returns the state it leaves together
with its error, since nothing but the order of its statements undoes a change that precedes an
error.
-/

namespace Steward

/-- The coordinator's reconciled view of an attempt's final turn. -/
structure CompletionResult where
  (explicitSuccess verificationPassed : Bool := false)
  failure : String := ""
deriving DecidableEq

/-! ## Refreshing at a time -/

def Attempt.skipAt (a : Attempt) (reason : String) (now : Time) : Attempt :=
  if now = 0 then a.skip reason
  else { a.skip reason with updatedAt := now, completedAt := some now }

def skipVerdictBranchAt (tasks : List Task) (now : Time) (acc : List Attempt × Bool) (task : Task) :
    List Attempt × Bool :=
  let current := currentTaskAttempt acc.1 task.id
  match verdictSkipReason tasks acc.1 task with
  | some reason =>
    if current.unstarted then (setAttempt acc.1 current.id fun a => a.skipAt reason now, true)
    else acc
  | none => acc

def refreshVerdictBranchesAt (tasks : List Task) (now : Time) : Nat → List Attempt → List Attempt
  | 0, attempts => attempts
  | fuel + 1, attempts =>
    let swept := tasks.foldl (skipVerdictBranchAt tasks now) (attempts, false)
    if swept.2 then refreshVerdictBranchesAt tasks now fuel swept.1 else swept.1

/-- The run after a refresh; `touch` counts it as a change made now. A run with a sink is over only
when its sink is. -/
def refreshRunWith (run : WorkflowRun) (progress : ProgressState) (now : Time) (touch : Bool) :
    WorkflowRun :=
  if run.sink.any (·.progress.terminal) then run
  else
    let progress := if run.sink.isSome ∧ progress.terminal then .active else progress
    let run := { run with progress := progress }
    let run := if touch then { run with revision := run.revision + 1, updatedAt := now } else run
    if progress.terminal then if touch then { run with completedAt := some now } else run
    else { run with completedAt := none }

def refreshWith (state : DAGState) (now : Time) (touch : Bool) : DAGState :=
  let attempts :=
    refreshVerdictBranchesAt state.tasks now (state.tasks.length + 1) state.attempts
  let state := state.tasks.foldl refreshTask { state with attempts := attempts }
  { state with run := refreshRunWith state.run (runProgress state.tasks state.attempts) now touch }

theorem refreshVerdictBranchesAt_zero (tasks : List Task) (fuel : Nat) (attempts : List Attempt) :
    refreshVerdictBranchesAt tasks 0 fuel attempts = refreshVerdictBranches tasks fuel attempts := by
  have hskip : skipVerdictBranchAt tasks 0 = skipVerdictBranch tasks := by
    funext acc task
    cases verdictSkipReason tasks acc.1 task <;> rfl
  induction fuel generalizing attempts with
  | zero => rfl
  | succ fuel ih =>
    unfold refreshVerdictBranchesAt refreshVerdictBranches
    simp only [hskip, ih]

theorem refreshRunWith_untouched (run : WorkflowRun) (progress : ProgressState) :
    refreshRunWith run progress 0 false = refreshRun run progress := by
  unfold refreshRunWith refreshRun
  cases hsink : run.sink with
  | none =>
    cases hterminal : progress.terminal <;> simp [hterminal]
  | some sink =>
    cases hfinal : sink.progress.terminal with
    | true => simp [hfinal]
    | false =>
      cases hterminal : progress.terminal
      · simp [hfinal, hterminal]
      · simp [ProgressState.terminal]

/-- The refresh of a new execution is the one that touches nothing, at the zero time. -/
theorem refresh_eq_refreshWith (state : DAGState) : refresh state = refreshWith state 0 false := by
  unfold refresh refreshWith
  simp only [refreshVerdictBranchesAt_zero, refreshRunWith_untouched]

/-! ## Operations -/

namespace DAGState

variable (state : DAGState)

def attemptIndex (id : String) : Option Attempt := state.attempts.find? fun a => a.id = id

def taskByID (id : String) : Option Task := state.tasks.find? fun t => t.id = id

def sinkFinal : Bool := state.run.sink.any (·.progress.terminal)

def sinkFinalErr : Err := { text := "run sink is final; submit a new workflow" }

def updateAndRefresh (id : String) (f : Attempt → Attempt) (now : Time) : DAGState :=
  refreshWith { state with attempts := setAttempt state.attempts id f } now true

def startAttempt (attemptID : String) (now : Time) : DAGState × Option Err :=
  match state.attemptIndex attemptID with
  | none => (state, some { text := "unknown attempt " ++ quote attemptID })
  | some attempt =>
    if attempt.progress ≠ .ready then
      (state, some
        { text := "start attempt " ++ quote attemptID ++ ": progress is " ++
            quote attempt.progress.text ++ ", want " ++ quote ProgressState.ready.text })
    else
      (state.updateAndRefresh attemptID (fun a =>
        { a with progress := .active, control := .running, startedAt := some now, updatedAt := now })
        now, none)

def completed (result : CompletionResult) (now : Time) (a : Attempt) : Attempt :=
  let a := { a with control := .stopped, updatedAt := now, completedAt := some now }
  if result.explicitSuccess = false then
    { a with progress := .failed
             failure := if result.failure ≠ "" then result.failure else "missing explicit success" }
  else if result.verificationPassed = false then
    { a with progress := .failed
             failure := if result.failure ≠ "" then result.failure else "verification failed" }
  else { a with progress := .succeeded, failure := "" }

def completeAttempt (attemptID : String) (result : CompletionResult) (now : Time) :
    DAGState × Option Err :=
  match state.attemptIndex attemptID with
  | none => (state, some { text := "unknown attempt " ++ quote attemptID })
  | some attempt =>
    if attempt.progress ≠ .active ∧ attempt.progress ≠ .verifying then
      (state, some
        { text := "complete attempt " ++ quote attemptID ++ ": progress is " ++
            quote attempt.progress.text ++ ", want active or verifying" })
    else (state.updateAndRefresh attemptID (completed result now) now, none)

def needsSelected (selected : List String) (task : Task) : Bool := task.needs.any (· ∈ selected)

def descendantNames (root : String) : List String :=
  (Graph.saturate Task.name needsSelected state.tasks state.tasks.length [root]).insertionSort (· ≤ ·)

def ended (progress : ProgressState) (now : Time) (a : Attempt) : Attempt :=
  { a with progress := progress, control := .stopped, updatedAt := now, completedAt := some now
           failure := "" }

def cancelCurrent (tasks : List Task) (now : Time) (acc : List Attempt × Bool) (name : String) :
    List Attempt × Bool :=
  let current := currentTaskAttempt acc.1 ((taskByName tasks name).getD {}).id
  if current.progress.terminal then acc
  else (setAttempt acc.1 current.id (ended .cancelled now), true)

def cancelTask (taskID : String) (now : Time) : DAGState × Option Err :=
  if state.sinkFinal then (state, some sinkFinalErr)
  else
    match state.taskByID taskID with
    | none => (state, some { text := "cancel task " ++ quote taskID ++ ": unknown task" })
    | some task =>
      let cancelled :=
        (state.descendantNames task.name).foldl (cancelCurrent state.tasks now)
          (state.attempts, false)
      let changed := { state with attempts := cancelled.1 }
      if cancelled.2 then (refreshWith changed now true, none)
      else
        (changed, some
          { text := "cancel task " ++ quote taskID ++ ": task and descendants are already terminal" })

def skipTask (taskID : String) (now : Time) : DAGState × Option Err :=
  if state.sinkFinal then (state, some sinkFinalErr)
  else
    match state.taskByID taskID with
    | none => (state, some { text := "skip task " ++ quote taskID ++ ": unknown task" })
    | some task =>
      let attempt := currentTaskAttempt state.attempts task.id
      if attempt.progress = .succeeded ∨ attempt.progress = .skipped then
        (state, some
          { text := "skip task " ++ quote taskID ++ ": progress is " ++ quote attempt.progress.text })
      else (state.updateAndRefresh attempt.id (ended .skipped now) now, none)

def retried (task : Task) (current : Attempt) (attemptID : String) (now : Time) : Attempt :=
  { id := attemptID, workflowRunID := state.run.id, taskID := task.id, number := current.number + 1
    progress := .blocked, control := .unassigned, updatedAt := now }

def retryTask (taskID attemptID : String) (now : Time) : DAGState × Option Err :=
  if state.sinkFinal then (state, some sinkFinalErr)
  else
    match state.taskByID taskID with
    | none => (state, some { text := "retry task " ++ quote taskID ++ ": unknown task" })
    | some task =>
      let current := currentTaskAttempt state.attempts taskID
      if attemptID = "" then
        (state, some { text := "retry task " ++ quote taskID ++ ": empty attempt ID" })
      else if (state.attemptIndex attemptID).isSome then
        (state, some
          { text := "retry task " ++ quote taskID ++ ": duplicate attempt ID " ++ quote attemptID })
      else if task.fixLoop.isSome then
        (state, some
          { text := "fix loop retries require campaign rerun from " ++ task.name ++
              " so stopped descendants get fresh attempts" })
      else if current.progress ≠ .failed ∧ current.progress ≠ .cancelled then
        (state, some
          { text := "retry task " ++ quote taskID ++ ": progress is " ++
              quote current.progress.text ++ ", want failed or cancelled" })
      else
        (refreshWith
          { state with attempts := state.attempts ++ [state.retried task current attemptID now] }
          now true, none)

end DAGState

/-- A call of one of the operations. -/
inductive DAGCall
  | startAttempt (attemptID : String) (now : Time)
  | completeAttempt (attemptID : String) (result : CompletionResult) (now : Time)
  | cancelTask (taskID : String) (now : Time)
  | skipTask (taskID : String) (now : Time)
  | retryTask (taskID attemptID : String) (now : Time)
deriving DecidableEq

def DAGState.call (state : DAGState) : DAGCall → DAGState × Option Err
  | .startAttempt attemptID now => state.startAttempt attemptID now
  | .completeAttempt attemptID result now => state.completeAttempt attemptID result now
  | .cancelTask taskID now => state.cancelTask taskID now
  | .skipTask taskID now => state.skipTask taskID now
  | .retryTask taskID attemptID now => state.retryTask taskID attemptID now

def DAGState.step (state : DAGState) (c : DAGCall) : DAGState := (state.call c).1

end Steward
