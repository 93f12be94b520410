import Steward.Domain.Sink

/-!
# The workflow graph of one run

`internal/backlog/dag.go` and `fix_loop.go`: `newDAGExecution` validates the tasks and attempts of a
run and refreshes their progress. Branches whose verdict was not taken are skipped, tasks whose
dependencies succeeded become ready, and the run's progress follows. The Go maps from identities to
positions are lookups in the validated lists.
-/

namespace Steward

/-- The progress of one run, and what it observes of others. -/
structure DAGState where
  external : List (String × NodeObservation) := []
  run : WorkflowRun := {}
  tasks : List Task := []
  attempts : List Attempt := []
deriving DecidableEq

def externalObservation (external : List (String × NodeObservation)) (key : String) :
    Option NodeObservation :=
  (external.reverse.find? fun e => e.1 = key).map Prod.snd

/-! ## Validation -/

def validateDAGTasks (run : WorkflowRun) : List Task → Nat → List Task → Except Err Unit
  | [], _, _ => .ok ()
  | task :: rest, index, seen =>
    if task.id = "" ∨ task.name = "" then
      .error { text := "task at index " ++ toString index ++ " has an empty ID or name" }
    else if task.workflowID ≠ run.workflowID then
      .error
        { text := "task " ++ quote task.name ++ " belongs to workflow " ++ quote task.workflowID ++
            ", want " ++ quote run.workflowID }
    else if seen.any (fun t => t.id = task.id) then
      .error { text := "duplicate task ID " ++ quote task.id }
    else if seen.any (fun t => t.name = task.name) then
      .error { text := "duplicate task name " ++ quote task.name }
    else validateDAGTasks run rest (index + 1) (task :: seen)

def taskByName (tasks : List Task) (name : String) : Option Task :=
  tasks.find? fun t => t.name = name

def validateDAGNeeds (tasks : List Task) (task : Task) : List String → List String → Except Err Unit
  | [], _ => .ok ()
  | dependency :: rest, seen =>
    if dependency = task.name then
      .error { text := "task " ++ quote task.name ++ " depends on itself" }
    else if (taskByName tasks dependency).isNone then
      .error { text := "task " ++ quote task.name ++ " needs missing task " ++ quote dependency }
    else if dependency ∈ seen then
      .error { text := "task " ++ quote task.name ++ " repeats dependency " ++ quote dependency }
    else validateDAGNeeds tasks task rest (dependency :: seen)

def validateDAGVerdicts (tasks : List Task) (task : Task) :
    List (String × String) → Except Err Unit
  | [] => .ok ()
  | (producer, verdict) :: rest =>
    if producer ∉ task.needs then
      .error
        { text := "task " ++ task.name ++ " verdict producer " ++ producer ++ " is not a dependency" }
    else if verdict ≠ "accept" ∧ verdict ≠ "changes-requested" then
      .error { text := "task " ++ task.name ++ " has invalid verdict condition " ++ quote verdict }
    else if ¬((taskByName tasks producer).any fun t => t.reviewOutput) then
      .error
        { text := "task " ++ task.name ++ " verdict producer " ++ producer ++
          " has no review output" }
    else validateDAGVerdicts tasks task rest

/-- Visit a task's dependencies in name order, refusing one that is being visited. The names being
visited are distinct tasks, so their number bounds the depth. -/
def visitTask (tasks : List Task) : Nat → String → List String → List String →
    Except Err (List String)
  | 0, name, _, _ => .error { text := "workflow graph contains a cycle at task " ++ quote name }
  | fuel + 1, name, visiting, visited =>
    if name ∈ visiting then
      .error { text := "workflow graph contains a cycle at task " ++ quote name }
    else if name ∈ visited then .ok visited
    else do
      let needs := ((taskByName tasks name).getD {}).needs.insertionSort (· ≤ ·)
      let visited ← needs.foldlM
        (fun visited need => visitTask tasks fuel need (name :: visiting) visited) visited
      return name :: visited

def validateAcyclic (tasks : List Task) : Except Err Unit := do
  let names := (tasks.map Task.name).insertionSort (· ≤ ·)
  let _ ← names.foldlM (fun visited name => visitTask tasks (tasks.length + 1) name [] visited) []
  return ()

def validateDAGAttempts (run : WorkflowRun) (tasks : List Task) :
    List Attempt → Nat → List Attempt → Except Err Unit
  | [], _, _ => .ok ()
  | attempt :: rest, index, seen =>
    if attempt.id = "" then
      .error { text := "attempt at index " ++ toString index ++ " has an empty ID" }
    else if seen.any (fun a => a.id = attempt.id) then
      .error { text := "duplicate attempt ID " ++ quote attempt.id }
    else if attempt.workflowRunID ≠ run.id then
      .error
        { text := "attempt " ++ quote attempt.id ++ " belongs to run " ++
            quote attempt.workflowRunID ++ ", want " ++ quote run.id }
    else if ¬(tasks.any fun t => t.id = attempt.taskID) then
      .error
        { text := "attempt " ++ quote attempt.id ++ " refers to missing task " ++
          quote attempt.taskID }
    else if attempt.number < 1 then
      .error
        { text := "attempt " ++ quote attempt.id ++ " has invalid number " ++
          toString attempt.number }
    else if seen.any (fun a => a.taskID = attempt.taskID ∧ a.number = attempt.number) then
      .error
        { text := "task " ++ quote attempt.taskID ++ " has duplicate attempt number " ++
            toString attempt.number }
    else validateDAGAttempts run tasks rest (index + 1) (attempt :: seen)

variable (attempts : List Attempt) (state : DAGState) (task : Task)

def indexAndValidate : Except Err Unit := do
  Except.refuseWhen (state.run.id = "" ∨ state.run.workflowID = "")
    { text := "workflow run ID and workflow ID are required" }
  validateDAGTasks state.run state.tasks 0 []
  state.tasks.forM fun task => do
    validateDAGNeeds state.tasks task task.needs []
    validateDAGVerdicts state.tasks task task.needsVerdict
  validateAcyclic state.tasks
  validateDAGAttempts state.run state.tasks state.attempts 0 []
  state.tasks.forM fun task =>
    Except.refuseWhen (¬(state.attempts.any fun a => a.taskID = task.id))
      { text := "task " ++ quote task.name ++ " has no attempt" }

/-! ## Refreshing -/

def setAttempt (id : String) (f : Attempt → Attempt) : List Attempt :=
  attempts.map fun a => if a.id = id then f a else a

def currentTaskAttempt (taskID : String) : Attempt :=
  (latestAttempt attempts taskID).getD {}

def taskSucceeded (taskID : String) : Bool :=
  attempts.any fun a => a.taskID = taskID ∧ a.progress = .succeeded

def expectedVerdict (producer : String) : Option String :=
  (task.needsVerdict.find? fun v => v.1 = producer).map Prod.snd

def fixLoopStopped : String := "fix loop stopped by unsuccessful dependency"

def branchStop (need : String) (prior : Attempt) : Option String :=
  if prior.progress = .skipped ∧ prior.failure = verdictBranchSkipped then some verdictBranchSkipped
  else if prior.progress = .succeeded ∧
      (expectedVerdict task need).any (fun v => prior.reviewVerdict.any fun r => r.verdict ≠ v) then
    some verdictBranchSkipped
  else if task.fixLoop.isSome ∧ prior.progress.terminal ∧ prior.progress ≠ .succeeded then
    some fixLoopStopped
  else none

variable (a : Attempt) (tasks : List Task)

/-- Why a task's branch is not taken; the last dependency that says so gives the reason. -/
def verdictSkipReason (attempts : List Attempt) (task : Task) : Option String :=
  task.needs.foldl (fun reason need =>
    let producer := (taskByName tasks need).getD {}
    (branchStop task need (currentTaskAttempt attempts producer.id)).or reason) none

def Attempt.unstarted : Bool :=
  a.assignmentID = "" ∧ (a.progress = .blocked ∨ a.progress = .ready)

def Attempt.skip (reason : String) : Attempt :=
  { a with progress := .skipped, control := .stopped, failure := reason }

def skipVerdictBranch (acc : List Attempt × Bool) (task : Task) :
    List Attempt × Bool :=
  let current := currentTaskAttempt acc.1 task.id
  match verdictSkipReason tasks acc.1 task with
  | some reason =>
    if current.unstarted then (setAttempt acc.1 current.id fun a => a.skip reason, true) else acc
  | none => acc

/-- Sweep over the tasks until a sweep changes nothing. Every sweep but the last skips a task that
had not started, so the number of tasks bounds the sweeps. -/
def refreshVerdictBranches (tasks : List Task) : Nat → List Attempt → List Attempt
  | 0, attempts => attempts
  | fuel + 1, attempts =>
    let swept := tasks.foldl (skipVerdictBranch tasks) (attempts, false)
    if swept.2 then refreshVerdictBranches tasks fuel swept.1 else swept.1

def verdictSatisfied (dependency : Task) : Bool :=
  match expectedVerdict task dependency.name with
  | none => true
  | some expected =>
    let a := currentTaskAttempt attempts dependency.id
    a.progress = .succeeded ∧ a.reviewVerdict.any fun r => r.verdict = expected

def dependencyBlockers : List String :=
  let localBlockers := task.needs.filter fun name =>
    let dependency := (taskByName state.tasks name).getD {}
    let terminalLens := task.reviewJudge &&
      (currentTaskAttempt state.attempts dependency.id).progress.terminal
    (!taskSucceeded state.attempts dependency.id && !terminalLens) ||
      !verdictSatisfied state.attempts task dependency
  let externalBlockers := (task.externalNeeds.filter fun ref =>
    ¬((externalObservation state.external ref.text).any fun o => o.exitCode = 0)).map NodeRef.text
  (localBlockers ++ externalBlockers).insertionSort (· ≤ ·)

def Attempt.refreshed (blockers : List String) : Attempt :=
  if blockers = [] then { a with progress := .ready, failure := "" }
  else
    { a with progress := .blocked
             failure := "waiting for dependencies: " ++ String.intercalate ", " blockers }

def refreshTask : DAGState :=
  let current := currentTaskAttempt state.attempts task.id
  if taskSucceeded state.attempts task.id then state
  else if current.progress = .blocked ∨ current.progress = .ready then
    { state with
      attempts := setAttempt state.attempts current.id fun a =>
        a.refreshed (dependencyBlockers state task) }
  else state

def runProgress (attempts : List Attempt) : ProgressState :=
  let open' := (tasks.map fun t => (t, currentTaskAttempt attempts t.id)).filter fun p =>
    !(taskSucceeded attempts p.1.id ||
      (p.2.progress = .skipped ∧ p.2.failure = verdictBranchSkipped))
  let exhausted := (summarizeFixLoops tasks attempts).any FixLoopSummary.exhausted
  let has := fun states : List ProgressState => open'.any fun p => p.2.progress ∈ states
  if tasks ≠ [] ∧ open' = [] ∧ !exhausted then .succeeded
  else if has [.active, .verifying, .waitingExternal] then .active
  else if has [.ready, .queued] then .ready
  else if has [.needsInput] then .needsInput
  else if has [.failed] || exhausted then .failed
  else if has [.cancelled] then .cancelled
  else if has [.skipped] then .skipped
  else .blocked

/-- The run after a refresh that touches no times: a run with a sink is over only when its sink
is. -/
def refreshRun (run : WorkflowRun) (progress : ProgressState) : WorkflowRun :=
  match run.sink with
  | some sink =>
    if sink.progress.terminal then run
    else
      let progress := if progress.terminal then .active else progress
      { run with progress := progress, completedAt := if progress.terminal then run.completedAt else none }
  | none =>
    { run with progress := progress, completedAt := if progress.terminal then run.completedAt else none }

def refresh : DAGState :=
  let attempts := refreshVerdictBranches state.tasks (state.tasks.length + 1) state.attempts
  let state := state.tasks.foldl refreshTask { state with attempts := attempts }
  { state with run := refreshRun state.run (runProgress state.tasks state.attempts) }

def newDAGExecution : Except Err DAGState := do
  indexAndValidate state
  return refresh state

def Task.before (a b : Task) : Prop := if a.name = b.name then a.id ≤ b.id else a.name ≤ b.name

instance : DecidableRel Task.before := fun a b =>
  inferInstanceAs (Decidable (if a.name = b.name then a.id ≤ b.id else a.name ≤ b.name))

def Attempt.before (a b : Attempt) : Prop :=
  if a.taskID = b.taskID then if a.number = b.number then a.id ≤ b.id else a.number ≤ b.number
  else a.taskID ≤ b.taskID

instance : DecidableRel Attempt.before := fun a b =>
  inferInstanceAs (Decidable
    (if a.taskID = b.taskID then if a.number = b.number then a.id ≤ b.id else a.number ≤ b.number
    else a.taskID ≤ b.taskID))

def DAGState.snapshot : DAGState :=
  { state with
    tasks := state.tasks.insertionSort Task.before
    attempts := state.attempts.insertionSort Attempt.before }

end Steward
