import Steward.Backlog.Dag
import Steward.Backlog.ProviderRouting
import Steward.Domain.SupervisionReadiness

/-!
# Planning assignments

`internal/backlog/planner.go`, with the directory ownership of `directory_planning.go`: the order in
which a plan goes through the tasks of all runs, and what can stand against a task.
-/

namespace Steward

open Except Text

/-! ## Input -/

structure PlanningWorkflow where
  workflow : Workflow := {}
  state : DAGState := {}
deriving DecidableEq

structure PlanningAttemptOrdering where
  readySince : Time := 0
  priorDeferrals : Int := 0
  nestedUnder : String := ""
deriving DecidableEq

structure PlanningOrder where
  deadlineRisk : Bool := false
  (deadlineSlackSeconds importance : Int := 0)
  inFlight : Bool := false
  readySince : Time := 0
  priorDeferrals : Int := 0
  workflowRound : Nat := 0
  nestedUnder : String := ""
deriving DecidableEq

structure DirectoryOwner where
  attemptID : String := ""
  bindings : List DirectoryBinding := []
deriving DecidableEq

/-- What the order of a plan depends on. The ordering history has no two entries of one attempt. -/
structure PlanInput where
  now : Time := 0
  deadlineRiskWindow : Duration := 0
  workflows : List PlanningWorkflow := []
  ordering : List (String × PlanningAttemptOrdering) := []

variable (left right : PlanningEntry) (owners : List (String × String))

def ownerOf (key : String) : String :=
  (owners.lookup key).getD ""

def setOwner (key owner : String) : List (String × String) :=
  (key, owner) :: owners.filter fun p => p.1 ≠ key

variable (input : PlanInput)

/-! ## The order of tasks -/

structure PlanningEntry where
  workflow : Workflow := {}
  state : DAGState := {}
  task : Task := {}
  attempt : Attempt := {}
  order : PlanningOrder := {}
  ready : Bool := false
deriving DecidableEq

def currentPlanningAttempt (attempts : List Attempt) (taskID : String) : Attempt :=
  attempts.foldl (fun current a =>
    if a.taskID = taskID ∧ (current.id = "" ∨ current.number < a.number ∨
        (a.number = current.number ∧ a.id < current.id)) then a else current) {}

def second : Duration := 1000000000

def planningOrder (task : Task) (attempt : Attempt)
    (history : PlanningAttemptOrdering) (inFlight : Bool) : PlanningOrder :=
  { importance := attempt.adminImportance.getD task.importance
    readySince := history.readySince
    priorDeferrals := history.priorDeferrals
    nestedUnder := history.nestedUnder
    inFlight := inFlight
    deadlineSlackSeconds := (task.deadline.map fun d => (d - input.now).tdiv second).getD 0
    deadlineRisk := task.class = .required ∧
      task.deadline.any fun d => d - input.now ≤ input.deadlineRiskWindow }

def inFlightDeferralBound : Int := 8

def holdersFirst (left right : Bool) : Ordering := compare right left

/-- Which of two tasks comes first: the ready, the forced, those with a deadline at risk, the more
important, runs in flight while neither was deferred too often, the more often deferred, the longer
ready. -/
def comparePlanningPriority : Ordering :=
  let l := left.order
  let r := right.order
  (holdersFirst left.ready right.ready).then <|
  (holdersFirst left.attempt.adminForceStart right.attempt.adminForceStart).then <|
  (holdersFirst l.deadlineRisk r.deadlineRisk).then <|
  (if l.deadlineRisk then compare l.deadlineSlackSeconds r.deadlineSlackSeconds else .eq).then <|
  (compare r.importance l.importance).then <|
  (if l.priorDeferrals < inFlightDeferralBound ∧ r.priorDeferrals < inFlightDeferralBound then
    holdersFirst l.inFlight r.inFlight else .eq).then <|
  (compare r.priorDeferrals l.priorDeferrals).then <|
  compare l.readySince r.readySince

def comparePlanningTasks : Ordering :=
  (compare left.task.name right.task.name).then (compare left.task.id right.task.id)

def PlanningEntry.beforeInWorkflow : Bool :=
  ((comparePlanningPriority left right).then (comparePlanningTasks left right)).isLE

def PlanningEntry.before : Bool :=
  ((comparePlanningPriority left right).then <|
    (compare left.order.workflowRound right.order.workflowRound).then <|
    (compare left.state.run.id right.state.run.id).then <|
    comparePlanningTasks left right).isLE

def planningHistory (attempt : Attempt) : Except Err PlanningAttemptOrdering :=
  match input.ordering.lookup attempt.id with
  | none => .error { text := "plan attempt " ++ quote attempt.id ++ " is missing ordering history" }
  | some history => do
    refuseWhen (history.readySince = 0)
      { text := "plan attempt " ++ quote attempt.id ++ " ready time is required" }
    refuseWhen (input.now < history.readySince)
      { text := "plan attempt " ++ quote attempt.id ++ " ready time is in the future" }
    refuseWhen (history.priorDeferrals < 0)
      { text := "plan attempt " ++ quote attempt.id ++ " prior deferrals must not be negative" }
    return history

/-- The open tasks of a refreshed run, with their current attempts. -/
def planningEntries (workflow : Workflow) (state : DAGState) : Except Err (List PlanningEntry) :=
  let inFlight := state.attempts.any fun a => a.progress = .succeeded
  let open' := (state.tasks.map fun t => (t, currentPlanningAttempt state.attempts t.id)).filter
    fun p => !p.2.progress.terminal
  open'.mapM fun p => do
    let history ← planningHistory input p.2
    return { workflow := workflow, state := state, task := p.1, attempt := p.2,
             order := planningOrder input p.1 p.2 history inFlight,
             ready := p.2.progress = .ready }

def workflowEntries (w : PlanningWorkflow) : Except Err (List PlanningEntry) :=
  match newDAGExecution w.state with
  | .error e =>
    .error { e with text := "plan workflow run " ++ quote w.state.run.id ++ ": " ++ e.text }
  | .ok state => planningEntries input w.workflow state.snapshot

/-- The entries of a run, each with its place among them as its round. -/
def withRounds (entries : List PlanningEntry) (runID : String) : List PlanningEntry :=
  (((entries.filter fun e => e.state.run.id = runID).insertionSort
    fun a b => a.beforeInWorkflow b).zipIdx).map fun e =>
      { e.1 with order := { e.1.order with workflowRound := e.2 } }

def inRounds (entries : List PlanningEntry) : List PlanningEntry :=
  (((entries.map (·.state.run.id)).dedup).flatMap (withRounds entries)).insertionSort
    fun a b => a.before b

def orderedPlanningTasks : Except Err (List PlanningEntry) := do
  return inRounds (← input.workflows.mapM (workflowEntries input)).flatten

/-! ## What is against a task -/

def progressBlockers (state : DAGState) (task : Task) (attempt : Attempt) : List PlanningBlocker :=
  let stateBlocker : List PlanningBlocker :=
    [{ code := "attempt-state"
       detail := "attempt progress is " ++ quote attempt.progress.text ++ ", want " ++
         quote ProgressState.ready.text }]
  if attempt.assignmentID ≠ "" then
    [{ code := "attempt-state"
       detail := "attempt already has assignment " ++ quote attempt.assignmentID }]
  else if attempt.progress = .ready then []
  else if attempt.progress = .blocked then
    let waiting := task.needs.filter fun need =>
      !(taskSucceeded state.attempts (((taskByName state.tasks need).map (·.id)).getD ""))
    if waiting = [] then stateBlocker
    else waiting.map fun need =>
      { code := "dependency", dependsOn := need, detail := "waiting for dependency " ++ quote need }
  else stateBlocker

def planningSupervisionCode : SupervisionBlockerCode → String
  | .branchHold | .runHold => "supervision-hold"
  | .runCancelled | .runTerminal | .staleSnapshot => "supervision-run"
  | _ => "supervision-gate"

def supervisionBlockerDetail (b : SupervisionBlocker) : String :=
  "supervision withholds dispatch (" ++ b.code.text ++ ")" ++
    (if b.gateID ≠ "" then ": gate " ++ quote b.gateID
      else if b.holdID ≠ "" then ": hold " ++ quote b.holdID else "") ++
    (if blank b.reason then "" else ": " ++ trim b.reason)

def planningSupervisionBlockers (snapshots : List (String × SupervisionSnapshot)) (runID : String)
    (task : Task) : List PlanningBlocker :=
  match snapshots.lookup runID with
  | none => []
  | some snapshot =>
    let verdict := supervisionAdmits snapshot { taskID := task.id }
    if verdict.admitted then []
    else
      verdict.blockers.map fun b =>
        { code := planningSupervisionCode b.code
          supervisionCode := b.code.text
          gateID := b.gateID
          holdID := b.holdID
          detail := supervisionBlockerDetail b }

def planningResourceLocks (resources : List String) : Except Err (List String) := do
  let locks := resources.insertionSort (· ≤ ·)
  refuseWhen (∃ resource ∈ locks, proper resource = false)
    { text := "resource locks must be nonempty and trimmed" }
  match firstRepeated locks with
  | some resource => .error { text := "duplicate resource lock " ++ quote resource }
  | none => .ok locks

def resourceBlockers (attempt : Attempt) (locks : List String) : List PlanningBlocker :=
  (locks.filter fun resource => ownerOf owners resource ≠ "" ∧
    ownerOf owners resource ≠ attempt.id).map fun resource =>
      { code := "resource-busy"
        resource := resource
        ownerID := ownerOf owners resource
        detail := "resource " ++ quote resource ++ " is held by attempt " ++
          quote (ownerOf owners resource) }

def checkoutBlockers (workflow : Workflow) (runID : String) (attempt : Attempt) :
    List PlanningBlocker :=
  let owner := ownerOf owners runID
  if workflow.environmentScope = .workflow ∧ owner ≠ "" ∧ owner ≠ attempt.id then
    [{ code := "workflow-checkout-busy"
       ownerID := owner
       detail := "workflow checkout is held by attempt " ++ quote owner }]
  else []

def directoryBlockers (owners : List DirectoryOwner) (candidate : PlanningCandidate) :
    List PlanningBlocker :=
  candidate.task.directoryBindings.flatMap fun binding =>
    let resource := binding.identity.registration.resourceID
    if let some text := binding.refusal then
      [{ code := "directory-invalid", resource := resource, detail := text }]
    else if binding.identity.registration.workerID ≠ candidate.workerID then
      [{ code := "directory-host", resource := resource,
         detail := "directory is registered on a different worker" }]
    else
      (owners.filter fun o => o.attemptID ≠ candidate.attempt.id ∧
          o.bindings.any fun held => held.refusal.isSome || binding.conflicts held).map fun o =>
        { code := "resource-busy", resource := resource, ownerID := o.attemptID,
          detail := "directory " ++ quote resource ++ " overlaps retained ownership by attempt " ++
            quote o.attemptID }

end Steward
