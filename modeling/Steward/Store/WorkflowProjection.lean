import Steward.Store.RunCancelSupervision

/-!
# Publishing a workflow projection

`internal/store/sqlite/workflow_projection.go`: the run-local read set a projection is computed
from, and `CommitWorkflowProjection`, which publishes the projected run and attempts against exactly
that read set. The transaction recomputes the sink from its own rows before it writes.
-/

namespace Steward

open Except

/-- The run-local supervision state a projection fences; overseer activations are not modelled. -/
structure SupervisionReadSet where
  record : Option SupervisionRecord := none
  gates : List Gate := []
  holds : List Hold := []
  incidents : List ReviewIncident := []
deriving DecidableEq

/-- The run-local read set fenced at publication. -/
structure WorkflowProjectionSnapshot where
  dependencies : List NodeObservation := []
  run : WorkflowRun := {}
  tasks : List Task := []
  attempts : List Attempt := []
  assignments : List Assignment := []
  supervision : Option SupervisionReadSet := none
deriving DecidableEq

namespace Store

def supervisionReadSet (s : Store) (runID : String) : Option SupervisionReadSet :=
  let read : SupervisionReadSet :=
    { record := s.supervision.get? runID
      gates := s.loadSupervisionGates runID
      holds := s.loadSupervisionHolds runID .unset
      incidents := s.loadSupervisionIncidents runID }
  if read = {} then none else some read

section

variable (resolveNode : Store → NodeRef → Except Err NodeObservation)

/-- The observed dependencies of tasks on other runs. How a reference is resolved from the store is
a parameter. -/
def nodeDependencies (s : Store) (tasks : List Task) : Except Err (List NodeObservation) :=
  (tasks.flatMap Task.externalNeeds).mapM (resolveNode s)

/-- The read set of a run: its declared graph with the attempts and assignments of declared tasks,
its supervision and its dependencies. -/
def loadWorkflowProjection (s : Store) (runID : String) : Except Err WorkflowProjectionSnapshot :=
  match s.workflowRuns.get? runID with
  | none => .error { text := "sql: no rows in result set", sentinel := some .noRows }
  | some run => do
    let tasks := tasksForRun run (s.tasks.rows.filter fun t => t.workflowID = run.workflowID)
    let attempts := declaredTaskAttempts (s.attempts.rows.filter fun a => a.workflowRunID = runID)
    let dependencies ← nodeDependencies resolveNode s tasks
    return {
      dependencies := dependencies
      run := run
      tasks := tasks
      attempts := attempts
      assignments := s.assignments.rows.filter fun a => attempts.any fun t => t.id = a.attemptID
      supervision := s.supervisionReadSet runID }

end

/-- What a publication compares of a read set: every list in the order of its identities. -/
def projectionBytes (snapshot : WorkflowProjectionSnapshot) : WorkflowProjectionSnapshot :=
  { snapshot with
    tasks := snapshot.tasks.insertionSort fun a b => a.id ≤ b.id
    attempts := snapshot.attempts.insertionSort fun a b => a.id ≤ b.id
    assignments := snapshot.assignments.insertionSort fun a b => a.id ≤ b.id
    dependencies := snapshot.dependencies.insertionSort fun a b => a.target.text ≤ b.target.text }

/-! ## The attempts -/

variable (s : Store) (run : WorkflowRun)

variable (prior attempt : Attempt) (now : Time)

def updateAdminAttempt (expectedRevision : Int) : Except Err Store :=
  if (s.attempts.get? attempt.id).any fun a => a.revision = expectedRevision then
    .ok { s with attempts := s.attempts.put attempt }
  else .error { text := "stale attempt " ++ quote attempt.id ++ " revision" }

def allowedAttempt : Attempt :=
  let allowed :=
    { prior with
      progress := attempt.progress
      failure := attempt.failure
      revision := prior.revision + 1
      updatedAt := now }
  if attempt.progress = .skipped then { allowed with control := .stopped, completedAt := some now }
  else allowed

def checkProjectedAttempt : Except Err Unit := do
  refuseWhen (prior.assignmentID ≠ "" ∨ prior.progress.terminal = true)
    { text := "projection cannot mutate assigned or terminal attempts" }
  refuseWhen (attempt.progress ≠ .ready ∧ attempt.progress ≠ .blocked ∧
      attempt.progress ≠ .skipped)
    { text := "projection cannot synthesize an execution outcome" }
  refuseWhen (allowedAttempt prior attempt now ≠ attempt)
    { text := "projection changed execution fields" }

def publishAttempt : Except Err Store :=
  if attempt.revision ≠ prior.revision ∧ attempt.revision ≠ prior.revision + 1 then
    .error { text := "projection changed attempt revision incorrectly" }
  else if attempt.revision = prior.revision then
    if prior ≠ attempt then
      .error { text := "projection changed attempt without advancing revision" }
    else .ok s
  else do
    checkProjectedAttempt prior attempt now
    s.updateAdminAttempt attempt prior.revision

def publishAttempts (runID : String) (now : Time) (s : Store) :
    List Attempt → List Attempt → Except Err (Store × List Attempt)
  | [], remaining => .ok (s, remaining)
  | attempt :: rest, remaining =>
    match remaining.find? fun a => a.id = attempt.id with
    | none => .error { text := "projection changed attempt identity" }
    | some prior =>
      if attempt.workflowRunID ≠ runID ∨ attempt.taskID ≠ prior.taskID ∨
          attempt.number ≠ prior.number then
        .error { text := "projection changed attempt identity" }
      else do
        let s ← s.publishAttempt prior attempt now
        publishAttempts runID now s rest (remaining.filter fun a => a.id ≠ attempt.id)

/-! ## The run -/

def sinkSettled : Bool :=
  run.sink.any fun sink => sink.progress.terminal

def checkProjectedRun (current verified run : WorkflowRun) (now : Time) : Except Err Unit := do
  refuseWhen (verified.sink ≠ run.sink ∨ run.graphRevision ≠ verified.graphRevision)
    { text := "projection sink does not match its predecessors" }
  if sinkSettled run then
    refuseWhen (run.progress ≠ verified.progress ∨ run.completedAt ≠ verified.completedAt)
      { text := "projection run outcome differs from sink result" }
  else
    refuseWhen (run.progress.terminal = true ∨ run.completedAt ≠ none)
      { text := "run cannot complete before its sink" }
  refuseWhen ({ current with
      sink := verified.sink, graphRevision := verified.graphRevision, progress := run.progress
      completedAt := run.completedAt, revision := current.revision + 1, updatedAt := now } ≠ run)
    { text := "projection changed run definition" }

def updateWorkflowRun (expectedRevision : Int) : Except Err Store :=
  if (s.workflowRuns.get? run.id).any fun r => r.revision = expectedRevision then
    .ok { s with workflowRuns := s.workflowRuns.put run }
  else
    .error { text := "workflow projection inputs changed", sentinel := some .staleWorkflowProjection }

def releaseSettledRunHolds (s : Store) (now : Time) : List Hold → Except Err Store
  | [] => .ok s
  | hold :: rest => do
    let next ← holdTransition { hold := hold, event := .runSettled }
    releaseSettledRunHolds (s.saveSupervisionHold { hold with state := next, releasedAt := some now })
      now rest

def recordSettlement : Except Err Store := do
  let sink := run.sink.getD {}
  let s ← s.insertAuditEvent
    { id := "sink-settled:" ++ run.id
      workflowRunID := run.id
      taskID := sink.id
      kind := "sink-settled"
      actor := "coordinator"
      reason := "all sink predecessors are terminal and executions are quiescent"
      detail := .sinkSettled sink
      createdAt := now }
  s.releaseSettledRunHolds now (s.loadSupervisionHolds run.id .active)

section

variable (resolveNode : Store → NodeRef → Except Err NodeObservation)

/-- Publish a projected run and its attempts, in one transaction fenced by the read set they were
computed from. -/
def commitWorkflowProjection (s : Store) (before : WorkflowProjectionSnapshot) (run : WorkflowRun)
    (attempts : List Attempt) (now : Time) : Except Err Store := do
  refuseWhen (run.id ≠ before.run.id ∨ run.workflowID ≠ before.run.workflowID ∨
      run.revision ≠ before.run.revision + 1 ∨ now = 0)
    { text := "invalid workflow projection identity or revision" }
  let current ← s.loadWorkflowProjection resolveNode run.id
  refuseWhen (projectionBytes before ≠ projectionBytes current)
    { text := "workflow projection inputs changed", sentinel := some .staleWorkflowProjection }
  refuseWhen (sinkSettled current.run = true) { text := "completed sink is immutable" }
  refuseWhen (attempts.length ≠ current.attempts.length)
    { text := "projection cannot add or remove attempts" }
  let (s, remaining) ← publishAttempts run.id now s attempts current.attempts
  refuseWhen (remaining ≠ []) { text := "projection repeated an attempt" }
  let verified ← match projectRunSink current.run current.tasks attempts current.assignments now with
    | (_, some e) => .error e
    | (verified, none) => .ok verified
  checkProjectedRun current.run verified run now
  let s ← s.updateWorkflowRun run before.run.revision
  if sinkSettled run then s.recordSettlement run now else return s

end

/-- The read set of a run: its row, and attempts of its own under distinct identities. -/
theorem loadWorkflowProjection_ok {s : Store}
    {resolveNode : Store → NodeRef → Except Err NodeObservation} {runID : String}
    {before : WorkflowProjectionSnapshot}
    (h : s.loadWorkflowProjection resolveNode runID = .ok before) :
    s.workflowRuns.get? runID = some before.run ∧ (before.attempts.map Attempt.id).Nodup ∧
      ∀ a ∈ before.attempts, a.workflowRunID = runID ∧ s.attempts.get? a.id = some a := by
  unfold loadWorkflowProjection at h
  split at h
  · cases h
  · rename_i run hrun
    obtain ⟨dependencies, -, hbefore⟩ := of_bind h
    cases hbefore
    have hsub : (declaredTaskAttempts (s.attempts.rows.filter fun a => a.workflowRunID = runID)).Sublist
        (s.attempts.rows.filter fun a => a.workflowRunID = runID) := List.filter_sublist
    refine ⟨hrun, ?_, fun a ha => ?_⟩
    · exact s.attempts.nodup_keys.sublist ((hsub.trans List.filter_sublist).map _)
    · obtain ⟨hmem, hown⟩ := List.mem_filter.1 (hsub.subset ha)
      exact ⟨by simpa using hown, Table.mem_rows_iff.1 hmem⟩

/-! ## What a publication writes -/

section

variable {s s' : Store} {now : Time}

theorem updateAdminAttempt_ok {attempt : Attempt} {expectedRevision : Int}
    (h : s.updateAdminAttempt attempt expectedRevision = .ok s') :
    s' = { s with attempts := s.attempts.put attempt } := by
  unfold updateAdminAttempt at h
  split_ifs at h
  exact (ok.inj h).symm

theorem publishAttempt_ok {prior attempt : Attempt}
    (h : s.publishAttempt prior attempt now = .ok s') :
    ∃ attempts, s' = { s with attempts := attempts } := by
  unfold publishAttempt at h
  split_ifs at h
  · exact ⟨s.attempts, (ok.inj h).symm⟩
  · obtain ⟨_, -, h⟩ := of_bind h
    exact ⟨_, updateAdminAttempt_ok h⟩

theorem publishAttempts_ok {runID : String} {attempts remaining left : List Attempt}
    (h : publishAttempts runID now s attempts remaining = .ok (s', left)) :
    ∃ attempts, s' = { s with attempts := attempts } := by
  induction attempts generalizing s remaining with
  | nil => exact ⟨s.attempts, (Prod.mk.inj (ok.inj h)).1.symm⟩
  | cons attempt rest ih =>
    unfold publishAttempts at h
    split at h
    · cases h
    · split_ifs at h
      obtain ⟨mid, hfirst, h⟩ := of_bind h
      obtain ⟨attempts, rfl⟩ := publishAttempt_ok hfirst
      obtain ⟨attempts', rfl⟩ := ih h
      exact ⟨attempts', rfl⟩

theorem releaseSettledRunHolds_ok {holds : List Hold} (h : s.releaseSettledRunHolds now holds = .ok s') :
    ∃ holds, s' = { s with holds := holds } := by
  induction holds generalizing s with
  | nil => exact ⟨s.holds, (ok.inj h).symm⟩
  | cons hold rest ih =>
    obtain ⟨_, -, h⟩ := of_bind h
    obtain ⟨holds, rfl⟩ := ih h
    exact ⟨holds, rfl⟩

/-- A publication, taken apart: the read set of an open run, its attempts, the sink recomputed over
them, and the run that passed the comparison with it. -/
theorem commitWorkflowProjection_inv {resolveNode : Store → NodeRef → Except Err NodeObservation}
    {before : WorkflowProjectionSnapshot} {run : WorkflowRun} {attempts : List Attempt}
    (h : s.commitWorkflowProjection resolveNode before run attempts now = .ok s') :
    ∃ current published verified auditEvents holds,
      s.loadWorkflowProjection resolveNode run.id = .ok current ∧ sinkSettled current.run = false ∧
      publishAttempts run.id now s attempts current.attempts = .ok (published, []) ∧
      projectRunSink current.run current.tasks attempts current.assignments now = (verified, none) ∧
      checkProjectedRun current.run verified run now = .ok () ∧
      s' = { published with
        workflowRuns := published.workflowRuns.put run
        auditEvents := auditEvents
        holds := holds } := by
  replace h := past_guard h
  obtain ⟨current, hload, h⟩ := of_bind h
  replace h := past_guard h
  obtain ⟨hopen, h⟩ := of_guard h
  replace h := past_guard h
  obtain ⟨⟨published, remaining⟩, hpublish, h⟩ := of_bind h
  obtain ⟨hnone, h⟩ := of_guard h
  rw [not_not.1 hnone] at hpublish
  dsimp only at h
  split at h
  · cases h
  rename_i verified hverified
  rw [ok_bind] at h
  obtain ⟨_, hcheck, h⟩ := of_bind h
  obtain ⟨written, hupdate, h⟩ := of_bind h
  unfold updateWorkflowRun at hupdate
  split_ifs at hupdate
  cases hupdate
  split_ifs at h
  · obtain ⟨recorded, haudit, h⟩ := of_bind h
    obtain ⟨auditEvents, rfl⟩ := insertAuditEvent_ok haudit
    obtain ⟨holds, rfl⟩ := releaseSettledRunHolds_ok h
    exact ⟨current, published, verified, auditEvents, holds, hload, by simpa using hopen, hpublish,
      hverified, hcheck, rfl⟩
  · cases h
    exact ⟨current, published, verified, _, _, hload, by simpa using hopen, hpublish, hverified,
      hcheck, rfl⟩

theorem checkProjectedRun_ok {current verified run : WorkflowRun}
    (h : checkProjectedRun current verified run now = .ok ()) :
    run.sink = verified.sink ∧ (sinkSettled run = true → run.progress = verified.progress) := by
  obtain ⟨hsink, h⟩ := of_guard h
  rw [not_or, not_not] at hsink
  refine ⟨hsink.1.symm, fun hsettled => ?_⟩
  rw [if_pos hsettled] at h
  obtain ⟨hprogress, -⟩ := of_guard h
  rw [not_or, not_not] at hprogress
  exact hprogress.1

end

end Store

end Steward
