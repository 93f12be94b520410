import Steward.Store.SupervisionAmendment
import Steward.Store.WorkflowProjection

/-!
# Committing a graph amendment

`CommitGraphAmendment` of `internal/store/sqlite/graph_revision.go` with the candidate check of
`graph_candidate.go`: the candidate is checked against the stored run, the graph and the attempts of
changed tasks are rewritten, and supervision absorbs the change. How references to other runs
resolve, whether the edges of all runs are sound, and the hashes are parameters.
-/

namespace Steward

open Except

/-- The hashes behind derived identities and graph digests. -/
structure GraphHash where
  sum : String → String
  digest : List Task → String

variable (hash : GraphHash)

def GraphHash.derivedID («namespace» kind : String) (parts : List String) : String :=
  kind ++ "-" ++
    hash.sum ("t3-steward/derived-id/v1\x00" ++ «namespace» ++ "\x00" ++ kind ++ "\x00" ++
      String.intercalate "\x00" parts)

def graphTaskID (key : String) : String := hash.derivedID "graph" "task" [key]

def graphPromptInputID (key : String) : String :=
  hash.derivedID "graph" "input" [key]

def firstAttemptID («namespace» taskID : String) : String :=
  hash.derivedID «namespace» "attempt" [taskID, "1"]

/-- A prepared amendment: the request, the run it was prepared from, and the candidate. -/
structure GraphCommit where
  request : GraphAmendment := {}
  actor : String := ""
  before : WorkflowRun := {}
  tasks : List Task := []
  inputs : List Artifact := []
  now : Time := 0
deriving DecidableEq

def GraphAmendment.wantsPrompt (r : GraphAmendment) : Bool :=
  r.operation = .taskAdd || (r.operation = .taskSet && r.prompt ≠ "")

def changedTasks (before after : List Task) : List Task :=
  after.filter fun t => !(before.any fun u => u = t)

def refuseAssignedEdits (snapshot : WorkflowProjectionSnapshot) (changed : List String) :
    Except Err Unit :=
  (snapshot.attempts.filter fun a => a.taskID ∈ changed).forM fun a => do
    refuseWhen
      (a.progress.terminal ∨ a.assignmentID ≠ "" ∨ (a.control ≠ .unset ∧ a.control ≠ .unassigned))
      { text := "terminal or previously assigned task cannot be edited" }
    refuseWhen (snapshot.assignments.any fun s => s.attemptID = a.id)
      { text := "task has assignment history" }

def validateInputCustody (runID : String) (artifacts : List Artifact) (task : Task) :
    Except Err Unit :=
  (task.promptArtifactID :: task.inputArtifactIDs).forM fun id =>
    match artifacts.reverse.find? fun a => a.id = id with
    | none => .error { text := "task input custody does not match run/task" }
    | some a => do
      refuseWhen (a.kind ≠ .input ∨ a.workflowRunID ≠ runID ∨ (a.taskID ≠ "" ∧ a.taskID ≠ task.id))
        { text := "task input custody does not match run/task" }
      refuseWhen (id = task.promptArtifactID ∧ a.taskID ≠ task.id)
        { text := "prompt must belong to task" }

namespace Store

def insertGraph (s : Store) (graph : GraphDefinition) : Except Err Store :=
  match s.graphRevisions.get? graph.key with
  | none => .ok { s with graphRevisions := s.graphRevisions.put graph }
  | some existing =>
    if existing = graph then .ok s
    else
      .error { text := "graph revision " ++ quote (graph.runID ++ "/" ++ toString graph.revision) ++
                 " is immutable and already has different content" }

def insertGraphInput (s : Store) (artifact : Artifact) : Except Err Store :=
  match s.artifacts.get? artifact.id with
  | none => .ok { s with artifacts := s.artifacts.put artifact }
  | some existing =>
    if existing = artifact then .ok s
    else
      .error { text := "graph input " ++ quote artifact.id ++
                 " is immutable and already has different content" }

def blockAttempt (now : Time) (s : Store) (attempt : Attempt) : Except Err Store :=
  s.updateAttempt
    { attempt with revision := attempt.revision + 1, updatedAt := now, progress := .blocked }
    attempt.revision

def insertFirstAttempt (hash : GraphHash) (runID : String) (now : Time) (s : Store)
    (taskID : String) : Except Err Store :=
  let attempt : Attempt :=
    { id := firstAttemptID hash "graph" taskID, workflowRunID := runID, taskID := taskID, number := 1
      revision := 1, progress := .blocked, control := .unassigned, updatedAt := now }
  if (s.attempts.get? attempt.id).isSome ∨
      s.attempts.rows.any (fun a => a.workflowRunID = runID ∧ a.taskID = taskID ∧ a.number = 1) then
    .error { text := "save new graph attempt " ++ quote attempt.id, sentinel := some .constraint }
  else .ok { s with attempts := s.attempts.put attempt }

section

variable (hash : GraphHash) (resolveNode : Store → NodeRef → Except Err NodeObservation)

variable (s : Store) (c : GraphCommit) (run : WorkflowRun) (snapshot : WorkflowProjectionSnapshot)

def resolveSource (request : GraphAmendment) : Except Err GraphAmendment :=
  if '/' ∈ request.source.toList then do
    let ref ← parseNodeRef request.source
    let observation ← resolveNode s ref
    return { request with source := observation.target.text }
  else .ok request

def resolveExternalNeeds (task : Task) : Except Err Task := do
  let externalNeeds ← task.externalNeeds.mapM fun ref =>
    (resolveNode s ref).map NodeObservation.target
  return { task with externalNeeds := externalNeeds }

def validateGraphCandidate (templates : List Task) : Except Err Unit := do
  let request ← resolveSource resolveNode s c.request
  let tasks ← amendTasks request run templates (graphTaskID hash request.id)
    (graphPromptInputID hash request.id)
  let tasks ← tasks.mapM (resolveExternalNeeds resolveNode s)
  refuseWhen (tasks ≠ c.tasks) { text := "prepared graph does not match amendment intent" }
  refuseWhen (request.wantsPrompt ∧ c.inputs.map Artifact.id ≠ [graphPromptInputID hash request.id])
    { text := "prompt amendment requires its single prepared prompt" }
  refuseWhen (!request.wantsPrompt ∧ c.inputs ≠ [])
    { text := "unexpected amendment input metadata" }

def checkGraphAmendment : Except Err Unit := do
  let run := snapshot.run
  refuseWhen (run.graphRevision ≠ c.request.expectedRevision ∨ run ≠ c.before)
    { text := "graph revision or inspected run changed", sentinel := some .staleGraph }
  refuseWhen (c.request.operation = .clone) { text := "clone requires clone transaction" }
  refuseWhen (run.sink.any fun sink => sink.progress.terminal)
    { text := "completed sink forbids graph amendments" }
  refuseWhen run.progress.terminal { text := "terminal run forbids graph amendments" }
  validateGraphTasks run c.tasks
  validateGraphCandidate hash resolveNode s c run snapshot.tasks
  refuseWhen (snapshot.tasks.any fun t => t.id ∉ c.tasks.map Task.id)
    { text := "task deletion is unsupported" }
  let changed := changedTasks snapshot.tasks c.tasks
  refuseWhen (changed = []) { text := "amendment makes no definition change" }
  refuseAssignedEdits snapshot (changed.map Task.id)
  c.tasks.forM (validateInputCustody run.id (s.artifacts.rows ++ c.inputs))

def amendedGraph : GraphDefinition :=
  { runID := run.id
    revision := run.graphRevision + 1
    parent := run.graphRevision
    actor := c.actor
    reason := c.request.reason
    requestID := c.request.id
    createdAt := c.now
    tasks := c.tasks
    digest := hash.digest c.tasks }

def retainOriginalGraph : Except Err Store :=
  if snapshot.run.graph = none then
    s.insertGraph
      { runID := snapshot.run.id
        revision := snapshot.run.graphRevision
        actor := "submission"
        reason := "original retained definition"
        requestID := "initial:" ++ snapshot.run.id
        createdAt := snapshot.run.createdAt
        tasks := snapshot.tasks
        digest := hash.digest snapshot.tasks }
  else .ok s

def amendedRun : Except Err WorkflowRun :=
  match bindRunSink { run with graphRevision := run.graphRevision + 1, graph := some c.tasks }
    c.tasks with
  | (_, some e) => .error e
  | (bound, none) => .ok { bound with revision := bound.revision + 1, updatedAt := c.now }

def amendAttempts : Except Err Store := do
  let changed := (changedTasks snapshot.tasks c.tasks).map Task.id
  let s ← (snapshot.attempts.filter fun a => a.taskID ∈ changed).foldlM (blockAttempt c.now) s
  (changed.filter fun id => id ∉ snapshot.tasks.map Task.id).foldlM
    (insertFirstAttempt hash snapshot.run.id c.now) s

variable (validateRunGraphEdges : Store → Except Err Unit)

def writeGraphAmendment (s : Store) (c : GraphCommit) (snapshot : WorkflowProjectionSnapshot) :
    Except Err (Store × GraphAmendmentResult) := do
  let graph := amendedGraph hash c snapshot.run
  let s ← retainOriginalGraph hash s snapshot
  let run ← amendedRun c snapshot.run
  let s ← c.inputs.foldlM insertGraphInput s
  let s ← amendAttempts hash s c snapshot
  let s := { s with workflowRuns := s.workflowRuns.put run }
  validateRunGraphEdges s
  let s ← s.insertGraph graph
  let s ← s.applySupervisionAmendment
    { run := run
      tasks := c.tasks
      changedTaskIDs := (changedTasks snapshot.tasks c.tasks).map Task.id
      requestID := c.request.id
      actor := c.actor
      reason := c.request.reason
      now := c.now }
  let s ← s.insertNativeAuditEvent
    { id := "graph-amended:" ++ c.request.id
      kind := "graph-amended"
      workflowRunID := run.id
      targetType := .workflowRun
      targetID := run.id
      actor := c.actor
      reason := c.request.reason
      createdAt := c.now }
    { expectedRevision := graph.parent
      revision := graph.revision
      idempotencyIdentity := c.request.id
      outcome := graph.digest }
  let result : GraphAmendmentResult := { run := run, graph := graph }
  return ({ s with
            graphRequests := s.graphRequests.put
              { id := c.request.id, actor := c.actor, request := c.request, result := result } },
    result)

def commitGraphAmendment (s : Store) (c : GraphCommit) :
    Except Err (Store × GraphAmendmentResult) := do
  validateGraphAmendment c.request
  refuseWhen (c.actor = "" ∨ c.now = 0) { text := "amendment actor and time required" }
  match s.graphRequests.get? c.request.id with
  | some stored =>
    if stored.actor ≠ c.actor ∨ stored.request ≠ c.request then
      .error { text := "amendment request ID replay changed content or actor" }
    else return (s, { stored.result with replay := true })
  | none =>
    let snapshot ← loadWorkflowProjection resolveNode s c.request.runID
    checkGraphAmendment hash resolveNode s c snapshot
    writeGraphAmendment hash validateRunGraphEdges s c snapshot

end

/-! ## What a committed amendment does -/

def runTasks (s : Store) (run : WorkflowRun) : List Task :=
  tasksForRun run (s.tasks.rows.filter fun t => t.workflowID = run.workflowID)

def KeepsAttempts (s s' : Store) : Prop :=
  ∀ id a, s.attempts.get? id = some a →
    ∃ a', s'.attempts.get? id = some a' ∧ a'.workflowRunID = a.workflowRunID ∧ a'.taskID = a.taskID

variable {s s' : Store} {c : GraphCommit}

theorem KeepsAttempts.hasAssignment (hattempts : KeepsAttempts s s')
    (hassignments : s'.assignments = s.assignments) {runID taskID : String} {state : AssignmentState}
    (h : s.HasAssignment runID taskID state) : s'.HasAssignment runID taskID state := by
  obtain ⟨a, ha, hstate, t, ht, hrun, htask⟩ := h
  obtain ⟨t', ht', hrun', htask'⟩ := hattempts _ t ht
  exact ⟨a, hassignments ▸ ha, hstate, t', ht', hrun'.trans hrun, htask'.trans htask⟩

theorem insertGraph_ok {graph : GraphDefinition} (h : s.insertGraph graph = .ok s') :
    ∃ graphRevisions, s' = { s with graphRevisions := graphRevisions } := by
  unfold insertGraph at h
  split at h
  · exact ⟨_, (ok.inj h).symm⟩
  · split_ifs at h
    exact ⟨s.graphRevisions, (ok.inj h).symm⟩

theorem insertGraphInputs_ok {inputs : List Artifact}
    (h : inputs.foldlM insertGraphInput s = .ok s') :
    ∃ artifacts, s' = { s with artifacts := artifacts } := by
  refine foldlM_invariant (I := fun s' => ∃ artifacts, s' = { s with artifacts := artifacts }) ?_
    ⟨_, rfl⟩ h
  rintro _ input - s₂ ⟨artifacts, rfl⟩ hstep
  unfold insertGraphInput at hstep
  split at hstep
  · exact ⟨_, (ok.inj hstep).symm⟩
  · split_ifs at hstep
    exact ⟨_, (ok.inj hstep).symm⟩

theorem amendAttempts_ok {hash : GraphHash} {snapshot : WorkflowProjectionSnapshot}
    (hrows : ∀ a ∈ snapshot.attempts, s.attempts.get? a.id = some a)
    (h : amendAttempts hash s c snapshot = .ok s') :
    (∃ attempts, s' = { s with attempts := attempts }) ∧ KeepsAttempts s s' := by
  obtain ⟨s₁, hblocked, hinserted⟩ := of_bind h
  have hfirst : (∃ attempts, s₁ = { s with attempts := attempts }) ∧ KeepsAttempts s s₁ := by
    refine foldlM_invariant
      (I := fun s' => (∃ attempts, s' = { s with attempts := attempts }) ∧ KeepsAttempts s s')
      ?_ ⟨⟨_, rfl⟩, fun id a ha => ⟨a, ha, rfl, rfl⟩⟩ hblocked
    rintro _ attempt hattempt s₂ ⟨⟨attempts, rfl⟩, hkept⟩ hstep
    obtain ⟨-, rfl⟩ := updateAttempt_ok hstep
    refine ⟨⟨_, rfl⟩, fun id a ha => ?_⟩
    by_cases hid : attempt.id = id
    · subst hid
      have hrow := hrows attempt (List.mem_filter.1 hattempt).1
      cases hrow.symm.trans ha
      exact ⟨_, Table.get?_put_self _ _, rfl, rfl⟩
    · obtain ⟨a', ha', hsame⟩ := hkept id a ha
      refine ⟨a', ?_, hsame⟩
      rw [Table.get?_put, if_neg hid]
      exact ha'
  refine foldlM_invariant
    (I := fun s' => (∃ attempts, s' = { s with attempts := attempts }) ∧ KeepsAttempts s s')
    ?_ hfirst hinserted
  rintro _ taskID - s₂ ⟨⟨attempts, rfl⟩, hkept⟩ hstep
  unfold insertFirstAttempt at hstep
  dsimp only at hstep
  split_ifs at hstep with hclash
  cases hstep
  refine ⟨⟨_, rfl⟩, fun id a ha => ?_⟩
  obtain ⟨a', ha', hsame⟩ := hkept id a ha
  refine ⟨a', ?_, hsame⟩
  rw [Table.get?_put, if_neg]
  · exact ha'
  · rintro rfl
    exact hclash (.inl (by rw [ha']; rfl))

theorem amendedRun_ok {run run' : WorkflowRun} (h : amendedRun c run = .ok run') :
    run'.id = run.id ∧ run'.workflowID = run.workflowID ∧ run'.graph = some c.tasks ∧
      run'.supervision = run.supervision := by
  unfold amendedRun at h
  split at h
  · cases h
  · rename_i bound hbound
    cases h
    have hframe := bindRunSink_frame
      { run with graphRevision := run.graphRevision + 1, graph := some c.tasks } c.tasks
    rw [hbound] at hframe
    dsimp only at hframe ⊢
    rw [hframe]
    exact ⟨rfl, rfl, rfl, rfl⟩

/-- A committed amendment: in the state `mid` the run has its new graph and the changed attempts are
rewritten, and from it supervision absorbed the change. -/
structure Amended (s : Store) (c : GraphCommit) (run run' : WorkflowRun) (mid s' : Store) : Prop where
  row : s.workflowRuns.get? c.request.runID = some run
  sound : SoundGraph c.tasks
  kept : ∀ t ∈ s.runTasks run, t.id ∈ c.tasks.map Task.id
  runID : run'.id = run.id
  graph : run'.graph = some c.tasks
  supervision : run'.supervision = run.supervision
  runs : mid.workflowRuns = s.workflowRuns.put run'
  gates : mid.gates = s.gates
  records : mid.supervision = s.supervision
  tasks : mid.tasks = s.tasks
  assignments : mid.assignments = s.assignments
  attempts : KeepsAttempts s mid
  absorbed : Absorbed mid
    { run := run', tasks := c.tasks
      changedTaskIDs := (changedTasks (s.runTasks run) c.tasks).map Task.id
      requestID := c.request.id, actor := c.actor, reason := c.request.reason, now := c.now } s'

section

variable {hash : GraphHash} {resolveNode : Store → NodeRef → Except Err NodeObservation}
  {validateRunGraphEdges : Store → Except Err Unit} {result : GraphAmendmentResult}

variable {snapshot : WorkflowProjectionSnapshot}

theorem loadWorkflowProjection_tasks {runID : String}
    (h : loadWorkflowProjection resolveNode s runID = .ok snapshot) :
    snapshot.tasks = s.runTasks snapshot.run := by
  unfold loadWorkflowProjection at h
  split at h
  · cases h
  · obtain ⟨dependencies, -, h⟩ := of_bind h
    cases h
    rfl

theorem checkGraphAmendment_ok {u : Unit}
    (h : checkGraphAmendment hash resolveNode s c snapshot = .ok u) :
    SoundGraph c.tasks ∧ ∀ t ∈ snapshot.tasks, t.id ∈ c.tasks.map Task.id := by
  replace h := past_guard h
  replace h := past_guard h
  replace h := past_guard h
  replace h := past_guard h
  obtain ⟨_, hvalid, h⟩ := of_bind h
  obtain ⟨_, -, h⟩ := of_bind h
  obtain ⟨hkept, -⟩ := of_guard h
  refine ⟨validateGraphTasks_sound hvalid, fun t ht => ?_⟩
  by_contra hmissing
  exact hkept (List.any_eq_true.2 ⟨t, ht, by simpa using hmissing⟩)

theorem commitGraphAmendment_ok
    (h : commitGraphAmendment hash resolveNode validateRunGraphEdges s c = .ok (s', result)) :
    ((s.graphRequests.get? c.request.id).isSome ∧ s' = s) ∨
      (s.graphRequests.get? c.request.id = none ∧ ∃ run run' mid, Amended s c run run' mid s') := by
  obtain ⟨_, -, h⟩ := of_bind h
  replace h := past_guard h
  split at h
  · rename_i stored hstored
    split_ifs at h
    exact .inl ⟨by rw [hstored]; rfl, (Prod.mk.inj (ok.inj h)).1.symm⟩
  · rename_i hnone
    obtain ⟨snapshot, hload, h⟩ := of_bind h
    obtain ⟨_, hcheck, h⟩ := of_bind h
    obtain ⟨hrow, -, hattempts⟩ := loadWorkflowProjection_ok hload
    have htasks := loadWorkflowProjection_tasks hload
    obtain ⟨hsound, hkept⟩ := checkGraphAmendment_ok hcheck
    unfold writeGraphAmendment at h
    rw [htasks] at hkept h
    obtain ⟨s₁, horiginal, h⟩ := of_bind h
    obtain ⟨run', hrun', h⟩ := of_bind h
    obtain ⟨s₂, hinputs, h⟩ := of_bind h
    obtain ⟨s₃, hamended, h⟩ := of_bind h
    obtain ⟨_, -, h⟩ := of_bind h
    obtain ⟨s₄, hgraph, h⟩ := of_bind h
    obtain ⟨s₅, habsorbed, h⟩ := of_bind h
    obtain ⟨s₆, haudit, h⟩ := of_bind h
    cases h
    have hfirst : ∃ graphRevisions, s₁ = { s with graphRevisions := graphRevisions } := by
      unfold retainOriginalGraph at horiginal
      split_ifs at horiginal
      · exact insertGraph_ok horiginal
      · exact ⟨_, (ok.inj horiginal).symm⟩
    obtain ⟨graphRevisions, rfl⟩ := hfirst
    obtain ⟨artifacts, rfl⟩ := insertGraphInputs_ok hinputs
    obtain ⟨⟨attempts, rfl⟩, hkeeps⟩ := amendAttempts_ok (by exact fun a ha => (hattempts a ha).2)
      hamended
    obtain ⟨graphRevisions', rfl⟩ := insertGraph_ok hgraph
    obtain ⟨auditEvents, rfl⟩ := insertNativeAuditEvent_ok haudit
    obtain ⟨hid, -, hgraph', hsupervision⟩ := amendedRun_ok hrun'
    have habs := applySupervisionAmendment_ok habsorbed
    let mid : Store :=
      { s with
        graphRevisions := graphRevisions', artifacts := artifacts, attempts := attempts
        workflowRuns := s.workflowRuns.put run' }
    exact .inr ⟨hnone, snapshot.run, run', mid,
      { row := hrow, sound := hsound, kept := hkept, runID := hid, graph := hgraph'
        supervision := hsupervision, runs := rfl, gates := rfl, records := rfl, tasks := rfl
        assignments := rfl, attempts := hkeeps
        absorbed := ⟨habs.gates, habs.others, habs.unsupervised, habs.runs, habs.tasks,
          habs.supervised⟩ }⟩

end

end Store

end Steward
