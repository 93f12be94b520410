import Steward.Domain.Sink

/-!
# When a sink settles, and that it stays settled

`projectSupervisedRunSink` publishes a terminal sink exactly when the latest attempt of every needed
task is terminal, the run's executions are quiescent and the supervision barrier permits it. Every
later bind and projection keeps a terminal sink.
-/

namespace Steward

open Except List

/-! ## What the three conditions say -/

variable (runID : String) (attempts : List Attempt)

def RunExecution (a : Attempt) : Prop :=
  a ∈ attempts ∧ a.workflowRunID = runID ∧ a.isSupervisionActivation = false

/-- Every execution of the run is over: control stopped or never assigned, the named assignment its
own and settled, and no other assignment of it unsettled. -/
structure ExecutionsQuiescent (runID : String) (attempts : List Attempt)
    (assignments : List Assignment) : Prop where
  control : ∀ a, RunExecution runID attempts a →
    a.control = .unset ∨ a.control = .stopped ∨ a.control = .unassigned
  named : ∀ a, RunExecution runID attempts a → a.assignmentID ≠ "" →
    ∃ s ∈ assignments, s.id = a.assignmentID ∧ s.attemptID = a.id ∧
      (s.state = .completed ∨ s.state = .released)
  owned : ∀ a, RunExecution runID attempts a → ∀ s ∈ assignments, s.attemptID = a.id →
    s.state = .completed ∨ s.state = .released

/-- `a` is the latest attempt of a task in a run: no other has a higher number, and no earlier
entry has the same. -/
def IsLatestAttempt (taskID : String) (a : Attempt) :
    Prop :=
  let own := attempts.filter fun b => b.workflowRunID = runID ∧ b.taskID = taskID
  a ∈ own ∧ (∀ b ∈ own, b.number ≤ a.number) ∧
    ∀ b ∈ own, a.number ≤ b.number → own.idxOf a ≤ own.idxOf b

/-- The barrier rule: a supervised run settles only with every incident resolved, and unless it
already failed, with every final-settlement gate accepted or cancelled. -/
def SupervisionBarrier.Permits (barrier : SupervisionBarrier) (runFailed : Prop) : Prop :=
  barrier.supervised = true →
    (∀ i ∈ barrier.incidents, i.state ≠ .open ∧ i.state ≠ .escalated) ∧
    (runFailed ∨ ∀ g ∈ barrier.gates, g.definition.final = true →
      g.state = .accepted ∨ g.state = .cancelled)

/-- The run's outcome is already a failed or cancelled one: a needed task's latest attempt failed
or was cancelled, or a fix loop ran out of rounds. -/
def OutcomeFailed (tasks : List Task) (attempts : List Attempt) : Prop :=
  (∃ t ∈ tasks, ∃ a, IsLatestAttempt runID attempts t.id a ∧
    (a.progress = .failed ∨ a.progress = .cancelled)) ∨
  ∃ loop ∈ summarizeFixLoops tasks attempts, loop.exhausted = true

/-- The three conditions under which a sink may settle. -/
structure MaySettle (runID : String) (tasks : List Task) (attempts : List Attempt)
    (assignments : List Assignment) (barrier : SupervisionBarrier) : Prop where
  latest : ∀ t ∈ tasks, ∃ a, IsLatestAttempt runID attempts t.id a ∧ a.progress.terminal = true
  quiescent : ExecutionsQuiescent runID attempts assignments
  permitted : barrier.Permits (OutcomeFailed runID tasks attempts)

/-- The run's sink is settled. -/
def WorkflowRun.sinkTerminal (run : WorkflowRun) : Prop :=
  ∃ sink, run.sink = some sink ∧ sink.progress.terminal = true

/-! ## Each condition is what its function decides -/

theorem settled_iff (s : AssignmentState) : s.settled = true ↔ s = .completed ∨ s = .released := by
  cases s <;> simp [AssignmentState.settled]

theorem control_quiescent_iff (c : ControlState) :
    c.quiescent = true ↔ c = .unset ∨ c = .stopped ∨ c = .unassigned := by
  cases c <;> simp [ControlState.quiescent]

theorem supervisionSettlementBarrier_settles_iff (barrier : SupervisionBarrier) (runFailed : Bool) :
    (supervisionSettlementBarrier barrier runFailed).settles = true ↔
    barrier.Permits (runFailed = true) := by
  unfold supervisionSettlementBarrier SupervisionBarrier.Permits
  cases hs : barrier.supervised with
  | false => simp
  | true =>
    cases hi : barrier.incidents.find? fun i => i.state.unresolved with
    | some incident =>
      have hmem := mem_of_find?_eq_some hi
      have hun := find?_some hi
      simp only [Bool.not_true, Bool.false_eq_true, if_false, forall_const, false_iff]
      intro h
      have := (unresolved_eq_false_iff _).2 (h.1 incident hmem)
      simp [this] at hun
    | none =>
      have hres : ∀ i ∈ barrier.incidents, i.state ≠ .open ∧ i.state ≠ .escalated := by
        intro i hmem
        exact (unresolved_eq_false_iff _).1 (by simpa using find?_eq_none.1 hi i hmem)
      cases runFailed with
      | true => simpa using hres
      | false =>
        cases hg : barrier.gates.find? Gate.withholdsSettlement with
        | some gate =>
          have hmem := mem_of_find?_eq_some hg
          have hw := find?_some hg
          simp only [Gate.withholdsSettlement, decide_eq_true_eq] at hw
          simp only [Bool.not_true, Bool.false_eq_true, if_false, forall_const, false_or, false_iff]
          intro h
          exact hw.2 (h.2 gate hmem hw.1)
        | none =>
          simp only [Bool.not_true, Bool.false_eq_true, if_false, forall_const, false_or, true_iff]
          refine ⟨hres, fun g hmem hf => ?_⟩
          have := find?_eq_none.1 hg g hmem
          simp only [Gate.withholdsSettlement, decide_eq_true_eq, not_and, not_not] at this
          exact this hf

variable {run : WorkflowRun} {attempts : List Attempt} {tasks : List Task}
  {assignments : List Assignment} {runID : String} {r : SinkResult × Bool} {sink : SinkTask}
  {barrier : SupervisionBarrier}

theorem Attempt.quiescent_spec {a : Attempt} (h : a.quiescent assignments = true) :
    (a.control = .unset ∨ a.control = .stopped ∨ a.control = .unassigned) ∧
    (a.assignmentID ≠ "" → ∃ s ∈ assignments, s.id = a.assignmentID ∧ s.attemptID = a.id ∧
      (s.state = .completed ∨ s.state = .released)) := by
  unfold Attempt.quiescent at h
  rw [Bool.and_eq_true, Bool.or_eq_true] at h
  refine ⟨(control_quiescent_iff _).1 h.1, fun hne => ?_⟩
  rcases h.2 with he | hs
  · exact absurd (by simpa using he) hne
  · split at hs
    · cases hs
    · rename_i s hfind
      have hmem := mem_of_find?_eq_some hfind
      have hid := find?_some hfind
      rw [Bool.and_eq_true] at hs
      exact ⟨s, by simpa using hmem, by simpa using hid, by simpa using hs.1, (settled_iff _).1 hs.2⟩

theorem runExecutionsQuiescent_spec (h : runExecutionsQuiescent runID attempts assignments = true) :
    ExecutionsQuiescent runID attempts assignments := by
  unfold runExecutionsQuiescent at h
  rw [Bool.and_eq_true, all_eq_true, all_eq_true] at h
  obtain ⟨hatt, hass⟩ := h
  have hown : ∀ a, RunExecution runID attempts a →
      a ∈ attempts.filter fun a => a.workflowRunID = runID ∧ a.isSupervisionActivation = false := by
    rintro a ⟨hmem, hrun, hact⟩
    simp [hmem, hrun, hact]
  refine ⟨fun a ha => (Attempt.quiescent_spec (hatt a (hown a ha))).1,
    fun a ha => (Attempt.quiescent_spec (hatt a (hown a ha))).2, fun a ha s hs hid => ?_⟩
  have howned := hass s hs
  rw [Bool.or_eq_true] at howned
  rcases howned with hnone | hset
  · exfalso
    simp only [Bool.not_eq_true', any_eq_false, decide_eq_true_eq] at hnone
    exact hnone a (hown a ha) hid.symm
  · exact (settled_iff _).1 hset

theorem currentAttempt_eq_some {taskID : String} {a : Attempt}
    (h : currentAttempt runID attempts taskID = some a) :
    IsLatestAttempt runID attempts taskID a := by
  unfold currentAttempt at h
  rw [latestAttempt_eq_argmax, filter_filter, argmax_eq_some_iff] at h
  have hfilter : (attempts.filter fun b => decide (b.taskID = taskID) && decide (b.workflowRunID = runID)) =
      attempts.filter fun b => decide (b.workflowRunID = runID ∧ b.taskID = taskID) := by
    congr 1
    funext b
    rw [Bool.and_comm, Bool.decide_and]
  rw [hfilter] at h
  exact h

/-! ## The needed tasks -/

theorem addOutcome_spec (result : SinkResult) (allSucceeded : Bool) (id : String) (a : Attempt) :
    (result.addOutcome allSucceeded id a).1.fixLoops = result.fixLoops ∧
    (result.addOutcome allSucceeded id a).1.failedTaskIDs =
      result.failedTaskIDs ++ (if a.progress = .failed then [id] else []) ∧
    (result.addOutcome allSucceeded id a).1.cancelledTaskIDs =
      result.cancelledTaskIDs ++ (if a.progress = .cancelled then [id] else []) := by
  unfold SinkResult.addOutcome
  cases a.progress <;> simp
  split_ifs <;> simp

theorem aggregateNeeds_spec {current : String → Option Attempt} {ids : List String}
    {acc : SinkResult × Bool} (h : aggregateNeeds current ids acc = some r) :
    (∀ id ∈ ids, ∃ a, current id = some a ∧ a.progress.terminal = true) ∧
    r.1.fixLoops = acc.1.fixLoops ∧
    (∀ id, id ∈ r.1.failedTaskIDs ↔ id ∈ acc.1.failedTaskIDs ∨
      id ∈ ids ∧ ∃ a, current id = some a ∧ a.progress = .failed) ∧
    (∀ id, id ∈ r.1.cancelledTaskIDs ↔ id ∈ acc.1.cancelledTaskIDs ∨
      id ∈ ids ∧ ∃ a, current id = some a ∧ a.progress = .cancelled) := by
  induction ids generalizing acc with
  | nil =>
    simp only [aggregateNeeds, Option.some.injEq] at h
    subst h
    simp
  | cons x xs ih =>
    unfold aggregateNeeds at h
    split at h
    · cases h
    · rename_i a hcur
      split_ifs at h with hterm
      obtain ⟨hall, hloops, hfailed, hcancelled⟩ := ih h
      obtain ⟨eloops, efailed, ecancelled⟩ := addOutcome_spec acc.1 acc.2 x a
      rw [eloops] at hloops
      rw [efailed] at hfailed
      rw [ecancelled] at hcancelled
      refine ⟨?_, hloops, fun id => ?_, fun id => ?_⟩
      · rintro id (_ | ⟨_, hmem⟩)
        · exact ⟨a, hcur, hterm⟩
        · exact hall id hmem
      · rw [hfailed id]
        by_cases hid : id = x
        · subst hid
          by_cases hp : a.progress = .failed <;> simp [hcur, hp]
        · by_cases hp : a.progress = .failed <;> simp [hid, hp]
      · rw [hcancelled id]
        by_cases hid : id = x
        · subst hid
          by_cases hp : a.progress = .cancelled <;> simp [hcur, hp]
        · by_cases hp : a.progress = .cancelled <;> simp [hid, hp]

/-! ## Binding -/

theorem sinkNeeds_ok {names ids : List String} (h : sinkNeeds run tasks names = .ok ids) :
    ids = tasks.map Task.id := by
  induction tasks generalizing names ids with
  | nil =>
    simp only [sinkNeeds, ok.injEq] at h
    subst h
    rfl
  | cons t ts ih =>
    unfold sinkNeeds at h
    split_ifs at h
    split at h
    · cases h
    · rename_i needs hrec
      rw [ok.injEq] at h
      rw [← h, ih hrec, map_cons]

theorem rebindSink_ok {needs : List String} (h : rebindSink run needs = .ok sink) :
    (run.sink = some sink ∧ sink.progress.terminal = true) ∨
    (¬run.sinkTerminal ∧ sink.progress = .blocked ∧ sink.needs = needs) := by
  unfold rebindSink at h
  unfold WorkflowRun.sinkTerminal
  split at h
  · rename_i hnone
    rw [ok.injEq] at h
    exact .inr ⟨by simp [hnone], by rw [← h], by rw [← h]⟩
  · rename_i previous hsome
    split_ifs at h with _ _ _ hterm _
    · rw [ok.injEq] at h
      exact .inl ⟨by rw [hsome, h], by rw [← h]; exact hterm⟩
    · rw [ok.injEq] at h
      exact .inr ⟨by simp [hsome, hterm], by rw [← h], by rw [← h]⟩

theorem bindSinkAtRevision_ok (h : bindSinkAtRevision run tasks = .ok sink) :
    (run.sink = some sink ∧ sink.progress.terminal = true) ∨
    (¬run.sinkTerminal ∧ sink.progress = .blocked ∧
      sink.needs = (tasks.map Task.id).insertionSort (· ≤ ·)) := by
  obtain ⟨_, h⟩ := of_guard h
  obtain ⟨ids, hids, h⟩ := of_bind h
  obtain ⟨_, h⟩ := of_guard h
  rw [sinkNeeds_ok hids] at h
  exact rebindSink_ok h

/-- A bind that leaves the run's sink open: a fresh blocked sink that needs the tasks. -/
structure BindsOpen (run : WorkflowRun) (tasks : List Task) (bound : WorkflowRun)
    (sink : SinkTask) : Prop where
  isOpen : ¬run.sinkTerminal
  bind : bindRunSink run tasks = (bound, none)
  bound_sink : bound.sink = some sink
  blocked : sink.progress = .blocked
  needs : sink.needs = (tasks.map Task.id).insertionSort (· ≤ ·)

/-- What binding can return: the sink as it was, without an error only if it was settled, or a fresh
one. -/
theorem bindRunSink_cases (run : WorkflowRun) (tasks : List Task) :
    ((bindRunSink run tasks).1.sink = run.sink ∧ ((bindRunSink run tasks).2 = none → run.sinkTerminal)) ∨
      ∃ bound sink, BindsOpen run tasks bound sink := by
  have hdefault : run.defaultGraphRevision.sink = run.sink := by
    unfold WorkflowRun.defaultGraphRevision
    split_ifs <;> rfl
  cases hbind : bindRunSink run tasks with
  | mk bound err =>
    have hresult := hbind
    unfold bindRunSink at hresult
    split_ifs at hresult
    · cases hresult
      exact .inl ⟨rfl, nofun⟩
    · split at hresult
      · cases hresult
        exact .inl ⟨hdefault, nofun⟩
      · rename_i sink hsink
        cases hresult
        rcases bindSinkAtRevision_ok hsink with ⟨hsame, hterm⟩ | ⟨hnot, hblocked, hneeds⟩
        · rw [hdefault] at hsame
          exact .inl ⟨hsame.symm, fun _ => ⟨sink, hsame, hterm⟩⟩
        · rw [WorkflowRun.sinkTerminal, hdefault] at hnot
          exact .inr ⟨_, sink, hnot, hbind, rfl, hblocked, hneeds⟩

theorem bindRunSink_closed_or_open (run : WorkflowRun) (tasks : List Task) :
    ((bindRunSink run tasks).2 ≠ none ∨ run.sinkTerminal) ∨ ∃ bound sink,
    BindsOpen run tasks bound sink := by
  rcases bindRunSink_cases run tasks with ⟨-, hterminal⟩ | hopen
  · exact .inl (not_or_of_imp hterminal)
  · exact .inr hopen

namespace BindsOpen

variable {bound : WorkflowRun} (h : BindsOpen run tasks bound sink)
include h

theorem id : bound.id = run.id := by
  have hframe := congrArg WorkflowRun.id (bindRunSink_frame run tasks)
  rw [h.bind] at hframe
  exact hframe

theorem bound_isOpen : ¬bound.sinkTerminal := by
  rintro ⟨sink', hsome, hterminal⟩
  rw [h.bound_sink, Option.some.injEq] at hsome
  rw [← hsome, h.blocked] at hterminal
  cases hterminal

theorem mem_needs {id : String} : id ∈ sink.needs ↔ ∃ t ∈ tasks, t.id = id := by
  rw [h.needs, mem_insertionSort, mem_map]

/-- A projection of an open run: what its tally gives and the barrier lets through. -/
theorem project {barrier : SupervisionBarrier} {now : Time} :
    projectSupervisedRunSink run tasks attempts assignments barrier now =
      match settlementResult bound sink tasks attempts assignments with
      | none => (bound, none)
      | some (result, allSucceeded) =>
        if !(supervisionSettlementBarrier barrier result.runFailed).settles then (bound, none)
        else if now = 0 then (bound, some { text := "sink settlement requires a timestamp" })
        else (settleSink bound sink result allSucceeded now, none) := by
  unfold projectSupervisedRunSink
  simp only [h.bind, h.bound_sink, h.blocked]
  rfl

end BindsOpen

theorem projectSupervisedRunSink_of_closed {barrier : SupervisionBarrier} {now : Time}
    (hclosed : (bindRunSink run tasks).2 ≠ none ∨ run.sinkTerminal) :
    projectSupervisedRunSink run tasks attempts assignments barrier now = bindRunSink run tasks := by
  have hsink := bindRunSink_cases run tasks
  unfold projectSupervisedRunSink
  cases hbind : bindRunSink run tasks with
  | mk bound err =>
    cases err with
    | some e => rfl
    | none =>
      rw [hbind] at hclosed hsink
      have hterminal := hclosed.resolve_left fun h => h rfl
      rcases hsink with ⟨hsame, -⟩ | ⟨_, _, hopen⟩
      · obtain ⟨sink, hsome, hterm⟩ := hterminal
        simp only [show bound.sink = some sink from hsame.trans hsome, hterm, if_true]
      · exact absurd hterminal hopen.isOpen

theorem sinkTerminal_of_bind (h : (bindRunSink run tasks).1.sinkTerminal) : run.sinkTerminal := by
  rcases bindRunSink_cases run tasks with ⟨hsame, -⟩ | ⟨_, _, hopen⟩
  · rwa [WorkflowRun.sinkTerminal, hsame] at h
  · rw [hopen.bind] at h
    exact absurd h hopen.bound_isOpen

/-! ## Settlement -/

theorem runFailed_iff (result : SinkResult) :
    result.runFailed = true ↔ (∃ id, id ∈ result.failedTaskIDs) ∨
      (∃ loop ∈ result.fixLoops, loop.exhausted = true) ∨ ∃ id, id ∈ result.cancelledTaskIDs := by
  unfold SinkResult.runFailed
  rw [Bool.or_eq_true, Bool.or_eq_true, any_eq_true, or_assoc]
  simp only [Bool.not_eq_true', isEmpty_eq_false_iff_exists_mem]

/-- The tally of a run whose needed tasks are all terminal is a failed or cancelled one exactly
when the run's outcome is. -/
theorem aggregateNeeds_runFailed {needs : List String} (hneeds : ∀ id, id ∈ needs ↔ ∃ t ∈ tasks,
    t.id = id) (h : aggregateNeeds (currentAttempt runID attempts) needs
      ({ fixLoops := summarizeFixLoops tasks attempts }, true) = some r)
    (hfailed : r.1.runFailed = true) : OutcomeFailed runID tasks attempts := by
  obtain ⟨_, hloops, hf, hc⟩ := aggregateNeeds_spec h
  rcases (runFailed_iff _).1 hfailed with ⟨id, hid⟩ | ⟨loop, hloop, hex⟩ | ⟨id, hid⟩
  · rcases (hf id).1 hid with hnil | ⟨hmem, a, hcur, hp⟩
    · simp at hnil
    · obtain ⟨t, ht, rfl⟩ := (hneeds id).1 hmem
      exact .inl ⟨t, ht, a, currentAttempt_eq_some hcur, .inl hp⟩
  · rw [hloops] at hloop
    exact .inr ⟨loop, hloop, hex⟩
  · rcases (hc id).1 hid with hnil | ⟨hmem, a, hcur, hp⟩
    · simp at hnil
    · obtain ⟨t, ht, rfl⟩ := (hneeds id).1 hmem
      exact .inl ⟨t, ht, a, currentAttempt_eq_some hcur, .inr hp⟩

theorem SupervisionBarrier.Permits.mono {p q : Prop} (h : barrier.Permits p) (hpq : p → q) :
    barrier.Permits q := by
  intro hs
  obtain ⟨hinc, hgates⟩ := h hs
  exact ⟨hinc, hgates.imp_left hpq⟩

theorem settlementResult_spec (hneeds : ∀ id, id ∈ sink.needs ↔ ∃ t ∈ tasks, t.id = id)
    (h : settlementResult run sink tasks attempts assignments = some r)
    (hbarrier : (supervisionSettlementBarrier barrier r.1.runFailed).settles = true) :
    MaySettle run.id tasks attempts assignments barrier := by
  unfold settlementResult at h
  split_ifs at h with hquiet
  refine ⟨fun t ht => ?_, runExecutionsQuiescent_spec hquiet, ?_⟩
  · obtain ⟨a, hcur, hterm⟩ := (aggregateNeeds_spec h).1 t.id ((hneeds _).2 ⟨t, ht, rfl⟩)
    exact ⟨a, currentAttempt_eq_some hcur, hterm⟩
  · have hper := (supervisionSettlementBarrier_settles_iff _ _).1 hbarrier
    exact hper.mono (aggregateNeeds_runFailed hneeds h)

/-- What a projection returns: the bound run, or a run settled under the three conditions. -/
theorem projectSupervisedRunSink_cases (run : WorkflowRun) (tasks : List Task)
    (attempts : List Attempt) (assignments : List Assignment) (barrier : SupervisionBarrier)
    (now : Time) :
    (projectSupervisedRunSink run tasks attempts assignments barrier now).1 = (bindRunSink run tasks).1 ∨
      ¬run.sinkTerminal ∧ MaySettle run.id tasks attempts assignments barrier := by
  rcases bindRunSink_closed_or_open run tasks with hclosed | ⟨bound, sink, h⟩
  · exact .inl (congrArg Prod.fst (projectSupervisedRunSink_of_closed hclosed))
  · rw [h.project, h.bind]
    split
    · exact .inl rfl
    · rename_i result allSucceeded hresult
      split
      · exact .inl rfl
      · rename_i hbarrier
        exact .inr ⟨h.isOpen, h.id ▸ settlementResult_spec (fun _ => h.mem_needs) hresult
          (by simpa using hbarrier)⟩

theorem maySettle_of_settled {now : Time} (hnot : ¬run.sinkTerminal)
    (h : (projectSupervisedRunSink run tasks attempts assignments barrier now).1.sinkTerminal) :
    MaySettle run.id tasks attempts assignments barrier := by
  rcases projectSupervisedRunSink_cases run tasks attempts assignments barrier now with
    heq | ⟨-, hmay⟩
  · rw [heq] at h
    exact absurd (sinkTerminal_of_bind h) hnot
  · exact hmay

theorem projectSupervisedRunSink_frame (run : WorkflowRun) (tasks : List Task)
    (attempts : List Attempt) (assignments : List Assignment) (barrier : SupervisionBarrier)
    (now : Time) :
    ∃ sink graphRevision progress completedAt,
      (projectSupervisedRunSink run tasks attempts assignments barrier now).1 =
        { run with
          sink := sink, graphRevision := graphRevision, progress := progress
          completedAt := completedAt } := by
  have hframe := bindRunSink_frame run tasks
  rcases bindRunSink_closed_or_open run tasks with hclosed | ⟨bound, sink, h⟩
  · rw [projectSupervisedRunSink_of_closed hclosed]
    exact ⟨_, _, _, _, hframe⟩
  · rw [h.bind] at hframe
    dsimp only at hframe
    rw [h.project]
    split
    · exact ⟨_, _, _, _, hframe⟩
    · split_ifs
      · exact ⟨_, _, _, _, hframe⟩
      · exact ⟨_, _, _, _, hframe⟩
      · rw [hframe]
        exact ⟨_, _, _, _, rfl⟩

/-! ## Permanence -/

/-- A bind or a projection of a run's sink, at the graph revision its caller hands over. -/
inductive SinkCall
  | bind (graphRevision : Int) (tasks : List Task)
  | project (graphRevision : Int) (tasks : List Task) (attempts : List Attempt)
      (assignments : List Assignment) (barrier : SupervisionBarrier) (now : Time)

def SinkCall.apply (run : WorkflowRun) : SinkCall → WorkflowRun
  | .bind graphRevision tasks => (bindRunSink { run with graphRevision := graphRevision } tasks).1
  | .project graphRevision tasks attempts assignments barrier now =>
    (projectSupervisedRunSink { run with graphRevision := graphRevision } tasks attempts assignments
      barrier now).1

theorem bindRunSink_of_terminal {run : WorkflowRun} (h : run.sinkTerminal) (tasks : List Task) :
    (bindRunSink run tasks).1.sink = run.sink ∧ (bindRunSink run tasks).1.progress = run.progress ∧
    (bindRunSink run tasks).1.completedAt = run.completedAt := by
  have hframe := bindRunSink_frame run tasks
  rcases bindRunSink_cases run tasks with ⟨hsame, -⟩ | ⟨_, _, hopen⟩
  · exact ⟨hsame, by rw [hframe], by rw [hframe]⟩
  · exact absurd h hopen.isOpen

theorem SinkCall.apply_of_terminal (h : run.sinkTerminal) (call : SinkCall) :
    (call.apply run).sink = run.sink ∧ (call.apply run).progress = run.progress ∧
    (call.apply run).completedAt = run.completedAt := by
  cases call with
  | bind graphRevision tasks =>
    exact @bindRunSink_of_terminal { run with graphRevision := graphRevision } h tasks
  | project graphRevision tasks attempts assignments barrier now =>
    have hclosed : WorkflowRun.sinkTerminal { run with graphRevision := graphRevision } := h
    simp only [SinkCall.apply, projectSupervisedRunSink_of_closed (.inr hclosed)]
    exact bindRunSink_of_terminal hclosed tasks

theorem SinkCall.foldl_of_terminal (h : run.sinkTerminal) (calls : List SinkCall) :
    (calls.foldl SinkCall.apply run).sink = run.sink ∧
    (calls.foldl SinkCall.apply run).progress = run.progress ∧
    (calls.foldl SinkCall.apply run).completedAt = run.completedAt := by
  induction calls generalizing run with
  | nil => exact ⟨rfl, rfl, rfl⟩
  | cons call calls ih =>
    obtain ⟨hsink, hprogress, hcompleted⟩ := SinkCall.apply_of_terminal h call
    have hnext : (call.apply run).sinkTerminal := by
      obtain ⟨sink, hsome, hterm⟩ := h
      exact ⟨sink, by rw [hsink, hsome], hterm⟩
    obtain ⟨hs, hp, hc⟩ := ih hnext
    rw [foldl_cons]
    exact ⟨hs.trans hsink, hp.trans hprogress, hc.trans hcompleted⟩

/-- A sink settles only under its three conditions, and a settled run keeps its sink, progress and
completion time through every later bind and projection. -/
theorem sink_settlement_safe_and_permanent :
    (∀ run tasks attempts assignments barrier now, ¬run.sinkTerminal →
      (projectSupervisedRunSink run tasks attempts assignments barrier now).1.sinkTerminal →
      MaySettle run.id tasks attempts assignments barrier) ∧
    (∀ run : WorkflowRun, run.sinkTerminal → ∀ calls : List SinkCall,
      (calls.foldl SinkCall.apply run).sink = run.sink ∧
      (calls.foldl SinkCall.apply run).progress = run.progress ∧
      (calls.foldl SinkCall.apply run).completedAt = run.completedAt) :=
  ⟨fun _ _ _ _ _ _ => maySettle_of_settled, fun _ h calls => SinkCall.foldl_of_terminal h calls⟩

def settlingRun : WorkflowRun := { id := "run", workflowID := "workflow" }

def settlingTask : Task := { id := "task", workflowID := "workflow", name := "build" }

def settlingAttempt : Attempt :=
  { id := "attempt", workflowRunID := "run", taskID := "task", number := 1, progress := .succeeded
    control := .stopped }

theorem settlingRun_settles_and_stays : MaySettle settlingRun.id [settlingTask] [settlingAttempt] [] {} ∧
    (SinkCall.apply (projectSupervisedRunSink settlingRun [settlingTask] [settlingAttempt] [] {} 5).1
      (.bind 7 [])).progress = .succeeded := by
  have hsettled :
      (projectSupervisedRunSink settlingRun [settlingTask] [settlingAttempt] [] {} 5).1.sinkTerminal :=
    ⟨_, rfl, rfl⟩
  refine ⟨sink_settlement_safe_and_permanent.1 _ _ _ _ _ 5 ?_ hsettled, ?_⟩
  · rintro ⟨sink, hsome, -⟩
    simp [settlingRun] at hsome
  · exact (sink_settlement_safe_and_permanent.2 _ hsettled [.bind 7 []]).2.1.trans rfl

end Steward
