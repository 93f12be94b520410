import Steward.Backlog.Projection
import Steward.Domain.SinkSettlement

/-!
# Agreement of projecting and publishing a run

The projection computes a run's sink behind the supervision barrier; the publication recomputes it
without one. Everything else a pass computes is accepted.
-/

namespace Steward

open Except Store Table List Option

/-! ## What the graph can change -/

def graphProgress (p : ProgressState) : Prop := p = .ready ∨ p = .blocked ∨ p = .skipped

/-- The attempts after are those before, with nothing but the graph's own progress in place of
theirs. -/
structure GraphDerived (before after : List Attempt) : Prop where
  derived : ∀ p ∈ after, ∃ a ∈ before, a.id = p.id ∧
    ((p.progress = a.progress ∧ p.failure = a.failure) ∨ graphProgress p.progress)
  kept : ∀ a ∈ before, ∃ p ∈ after, p.id = a.id

theorem GraphDerived.refl (attempts : List Attempt) : GraphDerived attempts attempts :=
  ⟨fun p hp => ⟨p, hp, rfl, .inl ⟨rfl, rfl⟩⟩, fun a ha => ⟨a, ha, rfl⟩⟩

theorem GraphDerived.perm {before after after' : List Attempt} (h : GraphDerived before after)
    (hperm : after'.Perm after) : GraphDerived before after' :=
  ⟨fun p hp => h.derived p (hperm.mem_iff.1 hp), fun a ha => by
    obtain ⟨p, hp, hid⟩ := h.kept a ha
    exact ⟨p, hperm.mem_iff.2 hp, hid⟩⟩

variable {f : Attempt → Attempt} {tasks : List Task} {prior attempt : Attempt}

theorem GraphDerived.setAttempt {before after : List Attempt} {id : String}
    (h : GraphDerived before after) (hf : ∀ a, (f a).id = a.id ∧ graphProgress (f a).progress) :
    GraphDerived before (setAttempt after id f) := by
  constructor
  · intro p hp
    obtain ⟨q, hq, rfl⟩ := mem_map.1 hp
    obtain ⟨a, ha, hid, hprogress⟩ := h.derived q hq
    refine ⟨a, ha, ?_⟩
    split_ifs
    · exact ⟨hid.trans (hf q).1.symm, .inr (hf q).2⟩
    · exact ⟨hid, hprogress⟩
  · intro a ha
    obtain ⟨q, hq, hid⟩ := h.kept a ha
    refine ⟨_, mem_map_of_mem hq, ?_⟩
    split_ifs
    · exact (hf q).1.trans hid
    · exact hid

theorem refreshVerdictBranches_derived {before : List Attempt} (fuel : Nat)
    {attempts : List Attempt} (h : GraphDerived before attempts) :
    GraphDerived before (refreshVerdictBranches tasks fuel attempts) := by
  have hsweep : ∀ attempts, GraphDerived before attempts →
      GraphDerived before (tasks.foldl (skipVerdictBranch tasks) (attempts, false)).1 := by
    intro attempts h
    refine foldlRecOn (motive := fun acc : List Attempt × Bool => GraphDerived before acc.1)
      tasks _ h fun acc hacc task _ => ?_
    unfold skipVerdictBranch
    split
    · dsimp only
      split_ifs
      · exact hacc.setAttempt fun a => ⟨rfl, .inr (.inr rfl)⟩
      · exact hacc
    · exact hacc
  induction fuel generalizing attempts with
  | zero => exact h
  | succ fuel ih =>
    unfold refreshVerdictBranches
    dsimp only
    split_ifs
    · exact ih (hsweep attempts h)
    · exact hsweep attempts h

theorem refresh_derived (state : DAGState) :
    GraphDerived state.attempts (refresh state).attempts := by
  refine foldlRecOn (motive := fun s : DAGState => GraphDerived state.attempts s.attempts)
    state.tasks _ (refreshVerdictBranches_derived _ (GraphDerived.refl _)) fun s hs task _ => ?_
  unfold refreshTask
  dsimp only
  split_ifs
  · exact hs
  · refine hs.setAttempt fun a => ?_
    unfold Attempt.refreshed
    split_ifs
    · exact ⟨rfl, .inl rfl⟩
    · exact ⟨rfl, .inr (.inl rfl)⟩
  · exact hs

variable {run : WorkflowRun} {supervision : Option SupervisionProjection} {state : DAGState}
  {external : List (String × NodeObservation)}

variable {now : Time}

theorem skipImpossibleTasks_derived {before : List Attempt} (fuel : Nat)
    (h : GraphDerived before state.attempts) :
    GraphDerived before (skipImpossibleTasks supervision now fuel state).attempts := by
  have hsweep : ∀ state : DAGState, GraphDerived before state.attempts → GraphDerived before
        (state.tasks.foldl (skipImpossible supervision now) (state, false)).1.attempts := by
    intro state h
    refine foldlRecOn (motive := fun acc : DAGState × Bool => GraphDerived before acc.1.attempts)
      state.tasks _ h fun acc hacc task _ => ?_
    unfold skipImpossible
    split
    · exact hacc
    · dsimp only
      split_ifs
      · exact hacc
      · exact hacc.setAttempt fun a => ⟨rfl, .inr (.inr rfl)⟩
  induction fuel generalizing state with
  | zero => exact h
  | succ fuel ih =>
    unfold skipImpossibleTasks
    dsimp only
    split_ifs
    · exact ih (hsweep state h)
    · exact hsweep state h

variable {before : WorkflowProjectionSnapshot}

/-- A pass over the graph changes progress and failure only, and only to the graph's own. -/
theorem projectGraph_derived (h : projectGraph before external supervision now = .ok state) :
    GraphDerived before.attempts state.attempts := by
  obtain ⟨refreshed, hrefreshed, hstate⟩ := of_bind h
  obtain ⟨_, -, hrefresh⟩ := of_bind hrefreshed
  rw [← Except.ok.inj hstate, ← Except.ok.inj hrefresh]
  have hsnapshot := (refresh_derived { external := external, run := before.run, tasks := before.tasks
                                       attempts := before.attempts }).perm
    (perm_insertionSort Attempt.before _)
  unfold finalizeBlockedSinkPredecessors
  dsimp only
  split_ifs
  · exact skipImpossibleTasks_derived _ hsnapshot
  · exact hsnapshot

/-! ## The attempts are published -/

def Publishes (now : Time) (prior attempt : Attempt) : Prop :=
  attempt = prior ∨
    prior.assignmentID = "" ∧ prior.progress.terminal = false ∧ graphProgress attempt.progress ∧
      attempt = allowedAttempt prior attempt now

theorem allowedAttempt_identity (prior attempt : Attempt) (now : Time) :
    (allowedAttempt prior attempt now).id = prior.id ∧
      (allowedAttempt prior attempt now).workflowRunID = prior.workflowRunID ∧
      (allowedAttempt prior attempt now).taskID = prior.taskID ∧
      (allowedAttempt prior attempt now).number = prior.number ∧
      (allowedAttempt prior attempt now).revision = prior.revision + 1 := by
  unfold allowedAttempt
  split_ifs <;> exact ⟨rfl, rfl, rfl, rfl, rfl⟩

theorem Publishes.identity (h : Publishes now prior attempt) :
    attempt.id = prior.id ∧ attempt.workflowRunID = prior.workflowRunID ∧
      attempt.taskID = prior.taskID ∧ attempt.number = prior.number := by
  rcases h with rfl | ⟨-, -, -, hallowed⟩
  · exact ⟨rfl, rfl, rfl, rfl⟩
  · rw [hallowed]
    obtain ⟨hid, hrun, htask, hnumber, -⟩ := allowedAttempt_identity prior attempt now
    exact ⟨hid, hrun, htask, hnumber⟩

theorem publishAttempt_ok {s : Store} (h : Publishes now prior attempt)
    (hrow : s.attempts.get? prior.id = some prior) :
    ∃ attempts, s.publishAttempt prior attempt now = .ok { s with attempts := attempts } ∧
      ∀ id, id ≠ prior.id → attempts.get? id = s.attempts.get? id := by
  have hidentity := h.identity.1
  rcases h with rfl | ⟨hassigned, hterminal, hprogress, hallowed⟩
  · exact ⟨s.attempts, by simp [publishAttempt], fun _ _ => rfl⟩
  · have hrevision : attempt.revision = prior.revision + 1 := by
      rw [hallowed]
      exact (allowedAttempt_identity prior attempt now).2.2.2.2
    have hcheck : checkProjectedAttempt prior attempt now = .ok () := by
      simp only [checkProjectedAttempt, refuseWhen_bind_eq_ok_iff, refuseWhen_eq_ok_iff]
      refine ⟨by simp [hassigned, hterminal], ?_, not_not.2 hallowed.symm⟩
      rcases hprogress with hp | hp | hp <;> simp [hp]
    have hupdate : s.updateAdminAttempt attempt prior.revision =
        .ok { s with attempts := s.attempts.put attempt } := by
      simp [updateAdminAttempt, hidentity, hrow]
    refine ⟨s.attempts.put attempt, ?_, fun id hne => ?_⟩
    · unfold publishAttempt
      rw [if_neg (by simp [hrevision]), if_neg (by omega), hcheck, ok_bind, hupdate]
    · exact get?_put_of_ne _ (by rw [hidentity]; exact hne.symm)

theorem publishAttempts_ok {runID : String} (prior : List Attempt) (s : Store)
    (hnodup : (prior.map Attempt.id).Nodup) (hrun : ∀ a ∈ prior, a.workflowRunID = runID)
    (hf : ∀ a ∈ prior, Publishes now a (f a)) (hrows : ∀ a ∈ prior, s.attempts.get? a.id = some a) :
    ∃ attempts, publishAttempts runID now s (prior.map f) prior =
      .ok ({ s with attempts := attempts }, []) := by
  induction prior generalizing s with
  | nil => exact ⟨s.attempts, rfl⟩
  | cons a rest ih =>
    rw [map_cons, nodup_cons] at hnodup
    have hrest : ∀ b ∈ rest, b.id ≠ a.id := fun b hb hid =>
      hnodup.1 (hid ▸ mem_map_of_mem hb)
    obtain ⟨hid, hworkflow, htask, hnumber⟩ := (hf a (.head _)).identity
    obtain ⟨attempts, hpublish, hothers⟩ :=
      publishAttempt_ok (hf a (.head _)) (hrows a (.head _))
    have hfilter : (a :: rest).filter (fun b => b.id ≠ (f a).id) = rest := by
      rw [hid, filter_cons_of_neg (by simp)]
      exact filter_eq_self.2 fun b hb => by simpa using hrest b hb
    obtain ⟨attempts', hih⟩ := ih { s with attempts := attempts } hnodup.2
      (fun b hb => hrun b (.tail _ hb)) (fun b hb => hf b (.tail _ hb))
      (fun b hb => (hothers b.id (hrest b hb)).trans (hrows b (.tail _ hb)))
    refine ⟨attempts', ?_⟩
    rw [map_cons, publishAttempts, find?_cons_of_pos (by simp [hid])]
    dsimp only
    rw [if_neg (by simp [hworkflow, htask, hnumber, hrun a (.head _)]), hpublish, ok_bind, hfilter,
      hih]

theorem projectAttempt_publishes (h : projectGraph before external supervision now = .ok state)
    (hunique : ∀ a ∈ before.attempts, ∀ b ∈ before.attempts, a.id = b.id → a = b) {a : Attempt}
    (ha : a ∈ before.attempts) : Publishes now a (projectAttempt state now a) := by
  have hgraph := projectGraph_derived h
  obtain ⟨p, hp, hpid⟩ := hgraph.kept a ha
  obtain ⟨q, hq⟩ : ∃ q, (state.attempts.reverse.find? fun b => b.id = a.id) = some q := by
    rw [← isSome_iff_exists, find?_isSome]
    exact ⟨p, mem_reverse.2 hp, by simpa using hpid⟩
  have hqid : q.id = a.id := by simpa using find?_some hq
  obtain ⟨b, hb, hbid, hprogress⟩ :=
    hgraph.derived q (mem_reverse.1 (mem_of_find?_eq_some hq))
  rw [hunique b hb a ha (hbid.trans hqid)] at hprogress
  simp only [projectAttempt, hq, getD_some]
  split_ifs with hkeep hskipped
  · exact .inl rfl
  · simp only [not_or, not_not, not_and] at hkeep
    exact .inr ⟨hkeep.1, Bool.eq_false_iff.2 hkeep.2.1, .inr (.inr hskipped), by
      simp only [allowedAttempt, if_pos hskipped]⟩
  · simp only [not_or, not_not, not_and] at hkeep
    refine .inr ⟨hkeep.1, Bool.eq_false_iff.2 hkeep.2.1, ?_, ?_⟩
    · rcases hprogress with ⟨hsame, hfailure⟩ | hprogress
      · exact absurd hfailure.symm (hkeep.2.2 hsame.symm)
      · exact hprogress
    · simp only [allowedAttempt, if_neg hskipped]

/-! ## The two computations of the sink -/

/-- The sink would settle on a result that the barrier does not permit. -/
def SettlementWithheld (before : WorkflowProjectionSnapshot) (attempts : List Attempt)
    (supervision : Option SupervisionProjection) : Prop :=
  ∃ sink result allSucceeded, (bindRunSink before.run before.tasks).1.sink = some sink ∧
    settlementResult (bindRunSink before.run before.tasks).1 sink before.tasks attempts
      before.assignments = some (result, allSucceeded) ∧
    ¬(supervisionBarrier supervision).Permits (result.runFailed = true)

theorem sinkSettled_eq_true_iff (run : WorkflowRun) : sinkSettled run = true ↔ run.sinkTerminal := by
  unfold sinkSettled WorkflowRun.sinkTerminal
  cases run.sink <;> simp

section

variable {attempts : List Attempt} {projected : WorkflowRun}

/-- The two computations of an open run's sink agree unless the barrier withholds a settlement, and
then only the one behind it leaves the sink open. -/
theorem projectRunSink_of_supervised (hnow : now ≠ 0) (hopen : ¬before.run.sinkTerminal)
    (h : projectSupervisedRunSink before.run before.tasks attempts before.assignments
      (supervisionBarrier supervision) now = (projected, none)) :
    ∃ verified, projectRunSink before.run before.tasks attempts before.assignments
      now = (verified, none) ∧
      (¬SettlementWithheld before attempts supervision → verified = projected) ∧
      (SettlementWithheld before attempts supervision → verified.sinkTerminal ∧
      ¬projected.sinkTerminal) := by
  rcases bindRunSink_closed_or_open before.run before.tasks with
    (hbind | hclosed) | ⟨bound, sink, hbound⟩
  · rw [projectSupervisedRunSink_of_closed (.inl hbind)] at h
    exact absurd (congrArg Prod.snd h) hbind
  · exact absurd hclosed hopen
  · unfold projectRunSink SettlementWithheld
    rw [hbound.project] at h ⊢
    simp only [hbound.bind, hbound.bound_sink, some.injEq, hnow, if_false] at h ⊢
    cases hresult : settlementResult bound sink before.tasks attempts before.assignments with
    | none =>
      simp only [hresult, Prod.mk.injEq, and_true] at h
      refine ⟨bound, rfl, fun _ => h, ?_⟩
      rintro ⟨_, _, _, rfl, hsome', -⟩
      cases (hresult.symm.trans hsome')
    | some r =>
      refine ⟨settleSink bound sink r.1 r.2 now, rfl, fun hwithheld => ?_, ?_⟩
      · have hpermits : (supervisionBarrier supervision).Permits (r.1.runFailed = true) := by
          by_contra hnot
          exact hwithheld ⟨sink, r.1, r.2, rfl, hresult, hnot⟩
        simp only [hresult, (supervisionSettlementBarrier_settles_iff _ _).2 hpermits] at h
        exact congrArg Prod.fst h
      · rintro ⟨_, result, allSucceeded, rfl, hsome', hnot⟩
        rw [hresult, some.injEq] at hsome'
        rw [hresult, hsome'] at h
        dsimp only at h
        rw [← supervisionSettlementBarrier_settles_iff, Bool.not_eq_true, ← Bool.not_eq_true'] at hnot
        rw [if_pos hnot, Prod.mk.injEq] at h
        refine ⟨⟨_, rfl, ?_⟩, h.1 ▸ hbound.bound_isOpen⟩
        split_ifs <;> rfl

end

/-! ## The run is published -/

theorem checkProjectedRun_of_projected {projected : WorkflowRun} {sink : Option SinkTask}
    {graphRevision : Int} {progress : ProgressState} {completedAt : Option Time}
      (hframe : projected = { run with
        sink := sink, graphRevision := graphRevision, progress := progress
        completedAt := completedAt }) (state : ProgressState) (now : Time) :
    checkProjectedRun run projected
      { projectRun projected state with revision := run.revision + 1, updatedAt := now } now =
      .ok () := by
  cases hsettled : sinkSettled projected with
  | true =>
    have hrun : projectRun projected state = projected := by simp [projectRun, hsettled]
    have hsink : sinkSettled { projected with revision := run.revision + 1, updatedAt := now } =
        true := hsettled
    rw [hrun]
    unfold checkProjectedRun
    rw [if_pos hsink]
    simp [refuseWhen, hframe]
  | false =>
    obtain ⟨p, hp, hrun⟩ : ∃ p : ProgressState, p.terminal = false ∧
        projectRun projected state = { projected with progress := p, completedAt := none } := by
      refine ⟨if state.terminal then .active else state, ?_, by simp [projectRun, hsettled]⟩
      split_ifs with h
      · rfl
      · exact Bool.eq_false_iff.2 h
    have hsink : ¬sinkSettled
        { projected with
          progress := p
          completedAt := none
          revision := run.revision + 1
          updatedAt := now } = true := Bool.eq_false_iff.1 hsettled
    rw [hrun]
    unfold checkProjectedRun
    rw [if_neg hsink]
    simp [refuseWhen, hframe, hp]

theorem checkProjectedRun_of_withheld {current verified : WorkflowRun} {u : Unit}
    (hverified : verified.sinkTerminal) (hrun : ¬run.sinkTerminal) :
    checkProjectedRun current verified run now ≠ .ok u := by
  intro h
  obtain ⟨hsame, -⟩ := of_guard h
  simp only [not_or, not_not] at hsame
  exact hrun (by rw [WorkflowRun.sinkTerminal, ← hsame.1]; exact hverified)

theorem releaseSettledRunHolds_ok (now : Time) {holds : List Hold} (s : Store)
    (hactive : ∀ hold ∈ holds, hold.state = .active) :
    ∃ s', s.releaseSettledRunHolds now holds = .ok s' := by
  induction holds generalizing s with
  | nil => exact ⟨s, rfl⟩
  | cons hold rest ih =>
    unfold releaseSettledRunHolds
    rw [holdTransition_runSettled (hactive hold (.head _))]
    exact ih _ fun h hmem => hactive h (.tail _ hmem)

theorem recordSettlement_ok {s : Store} (hnow : now ≠ 0) (hrun : Text.proper run.id = true)
    (hnew : s.auditEvents.get? ("sink-settled:" ++ run.id) = none) :
    ∃ s', s.recordSettlement run now = .ok s' := by
  have hid : Text.proper ("sink-settled:" ++ run.id) = true :=
    Text.proper_append (by decide) hrun
  unfold recordSettlement insertAuditEvent
  dsimp only
  rw [if_neg (by simp [hid, hnow]; decide), hnew]
  refine releaseSettledRunHolds_ok now _ fun hold hmem => ?_
  have hstate := (mem_filter.1 hmem).2
  simp only [reduceCtorEq, false_or, decide_eq_true_eq] at hstate
  exact hstate.2

/-! ## Projecting, then publishing -/

theorem projectWorkflowRun_eq_some {attempts : List Attempt}
    (h : projectWorkflowRun before external supervision now = some (run, attempts)) :
    ¬before.run.sinkTerminal ∧ ∃ state projected, projectGraph before external supervision
      now = .ok state ∧ attempts = before.attempts.map (projectAttempt state now) ∧
      projectSupervisedRunSink before.run before.tasks attempts before.assignments
        (supervisionBarrier supervision) now = (projected, none) ∧
      run =
        { projectRun projected state.run.progress with
          revision := before.run.revision + 1, updatedAt := now } := by
  unfold projectWorkflowRun at h
  split_ifs at h with hsettled
  rw [sinkSettled_eq_true_iff] at hsettled
  split at h
  · cases h
  · rename_i state hstate
    dsimp only at h
    split at h
    · cases h
    · rename_i projected hprojected
      split_ifs at h
      cases h
      exact ⟨hsettled, state, projected, hstate, rfl, hprojected, rfl⟩

section

variable {s : Store} {resolveNode : Store → NodeRef → Except Err NodeObservation}
  {verified : WorkflowRun}
  {attempts : List Attempt}

theorem checkProjectedRun_of_commit {s' : Store}
    (h : s.commitWorkflowProjection resolveNode before run attempts now = .ok s')
    (hload : s.loadWorkflowProjection resolveNode run.id = .ok before)
    (hverified : projectRunSink before.run before.tasks attempts before.assignments now =
      (verified, none)) :
    checkProjectedRun before.run verified run now = .ok () := by
  obtain ⟨current, _, _, _, _, hcurrent, -, -, hprojected, hcheck, -⟩ :=
    commitWorkflowProjection_inv h
  cases hload.symm.trans hcurrent
  rw [hverified] at hprojected
  rw [(Prod.mk.inj hprojected).1]
  exact hcheck

theorem commitWorkflowProjection_ok {published : Table Attempt.id}
    (hload : s.loadWorkflowProjection resolveNode run.id = .ok before)
    (hworkflow : run.workflowID = before.run.workflowID)
    (hrevision : run.revision = before.run.revision + 1) (hnow : now ≠ 0)
    (hopen : ¬before.run.sinkTerminal) (hlength : attempts.length = before.attempts.length)
    (hpublish : publishAttempts run.id now s attempts before.attempts =
      .ok ({ s with attempts := published }, []))
    (hverified : projectRunSink before.run before.tasks attempts before.assignments now =
      (verified, none))
    (hcheck : checkProjectedRun before.run verified run now = .ok ())
    (hid : Text.proper run.id = true)
    (haudit : s.auditEvents.get? ("sink-settled:" ++ run.id) = none) :
    ∃ s', s.commitWorkflowProjection resolveNode before run attempts now = .ok s' := by
  have hrow := (loadWorkflowProjection_ok hload).1
  have hsettled : ¬sinkSettled before.run = true := by rwa [sinkSettled_eq_true_iff]
  have hupdate : updateWorkflowRun { s with attempts := published } run before.run.revision =
      .ok { s with attempts := published, workflowRuns := s.workflowRuns.put run } := by
    simp [updateWorkflowRun, hrow]
  unfold commitWorkflowProjection
  rw [refuseWhen_of_not (by simp [key_of_get? hrow, hworkflow, hrevision, hnow]),
    ok_bind, hload, ok_bind, refuseWhen_of_not (by simp), ok_bind,
    refuseWhen_of_not hsettled, ok_bind, refuseWhen_of_not (by simp [hlength]),
    ok_bind, hpublish, ok_bind]
  dsimp only
  rw [refuseWhen_of_not (by simp), ok_bind, hverified]
  dsimp only
  rw [ok_bind, hcheck, ok_bind, hupdate, ok_bind]
  split_ifs
  · exact recordSettlement_ok hnow hid haudit
  · exact ⟨_, rfl⟩

end

/-- A pass over the stored read set is published exactly when the barrier withholds no settlement:
always when no incident is unresolved and every final gate is accepted or cancelled. -/
theorem projection_publishes_iff {s : Store}
    {resolveNode : Store → NodeRef → Except Err NodeObservation} {runID : String}
    {before : WorkflowProjectionSnapshot} {external : List (String × NodeObservation)} {now : Time}
    {run : WorkflowRun} {attempts : List Attempt}
    (hload : s.loadWorkflowProjection resolveNode runID = .ok before) (hnow : now ≠ 0)
    (hid : Text.proper runID = true)
    (haudit : s.auditEvents.get? ("sink-settled:" ++ runID) = none)
    (hpass : projectWorkflowRun before external (s.supervisionProjection runID) now =
      some (run, attempts)) :
    ((∃ s', s.commitWorkflowProjection resolveNode before run attempts now = .ok s') ↔
      ¬SettlementWithheld before attempts (s.supervisionProjection runID)) ∧
    ((supervisionBarrier (s.supervisionProjection runID)).Permits False →
      ∃ s', s.commitWorkflowProjection resolveNode before run attempts now = .ok s') := by
  have hiff : (∃ s', s.commitWorkflowProjection resolveNode before run attempts now = .ok s') ↔
      ¬SettlementWithheld before attempts (s.supervisionProjection runID) := by
    obtain ⟨hrow, hnodup, hattempts⟩ := loadWorkflowProjection_ok hload
    obtain ⟨hopen, state, projected, hgraph, hmap, hprojected, hrun⟩ := projectWorkflowRun_eq_some hpass
    obtain ⟨verified, hverified, hagree, hwithheld⟩ :=
      projectRunSink_of_supervised hnow hopen hprojected
    obtain ⟨sink, graphRevision, progress, completedAt, hframe⟩ :=
      projectSupervisedRunSink_frame before.run before.tasks attempts before.assignments
        (supervisionBarrier (s.supervisionProjection runID)) now
    rw [hprojected] at hframe
    dsimp only at hframe
    obtain ⟨hrunSink, hrunID, hworkflow⟩ : run.sink = projected.sink ∧ run.id = before.run.id ∧
        run.workflowID = before.run.workflowID := by
      rw [hrun, hframe]
      unfold projectRun
      split_ifs <;> exact ⟨rfl, rfl, rfl⟩
    rw [key_of_get? hrow] at hrunID
    rw [← hrunID] at hload hid haudit
    constructor
    · rintro ⟨s', hcommit⟩ hheld
      obtain ⟨hterminal, hprojectedOpen⟩ := hwithheld hheld
      refine checkProjectedRun_of_withheld hterminal ?_
        (checkProjectedRun_of_commit hcommit hload hverified)
      rwa [WorkflowRun.sinkTerminal, hrunSink]
    · intro hfree
      obtain ⟨published, hpublish⟩ := publishAttempts_ok before.attempts s hnodup
        (fun a ha => (hattempts a ha).1.trans hrunID.symm)
        (fun a ha => projectAttempt_publishes hgraph
          (fun a ha b hb hab => inj_on_of_nodup_map hnodup ha hb hab) ha)
        (fun a ha => (hattempts a ha).2)
      rw [← hmap] at hpublish
      refine commitWorkflowProjection_ok hload hworkflow (by rw [hrun]) hnow hopen
        (by rw [hmap, length_map]) hpublish hverified ?_ hid haudit
      rw [hagree hfree, hrun]
      exact checkProjectedRun_of_projected hframe state.run.progress now
  refine ⟨hiff, fun hpermits => hiff.2 ?_⟩
  rintro ⟨_, result, _, -, -, hnot⟩
  exact hnot (hpermits.mono False.elim)

def finishedRun (incidents : List ReviewIncident) : Store :=
  { workflowRuns :=
      ofList WorkflowRun.id [{ id := "run", workflowID := "flow", supervision := some {} }]
    tasks := ofList Task.id [{ id := "task", workflowID := "flow", name := "task" }]
    attempts :=
      ofList Attempt.id
        [{ id := "attempt", workflowRunID := "run", taskID := "task", number := 1
           progress := .succeeded, control := .stopped, completedAt := some 3 }]
    incidents := ofList ReviewIncident.id incidents }

def noExternalNode : Store → NodeRef → Except Err NodeObservation :=
  fun _ ref => .error { text := "unknown node " ++ quote ref.text }

theorem finishedRun_settles : ∃ before run attempts s',
      (finishedRun []).loadWorkflowProjection noExternalNode "run" = .ok before ∧
      projectWorkflowRun before [] ((finishedRun []).supervisionProjection "run")
      5 = some (run, attempts) ∧ run.progress = .succeeded ∧
      (finishedRun []).commitWorkflowProjection noExternalNode before run attempts 5 = .ok s' := by
  obtain ⟨s', hs'⟩ := (@projection_publishes_iff (finishedRun []) noExternalNode "run" _ [] 5 _ _
    rfl (by decide) (by decide) rfl rfl).2 fun _ => ⟨by decide, .inr (by decide)⟩
  exact ⟨_, _, _, s', rfl, rfl, rfl, hs'⟩

/-- While an incident is open the finished run cannot be published. -/
theorem open_incident_blocks_publication :
    ¬∀ (s : Store) (resolveNode : Store → NodeRef → Except Err NodeObservation) (runID : String)
      (before : WorkflowProjectionSnapshot) (external : List (String × NodeObservation)) (now : Time)
      (run : WorkflowRun) (attempts : List Attempt),
      s.loadWorkflowProjection resolveNode runID = .ok before → now ≠ 0 →
      Text.proper runID = true → s.auditEvents.get? ("sink-settled:" ++ runID) = none →
      projectWorkflowRun before external (s.supervisionProjection runID) now = some (run, attempts) →
      ∃ s', s.commitWorkflowProjection resolveNode before run attempts now = .ok s' := by
  intro h
  obtain ⟨s', hs'⟩ := h (finishedRun [{ id := "incident", runID := "run", state := .open }])
    noExternalNode "run" _ [] 5 _ _ rfl (by decide) (by decide) rfl rfl
  exact absurd hs' (by rintro ⟨⟩)

end Steward
