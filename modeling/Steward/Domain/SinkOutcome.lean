import Steward.Domain.SinkSettlement

/-!
# The outcome a settled sink publishes

Once a sink settles, the progress of its run is one function, `outcomeProgress`, of the latest
attempts of the run's tasks and of whether a fix loop ran out of rounds.
-/

namespace Steward

open List

def Attempt.fulfilled (a : Attempt) : Bool :=
  a.progress = .succeeded ∨ a.progress = .skipped ∧ a.failure = verdictBranchSkipped

def outcomeProgress (outcomes : List Attempt) (exhausted : Bool) : ProgressState :=
  if outcomes.any (fun a => a.progress = .failed) || exhausted then .failed
  else if outcomes.any (fun a => a.progress = .cancelled) then .cancelled
  else if outcomes.all Attempt.fulfilled then .succeeded
  else .skipped

def runOutcomes (runID : String) (tasks : List Task) (attempts : List Attempt) : List Attempt :=
  tasks.map fun t => (currentAttempt runID attempts t.id).getD {}

/-! ## The tally -/

theorem addOutcome_flag (result : SinkResult) (allSucceeded : Bool) (id : String) {a : Attempt}
    (hterminal : a.progress.terminal = true) :
    (result.addOutcome allSucceeded id a).2 = (allSucceeded && a.fulfilled) := by
  unfold SinkResult.addOutcome Attempt.fulfilled
  cases hp : a.progress <;> simp [hp, ProgressState.terminal] at hterminal ⊢
  split_ifs with hskip <;> simp [hskip]

variable {current : String → Option Attempt} {ids : List String}

theorem aggregateNeeds_flag {acc r : SinkResult × Bool}
    (h : aggregateNeeds current ids acc = some r) :
    r.2 = (acc.2 && (ids.map fun id => (current id).getD {}).all Attempt.fulfilled) := by
  induction ids generalizing acc with
  | nil =>
    rw [aggregateNeeds, Option.some.injEq] at h
    simp [h]
  | cons id ids ih =>
    unfold aggregateNeeds at h
    cases hcurrent : current id with
    | none => simp [hcurrent] at h
    | some a =>
      simp only [hcurrent] at h
      split_ifs at h with hterminal
      rw [ih h, addOutcome_flag _ _ _ hterminal]
      simp [hcurrent, Bool.and_assoc]

theorem aggregateNeeds_isSome (h : ∀ id ∈ ids, ∃ a, current id = some a ∧ a.progress.terminal = true)
    (acc : SinkResult × Bool) : ∃ r, aggregateNeeds current ids acc = some r := by
  induction ids generalizing acc with
  | nil => exact ⟨acc, rfl⟩
  | cons id ids ih =>
    obtain ⟨a, ha, hterminal⟩ := h id (.head _)
    obtain ⟨r, hr⟩ := ih (fun id' hid => h id' (.tail _ hid)) (acc.1.addOutcome acc.2 id a)
    refine ⟨r, ?_⟩
    unfold aggregateNeeds
    rw [ha]
    simp only [hterminal, if_true, hr]

theorem isEmpty_tally {listed : List String} {p : ProgressState}
    (hcurrent : ∀ id ∈ ids, ∃ a, current id = some a)
    (h : ∀ id, id ∈ listed ↔ id ∈ ids ∧ ∃ a, current id = some a ∧ a.progress = p) :
    (!listed.isEmpty) = (ids.map fun id => (current id).getD {}).any fun a => a.progress = p := by
  rw [Bool.eq_iff_iff, Bool.not_eq_true', isEmpty_eq_false_iff_exists_mem, any_eq_true]
  constructor
  · rintro ⟨id, hid⟩
    obtain ⟨hmem, a, ha, hp⟩ := (h id).1 hid
    exact ⟨a, mem_map.2 ⟨id, hmem, by rw [ha]; rfl⟩, by simpa using hp⟩
  · rintro ⟨a, ha, hp⟩
    obtain ⟨id, hmem, rfl⟩ := mem_map.1 ha
    obtain ⟨b, hb⟩ := hcurrent id hmem
    exact ⟨id, (h id).2 ⟨hmem, b, hb, by simpa [hb] using hp⟩⟩

theorem settleSink_progress {run : WorkflowRun} {sink : SinkTask} {loops : List FixLoopSummary}
    {result : SinkResult} {allSucceeded : Bool} {now : Time}
    (h : aggregateNeeds current sink.needs ({ fixLoops := loops }, true) = some (result,
      allSucceeded)) :
    (settleSink run sink result allSucceeded now).progress =
      outcomeProgress (sink.needs.map fun id => (current id).getD {})
        (loops.any FixLoopSummary.exhausted) := by
  obtain ⟨hall, hloops, hfailed, hcancelled⟩ := aggregateNeeds_spec h
  have hcurrent : ∀ id ∈ sink.needs, ∃ a, current id = some a := fun id hid =>
    (hall id hid).imp fun a ha => ha.1
  have hflag := aggregateNeeds_flag h
  simp only [not_mem_nil, false_or] at hfailed hcancelled
  simp only [Bool.true_and] at hflag
  dsimp only at hloops
  unfold settleSink outcomeProgress
  simp only [isEmpty_tally hcurrent hfailed, isEmpty_tally hcurrent hcancelled, hloops, hflag]

/-! ## The settled run -/

section

variable {run : WorkflowRun} {tasks : List Task} {attempts : List Attempt}
  {assignments : List Assignment} {barrier : SupervisionBarrier} {now : Time}

theorem needs_outcomes_perm {runID : String} {needs : List String}
    (hneeds : needs = (tasks.map Task.id).insertionSort (· ≤ ·)) :
    (needs.map fun id => (currentAttempt runID attempts id).getD {}).Perm
      (runOutcomes runID tasks attempts) := by
  have hperm := (perm_insertionSort (· ≤ ·) (tasks.map Task.id)).map
    fun id => (currentAttempt runID attempts id).getD {}
  rw [← hneeds, map_map] at hperm
  exact hperm

theorem projectSupervisedRunSink_id :
    (projectSupervisedRunSink run tasks attempts assignments barrier now).1.id = run.id := by
  obtain ⟨_, _, _, _, hframe⟩ :=
    projectSupervisedRunSink_frame run tasks attempts assignments barrier now
  rw [hframe]

theorem settled_progress (hopen : ¬run.sinkTerminal)
    (h : (projectSupervisedRunSink run tasks attempts assignments barrier now).1.sinkTerminal) :
    (projectSupervisedRunSink run tasks attempts assignments barrier now).1.progress =
      outcomeProgress (runOutcomes run.id tasks attempts)
        ((summarizeFixLoops tasks attempts).any FixLoopSummary.exhausted) := by
  rcases bindRunSink_closed_or_open run tasks with hclosed | ⟨bound, sink, hbound⟩
  · rw [projectSupervisedRunSink_of_closed hclosed] at h
    exact absurd (sinkTerminal_of_bind h) hopen
  rw [hbound.project] at h ⊢
  cases hresult : settlementResult bound sink tasks attempts assignments with
  | none =>
    rw [hresult] at h
    exact absurd h hbound.bound_isOpen
  | some r =>
    rw [hresult] at h
    dsimp only at h ⊢
    split at h
    · exact absurd h hbound.bound_isOpen
    · rename_i hbarrier
      rw [if_neg hbarrier]
      split at h
      · exact absurd h hbound.bound_isOpen
      · rename_i hnow
        unfold settlementResult at hresult
        split_ifs at hresult with hquiet
        have hperm := @needs_outcomes_perm tasks attempts bound.id _ hbound.needs
        rw [if_neg hnow, settleSink_progress hresult, outcomeProgress, hperm.any_eq, hperm.any_eq,
          hperm.all_eq, hbound.id, outcomeProgress]

theorem projectRunSink_settles (hopen : ¬run.sinkTerminal)
    (hok : (projectRunSink run tasks attempts assignments now).2 = none)
    (hquiet : runExecutionsQuiescent run.id attempts assignments = true)
    (hterminal : ∀ t ∈ tasks, ∃ a, currentAttempt run.id attempts t.id = some a ∧
      a.progress.terminal = true) :
    (projectRunSink run tasks attempts assignments now).1.sinkTerminal := by
  unfold projectRunSink at hok ⊢
  rcases bindRunSink_closed_or_open run tasks with (hbind | hclosed) | ⟨bound, sink, hbound⟩
  · rw [projectSupervisedRunSink_of_closed (.inl hbind)] at hok
    exact absurd hok hbind
  · exact absurd hclosed hopen
  have hneeded : ∀ id ∈ sink.needs, ∃ a, currentAttempt run.id attempts id = some a ∧
      a.progress.terminal = true := by
    intro id hmem
    obtain ⟨t, ht, rfl⟩ := hbound.mem_needs.1 hmem
    exact hterminal t ht
  obtain ⟨r, hr⟩ := aggregateNeeds_isSome hneeded
    ({ fixLoops := summarizeFixLoops tasks attempts }, true)
  have hresult : settlementResult bound sink tasks attempts assignments = some r := by
    rw [settlementResult, hbound.id, if_pos hquiet, hr]
  rw [hbound.project, hresult] at hok ⊢
  have hsettles : (!(supervisionSettlementBarrier {} r.1.runFailed).settles) = false := rfl
  simp only [hsettles, Bool.false_eq_true, if_false] at hok ⊢
  split at hok
  · cases hok
  · rename_i hnow
    rw [if_neg hnow]
    exact ⟨_, rfl, by simp only; split <;> rfl⟩

end

end Steward
