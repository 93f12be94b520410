import Steward.Domain.SinkSettlement

/-!
# Whether other runs can reach a run's settlement

`projectSupervisedRunSink` is handed lists that may hold the records of several runs. Quiescence and
outcomes are read from the run's own; `summarizeFixLoops` takes the latest attempt of a task
whatever run it belongs to, and runs of one workflow share its tasks.
-/

namespace Steward

open List

/-- The two pairs of lists hold the same records of a run and may differ in those of others.
Assignments are keyed by their identity, as the store keeps them. -/
structure SameRecords (runID : String) (attempts₁ attempts₂ : List Attempt)
    (assignments₁ assignments₂ : List Assignment) : Prop where
  attempts : attempts₁.filter (fun a => a.workflowRunID = runID) =
    attempts₂.filter fun a => a.workflowRunID = runID
  assignments : ∀ s, (∃ a ∈ attempts₁, a.workflowRunID = runID ∧ s.attemptID = a.id) →
    (s ∈ assignments₁ ↔ s ∈ assignments₂)
  keyed₁ : (assignments₁.map Assignment.id).Nodup
  keyed₂ : (assignments₂.map Assignment.id).Nodup

/-- No task declares a round of a fix loop. -/
def NoFixLoopRound (tasks : List Task) : Prop :=
  ∀ t ∈ tasks, ∀ f, t.fixLoop = some f → f.round ≤ 0

/-- Attempts at the tasks of fix loops are the run's own. -/
def FixLoopsOwn (runID : String) (tasks : List Task) (attempts : List Attempt) : Prop :=
  ∀ t ∈ tasks, t.fixLoop ≠ none → ∀ a ∈ attempts, a.taskID = t.id → a.workflowRunID = runID

section Records

variable {runID : String} {attempts₁ attempts₂ : List Attempt}
  {assignments₁ assignments₂ : List Assignment}

/-! ## Quiescence reads the run's own records -/

theorem SameRecords.mem_iff (h : SameRecords runID attempts₁ attempts₂ assignments₁ assignments₂)
    {a : Attempt} (hrun : a.workflowRunID = runID) : a ∈ attempts₁ ↔ a ∈ attempts₂ := by
  have hmem : a ∈ attempts₁.filter (fun a => a.workflowRunID = runID) ↔
      a ∈ attempts₂.filter fun a => a.workflowRunID = runID := by
    rw [h.attempts]
  simpa [mem_filter, hrun] using hmem

theorem SameRecords.symm (h : SameRecords runID attempts₁ attempts₂ assignments₁ assignments₂) :
    SameRecords runID attempts₂ attempts₁ assignments₂ assignments₁ where
  attempts := h.attempts.symm
  assignments := by
    rintro s ⟨a, ha, hrun, hid⟩
    exact (h.assignments s ⟨a, (h.mem_iff hrun).2 ha, hrun, hid⟩).symm
  keyed₁ := h.keyed₂
  keyed₂ := h.keyed₁

variable {assignments : List Assignment}

theorem find?_reverse_of_keyed (hkeyed : (assignments.map Assignment.id).Nodup) {s : Assignment}
    (hs : s ∈ assignments) : (assignments.reverse.find? fun s' => s'.id = s.id) = some s := by
  have hsome : (assignments.reverse.find? fun s' => s'.id = s.id).isSome := by
    rw [find?_isSome]
    exact ⟨s, mem_reverse.2 hs, by simp⟩
  obtain ⟨s', hfind⟩ := Option.isSome_iff_exists.1 hsome
  have hmem := mem_reverse.1 (mem_of_find?_eq_some hfind)
  have hid : s'.id = s.id := by simpa using find?_some hfind
  rw [hfind, inj_on_of_nodup_map hkeyed hmem hs hid]

/-- Over keyed assignments, the quiescence the code decides is the one its comment describes. -/
theorem runExecutionsQuiescent_iff {attempts : List Attempt}
    (hkeyed : (assignments.map Assignment.id).Nodup) :
    runExecutionsQuiescent runID attempts assignments = true ↔
      ExecutionsQuiescent runID attempts assignments := by
  refine ⟨runExecutionsQuiescent_spec, fun h => ?_⟩
  have hown : ∀ a, (a ∈ attempts.filter fun a =>
      a.workflowRunID = runID ∧ a.isSupervisionActivation = false) →
        RunExecution runID attempts a := by
    intro a ha
    simpa [RunExecution] using ha
  unfold runExecutionsQuiescent
  rw [Bool.and_eq_true, all_eq_true, all_eq_true]
  constructor
  · intro a ha
    unfold Attempt.quiescent
    rw [Bool.and_eq_true, Bool.or_eq_true]
    refine ⟨(control_quiescent_iff _).2 (h.control a (hown a ha)), ?_⟩
    by_cases hempty : a.assignmentID = ""
    · exact .inl (by simp [hempty])
    · obtain ⟨s, hs, hid, hatt, hstate⟩ := h.named a (hown a ha) hempty
      refine .inr ?_
      rw [← hid, find?_reverse_of_keyed hkeyed hs]
      simp [hatt, (settled_iff _).2 hstate]
  · intro s hs
    rw [Bool.or_eq_true, Bool.not_eq_true', any_eq_false]
    by_cases hsettled : s.state.settled = true
    · exact .inr hsettled
    · refine .inl fun a ha => ?_
      simp only [decide_eq_true_eq]
      intro hid
      exact hsettled ((settled_iff _).2 (h.owned a (hown a ha) s hs hid.symm))

section

variable (hsame : SameRecords runID attempts₁ attempts₂ assignments₁ assignments₂)
include hsame

theorem ExecutionsQuiescent.of_same (h : ExecutionsQuiescent runID attempts₁ assignments₁) :
    ExecutionsQuiescent runID attempts₂ assignments₂ := by
  have hback : ∀ a, RunExecution runID attempts₂ a → RunExecution runID attempts₁ a :=
    fun a ⟨ha, hrun, hact⟩ => ⟨(hsame.mem_iff hrun).2 ha, hrun, hact⟩
  constructor
  · exact fun a ha => h.control a (hback a ha)
  · intro a ha hne
    obtain ⟨s, hs, hid, hatt, hstate⟩ := h.named a (hback a ha) hne
    have hs₂ := (hsame.assignments s ⟨a, (hback a ha).1, ha.2.1, hatt⟩).1 hs
    exact ⟨s, hs₂, hid, hatt, hstate⟩
  · intro a ha s hs hatt
    have hs₁ := (hsame.assignments s ⟨a, (hback a ha).1, ha.2.1, hatt⟩).2 hs
    exact h.owned a (hback a ha) s hs₁ hatt

theorem runExecutionsQuiescent_of_same : runExecutionsQuiescent runID attempts₁ assignments₁ =
      runExecutionsQuiescent runID attempts₂ assignments₂ := by
  rw [Bool.eq_iff_iff, runExecutionsQuiescent_iff hsame.keyed₁,
    runExecutionsQuiescent_iff hsame.keyed₂]
  exact ⟨ExecutionsQuiescent.of_same hsame, ExecutionsQuiescent.of_same hsame.symm⟩

theorem currentAttempt_of_same : currentAttempt runID attempts₁ = currentAttempt runID attempts₂ := by
  funext taskID
  unfold currentAttempt
  rw [hsame.attempts]

end

end Records

/-! ## The fix-loop summary is the one channel -/

variable {tasks : List Task} {attempts : List Attempt} {t : Task} {run : WorkflowRun}
  {assignments : List Assignment} {f : FixLoopTask}

variable {attempts₁ attempts₂ : List Attempt}

theorem projectSupervisedRunSink_of_same {assignments₁ assignments₂ : List Assignment}
    (hsame : SameRecords run.id attempts₁ attempts₂ assignments₁ assignments₂)
    (hloops : summarizeFixLoops tasks attempts₁ = summarizeFixLoops tasks attempts₂)
    (barrier : SupervisionBarrier) (now : Time) :
    projectSupervisedRunSink run tasks attempts₁ assignments₁ barrier now =
      projectSupervisedRunSink run tasks attempts₂ assignments₂ barrier now := by
  rcases bindRunSink_closed_or_open run tasks with hclosed | ⟨bound, sink, hbound⟩
  · rw [projectSupervisedRunSink_of_closed hclosed, projectSupervisedRunSink_of_closed hclosed]
  · have hresult : settlementResult bound sink tasks attempts₁ assignments₁ =
        settlementResult bound sink tasks attempts₂ assignments₂ := by
      unfold settlementResult
      rw [hbound.id, runExecutionsQuiescent_of_same hsame, currentAttempt_of_same hsame, hloops]
    rw [hbound.project, hbound.project, hresult]

/-- Summaries agree when they agree on every declared loop. -/
theorem summarizeFixLoops_eq_iff : summarizeFixLoops tasks
      attempts₁ = summarizeFixLoops tasks attempts₂ ↔ ∀ t ∈ tasks, ∀ f, t.fixLoop = some f →
        summarizeFixLoop tasks attempts₁ f.name = summarizeFixLoop tasks attempts₂ f.name := by
  unfold summarizeFixLoops
  simp only [map_inj_left, mem_insertionSort, mem_dedup, mem_map, mem_filterMap]
  constructor
  · exact fun h t ht f hf => h f.name ⟨f, ⟨t, ht, hf⟩, rfl⟩
  · rintro h name ⟨f, ⟨t, ht, hf⟩, rfl⟩
    exact h t ht f hf

def loopStep (attempts : List Attempt) (name : String) (acc : FixLoopSummary × Int) (t : Task) :
    FixLoopSummary × Int :=
  match t.fixLoop with
  | none => acc
  | some f => if f.name = name then foldFixLoopTask attempts acc t f else acc

theorem summarizeFixLoop_eq (tasks : List Task) (attempts : List Attempt) (name : String) :
    summarizeFixLoop tasks attempts name = (tasks.foldl (loopStep attempts name) ({}, 0)).1 :=
  rfl

def RoundRan (a : Attempt) : Prop :=
  a.startedAt.isSome ∨ a.progress = .succeeded ∨ a.progress = .failed

instance (a : Attempt) : Decidable (RoundRan a) :=
  inferInstanceAs (Decidable (_ ∨ _))

theorem foldFixLoopTask_rounds (attempts : List Attempt) (acc : FixLoopSummary × Int) (t : Task)
    (f : FixLoopTask) :
    (RoundRan ((latestAttempt attempts t.id).getD {}) →
      (foldFixLoopTask attempts acc t f).1.rounds = max acc.1.rounds f.round) ∧
    (¬RoundRan ((latestAttempt attempts t.id).getD {}) →
      (foldFixLoopTask attempts acc t f).1.rounds = acc.1.rounds) := by
  have hrounds : (foldFixLoopTask attempts acc t f).1.rounds =
      if RoundRan ((latestAttempt attempts t.id).getD {}) ∧ f.round > acc.1.rounds then f.round
      else acc.1.rounds := by
    unfold foldFixLoopTask RoundRan
    simp only
    split <;> split_ifs <;> rfl
  rw [hrounds]
  constructor
  · intro hran
    split_ifs with hpast <;> grind
  · intro hran
    rw [if_neg fun hpast => hran hpast.1]

theorem foldFixLoopTask_of_not_past {acc : FixLoopSummary × Int} (hrounds : f.round ≤ acc.1.rounds)
    (hverdict : f.round ≤ acc.2) :
    foldFixLoopTask attempts acc t f =
      ({ acc.1 with name := f.name, maxRounds := f.maxRounds }, acc.2) := by
  have hnot : ¬f.round > acc.1.rounds := by omega
  have hnot' : ¬f.round > acc.2 := by omega
  unfold foldFixLoopTask
  simp only [hnot, hnot', and_false, if_false]
  split <;> rfl

theorem summarizeFixLoops_congr
    (h : ∀ t ∈ tasks, t.fixLoop ≠ none →
    latestAttempt attempts₁ t.id = latestAttempt attempts₂ t.id) :
    summarizeFixLoops tasks attempts₁ = summarizeFixLoops tasks attempts₂ := by
  refine summarizeFixLoops_eq_iff.2 fun _ _ f _ => ?_
  rw [summarizeFixLoop_eq, summarizeFixLoop_eq]
  congr 1
  refine foldl_ext _ _ _ fun acc t ht => ?_
  unfold loopStep
  cases hloop : t.fixLoop with
  | none => rfl
  | some f => simp only [foldFixLoopTask, h t ht (by simp [hloop])]

theorem latestAttempt_of_own {runID : String} (hown : FixLoopsOwn runID tasks attempts)
    (ht : t ∈ tasks) (hloop : t.fixLoop ≠ none) :
    latestAttempt attempts t.id = currentAttempt runID attempts t.id := by
  unfold currentAttempt
  rw [latestAttempt_eq_argmax, latestAttempt_eq_argmax, filter_filter]
  congr 1
  refine filter_congr fun a ha => ?_
  by_cases htask : a.taskID = t.id
  · simp [htask, hown t ht hloop a ha htask]
  · simp [htask]

/-- Without a declared round no attempt leaves a trace in the summary: a round is recorded only
past the last one, and the count starts at zero. -/
theorem summarizeFixLoops_of_no_round (h : NoFixLoopRound tasks)
    (attempts₁ attempts₂ : List Attempt) :
    summarizeFixLoops tasks attempts₁ = summarizeFixLoops tasks attempts₂ := by
  have hfold : ∀ (ts : List Task) (name : String) (acc : FixLoopSummary × Int), ts ⊆ tasks →
      acc.1.rounds = 0 → acc.2 = 0 →
      ts.foldl (loopStep attempts₁ name) acc = ts.foldl (loopStep attempts₂ name) acc := by
    intro ts name
    induction ts with
    | nil => exact fun _ _ _ _ => rfl
    | cons t ts ih =>
      intro acc hsub hrounds hverdict
      obtain ⟨ht, hts⟩ := cons_subset.1 hsub
      rw [foldl_cons, foldl_cons]
      unfold loopStep
      cases hloop : t.fixLoop with
      | none => exact ih acc hts hrounds hverdict
      | some f =>
        have hround := h t ht f hloop
        simp only
        split_ifs
        · rw [foldFixLoopTask_of_not_past (by omega) (by omega),
            foldFixLoopTask_of_not_past (by omega) (by omega)]
          exact ih _ hts hrounds hverdict
        · exact ih acc hts hrounds hverdict
  refine summarizeFixLoops_eq_iff.2 fun _ _ f _ => ?_
  rw [summarizeFixLoop_eq, summarizeFixLoop_eq, hfold tasks f.name _ (Subset.refl _) rfl rfl]

/-! ## Every declared round can be interfered with -/

def finishedAttempt (runID : String) (t : Task) : Attempt :=
  { id := t.id, workflowRunID := runID, taskID := t.id, progress := .succeeded, control := .stopped }

def foreignAttempt (runID : String) (t : Task) : Attempt :=
  { id := t.id, workflowRunID := runID ++ "'", taskID := t.id, number := 1 }

theorem sameRecords_foreign (runID : String) (tasks : List Task) :
    SameRecords runID (tasks.map (finishedAttempt runID))
      (tasks.map (finishedAttempt runID) ++ tasks.map (foreignAttempt runID)) [] [] where
  attempts := by
    have hforeign : (tasks.map (foreignAttempt runID)).filter (fun a => a.workflowRunID = runID) =
      [] := by
      rw [filter_eq_nil_iff]
      intro a ha
      obtain ⟨t, -, rfl⟩ := mem_map.1 ha
      simp [foreignAttempt]
    rw [filter_append, hforeign, append_nil]
  assignments := fun _ _ => Iff.rfl
  keyed₁ := nodup_nil
  keyed₂ := nodup_nil

theorem latestAttempt_finished (runID : String) (ht : t ∈ tasks) : ∃ a,
    latestAttempt (tasks.map (finishedAttempt runID)) t.id = some a ∧ a.progress = .succeeded := by
  rw [latestAttempt_eq_argmax]
  cases hmax : ((tasks.map (finishedAttempt runID)).filter fun a => a.taskID = t.id).argmax
      Attempt.number with
  | none =>
    rw [argmax_eq_none, filter_eq_nil_iff] at hmax
    exact absurd (decide_eq_true rfl) (hmax (finishedAttempt runID t) (mem_map_of_mem ht))
  | some a =>
    have hmem := mem_of_mem_filter (argmax_mem hmax)
    obtain ⟨t', -, rfl⟩ := mem_map.1 hmem
    exact ⟨_, rfl, rfl⟩

theorem round_le_rounds (hran : ∀ t ∈ tasks, RoundRan ((latestAttempt attempts t.id).getD {}))
    (ht : t ∈ tasks) (hloop : t.fixLoop = some f) :
    f.round ≤ (summarizeFixLoop tasks attempts f.name).rounds := by
  have hstep : ∀ acc, ∀ u ∈ tasks, acc.1.rounds ≤ (loopStep attempts f.name acc u).1.rounds ∧
      (u = t → f.round ≤ (loopStep attempts f.name acc u).1.rounds) := by
    intro acc u hu
    unfold loopStep
    cases huloop : u.fixLoop with
    | none =>
      refine ⟨le_refl _, fun hut => ?_⟩
      rw [hut, hloop] at huloop
      cases huloop
    | some g =>
      simp only
      split_ifs with hname
      · rw [(foldFixLoopTask_rounds attempts acc u g).1 (hran u hu)]
        refine ⟨le_max_left _ _, fun hut => ?_⟩
        rw [hut, hloop] at huloop
        rw [Option.some.inj huloop]
        exact le_max_right _ _
      · refine ⟨le_refl _, fun hut => ?_⟩
        rw [hut, hloop] at huloop
        exact absurd (by rw [Option.some.inj huloop]) hname
  have hmono : ∀ us : List Task, us ⊆ tasks → ∀ acc : FixLoopSummary × Int,
      acc.1.rounds ≤ (us.foldl (loopStep attempts f.name) acc).1.rounds := by
    intro us
    induction us with
    | nil => exact fun _ acc => le_refl _
    | cons u us ih =>
      intro hsub acc
      exact (hstep acc u (hsub ((.head _) ..))).1.trans (ih (fun v hv => hsub (.tail _ hv)) _)
  obtain ⟨before, after, rfl⟩ := append_of_mem ht
  rw [summarizeFixLoop_eq, foldl_append, foldl_cons]
  exact ((hstep _ t ht).2 rfl).trans (hmono after (by simp) _)

theorem rounds_eq_zero (name : String)
    (hran : ∀ t ∈ tasks, ¬RoundRan ((latestAttempt attempts t.id).getD {})) :
    (summarizeFixLoop tasks attempts name).rounds = 0 := by
  rw [summarizeFixLoop_eq]
  refine foldlRecOn (motive := fun acc : FixLoopSummary × Int => acc.1.rounds = 0) _ _ rfl
    fun acc hacc t ht => ?_
  unfold loopStep
  cases t.fixLoop with
  | none => exact hacc
  | some f =>
    simp only
    split_ifs
    · rw [(foldFixLoopTask_rounds attempts acc t f).2 (hran t ht)]
      exact hacc
    · exact hacc

theorem latestAttempt_foreign {runID : String} (ht : t ∈ tasks) :
    ¬RoundRan ((latestAttempt (tasks.map (finishedAttempt runID) ++
      tasks.map (foreignAttempt runID)) t.id).getD {}) := by
  rw [latestAttempt_eq_argmax]
  cases hmax : ((tasks.map (finishedAttempt runID) ++ tasks.map (foreignAttempt runID)).filter
      fun a => a.taskID = t.id).argmax Attempt.number with
  | none => simp [RoundRan]
  | some a =>
    obtain ⟨hmem, hle, -⟩ := argmax_eq_some_iff.1 hmax
    have hnumber : 1 ≤ a.number := by
      refine hle (foreignAttempt runID t) ?_
      simp only [mem_filter, mem_append, mem_map]
      exact ⟨.inr ⟨t, ht, rfl⟩, decide_eq_true rfl⟩
    rcases mem_append.1 (mem_of_mem_filter hmem) with hown | hforeign
    · obtain ⟨t', -, rfl⟩ := mem_map.1 hown
      simp [finishedAttempt] at hnumber
    · obtain ⟨t', -, rfl⟩ := mem_map.1 hforeign
      simp [RoundRan, foreignAttempt]

theorem summary_interferes (runID : String) (hround : ¬NoFixLoopRound tasks) :
    summarizeFixLoops tasks (tasks.map (finishedAttempt runID)) ≠ summarizeFixLoops tasks
        (tasks.map (finishedAttempt runID) ++ tasks.map (foreignAttempt runID)) := by
  intro heq
  refine hround fun t ht f hloop => ?_
  have hran : ∀ t ∈ tasks, RoundRan ((latestAttempt (tasks.map (finishedAttempt runID)) t.id).getD
    {}) := by
    intro t ht
    obtain ⟨a, ha, hprogress⟩ := latestAttempt_finished runID ht
    rw [ha]
    exact .inr (.inl hprogress)
  calc f.round ≤ (summarizeFixLoop tasks (tasks.map (finishedAttempt runID)) f.name).rounds :=
        round_le_rounds hran ht hloop
    _ = (summarizeFixLoop tasks (tasks.map (finishedAttempt runID) ++
          tasks.map (foreignAttempt runID)) f.name).rounds := by
        rw [summarizeFixLoops_eq_iff.1 heq t ht f hloop]
    _ = 0 := rounds_eq_zero f.name fun t ht => latestAttempt_foreign ht

theorem aggregateNeeds_of_succeeded {current : String → Option Attempt} {ids : List String}
    (h : ∀ id ∈ ids, ∃ a, current id = some a ∧ a.progress = .succeeded) (acc : SinkResult × Bool) :
    aggregateNeeds current ids acc = some acc := by
  induction ids with
  | nil => rfl
  | cons id ids ih =>
    obtain ⟨a, ha, hprogress⟩ := h id ((.head _) ..)
    have hterminal : a.progress.terminal = true := by rw [hprogress]; rfl
    have hsame : acc.1.addOutcome acc.2 id a = acc := by
      unfold SinkResult.addOutcome
      rw [hprogress]
    unfold aggregateNeeds
    rw [ha]
    simp only [hterminal, if_true, hsame]
    exact ih fun id hid => h id (.tail _ hid)

theorem settled_result (hbind : (bindRunSink run tasks).2 = none) (hopen : ¬run.sinkTerminal)
    (hquiet : runExecutionsQuiescent run.id attempts assignments = true)
    (hdone : ∀ t ∈ tasks, ∃ a, currentAttempt run.id attempts t.id = some a ∧
      a.progress = .succeeded) :
    ((projectSupervisedRunSink run tasks attempts assignments {} 1).1.sink.bind
      SinkTask.result).map SinkResult.fixLoops = some (summarizeFixLoops tasks attempts) := by
  rcases bindRunSink_closed_or_open run tasks with (herr | hclosed) | ⟨bound, sink, hbound⟩
  · exact absurd hbind herr
  · exact absurd hclosed hopen
  · have hneeded : ∀ id ∈ sink.needs, ∃ a, currentAttempt run.id attempts id = some a ∧
        a.progress = .succeeded := by
      intro id hmem
      obtain ⟨t, ht, rfl⟩ := hbound.mem_needs.1 hmem
      exact hdone t ht
    have hresult : settlementResult bound sink tasks attempts assignments =
        some ({ fixLoops := summarizeFixLoops tasks attempts }, true) := by
      unfold settlementResult
      rw [hbound.id, if_pos hquiet, aggregateNeeds_of_succeeded hneeded]
    rw [hbound.project, hresult]
    rfl

/-- Settlement of a run is independent of other runs' records exactly when its sink is closed to it
or its tasks declare no fix-loop round; with a declared round it still is of records that hold no
attempt at a fix loop's task. -/
theorem settlement_isolated_iff (run : WorkflowRun) (tasks : List Task) :
    ((∀ (attempts₁ attempts₂ : List Attempt) (assignments₁ assignments₂ : List Assignment)
        (barrier : SupervisionBarrier) (now : Time),
        SameRecords run.id attempts₁ attempts₂ assignments₁ assignments₂ →
        projectSupervisedRunSink run tasks attempts₁ assignments₁ barrier now =
          projectSupervisedRunSink run tasks attempts₂ assignments₂ barrier now) ↔
      (bindRunSink run tasks).2 ≠ none ∨ run.sinkTerminal ∨ NoFixLoopRound tasks) ∧
    ∀ (attempts₁ attempts₂ : List Attempt) (assignments₁ assignments₂ : List Assignment)
      (barrier : SupervisionBarrier) (now : Time),
      SameRecords run.id attempts₁ attempts₂ assignments₁ assignments₂ →
      FixLoopsOwn run.id tasks attempts₁ → FixLoopsOwn run.id tasks attempts₂ →
      projectSupervisedRunSink run tasks attempts₁ assignments₁ barrier now =
        projectSupervisedRunSink run tasks attempts₂ assignments₂ barrier now := by
  refine ⟨⟨fun h => ?_, fun h => ?_⟩, ?_⟩
  · by_contra hclosed
    obtain ⟨hbind, hopen, hround⟩ := not_or.1 hclosed |>.imp_right not_or.1
    have hbind := not_not.1 hbind
    have hsame := sameRecords_foreign run.id tasks
    have hdone : ∀ t ∈ tasks, ∃ a, currentAttempt run.id (tasks.map (finishedAttempt run.id))
          t.id = some a ∧ a.progress = .succeeded := by
      intro t ht
      unfold currentAttempt
      rw [filter_eq_self.2 fun a ha => by
        obtain ⟨t, -, rfl⟩ := mem_map.1 ha; exact decide_eq_true rfl]
      exact latestAttempt_finished run.id ht
    have hquiet : runExecutionsQuiescent run.id (tasks.map (finishedAttempt run.id)) [] = true := by
      refine (runExecutionsQuiescent_iff hsame.keyed₁).2 ⟨?_, ?_, by simp⟩
      · rintro a ⟨ha, -⟩
        obtain ⟨t, -, rfl⟩ := mem_map.1 ha
        exact .inr (.inl rfl)
      · rintro a ⟨ha, -⟩ hne
        obtain ⟨t, -, rfl⟩ := mem_map.1 ha
        exact absurd rfl hne
    have hown := settled_result hbind hopen hquiet hdone
    have hforeign := settled_result hbind hopen
      (runExecutionsQuiescent_of_same hsame ▸ hquiet) (currentAttempt_of_same hsame ▸ hdone)
    rw [h _ _ _ _ {} 1 hsame, hforeign] at hown
    exact summary_interferes run.id hround (Option.some.inj hown).symm
  · intro attempts₁ attempts₂ assignments₁ assignments₂ barrier now hsame
    rcases or_assoc.2 h with hclosed | hround
    · rw [projectSupervisedRunSink_of_closed hclosed, projectSupervisedRunSink_of_closed hclosed]
    · exact projectSupervisedRunSink_of_same hsame
        (summarizeFixLoops_of_no_round hround attempts₁ attempts₂) barrier now
  · intro attempts₁ attempts₂ assignments₁ assignments₂ barrier now hsame hown₁ hown₂
    refine projectSupervisedRunSink_of_same hsame (summarizeFixLoops_congr fun t ht hloop => ?_)
      barrier now
    rw [latestAttempt_of_own hown₁ ht hloop, latestAttempt_of_own hown₂ ht hloop,
      currentAttempt_of_same hsame]

/-! ## One review, two runs -/

def reviewTask : Task :=
  { id := "review", workflowID := "workflow", name := "review"
    fixLoop := some { name := "loop", round := 1, maxRounds := 1, kind := "review" } }

def approvedAttempt : Attempt :=
  { id := "approved", workflowRunID := "run", taskID := "review", number := 1
    progress := .succeeded, control := .stopped, reviewVerdict := some { verdict := "approved" } }

def rejectedAttempt : Attempt :=
  { id := "rejected", workflowRunID := "later", taskID := "review", number := 2
    progress := .succeeded, control := .stopped
    reviewVerdict := some { verdict := "changes-requested" } }

/-- Beside another run of its workflow an approved run settles as failed. -/
theorem other_review_fails_approved_run :
    SameRecords settlingRun.id [approvedAttempt] [approvedAttempt, rejectedAttempt] [] [] ∧
    (projectSupervisedRunSink settlingRun [reviewTask] [approvedAttempt] [] {} 5).1.progress = .succeeded ∧
    (projectSupervisedRunSink settlingRun [reviewTask] [approvedAttempt, rejectedAttempt] []
      {} 5).1.progress = .failed :=
  ⟨⟨by decide, fun _ _ => Iff.rfl, by decide, by decide⟩, by decide, by decide⟩

/-- The run of a task without a loop settles alike beside the other run. -/
theorem settlingRun_is_isolated :
    SameRecords "run" [settlingAttempt] [settlingAttempt, rejectedAttempt] [] [] ∧
    projectSupervisedRunSink settlingRun [settlingTask] [settlingAttempt, rejectedAttempt] [] {} 5 =
      projectSupervisedRunSink settlingRun [settlingTask] [settlingAttempt] [] {} 5 := by
  have hsame : SameRecords "run" [settlingAttempt] [settlingAttempt, rejectedAttempt] [] [] :=
    ⟨by decide, fun _ _ => Iff.rfl, by decide, by decide⟩
  have hround : NoFixLoopRound [settlingTask] := by simp [NoFixLoopRound, settlingTask]
  refine ⟨hsame, ?_⟩
  exact ((settlement_isolated_iff settlingRun [settlingTask]).1.2 (.inr (.inr hround))
    _ _ _ _ {} 5 hsame).symm

end Steward
