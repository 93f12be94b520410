import Steward.Backlog.DagRuns
import Steward.Backlog.Planner
import Steward.Backlog.RunCancellation

/-!
# The order of a plan

Both comparisons of a plan compare keys, field by field: a task at the deferral bound comes before
every task under it, so the preference for runs in flight is one more field. Tasks of different runs
never tie, and neither do two tasks of one run.
-/

namespace Steward

open Except List Std

namespace PlanningEntry

/-! ## Keys -/

def flag (b : Bool) : Int := if b then 0 else 1

/-- The fields both comparisons begin with. -/
def urgency (e : PlanningEntry) : List Int :=
  let o := e.order
  [flag e.ready, flag e.attempt.adminForceStart, flag o.deadlineRisk,
    if o.deadlineRisk then o.deadlineSlackSeconds else 0, -o.importance,
    flag (inFlightDeferralBound ≤ o.priorDeferrals),
    if inFlightDeferralBound ≤ o.priorDeferrals then 0 else flag o.inFlight,
    -o.priorDeferrals, o.readySince]

theorem holdersFirst_eq (a b : Bool) : holdersFirst a b = compare (flag a) (flag b) := by
  cases a <;> cases b <;> rfl

theorem compare_neg (x y : Int) : compare (-x) (-y) = compare y x := by
  simp only [Int.compare_eq_ite_lt, Int.neg_lt_neg_iff]

theorem compare_deferrals (l r : PlanningOrder) (rest : Ordering) :
    ((if l.priorDeferrals < inFlightDeferralBound ∧ r.priorDeferrals < inFlightDeferralBound then
        holdersFirst l.inFlight r.inFlight else .eq).then
      ((compare r.priorDeferrals l.priorDeferrals).then rest)) =
      (compare (flag (inFlightDeferralBound ≤ l.priorDeferrals))
        (flag (inFlightDeferralBound ≤ r.priorDeferrals))).then
      ((compare (if inFlightDeferralBound ≤ l.priorDeferrals then 0 else flag l.inFlight)
        (if inFlightDeferralBound ≤ r.priorDeferrals then 0 else flag r.inFlight)).then
      ((compare (-l.priorDeferrals) (-r.priorDeferrals)).then rest)) := by
  rw [compare_neg]
  rcases lt_or_ge l.priorDeferrals inFlightDeferralBound with hl | hl <;>
    rcases lt_or_ge r.priorDeferrals inFlightDeferralBound with hr | hr
  · simp [hl, hr, hl.not_ge, hr.not_ge, holdersFirst_eq]
  · simp [hl, hr, hl.not_ge, hr.not_gt, flag, compare_gt_iff_gt.2 (hl.trans_le hr)]
    rfl
  · simp [hl, hr, hl.not_gt, hr.not_ge, flag, compare_lt_iff_lt.2 (hr.trans_le hl)]
    rfl
  · simp [hl, hr, hl.not_gt]

theorem comparePlanningPriority_eq (a b : PlanningEntry) :
    comparePlanningPriority a b = compare a.urgency b.urgency := by
  simp only [comparePlanningPriority, compare_deferrals]
  simp only [urgency, List.compare_cons_cons, List.compare_nil_nil, Ordering.then_eq,
    holdersFirst_eq, compare_neg]
  cases a.order.deadlineRisk <;> cases b.order.deadlineRisk <;> rfl

def taskOrder : PlanningEntry → PlanningEntry → Ordering :=
  compareLex (compareOn (·.task.name)) (compareOn (·.task.id))

def orderInWorkflow : PlanningEntry → PlanningEntry → Ordering :=
  compareLex (compareOn urgency) taskOrder

def orderInPlan : PlanningEntry → PlanningEntry → Ordering :=
  compareLex (compareOn urgency) <| compareLex (compareOn (·.order.workflowRound)) <|
    compareLex (compareOn (·.state.run.id)) taskOrder

instance : TransCmp taskOrder := inferInstanceAs (TransCmp (compareLex _ _))
instance : TransCmp orderInWorkflow := inferInstanceAs (TransCmp (compareLex _ _))
instance : TransCmp orderInPlan := inferInstanceAs (TransCmp (compareLex _ _))

theorem beforeInWorkflow_eq (a b : PlanningEntry) :
    a.beforeInWorkflow b = (orderInWorkflow a b).isLE := by
  rw [beforeInWorkflow, comparePlanningPriority_eq]
  rfl

theorem before_eq (a b : PlanningEntry) : a.before b = (orderInPlan a b).isLE := by
  rw [before, comparePlanningPriority_eq]
  rfl

/-- What tells the entries of a plan apart. -/
def key (e : PlanningEntry) : String × String := (e.state.run.id, e.task.id)

theorem key_of_tie {a b : PlanningEntry} (h : orderInPlan a b = .eq) : a.key = b.key := by
  simp only [orderInPlan, taskOrder, compareLex, compareOn, Ordering.then_eq_eq,
    LawfulEqOrd.compare_eq_iff_eq] at h
  exact Prod.ext h.2.2.1 h.2.2.2.2

theorem task_of_tie {a b : PlanningEntry} (h : orderInWorkflow a b = .eq) :
    a.task.id = b.task.id := by
  simp only [orderInWorkflow, taskOrder, compareLex, compareOn, Ordering.then_eq_eq,
    LawfulEqOrd.compare_eq_iff_eq] at h
  exact h.2.2

end PlanningEntry

/-- Entries that do not tie have one order. -/
theorem insertionSort_eq_of_perm {before : PlanningEntry → PlanningEntry → Bool}
    {cmp : PlanningEntry → PlanningEntry → Ordering} [TransCmp cmp]
    (hcmp : ∀ a b, before a b = (cmp a b).isLE) {l l' : List PlanningEntry} (hperm : l ~ l')
    (hties : ∀ a ∈ l, ∀ b ∈ l, cmp a b = .eq → a = b) :
    (l.insertionSort fun a b => before a b) = l'.insertionSort fun a b => before a b := by
  have : Std.Total fun a b : PlanningEntry => before a b = true := ⟨fun a b => by
    have hswap : cmp b a = (cmp a b).swap := OrientedCmp.eq_swap
    simp only [hcmp, hswap]
    cases cmp a b <;> decide⟩
  have : IsTrans PlanningEntry fun a b => before a b = true := ⟨fun a b c => by
    simp only [hcmp]
    exact TransCmp.isLE_trans⟩
  refine Perm.eq_of_pairwise (fun a b ha hb hab hba => ?_)
    (pairwise_insertionSort (fun a b => before a b = true) l)
    (pairwise_insertionSort (fun a b => before a b = true) l')
    ((perm_insertionSort _ l).trans (hperm.trans (perm_insertionSort _ l').symm))
  rw [hcmp] at hab hba
  exact hties a ((mem_insertionSort _).1 ha) b (hperm.mem_iff.2 ((mem_insertionSort _).1 hb))
    (OrientedCmp.isLE_antisymm hab hba)

/-! ## The tasks of a plan -/

variable {input : PlanInput} {es : List PlanningEntry}

theorem newDAGExecution_run {start s : DAGState} (h : newDAGExecution start = .ok s) :
    s.run.id = start.run.id := by
  obtain ⟨_, -, h⟩ := of_bind h
  cases h
  rw [refresh_eq_refreshWith]
  exact (refreshWith_run start 0 false).1

section

/-- The run of a workflow as a plan reads it: refreshed, with its tasks and attempts in their
order. -/
def PlanningWorkflow.executed (w : PlanningWorkflow) : Option (Workflow × DAGState) :=
  (newDAGExecution w.state).toOption.map fun s => (w.workflow, s.snapshot)

/-- Some task is left to plan. -/
def hasOpenTask (x : Workflow × DAGState) : Bool :=
  x.2.tasks.any fun t => !(currentPlanningAttempt x.2.attempts t.id).progress.terminal

/-- The refreshed runs that have a task left to plan. -/
def openRuns (workflows : List PlanningWorkflow) : List (Workflow × DAGState) :=
  (workflows.filterMap PlanningWorkflow.executed).filter hasOpenTask

/-- The tasks that a run gives to a plan. -/
def listing (input : PlanInput) (x : Workflow × DAGState) : List PlanningEntry :=
  (planningEntries input x.1 x.2).toOption.getD []

/-- The run of an entry. -/
def PlanningEntry.source (e : PlanningEntry) : Workflow × DAGState := (e.workflow, e.state)

theorem planningEntries_spec {x : Workflow × DAGState} (h : planningEntries input x.1 x.2 = .ok es)
    (hids : (x.2.tasks.map Task.id).Nodup) :
    (∀ e ∈ es, e.source = x) ∧ (es.map PlanningEntry.key).Nodup ∧
      (es = [] ↔ hasOpenTask x = false) := by
  unfold planningEntries at h
  rw [mapM_ok_iff] at h
  have hbuilt : Forall₂ (fun (p : Task × Attempt) e =>
      (x.2.run.id, p.1.id) = e.key ∧ e.source = x) _ es := h.imp fun p e h => by
    obtain ⟨history, -, h⟩ := of_bind h
    cases h
    exact ⟨rfl, rfl⟩
  refine ⟨fun e he => ?_, ?_, ?_⟩
  · obtain ⟨p, -, -, hsource⟩ := exists_of_forall₂ hbuilt.flip he
    exact hsource
  · have hmap : Forall₂ Eq (map (fun p : Task × Attempt => (x.2.run.id, p.1.id)) _)
        (es.map PlanningEntry.key) :=
      forall₂_map_left_iff.2 (forall₂_map_right_iff.2 (hbuilt.imp fun _ _ h => h.1))
    rw [forall₂_eq_eq_eq] at hmap
    rw [← hmap]
    refine (filter_sublist.map _).nodup ?_
    have hpairs := hids.map (f := fun id => (x.2.run.id, id)) fun _ _ h => (Prod.mk.inj h).2
    rwa [map_map] at hpairs ⊢
  · rw [← length_eq_zero_iff, ← hbuilt.length_eq, length_eq_zero_iff, filter_eq_nil_iff]
    simp [hasOpenTask]

theorem workflowEntries_spec {w : PlanningWorkflow} (h : workflowEntries input w = .ok es) :
    ∃ x, w.executed = some x ∧ x.2.run.id = w.state.run.id ∧ listing input x = es ∧
      (∀ e ∈ es, e.source = x) ∧ (es.map PlanningEntry.key).Nodup ∧
      (es = [] ↔ hasOpenTask x = false) := by
  unfold workflowEntries at h
  split at h
  · cases h
  · next s hs =>
    have hids := ((perm_insertionSort Task.before s.tasks).map Task.id).nodup_iff.2
      (DAGState.newDAGExecution_ok hs).1.taskIDs
    have hrun := newDAGExecution_run hs
    refine ⟨(w.workflow, s.snapshot), ?_, hrun, ?_, planningEntries_spec h hids⟩
    · rw [PlanningWorkflow.executed, hs]
      rfl
    · rw [listing, h]
      rfl

/-- Each run of a plan can be refreshed, and its open tasks have a history. -/
def Plannable (input : PlanInput) (workflows : List PlanningWorkflow) : Prop :=
  ∀ w ∈ workflows, ∃ es, workflowEntries input w = .ok es

variable {workflows : List PlanningWorkflow}

theorem mapM_workflowEntries (h : Plannable input workflows) :
    ∃ listed, workflows.mapM (workflowEntries input) = .ok listed ∧
      listed.flatten = (openRuns workflows).flatMap (listing input) := by
  induction workflows with
  | nil => exact ⟨[], rfl, rfl⟩
  | cons w workflows ih =>
    obtain ⟨es, hes⟩ := h w mem_cons_self
    obtain ⟨listed, hlisted, hflat⟩ := ih fun w hw => h w (mem_cons_of_mem _ hw)
    obtain ⟨x, hx, -, hlisting, -, -, hnil⟩ := workflowEntries_spec hes
    refine ⟨es :: listed, ?_, ?_⟩
    · rw [mapM_cons, hes, hlisted]
      rfl
    · rw [flatten_cons, hflat]
      unfold openRuns
      rw [filterMap_cons_some hx, filter_cons]
      split_ifs with hopen
      · rw [flatMap_cons, hlisting]
      · rw [hnil.2 (Bool.not_eq_true _ ▸ hopen), nil_append]

theorem orderedPlanningTasks_ok_iff {entries : List PlanningEntry} :
    orderedPlanningTasks input = .ok entries ↔ Plannable input input.workflows ∧
      inRounds ((openRuns input.workflows).flatMap (listing input)) = entries := by
  constructor
  · intro h
    obtain ⟨listed, hlisted, h⟩ := of_bind h
    have hok : Plannable input input.workflows := fun w hw => by
      obtain ⟨es, -, hes⟩ := exists_of_forall₂ (mapM_ok_iff.1 hlisted) hw
      exact ⟨es, hes⟩
    obtain ⟨listed', hlisted', hflat⟩ := mapM_workflowEntries hok
    obtain rfl : listed = listed' := Except.ok.inj (hlisted.symm.trans hlisted')
    rw [← hflat]
    exact ⟨hok, Except.ok.inj h⟩
  · rintro ⟨hok, rfl⟩
    obtain ⟨listed, hlisted, hflat⟩ := mapM_workflowEntries hok
    rw [orderedPlanningTasks, hlisted, ← hflat]
    rfl

variable (hok : Plannable input workflows)

include hok

theorem openRuns_ids (hruns : (workflows.map (·.state.run.id)).Nodup) :
    ((openRuns workflows).map (·.2.run.id)).Nodup := by
  refine (filter_sublist.map _).nodup ?_
  suffices h : (workflows.filterMap PlanningWorkflow.executed).map (·.2.run.id) =
      workflows.map (·.state.run.id) by
    rw [h]
    exact hruns
  clear hruns
  induction workflows with
  | nil => rfl
  | cons w workflows ih =>
    obtain ⟨es, hes⟩ := hok w mem_cons_self
    obtain ⟨x, hx, hid, -⟩ := workflowEntries_spec hes
    rw [filterMap_cons_some hx, map_cons, map_cons, hid, ih fun w hw => hok w (mem_cons_of_mem _ hw)]

theorem openRun_spec {x : Workflow × DAGState} (hx : x ∈ openRuns workflows) :
    (∀ e ∈ listing input x, e.source = x) ∧ ((listing input x).map PlanningEntry.key).Nodup ∧
      listing input x ≠ [] := by
  obtain ⟨hx, hopen⟩ := mem_filter.1 hx
  obtain ⟨w, hw, hexecuted⟩ := mem_filterMap.1 hx
  obtain ⟨es, hes⟩ := hok w hw
  obtain ⟨x', hx', -, rfl, hsource, hkeys, hnil⟩ := workflowEntries_spec hes
  obtain rfl : x' = x := Option.some.inj (hx'.symm.trans hexecuted)
  refine ⟨hsource, hkeys, fun h => ?_⟩
  rw [hnil.1 h] at hopen
  cases hopen

/-- Runs that are listed once give entries that are told apart. -/
theorem listed_keys (hruns : (workflows.map (·.state.run.id)).Nodup) :
    (((openRuns workflows).flatMap (listing input)).map PlanningEntry.key).Nodup := by
  rw [map_flatMap, nodup_flatMap]
  refine ⟨fun x hx => (openRun_spec hok hx).2.1,
    (pairwise_map.1 (openRuns_ids hok hruns)).imp_of_mem fun hx hy hne k hk hk' => hne ?_⟩
  obtain ⟨e, he, rfl⟩ := mem_map.1 hk
  obtain ⟨e', he', hkey⟩ := mem_map.1 hk'
  rw [← (openRun_spec hok hx).1 e he, ← (openRun_spec hok hy).1 e' he']
  exact (Prod.mk.inj hkey).1.symm

theorem mem_openRuns_iff {x : Workflow × DAGState} : x ∈ openRuns workflows ↔
    x ∈ ((openRuns workflows).flatMap (listing input)).map PlanningEntry.source := by
  rw [mem_map]
  constructor
  · intro hx
    obtain ⟨hsource, -, hne⟩ := openRun_spec hok hx
    obtain ⟨e, he⟩ := exists_mem_of_ne_nil _ hne
    exact ⟨e, mem_flatMap.2 ⟨x, hx, he⟩, hsource e he⟩
  · rintro ⟨e, he, rfl⟩
    obtain ⟨y, hy, he⟩ := mem_flatMap.1 he
    rwa [(openRun_spec hok hy).1 e he]

end

/-! ## Rounds -/

section

variable {entries entries' : List PlanningEntry} (runID : String)

theorem withRounds_map {α : Type} (f : PlanningEntry → α)
    (hf : ∀ e n, f { e with order := { e.order with workflowRound := n } } = f e) :
    (withRounds entries runID).map f ~ (entries.filter fun e => e.state.run.id = runID).map f := by
  have hrounds : f ∘ (fun e : PlanningEntry × Nat =>
      { e.1 with order := { e.1.order with workflowRound := e.2 } }) = f ∘ Prod.fst :=
    funext fun e => hf e.1 e.2
  rw [withRounds, map_map, hrounds, ← map_map, zipIdx_map_fst]
  exact (perm_insertionSort _ _).map f

theorem withRounds_run {e : PlanningEntry} (he : e ∈ withRounds entries runID) :
    e.state.run.id = runID := by
  have he := mem_map_of_mem (f := fun e : PlanningEntry => e.state.run.id) he
  rw [(withRounds_map runID _ fun _ _ => rfl).mem_iff] at he
  obtain ⟨e', he', heq⟩ := mem_map.1 he
  rw [← heq]
  exact of_decide_eq_true (mem_filter.1 he').2

theorem mem_inRounds_iff {x : Workflow × DAGState} :
    x ∈ (inRounds entries).map PlanningEntry.source ↔ x ∈ entries.map PlanningEntry.source := by
  have hmem : ∀ runID, x ∈ (withRounds entries runID).map PlanningEntry.source ↔
      x ∈ (entries.filter fun e => e.state.run.id = runID).map PlanningEntry.source :=
    fun runID => (withRounds_map runID PlanningEntry.source fun _ _ => rfl).mem_iff
  rw [inRounds, ((perm_insertionSort _ _).map _).mem_iff, map_flatMap, mem_flatMap]
  simp only [hmem, mem_map, mem_filter, mem_dedup, decide_eq_true_eq]
  constructor
  · rintro ⟨_, -, e, ⟨he, -⟩, hx⟩
    exact ⟨e, he, hx⟩
  · rintro ⟨e, he, hx⟩
    exact ⟨_, ⟨e, he, rfl⟩, e, ⟨he, rfl⟩, hx⟩

variable (hkeys : (entries.map PlanningEntry.key).Nodup)

include hkeys

theorem withRounds_eq_of_perm (hperm : entries ~ entries') :
    withRounds entries runID = withRounds entries' runID := by
  unfold withRounds
  rw [insertionSort_eq_of_perm PlanningEntry.beforeInWorkflow_eq (hperm.filter _)
    fun a ha b hb htie => ?_]
  rw [mem_filter, decide_eq_true_eq] at ha hb
  exact inj_on_of_nodup_map hkeys ha.1 hb.1
    (Prod.ext (ha.2.trans hb.2.symm) (PlanningEntry.task_of_tie htie))

theorem rounds_keys {runs : List String} (hruns : runs.Nodup) :
    ((runs.flatMap (withRounds entries)).map PlanningEntry.key).Nodup := by
  rw [map_flatMap, nodup_flatMap]
  refine ⟨fun runID _ => ?_, hruns.imp fun hne k hk hk' => hne ?_⟩
  · rw [(withRounds_map runID PlanningEntry.key fun _ _ => rfl).nodup_iff]
    exact (filter_sublist.map _).nodup hkeys
  · obtain ⟨e, he, rfl⟩ := mem_map.1 hk
    obtain ⟨e', he', hkey⟩ := mem_map.1 hk'
    rw [← withRounds_run _ he, ← withRounds_run _ he']
    exact (Prod.mk.inj hkey).1.symm

theorem inRounds_eq_of_perm (hperm : entries ~ entries') : inRounds entries = inRounds entries' := by
  refine insertionSort_eq_of_perm PlanningEntry.before_eq ?_ fun a ha b hb htie =>
    inj_on_of_nodup_map (rounds_keys hkeys (nodup_dedup _)) ha hb (PlanningEntry.key_of_tie htie)
  have hrounds : withRounds entries = withRounds entries' :=
    funext fun runID => withRounds_eq_of_perm runID hkeys hperm
  rw [hrounds]
  exact (hperm.map fun e => e.state.run.id).dedup.flatMap_right _

end

def fixTask : Task :=
  { id := "3", name := "fix", workflowID := "w", needs := ["review"]
    needsVerdict := [("review", "changes-requested")] }

def againTask : Task :=
  { id := "4", name := "again", workflowID := "w", needs := ["build", "fix"], fixLoop := some {} }

/-- The review accepted, so that nothing is to be fixed, and the build failed. -/
def reviewedPlan (tasks : List Task) : PlanInput :=
  let attempt : Attempt := { workflowRunID := "r", number := 1, progress := .blocked }
  { now := 2, deadlineRiskWindow := 1
    ordering := [("5", { readySince := 1 })]
    workflows :=
      [{ workflow := { id := "w" }
         state :=
          { run := { id := "r", workflowID := "w" }
            tasks := [{ id := "1", name := "review", workflowID := "w", reviewOutput := true },
              { id := "2", name := "build", workflowID := "w" }] ++ tasks ++
              [{ id := "5", name := "next", workflowID := "w", needs := ["again"] }]
            attempts := [{ attempt with
                id := "1", taskID := "1", progress := .succeeded, reviewVerdict := some { verdict := "accept" } },
              { attempt with id := "2", taskID := "2", progress := .failed },
              { attempt with id := "3", taskID := "3" }, { attempt with id := "4", taskID := "4" },
              { attempt with id := "5", taskID := "5" }] } }] }

end Steward
