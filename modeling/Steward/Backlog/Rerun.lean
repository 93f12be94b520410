import Steward.Backlog.DagRuns
import Steward.Domain.SinkSettlement

/-!
# The scope of a rerun

`PlanRerun` of `internal/domain/rerun.go` divides a finished run at one task: the task and all that
depends on it run again, and the outputs of the others are reused, which have to have succeeded or
to be allowed as failed.
-/

namespace Steward

open Except List
open Relation (ReflTransGen)

structure RerunCommitOptions where
  failedAttempts : List (String × String) := []
deriving DecidableEq

structure RerunScope where
  «from» : Task := {}
  fromAttempt : Attempt := {}
  (rerun reuse : List Task := [])
deriving DecidableEq

def reusableState (attempt : Attempt) : String :=
  if attempt.progress = .unset then "never attempted" else attempt.progress.text

variable (run : WorkflowRun) (templates tasks : List Task) (attempts : List Attempt) (start : String)
  (commitOptions : List RerunCommitOptions)

/-- The highest-numbered attempt of a task in the run. -/
def lastAttempts (taskID : String) : Attempt := (currentAttempt run.id attempts taskID).getD {}

def commitReuse (taskID : String) (attempt : Attempt) : Bool :=
  match commitOptions with
  | [options] => attempt.progress = .failed ∧ attempt.id ≠ "" ∧
      (options.failedAttempts.lookup taskID).getD "" = attempt.id
  | _ => false

def reusable (t : Task) : Bool :=
  let attempt := lastAttempts run attempts t.id
  attempt.progress = .succeeded ∨ commitReuse commitOptions t.id attempt

def selectedNames (task : Task) : List String :=
  Graph.saturate Task.name DAGState.needsSelected tasks tasks.length [task.name]

def rerunFrom (task : Task) : Except Err RerunScope := do
  let selected := selectedNames tasks task
  let reuse := tasks.filter fun t => t.name ∉ selected
  let unusable := (reuse.filter fun t => !reusable run attempts commitOptions t).map fun t =>
    t.name ++ " is " ++ reusableState (lastAttempts run attempts t.id)
  refuseWhen (unusable ≠ [])
    { text := "a rerun from " ++ task.name ++ " would reuse " ++ toString unusable.length ++
        " task(s) that did not succeed: [" ++ " ".intercalate (unusable.insertionSort (· ≤ ·)) ++
        "]. Rerun from a task they all descend from instead" }
  return { «from» := task, fromAttempt := lastAttempts run attempts task.id
           rerun := tasks.filter fun t => t.name ∈ selected, reuse := reuse }

def planRerun : Except Err RerunScope := do
  refuseWhen (start = "") { text := "a rerun needs the task to start from" }
  refuseWhen (run.progress.terminal = false)
    { text := "the source run has not finished; a rerun scope read from a live run would be a guess. " ++
        "Wait for it, or cancel it with \"t3-steward campaign cancel <run>/<task> --reason TEXT\"" }
  let tasks := tasksForRun run templates
  refuseWhen (tasks = []) { text := "workflow run " ++ run.id ++ " has no task definitions to rerun" }
  match tasks.filter (·.answersTo start) with
  | [] => .error { text := "run " ++ run.id ++ " has no task " ++ quote start }
  | [task] => rerunFrom run tasks attempts commitOptions task
  | _ => .error { text := quote start ++ " names more than one task in run " ++ run.id }

/-! ## The cut -/

/-- The attempt of a reused task is its last in the run, and succeeded or is allowed by name. -/
def Usable (t : Task) (a : Attempt) : Prop :=
  IsLatestAttempt run.id attempts t.id a ∧ (a.progress = .succeeded ∨ a.progress = .failed ∧
    ∃ options, commitOptions = [options] ∧ options.failedAttempts.lookup t.id = some a.id)

structure RerunCut (scope : RerunScope) : Prop where
  start : scope.from ∈ tasks ∧ scope.from.answersTo start = true
  partition : scope.rerun ++ scope.reuse ~ tasks
  rerun : ∀ t, t ∈ scope.rerun ↔ t ∈ tasks ∧ ReflTransGen (Feeds tasks) scope.from.id t.id
  reuse : ∀ t, t ∈ scope.reuse ↔ t ∈ tasks ∧ ¬ReflTransGen (Feeds tasks) scope.from.id t.id
  closed : ∀ t ∈ scope.reuse, ∀ u ∈ tasks, u.name ∈ t.needs → u ∈ scope.reuse
  usable : ∀ t ∈ scope.reuse, ∃ a, Usable run attempts commitOptions t a

variable {run templates tasks attempts start commitOptions} {scope : RerunScope}

theorem usable_of_reusable {t : Task} (h : reusable run attempts commitOptions t = true) :
    ∃ a, Usable run attempts commitOptions t a := by
  unfold reusable lastAttempts commitReuse at h
  cases hlast : currentAttempt run.id attempts t.id with
  | none =>
    rw [hlast] at h
    split at h <;> simp at h
  | some a =>
    simp only [hlast, Option.getD_some, decide_eq_true_eq] at h
    refine ⟨a, currentAttempt_eq_some hlast, h.imp_right fun hreuse => ?_⟩
    split at hreuse
    · obtain ⟨hfailed, hid, hlookup⟩ := of_decide_eq_true hreuse
      refine ⟨hfailed, _, rfl, ?_⟩
      cases hfound : (List.lookup t.id _ : Option String) with
      | none => simp [hfound, hid.symm] at hlookup
      | some id => simpa [hfound] using hlookup
    · cases hreuse

theorem rerunFrom_ok (hids : (tasks.map Task.id).Nodup) (hnames : (tasks.map Task.name).Nodup)
    {task : Task} (htask : task ∈ tasks) (hstart : task.answersTo start = true)
    (h : rerunFrom run tasks attempts commitOptions task = .ok scope) :
    RerunCut run tasks attempts start commitOptions scope := by
  obtain ⟨hunusable, h⟩ := of_guard h
  cases h
  have hselected : ∀ t ∈ tasks, t.name ∈ selectedNames tasks task ↔
    ReflTransGen (Feeds tasks) task.id t.id := by
    intro t ht
    have hwalk : t.name ∈ DAGState.descendantNames { tasks := tasks } task.name ↔ _ :=
      DAGState.mem_descendantNames_iff hids htask
    rw [DAGState.descendantNames, mem_insertionSort] at hwalk
    rw [selectedNames, hwalk]
    constructor
    · rintro ⟨u, hu, hname, hreach⟩
      rwa [← inj_on_of_nodup_map hnames hu ht hname]
    · exact fun hreach => ⟨t, ht, rfl, hreach⟩
  have hreuse : ∀ t, t ∈ tasks.filter (fun t => t.name ∉ selectedNames tasks task) ↔
      t ∈ tasks ∧ ¬ReflTransGen (Feeds tasks) task.id t.id := by
    intro t
    rw [mem_filter, decide_eq_true_eq]
    exact and_congr_right fun ht => not_congr (hselected t ht)
  refine ⟨⟨htask, hstart⟩, ?_, fun t => ?_, hreuse, fun t ht u hu hneed => ?_, fun t ht => ?_⟩
  · simpa using filter_append_perm (fun t : Task => decide (t.name ∈ _)) tasks
  · rw [mem_filter, decide_eq_true_eq]
    exact and_congr_right fun ht => hselected t ht
  · obtain ⟨ht, hout⟩ := (hreuse t).1 ht
    exact (hreuse u).2 ⟨hu, fun hreach => hout (hreach.tail ⟨u, hu, t, ht, rfl, rfl, hneed⟩)⟩
  · refine usable_of_reusable ?_
    by_contra hnot
    refine hunusable ?_
    simp only [ne_eq, map_eq_nil_iff, filter_eq_nil_iff, not_forall]
    exact ⟨t, ht, by simpa using hnot⟩

theorem planRerun_ok (hids : ((tasksForRun run templates).map Task.id).Nodup)
    (hnames : ((tasksForRun run templates).map Task.name).Nodup)
    (h : planRerun run templates attempts start commitOptions = .ok scope) :
    RerunCut run (tasksForRun run templates) attempts start commitOptions scope ∧
      (tasksForRun run templates).filter (·.answersTo start) = [scope.from] := by
  iterate 3 replace h := past_guard h
  split at h
  · cases h
  · rename_i task hfilter
    obtain ⟨htask, hstart⟩ : task ∈ tasksForRun run templates ∧ task.answersTo start = true :=
      mem_filter.1 (hfilter ▸ mem_singleton_self task)
    refine ⟨rerunFrom_ok hids hnames htask hstart h, hfilter.trans ?_⟩
    obtain ⟨-, h⟩ := of_guard h
    cases h
    rfl
  · cases h

/-- A rerun cuts the run below its start, and the cut is the same for every order of tasks and
attempts. -/
theorem planRerun_cuts (run : WorkflowRun) (templates : List Task) (attempts : List Attempt)
    (start : String) (commitOptions : List RerunCommitOptions) (scope : RerunScope)
    (hids : ((tasksForRun run templates).map Task.id).Nodup)
    (hnames : ((tasksForRun run templates).map Task.name).Nodup)
    (h : planRerun run templates attempts start commitOptions = .ok scope) :
    RerunCut run (tasksForRun run templates) attempts start commitOptions scope ∧
      ∀ run' templates' attempts' scope', tasksForRun run' templates' ~ tasksForRun run templates →
        planRerun run' templates' attempts' start commitOptions = .ok scope' →
        ∀ t, (t ∈ scope'.rerun ↔ t ∈ scope.rerun) ∧ (t ∈ scope'.reuse ↔ t ∈ scope.reuse) := by
  obtain ⟨hcut, hfrom⟩ := planRerun_ok hids hnames h
  refine ⟨hcut, fun run' templates' attempts' scope' hperm h' t => ?_⟩
  obtain ⟨hcut', hfrom'⟩ := planRerun_ok ((hperm.map _).nodup_iff.2 hids)
    ((hperm.map _).nodup_iff.2 hnames) h'
  have hsame : scope'.from = scope.from := by
    have := hperm.filter (·.answersTo start)
    rw [hfrom, hfrom', perm_singleton] at this
    exact (cons.inj this).1
  have hfeeds : Feeds (tasksForRun run' templates') = Feeds (tasksForRun run templates) := by
    funext a b
    simp only [Feeds, hperm.mem_iff]
  rw [hcut.rerun, hcut'.rerun, hcut.reuse, hcut'.reuse, hsame, hfeeds, hperm.mem_iff]
  exact ⟨Iff.rfl, Iff.rfl⟩

def rerunTasks : List Task :=
    [{ id := "1", name := "build" }, { id := "2", name := "test", needs := ["build"] }]

def builtAttempt : Attempt := { id := "a", workflowRunID := "r", taskID := "1", progress := .succeeded }

theorem planRerun_from_test :
    RerunCut { id := "r", graph := some rerunTasks, progress := .failed } rerunTasks [builtAttempt] "test" []
      { «from» := { id := "2", name := "test", needs := ["build"] }
        rerun := [{ id := "2", name := "test", needs := ["build"] }]
        reuse := [{ id := "1", name := "build" }] } :=
  (planRerun_cuts _ [] _ _ _ _ (by decide) (by decide) (by decide)).1

end Steward
