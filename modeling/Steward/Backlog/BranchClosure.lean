import Steward.Backlog.DagRuns
import Steward.Store.SupervisionAmendment

/-!
# Two walks below a task

`supervisionBranchClosure` reads what a task needs as a name and as an identity, the graph execution
only as a name. They meet the same tasks unless an identity is the name of another task.
-/

namespace Steward

open List
open Relation (ReflTransGen)

theorem supervisionBranchClosure_exact_iff {s : DAGState} (h : SoundGraph s.tasks) {root : Task}
    (hroot : root ∈ s.tasks) (htrim : Text.trim root.id = root.id) (hid : root.id ≠ "") :
    (∃ branch, supervisionBranchClosure s.tasks root.id = some branch ∧ branch.Nodup ∧
        (∀ id, id ∈ branch ↔ ReflTransGen (Feeds s.tasks) root.id id) ∧
        ∀ name, name ∈ s.descendantNames root.name ↔ ∃ t ∈ s.tasks, t.name = name ∧ t.id ∈ branch) ↔
      ∀ t ∈ s.tasks, ∀ u ∈ s.tasks, u.id ∈ t.needs → ReflTransGen (Feeds s.tasks) root.id u.id →
        ReflTransGen (Feeds s.tasks) root.id t.id := by
  have hstart : branchRoot s.tasks root.id = some root.id := by
    simp only [branchRoot, htrim, if_neg hid, if_pos (mem_map_of_mem hroot)]
  have hwalk : ∀ id, (∃ branch, supervisionBranchClosure s.tasks root.id = some branch ∧ id ∈ branch) ↔
      ReflTransGen (Below s.tasks) root.id id := fun id => by
    simp [mem_supervisionBranchClosure_iff, hstart]
  constructor
  · rintro ⟨branch, hbranch, -, hexact, -⟩ t ht u hu hneed hreach
    simp only [hbranch, Option.some.injEq, exists_eq_left', hexact] at hwalk
    rw [hwalk] at hreach ⊢
    exact hreach.tail ⟨t, ht, rfl, u.id, hneed, .inr rfl⟩
  · intro hneeds
    have hreach : ∀ id, ReflTransGen (Below s.tasks) root.id id ↔
      ReflTransGen (Feeds s.tasks) root.id id := by
      refine fun id => ⟨fun hpath => (feeds_of_below h (mem_map_of_mem hroot) hneeds hpath).1,
        ReflTransGen.mono ?_ _ _⟩
      rintro _ _ ⟨u, hu, t, ht, rfl, rfl, hneed⟩
      exact ⟨t, ht, rfl, u.name, hneed, .inl (by rw [idByName_of_mem h.names hu]; rfl)⟩
    obtain ⟨branch, hbranch, hnodup⟩ : ∃ branch,
        supervisionBranchClosure s.tasks root.id = some branch ∧ branch.Nodup := by
      rw [supervisionBranchClosure, hstart]
      exact ⟨_, rfl, (perm_insertionSort _ _).nodup_iff.2 (Graph.nodup_saturate (nodup_singleton _))⟩
    simp only [hbranch, Option.some.injEq, exists_eq_left', hreach] at hwalk
    refine ⟨branch, hbranch, hnodup, hwalk, fun name => ?_⟩
    simp only [DAGState.mem_descendantNames_iff h.ids hroot, hwalk]

def shadowedTasks : List Task :=
  (reviewedTasks ["review"] 0).flatMap fun t =>
    if t.name = "review" then [t, { t with id := "review", name := "other" }] else [t]

theorem supervisionBranchClosure_shadowed :
    validateGraphTasks { workflowID := "w" } shadowedTasks = .ok () ∧
    supervisionBranchClosure shadowedTasks "review" = some ["2", "review"] ∧
      DAGState.descendantNames { tasks := shadowedTasks } "other" = ["other"] := by
  decide

theorem supervisionBranchClosure_exact_iff_reviewed : ∃ branch,
    supervisionBranchClosure (reviewedTasks ["review"] 0) "1" = some branch ∧ branch.Nodup ∧
      (∀ id, id ∈ branch ↔ ReflTransGen (Feeds (reviewedTasks ["review"] 0)) "1" id) ∧
      ∀ name, name ∈ DAGState.descendantNames { tasks := reviewedTasks ["review"] 0 } "review" ↔
        ∃ t ∈ reviewedTasks ["review"] 0, t.name = name ∧ t.id ∈ branch :=
  (supervisionBranchClosure_exact_iff (s := { tasks := reviewedTasks ["review"] 0 })
    (validateGraphTasks_sound (by decide : validateGraphTasks { workflowID := "w" } _ = .ok ()))
    (.head _)
    (by decide) (by decide)).2 (by simp [reviewedTasks, graphTask])

end Steward
