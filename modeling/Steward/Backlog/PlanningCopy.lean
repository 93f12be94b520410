import Mathlib.Data.List.Basic

/-!
# Copies of planning tasks

`clonePlanningTask` of `internal/backlog/planner.go`. The router's `clonePlanningTask` is its effect
on values, which do not show what a copy shares with its original; here a task is given with the
objects its fields lead to, each under its address.
-/

namespace Steward

open List

/-- The fields of a task that hold a reference. -/
inductive TaskReference
  | needsVerdict | fixLoop | roleSelection | reviewOutput | reviewRequirements | directoryBindings
  | externalNeeds | needs | inputArtifactIDs | dependencyInputs | carriedInputs | context | outputs
  | verification | gate | hosts | capabilities | preflight | routes | resourceLocks | estimatedCost
  | retry | notBefore | deadline | expiresAt
deriving DecidableEq

/-- An object that a field leads to: through which references of the objects before it, where it is,
whether it is a slice or a map, and what it holds beside references. Nil and a slice without
elements are no object. -/
structure TaskObject where
  path : List String := []
  address : Nat := 0
  container : Bool := true
  words : List String := []
deriving DecidableEq

def TaskObject.contents (o : TaskObject) : List String × Bool × List String := (o.path, o.container, o.words)

/-- A task in memory. The fields that hold no reference are `plain`. -/
structure HeapTask (π : Type) where
  plain : π
  objects : TaskReference → List TaskObject

/-- How many references deep a field is copied. -/
def TaskReference.copied : TaskReference → Nat
  | .roleSelection | .externalNeeds | .carriedInputs | .context | .gate | .preflight | .retry => 0
  | .directoryBindings | .routes => 2
  | .reviewRequirements => 3
  | _ => 1

namespace HeapTask

variable {π : Type} (fresh : Nat) (t : HeapTask π)

def copyObjects (depth : Nat) (objects : List TaskObject) : List TaskObject :=
  objects.map fun o => if o.path.length < depth then { o with address := o.address + fresh } else o

def clonePlanningTask : HeapTask π :=
  { t with
    objects := fun f =>
      if f = .dependencyInputs then
        -- the loop that fills the new map ranges over the new map
        ((t.objects f).filter fun o => o.path = []).map fun o =>
          { o with address := o.address + fresh, words := [] }
      else copyObjects fresh f.copied (t.objects f) }

/-- A copy that is equal in every field and has no slice or map in common with the original. -/
structure FaithfulCopy (t t' : HeapTask π) : Prop where
  plain : t'.plain = t.plain
  equal : ∀ f, (t'.objects f).map TaskObject.contents = (t.objects f).map TaskObject.contents
  separate : ∀ f g, ∀ o' ∈ t'.objects f, ∀ o ∈ t.objects g, o'.container = true →
    o'.address ≠ o.address

variable {fresh t} {f : TaskReference} {o' : TaskObject}

theorem contents_copyObjects (depth : Nat) (objects : List TaskObject) :
    (copyObjects fresh depth objects).map TaskObject.contents = objects.map TaskObject.contents := by
  rw [copyObjects, map_map]
  refine map_congr_left fun o _ => ?_
  rw [Function.comp_apply]
  split_ifs <;> rfl

/-- An object of the copy is new, or was left where it was. -/
theorem mem_clonePlanningTask (h : o' ∈ (clonePlanningTask fresh t).objects f) :
    (∃ o ∈ t.objects f, o'.address = o.address + fresh) ∨
      o' ∈ t.objects f ∧ f ≠ .dependencyInputs ∧ f.copied ≤ o'.path.length := by
  unfold clonePlanningTask copyObjects at h
  dsimp only at h
  split_ifs at h with hf
  · obtain ⟨o, ho, rfl⟩ := mem_map.1 h
    exact .inl ⟨o, (mem_filter.1 ho).1, rfl⟩
  · obtain ⟨o, ho, rfl⟩ := mem_map.1 h
    split_ifs with hdepth
    · exact .inl ⟨o, ho, rfl⟩
    · exact .inr ⟨ho, hf, Nat.not_lt.1 hdepth⟩

/-- The copy loses all dependency inputs, and shares the slices and maps below the depth to which a
field is copied. -/
theorem clonePlanningTask_faithful_iff (t : HeapTask π) (fresh : Nat)
    (hfresh : ∀ f, ∀ o ∈ t.objects f, o.address < fresh) :
    FaithfulCopy t (clonePlanningTask fresh t) ↔
      (∀ o ∈ t.objects .dependencyInputs, o.path = [] ∧ o.words = []) ∧ ∀ f ≠ .dependencyInputs,
        ∀ o ∈ t.objects f, o.container = true → o.path.length < f.copied := by
  constructor
  · intro h
    refine ⟨fun o ho => ?_, fun f hf o ho hcontainer => ?_⟩
    · have hmem := mem_map_of_mem ho (f := TaskObject.contents)
      rw [← h.equal] at hmem
      simp only [clonePlanningTask, if_true, map_map, mem_map, mem_filter, decide_eq_true_eq] at hmem
      obtain ⟨made, ⟨-, hpath⟩, hcontents⟩ := hmem
      have heq := Prod.mk.inj hcontents
      exact ⟨heq.1.symm.trans hpath, (Prod.mk.inj heq.2).2.symm⟩
    · by_contra hdeep
      refine h.separate f f o ?_ o ho hcontainer rfl
      simp only [clonePlanningTask, if_neg hf, copyObjects, mem_map]
      exact ⟨o, ho, if_neg hdeep⟩
  · rintro ⟨hinputs, hcopied⟩
    refine ⟨rfl, fun f => ?_, fun f g o' ho' o ho hcontainer heq => ?_⟩
    · unfold clonePlanningTask
      dsimp only
      split_ifs with hf
      · subst hf
        rw [filter_eq_self.2 fun o ho => decide_eq_true (hinputs o ho).1, map_map]
        refine map_congr_left fun o ho => ?_
        rw [Function.comp_apply, TaskObject.contents, TaskObject.contents, (hinputs o ho).2]
      · exact contents_copyObjects _ _
    · have hbound := hfresh g o ho
      rcases mem_clonePlanningTask ho' with ⟨old, -, hnew⟩ | ⟨hold, hf, hdeep⟩
      · omega
      · have := hcopied f hf o' hold hcontainer
        omega

def taskWith (f : TaskReference) (objects : List TaskObject) : HeapTask Unit :=
  ⟨(), fun g => if g = f then objects else []⟩

def reportReader : HeapTask Unit :=
  taskWith .dependencyInputs
    [{ address := 1, words := ["build"] }, { path := ["build"], address := 2, words := ["report"] }]

/-- The copy of a task that reads the report of its build reads nothing. -/
theorem clonePlanningTask_loses_inputs :
    (clonePlanningTask 8 reportReader).objects .dependencyInputs = [{ address := 9 }] ∧
      ¬FaithfulCopy reportReader (clonePlanningTask 8 reportReader) :=
  ⟨by decide, fun h => absurd (h.equal .dependencyInputs) (by decide)⟩

/-- A task with options on its route and a panel of reviewers. -/
def reviewedTask : HeapTask Unit where
  plain := ()
  objects
    | .needs => [{ address := 1, words := ["build"] }]
    | .routes => [{ address := 2, words := ["m"] },
        { path := ["options"], address := 3, words := ["effort"] }]
    | .reviewRequirements =>
      [{ address := 4, container := false }, { path := ["members"], address := 5, words :=
        ["lens"] }, { path := ["members", "options"], address := 6, words := ["effort"] }]
    | _ => []

theorem clonePlanningTask_of_reviewed : FaithfulCopy reviewedTask
    (clonePlanningTask 8 reviewedTask) := by
  refine (clonePlanningTask_faithful_iff _ 8 fun f => ?_).2 ⟨by decide, fun f => ?_⟩
  · cases f <;> decide
  · cases f <;> decide

end HeapTask

end Steward
