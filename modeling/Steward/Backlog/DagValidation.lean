import Steward.Backlog.Dag
import Steward.Domain.Amendment
import Steward.Lib.Runs

/-!
# What the graph of a run is validated for

The checks of `indexAndValidate`, as conditions on the tasks and attempts that do not depend on
their order. An amended graph meets them up to the verdicts its tasks wait for, which amending does
not look at.
-/

namespace Steward

open Except List
open Relation (TransGen)

variable {run : WorkflowRun} {tasks : List Task} {t : Task} {attempts : List Attempt}

theorem validateDAGTasks_ok_iff : validateDAGTasks run tasks 0 [] = .ok () ↔
    (∀ t ∈ tasks, t.id ≠ "" ∧ t.name ≠ "" ∧ t.workflowID = run.workflowID) ∧
      (tasks.map Task.id).Nodup ∧ (tasks.map Task.name).Nodup := by
  rw [scan_ok_iff (f := validateDAGTasks run)
    (p := fun t => t.id ≠ "" ∧ t.name ≠ "" ∧ t.workflowID = run.workflowID)
    (R := fun u t => u.id ≠ t.id ∧ u.name ≠ t.name) (fun _ _ => rfl) fun t l i seen => ?_]
  · simp [nodup_iff_pairwise_ne, pairwise_map, pairwise_and_iff]
  · simp only [validateDAGTasks, if_error_eq_ok_iff]
    simp [forall_and, and_assoc]

theorem validateDAGNeeds_ok_iff {needs : List String} : validateDAGNeeds tasks t needs [] = .ok () ↔
    (∀ need ∈ needs, need ≠ t.name ∧ need ∈ tasks.map Task.name) ∧ needs.Nodup := by
  rw [scan_ok_iff (f := fun l _ seen => validateDAGNeeds tasks t l seen) (i := 0)
    (p := fun need => need ≠ t.name ∧ need ∈ tasks.map Task.name) (R := (· ≠ ·))
    (fun _ _ => rfl) fun need l i seen => ?_]
  · simp [nodup_iff_pairwise_ne]
  · simp only [validateDAGNeeds, if_error_eq_ok_iff]
    simp [taskByName, and_assoc, forall_mem_ne']

theorem validateDAGVerdicts_ok_iff {verdicts : List (String × String)} :
    validateDAGVerdicts tasks t verdicts = .ok () ↔ ∀ v ∈ verdicts, v.1 ∈ t.needs ∧
      (v.2 = "accept" ∨ v.2 = "changes-requested") ∧ (taskByName tasks v.1).any (·.reviewOutput) := by
  induction verdicts with
  | nil => simp [validateDAGVerdicts]
  | cons v verdicts ih =>
    rw [validateDAGVerdicts, if_error_eq_ok_iff, if_error_eq_ok_iff, if_error_eq_ok_iff, ih,
      forall_mem_cons]
    tauto

theorem validateDAGAttempts_ok_iff : validateDAGAttempts run tasks attempts 0 [] = .ok () ↔
    (∀ a ∈ attempts, a.id ≠ "" ∧ a.workflowRunID = run.id ∧ a.taskID ∈ tasks.map Task.id ∧ 1 ≤ a.number) ∧
      attempts.Pairwise fun a b => a.id ≠ b.id ∧ ¬(a.taskID = b.taskID ∧ a.number = b.number) := by
  rw [scan_ok_iff (f := validateDAGAttempts run tasks)
    (p := fun a => a.id ≠ "" ∧ a.workflowRunID = run.id ∧ a.taskID ∈ tasks.map Task.id ∧ 1 ≤ a.number)
    (R := fun a b => a.id ≠ b.id ∧ ¬(a.taskID = b.taskID ∧ a.number = b.number))
    (fun _ _ => rfl) fun a l i seen => ?_]
  · simp
  · simp only [validateDAGAttempts, if_error_eq_ok_iff]
    simp [forall_and]
    tauto

/-- What is below a task in the walk of `validateAcyclic`. -/
def dagBelow (tasks : List Task) (name : String) : Option (List String) :=
  some (((taskByName tasks name).getD {}).needs.insertionSort (· ≤ ·))

theorem visitTask_searches (tasks : List Task) : Graph.Searches (dagBelow tasks)
    fun n path done name => visitTask tasks n name path done := by
  refine ⟨nofun, fun n path done name done' => ?_⟩
  simp only [visitTask, dagBelow, if_error_eq_ok_iff]
  split_ifs with hdone <;> simp [hdone, bind_eq_ok_iff]

theorem leads_dagBelow_iff {name need : String} :
    Graph.Leads (dagBelow tasks) name need ↔ NameNeeds tasks name need := by
  simp only [Graph.Leads, dagBelow, NameNeeds, taskByName, taskNamed]
  cases tasks.find? fun t => t.name = name <;> simp

theorem validateAcyclic_ok_iff (hneeds : ∀ t ∈ tasks, t.needs ⊆ tasks.map Task.name) :
    validateAcyclic tasks = .ok () ↔ ∀ name, ¬TransGen (NameNeeds tasks) name name := by
  have hall := (visitTask_searches tasks).all_ok_iff (l := tasks.map Task.name)
    (fun _ => mem_insertionSort (· ≤ ·)) fun name _ need hneed _ => by
      obtain ⟨t, ht, hneed⟩ := leads_dagBelow_iff.1 hneed
      exact hneeds t (mem_of_find?_eq_some ht) hneed
  have hrel : Graph.Leads (dagBelow tasks) = NameNeeds tasks := by
    funext name need
    exact propext leads_dagBelow_iff
  rw [length_map, hrel] at hall
  have hok : validateAcyclic tasks = .ok () ↔ ∃ done,
    ((tasks.map Task.name).insertionSort (· ≤ ·)).foldlM
      (fun visited name => visitTask tasks (tasks.length + 1) name [] visited) [] = .ok done := by
    simp [validateAcyclic, bind_eq_ok_iff]
  rw [hok, hall]
  constructor
  · rintro ⟨-, hacyclic⟩ name hcycle
    obtain ⟨_, ⟨t, ht, -⟩, -⟩ := TransGen.head'_iff.1 hcycle
    exact hacyclic name (mem_names_of_taskNamed ht) hcycle
  · refine fun hacyclic => ⟨fun name hname => ⟨_, rfl, ?_⟩, fun name _ => hacyclic name⟩
    intro need hneed
    obtain ⟨t, ht, hneed⟩ := leads_dagBelow_iff.1 ⟨_, rfl, hneed⟩
    exact hneeds t (mem_of_find?_eq_some ht) hneed

/-- A task waits for verdicts of reviews that it needs. -/
def VerdictsAccepted (tasks : List Task) (t : Task) : Prop :=
  ∀ v ∈ t.needsVerdict, v.1 ∈ t.needs ∧ (v.2 = "accept" ∨ v.2 = "changes-requested") ∧
    ∃ producer ∈ tasks, producer.name = v.1 ∧ producer.reviewOutput

/-- The checks of the tasks. -/
structure TasksAccepted (run : WorkflowRun) (tasks : List Task) : Prop where
  fields : ∀ t ∈ tasks, t.id ≠ "" ∧ t.name ≠ "" ∧ t.workflowID = run.workflowID
  ids : (tasks.map Task.id).Nodup
  names : (tasks.map Task.name).Nodup
  needs : ∀ t ∈ tasks, t.needs.Nodup ∧ t.needs ⊆ tasks.map Task.name
  verdicts : ∀ t ∈ tasks, VerdictsAccepted tasks t
  acyclic : ∀ name, ¬TransGen (NameNeeds tasks) name name

/-- The part of `indexAndValidate` that looks at the tasks. -/
def validateTasks (run : WorkflowRun) (tasks : List Task) : Except Err Unit := do
  validateDAGTasks run tasks 0 []
  tasks.forM fun task => do
    validateDAGNeeds tasks task task.needs []
    validateDAGVerdicts tasks task task.needsVerdict
  validateAcyclic tasks

theorem taskByName_any_iff (hnames : (tasks.map Task.name).Nodup) {name : String}
    {p : Task → Bool} : (taskByName tasks name).any p ↔ ∃ t ∈ tasks, t.name = name ∧ p t := by
  constructor
  · cases h : taskByName tasks name with
    | none => simp
    | some t => exact fun hp => ⟨t, mem_of_find?_eq_some h, by simpa using find?_some h, hp⟩
  · rintro ⟨t, ht, rfl, hp⟩
    rw [show taskByName tasks t.name = some t from taskNamed_of_mem hnames ht]
    exact hp

theorem validateTasks_ok_iff : validateTasks run tasks = .ok () ↔ TasksAccepted run tasks := by
  simp only [validateTasks, check_eq_ok_iff, forM_ok_iff, validateDAGTasks_ok_iff,
    validateDAGNeeds_ok_iff, validateDAGVerdicts_ok_iff]
  constructor
  · rintro ⟨⟨hfields, hids, hnames⟩, htasks, hacyclic⟩
    have hneeds : ∀ t ∈ tasks, t.needs ⊆ tasks.map Task.name := fun t ht need hneed =>
      ((htasks t ht).1.1 need hneed).2
    refine ⟨hfields, hids, hnames, fun t ht => ⟨(htasks t ht).1.2, hneeds t ht⟩,
      fun t ht v hv => ?_, (validateAcyclic_ok_iff hneeds).1 hacyclic⟩
    obtain ⟨hneed, hverdict, hproducer⟩ := (htasks t ht).2 v hv
    exact ⟨hneed, hverdict, (taskByName_any_iff hnames).1 hproducer⟩
  · intro h
    refine ⟨⟨h.fields, h.ids, h.names⟩, fun t ht => ⟨⟨fun need hneed => ⟨?_, (h.needs t ht).2 hneed⟩,
      (h.needs t ht).1⟩, fun v hv => ?_⟩,
      (validateAcyclic_ok_iff fun t ht => (h.needs t ht).2).2 h.acyclic⟩
    · rintro rfl
      exact h.acyclic _ (.single ⟨t, taskNamed_of_mem h.names ht, hneed⟩)
    · obtain ⟨hneed, hverdict, hproducer⟩ := h.verdicts t ht v hv
      exact ⟨hneed, hverdict, (taskByName_any_iff h.names).2 hproducer⟩

theorem nameNeeds_iff (hnames : (tasks.map Task.name).Nodup) {name need : String} :
    NameNeeds tasks name need ↔ ∃ t ∈ tasks, t.name = name ∧ need ∈ t.needs := by
  constructor
  · rintro ⟨t, ht, hneed⟩
    exact ⟨t, mem_of_find?_eq_some ht, by simpa using find?_some ht, hneed⟩
  · rintro ⟨t, ht, rfl, hneed⟩
    exact ⟨t, taskNamed_of_mem hnames ht, hneed⟩

theorem TasksAccepted.perm {tasks' : List Task} (h : TasksAccepted run tasks)
    (hperm : tasks ~ tasks') : TasksAccepted run tasks' := by
  have hnames := (hperm.map Task.name).nodup_iff.1 h.names
  refine ⟨fun t ht => h.fields t (hperm.mem_iff.2 ht), (hperm.map Task.id).nodup_iff.1 h.ids, hnames,
    fun t ht => ?_, fun t ht v hv => ?_,
    fun name hcycle => h.acyclic name (TransGen.mono ?_ _ _ hcycle)⟩
  · obtain ⟨hnodup, hsub⟩ := h.needs t (hperm.mem_iff.2 ht)
    exact ⟨hnodup, fun need hneed => (hperm.map Task.name).mem_iff.1 (hsub hneed)⟩
  · obtain ⟨hneed, hverdict, u, hu, hproducer⟩ := h.verdicts t (hperm.mem_iff.2 ht) v hv
    exact ⟨hneed, hverdict, u, hperm.mem_iff.1 hu, hproducer⟩
  · intro a b hab
    obtain ⟨t, ht, hneed⟩ := (nameNeeds_iff hnames).1 hab
    exact (nameNeeds_iff h.names).2 ⟨t, hperm.mem_iff.2 ht, hneed⟩

/-! ## Amended graphs -/

theorem validateGraphTaskFields_fields {earlier rest : List Task}
    (h : validateGraphTaskFields run earlier rest = .ok ()) :
    ∀ t ∈ rest, t.id ≠ "" ∧ t.name ≠ "" ∧ t.workflowID = run.workflowID := by
  induction rest generalizing earlier with
  | nil => simp
  | cons t rest ih =>
    obtain ⟨_, hfirst, hrest⟩ := of_bind h
    obtain ⟨hidentity, -⟩ := of_guard hfirst
    simp only [not_or, not_not] at hidentity
    refine forall_mem_cons.2 ⟨⟨hidentity.1, fun hname => ?_, hidentity.2.1⟩, ih hrest⟩
    simp [hname, graphName] at hidentity

/-- An amendment checks all but the verdicts of the graph it leads to. -/
theorem amendTasks_verdicts_left {r : GraphAmendment} {templates : List Task}
    {newID promptID : String} (h : amendTasks r run templates newID promptID = .ok tasks) :
    ∃ amended, amendTaskList r run (tasksForRun run templates) newID promptID = .ok amended ∧
      (TasksAccepted run tasks ↔ ∀ t ∈ amended, VerdictsAccepted amended t) ∧
        ∀ t ∈ amended, t.name ∉ t.needs := by
  obtain ⟨amended, hamended, h⟩ := of_bind h
  obtain ⟨_, hvalid, h⟩ := of_bind h
  cases h
  replace hvalid := past_guard hvalid
  obtain ⟨_, hfields, hvalid⟩ := of_bind hvalid
  obtain ⟨done, hvisited, -⟩ := of_bind hvalid
  obtain ⟨hids, hnames⟩ := validateGraphTaskFields_nodup hfields nodup_nil nodup_nil
  obtain ⟨hchecked, hacyclic⟩ := (visitGraphTasks_ok_iff hnames).1 ⟨done, hvisited⟩
  have hperm := perm_insertionSort (fun a b : Task => a.id ≤ b.id) amended
  refine ⟨amended, hamended, ⟨fun h => (h.perm hperm).verdicts, fun hverdicts => ?_⟩,
    fun t ht hneed =>
    hacyclic _ (.single ⟨t, taskNamed_of_mem hnames ht, hneed⟩)⟩
  have haccepted : TasksAccepted run amended := ⟨validateGraphTaskFields_fields hfields, hids,
    hnames, fun t ht => ⟨(hchecked t ht).1, (hchecked t ht).2.1⟩, hverdicts, hacyclic⟩
  exact haccepted.perm hperm.symm

/-- An added task waits for verdicts of reviews that it needs, and no edge is removed along which a
task waits for one. -/
def KeepsVerdicts (r : GraphAmendment) (tasks : List Task) : Prop :=
  match r.operation with
  | .taskAdd => VerdictsAccepted tasks (r.task.getD {})
  | .edgeRemove => '/' ∉ r.source.toList → ∀ source ∈ tasks.find? (·.answersTo r.source),
      ∀ target ∈ tasks.find? (·.answersTo r.taskID), source.name ∉ target.needsVerdict.map Prod.fst
  | _ => True

section

variable {r : GraphAmendment} {newID promptID : String} {target amended : Task}

/-- What an amendment keeps of the task it is about: only a removed edge takes a need from it. -/
def Amends (r : GraphAmendment) (tasks : List Task) (target amended : Task) : Prop :=
  (amended.name = target.name ∧ amended.needsVerdict = target.needsVerdict ∧
    amended.reviewOutput = target.reviewOutput) ∧
  if r.operation = .edgeRemove ∧ '/' ∉ r.source.toList then
    ∃ source ∈ tasks.find? (·.answersTo r.source), amended.needs = target.needs.erase source.name
  else target.needs ⊆ amended.needs

theorem setEdge_amends (hop : r.operation = .edgeAdd ∨ r.operation = .edgeRemove)
    (h : setEdge r tasks target = .ok amended) : Amends r tasks target amended := by
  unfold setEdge at h
  dsimp only at h
  by_cases hslash : '/' ∈ r.source.toList
  · rw [if_pos hslash] at h
    obtain ⟨ref, -, h⟩ := of_bind h
    obtain ⟨needs, -, h⟩ := of_bind h
    cases h
    simp [Amends, hslash]
  · rw [if_neg hslash] at h
    split_ifs at h with hsource
    obtain ⟨needs, hneeds, h⟩ := of_bind h
    replace h := past_guard h
    cases h
    refine ⟨⟨rfl, rfl, rfl⟩, ?_⟩
    unfold editEdge at hneeds
    rcases hop with hop | hop
    · simp only [hop, decide_true, if_true] at hneeds
      split_ifs at hneeds
      cases hneeds
      simp [hop]
    · simp only [hop, reduceCtorEq, decide_false, Bool.false_eq_true, if_false] at hneeds
      split_ifs at hneeds
      cases hneeds
      rw [if_pos ⟨hop, hslash⟩]
      cases hfind : tasks.find? (·.answersTo r.source) with
      | none => simp [hfind] at hsource
      | some source => exact ⟨source, rfl, by simp⟩

theorem amendTarget_amends (h : amendTarget r tasks promptID target = .ok amended) :
    Amends r tasks target amended := by
  unfold amendTarget at h
  split at h
  · next hop =>
    replace h := past_guard h
    cases h
    simp [Amends, hop]
  · next hop => exact setEdge_amends (.inl hop) h
  · next hop => exact setEdge_amends (.inr hop) h
  · next hop =>
    cases h
    exact ⟨⟨rfl, rfl, rfl⟩, by rw [if_neg fun h => hop h.1]; exact Subset.refl _⟩

variable {before : List Task}

theorem VerdictsAccepted.mono (h : VerdictsAccepted before t)
    (hproducers : ∀ u ∈ before, ∃ u' ∈ tasks,
    u'.name = u.name ∧ u'.reviewOutput = u.reviewOutput) : VerdictsAccepted tasks t := by
  intro v hv
  obtain ⟨hneed, hword, u, hu, hname, hreview⟩ := h v hv
  obtain ⟨u', hu', hname', hreview'⟩ := hproducers u hu
  exact ⟨hneed, hword, u', hu', hname'.trans hname, hreview'.trans hreview⟩

theorem replaceFirst_eq (amended : Task) {p : Task → Bool} (hfind : before.find? p = some target) :
    ∃ l l', before = l ++ target :: l' ∧
    replaceFirst p (fun _ => amended) before = l ++ amended :: l' := by
  induction before with
  | nil => cases hfind
  | cons u before ih =>
    rw [replaceFirst]
    rw [find?_cons] at hfind
    cases hp : p u with
    | true =>
      simp only [hp, Option.some.injEq] at hfind
      exact ⟨[], before, by rw [hfind]; rfl, rfl⟩
    | false =>
      simp only [hp] at hfind
      obtain ⟨l, l', rfl, hreplaced⟩ := ih hfind
      exact ⟨u :: l, l', rfl, by simp [hreplaced]⟩

/-- Only the verdicts of the amended task are in question. -/
theorem verdicts_iff (amended : Task) (hbefore : ∀ t ∈ before, VerdictsAccepted before t)
    (hmem : amended ∈ tasks) (hnew : ∀ u ∈ tasks, u = amended ∨ u ∈ before)
    (hproducers : ∀ u ∈ before, ∃ u' ∈ tasks, u'.name = u.name ∧ u'.reviewOutput = u.reviewOutput) :
    (∀ t ∈ tasks, VerdictsAccepted tasks t) ↔ VerdictsAccepted tasks amended := by
  refine ⟨fun h => h amended hmem, fun h t ht => ?_⟩
  rcases hnew t ht with rfl | ht
  · exact h
  · exact (hbefore t ht).mono hproducers

theorem verdicts_append_iff (hbefore : ∀ t ∈ before, VerdictsAccepted before t)
    (hself : ∀ t ∈ before ++ [amended], t.name ∉ t.needs) :
    (∀ t ∈ before ++ [amended], VerdictsAccepted (before ++ [amended]) t) ↔
      VerdictsAccepted before amended := by
  have hproducers : ∀ u ∈ before, ∃ u' ∈ before ++ [amended], u'.name = u.name ∧
      u'.reviewOutput = u.reviewOutput := fun u hu => ⟨u, mem_append_left _ hu, rfl, rfl⟩
  rw [verdicts_iff amended hbefore (by simp) (by simp [or_comm]) hproducers]
  refine ⟨fun hnew v hv => ?_, fun hnew => hnew.mono hproducers⟩
  obtain ⟨hneed, hword, u, hu, hname, hreview⟩ := hnew v hv
  refine ⟨hneed, hword, u, (mem_append.1 hu).resolve_right fun hu => hself amended (by simp) ?_,
    hname, hreview⟩
  rw [← mem_singleton.1 hu, hname, mem_singleton.1 hu]
  exact hneed

theorem verdicts_replaceFirst_iff {p : Task → Bool}
    (hbefore : ∀ t ∈ before, VerdictsAccepted before t)
    (hfind : before.find? p = some target) (hname : amended.name = target.name)
    (hverdicts : amended.needsVerdict = target.needsVerdict)
    (hreview : amended.reviewOutput = target.reviewOutput) :
    (∀ t ∈ replaceFirst p (fun _ => amended) before,
        VerdictsAccepted (replaceFirst p (fun _ => amended) before) t) ↔
      ∀ v ∈ target.needsVerdict, v.1 ∈ amended.needs := by
  obtain ⟨l, l', rfl, hreplaced⟩ := replaceFirst_eq amended hfind
  rw [hreplaced]
  have hproducers : ∀ u ∈ l ++ target :: l', ∃ u' ∈ l ++ amended :: l', u'.name = u.name ∧
      u'.reviewOutput = u.reviewOutput := by
    simp only [mem_append, mem_cons]
    rintro u (hu | rfl | hu)
    · exact ⟨u, .inl hu, rfl, rfl⟩
    · exact ⟨amended, .inr (.inl rfl), hname, hreview⟩
    · exact ⟨u, .inr (.inr hu), rfl, rfl⟩
  rw [verdicts_iff amended hbefore (by simp) (by simp; tauto) hproducers, VerdictsAccepted, hverdicts]
  have htarget := (hbefore target (by simp)).mono hproducers
  exact ⟨fun h v hv => (h v hv).1, fun h v hv => ⟨h v hv, (htarget v hv).2⟩⟩

theorem amendTaskList_verdicts_iff (hbefore : TasksAccepted run before)
    (h : amendTaskList r run before newID promptID = .ok tasks)
    (hself : ∀ t ∈ tasks, t.name ∉ t.needs) :
    (∀ t ∈ tasks, VerdictsAccepted tasks t) ↔ KeepsVerdicts r before := by
  unfold amendTaskList at h
  split_ifs at h with hop
  · cases h
    rw [verdicts_append_iff hbefore.verdicts hself, KeepsVerdicts, hop]
    exact Iff.rfl
  · split at h
    · cases h
    · next target hfind =>
      obtain ⟨amended, hamended, h⟩ := of_bind h
      cases h
      obtain ⟨⟨hname, hverdicts, hreview⟩, hneeds⟩ := amendTarget_amends hamended
      refine (verdicts_replaceFirst_iff hbefore.verdicts hfind ?_ ?_ ?_).trans ?_
      · exact hname
      · exact hverdicts
      · exact hreview
      have htarget := mem_of_find?_eq_some hfind
      have hneed : ∀ v ∈ target.needsVerdict, v.1 ∈ target.needs := fun v hv =>
        (hbefore.verdicts target htarget v hv).1
      unfold KeepsVerdicts
      split_ifs at hneeds with hremove
      · obtain ⟨source, hsource, hneeds⟩ := hneeds
        have hnodup := (hbefore.needs target htarget).1
        rw [hremove.1, hneeds]
        simp only [Option.mem_def.1 hsource, hfind, Option.mem_def, Option.some.injEq, forall_eq',
          mem_map, hnodup.mem_erase_iff]
        constructor
        · rintro hall - ⟨v, hv, hsame⟩
          exact (hall v hv).1 hsame
        · exact fun hkeeps v hv => ⟨fun hsame => hkeeps hremove.2 ⟨v, hv, hsame⟩, hneed v hv⟩
      · refine iff_of_true (fun v hv => hneeds (hneed v hv)) ?_
        split
        · contradiction
        · next hedge => exact fun hlocal => absurd ⟨hedge, hlocal⟩ hremove
        · trivial

end

/-! ## Sequences of amendments -/

/-- A run after an amendment: with its next graph, or as it was when the amendment is refused. -/
def amendRun (templates : List Task) (run : WorkflowRun) (a : GraphAmendment × String × String) :
    WorkflowRun :=
  Runs.committed run ((amendTasks a.1 run templates a.2.1 a.2.2).map fun tasks =>
    { run with graphRevision := run.graphRevision + 1, graph := some tasks })

/-- From a graph the execution accepts, every graph that a sequence of amendments leads to is
accepted exactly when each amendment that goes through keeps the verdicts. -/
theorem amendments_validated_iff (run : WorkflowRun) (templates : List Task)
    (h : validateTasks run (tasksForRun run templates) = .ok ())
    (amendments : List (GraphAmendment × String × String)) :
    (∀ l, l <+: amendments →
      let run := Runs.run (amendRun templates) run l
      validateTasks run (tasksForRun run templates) = .ok ()) ↔
    Runs.Along (amendRun templates) (fun run a => ∀ tasks,
      amendTasks a.1 run templates a.2.1 a.2.2 = .ok tasks →
        KeepsVerdicts a.1 (tasksForRun run templates)) run amendments := by
  refine Runs.invariant_iff (I := fun run => validateTasks run (tasksForRun run templates) = .ok ())
    (fun run a hrun => ?_) h
  unfold amendRun
  cases hamend : amendTasks a.1 run templates a.2.1 a.2.2 with
  | error e => exact iff_of_true hrun (by simp)
  | ok tasks =>
    obtain ⟨amended, hlist, haccepted, hself⟩ := amendTasks_verdicts_left hamend
    have hkeeps := amendTaskList_verdicts_iff (validateTasks_ok_iff.1 hrun) hlist hself
    simp only [ok.injEq, forall_eq']
    rw [← hkeeps, ← haccepted, validateTasks_ok_iff]
    -- the run keeps its workflow, which is all the checks read of it
    exact ⟨fun h => ⟨h.fields, h.ids, h.names, h.needs, h.verdicts, h.acyclic⟩,
      fun h => ⟨h.fields, h.ids, h.names, h.needs, h.verdicts, h.acyclic⟩⟩

def graphTask : Task :=
  { workflowID := "w", promptArtifactID := "p", maxTurns := 1, «class» := .required
    routes := [{ model := "m", providerInstanceID := "i" }] }

def reviewedTasks (needs : List String) (revision : Int) : List Task :=
  [{ graphTask with id := "1", name := "review", reviewOutput := true },
    { graphTask with
      id := "2", name := "fix", needs := needs, needsVerdict := [("review", "changes-requested")]
      definitionRevision := revision }]

theorem amendTasks_verdict_edge_removed :
    amendTasks { operation := .edgeRemove, taskID := "fix", source := "review" }
        { workflowID := "w" } (reviewedTasks ["review"] 0) "" "" = .ok (reviewedTasks [] 1) ∧
      validateTasks { workflowID := "w" } (reviewedTasks ["review"] 0) = .ok () ∧
        validateTasks { workflowID := "w" } (reviewedTasks [] 1) =
          .error { text := "task fix verdict producer review is not a dependency" } := by
  decide

/-- Another task that waits for the verdict is added, given an edge and freed of it. -/
def reviewAmendments : List (GraphAmendment × String × String) :=
  let again : Task :=
    { graphTask with
      name := "again", needs := ["review"], needsVerdict := [("review", "changes-requested")] }
  [({ operation := .taskAdd, task := some again }, "3", "p"),
    ({ operation := .edgeAdd, taskID := "again", source := "fix" }, "", ""),
    ({ operation := .edgeRemove, taskID := "again", source := "fix" }, "", ""),
    ({ operation := .edgeRemove, taskID := "again", source := "fix" }, "", "")]

theorem reviewAmendments_validated :
    (Runs.run (amendRun (reviewedTasks ["review"] 0)) { workflowID := "w" } reviewAmendments).graphRevision = 3 ∧
      ∀ l, l <+: reviewAmendments →
        let run := Runs.run (amendRun (reviewedTasks ["review"] 0)) { workflowID := "w" } l
        validateTasks run (tasksForRun run (reviewedTasks ["review"] 0)) = .ok () := by
  refine ⟨by decide, (amendments_validated_iff _ _ (by decide) reviewAmendments).2 ?_⟩
  refine ⟨fun _ _ => ?_, fun _ _ => trivial, fun _ _ => ?_, fun _ _ => ?_, trivial⟩
  · unfold KeepsVerdicts VerdictsAccepted
    decide
  · unfold KeepsVerdicts
    decide
  · unfold KeepsVerdicts
    decide

/-! ## The whole state -/

namespace DAGState

/-- The lookups of the code are well defined: identities are unique, numbers are unique within a
task, and every task has an attempt. -/
structure Indexed (s : DAGState) : Prop where
  taskIDs : (s.tasks.map Task.id).Nodup
  attemptIDs : (s.attempts.map Attempt.id).Nodup
  numbers : ∀ a ∈ s.attempts, ∀ b ∈ s.attempts, a.taskID = b.taskID → a.number = b.number → a = b
  covered : ∀ t ∈ s.tasks, ∃ a ∈ s.attempts, a.taskID = t.id

structure Accepted (s : DAGState) : Prop extends s.Indexed where
  run : s.run.id ≠ "" ∧ s.run.workflowID ≠ ""
  tasks : TasksAccepted s.run s.tasks
  attempts : ∀ a ∈ s.attempts,
    a.id ≠ "" ∧ a.workflowRunID = s.run.id ∧ a.taskID ∈ s.tasks.map Task.id ∧ 1 ≤ a.number

variable {s : DAGState}

theorem indexAndValidate_ok_iff : indexAndValidate s = .ok () ↔ s.Accepted := by
  have hsplit : indexAndValidate s = .ok () ↔ (s.run.id ≠ "" ∧ s.run.workflowID ≠ "") ∧
      validateTasks s.run s.tasks = .ok () ∧ validateDAGAttempts s.run s.tasks s.attempts 0
        [] = .ok () ∧ ∀ t ∈ s.tasks, ∃ a ∈ s.attempts, a.taskID = t.id := by
    simp only [indexAndValidate, validateTasks, check_eq_ok_iff, forM_ok_iff, refuseWhen_eq_ok_iff]
    simp [and_assoc]
  rw [hsplit, validateTasks_ok_iff, validateDAGAttempts_ok_iff]
  constructor
  · rintro ⟨hrun, htasks, ⟨hattempts, hdistinct⟩, hcovered⟩
    refine ⟨⟨htasks.ids, ?_, fun a ha b hb htask hnumber => ?_, hcovered⟩, hrun, htasks, hattempts⟩
    · rw [nodup_iff_pairwise_ne, pairwise_map]
      exact hdistinct.imp fun hab => hab.1
    · have hkeys : (s.attempts.map fun a => (a.taskID, a.number)).Nodup := by
        rw [nodup_iff_pairwise_ne, pairwise_map]
        exact hdistinct.imp fun hab heq => hab.2 (Prod.mk.inj heq)
      exact inj_on_of_nodup_map hkeys ha hb (by rw [htask, hnumber])
  · intro h
    refine ⟨h.run, h.tasks, ⟨h.attempts, ?_⟩, h.covered⟩
    have hids := h.attemptIDs
    rw [nodup_iff_pairwise_ne, pairwise_map] at hids
    refine hids.imp_of_mem fun ha hb hne => ⟨hne, fun ⟨htask, hnumber⟩ => hne ?_⟩
    rw [h.numbers _ ha _ hb htask hnumber]

end DAGState

end Steward
