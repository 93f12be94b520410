import Steward.Lib.Runs
import Steward.Store.GraphRevision

/-!
# Gates under graph amendments

What a committed amendment leaves of a supervised run's gates. A gate is reopened only when the
tasks it protects are neither offered nor claimed; other states are not looked at. That a protected
task depends on every task its gate observes, and that tasks and gates form an acyclic graph,
survives an amendment exactly when the amended tasks below a gate still depend on what it observes.
-/

namespace Steward

open Table List Option

open Relation (TransGen ReflTransGen)

namespace Store

variable {hash : GraphHash} {resolveNode : Store → NodeRef → Except Err NodeObservation}
  {validateRunGraphEdges : Store → Except Err Unit}

/-! ## Reopened gates -/

/-- The task has an assignment that is neither unset nor released. -/
def WorkStarted (s : Store) (runID taskID : String) : Prop :=
  s.HasAssignment runID taskID .offered ∨ s.HasAssignment runID taskID .claimed ∨
    s.HasAssignment runID taskID .unknown ∨ s.HasAssignment runID taskID .completed

theorem refreshed_of_moved {s s' : Store} {c : GraphCommit} {result : GraphAmendmentResult}
    (hcommit : commitGraphAmendment hash resolveNode validateRunGraphEdges s c = .ok (s', result))
    {gate next : Gate} (hgate : s.gates.get? gate.definition.id = some gate)
    (hnext : s'.gates.get? gate.definition.id = some next) (hmoved : next ≠ gate) :
    ∃ run run' mid amendment, Amended s c run run' mid s' ∧ amendment.run.id = gate.runID ∧
      amendment.tasks = c.tasks ∧ Refreshed mid amendment gate next := by
  rcases commitGraphAmendment_ok hcommit with ⟨-, rfl⟩ | ⟨-, run, run', mid, hamended⟩
  · exact absurd (some.inj (hnext.symm.trans hgate)) hmoved
  · have habs := hamended.absorbed
    have hmid : mid.gates.get? gate.definition.id = some gate := hamended.gates ▸ hgate
    have hrun : gate.runID = run'.id := by
      by_contra hother
      have hsame := habs.others gate.definition.id fun g hg =>
        some.inj (hmid.symm.trans hg) ▸ hother
      rw [hnext, hmid] at hsame
      exact hmoved (some.inj hsame)
    cases hcontext : mid.supervisionContext run'.id with
    | none =>
      have hsame := habs.unsupervised hcontext
      rw [hsame, hmid] at hnext
      exact absurd (some.inj hnext).symm hmoved
    | some context =>
      obtain ⟨next', hnext', hrefreshed⟩ :=
        habs.gates (by dsimp only; rw [hcontext]; rfl) gate (mem_of_get? hmid) hrun
      cases hnext.symm.trans hnext'
      exact ⟨run, run', mid, _, hamended, hrun.symm, rfl, hrefreshed⟩

/-- A reopened gate protected no started work before the amendment exactly when none of its tasks
was in a state the transaction does not look at, and none that fell out of the recomputed set was
offered or claimed. -/
theorem reopened_gate_had_no_started_work_iff {s s' : Store} {c : GraphCommit}
    {result : GraphAmendmentResult}
    (hcommit : commitGraphAmendment hash resolveNode validateRunGraphEdges s c = .ok (s', result))
    {gate next : Gate} (hgate : s.gates.get? gate.definition.id = some gate)
    (haccepted : gate.state = .accepted) (hnext : s'.gates.get? gate.definition.id = some next)
    (hreopened : next.state ≠ .accepted) :
    (∀ p ∈ gate.definition.protectedTaskIDs, ¬s.WorkStarted gate.runID p) ↔
      (∀ p ∈ gate.definition.protectedTaskIDs,
        ¬s.HasAssignment gate.runID p .unknown ∧ ¬s.HasAssignment gate.runID p .completed) ∧
      ∀ ids, supervisionProtectedClosure c.tasks gate.definition = .ok ids →
        ∀ p ∈ gate.definition.protectedTaskIDs, p ∉ ids →
          ¬s.HasAssignment gate.runID p .offered ∧ ¬s.HasAssignment gate.runID p .claimed := by
  obtain ⟨run, run', mid, amendment, hamended, hrun, htasks, hrefreshed⟩ :=
    refreshed_of_moved hcommit hgate hnext (by rintro rfl; exact hreopened haccepted)
  have hkept : ∀ {p state}, s.HasAssignment gate.runID p state →
      mid.HasAssignment amendment.run.id p state := by
    intro p state h
    rw [hrun]
    exact hamended.attempts.hasAssignment hamended.assignments h
  constructor
  · intro hnone
    refine ⟨fun p hp => ⟨fun h => hnone p hp (.inr (.inr (.inl h))),
      fun h => hnone p hp (.inr (.inr (.inr h)))⟩, fun ids _ p hp _ => ?_⟩
    exact ⟨fun h => hnone p hp (.inl h), fun h => hnone p hp (.inr (.inl h))⟩
  · rintro ⟨hunseen, hdropped⟩ p hp hstarted
    have hclosed := hrefreshed.closed
    rw [htasks] at hclosed
    have hlive : ¬s.HasAssignment gate.runID p .offered ∧ ¬s.HasAssignment gate.runID p .claimed := by
      by_cases hmem : p ∈ next.definition.protectedTaskIDs
      · obtain ⟨hoffered, hclaimed⟩ := hrefreshed.reopened haccepted hreopened p hmem
        exact ⟨fun h => hoffered (hkept h), fun h => hclaimed (hkept h)⟩
      · exact hdropped _ hclosed p hp hmem
    rcases hstarted with h | h | h | h
    · exact hlive.1 h
    · exact hlive.2 h
    · exact (hunseen p hp).1 h
    · exact (hunseen p hp).2 h

def sampleTask (id name : String) (needs : List String) : Task :=
  { id := id, workflowID := "w", name := name, needs := needs, «class» := .required
    promptArtifactID := "in-" ++ id, maxTurns := 1
    routes := [{ providerInstanceID := "p", model := "m" }] }

def sampleInput (id : String) : Artifact :=
  { id := "in-" ++ id, workflowRunID := "r", taskID := id, kind := .input }

def sampleRun (tasks : List Task) (graphRevision : Int) : WorkflowRun :=
  { id := "r", workflowID := "w", graph := some tasks, graphRevision := graphRevision
    supervision := some { runID := "r" }, progress := .active, revision := 1 }

def sampleHash : GraphHash := ⟨fun _ => "0", fun _ => "d"⟩

def noNodes : Store → NodeRef → Except Err NodeObservation :=
  fun _ _ => .error { text := "unknown node" }

def anyEdges : Store → Except Err Unit := fun _ => .ok ()

def sampleGate : Gate :=
  { definition := { id := "g", name := "g", observedTaskIDs := ["a"], protectedTaskIDs := ["p", "q"] }
    runID := "r", state := .accepted, graphRevision := 1 }

def gatedStore (state : AssignmentState) : Store where
  workflowRuns := ofList WorkflowRun.id
    [sampleRun [sampleTask "a" "A" [], sampleTask "p" "P" ["A"], sampleTask "q" "Q" ["A"]] 1]
  attempts := ofList Attempt.id
    [{ id := "t1", workflowRunID := "r", taskID := "p", number := 1, assignmentID := "s" },
      { id := "t2", workflowRunID := "r", taskID := "q", number := 1, control := .unassigned }]
  assignments := ofList Assignment.id [{ id := "s", attemptID := "t1", state := state }]
  gates := ofList (fun g : Gate => g.definition.id) [sampleGate]
  artifacts := ofList Artifact.id [sampleInput "a", sampleInput "p", sampleInput "q"]

def lateAmendment : GraphCommit where
  request :=
    { id := "m", runID := "r", expectedRevision := 1, reason := "x", operation := .taskSet
      taskID := "q", timeout := some 60 }
  actor := "o"
  before := sampleRun [sampleTask "a" "A" [], sampleTask "p" "P" ["A"], sampleTask "q" "Q" ["A"]] 1
  tasks :=
    [sampleTask "a" "A" [], sampleTask "p" "P" ["A"],
      { sampleTask "q" "Q" ["A"] with timeout := 60, definitionRevision := 2 }]
  now := 5

def afterLateAmendment (state : AssignmentState) : Option Store :=
  ((commitGraphAmendment sampleHash noNodes anyEdges (gatedStore state) lateAmendment).map
    Prod.fst).toOption

theorem lateAmendment_reopens :
    ((afterLateAmendment .completed).bind fun s => s.gates.get? "g").map Gate.state = some .pendingEvidence ∧
      ((afterLateAmendment .released).bind fun s => s.gates.get? "g").map Gate.state =
        some .pendingEvidence := by
  decide

theorem lateAmendment_committed {state : AssignmentState}
    (h : ((afterLateAmendment state).bind fun s => s.gates.get? "g").map Gate.state = some .pendingEvidence) :
    ∃ s' result next, commitGraphAmendment sampleHash noNodes anyEdges (gatedStore state) lateAmendment =
        .ok (s', result) ∧ s'.gates.get? "g" = some next ∧ next.state = .pendingEvidence := by
  obtain ⟨next, hnext, hstate⟩ := map_eq_some_iff.1 h
  obtain ⟨s', hs', hnext⟩ := bind_eq_some_iff.1 hnext
  obtain ⟨_, hcommit, rfl⟩ := Except.of_toOption (f := id) (map_eq_some_iff.2 ⟨s', hs', rfl⟩)
  obtain ⟨result, hcommit⟩ := Except.map_fst_eq_ok hcommit
  exact ⟨_, result, next, hcommit, hnext, hstate⟩

/-- A gate is reopened although a task it protects has completed. -/
theorem gate_reopened_over_completed_work : ∃ s' result next,
      commitGraphAmendment sampleHash noNodes anyEdges (gatedStore .completed) lateAmendment =
        .ok (s', result) ∧
      (gatedStore .completed).gates.get? "g" = some sampleGate ∧ sampleGate.state = .accepted ∧
      s'.gates.get? "g" = some next ∧ next.state ≠ .accepted ∧
      ∃ p ∈ sampleGate.definition.protectedTaskIDs, (gatedStore .completed).WorkStarted "r" p := by
  obtain ⟨s', result, next, hcommit, hnext, hstate⟩ :=
    lateAmendment_committed lateAmendment_reopens.1
  refine ⟨s', result, next, hcommit, by decide, rfl, hnext, by rw [hstate]; decide, "p", by decide, ?_⟩
  exact .inr (.inr (.inr ⟨{ id := "s", attemptID := "t1", state := .completed }, by decide, rfl,
      { id := "t1", workflowRunID := "r", taskID := "p", number := 1, assignmentID := "s" },
      by decide, rfl, rfl⟩))

/-- A gate is reopened over work that was released. -/
theorem gate_reopened_over_released_work : ∃ s' result next,
      commitGraphAmendment sampleHash noNodes anyEdges (gatedStore .released) lateAmendment =
        .ok (s', result) ∧ s'.gates.get? "g" = some next ∧ next.state ≠ .accepted ∧
      ∀ p ∈ sampleGate.definition.protectedTaskIDs, ¬(gatedStore .released).WorkStarted "r" p := by
  obtain ⟨s', result, next, hcommit, hnext, hstate⟩ :=
    lateAmendment_committed lateAmendment_reopens.2
  have hreopened : next.state ≠ .accepted := by
    rw [hstate]
    decide
  have hgate : (gatedStore .released).gates.get? sampleGate.definition.id = some sampleGate := by
    decide
  -- the one assignment there is was released
  have hnone : ∀ taskID state, state ≠ .released →
      ¬(gatedStore .released).HasAssignment "r" taskID state := by
    rintro taskID state hne ⟨a, ha, rfl, -⟩
    have hrows : (gatedStore .released).assignments.rows =
        [{ id := "s", attemptID := "t1", state := .released }] := by decide
    rw [hrows, mem_singleton] at ha
    exact hne (by rw [ha])
  refine ⟨s', result, next, hcommit, hnext, hreopened,
    (reopened_gate_had_no_started_work_iff hcommit hgate rfl hnext hreopened).2 ⟨?_, ?_⟩⟩
  · exact fun p _ => ⟨hnone p _ (by decide), hnone p _ (by decide)⟩
  · exact fun ids _ p _ _ => ⟨hnone p _ (by decide), hnone p _ (by decide)⟩

/-! ## The rules of a manifest's gates -/

end Store

/-- Tasks and gates in one graph: observed tasks lead into a gate, and the gate to the tasks it
protects. -/
def GateGraph (tasks : List Task) (definitions : List GateDefinition) :
    String ⊕ GateDefinition → String ⊕ GateDefinition → Prop :=
  Graph.WithHubs (Feeds tasks) (fun d o => d ∈ definitions ∧ o ∈ d.observedTaskIDs)
    (fun d p => d ∈ definitions ∧ p ∈ d.protectedTaskIDs)

/-- The rules submission enforces. -/
structure GateRules (tasks : List Task) (definitions : List GateDefinition) : Prop where
  depends : ∀ d ∈ definitions, ∀ p ∈ d.protectedTaskIDs, ∀ o ∈ d.observedTaskIDs, DependsOn tasks p o
  acyclic : ∀ x, ¬TransGen (GateGraph tasks definitions) x x

variable {tasks : List Task} {definitions : List GateDefinition}

theorem SoundGraph.gateRules (hsound : SoundGraph tasks)
    (hdepends : ∀ d ∈ definitions, ∀ p ∈ d.protectedTaskIDs, ∀ o ∈ d.observedTaskIDs,
      DependsOn tasks p o) : GateRules tasks definitions :=
  ⟨hdepends, Graph.acyclic_withHubs hsound.acyclic fun d o p ho hp => hdepends d ho.1 p hp.2 o ho.2⟩

theorem GateRules.mono {definitions' : List GateDefinition} (h : GateRules tasks definitions)
    (hsub : ∀ d ∈ definitions', d ∈ definitions) : GateRules tasks definitions' := by
  refine ⟨fun d hd => h.depends d (hsub d hd), fun x hcycle => h.acyclic x ?_⟩
  refine TransGen.mono (fun a b hedge => ?_) _ _ hcycle
  cases hedge with
  | edge hfeeds => exact .edge hfeeds
  | enter hin => exact .enter ⟨hsub _ hin.1, hin.2⟩
  | leave hout => exact .leave ⟨hsub _ hout.1, hout.2⟩

/-- No gate waits for a task it protects. -/
def NoGateWaits (tasks : List Task) (definitions : List GateDefinition) : Prop :=
  ∀ d ∈ definitions, ∀ p ∈ d.protectedTaskIDs, ∀ o ∈ d.observedTaskIDs, o ≠ p ∧ ¬DependsOn tasks o p

theorem GateRules.noGateWaits (h : GateRules tasks definitions) : NoGateWaits tasks definitions := by
  intro d hd p hp o ho
  have hthrough : TransGen (GateGraph tasks definitions) (.inl o) (.inl p) :=
    .tail (.single (.enter ⟨hd, ho⟩)) (.leave ⟨hd, hp⟩)
  refine ⟨fun hsame => ?_, fun hdepends => ?_⟩
  · subst hsame
    exact h.acyclic _ hthrough
  · have hback : TransGen (GateGraph tasks definitions) (.inl p) (.inl o) :=
      Relation.TransGen.lift Sum.inl (fun _ _ hfeeds => .edge hfeeds) _ _ hdepends
    exact h.acyclic _ (hthrough.trans hback)

namespace Store

variable (s : Store) (runID : String)

def gateDefinitions : List GateDefinition :=
  (s.loadSupervisionGates runID).map Gate.definition

/-- The run is under supervision. -/
def Supervised : Prop := (s.supervisionContext runID).isSome

/-- The run's gates obey the rules of a manifest's gates. -/
def ObeysGateRules : Prop :=
  ∃ run, s.workflowRuns.get? runID = some run ∧ GateRules (s.runTasks run) (s.gateDefinitions runID)

/-- Amending one run after another; a refused amendment changes nothing. -/
def amendmentStep (hash : GraphHash) (resolveNode : Store → NodeRef → Except Err NodeObservation)
    (validateRunGraphEdges : Store → Except Err Unit) (s : Store) (c : GraphCommit) : Store :=
  Runs.committed s ((commitGraphAmendment hash resolveNode validateRunGraphEdges s c).map Prod.fst)

/-- In the amended tasks, everything at or below a task a gate protects still depends on every task
the gate observes, unless the gate observes it. A replayed request amends nothing. -/
def StillDepends (c : GraphCommit) : Prop :=
  c.request.runID = runID → s.graphRequests.get? c.request.id = none →
    ∀ d ∈ s.gateDefinitions runID, ∀ p ∈ d.protectedTaskIDs, ∀ start,
      branchRoot c.tasks p = some start → ∀ m, ReflTransGen (Below c.tasks) start m →
        m ∉ d.observedTaskIDs → ∀ o ∈ d.observedTaskIDs, DependsOn c.tasks m o

variable {runID : String}

theorem mem_gateDefinitions_iff {s : Store} {d : GateDefinition} : d ∈ s.gateDefinitions runID ↔
      ∃ g, s.gates.get? d.id = some g ∧ g.runID = runID ∧ g.definition = d := by
  constructor
  · intro h
    obtain ⟨g, hg, rfl⟩ := mem_map.1 h
    obtain ⟨hg, hrun⟩ := mem_filter.1 hg
    exact ⟨g, mem_rows_iff.1 hg, of_decide_eq_true hrun, rfl⟩
  · rintro ⟨g, hg, hrun, rfl⟩
    exact mem_map.2 ⟨g, mem_filter.2 ⟨mem_of_get? hg, decide_eq_true hrun⟩, rfl⟩

theorem supervised_iff {s : Store} : s.Supervised runID ↔ ∃ run, s.workflowRuns.get?
      runID = some run ∧ ((s.supervision.get? runID).isSome ∨ run.supervision.isSome) := by
  exact supervisionContext_isSome_iff

section

variable {s s' : Store} {c : GraphCommit} {run run' : WorkflowRun} {mid : Store}

section

variable (h : Amended s c run run' mid s')
include h

theorem Amended.runs_eq : s'.workflowRuns = s.workflowRuns.put run' ∧ run'.id = c.request.runID :=
  ⟨h.absorbed.runs.trans h.runs, h.runID.trans (key_of_get? h.row)⟩

theorem Amended.supervised (hs : s.Supervised runID) : s'.Supervised runID := by
  obtain ⟨r, hr, hsome⟩ := supervised_iff.1 hs
  obtain ⟨hruns, hid⟩ := h.runs_eq
  have hrecord : (s.supervision.get? runID).isSome → (s'.supervision.get? runID).isSome := fun hrec =>
    h.absorbed.supervised runID (by rw [h.records]; exact hrec)
  refine supervised_iff.2 ?_
  by_cases hkey : c.request.runID = runID
  · subst hkey
    cases h.row.symm.trans hr
    refine ⟨run', ?_, hsome.imp hrecord fun hsup => by rw [h.supervision]; exact hsup⟩
    rw [hruns, ← hid]
    exact get?_put_self _ run'
  · refine ⟨r, ?_, hsome.imp_left hrecord⟩
    rw [hruns, get?_put_of_ne _ (by rw [hid]; exact hkey)]
    exact hr

theorem Amended.gateDefinitions_of_ne (hne : c.request.runID ≠ runID) {d : GateDefinition}
    (hd : d ∈ s'.gateDefinitions runID) : d ∈ s.gateDefinitions runID := by
  obtain ⟨g, hg, hrun, rfl⟩ := mem_gateDefinitions_iff.1 hd
  obtain ⟨-, hid⟩ := h.runs_eq
  refine mem_gateDefinitions_iff.2 ⟨g, ?_, hrun, rfl⟩
  rw [← h.gates]
  by_cases hother : ∀ g', mid.gates.get? g.definition.id = some g' → g'.runID ≠ run'.id
  · rw [← h.absorbed.others _ hother]
    exact hg
  · -- a gate of the amended run stays one
    simp only [not_forall, not_not] at hother
    obtain ⟨g', hg', hrun'⟩ := hother
    exfalso
    cases hcontext : mid.supervisionContext run'.id with
    | none =>
      rw [h.absorbed.unsupervised hcontext, hg'] at hg
      cases hg
      exact hne (hid.symm.trans (hrun'.symm.trans hrun))
    | some context =>
      obtain ⟨next, hnext, hrefreshed⟩ :=
        h.absorbed.gates (by dsimp only; rw [hcontext]; rfl) g' (mem_of_get? hg') hrun'
      rw [key_of_get? hg', hg] at hnext
      cases hnext
      exact hne (hid.symm.trans ((hrun'.symm.trans hrefreshed.run.symm).trans hrun))

theorem Amended.runTasks : s'.workflowRuns.get? c.request.runID = some run' ∧
    s'.runTasks run' = c.tasks := by
  obtain ⟨hruns, hid⟩ := h.runs_eq
  refine ⟨?_, ?_⟩
  · rw [hruns, ← hid]
    exact get?_put_self _ run'
  · simp only [Store.runTasks, tasksForRun, h.graph]

theorem Amended.refreshed_gate (hs : s.Supervised c.request.runID) {g : Gate}
    (hg : s.gates.get? g.definition.id = some g) (hrun : g.runID = c.request.runID) :
    ∃ next ids, s'.gates.get? g.definition.id = some next ∧ next.runID = c.request.runID ∧
      supervisionProtectedClosure c.tasks g.definition = .ok ids ∧
      next.definition = { g.definition with protectedTaskIDs := ids } := by
  obtain ⟨-, hid⟩ := h.runs_eq
  have hmid : (mid.supervisionContext run'.id).isSome := by
    obtain ⟨r, hr, hsome⟩ := supervised_iff.1 hs
    cases h.row.symm.trans hr
    refine supervised_iff.2 ⟨run', ?_, ?_⟩
    · rw [h.runs]
      exact get?_put_self _ run'
    · rw [hid, h.records, h.supervision]
      exact hsome
  obtain ⟨next, hnext, hrefreshed⟩ := h.absorbed.gates hmid g
    (mem_of_get? (h.gates ▸ hg)) (hrun.trans hid.symm)
  exact ⟨next, _, hnext, hrefreshed.run.trans hrun, hrefreshed.closed, hrefreshed.definition⟩

theorem Amended.gate_from (hs : s.Supervised c.request.runID) {d : GateDefinition}
    (hd : d ∈ s'.gateDefinitions c.request.runID) :
    ∃ d₀ ∈ s.gateDefinitions c.request.runID, ∃ ids,
      supervisionProtectedClosure c.tasks d₀ = .ok ids ∧ d = { d₀ with protectedTaskIDs := ids } := by
  obtain ⟨-, hid⟩ := h.runs_eq
  obtain ⟨next, hnext, hrun, rfl⟩ := mem_gateDefinitions_iff.1 hd
  have hold : ∃ g, s.gates.get? next.definition.id = some g ∧ g.runID = c.request.runID := by
    by_contra hnone
    have hother := h.absorbed.others next.definition.id fun g hg hsame =>
      hnone ⟨g, h.gates ▸ hg, hsame.trans hid⟩
    rw [hnext, h.gates] at hother
    exact hnone ⟨next, hother.symm, hrun⟩
  obtain ⟨g, hg, hgrun⟩ := hold
  have hkey := key_of_get? hg
  rw [← hkey] at hg hnext
  obtain ⟨next', ids, hnext', -, hclosed, hdefinition⟩ := h.refreshed_gate hs hg hgrun
  cases hnext.symm.trans hnext'
  exact ⟨g.definition, mem_gateDefinitions_iff.2 ⟨g, hg, hgrun, rfl⟩, ids, hclosed, hdefinition⟩

/-- After an amendment of a supervised run its gates obey the rules exactly when the amended tasks
still depend on what the gates observe. -/
theorem Amended.obeysGateRules_iff (hs : s.Supervised c.request.runID)
    (hnew : s.graphRequests.get? c.request.id = none) :
    s'.ObeysGateRules c.request.runID ↔ s.StillDepends c.request.runID c := by
  obtain ⟨hrow, htasks⟩ := h.runTasks
  constructor
  · rintro ⟨r, hr, hrules⟩ - - d hd p hp start hstart m hpath hm o ho
    cases hrow.symm.trans hr
    rw [htasks] at hrules
    obtain ⟨g, hg, hgrun, rfl⟩ := mem_gateDefinitions_iff.1 hd
    -- the refreshed gate of the same identity protects everything below
    obtain ⟨next, ids, hnext, hrun, hclosed, hdefinition⟩ := h.refreshed_gate hs hg hgrun
    have hd' : next.definition ∈ s'.gateDefinitions c.request.runID :=
      mem_gateDefinitions_iff.2 ⟨next, by rw [hdefinition]; exact hnext, hrun, rfl⟩
    have hmem : m ∈ next.definition.protectedTaskIDs := by
      rw [hdefinition]
      exact (mem_supervisionProtectedClosure_iff hclosed).2 ⟨hm, p, hp, start, hstart, hpath⟩
    exact hrules.depends next.definition hd' m hmem o (by rw [hdefinition]; exact ho)
  · intro hdepends
    refine ⟨run', hrow, ?_⟩
    rw [htasks]
    refine h.sound.gateRules fun d hd m hm o ho => ?_
    obtain ⟨d₀, hd₀, ids, hclosed, rfl⟩ := h.gate_from hs hd
    obtain ⟨hunobserved, p, hp, start, hstart, hpath⟩ :=
      (mem_supervisionProtectedClosure_iff hclosed).1 hm
    exact hdepends rfl hnew d₀ hd₀ p hp start hstart m hpath hunobserved o ho

end

end

/-- Where every protected identity is that of a task its gate does not observe, the condition is
that the protected tasks themselves still depend on what their gates observe. -/
theorem stillDepends_iff {s : Store} {c : GraphCommit} (hsound : SoundGraph c.tasks)
    (hplain : ∀ t ∈ c.tasks, ∀ u ∈ c.tasks, t.name = u.id → t = u)
    (hroots : ∀ d ∈ s.gateDefinitions runID, ∀ p ∈ d.protectedTaskIDs,
      branchRoot c.tasks p = some p ∧ p ∈ c.tasks.map Task.id ∧ p ∉ d.observedTaskIDs)
    (hrun : c.request.runID = runID) (hnew : s.graphRequests.get? c.request.id = none) :
    s.StillDepends runID c ↔ ∀ d ∈ s.gateDefinitions runID, ∀ p ∈ d.protectedTaskIDs,
        ∀ o ∈ d.observedTaskIDs, DependsOn c.tasks p o := by
  constructor
  · intro h d hd p hp o ho
    obtain ⟨hroot, -, hunobserved⟩ := hroots d hd p hp
    exact h hrun hnew d hd p hp p hroot p .refl hunobserved o ho
  · intro h _ _ d hd p hp start hstart m hpath _ o ho
    obtain ⟨hroot, htask, -⟩ := hroots d hd p hp
    cases hroot.symm.trans hstart
    refine TransGen.trans_left (h d hd p hp o ho) (feeds_of_below hsound htask ?_ hpath).1
    intro t ht u hu hneed hreach
    obtain ⟨v, hv, hname⟩ := mem_map.1 (hsound.edges t ht _ hneed)
    obtain rfl := hplain v hv u hu hname
    exact hreach.tail ⟨v, hv, t, ht, rfl, rfl, by rwa [hname]⟩

variable {hash : GraphHash} {resolveNode : Store → NodeRef → Except Err NodeObservation}
  {validateRunGraphEdges : Store → Except Err Unit}

def RulesHold (s : Store) (runID : String) : Prop := s.Supervised runID ∧ s.ObeysGateRules runID

theorem amendmentStep_rulesHold {s : Store} {c : GraphCommit}
    (hs : s.RulesHold runID) (hstill : s.StillDepends runID c) :
    (amendmentStep hash resolveNode validateRunGraphEdges s c).RulesHold runID := by
  refine Runs.rel_committed (R := fun s s' : Store => s.RulesHold runID → s.StillDepends runID c →
    s'.RulesHold runID) (fun _ h _ => h) (fun s' hcommit hs hstill => ?_) hs hstill
  obtain ⟨result, hcommit⟩ := Except.map_fst_eq_ok hcommit
  rcases commitGraphAmendment_ok hcommit with ⟨-, rfl⟩ | ⟨hnew, run, run', mid, hamended⟩
  · exact hs
  · refine ⟨hamended.supervised hs.1, ?_⟩
    by_cases hkey : c.request.runID = runID
    · subst hkey
      exact (hamended.obeysGateRules_iff hs.1 hnew).2 hstill
    · obtain ⟨r, hr, hrules⟩ := hs.2
      obtain ⟨hruns, hid⟩ := hamended.runs_eq
      refine ⟨r, ?_, ?_⟩
      · rw [hruns, get?_put_of_ne _ (by rw [hid]; exact hkey)]
        exact hr
      · have htasks : s'.tasks = s.tasks := hamended.absorbed.tasks.trans hamended.tasks
        rw [show s'.runTasks r = s.runTasks r by rw [runTasks, runTasks, htasks]]
        exact hrules.mono fun d hd => hamended.gateDefinitions_of_ne hkey hd

/-- A committed amendment keeps the rules of a manifest's gates exactly when the amended tasks below
every gate still depend on what it observes, and in a run of such amendments no gate ever waits for
a task it protects. -/
theorem amendments_keep_gate_rules_iff (hash : GraphHash)
    (resolveNode : Store → NodeRef → Except Err NodeObservation)
    (validateRunGraphEdges : Store → Except Err Unit) (runID : String) :
    (∀ s c s' result, s.Supervised runID → c.request.runID = runID →
      s.graphRequests.get? c.request.id = none →
      commitGraphAmendment hash resolveNode validateRunGraphEdges s c = .ok (s', result) →
      (s'.ObeysGateRules runID ↔ s.StillDepends runID c)) ∧
    ∀ s amendments, s.Supervised runID → s.ObeysGateRules runID →
      Runs.Along (amendmentStep hash resolveNode validateRunGraphEdges)
        (fun s c => s.StillDepends runID c) s amendments →
      ∃ run, (Runs.run (amendmentStep hash resolveNode validateRunGraphEdges) s
          amendments).workflowRuns.get? runID = some run ∧
        let s' := Runs.run (amendmentStep hash resolveNode validateRunGraphEdges) s amendments
        GateRules (s'.runTasks run) (s'.gateDefinitions runID) ∧
          NoGateWaits (s'.runTasks run) (s'.gateDefinitions runID) := by
  constructor
  · rintro s c s' result hs rfl hnew hcommit
    rcases commitGraphAmendment_ok hcommit with ⟨hstored, -⟩ | ⟨-, run, run', mid, hamended⟩
    · rw [hnew] at hstored
      cases hstored
    · exact hamended.obeysGateRules_iff hs hnew
  · intro s amendments hs hrules halong
    obtain ⟨-, run, hrow, hrules⟩ := Runs.run_invariant (I := fun s : Store => s.RulesHold runID)
      (P := fun s c => s.StillDepends runID c)
      (fun s c hs hstill => amendmentStep_rulesHold hs hstill) ⟨hs, hrules⟩ halong
    exact ⟨run, hrow, hrules, hrules.noGateWaits⟩

def pairGate : Gate :=
  { definition := { id := "g", name := "g", observedTaskIDs := ["a"], protectedTaskIDs := ["b"] }
    runID := "r", graphRevision := 1 }

def pairTasks : List Task := [sampleTask "a" "A" [], sampleTask "b" "B" ["A"]]

def pairStore : Store where
  workflowRuns := ofList WorkflowRun.id [sampleRun pairTasks 1]
  gates := ofList (fun g : Gate => g.definition.id) [pairGate]
  artifacts := ofList Artifact.id [sampleInput "a", sampleInput "b"]

def setTimeout : GraphCommit where
  request :=
    { id := "m", runID := "r", expectedRevision := 1, reason := "x", operation := .taskSet
      taskID := "b", timeout := some 60 }
  actor := "o"
  before := sampleRun pairTasks 1
  tasks :=
    [sampleTask "a" "A" [],
      { sampleTask "b" "B" ["A"] with timeout := 60, definitionRevision := 2 }]
  now := 5

def cutEdge : GraphCommit where
  request :=
    { id := "m", runID := "r", expectedRevision := 1, reason := "x", operation := .edgeRemove
      taskID := "b", source := "a" }
  actor := "o"
  before := sampleRun pairTasks 1
  tasks := [sampleTask "a" "A" [], { sampleTask "b" "B" [] with definitionRevision := 2 }]
  now := 5

abbrev sampleStep : Store → GraphCommit → Store := amendmentStep sampleHash noNodes anyEdges

def turnEdge : GraphCommit where
  request :=
    { id := "n", runID := "r", expectedRevision := 2, reason := "x", operation := .edgeAdd
      taskID := "a", source := "b" }
  actor := "o"
  before := ((sampleStep pairStore cutEdge).workflowRuns.get? "r").getD {}
  tasks :=
    [{ sampleTask "a" "A" ["B"] with definitionRevision := 3 },
      { sampleTask "b" "B" [] with definitionRevision := 2 }]
  now := 6

theorem pairStore_facts :
    (pairStore.workflowRuns.get? "r").map (fun r => pairStore.runTasks r) = some pairTasks ∧
      pairStore.gateDefinitions "r" = [pairGate.definition] ∧
      (pairStore.supervisionContext "r").isSome ∧ pairStore.graphRequests.get? "m" = none ∧
      validateGraphTasks (sampleRun [] 1) pairTasks = .ok () ∧
      validateGraphTasks (sampleRun [] 1) setTimeout.tasks = .ok () ∧
      branchRoot setTimeout.tasks "b" = some "b" := by
  decide

theorem pairStore_amended :
    ((commitGraphAmendment sampleHash noNodes anyEdges pairStore setTimeout).toOption.map
        fun r => r.2.graph.revision) = some 2 ∧
      ((commitGraphAmendment sampleHash noNodes anyEdges pairStore cutEdge).toOption.map
        fun r => r.2.graph.revision) = some 2 ∧
      ((commitGraphAmendment sampleHash noNodes anyEdges (sampleStep pairStore cutEdge)
        turnEdge).toOption.map fun r => r.2.graph.revision) = some 3 ∧
      ((Runs.run sampleStep pairStore [cutEdge, turnEdge]).workflowRuns.get? "r").bind
        WorkflowRun.graph = some turnEdge.tasks ∧
      (Runs.run sampleStep pairStore [cutEdge, turnEdge]).gateDefinitions "r" =
        [pairGate.definition] := by
  decide

theorem pair_depends {first second : Task} (hfirst : first.id = "a") (hsecond : second.id = "b")
    (hneeds : first.name ∈ second.needs) : DependsOn [first, second] "b" "a" :=
  .single ⟨first, (.head _), second, .tail _ (.head _), hfirst, hsecond, hneeds⟩

theorem pairStore_obeysGateRules : pairStore.ObeysGateRules "r" := by
  obtain ⟨htasks, hgates, -, -, hvalid, -⟩ := pairStore_facts
  obtain ⟨run, hrun, htasks⟩ := map_eq_some_iff.1 htasks
  refine ⟨run, hrun, ?_⟩
  rw [htasks, hgates]
  refine (validateGraphTasks_sound hvalid).gateRules fun d hd p hp o ho => ?_
  obtain rfl := mem_singleton.1 hd
  obtain rfl := mem_singleton.1 hp
  obtain rfl := mem_singleton.1 ho
  exact pair_depends rfl rfl (by decide)

/-- Two amendments, both committed, leave a gate waiting for the task it protects. -/
theorem amendments_turn_a_gate_around : pairStore.Supervised "r" ∧ pairStore.ObeysGateRules "r" ∧
      (commitGraphAmendment sampleHash noNodes anyEdges pairStore cutEdge).toOption.isSome ∧
      (commitGraphAmendment sampleHash noNodes anyEdges (sampleStep pairStore cutEdge)
        turnEdge).toOption.isSome ∧
      ¬(Runs.run sampleStep pairStore [cutEdge, turnEdge]).ObeysGateRules "r" ∧
      ∃ run, (Runs.run sampleStep pairStore [cutEdge, turnEdge]).workflowRuns.get? "r" = some run ∧
        ¬NoGateWaits ((Runs.run sampleStep pairStore [cutEdge, turnEdge]).runTasks run)
          ((Runs.run sampleStep pairStore [cutEdge, turnEdge]).gateDefinitions "r") := by
  obtain ⟨-, hcut, hturn, hgraph, hgates⟩ := pairStore_amended
  obtain ⟨run, hrun, hgraph⟩ := bind_eq_some_iff.1 hgraph
  have htasks : (Runs.run sampleStep pairStore [cutEdge, turnEdge]).runTasks run =
    turnEdge.tasks := by
    simp only [runTasks, tasksForRun, hgraph]
  have hwaits : ¬NoGateWaits ((Runs.run sampleStep pairStore [cutEdge, turnEdge]).runTasks run)
      ((Runs.run sampleStep pairStore [cutEdge, turnEdge]).gateDefinitions "r") := by
    rw [htasks, hgates]
    intro hnone
    refine (hnone pairGate.definition (.head _) "b" (by decide) "a" (by decide)).2 ?_
    exact .single ⟨{ sampleTask "b" "B" [] with definitionRevision := 2 }, by decide,
      { sampleTask "a" "A" ["B"] with definitionRevision := 3 }, by decide, rfl, rfl,
      by decide⟩
  refine ⟨pairStore_facts.2.2.1, pairStore_obeysGateRules, ?_, ?_, ?_, run, hrun, hwaits⟩
  · obtain ⟨r, hr, -⟩ := map_eq_some_iff.1 hcut
    rw [hr]
    rfl
  · obtain ⟨r, hr, -⟩ := map_eq_some_iff.1 hturn
    rw [hr]
    rfl
  · rintro ⟨run', hrun', hrules⟩
    cases hrun.symm.trans hrun'
    exact hwaits hrules.noGateWaits

/-- An amendment that keeps the edge keeps the rules. -/
theorem timeout_keeps_gate_rules : ∃ s' result,
      commitGraphAmendment sampleHash noNodes anyEdges pairStore setTimeout = .ok (s', result) ∧
      s'.ObeysGateRules "r" ∧
      ∃ run, (Runs.run sampleStep pairStore [setTimeout]).workflowRuns.get? "r" = some run ∧
        GateRules ((Runs.run sampleStep pairStore [setTimeout]).runTasks run)
          ((Runs.run sampleStep pairStore [setTimeout]).gateDefinitions "r") := by
  obtain ⟨-, hgates, hsupervised, hnew, -, hvalid, hroot⟩ := pairStore_facts
  have hrun : setTimeout.request.runID = "r" := rfl
  have hstill : pairStore.StillDepends "r" setTimeout := by
    refine (stillDepends_iff (validateGraphTasks_sound hvalid) (by decide) ?_ hrun hnew).2 ?_
    · rw [hgates]
      intro d hd p hp
      obtain rfl := mem_singleton.1 hd
      obtain rfl := mem_singleton.1 hp
      exact ⟨hroot, by decide, by decide⟩
    · rw [hgates]
      intro d hd p hp o ho
      obtain rfl := mem_singleton.1 hd
      obtain rfl := mem_singleton.1 hp
      obtain rfl := mem_singleton.1 ho
      exact pair_depends rfl rfl (by decide)
  obtain ⟨hstep, hruns⟩ := amendments_keep_gate_rules_iff sampleHash noNodes anyEdges "r"
  obtain ⟨run, hrow, hrules, -⟩ :=
    hruns pairStore [setTimeout] hsupervised pairStore_obeysGateRules ⟨hstill, trivial⟩
  obtain ⟨⟨s', result⟩, hcommit, -⟩ := Except.of_toOption pairStore_amended.1
  exact ⟨s', result, hcommit, (hstep pairStore setTimeout s' result hsupervised hrun hnew hcommit).2
    hstill, run, hrow, hrules⟩

end Store

end Steward
