import Steward.Domain.SupervisionReadiness
import Steward.Store.RunCancelSupervision

/-!
# Supervision under a graph change

`internal/store/sqlite/supervision_amendment.go`: branch holds and the protected sets of gates are
closed over the amended tasks, an acceptance the change touched is reopened or carried forward, and
offers that are no longer admitted are released. A refusal rolls the whole amendment back.
-/

namespace Steward

open Except Table List

/-! ## Closures -/

variable (tasks : List Task)

def idByName (name : String) : Option String :=
  (tasks.reverse.find? fun t => t.name = name).map Task.id

def branchRoot (root : String) : Option String :=
  let root := Text.trim root
  if root = "" then none
  else if root ∈ tasks.map Task.id then some root
  else idByName tasks root

/-- A task joins a branch when one of its needs, read as a name or as an identity, is in it. -/
def needsBranch (branch : List String) (t : Task) : Bool :=
  t.needs.any fun need => (idByName tasks need).getD "" ∈ branch || need ∈ branch

def supervisionBranchClosure (root : String) : Option (List String) :=
  (branchRoot tasks root).map fun root =>
    (Graph.saturate Task.id (needsBranch tasks) tasks tasks.length [root]).insertionSort (· ≤ ·)

def amendmentRefused (text : String) : Err :=
  { text := text, sentinel := some .supervisionAmendmentRefused }

def refusedAs {α : Type} (what : String) : Except Err α → Except Err α
  | .error e => .error (amendmentRefused (what ++ e.text))
  | .ok a => .ok a

def protectedBranches (tasks : List Task) (definition : GateDefinition) :
    List String → Except Err (List String)
  | [] => .ok []
  | id :: rest =>
    match supervisionBranchClosure tasks id with
    | none =>
      .error (amendmentRefused ("gate " ++ quote definition.id ++ " protects task " ++ quote id ++
        ", which the amended task set does not contain"))
    | some branch => do
      let others ← protectedBranches tasks definition rest
      return branch ++ others

/-- The protected set of a gate: the tasks it declares and what is below them, without what the gate
observes. A final-settlement gate protects none. -/
def supervisionProtectedClosure (definition : GateDefinition) : Except Err (List String) := do
  let members ← protectedBranches tasks definition definition.protectedTaskIDs
  return ((members.filter fun id => !definition.observes id).dedup).insertionSort (· ≤ ·)

/-! ## The amendment -/

/-- What the supervision half of an amendment reads of it. -/
structure SupervisionAmendment where
  run : WorkflowRun := {}
  tasks : List Task := []
  changedTaskIDs : List String := []
  (requestID actor reason : String := "")
  now : Time := 0
deriving DecidableEq

namespace Store

variable (read s : Store) (runID gateID : String) (amendment : SupervisionAmendment) (gate : Gate)

def liveAssignments : List Assignment :=
  s.assignments.rows.filter fun a =>
    (a.state = .offered || a.state = .claimed) &&
      (s.attempts.get? a.attemptID).any fun t => t.workflowRunID = runID

def supervisionLiveTaskState (runID taskID : String) : Option AssignmentState :=
  let states := ((s.liveAssignments runID).filter fun a =>
    (s.attempts.get? a.attemptID).any fun t => t.taskID = taskID).map Assignment.state
  if .claimed ∈ states then some .claimed else states.getLast?

def latestGateAcceptance : Option GateDecision :=
  (s.decisions.rows.filter fun d =>
    d.runID = runID ∧ d.outcome = .accept ∧ d.gateID = gateID).getLast?

def widenedHold (hold : Hold) : Except Err Hold :=
  if hold.scope.kind ≠ .branch then .ok { hold with graphRevision := amendment.run.graphRevision }
  else
    match supervisionBranchClosure amendment.tasks hold.scope.branchRootTaskID with
    | none =>
      .error (amendmentRefused ("hold " ++ quote hold.id ++ " holds branch root " ++
        quote hold.scope.branchRootTaskID ++ ", which the amended task set does not contain"))
    | some resolved =>
      (refusedAs ("hold " ++ quote hold.id ++ ": ") (holdTransition
          { hold := hold, event := .amendmentAddsDescendants, actor := hold.owner
            actorScopeCoversRun := true, branchRootExists := true, closureRecomputed := true })).map
        fun next =>
          { hold with
            state := next
            resolvedTaskIDs := resolved
            graphRevision := amendment.run.graphRevision }

def widenSupervisionHolds : Except Err Store :=
  (s.loadSupervisionHolds amendment.run.id .active).foldlM (fun s hold => do
      let next ← widenedHold amendment hold
      return s.saveSupervisionHold next) s

def supervisionRevalidationReceiptID (requestID gateID : String) : String :=
  "revalidation:" ++ requestID ++ ":" ++ gateID

def recordSupervisionRevalidation (gateID receipt : String) : Except Err Store :=
  let reason := Text.trim amendment.reason
  s.insertNativeAuditEvent
    { id := "supervision-revalidated:" ++ amendment.requestID ++ ":" ++ gateID
      kind := "supervision-revalidated"
      workflowRunID := amendment.run.id
      targetType := .workflowRun
      targetID := amendment.run.id
      actor := amendment.actor
      reason :=
        if reason = "" then "amendment outside the gate's observed and protected sets" else reason
      createdAt := amendment.now }
    { expectedRevision := amendment.run.graphRevision - 1
      revision := amendment.run.graphRevision
      idempotencyIdentity := receipt
      outcome := "acceptance-carried-forward" }

def refuseStartedWork : Except Err Unit :=
  gate.definition.protectedTaskIDs.forM fun taskID =>
    match s.supervisionLiveTaskState amendment.run.id taskID with
    | some state =>
      .error (amendmentRefused ("gate " ++ quote gate.definition.id ++
        " must be reviewed again, but the task " ++ quote taskID ++ " it protects is already " ++
        state.text ++ "; use explicit recovery or a new run"))
    | none => .ok ()

/-- What the acceptance of a gate is after the amendment. An accepted gate without a decision row is
its own acceptance. -/
def amendedAcceptance : AcceptanceInvalidation :=
  gateAcceptanceStands gate.definition
    ((s.latestGateAcceptance amendment.run.id gate.definition.id).getD
      { runID := gate.runID, gateID := gate.definition.id, outcome := .accept
        graphRevision := gate.graphRevision })
    (.amendment amendment.changedTaskIDs
      (supervisionRevalidationReceiptID amendment.requestID gate.definition.id))

def amendedGateTransition (event : GateEvent) : Except Err GateState :=
  refusedAs ("gate " ++ quote gate.definition.id ++ ": ") (gateTransition
      { gate := gate
        event := event
        expectedGraphRevision := gate.graphRevision
        revalidationReceiptID :=
          supervisionRevalidationReceiptID amendment.requestID gate.definition.id })

def amendedTransition : Except Err GateState :=
  if (s.amendedAcceptance amendment gate).stands then
    amendedGateTransition amendment gate .amendmentOutsideScope
  else do
    s.refuseStartedWork amendment gate
    amendedGateTransition amendment gate .amendmentTouchesScope

/-- What an amendment does to one accepted gate: the acceptance stands against a receipt, or the
gate is reopened. `read` is the store the gates were read from. -/
def settleAmendedAcceptance : Except Err (Store × Gate) := do
  let next ← read.amendedTransition amendment gate
  if next ≠ .accepted then return (s, { gate with state := next, evidenceSnapshotID := "" })
  else do
    let s ← s.recordSupervisionRevalidation amendment gate.definition.id
      (supervisionRevalidationReceiptID amendment.requestID gate.definition.id)
    return (s, { gate with state := next })

def settleRefreshedGate : Except Err (Store × Gate) :=
  if gate.state = .accepted then settleAmendedAcceptance read s amendment gate else .ok (s, gate)

def refreshGate (s : Store) (gate : Gate) : Except Err Store := do
  gate.definition.observedTaskIDs.forM fun observed =>
    refuseWhen (observed ∉ amendment.tasks.map Task.id)
      (amendmentRefused ("gate " ++ quote gate.definition.id ++ " observes task " ++ quote observed ++
        ", which the amended task set does not contain"))
  let protectedIDs ← supervisionProtectedClosure amendment.tasks gate.definition
  let definition := { gate.definition with protectedTaskIDs := protectedIDs }
  refusedAs ("gate " ++ quote definition.id ++ ": ") definition.validate
  let (s, gate) ← settleRefreshedGate read s amendment
    { gate with
      definition := definition
      graphRevision := amendment.run.graphRevision
      revision := gate.revision + 1
      updatedAt := amendment.now }
  s.saveSupervisionGate gate

def refreshSupervisionGates : Except Err Store :=
  (s.loadSupervisionGates amendment.run.id).foldlM (s.refreshGate amendment) s

/-! ## Narrowed offers -/

def runSettled (run : WorkflowRun) : Bool :=
  run.sink.any (fun sink => sink.progress.terminal) || run.progress.terminal

def supervisionState : SupervisionSnapshot :=
  match s.workflowRuns.get? runID, s.supervisionContext runID with
  | some run, some context =>
    { runID := runID
      graphRevision := run.graphRevision
      supervised := true
      runTerminal := runSettled run
      runCancelled := run.progress = .cancelled
      routeAvailable := true
      gates := context.gates
      holds := context.holds }
  | _, _ => { runID := runID }

/-- Release one offer that supervision no longer admits; a claim stays, since it has started. -/
def releaseNarrowedOffer (snapshot : SupervisionSnapshot) (now : Time) (s : Store)
    (assignment : Assignment) : Except Err Store := do
  let attempt ← s.loadAttempt assignment.attemptID
  if (supervisionAdmits snapshot { taskID := attempt.taskID }).admitted ∨
      assignment.state = .claimed then
    return s
  else if !(s.assignments.get? assignment.id).any (fun current => current.state = .offered) then
    return s
  else
    Store.updateAttempt
      { s with
        assignments := s.assignments.put
          { assignment with state := .released, leaseExpiresAt := 0, updatedAt := now } }
      { attempt with
        assignmentID := "", progress := .ready, control := .unassigned
        revision := attempt.revision + 1, updatedAt := now }
      attempt.revision

def releaseNarrowedOffers (snapshot : SupervisionSnapshot) (now : Time) : Except Err Store :=
  if !snapshot.supervised then .ok s
  else (s.liveAssignments snapshot.runID).foldlM (releaseNarrowedOffer snapshot now) s

/-! ## The supervision half of an amendment -/

def applySupervisionAmendment : Except Err Store :=
  match s.supervisionContext amendment.run.id with
  | none => .ok s
  | some context => do
    let amendment :=
      { amendment with changedTaskIDs := amendment.changedTaskIDs.insertionSort (· ≤ ·) }
    let s ← s.widenSupervisionHolds amendment
    let s ← s.refreshSupervisionGates amendment
    let s ← s.releaseNarrowedOffers (s.supervisionState amendment.run.id) amendment.now
    return s.saveSupervisionRecord
      { context.record with
        runID := amendment.run.id
        revision := context.record.revision + 1
        createdAt := if context.record.createdAt = 0 then amendment.now else context.record.createdAt
        updatedAt := amendment.now }

end Store

/-! ## What the closures hold -/

open Relation (ReflTransGen)

def Below (tasks : List Task) : String → String → Prop :=
  Graph.Edge Task.id
    (fun source t => ∃ need ∈ t.needs, (idByName tasks need).getD "" = source ∨ need = source) tasks

variable {tasks : List Task} {id : String}

theorem mem_supervisionBranchClosure_iff {root : String} :
    (∃ branch, supervisionBranchClosure tasks root = some branch ∧ id ∈ branch) ↔
      ∃ start, branchRoot tasks root = some start ∧ ReflTransGen (Below tasks) start id := by
  have hmem : ∀ start, id ∈ (Graph.saturate Task.id (needsBranch tasks) tasks tasks.length
      [start]).insertionSort (· ≤ ·) ↔ ReflTransGen (Below tasks) start id := by
    intro start
    rw [mem_insertionSort]
    refine Graph.mem_saturate_iff (fun branch t => ?_) le_rfl
    simp only [needsBranch, any_eq_true, Bool.or_eq_true, decide_eq_true_eq]
    constructor
    · rintro ⟨need, hneed, hmem | hmem⟩
      · exact ⟨_, hmem, need, hneed, .inl rfl⟩
      · exact ⟨_, hmem, need, hneed, .inr rfl⟩
    · rintro ⟨source, hsource, need, hneed, rfl | rfl⟩
      · exact ⟨need, hneed, .inl hsource⟩
      · exact ⟨need, hneed, .inr hsource⟩
  unfold supervisionBranchClosure
  constructor
  · rintro ⟨branch, hbranch, hid⟩
    obtain ⟨start, hstart, rfl⟩ := Option.map_eq_some_iff.1 hbranch
    exact ⟨start, hstart, (hmem start).1 hid⟩
  · rintro ⟨start, hstart, hpath⟩
    exact ⟨_, by rw [hstart]; rfl, (hmem start).2 hpath⟩

theorem idByName_of_mem (hnames : (tasks.map Task.name).Nodup) {t : Task} (ht : t ∈ tasks) :
    idByName tasks t.name = some t.id := by
  have hreverse : (tasks.reverse.map Task.name).Nodup := by simpa using hnames
  rw [idByName, find?_of_nodup hreverse (mem_reverse.2 ht)]
  rfl

/-- A branch holds what depends on its root where reading a need as an identity leads nowhere
else. -/
theorem feeds_of_below (h : SoundGraph tasks) {root : String} (hroot : root ∈ tasks.map Task.id)
    (hneeds : ∀ t ∈ tasks, ∀ u ∈ tasks, u.id ∈ t.needs → ReflTransGen (Feeds tasks) root u.id →
      ReflTransGen (Feeds tasks) root t.id) (hpath : ReflTransGen (Below tasks) root id) :
    ReflTransGen (Feeds tasks) root id ∧ id ∈ tasks.map Task.id := by
  induction hpath with
  | refl => exact ⟨.refl, hroot⟩
  | tail _ hbelow ih =>
    obtain ⟨t, ht, rfl, need, hneed, hname | rfl⟩ := hbelow
    · obtain ⟨u, hu, rfl⟩ := mem_map.1 (h.edges t ht need hneed)
      rw [idByName_of_mem h.names hu] at hname
      exact ⟨ih.1.tail ⟨u, hu, t, ht, hname, rfl, hneed⟩, mem_map_of_mem ht⟩
    · obtain ⟨u, hu, rfl⟩ := mem_map.1 ih.2
      exact ⟨hneeds t ht u hu hneed ih.1, mem_map_of_mem ht⟩

variable {definition : GateDefinition}

theorem mem_protectedBranches_iff {roots members : List String}
    (h : protectedBranches tasks definition roots = .ok members) :
    id ∈ members ↔ ∃ p ∈ roots,
      ∃ start, branchRoot tasks p = some start ∧ ReflTransGen (Below tasks) start id := by
  induction roots generalizing members with
  | nil =>
    cases h
    simp
  | cons p rest ih =>
    rw [protectedBranches] at h
    split at h
    · cases h
    · rename_i branch hbranch
      obtain ⟨others, hothers, h⟩ := of_bind h
      cases h
      have hhead : id ∈ branch ↔ ∃ start, branchRoot tasks p = some start ∧
          ReflTransGen (Below tasks) start id := by
        rw [← mem_supervisionBranchClosure_iff]
        exact ⟨fun hid => ⟨branch, hbranch, hid⟩, fun ⟨b, hb, hid⟩ =>
          Option.some.inj (hbranch.symm.trans hb) ▸ hid⟩
      rw [mem_append, hhead, ih hothers]
      simp

theorem mem_supervisionProtectedClosure_iff {ids : List String}
    (h : supervisionProtectedClosure tasks definition = .ok ids) :
    id ∈ ids ↔ id ∉ definition.observedTaskIDs ∧
      ∃ p ∈ definition.protectedTaskIDs, ∃ start, branchRoot tasks p = some start ∧
        ReflTransGen (Below tasks) start id := by
  obtain ⟨members, hmembers, h⟩ := of_bind h
  cases h
  rw [mem_insertionSort, mem_dedup, mem_filter, mem_protectedBranches_iff hmembers]
  simp [GateDefinition.observes, and_comm]

/-! ## What the amendment does to the gates -/

theorem refusedAs_eq_ok_iff {α : Type} {what : String} {x : Except Err α} {a : α} :
    refusedAs what x = .ok a ↔ x = .ok a := by
  cases x <;> simp [refusedAs]

namespace Store

/-- The task has an assignment in this state. -/
def HasAssignment (s : Store) (runID taskID : String) (state : AssignmentState) : Prop :=
  ∃ a ∈ s.assignments.rows, a.state = state ∧
    ∃ t, s.attempts.get? a.attemptID = some t ∧ t.workflowRunID = runID ∧ t.taskID = taskID

variable {s s' read : Store} {amendment : SupervisionAmendment} {gate : Gate}

theorem supervisionLiveTaskState_eq_none {runID taskID : String}
    (h : s.supervisionLiveTaskState runID taskID = none) :
    ¬s.HasAssignment runID taskID .offered ∧ ¬s.HasAssignment runID taskID .claimed := by
  unfold supervisionLiveTaskState at h
  dsimp only at h
  split_ifs at h
  have hnone := getLast?_eq_none_iff.1 h
  rw [map_eq_nil_iff, filter_eq_nil_iff] at hnone
  have hdead : ∀ a ∈ s.assignments.rows, a.state = .offered ∨ a.state = .claimed →
      ∀ t, s.attempts.get? a.attemptID = some t → t.workflowRunID = runID → t.taskID ≠ taskID := by
    intro a ha hstate t ht hrun htask
    refine hnone a (mem_filter.2 ⟨ha, ?_⟩) ?_
    · simp [ht, hrun, hstate]
    · simp [ht, htask]
  constructor
  · rintro ⟨a, ha, hstate, t, ht, hrun, htask⟩
    exact hdead a ha (.inl hstate) t ht hrun htask
  · rintro ⟨a, ha, hstate, t, ht, hrun, htask⟩
    exact hdead a ha (.inr hstate) t ht hrun htask

/-- A gate before and after it was moved onto the amended graph. -/
structure Refreshed (read : Store) (amendment : SupervisionAmendment) (gate next : Gate) : Prop where
  observed : ∀ o ∈ gate.definition.observedTaskIDs, o ∈ amendment.tasks.map Task.id
  closed : supervisionProtectedClosure amendment.tasks gate.definition =
    .ok next.definition.protectedTaskIDs
  definition : next.definition =
    { gate.definition with protectedTaskIDs := next.definition.protectedTaskIDs }
  valid : next.definition.validate = .ok ()
  run : next.runID = gate.runID
  -- a reopened gate protects nothing that is offered or claimed
  reopened : gate.state = .accepted → next.state ≠ .accepted →
    ∀ p ∈ next.definition.protectedTaskIDs, ¬read.HasAssignment amendment.run.id p .offered ∧
      ¬read.HasAssignment amendment.run.id p .claimed

theorem refuseStartedWork_ok {u : Unit} (h : s.refuseStartedWork amendment gate = .ok u) :
    ∀ p ∈ gate.definition.protectedTaskIDs, ¬s.HasAssignment amendment.run.id p .offered ∧
      ¬s.HasAssignment amendment.run.id p .claimed := by
  intro p hp
  have hlive := forM_eq_ok h p hp
  split at hlive
  · cases hlive
  · rename_i hnone
    exact supervisionLiveTaskState_eq_none hnone

theorem amendedTransition_ok {next : GateState} (hstate : gate.state = .accepted)
    (h : s.amendedTransition amendment gate = .ok next) :
    next = .accepted ∨ s.refuseStartedWork amendment gate = .ok () := by
  unfold amendedTransition at h
  split_ifs at h
  · have htransition := refusedAs_eq_ok_iff.1 h
    simp [gateTransition, hstate] at htransition
    split_ifs at htransition
    exact .inl (Except.ok.inj htransition).symm
  · obtain ⟨u, hfree, -⟩ := of_bind h
    exact .inr hfree

/-- Settling changes the gate's state and evidence only, and reopens it only over work that has not
started; beside it, it records audit events. -/
theorem settleRefreshedGate_ok {next : Gate}
    (h : settleRefreshedGate read s amendment gate = .ok (s', next)) :
    (∃ auditEvents, s' = { s with auditEvents := auditEvents }) ∧
      next.definition = gate.definition ∧ next.runID = gate.runID ∧
      (gate.state = .accepted → next.state ≠ .accepted →
      read.refuseStartedWork amendment gate = .ok ()) := by
  unfold settleRefreshedGate at h
  split_ifs at h with hstate
  · obtain ⟨state, htransition, h⟩ := of_bind h
    split_ifs at h with hmoved
    · cases h
      exact ⟨⟨_, rfl⟩, rfl, rfl, fun _ _ => (amendedTransition_ok hstate htransition).resolve_left
        hmoved⟩
    · obtain ⟨s₁, haudit, h⟩ := of_bind h
      cases h
      exact ⟨insertNativeAuditEvent_ok haudit, rfl, rfl, fun _ hne => absurd (not_not.1 hmoved) hne⟩
  · cases h
    exact ⟨⟨_, rfl⟩, rfl, rfl, fun hacc => absurd hacc hstate⟩

theorem refreshGate_ok (h : read.refreshGate amendment s gate = .ok s') :
    ∃ next auditEvents, Refreshed read amendment gate next ∧
      s' = { s with gates := s.gates.put next, auditEvents := auditEvents } := by
  obtain ⟨u, hobserved, h⟩ := of_bind h
  obtain ⟨ids, hclosed, h⟩ := of_bind h
  obtain ⟨v, hvalid, h⟩ := of_bind h
  obtain ⟨⟨s₁, next⟩, hsettled, h⟩ := of_bind h
  obtain ⟨⟨auditEvents, rfl⟩, hdefinition, hrun, hfree⟩ := settleRefreshedGate_ok hsettled
  refine ⟨next, auditEvents, ⟨fun o ho => ?_, ?_, ?_, ?_, hrun, fun hacc hne => ?_⟩,
    saveSupervisionGate_ok h⟩
  · exact not_not.1 (refuseWhen_eq_ok_iff.1 (forM_eq_ok hobserved o ho))
  · rw [hdefinition]
    exact hclosed
  · rw [hdefinition]
  · rw [hdefinition]
    exact refusedAs_eq_ok_iff.1 hvalid
  · have hnone := refuseStartedWork_ok (hfree hacc hne)
    rw [hdefinition]
    exact hnone

theorem refreshGates_ok {gates : List Gate} (hdistinct : (gates.map fun g => g.definition.id).Nodup)
    (h : gates.foldlM (read.refreshGate amendment) s = .ok s') :
    (∀ gate ∈ gates, ∃ next, s'.gates.get? gate.definition.id = some next ∧
      Refreshed read amendment gate next) ∧
    (∀ id, id ∉ gates.map (fun g => g.definition.id) → s'.gates.get? id = s.gates.get? id) ∧
    ∃ table auditEvents, s' = { s with gates := table, auditEvents := auditEvents } := by
  induction gates generalizing s with
  | nil =>
    cases h
    exact ⟨by simp, fun _ _ => rfl, _, _, rfl⟩
  | cons gate rest ih =>
    rw [foldlM_cons] at h
    obtain ⟨s₁, hfirst, hrest⟩ := of_bind h
    obtain ⟨next, events, hnext, rfl⟩ := refreshGate_ok hfirst
    rw [map_cons, nodup_cons] at hdistinct
    obtain ⟨hgates, hothers, table, auditEvents, rfl⟩ := ih hdistinct.2 hrest
    have hid : next.definition.id = gate.definition.id := by rw [hnext.definition]
    refine ⟨fun g hg => ?_, fun id hnot => ?_, table, auditEvents, rfl⟩
    · rcases mem_cons.1 hg with rfl | hg
      · refine ⟨next, ?_, hnext⟩
        rw [hothers _ hdistinct.1, ← hid]
        exact get?_put_self _ next
      · exact hgates g hg
    · rw [map_cons, mem_cons, not_or] at hnot
      rw [hothers id hnot.2]
      exact get?_put_of_ne _ fun heq => hnot.1 (heq ▸ hid)

theorem widenSupervisionHolds_ok (h : s.widenSupervisionHolds amendment = .ok s') :
    ∃ holds, s' = { s with holds := holds } := by
  refine foldlM_invariant (I := fun s' => ∃ holds, s' = { s with holds := holds }) ?_ ⟨_, rfl⟩ h
  rintro _ hold - s₂ ⟨holds, rfl⟩ hstep
  obtain ⟨next, -, hstep⟩ := of_bind hstep
  cases hstep
  exact ⟨_, rfl⟩

variable {snapshot : SupervisionSnapshot} {now : Time}

theorem releaseNarrowedOffer_ok {assignment : Assignment}
    (h : releaseNarrowedOffer snapshot now s assignment = .ok s') :
    ∃ assignments attempts, s' = { s with assignments := assignments, attempts := attempts } := by
  obtain ⟨attempt, -, h⟩ := of_bind h
  split_ifs at h
  · cases h
    exact ⟨_, _, rfl⟩
  · cases h
    exact ⟨_, _, rfl⟩
  · obtain ⟨-, rfl⟩ := updateAttempt_ok h
    exact ⟨_, _, rfl⟩

theorem releaseNarrowedOffers_ok (h : s.releaseNarrowedOffers snapshot now = .ok s') :
    ∃ assignments attempts, s' = { s with assignments := assignments, attempts := attempts } := by
  unfold releaseNarrowedOffers at h
  split_ifs at h
  · cases h
    exact ⟨_, _, rfl⟩
  · refine foldlM_invariant (I := fun s' => ∃ assignments attempts,
      s' = { s with assignments := assignments, attempts := attempts }) ?_ ⟨_, _, rfl⟩ h
    rintro _ assignment - s₂ ⟨assignments, attempts, rfl⟩ hstep
    obtain ⟨assignments', attempts', rfl⟩ := releaseNarrowedOffer_ok hstep
    exact ⟨_, _, rfl⟩

/-- The supervision half of an amendment: every gate of a supervised run is refreshed, no other gate
and no run row is touched, and the run stays supervised. -/
structure Absorbed (s : Store) (amendment : SupervisionAmendment) (s' : Store) : Prop where
  gates : (s.supervisionContext amendment.run.id).isSome → ∀ g ∈ s.gates.rows,
    g.runID = amendment.run.id → ∃ next, s'.gates.get? g.definition.id = some next ∧
      Refreshed s { amendment with
        changedTaskIDs := amendment.changedTaskIDs.insertionSort (· ≤ ·) } g next
  others : ∀ id, (∀ g, s.gates.get? id = some g → g.runID ≠ amendment.run.id) →
    s'.gates.get? id = s.gates.get? id
  unsupervised : s.supervisionContext amendment.run.id = none → s'.gates = s.gates
  runs : s'.workflowRuns = s.workflowRuns
  tasks : s'.tasks = s.tasks
  supervised : ∀ id, (s.supervision.get? id).isSome → (s'.supervision.get? id).isSome

theorem applySupervisionAmendment_ok (h : s.applySupervisionAmendment amendment = .ok s') :
    Absorbed s amendment s' := by
  unfold applySupervisionAmendment at h
  split at h
  · rename_i hnone
    cases h
    exact ⟨fun hsome => by simp [hnone] at hsome, fun _ _ => rfl, fun _ => rfl, rfl, rfl,
      fun _ h => h⟩
  · rename_i context hcontext
    obtain ⟨s₁, hholds, h⟩ := of_bind h
    obtain ⟨s₂, hgates, h⟩ := of_bind h
    obtain ⟨s₃, hoffers, h⟩ := of_bind h
    cases h
    obtain ⟨holds, rfl⟩ := widenSupervisionHolds_ok hholds
    obtain ⟨assignments, attempts, rfl⟩ := releaseNarrowedOffers_ok hoffers
    have hdistinct : ((s.loadSupervisionGates amendment.run.id).map fun g => g.definition.id).Nodup :=
      (nodup_keys s.gates).sublist (filter_sublist.map _)
    obtain ⟨hrefreshed, hothers, table, auditEvents, rfl⟩ := refreshGates_ok hdistinct hgates
    refine ⟨fun _ g hg hrun => ?_, fun id hid => ?_, fun hnone => ?_, rfl, rfl, fun id hsome => ?_⟩
    · obtain ⟨next, hnext, hspec⟩ :=
        hrefreshed g (mem_filter.2 ⟨hg, decide_eq_true hrun⟩)
      exact ⟨next, hnext, hspec.observed, hspec.closed, hspec.definition, hspec.valid, hspec.run,
        hspec.reopened⟩
    · refine hothers id fun hmem => ?_
      obtain ⟨g, hg, rfl⟩ := mem_map.1 hmem
      obtain ⟨hg, hrun⟩ := mem_filter.1 hg
      exact hid g (mem_rows_iff.1 hg) (of_decide_eq_true hrun)
    · rw [hcontext] at hnone
      cases hnone
    · by_cases hkey : amendment.run.id = id
      · subst hkey
        exact Option.isSome_iff_exists.2 ⟨_, get?_put_self _ _⟩
      · dsimp only [saveSupervisionRecord]
        rw [get?_put, if_neg hkey]
        exact hsome

end Store

end Steward
