import Steward.Store.Store

/-!
# Closing a cancelled run's supervision

`closeRunSupervisionTx` of `internal/store/sqlite/run_cancel_supervision.go` resolves a cancelled
run's open incidents, cancels its unaccepted gates, releases its active holds and records the
closure, each through the state machine's own row. Every cancelled gate gets an entry in the
decision log, whose rows are unique by run and request.
-/

namespace Steward.Store

open Except Table

variable (s : Store)

/-! ## Supervision rows -/

def loadSupervisionGates (runID : String) : List Gate :=
  s.gates.rows.filter fun g => g.runID = runID

def loadSupervisionHolds (runID : String) (state : HoldState) : List Hold :=
  s.holds.rows.filter fun h => h.runID = runID ∧ (state = .unset ∨ h.state = state)

def loadSupervisionIncidents (runID : String) : List ReviewIncident :=
  s.incidents.rows.filter fun i => i.runID = runID

/-- The upsert is keyed by the gate's identity alone and declines a row of another run. -/
def saveSupervisionGate (gate : Gate) : Except Err Store :=
  match s.gates.get? gate.definition.id with
  | some current =>
    if current.runID = gate.runID then .ok { s with gates := s.gates.put gate }
    else
      .error
        { text := "gate " ++ quote gate.definition.id ++ " already belongs to another run"
          sentinel := some .supervisionRequestConflict }
  | none => .ok { s with gates := s.gates.put gate }

/-- The upsert is keyed by the hold's identity alone: a row that exists stays with its run. -/
def saveSupervisionHold (hold : Hold) : Store :=
  { s with
    holds := s.holds.put
      { hold with runID := ((s.holds.get? hold.id).map Hold.runID).getD hold.runID } }

def saveSupervisionIncident (incident : ReviewIncident) : Store :=
  { s with
    incidents := s.incidents.put
      { incident with
        runID := ((s.incidents.get? incident.id).map ReviewIncident.runID).getD incident.runID } }

def saveSupervisionRecord (record : SupervisionRecord) : Store :=
  { s with supervision := s.supervision.put record }

/-- Insert a decision. The identity is the primary key, and no two decisions of a run share a
request. -/
def appendGateDecision (decision : GateDecision) : Except Err Store :=
  if (s.decisions.get? decision.id).isSome ∨
      s.decisions.rows.any (fun d => d.runID = decision.runID ∧ d.requestID = decision.requestID) then
    .error { text := "append gate decision " ++ quote decision.id, sentinel := some .constraint }
  else .ok { s with decisions := s.decisions.put decision }

/-! ## The closure -/

/-- What a decision transaction reads of a run's supervision: its record, its gates and its active
holds. -/
structure SupervisionContext where
  record : SupervisionRecord
  gates : List Gate
  holds : List Hold

/-- The supervision of a run; `none` for an unsupervised one. Until its first supervision
transaction a run created supervised carries its declared record. -/
def supervisionContext (runID : String) : Option SupervisionContext :=
  match s.workflowRuns.get? runID with
  | none => none
  | some run =>
    match (s.supervision.get? runID).or (run.supervision.map fun r => { r with runID := runID }) with
    | none => none
    | some record =>
      some
        { record := record
          gates := s.loadSupervisionGates runID
          holds := s.loadSupervisionHolds runID .active }

structure RunSupervisionClosure where
  commandID : String := ""
  (resolvedIncidents cancelledGates releasedHolds : List String := [])
  supervisionRev : Int := 0
deriving DecidableEq

variable (actor : Actor) (commandID reason : String) (now : Time)

def cancelledIncident (incident : ReviewIncident) (next : IncidentState) : ReviewIncident :=
  { incident with
    resolution := some
      { actor := actor, outcome := .cancelled, expectedRevision := incident.revision
        requestID := commandID, reason := reason, resolvedAt := now }
    state := next
    revision := incident.revision + 1 }

def resolveIncidents (s : Store) : List ReviewIncident → Except Err (Store × List String)
  | [] => .ok (s, [])
  | incident :: rest =>
    if !incident.state.unresolved then resolveIncidents s rest
    else do
      let next ← incidentTransition
        { incident := incident, event := .runCancelled, actor := actor
          expectedRevision := incident.revision }
      let s := s.saveSupervisionIncident (cancelledIncident actor commandID reason now incident next)
      let (s, ids) ← resolveIncidents s rest
      return (s, incident.id :: ids)

def cancelDecision (record : SupervisionRecord) (runID : String) (gate : Gate) : GateDecision :=
  { id := "cancel-gate:" ++ commandID ++ ":" ++ gate.definition.id
    runID := runID
    gateID := gate.definition.id
    actor := actor
    activationEpoch := record.activationEpoch
    graphRevision := gate.graphRevision
    outcome := .cancel
    requestID := commandID
    reason := reason
    decidedAt := now }

def cancelledGate (gate : Gate) (next : GateState) : Gate :=
  { gate with state := next, revision := gate.revision + 1, updatedAt := now }

def cancelGates (s : Store) (record : SupervisionRecord) (runID : String) :
    List Gate → Except Err (Store × List String)
  | [] => .ok (s, [])
  | gate :: rest =>
    if gate.state = .accepted ∨ gate.state = .cancelled then cancelGates s record runID rest
    else do
      let next ← gateTransition { gate := gate, event := .runCancelled, actor := actor }
      let s ← s.saveSupervisionGate (cancelledGate now gate next)
      let s ← s.appendGateDecision (cancelDecision actor commandID reason now record runID gate)
      let (s, ids) ← cancelGates s record runID rest
      return (s, gate.definition.id :: ids)

def releaseHolds (s : Store) : List Hold → Except Err (Store × List String)
  | [] => .ok (s, [])
  | hold :: rest => do
    let next ← holdTransition { hold := hold, event := .release, actor := actor }
    let s := s.saveSupervisionHold { hold with state := next, releasedAt := some now }
    let (s, ids) ← releaseHolds s rest
    return (s, hold.id :: ids)

/-- Close a run's supervision on behalf of the operator who cancelled the run. An unsupervised run
is left untouched. -/
def closeRunSupervision (runID : String) : Except Err (Store × RunSupervisionClosure) :=
  match s.supervisionContext runID with
  | none => .ok (s, { commandID := commandID })
  | some state => do
    let (s, resolved) ← resolveIncidents actor commandID reason now s
      (s.loadSupervisionIncidents runID)
    let (s, cancelled) ← cancelGates actor commandID reason now s state.record runID state.gates
    let (s, released) ← releaseHolds actor now s state.holds
    let record :=
      { state.record with
        runID := runID
        revision := state.record.revision + 1
        createdAt := if state.record.createdAt = 0 then now else state.record.createdAt
        updatedAt := now
        closedByCancel := some { commandID := commandID, actor := actor, closedAt := now } }
    return (s.saveSupervisionRecord record,
      { commandID := commandID, resolvedIncidents := resolved, cancelledGates := cancelled
        releasedHolds := released, supervisionRev := record.revision })

/-! ## Incidents and holds -/

variable {actor commandID reason now} {s}

/-- A run is supervised by its row, or by the record it was created with. -/
theorem supervisionContext_isSome_iff {runID : String} :
    (s.supervisionContext runID).isSome = true ↔ ∃ run, s.workflowRuns.get? runID = some run ∧
      ((s.supervision.get? runID).isSome = true ∨ run.supervision.isSome = true) := by
  unfold supervisionContext
  cases hrun : s.workflowRuns.get? runID with
  | none => simp
  | some run =>
    cases hrow : s.supervision.get? runID with
    | none => cases hdeclared : run.supervision <;> simp [hdeclared]
    | some record => simp

theorem supervisionContext_rows {runID : String} {state : SupervisionContext}
    (h : s.supervisionContext runID = some state) :
    state.gates = s.loadSupervisionGates runID ∧
      state.holds = s.loadSupervisionHolds runID .active := by
  unfold supervisionContext at h
  split at h
  · cases h
  · split at h
    · cases h
    · cases h
      exact ⟨rfl, rfl⟩

theorem saveSupervisionGate_ok {gate : Gate} {s' : Store}
    (h : s.saveSupervisionGate gate = .ok s') : s' = { s with gates := s.gates.put gate } := by
  unfold saveSupervisionGate at h
  split at h
  · split_ifs at h
    exact (ok.inj h).symm
  · exact (ok.inj h).symm

theorem appendGateDecision_ok_iff {decision : GateDecision} {s' : Store} :
    s.appendGateDecision decision = .ok s' ↔ s.decisions.get? decision.id = none ∧
      (∀ d ∈ s.decisions.rows, d.runID = decision.runID → d.requestID ≠ decision.requestID) ∧
      s' = { s with decisions := s.decisions.put decision } := by
  unfold appendGateDecision
  split_ifs with hclash
  · refine iff_of_false (by simp) ?_
    rintro ⟨hid, hrequest, -⟩
    simp only [hid, Option.isSome_none, Bool.false_eq_true, false_or, List.any_eq_true,
      decide_eq_true_eq] at hclash
    obtain ⟨d, hd, hrun, hsame⟩ := hclash
    exact hrequest d hd hrun hsame
  · have hnew : s.decisions.get? decision.id = none ∧
        ∀ d ∈ s.decisions.rows, d.runID = decision.runID → d.requestID ≠ decision.requestID := by
      simpa using hclash
    exact ⟨fun h => ⟨hnew.1, hnew.2, (ok.inj h).symm⟩, fun h => h.2.2 ▸ rfl⟩

/-- Resolving incidents never fails: each open or escalated one is replaced by its resolution. -/
theorem saveSupervisionIncident_of_row {incident current : ReviewIncident}
    (hrow : s.incidents.get? incident.id = some current) (hrun : current.runID = incident.runID) :
    s.saveSupervisionIncident incident = { s with incidents := s.incidents.put incident } := by
  simp [saveSupervisionIncident, hrow, hrun]

theorem resolveIncidents_eq (incidents : List ReviewIncident)
    (hrows : ∀ i ∈ incidents, ∃ current, s.incidents.get? i.id = some current ∧
    current.runID = i.runID) :
    resolveIncidents actor commandID reason now s incidents =
      .ok ({ s with
              incidents :=
                s.incidents.putAll ((incidents.filter fun i => i.state.unresolved).map fun i =>
                  cancelledIncident actor commandID reason now i .resolved) },
        (incidents.filter fun i => i.state.unresolved).map ReviewIncident.id) := by
  induction incidents generalizing s with
  | nil => rfl
  | cons incident rest ih =>
    unfold resolveIncidents
    obtain ⟨current, hrow, hrun⟩ := hrows incident (.head _)
    by_cases hopen : incident.state.unresolved = true
    · rw [if_neg (by simp [hopen]), incidentTransition_runCancelled hopen]
      have hsave := @saveSupervisionIncident_of_row s
        (cancelledIncident actor commandID reason now incident .resolved) current hrow hrun
      have hrest : ∀ i ∈ rest, ∃ current,
          (s.incidents.put (cancelledIncident actor commandID reason now incident .resolved)).get? i.id =
            some current ∧ current.runID = i.runID := fun i hi =>
        exists_get?_put_of_same hrow hrun (hrows i (.tail _ hi))
      have ih := @ih
        { s with
          incidents := s.incidents.put
            (cancelledIncident actor commandID reason now incident .resolved) } hrest
      simp [hsave, ih, hopen]
    · rw [if_pos (by simpa using hopen), ih fun i hi => hrows i (.tail _ hi)]
      simp [hopen]

theorem releaseHolds_eq (hoperator : actor.kind = .operator)
    (hprincipal : Text.blank actor.principal = false) (holds : List Hold)
    (hactive : ∀ h ∈ holds, h.state = .active)
    (hrows : ∀ h ∈ holds, ∃ current, s.holds.get? h.id = some current ∧ current.runID = h.runID) :
    releaseHolds actor now s holds =
      .ok ({ s with
              holds :=
                s.holds.putAll (holds.map fun h => { h with state := .released, releasedAt := some now }) },
        holds.map Hold.id) := by
  induction holds generalizing s with
  | nil => rfl
  | cons hold rest ih =>
    obtain ⟨current, hrow, hrun⟩ := hrows hold (.head _)
    have hrest : ∀ h ∈ rest, ∃ current,
        (s.holds.put { hold with state := .released, releasedAt := some now }).get? h.id =
          some current ∧ current.runID = h.runID := fun h hh =>
      exists_get?_put_of_same hrow hrun (hrows h (.tail _ hh))
    have ih := @ih { s with holds := s.holds.put { hold with state := .released, releasedAt := some now } }
      (fun h hh => hactive h (.tail _ hh)) hrest
    unfold releaseHolds
    rw [holdTransition_release (hactive hold (.head _)) hoperator hprincipal]
    simp [saveSupervisionHold, hrow, hrun, ih]

/-! ## Gates -/

def openGates (s : Store) (runID : String) : List Gate :=
  (s.loadSupervisionGates runID).filter fun g => !(g.state = .accepted ∨ g.state = .cancelled)

variable {record : SupervisionRecord} {runID : String}

theorem cancelGates_filter (gates : List Gate) : cancelGates actor commandID reason now s record runID gates =
      cancelGates actor commandID reason now s record runID
        (gates.filter fun g => !(g.state = .accepted ∨ g.state = .cancelled)) := by
  induction gates generalizing s with
  | nil => rfl
  | cons gate rest ih =>
    by_cases hclosed : gate.state = .accepted ∨ gate.state = .cancelled
    · rw [List.filter_cons_of_neg (by simp [hclosed]), cancelGates, if_pos hclosed, ih]
    · rw [List.filter_cons_of_pos (by simp [hclosed]), cancelGates, cancelGates, if_neg hclosed,
        if_neg hclosed]
      simp only [ih]

theorem cancelGates_single {gate : Gate} (hgate : s.gates.get? gate.definition.id = some gate)
    (hopen : ¬(gate.state = .accepted ∨ gate.state = .cancelled))
    (hid : s.decisions.get? ("cancel-gate:" ++ commandID ++ ":" ++ gate.definition.id) = none)
    (hrequest : ∀ d ∈ s.decisions.rows, d.runID = runID → d.requestID ≠ commandID) :
    cancelGates actor commandID reason now s record runID [gate] =
      .ok ({ s with
              gates := s.gates.put (cancelledGate now gate .cancelled)
              decisions :=
                s.decisions.put (cancelDecision actor commandID reason now record runID gate) },
        [gate.definition.id]) := by
  have hsave : s.saveSupervisionGate (cancelledGate now gate .cancelled) =
      .ok { s with gates := s.gates.put (cancelledGate now gate .cancelled) } := by
    simp [saveSupervisionGate, cancelledGate, hgate]
  have happend := (@appendGateDecision_ok_iff
    { s with gates := s.gates.put (cancelledGate now gate .cancelled) }
    (cancelDecision actor commandID reason now record runID gate) _).2 ⟨hid, hrequest, rfl⟩
  unfold cancelGates
  rw [if_neg hopen, gateTransition_runCancelled (not_or.1 hopen).2]
  simp [hsave, happend, cancelGates]

/-- Two open gates need the same request twice, which the log refuses. -/
theorem cancelGates_two {first second : Gate} {rest : List Gate}
    (hfirst : ¬(first.state = .accepted ∨ first.state = .cancelled))
    (hsecond : ¬(second.state = .accepted ∨ second.state = .cancelled)) (r : Store × List String) :
    cancelGates actor commandID reason now s record runID (first :: second :: rest) ≠ .ok r := by
  intro h
  unfold cancelGates at h
  rw [if_neg hfirst] at h
  obtain ⟨next, -, h⟩ := of_bind h
  obtain ⟨s₁, -, h⟩ := of_bind h
  obtain ⟨s₂, happend, h⟩ := of_bind h
  obtain ⟨x, h, -⟩ := of_bind h
  unfold cancelGates at h
  rw [if_neg hsecond] at h
  obtain ⟨next', -, h⟩ := of_bind h
  obtain ⟨s₃, hsave, h⟩ := of_bind h
  obtain ⟨s₄, happend', -⟩ := of_bind h
  -- the first gate's decision is in the log when the second asks for the same request
  have hlogged : cancelDecision actor commandID reason now record runID first ∈
    s₂.decisions.rows := by
    rw [(appendGateDecision_ok_iff.1 happend).2.2]
    exact mem_put_iff.2 (.inl rfl)
  have hkept : s₃.decisions = s₂.decisions := by rw [saveSupervisionGate_ok hsave]
  rw [← hkept] at hlogged
  exact (appendGateDecision_ok_iff.1 happend').2.1 _ hlogged rfl rfl

/-! ## The whole closure -/

/-- The supervision of a run is closed: nothing of it is open, and the log gained one entry for each
gate that was open, and nothing else. -/
structure SupervisionClosed (actor : Actor) (commandID reason : String) (now : Time) (runID : String)
    (record : SupervisionRecord) (s s' : Store) (closure : RunSupervisionClosure) : Prop where
  incidents : ∀ i ∈ s'.incidents.rows, i.runID = runID → i.state ≠ .open ∧ i.state ≠ .escalated
  gates : ∀ g ∈ s'.gates.rows, g.runID = runID → g.state = .accepted ∨ g.state = .cancelled
  holds : ∀ h ∈ s'.holds.rows, h.runID = runID → h.state ≠ .active
  cancelled : closure.cancelledGates = (s.openGates runID).map fun g => g.definition.id
  decisions : ∀ d, d ∈ s'.decisions.rows ↔ d ∈ s.decisions.rows ∨
    ∃ g ∈ s.openGates runID, d = cancelDecision actor commandID reason now record runID g

theorem incidents_resolved {i : ReviewIncident}
    (h : i ∈ (s.incidents.putAll (((s.loadSupervisionIncidents runID).filter fun i =>
      i.state.unresolved).map fun i =>
        cancelledIncident actor commandID reason now i .resolved)).rows) (hrun : i.runID = runID) :
    i.state ≠ .open ∧ i.state ≠ .escalated := by
  rcases mem_putAll h with hput | ⟨hold, hkept⟩
  · obtain ⟨j, -, rfl⟩ := List.mem_map.1 hput
    simp [cancelledIncident]
  · rw [← unresolved_eq_false_iff, ← Bool.not_eq_true]
    intro hopen
    have hmem : i ∈ (s.loadSupervisionIncidents runID).filter fun i => i.state.unresolved :=
      List.mem_filter.2 ⟨List.mem_filter.2 ⟨hold, by simp [hrun]⟩, hopen⟩
    exact hkept _ (List.mem_map_of_mem hmem) rfl

theorem holds_released {h : Hold}
    (hmem : h ∈ (s.holds.putAll ((s.loadSupervisionHolds runID .active).map fun h =>
      { h with state := .released, releasedAt := some now })).rows) (hrun : h.runID = runID) :
    h.state ≠ .active := by
  rcases mem_putAll hmem with hput | ⟨hold, hkept⟩
  · obtain ⟨g, -, rfl⟩ := List.mem_map.1 hput
    simp
  · intro hactive
    have hload : h ∈ s.loadSupervisionHolds runID .active :=
      List.mem_filter.2 ⟨hold, by simp [hrun, hactive]⟩
    exact hkept _ (List.mem_map_of_mem hload) rfl

theorem mem_openGates {g : Gate} : g ∈ s.openGates runID ↔
    g ∈ s.gates.rows ∧ g.runID = runID ∧ ¬(g.state = .accepted ∨ g.state = .cancelled) := by
  rw [openGates, loadSupervisionGates, List.mem_filter, List.mem_filter]
  simp [and_assoc]

theorem gates_closed {g : Gate}
    (h : g ∈ (s.gates.putAll ((s.openGates runID).map fun g => cancelledGate now g .cancelled)).rows)
    (hrun : g.runID = runID) : g.state = .accepted ∨ g.state = .cancelled := by
  rcases mem_putAll h with hput | ⟨hold, hkept⟩
  · obtain ⟨f, -, rfl⟩ := List.mem_map.1 hput
    exact .inr rfl
  · by_contra hopen
    exact hkept _ (List.mem_map_of_mem (mem_openGates.2 ⟨hold, hrun, hopen⟩)) rfl

theorem mem_decisions_iff (hfew : (s.openGates runID).length ≤ 1) (hid : ∀ g ∈ s.openGates runID,
      s.decisions.get? ("cancel-gate:" ++ commandID ++ ":" ++ g.definition.id) = none)
    (d : GateDecision) :
    d ∈ (s.decisions.putAll ((s.openGates runID).map
        (cancelDecision actor commandID reason now record runID))).rows ↔
      d ∈ s.decisions.rows ∨
        ∃ g ∈ s.openGates runID, d = cancelDecision actor commandID reason now record runID g := by
  match hlist : s.openGates runID with
  | [] => simp
  | [gate] =>
    have hnew := hid gate (by simp [hlist])
    rw [List.map_singleton, putAll_cons, putAll_nil, mem_put_iff]
    constructor
    · rintro (rfl | ⟨hd, -⟩)
      · exact .inr ⟨gate, by simp, rfl⟩
      · exact .inl hd
    · rintro (hd | ⟨g, hg, rfl⟩)
      · refine .inr ⟨hd, fun hsame => ?_⟩
        rw [mem_rows_iff, hsame] at hd
        cases (hnew.symm.trans hd)
      · rw [List.mem_singleton.1 hg]
        exact .inl rfl
  | _ :: _ :: _ =>
    rw [hlist] at hfew
    simp at hfew

theorem cancelGates_spec (hrequest : ∀ d ∈ s.decisions.rows, d.runID = runID →
    d.requestID ≠ commandID) (hid : ∀ g ∈ s.openGates runID,
      s.decisions.get? ("cancel-gate:" ++ commandID ++ ":" ++ g.definition.id) = none) :
    ((s.openGates runID).length ≤ 1 ∧
      cancelGates actor commandID reason now s record runID (s.loadSupervisionGates runID) =
        .ok ({ s with
                gates :=
                  s.gates.putAll ((s.openGates runID).map fun g => cancelledGate now g .cancelled)
                decisions :=
                  s.decisions.putAll ((s.openGates runID).map
                    (cancelDecision actor commandID reason now record runID)) },
          (s.openGates runID).map fun g => g.definition.id)) ∨
    (1 < (s.openGates runID).length ∧ ∀ r,
      cancelGates actor commandID reason now s record runID (s.loadSupervisionGates runID) ≠
      .ok r) := by
  have hopen : ∀ g ∈ s.openGates runID, ¬(g.state = .accepted ∨ g.state = .cancelled) :=
    fun g hg => (mem_openGates.1 hg).2.2
  have hrow : ∀ g ∈ s.openGates runID, s.gates.get? g.definition.id = some g :=
    fun g hg => mem_rows_iff.1 (mem_openGates.1 hg).1
  rw [cancelGates_filter, ← openGates]
  match hlist : s.openGates runID with
  | [] => exact .inl ⟨by simp, by simp [cancelGates]⟩
  | [gate] =>
    have hmem : gate ∈ s.openGates runID := by simp [hlist]
    refine .inl ⟨by simp, ?_⟩
    rw [cancelGates_single (hrow gate hmem) (hopen gate hmem) (hid gate hmem) hrequest]
    rfl
  | first :: second :: rest =>
    refine .inr ⟨by simp, fun r => cancelGates_two (hopen first ?_) (hopen second ?_) r⟩ <;>
      simp [hlist]

/-- Closing a supervised run with an unused command succeeds, and then closes its supervision,
exactly when at most one of its gates is neither accepted nor cancelled. -/
theorem closeRunSupervision_spec (s : Store) (runID : String) (actor : Actor)
    (commandID reason : String) (now : Time) (state : SupervisionContext)
    (hsupervised : s.supervisionContext runID = some state)
    (hoperator : actor.kind = .operator) (hprincipal : Text.blank actor.principal = false)
    (hrequest : ∀ d ∈ s.decisions.rows, d.runID = runID → d.requestID ≠ commandID)
    (hid : ∀ g ∈ s.gates.rows, g.runID = runID →
      s.decisions.get? ("cancel-gate:" ++ commandID ++ ":" ++ g.definition.id) = none) :
    ((∃ r, closeRunSupervision s actor commandID reason now runID = .ok r) ↔ (s.openGates runID).length ≤ 1) ∧
    ∀ s' closure, closeRunSupervision s actor commandID reason now runID = .ok (s', closure) →
      SupervisionClosed actor commandID reason now runID state.record s s' closure := by
  have hgates := supervisionContext_rows hsupervised
  have hactive : ∀ h ∈ s.loadSupervisionHolds runID .active, h.state = .active := by
    intro h hh
    have hstate := (List.mem_filter.1 hh).2
    simp only [decide_eq_true_eq] at hstate
    exact hstate.2.resolve_left (by decide)
  have hincidentRows : ∀ i ∈ s.loadSupervisionIncidents runID, ∃ current,
      s.incidents.get? i.id = some current ∧ current.runID = i.runID :=
    fun i hi => ⟨i, mem_rows_iff.1 (List.mem_of_mem_filter hi), rfl⟩
  have hholdRows : ∀ h ∈ s.loadSupervisionHolds runID .active, ∃ current,
      s.holds.get? h.id = some current ∧ current.runID = h.runID :=
    fun h hh => ⟨h, mem_rows_iff.1 (List.mem_of_mem_filter hh), rfl⟩
  unfold closeRunSupervision
  rw [hsupervised]
  simp only [resolveIncidents_eq _ hincidentRows, ok_bind, hgates.1, hgates.2]
  generalize hincidents : s.incidents.putAll (((s.loadSupervisionIncidents runID).filter fun i =>
    i.state.unresolved).map fun i => cancelledIncident actor commandID reason now i .resolved) =
      incidents
  rcases @cancelGates_spec { s with incidents := incidents } actor commandID reason now state.record
    runID hrequest (fun g hg => hid g (mem_openGates.1 hg).1 (mem_openGates.1 hg).2.1)
    with ⟨hfew, hcancel⟩ | ⟨hmany, hcancel⟩
  · have hload : ({ s with incidents := incidents } : Store).loadSupervisionGates runID =
      s.loadSupervisionGates runID := rfl
    rw [hload] at hcancel
    rw [hcancel]
    simp only [ok_bind]
    rw [releaseHolds_eq hoperator hprincipal _ hactive (by exact hholdRows)]
    refine ⟨⟨fun _ => hfew, fun _ => ⟨_, rfl⟩⟩, fun s' closure hok => ?_⟩
    cases hok
    refine ⟨fun i hi hrun => ?_, fun g hg hrun => ?_, fun h hh hrun => holds_released hh hrun, rfl,
      fun d => ?_⟩
    · subst hincidents
      exact incidents_resolved hi hrun
    · exact gates_closed hg hrun
    · exact mem_decisions_iff hfew (fun g hg => hid g (mem_openGates.1 hg).1
        (mem_openGates.1 hg).2.1) d
  · refine ⟨⟨fun ⟨r, hr⟩ => ?_, fun hfew => absurd hmany (not_lt.2 hfew)⟩, fun s' closure hr => ?_⟩
    all_goals
      obtain ⟨x, hx, -⟩ := of_bind hr
      exact absurd hx (hcancel x)

/-! ## What a closure writes -/

section

variable {s' : Store} {ids : List String}

theorem resolveIncidents_ok {incidents : List ReviewIncident}
    (h : resolveIncidents actor commandID reason now s incidents = .ok (s', ids)) :
    ∃ incidents, s' = { s with incidents := incidents } := by
  induction incidents generalizing s ids with
  | nil => exact ⟨_, (Prod.mk.inj (ok.inj h)).1.symm⟩
  | cons incident rest ih =>
    unfold resolveIncidents at h
    split_ifs at h
    · exact ih h
    · obtain ⟨_, -, h⟩ := of_bind h
      obtain ⟨⟨mid, others⟩, hrest, h⟩ := of_bind h
      cases h
      obtain ⟨incidents, rfl⟩ := ih hrest
      exact ⟨incidents, rfl⟩

theorem releaseHolds_ok {holds : List Hold} (h : releaseHolds actor now s holds = .ok (s', ids)) :
    ∃ holds, s' = { s with holds := holds } := by
  induction holds generalizing s ids with
  | nil => exact ⟨_, (Prod.mk.inj (ok.inj h)).1.symm⟩
  | cons hold rest ih =>
    obtain ⟨_, -, h⟩ := of_bind h
    obtain ⟨⟨mid, others⟩, hrest, h⟩ := of_bind h
    cases h
    obtain ⟨holds, rfl⟩ := ih hrest
    exact ⟨holds, rfl⟩

def CancelsGates (now : Time) (s s' : Store) : Prop :=
  ∀ id, s'.gates.get? id = s.gates.get? id ∨ ∃ g, s.gates.get? id = some g ∧
    ¬(g.state = .accepted ∨ g.state = .cancelled) ∧
    s'.gates.get? id = some (cancelledGate now g .cancelled)

theorem cancelGates_ok {gates : List Gate} (hrow : ∀ g ∈ gates, s.gates.get? g.definition.id = some g)
    (h : cancelGates actor commandID reason now s record runID gates = .ok (s', ids)) :
    (∃ gates decisions, s' = { s with gates := gates, decisions := decisions }) ∧
      CancelsGates now s s' := by
  rw [cancelGates_filter] at h
  generalize hlist : gates.filter (fun g => !(g.state = .accepted ∨ g.state = .cancelled)) =
    opened at h
  have hopen : ∀ g ∈ opened, g ∈ gates ∧ ¬(g.state = .accepted ∨ g.state = .cancelled) := by
    intro g hg
    rw [← hlist] at hg
    simpa using hg
  match opened with
  | [] =>
    cases h
    exact ⟨⟨_, _, rfl⟩, fun id => .inl rfl⟩
  | [gate] =>
    obtain ⟨hmem, hgate⟩ := hopen gate (.head _)
    unfold cancelGates at h
    rw [if_neg hgate, gateTransition_runCancelled (not_or.1 hgate).2, ok_bind] at h
    obtain ⟨s₁, hsave, h⟩ := of_bind h
    obtain ⟨s₂, hlog, h⟩ := of_bind h
    cases h
    obtain rfl := saveSupervisionGate_ok hsave
    obtain ⟨-, -, rfl⟩ := appendGateDecision_ok_iff.1 hlog
    refine ⟨⟨_, _, rfl⟩, fun id => ?_⟩
    by_cases hid : gate.definition.id = id
    · subst hid
      exact .inr ⟨gate, hrow gate hmem, hgate, get?_put_self _ _⟩
    · exact .inl (get?_put_of_ne _ hid)
  | first :: second :: rest =>
    exact absurd h (cancelGates_two (hopen first (.head _)).2 (hopen second (.tail _ (.head _))).2 _)

theorem closeRunSupervision_ok {closure : RunSupervisionClosure}
    (h : s.closeRunSupervision actor commandID reason now runID = .ok (s', closure)) :
    (∃ incidents gates decisions holds supervision,
      s' = { s with
        incidents := incidents, gates := gates, decisions := decisions, holds := holds
        supervision := supervision }) ∧
      CancelsGates now s s' := by
  unfold closeRunSupervision at h
  split at h
  · cases h
    exact ⟨⟨_, _, _, _, _, rfl⟩, fun id => .inl rfl⟩
  · rename_i state hstate
    have hgates := (supervisionContext_rows hstate).1
    obtain ⟨⟨s₁, resolved⟩, hresolve, h⟩ := of_bind h
    obtain ⟨⟨s₂, cancelled⟩, hcancel, h⟩ := of_bind h
    obtain ⟨⟨s₃, released⟩, hrelease, h⟩ := of_bind h
    cases h
    obtain ⟨incidents, rfl⟩ := resolveIncidents_ok hresolve
    have hrows : ∀ g ∈ state.gates, s.gates.get? g.definition.id = some g := by
      rw [hgates]
      exact fun g hg => mem_rows_iff.1 (List.mem_filter.1 hg).1
    obtain ⟨⟨gates, decisions, rfl⟩, hmoves⟩ :=
      cancelGates_ok (s := { s with incidents := incidents }) hrows hcancel
    obtain ⟨holds, rfl⟩ := releaseHolds_ok hrelease
    exact ⟨⟨_, _, _, _, _, rfl⟩, hmoves⟩

end

def supervisedRun (gates : List Gate) : Store :=
  { workflowRuns := ofList WorkflowRun.id [{ id := "run", supervision := some {} }]
    gates := ofList (fun g : Gate => g.definition.id) gates
    incidents := ofList ReviewIncident.id [{ id := "incident", runID := "run", state := .open }]
    holds := ofList Hold.id [{ id := "hold", runID := "run", state := .active }] }

def cancellingOperator : Actor := { kind := .operator, principal := "operator" }

theorem supervisedRun_closes : ∃ s' closure, closeRunSupervision
        (supervisedRun [{ definition := { id := "gate" }, runID := "run", state := .held }])
        cancellingOperator "command" "reason" 5 "run" = .ok (s', closure) ∧
      closure.cancelledGates = ["gate"] ∧
      ∀ g ∈ s'.gates.rows, g.runID = "run" → g.state = .accepted ∨ g.state = .cancelled := by
  obtain ⟨hiff, hclosed⟩ := closeRunSupervision_spec
    (supervisedRun [{ definition := { id := "gate" }, runID := "run", state := .held }]) "run"
    cancellingOperator "command" "reason" 5 _ rfl rfl rfl (by rintro d ⟨⟩) (fun _ _ _ => rfl)
  obtain ⟨⟨s', closure⟩, hok⟩ := hiff.2 (by decide)
  have h := hclosed s' closure hok
  exact ⟨s', closure, hok, h.cancelled, h.gates⟩

/-- A run with two open gates cannot be closed. -/
theorem two_open_gates_never_close :
    ¬∀ (s : Store) (runID : String) (actor : Actor) (commandID reason : String) (now : Time)
      (state : SupervisionContext), s.supervisionContext runID = some state →
      actor.kind = .operator → Text.blank actor.principal = false →
      (∀ d ∈ s.decisions.rows, d.runID = runID → d.requestID ≠ commandID) →
      (∀ g ∈ s.gates.rows, g.runID = runID →
        s.decisions.get? ("cancel-gate:" ++ commandID ++ ":" ++ g.definition.id) = none) →
      ∃ r, closeRunSupervision s actor commandID reason now runID = .ok r := by
  intro h
  obtain ⟨r, hr⟩ := h (supervisedRun [{ definition := { id := "first" }, runID := "run", state := .held },
      { definition := { id := "second" }, runID := "run", state := .escalated }])
    "run" cancellingOperator "command" "reason" 5 _ rfl rfl rfl (by rintro d ⟨⟩) (fun _ _ _ => rfl)
  exact absurd hr (by rintro ⟨⟩)

end Steward.Store
