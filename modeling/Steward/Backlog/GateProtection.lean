import Steward.Backlog.RunCancellation
import Steward.Store.GateEvidence

/-!
# Gate protection

Supervision decisions, the advance of gates, cancels and the work of the tasks rewrite the rows of a
run's gates one transaction after another. A task behind a gate is admitted only by an acceptance
that is the gate's latest change.
-/

namespace Steward

open Runs List

/-- What happens in a supervised store: a decision, an advance of the gates, a whole-run cancel, or
work that leaves the rows of gates alone. -/
inductive GateOp
  | decision (now : Time) (payload : SupervisionPayload)
  | advance (runID : String) (requested now : Time)
  | cancel (commandID : String) (now : Time)
  | work (next : Store)

namespace Store

/-- The evidence lists, for every task the gate observes, an attempt of it that has succeeded. -/
def EvidenceOfSuccess (s : Store) (runID : String) (gate : Gate) (evidence : EvidenceSnapshot) :
    Prop :=
  evidence.graphRevision = gate.graphRevision ∧
    ∀ taskID ∈ gate.definition.observedTaskIDs, ∃ p ∈ evidence.producers, ∃ a,
      s.attempts.get? p.attemptID = some a ∧ a.workflowRunID = runID ∧ a.taskID = taskID ∧
        a.progress = .succeeded ∧ a.revision = p.resultRevision

/-- An acceptance of a gate that is ready for review, which names its graph revision and shows that
every task it observes has succeeded. -/
def Accepts (s : Store) (gateID : String) : GateOp → Prop
  | .decision _ (.gateDecision request) => ∃ gate, s.gates.get? gateID = some gate ∧
      request.gateID = gateID ∧ request.runID = gate.runID ∧ request.outcome = .accept ∧
      gate.state = .readyForReview ∧ request.expectedGraphRevision = gate.graphRevision ∧
      s.EvidenceOfSuccess gate.runID gate request.evidence
  | _ => False

/-- An operator's reconsideration of a gate whose evidence is complete. -/
def Reconsiders (evidenceDigest : EvidenceDigest) (s : Store) (gateID : String) : GateOp → Prop
  | .decision _ (.gateReconsider request) => ∃ gate, s.gates.get? gateID = some gate ∧
      request.gateID = gateID ∧ request.runID = gate.runID ∧ request.actor.kind = .operator ∧
      (s.supervisionGateEvidence evidenceDigest gate.runID gate).2 = true
  | _ => False

def gateState (s : Store) (gateID : String) : Option GateState :=
  (s.gates.get? gateID).map Gate.state

section

variable (evidenceDigest : EvidenceDigest) (payloadDigest : SupervisionPayload → String)
  (resolveNode : Store → NodeRef → Except Err NodeObservation) (formatTime : Time → String)

def gateStep (s : Store) : GateOp → Store
  | .decision now payload =>
    committed s ((s.decideSupervision evidenceDigest payloadDigest now payload).map Prod.fst)
  | .advance runID requested now =>
    committed s ((s.advanceSupervisionGates evidenceDigest runID requested now).map Prod.fst)
  | .cancel commandID now =>
    committed s ((s.cancelRun resolveNode formatTime commandID now).map Prod.fst)
  | .work next => { next with gates := s.gates }

end

/-- How an operation moves a gate. -/
inductive GateMove (evidenceDigest : EvidenceDigest) (s : Store) (gateID : String) (op : GateOp) :
    Option GateState → Option GateState → Prop
  | kept (state : Option GateState) : GateMove evidenceDigest s gateID op state state
  | accepted (haccepts : s.Accepts gateID op) :
      GateMove evidenceDigest s gateID op (some .readyForReview) (some .accepted)
  | rejected : GateMove evidenceDigest s gateID op (some .readyForReview) (some .held)
  | reconsidered (hreconsiders : Reconsiders evidenceDigest s gateID op) {state : GateState}
      (hstate : state = .held ∨ state = .escalated) :
      GateMove evidenceDigest s gateID op (some state) (some .readyForReview)
  | ready {state : GateState} (hstate : state.pending) :
      GateMove evidenceDigest s gateID op (some state) (some .readyForReview)
  | cancelled {state : GateState} (hstate : ¬(state = .accepted ∨ state = .cancelled)) :
      GateMove evidenceDigest s gateID op (some state) (some .cancelled)

section

variable {evidenceDigest : EvidenceDigest} {payloadDigest : SupervisionPayload → String}
  {resolveNode : Store → NodeRef → Except Err NodeObservation} {formatTime : Time → String}
  {s s' : Store} {gateID : String} {now : Time} {d : SupervisionDecision}

variable {op : GateOp} {gate : Gate} {next state : Option GateState}

theorem evidenceOfSuccess_of_matches {runID : String} {evidence : EvidenceSnapshot}
    (h : s.supervisionEvidenceMatches runID evidence gate = true) :
    s.EvidenceOfSuccess runID gate evidence := by
  obtain ⟨-, hrevision, hproducers, hobserved⟩ := supervisionEvidenceMatches_iff.1 h
  refine ⟨hrevision, fun taskID htask => ?_⟩
  obtain ⟨p, hp, rfl⟩ := hobserved taskID htask
  obtain ⟨a, hget, hrun, htask, hsucceeded, hrevision⟩ := producerMatches_attempt (hproducers p hp)
  exact ⟨p, hp, a, hget, hrun, htask, hsucceeded, hrevision⟩

theorem gateMove_of_same (h : s'.gates = s.gates) :
    GateMove evidenceDigest s gateID op (s.gateState gateID) (s'.gateState gateID) := by
  unfold gateState
  rw [h]
  exact .kept _

theorem gateMove_of_put {id : String} {written : Gate} (hput : s'.gates = s.gates.put written)
    (hgate : s.gates.get? id = some gate) (hsame : written.definition.id = gate.definition.id)
    (hmove : id = gateID → GateMove evidenceDigest s gateID op (some gate.state) (some written.state)) :
    GateMove evidenceDigest s gateID op (s.gateState gateID) (s'.gateState gateID) := by
  have hkey := Table.key_of_get? hgate
  obtain rfl : written.definition.id = id := hsame.trans hkey
  unfold gateState
  by_cases hid : written.definition.id = gateID
  · subst hid
    rw [hput, Table.get?_put_self, hgate]
    exact hmove rfl
  · have hother : (s.gates.put written).get? gateID = s.gates.get? gateID :=
      Table.get?_put_of_ne _ hid
    rw [hput, hother]
    exact .kept _

theorem decideGate_moves {request : GateDecisionRequest}
    (hnew : s.supervisionReceipts.get? request.requestID = none)
    (h : s.decideGate evidenceDigest payloadDigest now request = .ok (s', d)) :
    GateMove evidenceDigest s gateID (.decision now (.gateDecision request)) (s.gateState gateID)
      (s'.gateState gateID) := by
  have hcheck := (@decideSupervision_ok _ _ _ _ _ _ (.gateDecision request) hnew h).1
  obtain ⟨state, gate, next, -, hgate, hrun, hnext, hgates, -⟩ := decideGate_ok hnew h
  refine gateMove_of_put hgates hgate rfl fun hname => ?_
  obtain ⟨-, hmoved⟩ := gateTransition_row hnext
  by_cases hreject : request.outcome = .reject
  · obtain ⟨rfl, hready⟩ := hmoved.of_reject (if_pos hreject)
    rw [hready]
    exact .rejected
  · have haccept : request.outcome = .accept := by
      by_contra hother
      simp [SupervisionPayload.check, hreject, hother] at hcheck
    obtain ⟨rfl, hready, hrevision, hmatches⟩ := hmoved.of_accept (if_neg hreject)
    have haccepts : s.Accepts gateID (.decision now (.gateDecision request)) :=
      ⟨gate, hname ▸ hgate, hname, hrun.symm, haccept, hready, hrevision,
        hrun ▸ evidenceOfSuccess_of_matches hmatches⟩
    rw [hready]
    exact .accepted haccepts

theorem reconsiderGate_moves {request : GateReconsiderRequest}
    (hnew : s.supervisionReceipts.get? request.requestID = none)
    (h : s.reconsiderGate evidenceDigest payloadDigest now request = .ok (s', d)) :
    GateMove evidenceDigest s gateID (.decision now (.gateReconsider request)) (s.gateState gateID)
      (s'.gateState gateID) := by
  obtain ⟨-, -, state, _, _, _, _, -, happly, hsweep, -, rfl⟩ :=
    @decideSupervision_ok _ _ _ _ _ _ (.gateReconsider request) hnew h
  obtain ⟨_, _, rfl⟩ := releaseNarrowedOffers_ok hsweep
  obtain ⟨gate, next, hload, hnext, rfl⟩ := applyGateReconsider_ok happly
  obtain ⟨hgate, hrun⟩ := loadSupervisionGate_ok hload
  refine gateMove_of_put rfl hgate rfl fun hname => ?_
  obtain ⟨rfl, hstate, hoperator, hfresh⟩ := (gateTransition_row hnext).2.of_reconsider rfl
  have hreconsiders : Reconsiders evidenceDigest s gateID (.decision now (.gateReconsider request)) :=
    ⟨gate, hname ▸ hgate, hname, hrun.symm, hoperator, hrun ▸ hfresh⟩
  exact .reconsidered hreconsiders hstate

theorem decideSupervision_moves {payload : SupervisionPayload}
    (h : s.decideSupervision evidenceDigest payloadDigest now payload = .ok (s', d)) :
    GateMove evidenceDigest s gateID (.decision now payload) (s.gateState gateID)
      (s'.gateState gateID) := by
  cases hused : s.supervisionReceipts.get? payload.requestID with
  | some receipt =>
    rw [decideSupervision_replay (by rw [hused]; rfl) h]
    exact .kept _
  | none =>
    obtain ⟨-, -, state, mid, applied, swept, out, -, happly, hsweep, -, hs'⟩ :=
      decideSupervision_ok hused h
    obtain ⟨assignments, attempts, rfl⟩ := releaseNarrowedOffers_ok hsweep
    have hgates : s'.gates = mid.gates := by rw [hs']
    cases payload with
    | gateDecision request => exact decideGate_moves hused h
    | gateReconsider request => exact reconsiderGate_moves hused h
    | holdPlace request =>
      obtain ⟨_, -, -, -, rfl⟩ := applyHoldPlace_ok happly
      exact gateMove_of_same hgates
    | holdRelease request =>
      obtain ⟨_, rfl⟩ := applyHoldRelease_ok happly
      exact gateMove_of_same hgates
    | activationTransition request =>
      obtain ⟨_, _, rfl⟩ := applyActivationTransition_ok happly
      exact gateMove_of_same hgates
    | incidentOpen request =>
      obtain ⟨_, -, -, -, rfl⟩ := applyIncidentOpen_ok happly
      exact gateMove_of_same hgates
    | incidentResolve request =>
      obtain ⟨_, rfl⟩ := applyIncidentResolve_ok happly
      exact gateMove_of_same hgates

theorem cancelRun_moves {commandID : String} {command : AdminCommand}
    (h : s.cancelRun resolveNode formatTime commandID now = .ok (s', command)) :
    GateMove evidenceDigest s gateID (.cancel commandID now) (s.gateState gateID)
      (s'.gateState gateID) := by
  obtain ⟨pending, -, happly⟩ := cancelRun_pending h
  obtain ⟨target, htarget, hcases⟩ := applyPendingCommand_ok happly
  rcases hcases with ⟨-, -, hsame⟩ | ⟨_, written, closed, -, -, -, hwrite, hclose, -, hgates⟩
  · exact gateMove_of_same hsame
  · obtain ⟨-, -, hwritten⟩ := writeRunCancel_planned htarget hwrite
    have hmoves := (closeCancelledRun_ok hclose).2 gateID
    unfold gateState
    rw [hgates]
    rw [hwritten] at hmoves
    rcases hmoves with hsame | ⟨gate, hgate, hopen, hcancelled⟩
    · rw [hsame]
      exact .kept _
    · rw [hgate, hcancelled]
      exact .cancelled hopen

theorem gateStep_moves (op : GateOp) : GateMove evidenceDigest s gateID op (s.gateState gateID)
      ((gateStep evidenceDigest payloadDigest resolveNode formatTime s op).gateState gateID) := by
  cases op with
  | decision now payload =>
    change GateMove _ _ _ _ _ ((committed s
      ((s.decideSupervision evidenceDigest payloadDigest now payload).map Prod.fst)).gateState gateID)
    cases hdecide : s.decideSupervision evidenceDigest payloadDigest now payload with
    | error e => exact .kept _
    | ok r => exact decideSupervision_moves hdecide
  | advance runID requested now =>
    change GateMove _ _ _ _ _ ((committed s
      ((s.advanceSupervisionGates evidenceDigest runID requested now).map Prod.fst)).gateState gateID)
    cases hadvance : s.advanceSupervisionGates evidenceDigest runID requested now with
    | error e => exact .kept _
    | ok r =>
      obtain ⟨s', advanced⟩ := r
      rcases advanceSupervisionGates_ok hadvance gateID with hsame | ⟨gate, hgate, hpending, -,
        hready⟩
      · change GateMove _ _ _ _ _ ((s'.gates.get? gateID).map Gate.state)
        rw [hsame]
        exact .kept _
      · change GateMove _ _ _ _ _ ((s'.gates.get? gateID).map Gate.state)
        rw [hready, gateState, hgate]
        exact .ready hpending
  | cancel commandID now =>
    change GateMove _ _ _ _ _ ((committed s
      ((s.cancelRun resolveNode formatTime commandID now).map Prod.fst)).gateState gateID)
    cases hcancel : s.cancelRun resolveNode formatTime commandID now with
    | error e => exact .kept _
    | ok r => exact cancelRun_moves hcancel
  | work next => exact .kept _

def Shut (state : Option GateState) : Prop :=
  state = some .held ∨ state = some .escalated ∨ state = some .cancelled

theorem GateMove.accepts (h : GateMove evidenceDigest s gateID op state (some .accepted))
    (hne : state ≠ some .accepted) : s.Accepts gateID op := by
  cases h with
  | kept => exact absurd rfl hne
  | accepted haccepts => exact haccepts

theorem GateMove.reconsiders (h : GateMove evidenceDigest s gateID op state next)
    (hshut : Shut state) (hopen : ¬Shut next) : Reconsiders evidenceDigest s gateID op := by
  cases h with
  | kept => exact absurd hshut hopen
  | accepted | rejected => simp [Shut] at hshut
  | reconsidered hreconsiders => exact hreconsiders
  | ready hpending => rcases hpending with rfl | rfl <;> simp [Shut] at hshut
  | cancelled => simp [Shut] at hopen

theorem GateMove.of_cancelled (h : GateMove evidenceDigest s gateID op (some .cancelled) next) :
    next = some .cancelled := by
  cases h with
  | kept | cancelled => rfl
  | reconsidered _ hstate => rcases hstate with hstate | hstate <;> cases hstate
  | ready hpending => rcases hpending with hstate | hstate <;> cases hstate

/-- Over any run, from any store: a task behind a gate is admitted only when the gate's latest
change of state, if any, was an acceptance; a held or escalated gate is ready for review again only
after an operator's reconsideration; and a cancelled gate stays so. -/
theorem gate_protects (s : Store) (ops : List GateOp) :
    let after := Runs.run (gateStep evidenceDigest payloadDigest resolveNode formatTime) s
    (∀ runID query, ∀ g ∈ ((after ops).supervisionState runID).gates,
      g.definition.protects query.taskID = true →
      (supervisionAdmits ((after ops).supervisionState runID) query).admitted = true →
        (∀ l, l <+: ops → (after l).gateState g.definition.id = some .accepted) ∨
        ∃ earlier op later, ops = earlier ++ op :: later ∧
        (after earlier).Accepts g.definition.id op ∧
          ∀ l, l <+: later → (after (earlier ++ op :: l)).gateState
          g.definition.id = some .accepted) ∧
    (∀ gateID, s.gateState gateID = some .held ∨ s.gateState gateID = some .escalated →
      (after ops).gateState gateID = some .readyForReview → ∃ earlier op later,
          ops = earlier ++ op :: later ∧ Reconsiders evidenceDigest (after earlier) gateID op) ∧
    ∀ gateID, s.gateState gateID = some .cancelled →
      (after ops).gateState gateID = some .cancelled := by
  intro after
  have hmove : ∀ earlier op gateID, GateMove evidenceDigest (after earlier) gateID op
      ((after earlier).gateState gateID) ((after (earlier ++ [op])).gateState gateID) := by
    intro earlier op gateID
    change GateMove _ _ _ _ _ ((run _ s (earlier ++ [op])).gateState gateID)
    rw [run_append]
    exact gateStep_moves op
  refine ⟨fun runID query g hg hprotects hadmits => ?_, fun gateID hstart hend => ?_,
    fun gateID hstart => ?_⟩
  · have haccepted := (clears_of_admits (supervised_of_mem_gates hg) hadmits).2.2.2 g hg hprotects
    have hfinal : (after ops).gateState g.definition.id = some .accepted := by
      unfold gateState
      rw [mem_supervisionState_gates hg, Option.map_some, haccepted]
    rcases last_entry (I := fun t : Store => t.gateState g.definition.id = some .accepted) hfinal
      with hall | ⟨earlier, op, later, hops, hbefore, hafter⟩
    · exact .inl hall
    · refine .inr ⟨earlier, op, later, hops, ?_, hafter⟩
      have hentered := hmove earlier op g.definition.id
      rw [show (after (earlier ++ [op])).gateState g.definition.id = some .accepted from
        hafter [] nil_prefix] at hentered
      exact hentered.accepts hbefore
  · have hopen : ¬Shut ((after ops).gateState gateID) := by
      rw [hend]
      simp [Shut]
    rcases last_entry (I := fun t : Store => ¬Shut (t.gateState gateID)) hopen
      with hall | ⟨earlier, op, later, hops, hbefore, hafter⟩
    · refine absurd ?_ (hall [] nil_prefix)
      rcases hstart with hstart | hstart
      · exact .inl hstart
      · exact .inr (.inl hstart)
    · exact ⟨earlier, op, later, hops,
        (hmove earlier op gateID).reconsiders (not_not.1 hbefore) (hafter [] nil_prefix)⟩
  · refine run_invariant (I := fun t : Store => t.gateState gateID = some .cancelled)
      (P := fun _ _ => True) (fun t op ht _ => ?_) hstart (along_of_forall fun _ _ _ => trivial)
    exact GateMove.of_cancelled (ht ▸ gateStep_moves op)

end

def reviewedStep : Store → GateOp → Store :=
  gateStep revisionAndDigests (fun _ => "") noReferences fun _ => ""

def reviewedOps : List GateOp := [.decision 5 (.gateDecision (acceptance readEvidence))]

/-- An acceptance of the one gate of a run admits the task behind it. -/
theorem reviewedRun_protects :
    ∃ g ∈ ((Runs.run reviewedStep reviewedRun reviewedOps).supervisionState "run").gates,
      g.definition.protects "ship" = true ∧
      ∃ earlier op later, reviewedOps = earlier ++ op :: later ∧
        (Runs.run reviewedStep reviewedRun earlier).Accepts g.definition.id op := by
  have hgates : (((run reviewedStep reviewedRun reviewedOps).supervisionState "run").gates.map
      fun g => (g.definition.id, g.definition.protects "ship")) = [("gate", true)] := by
    decide
  obtain ⟨g, hg, hpair⟩ : ∃ g ∈ ((run reviewedStep reviewedRun reviewedOps).supervisionState
      "run").gates, (g.definition.id, g.definition.protects "ship") = ("gate", true) :=
    mem_map.1 (hgates ▸ mem_singleton.2 rfl)
  obtain ⟨hid, hprotects⟩ := Prod.mk.inj hpair
  have hadmits : (supervisionAdmits ((run reviewedStep reviewedRun reviewedOps).supervisionState
      "run") { taskID := "ship" }).admitted = true := by
    decide
  have hstart : reviewedRun.gateState "gate" = some .readyForReview := by
    decide
  refine ⟨g, hg, hprotects, ?_⟩
  rcases (gate_protects reviewedRun reviewedOps).1 "run" { taskID := "ship" } g hg hprotects hadmits
    with hall | ⟨earlier, op, later, hops, haccepts, -⟩
  · have haccepted := hall [] nil_prefix
    rw [hid] at haccepted
    exact absurd (hstart.symm.trans haccepted) (by decide)
  · exact ⟨earlier, op, later, hops, haccepts⟩

end Store

end Steward
