import Mathlib.Data.List.Forall2
import Steward.Domain.SinkSettlement
import Steward.Store.SupervisionDecisions

/-!
# The evidence an acceptance is bound to

`supervisionGateEvidenceTx` recomputes a gate's evidence from the latest attempts of the tasks it
observes; `supervisionEvidenceMatchesTx` checks what a decision lists. When the evidence an
acceptance records is the recomputed one.
-/

namespace Steward

open Except Table List

def ProducerEvidence.recomputable (p : ProducerEvidence) : ProducerEvidence :=
  { p with commitIdentities := [] }

/-- The recorded evidence is the recomputed one, under the identity the gate was made ready with. -/
def BoundTo (recorded recomputed : EvidenceSnapshot) (gate : Gate) : Prop :=
  recorded.id = recomputed.id ∧ recorded.graphRevision = recomputed.graphRevision ∧
    recorded.producers.map ProducerEvidence.recomputable = recomputed.producers ∧
    recorded.id = gate.evidenceSnapshotID

namespace Store

/-- A decision lists what the rows hold: for the observed tasks in order, the latest attempt with
its artifacts, under the identity of that list, which is the gate's. -/
def ListsRows (s : Store) (evidenceDigest : EvidenceDigest) (runID : String) (gate : Gate)
    (evidence : EvidenceSnapshot) : Prop :=
  gate.definition.observedTaskIDs ≠ [] ∧
    Forall₂ (fun taskID (p : ProducerEvidence) => p.taskID = taskID ∧
        ∃ a, currentAttempt runID s.attempts.rows taskID = some a ∧ p.attemptID = a.id ∧
          p.artifactDigests = s.attemptArtifactDigests a.id)
      gate.definition.observedTaskIDs evidence.producers ∧
    evidence.id =
      evidenceID evidenceDigest gate (evidence.producers.map ProducerEvidence.recomputable) ∧
    evidence.id = gate.evidenceSnapshotID

section

variable {s s' : Store} {runID taskID : String} {gate : Gate} {evidence : EvidenceSnapshot}
  {evidenceDigest : EvidenceDigest}

theorem producerEvidence_eq_some {q : ProducerEvidence} : s.producerEvidence runID taskID = some q ↔
      ∃ a, currentAttempt runID s.attempts.rows taskID = some a ∧ a.progress = .succeeded ∧
        q = { taskID := taskID, attemptID := a.id, resultRevision := a.revision
              artifactDigests := s.attemptArtifactDigests a.id } := by
  unfold producerEvidence succeededAttempt
  rw [Option.map_eq_some_iff]
  constructor
  · rintro ⟨a, ha, hq⟩
    obtain ⟨hcurrent, hsucceeded⟩ := Option.filter_eq_some_iff.1 ha
    exact ⟨a, hcurrent, by simpa using hsucceeded, hq.symm⟩
  · rintro ⟨a, hcurrent, hsucceeded, hq⟩
    exact ⟨a, Option.filter_eq_some_iff.2 ⟨hcurrent, by simpa using hsucceeded⟩, hq.symm⟩

theorem supervisionEvidenceMatches_iff : s.supervisionEvidenceMatches runID evidence gate = true ↔
      Text.blank evidence.id = false ∧ evidence.graphRevision = gate.graphRevision ∧
      (∀ p ∈ evidence.producers, s.producerMatches runID gate p = true) ∧
      ∀ taskID ∈ gate.definition.observedTaskIDs, ∃ p ∈ evidence.producers, p.taskID = taskID := by
  unfold supervisionEvidenceMatches
  simp only [Bool.and_eq_true, Bool.not_eq_true', decide_eq_true_eq, all_eq_true, any_eq_true,
    and_assoc]

theorem producerMatches_attempt {p : ProducerEvidence} (h : s.producerMatches runID gate p = true) :
    ∃ a, s.attempts.get? p.attemptID = some a ∧ a.workflowRunID = runID ∧ a.taskID = p.taskID ∧
      a.progress = .succeeded ∧ a.revision = p.resultRevision := by
  unfold producerMatches at h
  rw [Bool.and_eq_true, Bool.and_eq_true] at h
  cases hget : s.attempts.get? p.attemptID with
  | none => simp [hget] at h
  | some a =>
    refine ⟨a, rfl, ?_⟩
    simpa [hget] using h.1.2

theorem forall₂_iff_filterMap {α β γ : Type} {f : α → Option γ} {g : β → γ} {l : List α}
    {l' : List β} : Forall₂ (fun a b => f a = some (g b)) l l' ↔
      (∀ a ∈ l, (f a).isSome = true) ∧ l'.map g = l.filterMap f := by
  constructor
  · intro h
    induction h with
    | nil => simp
    | cons hab _ ih =>
      simp only [forall_mem_cons, map_cons, filterMap_cons_some hab, hab]
      exact ⟨⟨rfl, ih.1⟩, by rw [ih.2]⟩
  · induction l generalizing l' with
    | nil =>
      rintro ⟨-, hmap⟩
      rw [filterMap_nil, map_eq_nil_iff] at hmap
      rw [hmap]
      exact .nil
    | cons a l ih =>
      rintro ⟨hsome, hmap⟩
      obtain ⟨c, hc⟩ := Option.isSome_iff_exists.1 (hsome a (.head _))
      rw [filterMap_cons_some hc, map_eq_cons_iff] at hmap
      obtain ⟨b, rest, rfl, rfl, hrest⟩ := hmap
      exact .cons hc (ih ⟨fun x hx => hsome x (.tail _ hx), hrest⟩)

theorem supervisionGateEvidence_eq_iff (hid : evidence.id ≠ "") :
    (evidence.id = (s.supervisionGateEvidence evidenceDigest runID gate).1.id ∧
      evidence.producers.map ProducerEvidence.recomputable =
        (s.supervisionGateEvidence evidenceDigest runID gate).1.producers) ↔
      gate.definition.observedTaskIDs ≠ [] ∧
      Forall₂ (fun taskID p => s.producerEvidence runID taskID = some p.recomputable)
        gate.definition.observedTaskIDs evidence.producers ∧
      evidence.id =
        evidenceID evidenceDigest gate (evidence.producers.map ProducerEvidence.recomputable) := by
  rw [forall₂_iff_filterMap]
  unfold supervisionGateEvidence
  dsimp only
  split_ifs with hverified
  · constructor
    · rintro ⟨hsame, hproducers⟩
      exact ⟨hverified.1, ⟨hverified.2, hproducers⟩, by rw [hproducers]; exact hsame⟩
    · rintro ⟨-, ⟨-, hproducers⟩, hsame⟩
      exact ⟨by rw [← hproducers]; exact hsame, hproducers⟩
  · constructor
    · rintro ⟨hsame, -⟩
      exact absurd hsame hid
    · rintro ⟨hobserved, ⟨hall, -⟩, -⟩
      exact absurd ⟨hobserved, hall⟩ hverified

/-- A listed producer that passed the check is recomputed as it was listed exactly when it names the
latest attempt of its task and all of its artifacts. -/
theorem producerEvidence_listed_iff {p : ProducerEvidence}
    (h : s.producerMatches runID gate p = true) :
    s.producerEvidence runID taskID = some p.recomputable ↔
      p.taskID = taskID ∧ ∃ a, currentAttempt runID s.attempts.rows taskID = some a ∧
        p.attemptID = a.id ∧ p.artifactDigests = s.attemptArtifactDigests a.id := by
  rw [producerEvidence_eq_some]
  constructor
  · rintro ⟨a, hcurrent, -, hp⟩
    simp only [ProducerEvidence.recomputable, ProducerEvidence.mk.injEq] at hp
    exact ⟨hp.1, a, hcurrent, hp.2.1, hp.2.2.2.1⟩
  · rintro ⟨rfl, a, hcurrent, hattempt, hdigests⟩
    obtain ⟨b, hb, -, -, hsucceeded, hrevision⟩ := producerMatches_attempt h
    -- the check looked at the same row
    have hrow : s.attempts.get? a.id = some a :=
      mem_rows_iff.1 (mem_filter.1 (currentAttempt_eq_some hcurrent).1).1
    rw [hattempt, hrow, Option.some.injEq] at hb
    subst hb
    exact ⟨a, hcurrent, hsucceeded, by
      rw [← hdigests, ← hattempt, hrevision]
      rfl⟩

theorem boundTo_iff_listsRows (h : s.supervisionEvidenceMatches runID evidence gate = true) :
    BoundTo evidence (s.supervisionGateEvidence evidenceDigest runID gate).1 gate ↔
      s.ListsRows evidenceDigest runID gate evidence := by
  obtain ⟨hnamed, hgraph, hproducers, -⟩ := supervisionEvidenceMatches_iff.1 h
  have hid : evidence.id ≠ "" := by
    intro hempty
    rw [hempty] at hnamed
    revert hnamed
    decide
  have hrevision : (s.supervisionGateEvidence evidenceDigest runID gate).1.graphRevision =
      gate.graphRevision := by
    unfold supervisionGateEvidence
    dsimp only
    split_ifs <;> rfl
  have hlisted : Forall₂ (fun taskID p => s.producerEvidence runID taskID = some p.recomputable)
        gate.definition.observedTaskIDs evidence.producers ↔
      Forall₂ (fun taskID (p : ProducerEvidence) => p.taskID = taskID ∧
          ∃ a, currentAttempt runID s.attempts.rows taskID = some a ∧ p.attemptID = a.id ∧
            p.artifactDigests = s.attemptArtifactDigests a.id)
        gate.definition.observedTaskIDs evidence.producers := by
    rw [forall₂_iff_zip, forall₂_iff_zip]
    refine and_congr_right fun _ => ⟨fun hall taskID p hp => ?_, fun hall taskID p hp => ?_⟩
    · exact (producerEvidence_listed_iff (hproducers p (of_mem_zip hp).2)).1 (hall hp)
    · exact (producerEvidence_listed_iff (hproducers p (of_mem_zip hp).2)).2 (hall hp)
  unfold BoundTo ListsRows
  rw [hrevision, ← hlisted]
  constructor
  · rintro ⟨hsame, -, hrows, hgate⟩
    obtain ⟨hobserved, hall, hidentity⟩ := (supervisionGateEvidence_eq_iff hid).1 ⟨hsame, hrows⟩
    exact ⟨hobserved, hall, hidentity, hgate⟩
  · rintro ⟨hobserved, hall, hidentity, hgate⟩
    obtain ⟨hsame, hrows⟩ := (supervisionGateEvidence_eq_iff hid).2 ⟨hobserved, hall, hidentity⟩
    exact ⟨hsame, hgraph, hrows, hgate⟩

variable {payloadDigest : SupervisionPayload → String} {now : Time} {request : GateDecisionRequest}
  {d : SupervisionDecision}

/-- An accepting decision that commits found its gate ready for review and its evidence in order,
and leaves the gate accepted and itself in the log. -/
theorem decideGate_accepts (hnew : s.supervisionReceipts.get? request.requestID = none)
    (haccept : request.outcome = .accept)
    (h : s.decideGate evidenceDigest payloadDigest now request = .ok (s', d)) :
    ∃ gate recorded, s.gates.get? request.gateID = some gate ∧ gate.runID = request.runID ∧
      gate.state = .readyForReview ∧ request.expectedGraphRevision = gate.graphRevision ∧
      s.supervisionEvidenceMatches request.runID request.evidence gate = true ∧
      (s'.gates.get? request.gateID).map Gate.state = some .accepted ∧
      s'.decisions.get? recorded.id = some recorded ∧ recorded.gateID = request.gateID ∧
      recorded.outcome = .accept ∧ recorded.evidence = request.evidence := by
  obtain ⟨state, gate, next, -, hgate, hrun, hnext, hgates, hdecisions⟩ := decideGate_ok hnew h
  have hid := key_of_get? hgate
  have hevent : (if request.outcome = .reject then GateEvent.reject else .accept) = .accept := by
    rw [haccept]
    rfl
  obtain ⟨rfl, hready, hrevision, hmatches⟩ := (gateTransition_row hnext).2.of_accept hevent
  refine ⟨gate, recordedDecision now request state.record, hgate, hrun, hready, hrevision, hmatches,
    ?_, ?_, rfl, haccept, rfl⟩
  · simp [hgates, get?_put, decidedGate, hid]
  · rw [hdecisions]
    exact get?_put_self _ _

end

/-! ## Advancing gates -/

structure GateAdvance where
  gate : Gate
  evidence : EvidenceSnapshot
deriving DecidableEq

def advanceSupervisionGate (evidenceDigest : EvidenceDigest) (runID : String)
    (snapshot : SupervisionSnapshot) (at' : Time) (done : Store × List GateAdvance) (gate : Gate) :
    Except Err (Store × List GateAdvance) :=
  let (s, advanced) := done
  let (evidence, verified) := s.supervisionGateEvidence evidenceDigest runID gate
  if (gate.state ≠ .pendingEvidence ∧ gate.state ≠ .unset) ∨ !verified then .ok (s, advanced)
  else do
    let next ← gateTransition
      { gate := gate, event := .producersSucceeded, producersVerified := true
        sinkSettled := snapshot.runTerminal }
    let ready :=
      { gate with
        state := next, evidenceSnapshotID := evidence.id, revision := gate.revision + 1
        updatedAt := at' }
    let s ← s.saveSupervisionGate ready
    return (s, advanced ++ [{ gate := ready, evidence := evidence }])

def advanceSupervisionGates (s : Store) (evidenceDigest : EvidenceDigest) (runID : String)
    (requested now : Time) : Except Err (Store × List GateAdvance) :=
  match s.decisionContext runID with
  | none => .ok (s, [])
  | some state =>
    if state.snapshot.runTerminal ∨ state.snapshot.runCancelled then .ok (s, [])
    else
      state.snapshot.gates.foldlM
        (advanceSupervisionGate evidenceDigest runID state.snapshot (requested.orNow now)) (s, [])

section

variable {s s' : Store} {evidenceDigest : EvidenceDigest} {runID : String} {requested now : Time}
  {advanced : List GateAdvance}

/-- An advance changes only gates that waited for the evidence it found, and makes them ready. -/
theorem advanceSupervisionGates_ok
    (h : s.advanceSupervisionGates evidenceDigest runID requested now = .ok (s', advanced)) :
    ∀ id, s'.gates.get? id = s.gates.get? id ∨ ∃ gate, s.gates.get? id = some gate ∧
      gate.state.pending ∧ (s.supervisionGateEvidence evidenceDigest runID gate).2 = true ∧
      (s'.gates.get? id).map Gate.state = some .readyForReview := by
  unfold advanceSupervisionGates at h
  split at h
  · rw [(Prod.mk.inj (ok.inj h)).1]
    exact fun id => .inl rfl
  rename_i state hstate
  split_ifs at h with hover
  · rw [(Prod.mk.inj (ok.inj h)).1]
    exact fun id => .inl rfl
  have hgates : ∀ g ∈ state.snapshot.gates, s.gates.get? g.definition.id = some g :=
    fun g hg => mem_supervisionState_gates ((decisionContext_ok hstate).1 ▸ hg)
  -- the rows a fold has written so far leave the evidence of the others alone
  refine (foldlM_invariant (I := fun done : Store × List GateAdvance =>
    (∃ gates, done.1 = { s with gates := gates }) ∧
      ∀ id, done.1.gates.get? id = s.gates.get? id ∨ ∃ gate, s.gates.get? id = some gate ∧
        gate.state.pending ∧ (s.supervisionGateEvidence evidenceDigest runID gate).2 = true ∧
        (done.1.gates.get? id).map Gate.state = some .readyForReview)
    ?_ ⟨⟨s.gates, rfl⟩, fun id => .inl rfl⟩ h).2
  rintro ⟨t, before⟩ gate hgate ⟨t', after⟩ ⟨⟨gates, ht⟩, hkept⟩ hstep
  dsimp only at ht hkept
  unfold advanceSupervisionGate at hstep
  dsimp only at hstep
  split_ifs at hstep with hskip
  · cases hstep
    exact ⟨⟨gates, ht⟩, hkept⟩
  obtain ⟨next, hnext, hstep⟩ := of_bind hstep
  obtain ⟨u, hsave, hstep⟩ := of_bind hstep
  obtain rfl := (Prod.mk.inj (ok.inj hstep)).1
  have hu := saveSupervisionGate_ok hsave
  have hverified : (t.supervisionGateEvidence evidenceDigest runID gate).2 = true := by
    simpa using (not_or.1 hskip).2
  rw [ht] at hverified
  obtain ⟨rfl, hpending⟩ := (gateTransition_row hnext).2.of_producersSucceeded rfl
  have hwritten := congrArg Store.gates hu
  refine ⟨⟨u.gates, by rw [hu, ht]⟩, fun id => ?_⟩
  by_cases hid : gate.definition.id = id
  · subst hid
    refine .inr ⟨gate, hgates gate hgate, hpending, hverified, ?_⟩
    have hready := congrArg (fun t => t.get? gate.definition.id) hwritten
    rw [hready, get?_put, if_pos rfl]
    rfl
  · have hother : u.gates.get? id = t.gates.get? id := by
      rw [hwritten]
      exact get?_put_of_ne _ hid
    rw [hother]
    exact hkept id

end

/-! ## Two acceptances of one gate -/

def reviewedGate : Gate :=
  { definition := { id := "gate", observedTaskIDs := ["build"], protectedTaskIDs := ["ship"] }
    runID := "run", state := .readyForReview, evidenceSnapshotID := "evidence:gate:3b1", revision := 1 }

def reviewedRun : Store where
  workflowRuns := ofList WorkflowRun.id
    [{ id := "run", workflowID := "workflow", progress := .active }]
  supervision := ofList SupervisionRecord.runID [{ runID := "run", revision := 1 }]
  attempts := ofList Attempt.id
    [{ id := "build-1", workflowRunID := "run", taskID := "build", number := 1
       progress := .succeeded, revision := 3 }]
  artifacts := ofList Artifact.id
    [{ id := "binary", workflowRunID := "run", attemptID := "build-1", sha256 := "b1" }]
  gates := ofList (fun g : Gate => g.definition.id) [reviewedGate]

theorem reviewedRun_gate : reviewedRun.gates.get? "gate" = some reviewedGate := by
  decide

def revisionAndDigests : EvidenceDigest := fun _ _ producers =>
  String.join (producers.map fun p =>
    toString p.resultRevision ++ String.join (p.artifactDigests.map ArtifactDigest.digest))

def acceptance (evidence : EvidenceSnapshot) : GateDecisionRequest :=
  { runID := "run", gateID := "gate", requestID := "request", outcome := .accept, reason := "reviewed"
    actor := { kind := .operator, principal := "operator" }, expectedGateRevision := 1
    evidence := evidence }

def unreadEvidence : EvidenceSnapshot :=
  { id := "unread", producers := [{ taskID := "build", attemptID := "build-1", resultRevision := 3 }] }

def readEvidence : EvidenceSnapshot :=
  { id := "evidence:gate:3b1"
    producers :=
      [{ taskID := "build", attemptID := "build-1", resultRevision := 3
         artifactDigests := [{ artifactID := "binary", digest := "b1" }] }] }

end Store

end Steward
