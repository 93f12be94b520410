import Steward.Store.SupervisionDecisions

/-!
# The supervision of other runs

Holds, incidents and gates are written by identities their callers choose. The write of a gate
declines a row of another run; that of a hold or an incident replaces it.
-/

namespace Steward

open Except Table

structure SupervisionMaterialization where
  record : SupervisionRecord
  gates : List Gate

/-- The supervision of the other runs is as it was. -/
structure OthersKept (runID : String) (s s' : Store) : Prop where
  holds : SameOutside Hold.runID runID s.holds s'.holds
  incidents : SameOutside ReviewIncident.runID runID s.incidents s'.incidents
  gates : SameOutside Gate.runID runID s.gates s'.gates
  activations : SameOutside Activation.runID runID s.activations s'.activations

namespace Store

section

variable (s : Store) (now : Time)

def materializedRecord (record : SupervisionRecord) : SupervisionRecord :=
  match s.supervision.get? record.runID with
  | some current =>
    { current with config := record.config, revision := current.revision + 1, updatedAt := now }
  | none =>
    { record with
      activationEpoch := if record.activationEpoch < 1 then 1 else record.activationEpoch
      revision := 1
      createdAt := if record.createdAt = 0 then now else record.createdAt
      updatedAt := now }

def materializeGate (runID : String) (s : Store) (gate : Gate) : Except Err Store := do
  gate.definition.validate
  match s.loadSupervisionGate runID gate.definition.id with
  | .ok existing =>
    s.saveSupervisionGate
      { existing with definition := gate.definition, revision := existing.revision + 1, updatedAt := now }
  | .error _ =>
    s.saveSupervisionGate
      { gate with
        runID := runID, state := if gate.state = .unset then .pendingEvidence else gate.state
        revision := 1, updatedAt := now }

/-- Create or update the supervision of a run; `validate` checks its configuration. -/
def putSupervision (validate : SupervisionConfig → Except Err Unit)
    (materialization : SupervisionMaterialization) : Except Err (Store × SupervisionRecord) := do
  refuseWhen (Text.blank materialization.record.runID) { text := "a supervision record needs a run" }
  validate materialization.record.config
  let record := s.materializedRecord now materialization.record
  let s ← materialization.gates.foldlM (materializeGate now record.runID)
    (s.saveSupervisionRecord record)
  return (s, record)

def openReviewIncident (evidenceDigest : EvidenceDigest)
    (payloadDigest : SupervisionPayload → String) (request : IncidentRequest) : Except Err (Store × SupervisionDecision) :=
  s.decideSupervision evidenceDigest payloadDigest now (.incidentOpen request)

end

variable {s s' : Store} {now : Time} {runID : String} {d : SupervisionDecision} {gate : Gate}
  {evidenceDigest : EvidenceDigest} {payloadDigest : SupervisionPayload → String}

theorem othersKept_refl (runID : String) (s : Store) : OthersKept runID s s :=
  ⟨.refl _ _ _, .refl _ _ _, .refl _ _ _, .refl _ _ _⟩

theorem saveSupervisionHold_others_iff {hold : Hold} (hrun : hold.runID = runID) :
    OthersKept runID s (s.saveSupervisionHold hold) ↔ ∀ h, s.holds.get? hold.id = some h →
      h.runID = runID ∨ hold = { h with runID := runID } := by
  have hput := sameOutside_upsert_iff (t := s.holds) (fun h runID => { h with runID := runID })
    (fun _ _ => rfl) (fun _ _ => rfl) (fun _ _ => rfl) hrun
  exact ⟨fun h => hput.1 h.holds, fun h => { othersKept_refl runID s with holds := hput.2 h }⟩

theorem saveSupervisionIncident_others_iff {incident : ReviewIncident}
    (hrun : incident.runID = runID) :
    OthersKept runID s (s.saveSupervisionIncident incident) ↔ ∀ i, s.incidents.get?
      incident.id = some i → i.runID = runID ∨ incident = { i with runID := runID } := by
  have hput := sameOutside_upsert_iff (t := s.incidents)
    (fun i runID => { i with runID := runID })
    (fun _ _ => rfl) (fun _ _ => rfl) (fun _ _ => rfl) hrun
  exact ⟨fun h => hput.1 h.incidents, fun h => { othersKept_refl runID s with incidents := hput.2 h }⟩

theorem saveSupervisionGate_others (h : s.saveSupervisionGate gate = .ok s')
    (hrun : gate.runID = runID) : OthersKept runID s s' := by
  have hrow : ∀ r, s.gates.get? gate.definition.id = some r → r.runID = runID := by
    intro r hr
    simp only [saveSupervisionGate, hr] at h
    split_ifs at h with hsame
    exact hsame.trans hrun
  rw [saveSupervisionGate_ok h]
  have hput := sameOutside_put_iff (t := s.gates) (v := gate)
    (fun r hr => hrun.trans (hrow r hr).symm) fun _ => hrun
  exact { othersKept_refl runID s with gates := hput.2 fun r hr => .inl (hrow r hr) }

/-- A decision keeps the supervision of the others when it is a replay, and otherwise as its
operation does. -/
theorem decideSupervision_others_iff {payload : SupervisionPayload}
    (h : s.decideSupervision evidenceDigest payloadDigest now payload = .ok (s', d)) {P : Prop}
    (happly : ∀ state mid applied, payload.apply evidenceDigest now s state = .ok (mid, applied) →
      d.hold = applied.hold → d.incident = applied.incident → (OthersKept payload.runID s mid ↔ P)) :
    OthersKept payload.runID s s' ↔ (s.supervisionReceipts.get? payload.requestID).isSome ∨ P := by
  cases hused : s.supervisionReceipts.get? payload.requestID with
  | some receipt =>
    rw [decideSupervision_replay (by rw [hused]; rfl) h]
    exact iff_of_true (othersKept_refl _ s) (.inl rfl)
  | none =>
    obtain ⟨-, -, state, mid, applied, swept, out, -, hmid, hsweep, rfl, rfl⟩ := decideSupervision_ok hused h
    obtain ⟨assignments, attempts, rfl⟩ := releaseNarrowedOffers_ok hsweep
    have hsame := happly state mid applied hmid rfl rfl
    exact ⟨fun hkept => .inr (hsame.1 { hkept with }),
      fun hkept => { hsame.2 (hkept.resolve_left (by simp)) with }⟩

theorem materializeGate_others (h : materializeGate now runID s gate = .ok s') :
    OthersKept runID s s' := by
  obtain ⟨_, -, h⟩ := of_bind h
  split at h
  · rename_i existing hexisting
    exact saveSupervisionGate_others h (loadSupervisionGate_ok hexisting).2
  · exact saveSupervisionGate_others h rfl

theorem putSupervision_others {validate : SupervisionConfig → Except Err Unit}
    {materialization : SupervisionMaterialization} {record : SupervisionRecord}
    (h : s.putSupervision now validate materialization = .ok (s', record)) :
    OthersKept materialization.record.runID s s' := by
  have hrun : (s.materializedRecord now materialization.record).runID =
    materialization.record.runID := by
    unfold materializedRecord
    split
    · rename_i current hcurrent
      exact Table.key_of_get? (v := current) hcurrent
    · rfl
  replace h := past_guard h
  obtain ⟨_, -, h⟩ := of_bind h
  obtain ⟨swept, hgates, h⟩ := of_bind h
  cases h
  rw [hrun] at hgates
  have hsaved : OthersKept materialization.record.runID s
      (s.saveSupervisionRecord (s.materializedRecord now materialization.record)) :=
    { othersKept_refl _ s with }
  refine foldlM_invariant (fun s₁ g _ s₂ hkept hgate => ?_) hsaved hgates
  have hstep := materializeGate_others hgate
  exact ⟨fun h hne => (hstep.holds h hne).trans (hkept.holds h hne),
    fun i hne => (hstep.incidents i hne).trans (hkept.incidents i hne),
    fun g hne => (hstep.gates g hne).trans (hkept.gates g hne),
    fun a hne => (hstep.activations a hne).trans (hkept.activations a hne)⟩

def heldElsewhere : Store :=
  { workflowRuns := ofList _ [{ id := "a" }], supervision := ofList _ [{ runID := "a" }]
    holds := ofList _ [{ id := "hold", runID := "b", state := .active, reason := "review" }] }

def holdRequest (holdID : String) : HoldRequest :=
  { runID := "a", holdID := holdID, requestID := "request", actor := { kind := .operator, principal := "p" }
    scope := { kind := .run }, reason := "pause" }

end Store

end Steward
