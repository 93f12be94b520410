import Steward.Store.SupervisionDecisions

/-!
# Offers that a decision no longer admits

`releaseNarrowedOffersTx` releases the offers of the run whose task the snapshot does not admit and
leaves every other row. From it, what every committed decision leaves, and when an overseer's own
offer survives one.
-/

namespace Steward

open Except Table List

def Attempt.work (a : Attempt) : String × String × String :=
  (a.workflowRunID, a.taskID, a.supervisionActivationID)

namespace Store

/-! ## The sweep -/

def SameWork (s s' : Store) : Prop :=
  ∀ id, (s'.attempts.get? id).map Attempt.work = (s.attempts.get? id).map Attempt.work

def withheld (s : Store) (snapshot : SupervisionSnapshot) (a : Assignment) : Bool :=
  decide (a.state = .offered) && (s.attempts.get? a.attemptID).any fun t =>
    t.workflowRunID = snapshot.runID ∧
      (supervisionAdmits snapshot { taskID := t.taskID }).admitted = false

def releasedOffer (now : Time) (a : Assignment) : Assignment :=
  { a with state := .released, leaseExpiresAt := 0, updatedAt := now }

section

variable {snapshot : SupervisionSnapshot} {now : Time} {s s' : Store}

theorem SameWork.refl (s : Store) : SameWork s s := fun _ => rfl

theorem SameWork.trans {s₁ s₂ s₃ : Store} (h : SameWork s₁ s₂) (h' : SameWork s₂ s₃) :
    SameWork s₁ s₃ :=
  fun id => (h' id).trans (h id)

theorem SameWork.any (h : SameWork s s') (id : String) (p : String × String × String → Bool) :
    (s'.attempts.get? id).any (fun t => p t.work) = (s.attempts.get? id).any fun t => p t.work := by
  have hwork := congrArg (Option.any p) (h id)
  rwa [Option.any_map, Option.any_map] at hwork

theorem SameWork.withheld (h : SameWork s s') (a : Assignment) :
    s'.withheld snapshot a = s.withheld snapshot a := by
  unfold Store.withheld
  congr 1
  exact h.any a.attemptID fun w => w.1 = snapshot.runID ∧
    (supervisionAdmits snapshot { taskID := w.2.1 }).admitted = false

theorem withheld_iff {a : Assignment} : s.withheld snapshot a = true ↔ a.state = .offered ∧
    ∃ t, s.attempts.get? a.attemptID = some t ∧ t.workflowRunID = snapshot.runID ∧
      (supervisionAdmits snapshot { taskID := t.taskID }).admitted = false := by
  simp [Store.withheld, Option.any_eq_true]

theorem mem_liveAssignments {runID : String} {a : Assignment} : a ∈ s.liveAssignments runID ↔
    s.assignments.get? a.id = some a ∧ (a.state = .offered ∨ a.state = .claimed) ∧
      (s.attempts.get? a.attemptID).any (fun t => t.workflowRunID = runID) = true := by
  simp [liveAssignments, mem_rows_iff]

theorem releaseNarrowedOffer_spec {a : Assignment} (hlive : a ∈ s.liveAssignments snapshot.runID)
    (h : releaseNarrowedOffer snapshot now s a = .ok s') :
    SameWork s s' ∧ s'.assignments =
      if s.withheld snapshot a then s.assignments.put (releasedOffer now a) else s.assignments := by
  obtain ⟨hrow, hlive, hrun⟩ := mem_liveAssignments.1 hlive
  obtain ⟨attempt, hattempt, h⟩ := of_bind h
  have hattempt := loadAttempt_ok hattempt
  rw [hattempt, Option.any_some, decide_eq_true_eq] at hrun
  have hwithheld : s.withheld snapshot a = true ↔ a.state = .offered ∧
      (supervisionAdmits snapshot { taskID := attempt.taskID }).admitted = false := by
    simp [withheld_iff, hattempt, hrun]
  split at h
  · rename_i hkept
    cases h
    refine ⟨SameWork.refl s, (if_neg fun hw => ?_).symm⟩
    obtain ⟨hoffered, hrefused⟩ := hwithheld.1 hw
    rcases hkept with hadmitted | hclaimed
    · rw [hrefused] at hadmitted
      cases hadmitted
    · rw [hoffered] at hclaimed
      cases hclaimed
  · rename_i hnarrowed
    rw [not_or] at hnarrowed
    have hoffered := hlive.resolve_right hnarrowed.2
    have hw := hwithheld.2 ⟨hoffered, by simpa using hnarrowed.1⟩
    rw [if_neg (by simp [hrow, hoffered])] at h
    obtain ⟨-, rfl⟩ := updateAttempt_ok h
    have hkey : attempt.id = a.attemptID := key_of_get? hattempt
    refine ⟨fun id => ?_, (if_pos hw).symm⟩
    rw [get?_put]
    split_ifs with hid
    · rw [← hid, hkey, hattempt]
      rfl
    · rfl

theorem releaseAll_spec {l : List Assignment} (hnodup : (l.map Assignment.id).Nodup)
    (hlive : ∀ a ∈ l, a ∈ s.liveAssignments snapshot.runID)
    (h : l.foldlM (releaseNarrowedOffer snapshot now) s = .ok s') :
    SameWork s s' ∧ s'.assignments =
      s.assignments.putAll ((l.filter (s.withheld snapshot)).map (releasedOffer now)) := by
  induction l generalizing s with
  | nil =>
    obtain rfl := Except.ok.inj h
    exact ⟨SameWork.refl s, rfl⟩
  | cons a l ih =>
    rw [foldlM_cons] at h
    obtain ⟨mid, hfirst, hrest⟩ := of_bind h
    obtain ⟨hnew, hnodup⟩ := nodup_cons.1 hnodup
    obtain ⟨hwork, hassignments⟩ := releaseNarrowedOffer_spec (hlive a (.head _)) hfirst
    have hmid : ∀ b ∈ l, b ∈ mid.liveAssignments snapshot.runID := by
      intro b hb
      obtain ⟨hrow, hstate, hrun⟩ := mem_liveAssignments.1 (hlive b (.tail _ hb))
      have hne : (releasedOffer now a).id ≠ b.id := fun hid => hnew (hid ▸ mem_map_of_mem hb)
      refine mem_liveAssignments.2 ⟨?_, hstate, ?_⟩
      · rw [hassignments]
        split_ifs
        · exact (get?_put_of_ne _ hne).trans hrow
        · exact hrow
      · exact (hwork.any b.attemptID fun w => w.1 = snapshot.runID).trans hrun
    obtain ⟨hwork', hrows⟩ := ih hnodup hmid hrest
    refine ⟨hwork.trans hwork', ?_⟩
    rw [hrows, hassignments, funext hwork.withheld, filter_cons]
    split_ifs <;> rfl

theorem releaseNarrowedOffers_spec (hsupervised : snapshot.supervised = true)
    (h : s.releaseNarrowedOffers snapshot now = .ok s') :
    SameWork s s' ∧ ∀ id, s'.assignments.get? id = (s.assignments.get? id).map fun a =>
      if s.withheld snapshot a then releasedOffer now a else a := by
  unfold releaseNarrowedOffers at h
  rw [if_neg (by simp [hsupervised])] at h
  obtain ⟨hwork, hrows⟩ := releaseAll_spec
    ((nodup_keys s.assignments).sublist (filter_sublist.map _)) (fun a ha => ha) h
  refine ⟨hwork, fun id => ?_⟩
  rw [hrows, get?_putAll_map (f := releasedOffer now)
    (fun a ha => (mem_filter.1 (mem_filter.1 ha).1).1) fun _ _ => rfl]
  refine Option.map_congr fun a ha => if_congr ⟨fun hw => (mem_filter.1 hw).2, fun hw => ?_⟩ rfl rfl
  -- a withheld offer is live
  obtain ⟨hoffered, t, ht, hrun, -⟩ := withheld_iff.1 hw
  refine mem_filter.2 ⟨mem_liveAssignments.2 ⟨mem_rows_iff.1 (mem_of_get? ha), .inl hoffered, ?_⟩, hw⟩
  rw [ht, Option.any_some, hrun]
  exact decide_eq_true rfl

end

/-- An offer to an activation of the run's supervision. -/
def OverseerOffer (s : Store) (runID : String) (a : Assignment) (t : Attempt) : Prop :=
  s.assignments.get? a.id = some a ∧ a.state = .offered ∧
    s.attempts.get? a.attemptID = some t ∧ t.workflowRunID = runID ∧ t.supervisionActivationID ≠ ""

section

variable {snapshot : SupervisionSnapshot} {now : Time} {s s' : Store}

section

variable (hsupervised : snapshot.supervised = true)
  (h : s.releaseNarrowedOffers snapshot now = .ok s')
include hsupervised h

/-- A sweep spares the overseer exactly when nothing in the snapshot withholds the task the
activation's attempt names, as if it were a declared one. -/
theorem overseer_offer_kept_iff {a : Assignment} {t : Attempt}
    (hoffer : OverseerOffer s snapshot.runID a t) :
    s'.assignments.get? a.id = some a ↔ snapshot.Clears t.taskID := by
  obtain ⟨hrow, hoffered, hattempt, hrun, -⟩ := hoffer
  have hwithheld : s.withheld snapshot a = true ↔ ¬snapshot.Clears t.taskID := by
    rw [← supervisionAdmits_iff hsupervised]
    simp [withheld, hoffered, hattempt, hrun]
  obtain ⟨-, hrows⟩ := releaseNarrowedOffers_spec hsupervised h
  rw [hrows a.id, hrow, Option.map_some]
  constructor
  · intro hkept
    by_contra hblocked
    rw [if_pos (hwithheld.2 hblocked)] at hkept
    have hstate := congrArg Assignment.state (Option.some.inj hkept)
    rw [hoffered] at hstate
    cases hstate
  · intro hclears
    rw [if_neg fun hw => hwithheld.1 hw hclears]

theorem swept_row {id : String} (hchanged : s'.assignments.get? id ≠ s.assignments.get? id) :
    ∃ a t, s.assignments.get? id = some a ∧ a.state = .offered ∧
      s.attempts.get? a.attemptID = some t ∧ t.workflowRunID = snapshot.runID ∧
      s'.assignments.get? id = some (releasedOffer now a) := by
  obtain ⟨-, hrows⟩ := releaseNarrowedOffers_spec hsupervised h
  rw [hrows id] at hchanged ⊢
  cases hrow : s.assignments.get? id with
  | none => simp [hrow] at hchanged
  | some a =>
    rw [hrow, Option.map_some] at hchanged
    by_cases hw : s.withheld snapshot a = true
    · obtain ⟨hoffered, t, hattempt, hrun, -⟩ := withheld_iff.1 hw
      exact ⟨a, t, rfl, hoffered, hattempt, hrun, by rw [Option.map_some, if_pos hw]⟩
    · rw [if_neg hw] at hchanged
      exact absurd rfl hchanged

end

/-- A sweep leaves the run's overseer offers alone, and so releases offers of declared tasks only,
exactly when its snapshot withholds none of the tasks they name. -/
theorem overseer_never_swept_iff (hsupervised : snapshot.supervised = true)
    (h : s.releaseNarrowedOffers snapshot now = .ok s') :
    ((∀ a t, OverseerOffer s snapshot.runID a t → s'.assignments.get? a.id = some a) ∧
      ∀ id, s'.assignments.get? id ≠ s.assignments.get? id →
        ∃ a t, s.assignments.get? id = some a ∧ a.state = .offered ∧
          s.attempts.get? a.attemptID = some t ∧ t.workflowRunID = snapshot.runID ∧
          t.supervisionActivationID = "") ↔
      ∀ a t, OverseerOffer s snapshot.runID a t → snapshot.Clears t.taskID := by
  constructor
  · intro hkept a t hoffer
    exact (overseer_offer_kept_iff hsupervised h hoffer).1 (hkept.1 a t hoffer)
  · intro hclears
    have hkept : ∀ a t, OverseerOffer s snapshot.runID a t → s'.assignments.get? a.id = some a :=
      fun a t hoffer => (overseer_offer_kept_iff hsupervised h hoffer).2 (hclears a t hoffer)
    refine ⟨hkept, fun id hchanged => ?_⟩
    obtain ⟨a, t, hrow, hoffered, hattempt, hrun, -⟩ := swept_row hsupervised h hchanged
    refine ⟨a, t, hrow, hoffered, hattempt, hrun, ?_⟩
    by_contra hoverseer
    have hid : a.id = id := key_of_get? hrow
    have hsame := hkept a t ⟨by rw [hid, hrow], hoffered, hattempt, hrun, hoverseer⟩
    rw [hid] at hsame
    exact hchanged (hsame.trans hrow.symm)

end

/-! ## Committed decisions -/

section

variable {evidenceDigest : EvidenceDigest} {payloadDigest : SupervisionPayload → String}
  {s s' : Store} {now : Time} {payload : SupervisionPayload} {d : SupervisionDecision}

/-- Supervision admits every offered task of the run. -/
def OffersAdmitted (s : Store) (runID : String) : Prop :=
  ∀ a ∈ s.assignments.rows, a.state = .offered → ∀ t, s.attempts.get? a.attemptID = some t →
    t.workflowRunID = runID →
      (supervisionAdmits (s.supervisionState runID) { taskID := t.taskID }).admitted = true

section

variable (hnew : s.supervisionReceipts.get? payload.requestID = none)
  (h : s.decideSupervision evidenceDigest payloadDigest now payload = .ok (s', d))
include hnew h

/-- What a committed decision did to the assignments: a sweep under the supervision it leaves, which
is that of a supervised run. -/
theorem committed_sweep : (s'.supervisionState payload.runID).supervised = true ∧ SameWork s s' ∧
      ∀ id, s'.assignments.get? id = (s.assignments.get? id).map fun a =>
        if s.withheld (s'.supervisionState payload.runID) a then releasedOffer now a else a := by
  obtain ⟨-, -, state, mid, applied, swept, out, hstate, happly, hsweep, -, rfl⟩ :=
    decideSupervision_ok hnew h
  obtain ⟨-, -, context, hcontext, -⟩ := decisionContext_ok hstate
  obtain ⟨gates, decisions, holds, incidents, activations, inbox, hwrites⟩ := apply_writes happly
  obtain ⟨run, hrun, hdeclared⟩ := supervisionContext_isSome_iff.1
    (show (s.supervisionContext payload.runID).isSome = true by rw [hcontext]; rfl)
  have hmid : (mid.supervisionContext payload.runID).isSome = true := by
    rw [supervisionContext_isSome_iff, hwrites]
    exact ⟨run, hrun, hdeclared⟩
  obtain ⟨_, -, hsnapshot⟩ := supervisionState_eq hmid
  have hsupervised : (mid.supervisionState payload.runID).supervised = true := by rw [hsnapshot]
  obtain ⟨hwork, hrows⟩ := releaseNarrowedOffers_spec hsupervised hsweep
  obtain ⟨assignments, attempts, hswept⟩ := releaseNarrowedOffers_ok hsweep
  -- the sweep went by the snapshot that the transaction leaves
  have hleft : ({ swept with
      supervision := swept.supervision.put
        (decidedRecord payload.runID now state.record applied.record)
      supervisionReceipts := swept.supervisionReceipts.put
        { requestID := payload.requestID, operation := payload.operation, runID := payload.runID
          payloadSHA256 := payloadDigest payload, answer := .decision d
          recordedAt := now } } : Store).supervisionState payload.runID =
      mid.supervisionState payload.runID := by
    refine supervisionState_congr hmid (supervisionContext_isSome_iff.2 ⟨run, ?_, .inl ?_⟩) ?_ ?_ ?_
    · rw [hswept, hwrites]
      exact hrun
    · rw [get?_put, if_pos decidedRecord_runID]
      rfl
    all_goals rw [hswept]
  rw [hleft]
  have hattempts : mid.attempts = s.attempts := by rw [hwrites]
  have hassignments : mid.assignments = s.assignments := by rw [hwrites]
  have hsame : SameWork s mid := fun id => by rw [hattempts]
  refine ⟨hsupervised, hsame.trans hwork, fun id => ?_⟩
  have hrow := hrows id
  rw [hassignments] at hrow
  simp only [hsame.withheld] at hrow
  exact hrow

theorem offersAdmitted_of_new : OffersAdmitted s' payload.runID := by
  obtain ⟨-, hwork, hrows⟩ := committed_sweep hnew h
  intro a ha hoffered t ht hrun
  have hrow := hrows a.id
  rw [mem_rows_iff.1 ha] at hrow
  obtain ⟨b, hb, heq⟩ := Option.map_eq_some_iff.1 hrow.symm
  -- a released row is no offer, so the row was kept
  split_ifs at heq with hw
  · rw [← heq] at hoffered
    cases hoffered
  · subst heq
    rw [← hwork.withheld] at hw
    simpa [withheld, hoffered, ht, hrun] using hw

end

theorem decideSupervision_answers {later : Store} {now' : Time}
    (h : s.decideSupervision evidenceDigest payloadDigest now payload = .ok (s', d))
    (hkept : later.supervisionReceipts.get? payload.requestID =
      s'.supervisionReceipts.get? payload.requestID) :
    later.decideSupervision evidenceDigest payloadDigest now' payload =
      .ok (later, { d with replay := true }) := by
  obtain ⟨_, hcheck, h⟩ := of_bind h
  obtain ⟨⟨hrun, hrequest⟩, -⟩ := supervisionDecision_ok h
  obtain ⟨receipt, decision, hreceipt, hoperation, hdigest, hanswer, hd⟩ :=
    supervisionDecision_receipt h
  unfold decideSupervision
  rw [hcheck, ok_bind, hd]
  exact supervisionDecision_replays hrun hrequest (hkept.trans hreceipt) hoperation hdigest hanswer

theorem decideSupervision_refuses {later : Store} {now' : Time} {other : SupervisionPayload}
    (hdigest : ∀ other : SupervisionPayload, other.operation = payload.operation →
      payloadDigest other = payloadDigest payload → other = payload)
    (h : s.decideSupervision evidenceDigest payloadDigest now payload = .ok (s', d))
    (hkept : later.supervisionReceipts.get? payload.requestID = s'.supervisionReceipts.get? payload.requestID)
    (hkey : other.requestID = payload.requestID) (hother : other ≠ payload) :
    ∃ e, later.decideSupervision evidenceDigest payloadDigest now' other = .error e := by
  obtain ⟨_, -, h⟩ := of_bind h
  obtain ⟨⟨-, hrequest⟩, -⟩ := supervisionDecision_ok h
  obtain ⟨receipt, decision, hreceipt, hoperation, hpayload, -⟩ := supervisionDecision_receipt h
  unfold decideSupervision
  cases hcheck : other.check with
  | error e => exact ⟨e, rfl⟩
  | ok u =>
    cases hrun : Text.blank other.runID with
    | true =>
      refine ⟨{ text := "a supervision decision needs a run and a request key" }, ?_⟩
      rw [ok_bind, supervisionDecision]
      simp [refuseWhen, hrun]
    | false =>
      refine ⟨_, supervisionDecision_conflicts hrun (hkey ▸ hrequest) (hkey ▸ hkept.trans hreceipt)
        ?_⟩
      rw [hoperation, hpayload]
      by_contra hsame
      rw [not_or, not_not, not_not] at hsame
      exact hother (hdigest other hsame.1.symm hsame.2.symm)

/-- A decision leaves no offer that it does not admit, and no claim changed; its request key answers
the same payload with the same decision and no other payload, whatever happened in between. -/
theorem committed_decision (hdigest : ∀ other : SupervisionPayload,
    other.operation = payload.operation →
      payloadDigest other = payloadDigest payload → other = payload)
    (h : s.decideSupervision evidenceDigest payloadDigest now payload = .ok (s', d)) :
    (s.supervisionReceipts.get? payload.requestID = none → OffersAdmitted s' payload.runID) ∧
      (∀ a ∈ s.assignments.rows, a.state = .claimed → s'.assignments.get? a.id = some a) ∧
      ∀ later : Store, later.supervisionReceipts.get? payload.requestID =
          s'.supervisionReceipts.get? payload.requestID →
        (∀ now', later.decideSupervision evidenceDigest payloadDigest now' payload =
          .ok (later, { d with replay := true })) ∧
        ∀ other now', other.requestID = payload.requestID → other ≠ payload →
          ∃ e, later.decideSupervision evidenceDigest payloadDigest now' other = .error e := by
  refine ⟨fun hnew => ?_, fun a ha hclaimed => ?_, fun later hkept => ⟨fun now' => ?_, ?_⟩⟩
  · exact offersAdmitted_of_new hnew h
  · cases hreceipt : s.supervisionReceipts.get? payload.requestID with
    | some receipt =>
      rw [decideSupervision_replay (by rw [hreceipt]; rfl) h]
      exact mem_rows_iff.1 ha
    | none =>
      obtain ⟨-, -, hrows⟩ := committed_sweep hreceipt h
      rw [hrows a.id, mem_rows_iff.1 ha, Option.map_some, if_neg]
      simp [withheld, hclaimed]
  · exact decideSupervision_answers h hkept
  · intro other now' hkey hother
    exact decideSupervision_refuses hdigest h hkept hkey hother

end

/-! ## A hold over a whole run -/

def overseenAttempt (id task activation : String) : Attempt :=
  { id := id, workflowRunID := "run", taskID := task, number := 1, progress := .ready
    supervisionActivationID := activation, revision := 1 }

def overseenRun : Store where
  workflowRuns := ofList WorkflowRun.id
    [{ id := "run", workflowID := "workflow", progress := .active }]
  supervision := ofList SupervisionRecord.runID [{ runID := "run", revision := 1 }]
  attempts := ofList Attempt.id
    [overseenAttempt "build" "build" "", overseenAttempt "review" "activation" "activation",
      overseenAttempt "test" "test" ""]
  assignments := ofList Assignment.id
    [{ id := "build-offer", attemptID := "build", state := .offered },
      { id := "review-offer", attemptID := "review", state := .offered },
      { id := "test-claim", attemptID := "test", state := .claimed }]

def runHold : SupervisionPayload :=
  .holdPlace
    { runID := "run", holdID := "hold", requestID := "request", reason := "stop"
      actor := { kind := .operator, principal := "operator" }, scope := { kind := .run } }

def sampleEvidenceDigest : EvidenceDigest := fun _ _ _ => ""

def samplePayloadDigest (payload : SupervisionPayload) : String :=
  if payload = runHold then "held" else "other"

theorem runHold_committed :
    ∃ s' d, overseenRun.decideSupervision sampleEvidenceDigest samplePayloadDigest 5
      runHold = .ok (s', d) ∧ OffersAdmitted s' "run" ∧
      s'.assignments.get? "test-claim" = some { id := "test-claim", attemptID := "test", state := .claimed } ∧
      s'.decideSupervision sampleEvidenceDigest samplePayloadDigest 9 runHold =
        .ok (s', { d with replay := true }) := by
  obtain ⟨⟨s', d⟩, h⟩ : ∃ r, overseenRun.decideSupervision sampleEvidenceDigest samplePayloadDigest
      5 runHold = .ok r := ⟨_, rfl⟩
  obtain ⟨hoffers, hclaims, hlater⟩ := committed_decision (fun other _ hsame => by
      by_contra hother
      rw [samplePayloadDigest, if_neg hother] at hsame
      revert hsame
      decide) h
  exact ⟨s', d, h, hoffers rfl,
    hclaims { id := "test-claim", attemptID := "test", state := .claimed } (by decide) rfl,
    (hlater s' rfl).1 9⟩

/-- The hold takes the offer of the overseer that the run waits for. -/
theorem runHold_releases_overseer :
    ∃ s' d a t, overseenRun.decideSupervision sampleEvidenceDigest samplePayloadDigest 5 runHold =
        .ok (s', d) ∧
      OverseerOffer overseenRun "run" a t ∧ s'.assignments.get? a.id = some (releasedOffer 5 a) := by
  have hreleased : (overseenRun.decideSupervision sampleEvidenceDigest samplePayloadDigest 5
      runHold).toOption.map (fun r => r.1.assignments.get? "review-offer") =
      some (some (releasedOffer 5 { id := "review-offer", attemptID := "review", state := .offered })) := by
    decide
  obtain ⟨⟨s', d⟩, hdecided, hrow⟩ := of_toOption hreleased
  exact ⟨s', d, { id := "review-offer", attemptID := "review", state := .offered },
    overseenAttempt "review" "activation" "activation", hdecided,
    by unfold OverseerOffer; decide, hrow⟩

def branchSnapshot : SupervisionSnapshot :=
  { runID := "run", supervised := true
    holds := [{ id := "hold", runID := "run", scope := { kind := .branch, branchRootTaskID := "build" }
                resolvedTaskIDs := ["build"], state := .active }] }

theorem branchSnapshot_spares_overseer : ∃ s', overseenRun.releaseNarrowedOffers branchSnapshot 5 = .ok s' ∧
      (∀ a t, OverseerOffer overseenRun "run" a t → s'.assignments.get? a.id = some a) ∧
      s'.assignments.get? "build-offer" = some
        (releasedOffer 5 { id := "build-offer", attemptID := "build", state := .offered }) := by
  have hswept : (overseenRun.releaseNarrowedOffers branchSnapshot 5).toOption.map
      (fun s' => s'.assignments.get? "build-offer") = some (some
        (releasedOffer 5 { id := "build-offer", attemptID := "build", state := .offered })) := by
    decide
  obtain ⟨s', h, hrow⟩ := of_toOption hswept
  refine ⟨s', h, ((overseer_never_swept_iff rfl h).2 fun a t hoffer => ?_).1, hrow⟩
  have hmem : t ∈ overseenRun.attempts.rows := mem_of_get? hoffer.2.2.1
  have hclears : ∀ t ∈ overseenRun.attempts.rows, t.supervisionActivationID ≠ "" →
      branchSnapshot.Clears t.taskID := by
    decide
  exact hclears t hmem hoffer.2.2.2.2

end Store

end Steward
