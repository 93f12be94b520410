import Steward.Backlog.Coordinator
import Steward.Lib.Runs
import Steward.Store.AssignmentCustody

/-!
# Epochs of an assignment

Runs of the transactions on assignments, interleaved with any change outside them. An epoch of a row
is offered once, claimed at most once by the session it was offered to, and followed by another only
after it was released.
-/

namespace Steward

open Except Runs Store Table Prod List

/-! ## Runs -/

section

variable (fences : AdmissionFences) (digest : ThrottleCommand → String)

def CustodyOp.commit (s : Store) : CustodyOp → Except Err Store
  | .offer commit => (s.commitAssignmentPlan fences commit).map fst
  | .claim request => (s.claimAssignment fences request).map fst
  | .renew renewal => (s.renewAssignmentLease renewal).map fst
  | .expire coordinatorEpoch now => (s.expireAssignmentLeases coordinatorEpoch now).map fst
  | .observe trs => (s.commitWorkerStateTransitions digest trs).map fst
  | .recover recovery => (s.recoverUnknownAssignment recovery).map fst
  | .environment others => .ok { others with assignments := s.assignments }

def custodyStep (s : Store) (op : CustodyOp) : Store :=
  committed s (op.commit fences digest s)

end

/-- A claim or renewal that does not match the stored row. -/
def CustodyOp.Stale (s : Store) : CustodyOp → Prop
  | .claim request => ∃ a, s.assignments.get? request.assignmentID = some a ∧
      request.matches a = false
  | .renew renewal => ∃ a, s.assignments.get? renewal.assignmentID = some a ∧
      renewal.matches a = false
  | _ => False

/-- Offers are as the planner makes them. -/
def CustodyOp.Planned (hash : CoordinatorHash) : CustodyOp → Prop
  | .offer commit => ∀ item ∈ commit.items, ∃ attempt snapshot proposal,
      item = proposedItem hash attempt snapshot proposal
  | _ => True

section

variable {fences : AdmissionFences} {digest : ThrottleCommand → String}

theorem custodyStep_spec (s : Store) (op : CustodyOp) :
    CustodyStep op s (custodyStep fences digest s op) := by
  refine rel_committed (CustodyStep.refl op) fun s' h => ?_
  cases op with
  | offer commit =>
    obtain ⟨_, h⟩ := map_fst_eq_ok h
    exact commitAssignmentPlan_step h
  | claim request =>
    obtain ⟨_, h⟩ := map_fst_eq_ok h
    exact claimAssignment_step h
  | renew renewal =>
    obtain ⟨_, h⟩ := map_fst_eq_ok h
    exact renewAssignmentLease_step h
  | expire coordinatorEpoch now =>
    obtain ⟨_, h⟩ := map_fst_eq_ok h
    exact expireAssignmentLeases_step h
  | observe trs =>
    obtain ⟨_, h⟩ := map_fst_eq_ok h
    exact commitWorkerStateTransitions_step h
  | recover recovery =>
    obtain ⟨_, h⟩ := map_fst_eq_ok h
    exact recoverUnknownAssignment_step h
  | environment others =>
    cases h
    exact CustodyStep.of_rows_eq rfl

variable {op : CustodyOp} {a a' : Assignment} {s : Store}

theorem custodyStep_of_stale (h : op.Stale s) : custodyStep fences digest s op = s := by
  have hrefused : ∀ s', op.commit fences digest s ≠ .ok s' := by
    intro s' hcommit
    cases op with
    | claim request =>
      obtain ⟨a, ha, hmismatch⟩ := h
      obtain ⟨_, hcommit⟩ := map_fst_eq_ok hcommit
      obtain ⟨b, hb, hmatches, -⟩ := claimAssignment_ok hcommit
      rw [Option.some.inj (ha.symm.trans hb), hmatches] at hmismatch
      cases hmismatch
    | renew renewal =>
      obtain ⟨a, ha, hmismatch⟩ := h
      obtain ⟨_, hcommit⟩ := map_fst_eq_ok hcommit
      obtain ⟨b, hb, hmatches, -⟩ := renewAssignmentLease_ok hcommit
      rw [Option.some.inj (ha.symm.trans hb), hmatches] at hmismatch
      cases hmismatch
    | _ => exact h
  unfold custodyStep
  cases hcommit : op.commit fences digest s with
  | error e => rfl
  | ok s' => exact absurd hcommit (hrefused s')

/-! ## Epochs -/

theorem length_epochIdentity (base : String) (epoch : Int) :
    base.length < (epochIdentity base epoch).length := by
  simp only [epochIdentity, String.length_append]
  have : ("-e" : String).length = 2 := by decide
  omega

/-- What a later row of an attempt is to an earlier one, as every step preserves it. -/
structure Assignment.Advances (a a' : Assignment) : Prop where
  id : a'.id = a.id
  attempt : a'.attemptID = a.attemptID
  epoch : a.epoch ≤ a'.epoch
  same : a'.epoch = a.epoch → a'.workerID = a.workerID ∧ a'.leaseToken = a.leaseToken ∧
    a'.dispatchToken = a.dispatchToken ∧ (a'.state = .offered → a' = a)
  fresh : a.epoch < a'.epoch → a.leaseToken.length < a'.leaseToken.length ∧
    a.dispatchToken.length < a'.dispatchToken.length ∧
    (a'.state = .offered → a'.threadID = epochIdentity ("thread-" ++ a'.id) a'.epoch)

theorem Assignment.Advances.refl (a : Assignment) : a.Advances a :=
  ⟨rfl, rfl, le_refl _, fun _ => ⟨rfl, rfl, rfl, fun _ => rfl⟩, fun h => absurd h (lt_irrefl _)⟩

theorem Assignment.Advances.of_changes (h : op.changes a a') : a.Advances a' := by
  rcases CustodyOp.changes_cases h with ⟨hsame, hnot⟩ | ⟨-, -, hnext⟩
  · refine ⟨hsame.id, hsame.attempt, hsame.epoch.ge, fun _ => ?_, fun hlt => ?_⟩
    · exact ⟨hsame.worker, hsame.lease, hsame.dispatch, fun hoffered => absurd hoffered hnot⟩
    · rw [hsame.epoch] at hlt
      exact absurd hlt (lt_irrefl _)
  · have hepoch := hnext.epoch
    refine ⟨hnext.id, hnext.attempt, by omega, fun heq => by omega, fun _ => ⟨?_, ?_, fun _ => ?_⟩⟩
    · rw [hnext.lease]
      exact length_epochIdentity _ _
    · rw [hnext.dispatch]
      exact length_epochIdentity _ _
    · rw [hnext.thread, hnext.id]

theorem Assignment.Advances.trans {b c : Assignment} (h : a.Advances b) (h' : b.Advances c) :
    a.Advances c := by
  refine ⟨h'.id.trans h.id, h'.attempt.trans h.attempt, h.epoch.trans h'.epoch, fun heq => ?_,
    fun hlt => ?_⟩
  · have hab : b.epoch = a.epoch := le_antisymm (by rw [← heq]; exact h'.epoch) h.epoch
    obtain ⟨hworker, hlease, hdispatch, hoffered⟩ := h.same hab
    obtain ⟨hworker', hlease', hdispatch', hoffered'⟩ := h'.same (heq.trans hab.symm)
    refine ⟨hworker'.trans hworker, hlease'.trans hlease, hdispatch'.trans hdispatch, fun hc => ?_⟩
    have hcb := hoffered' hc
    rw [hcb] at hc ⊢
    exact hoffered hc
  · rcases h'.epoch.lt_or_eq with hbc | hbc
    · obtain ⟨hlease', hdispatch', hthread'⟩ := h'.fresh hbc
      rcases h.epoch.lt_or_eq with hab | hab
      · obtain ⟨hlease, hdispatch, -⟩ := h.fresh hab
        exact ⟨hlease.trans hlease', hdispatch.trans hdispatch', hthread'⟩
      · obtain ⟨-, hlease, hdispatch, -⟩ := h.same hab.symm
        rw [hlease] at hlease'
        rw [hdispatch] at hdispatch'
        exact ⟨hlease', hdispatch', hthread'⟩
    · obtain ⟨-, hlease', hdispatch', hoffered'⟩ := h'.same hbc.symm
      obtain ⟨hlease, hdispatch, hthread⟩ := h.fresh (by rw [hbc]; exact hlt)
      rw [hlease', hdispatch']
      refine ⟨hlease, hdispatch, fun hc => ?_⟩
      have hcb := hoffered' hc
      rw [hcb] at hc ⊢
      exact hthread hc

/-- What a later row of an attempt is to an earlier one: an epoch keeps its worker and tokens and is
offered once, and a later epoch has tokens and a thread of its own. -/
structure Assignment.Succeeds (a a' : Assignment) : Prop where
  id : a'.id = a.id
  attempt : a'.attemptID = a.attemptID
  epoch : a.epoch ≤ a'.epoch
  same : a'.epoch = a.epoch → a'.workerID = a.workerID ∧ a'.leaseToken = a.leaseToken ∧
    a'.dispatchToken = a.dispatchToken ∧ (a'.state = .offered → a' = a)
  fresh : a.epoch < a'.epoch → a'.leaseToken ≠ a.leaseToken ∧ a'.dispatchToken ≠ a.dispatchToken ∧
    (a.state = .offered → a'.state = .offered → a'.threadID ≠ a.threadID)

/-- The thread an epoch is offered with: of the planner's making, or named after the epoch. -/
def ThreadMinted (a : Assignment) : Prop :=
  a.state = .offered → a.threadID = epochIdentity ("thread-" ++ a.id) a.epoch ∨
    ∃ sum : String, a.threadID = "thread-" ++ sum ∧ '-' ∉ sum.toList

theorem Assignment.Advances.succeeds (h : a.Advances a') (hminted : ThreadMinted a) :
    a.Succeeds a' := by
  refine ⟨h.id, h.attempt, h.epoch, h.same, fun hlt => ?_⟩
  obtain ⟨hlease, hdispatch, hthread⟩ := h.fresh hlt
  refine ⟨fun heq => ?_, fun heq => ?_, fun hoffered hoffered' heq => ?_⟩
  · rw [heq] at hlease
    exact lt_irrefl _ hlease
  · rw [heq] at hdispatch
    exact lt_irrefl _ hdispatch
  · rw [hthread hoffered', h.id] at heq
    rcases hminted hoffered with hown | ⟨sum, hsum, hdash⟩
    · rw [hown] at heq
      exact absurd (Text.toString_int_inj ((String.append_right_inj _).1 heq)) hlt.ne'
    · -- the planner's thread has no dash after its first, a later epoch's thread has
      rw [hsum, epochIdentity, String.append_assoc, String.append_assoc,
        String.append_right_inj] at heq
      refine hdash ?_
      rw [← heq]
      simp

theorem threadMinted_step {hash : CoordinatorHash} {s' : Store} (hstep : CustodyStep op s s')
    (hplanned : op.Planned hash) (h : ∀ a ∈ s.assignments.rows, ThreadMinted a) :
    ∀ a ∈ s'.assignments.rows, ThreadMinted a := by
  intro a' ha' hoffered
  rcases hstep.new a' ha' with ⟨a, ha, hid⟩ | hintro
  · obtain ⟨b, hb, hbid, -, hchange⟩ := hstep.kept a ha
    rw [eq_of_key_eq hb ha' (hbid.trans hid)] at hchange
    rcases hchange with rfl | hchange
    · exact h _ ha hoffered
    · rcases CustodyOp.changes_cases hchange with ⟨-, hnot⟩ | ⟨-, -, hnext⟩
      · exact absurd hoffered hnot
      · left
        rw [hnext.thread, hnext.id]
  · cases op with
    | offer commit =>
      obtain ⟨-, item, hitem, hthread⟩ := hintro
      obtain ⟨attempt, snapshot, proposal, rfl⟩ := hplanned item hitem
      have hprefix : ("thread" ++ "-" : String) = "thread-" := by decide
      refine .inr ⟨hash.sum "thread" (stableCoordinatorID hash "assignment" attempt.id), ?_,
        fun hdash => ?_⟩
      · rw [hthread, ← hprefix]
        rfl
      · exact absurd (all_eq_true.1 (hash.hex _ _) '-' hdash) (by decide)
    | _ => exact hintro.elim

/-- Every row of the earlier store is succeeded by a row of the later one, and neither store has two
rows of one attempt. -/
def CustodySucceeds (s s' : Store) : Prop :=
  OneRowPerAttempt s ∧ OneRowPerAttempt s' ∧
    ∀ a ∈ s.assignments.rows, ∃ a' ∈ s'.assignments.rows, a.Succeeds a'

/-- The claim takes effect in this store. -/
def ClaimsIn (fences : AdmissionFences) (digest : ThrottleCommand → String) (s : Store)
    (request : AssignmentClaimRequest) : Prop :=
  ∃ a, s.assignments.get? request.assignmentID = some a ∧ a.state = .offered ∧
    request.matches a = true ∧
    (custodyStep fences digest s (.claim request)).assignments.get? request.assignmentID =
      some (leasedAssignment request a)

theorem custody_invariant {hash : CoordinatorHash} {s : Store} {ops : List CustodyOp}
    (hstart : s.assignments.rows = []) (hplanned : ∀ op ∈ ops, op.Planned hash) :
    OneRowPerAttempt (run (custodyStep fences digest) s ops) ∧
      ∀ a ∈ (run (custodyStep fences digest) s ops).assignments.rows, ThreadMinted a := by
  refine run_invariant (I := fun s => OneRowPerAttempt s ∧ ∀ a ∈ s.assignments.rows, ThreadMinted a)
    (P := fun _ op => op.Planned hash) (fun s op hs hop => ?_) ?_
    (along_of_forall fun _ => hplanned)
  · have hstep := @custodyStep_spec fences digest s op
    exact ⟨hstep.unique hs.1, threadMinted_step hstep hop hs.2⟩
  · refine ⟨fun a ha => ?_, fun a ha => ?_⟩
    · rw [hstart] at ha
      exact absurd ha not_mem_nil
    · rw [hstart] at ha
      exact absurd ha not_mem_nil

theorem custody_advances (s : Store) (ops : List CustodyOp) : ∀ a ∈ s.assignments.rows,
      ∃ a' ∈ (run (custodyStep fences digest) s ops).assignments.rows, a.Advances a' := by
  refine rel_run
    (R := fun s s' : Store => ∀ a ∈ s.assignments.rows, ∃ a' ∈ s'.assignments.rows, a.Advances a')
    (fun s a ha => ⟨a, ha, Assignment.Advances.refl a⟩) (fun s s' s'' h h' a ha => ?_)
    (along_of_forall fun s op _ a ha => ?_)
  · obtain ⟨b, hb, hab⟩ := h a ha
    obtain ⟨c, hc, hbc⟩ := h' b hb
    exact ⟨c, hc, hab.trans hbc⟩
  · obtain ⟨a', ha', -, -, hchange⟩ := (custodyStep_spec s op).kept a ha
    rcases hchange with rfl | hchange
    · exact ⟨_, ha', Assignment.Advances.refl _⟩
    · exact ⟨a', ha', Assignment.Advances.of_changes hchange⟩

def openFences : AdmissionFences where
  reviewRefusal _ _ := .ok ""
  requireExternalSuccess _ _ := .ok ()
  requireSupervisionAdmits _ _ _ _ := .ok ()
  workerEnrolled _ _ := .ok true
  bindAssignmentGraph _ _ _ := .ok {}
  requireExecutorCapacity _ _ _ _ _ := .ok ()
  bindAssignmentUsage _ _ _ := .ok ()

def readyFleet : Store :=
  { attempts :=
      ofList Attempt.id
        [{ id := "attempt", number := 1, progress := .ready, control := .unassigned }]
    workerSnapshots :=
      ofList WorkerSnapshot.workerID
        [{ workerID := "worker", workerEpoch := "session", coordinatorEpoch := 1, sequence := 1
           connected := true, inventory := { acceptBacklog := true, health := .ready }
           validUntil := 99 }] }

def offerAttempt (revision : Int) (now : Time) : CustodyOp :=
  .offer
    { coordinatorEpoch := 1
      committedAt := now
      items :=
        [proposedItem zeroHash { id := "attempt", number := 1, revision := revision }
          { workerEpoch := "session", sequence := 1 }
          { workerID := "worker", route := { providerInstanceID := "provider", model := "model" } }] }

def claimEpoch (epoch : Int) (leaseToken : String) (now : Time) : CustodyOp :=
  .claim
    { coordinatorEpoch := 1, workerID := "worker", workerEpoch := "session"
      assignmentID := "assignment-0", assignmentEpoch := epoch, leaseToken := leaseToken
      claimedAt := now, leaseExpiresAt := now + 2 }

def twoEpochs : List CustodyOp :=
  [.environment readyFleet, offerAttempt 0 5, claimEpoch 1 "lease-0" 6, .expire 1 10, .recover
      { id := "recovery", assignmentID := "assignment-0", coordinatorEpoch := 1
        expectedAssignmentEpoch := 1, expectedAttemptRevision := 2, outcome := .stopped
        evidenceID := "evidence"
        evidenceSHA256 := "0123456789abcdef0123456789abcdef0123456789abcdef0123456789abcdef"
        actor := "operator", reason := "reviewed", recoveredAt := 11 },
    offerAttempt 3 12, claimEpoch 2 "lease-0-e2" 13]

theorem twoEpochs_planned : ∀ op ∈ twoEpochs, op.Planned zeroHash := by
  intro op hop
  simp only [twoEpochs, mem_cons, not_mem_nil, or_false] at hop
  rcases hop with rfl | rfl | rfl | rfl | rfl | rfl | rfl
  · trivial
  · exact forall_mem_singleton.2 ⟨_, _, _, rfl⟩
  · trivial
  · trivial
  · trivial
  · exact forall_mem_singleton.2 ⟨_, _, _, rfl⟩
  · trivial

end

end Steward
