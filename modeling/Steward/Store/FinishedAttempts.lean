import Steward.Lib.Runs
import Steward.Store.Recovery
import Steward.Store.WorkerReconcile
import Steward.Store.WorkflowProjection

/-!
# Finished attempts

`internal/store/sqlite/failure_class.go`, and what the transactions that write attempts leave of a
finished one. Each carries its own guard against rewriting it, except the recovery that resolves an
unknown execution as failed.
-/

namespace Steward

open Except Store Runs Table

/-! ## Failure classification -/

/-- One classification to record on a finished attempt. -/
structure AttemptFailureStamp where
  attemptID : String := ""
  revision : Int := 0
  failureClass : FailureClass := .unset
  code : String := ""
deriving DecidableEq

namespace Store

def recordFailureStamp (s : Store) (stamp : AttemptFailureStamp) : Except Err (Store × Nat) := do
  refuseWhen (stamp.failureClass = .unset ∨ stamp.code = "")
    { text := "failure classification of attempt " ++ quote stamp.attemptID ++ " is incomplete" }
  match s.attempts.get? stamp.attemptID with
  | none => return (s, 0)
  | some attempt =>
    if attempt.revision ≠ stamp.revision ∨ attempt.failureClass ≠ .unset ∨
        (attempt.progress ≠ .failed ∧ attempt.progress ≠ .cancelled) then
      return (s, 0)
    else
      let s ← s.updateAttempt
        { attempt with failureClass := stamp.failureClass, failureReason := stamp.code }
        attempt.revision
      return (s, 1)

def recordAttemptFailureClassifications (s : Store) :
    List AttemptFailureStamp → Except Err (Store × Nat)
  | [] => .ok (s, 0)
  | stamp :: rest => do
    let (s, first) ← s.recordFailureStamp stamp
    let (s, written) ← recordAttemptFailureClassifications s rest
    return (s, first + written)

end Store

/-! ## Outcomes -/

def Attempt.outcome (a : Attempt) : ProgressState × Option Time × String :=
  (a.progress, a.completedAt, a.failure)

/-- Finished attempts keep their outcome. -/
def KeepsOutcomes (s s' : Store) : Prop :=
  ∀ id a, s.attempts.get? id = some a → a.progress.terminal = true →
    ∃ a', s'.attempts.get? id = some a' ∧ a'.outcome = a.outcome

theorem KeepsOutcomes.refl (s : Store) : KeepsOutcomes s s :=
  fun _ a ha _ => ⟨a, ha, rfl⟩

theorem KeepsOutcomes.trans (a b c : Store) (hab : KeepsOutcomes a b) (hbc : KeepsOutcomes b c) :
    KeepsOutcomes a c := by
  intro id t ht hterminal
  obtain ⟨t', ht', hout⟩ := hab id t ht hterminal
  have hprogress : t'.progress = t.progress := congrArg Prod.fst hout
  obtain ⟨t'', ht'', hout'⟩ := hbc id t' ht' (hprogress ▸ hterminal)
  exact ⟨t'', ht'', hout'.trans hout⟩

theorem keepsOutcomes_put_iff {s s' : Store} {current attempt : Attempt}
    (hrow : s.attempts.get? attempt.id = some current)
    (hput : s'.attempts = s.attempts.put attempt) :
    KeepsOutcomes s s' ↔ (current.progress.terminal = true → attempt.outcome = current.outcome) := by
  constructor
  · intro h hterminal
    obtain ⟨a', ha', hout⟩ := h attempt.id current hrow hterminal
    rw [hput, get?_put_self, Option.some.injEq] at ha'
    rwa [ha']
  · intro h id a ha hterminal
    rw [hput, get?_put]
    split_ifs with hid
    · rw [← hid, hrow, Option.some.injEq] at ha
      rw [← ha] at hterminal ⊢
      exact ⟨attempt, rfl, h hterminal⟩
    · exact ⟨a, ha, rfl⟩

/-! ## The guarded transactions -/

variable {s s' : Store} {attempt : Attempt} {now : Time} {recovery : UnknownAssignmentRecovery}

theorem recordFailureStamp_keeps {stamp : AttemptFailureStamp} {written : Nat}
    (h : s.recordFailureStamp stamp = .ok (s', written)) : KeepsOutcomes s s' := by
  replace h := past_guard h
  split at h
  · cases h
    exact KeepsOutcomes.refl _
  · rename_i attempt hattempt
    split at h
    · cases h
      exact KeepsOutcomes.refl _
    · obtain ⟨updated, hupdated, h⟩ := of_bind h
      cases h
      obtain ⟨-, rfl⟩ := updateAttempt_ok hupdated
      rw [← key_of_get? hattempt] at hattempt
      exact (@keepsOutcomes_put_iff s _ attempt
        { attempt with failureClass := stamp.failureClass, failureReason := stamp.code } hattempt
        rfl).2 fun _ => rfl

theorem recordAttemptFailureClassifications_keeps {stamps : List AttemptFailureStamp} {written : Nat}
    (h : s.recordAttemptFailureClassifications stamps = .ok (s', written)) : KeepsOutcomes s s' := by
  induction stamps generalizing s written with
  | nil =>
    cases h
    exact KeepsOutcomes.refl _
  | cons stamp rest ih =>
    obtain ⟨⟨s₁, first⟩, hfirst, h⟩ := of_bind h
    obtain ⟨⟨s₂, more⟩, hmore, h⟩ := of_bind h
    cases h
    exact (recordFailureStamp_keeps hfirst).trans _ _ _ (ih hmore)

theorem checkFinishedAttempt_outcome {current : Attempt} {tr : WorkerStateTransition}
    (h : checkFinishedAttempt current tr = .ok ()) (hterminal : current.progress.terminal = true) :
    tr.attempt.outcome = current.outcome := by
  have hfinished : attemptFinished current = true := by simp [attemptFinished, hterminal]
  have hkept := refuseWhen_eq_ok_iff.1 h
  simp only [hfinished, true_and, not_or, not_not] at hkept
  obtain ⟨hprogress, -, hcompleted, hfailure, -⟩ := hkept
  simp only [Attempt.outcome, hprogress, hcompleted, hfailure]

theorem commitWorkerStateTransitions_keeps {digest : ThrottleCommand → String}
    {trs : List WorkerStateTransition} {applied : List Assignment}
    (h : s.commitWorkerStateTransitions digest trs = .ok (s', applied)) : KeepsOutcomes s s' := by
  refine applyWorkerStateTransitions_rel KeepsOutcomes.refl KeepsOutcomes.trans ?_ h
  intro s tr attempt auditEvents htr _
  exact (keepsOutcomes_put_iff htr.attempted rfl).2 (checkFinishedAttempt_outcome htr.finished)

theorem publishAttempt_keeps {prior : Attempt} (hid : attempt.id = prior.id)
    (hrow : s.attempts.get? prior.id = some prior) (h : s.publishAttempt prior attempt now = .ok s') :
    KeepsOutcomes s s' ∧ ∀ id, id ≠ prior.id → s'.attempts.get? id = s.attempts.get? id := by
  unfold publishAttempt at h
  split_ifs at h
  · cases h
    exact ⟨KeepsOutcomes.refl s, fun _ _ => rfl⟩
  · obtain ⟨⟨⟩, hcheck, hupdate⟩ := of_bind h
    obtain ⟨hopen, -⟩ := of_guard hcheck
    unfold updateAdminAttempt at hupdate
    split_ifs at hupdate
    cases hupdate
    rw [← hid] at hrow
    refine ⟨(keepsOutcomes_put_iff hrow rfl).2 fun hterminal => absurd (.inr hterminal) hopen, ?_⟩
    intro id hne
    exact get?_put_of_ne _ (by rw [hid]; exact hne.symm)

theorem publishAttempts_keeps {runID : String} (attempts : List Attempt)
    {remaining left : List Attempt} (hrows : ∀ a ∈ remaining, s.attempts.get? a.id = some a)
    (h : publishAttempts runID now s attempts remaining = .ok (s', left)) :
    KeepsOutcomes s s' := by
  induction attempts generalizing s remaining with
  | nil =>
    cases h
    exact KeepsOutcomes.refl _
  | cons attempt rest ih =>
    unfold publishAttempts at h
    split at h
    · cases h
    · rename_i prior hprior
      split_ifs at h
      obtain ⟨s₁, hpublish, hrest⟩ := of_bind h
      have hid : prior.id = attempt.id := by simpa using List.find?_some hprior
      obtain ⟨hkeeps, hothers⟩ := publishAttempt_keeps hid.symm
        (hrows prior (List.mem_of_find?_eq_some hprior)) hpublish
      refine hkeeps.trans _ _ _ (ih (fun a ha => ?_) hrest)
      obtain ⟨hmem, hne⟩ := List.mem_filter.1 ha
      rw [hothers a.id (by rw [hid]; simpa using hne)]
      exact hrows a hmem

theorem commitWorkflowProjection_keeps {resolveNode : Store → NodeRef → Except Err NodeObservation}
    {before : WorkflowProjectionSnapshot} {run : WorkflowRun} {attempts : List Attempt}
    (h : s.commitWorkflowProjection resolveNode before run attempts now = .ok s') :
    KeepsOutcomes s s' := by
  obtain ⟨current, published, _, _, _, hload, -, hpublish, -, -, rfl⟩ :=
    commitWorkflowProjection_inv h
  have hkeeps := publishAttempts_keeps attempts
    (fun a ha => ((loadWorkflowProjection_ok hload).2.2 a ha).2) hpublish
  exact hkeeps

/-! ## The recovery -/

/-- A recovery that resolves an unknown execution as failed although its attempt is finished with
another outcome. -/
def OverwritesOutcome (s : Store) (recovery : UnknownAssignmentRecovery) : Prop :=
  recovery.outcome = .failed ∧ ∃ assignment attempt, s.Recoverable recovery assignment attempt ∧
    attempt.progress.terminal = true ∧
    attempt.outcome ≠ (.failed, some recovery.recoveredAt, unknownExecutionFailed)

theorem recoveredAttempt_of_failed (h : recovery.outcome = .failed) (attempt : Attempt) :
    (recoveredAttempt recovery attempt).outcome =
      (.failed, some recovery.recoveredAt, unknownExecutionFailed) := by
  simp [recoveredAttempt, h, Attempt.outcome]

theorem recovered_keeps_iff {assignment : Assignment}
    (h : s.Recoverable recovery assignment attempt) :
    KeepsOutcomes s (s.recovered recovery assignment attempt) ↔ ¬OverwritesOutcome s recovery := by
  have hrow : s.attempts.get? (recoveredAttempt recovery attempt).id = some attempt := by
    rw [recoveredAttempt_id, key_of_get? h.attempted, h.attempted]
  rw [keepsOutcomes_put_iff hrow rfl]
  constructor
  · rintro hkeeps ⟨hfailed, assignment', attempt', h', hterminal, hne⟩
    cases h.assigned.symm.trans h'.assigned
    cases h.attempted.symm.trans h'.attempted
    exact hne ((hkeeps hterminal).symm.trans (recoveredAttempt_of_failed hfailed attempt))
  · intro hnot hterminal
    by_cases hfailed : recovery.outcome = .failed
    · rw [recoveredAttempt_of_failed hfailed]
      by_contra hne
      exact hnot ⟨hfailed, assignment, attempt, h, hterminal, Ne.symm hne⟩
    · unfold recoveredAttempt
      cases houtcome : recovery.outcome with
      | failed => exact absurd houtcome hfailed
      | stopped => simp [hterminal, Attempt.outcome]
      | unset => rfl

/-! ## Runs -/

inductive AttemptWrite
  | transitions (trs : List WorkerStateTransition)
  | recover (recovery : UnknownAssignmentRecovery)
  | project (before : WorkflowProjectionSnapshot) (run : WorkflowRun) (attempts : List Attempt)
      (now : Time)
  | classify (stamps : List AttemptFailureStamp)

section

variable (digest : ThrottleCommand → String)
  (resolveNode : Store → NodeRef → Except Err NodeObservation)

def AttemptWrite.commit (s : Store) : AttemptWrite → Except Err Store
  | .transitions trs => (s.commitWorkerStateTransitions digest trs).map Prod.fst
  | .recover recovery => (s.recoverUnknownAssignment recovery).map Prod.fst
  | .project before run attempts now =>
    s.commitWorkflowProjection resolveNode before run attempts now
  | .classify stamps => (s.recordAttemptFailureClassifications stamps).map Prod.fst

def writeAttempts (s : Store) (op : AttemptWrite) : Store :=
  committed s (op.commit digest resolveNode s)

/-- A recovery that overwrites the outcome of a finished attempt. -/
def AttemptWrite.overwrites (s : Store) : AttemptWrite → Prop
  | .recover recovery => OverwritesOutcome s recovery
  | _ => False

variable {digest resolveNode}

theorem writeAttempts_keeps_iff (s : Store) (op : AttemptWrite) :
    KeepsOutcomes s (writeAttempts digest resolveNode s op) ↔ ¬op.overwrites s := by
  cases op with
  | transitions trs =>
    refine iff_of_true (rel_committed KeepsOutcomes.refl fun s' h => ?_) id
    obtain ⟨_, h⟩ := map_fst_eq_ok h
    exact commitWorkerStateTransitions_keeps h
  | project before run attempts now =>
    refine iff_of_true (rel_committed KeepsOutcomes.refl fun s' h => ?_) id
    exact commitWorkflowProjection_keeps h
  | classify stamps =>
    refine iff_of_true (rel_committed KeepsOutcomes.refl fun s' h => ?_) id
    obtain ⟨_, h⟩ := map_fst_eq_ok h
    exact recordAttemptFailureClassifications_keeps h
  | recover recovery =>
    by_cases hrecoverable : ∃ assignment attempt, s.Recoverable recovery assignment attempt
    · obtain ⟨assignment, attempt, h⟩ := hrecoverable
      obtain ⟨decision, happlied⟩ := recoverUnknownAssignment_of_recoverable h
      simp only [writeAttempts, AttemptWrite.commit, happlied, Except.map, committed]
      exact recovered_keeps_iff h
    · refine iff_of_true (rel_committed KeepsOutcomes.refl fun s' h => ?_) ?_
      · obtain ⟨_, h⟩ := map_fst_eq_ok h
        rcases recoverUnknownAssignment_ok h with rfl | ⟨assignment, attempt, happlied, -⟩
        · exact KeepsOutcomes.refl _
        · exact absurd ⟨assignment, attempt, happlied⟩ hrecoverable
      · rintro ⟨-, assignment, attempt, happlied, -⟩
        exact hrecoverable ⟨assignment, attempt, happlied⟩

/-- In every run a finished attempt keeps its progress, completion time and failure exactly when no
step is a recovery that resolves the execution of an attempt finished otherwise as failed. -/
theorem finished_attempts_keep_outcome (digest : ThrottleCommand → String)
    (resolveNode : Store → NodeRef → Except Err NodeObservation) (s : Store)
    (ops : List AttemptWrite) :
    Runs.Throughout (writeAttempts digest resolveNode) KeepsOutcomes s ops ↔
      Runs.Along (writeAttempts digest resolveNode) (fun s op => ¬op.overwrites s) s ops := by
  rw [throughout_iff KeepsOutcomes.refl KeepsOutcomes.trans]
  exact along_congr writeAttempts_keeps_iff

def cancelledUnknown : Store :=
  { attempts :=
      ofList Attempt.id
        [{ id := "attempt", progress := .cancelled, control := .draining, revision := 4
           assignmentID := "assignment", failure := "cancelled by operator", completedAt := some 3 }]
    assignments :=
      ofList Assignment.id
        [{ id := "assignment", attemptID := "attempt", state := .unknown, epoch := 1 }] }

def recoverAsFailed : UnknownAssignmentRecovery :=
  { id := "recovery", assignmentID := "assignment", coordinatorEpoch := 1
    expectedAssignmentEpoch := 1, expectedAttemptRevision := 4, outcome := .failed
    evidenceID := "evidence"
    evidenceSHA256 := "0123456789abcdef0123456789abcdef0123456789abcdef0123456789abcdef"
    actor := "operator", reason := "reviewed", recoveredAt := 9 }

/-- The recovery turns the cancelled attempt into a failed one. -/
theorem failed_recovery_rewrites_cancelled : ¬∀ (digest : ThrottleCommand → String)
      (resolveNode : Store → NodeRef → Except Err NodeObservation) (s : Store)
      (ops : List AttemptWrite),
      Runs.Throughout (writeAttempts digest resolveNode) KeepsOutcomes s ops := by
  intro h
  obtain ⟨a', ha', hout⟩ := h (fun _ => "") (fun _ _ => .ok {}) cancelledUnknown
    [.recover recoverAsFailed] [] [.recover recoverAsFailed] [] rfl "attempt" _ rfl rfl
  cases ha'
  exact absurd hout (by decide)

end

end Steward
