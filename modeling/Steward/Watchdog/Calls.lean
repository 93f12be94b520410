import Steward.Watchdog.Daemon

/-!
# The calls of the watchdog

What each part of the watchdog can call, whatever the replies: messages go out for the bucket of the
action only, and acting on threads and resuming them neither reads nor writes a bucket. The lemmas
hold for any set of calls that has everything but warnings, stops, bucket reads and bucket writes.
-/

namespace Steward.Watchdog

open Process List

def Call.background : Call → Bool
  | .warnThread .. | .stopThread .. | .loadBucket .. | .saveBucket .. | .listBuckets => false
  | _ => true

structure ActsFor (A : Call → Prop) (bucket : BucketKey) : Prop where
  warn : ∀ t kind text, A (.warnThread t kind text bucket)
  stop : ∀ t mode, A (.stopThread t mode bucket)

/-- The set has every call that neither sends a message nor touches a bucket. -/
class Background (A : Call → Prop) : Prop where
  allows : ∀ c : Call, c.background = true → A c

variable {cfg : Config} {A : Call → Prop} [Background A]

theorem ask_only {c : Call} (hc : c.background = true) : (ask c).Only A :=
  only_request (Background.allows c hc)

theorem asked_only {α : Type} {c : Call} {f : c.Reply → Program α} (hc : c.background = true)
    (hf : ∀ reply, (f reply).Only A) : (ask c >>= f).Only A :=
  (ask_only hc).andThen hf

/-! ## Acting on threads -/

variable (threads : List Thread) (states : List BucketState)

theorem splitUserResumed_only (st : BucketState) : (splitUserResumed threads st).Only A := by
  unfold splitUserResumed
  split_ifs
  · exact only_done _
  · refine asked_only rfl fun recorded => only_fold (fun t _ split => ?_) _
    split_ifs
    · exact only_done _
    · exact only_done _
    · exact asked_only rfl fun _ => only_done _

theorem saveIntent_only (t : Thread) (bucket : BucketKey) (now : Time) (drain : Bool) :
    (saveIntent t bucket now drain).Only A := by
  refine asked_only rfl fun existing => ?_
  cases existing with
  | none => exact only_done _
  | some existing => exact asked_only rfl fun _ => only_done _

theorem waitStopped_only (rounds : Nat) (remaining : List Thread) :
    (waitStopped rounds remaining).Only A := by
  induction rounds generalizing remaining with
  | zero => exact only_done _
  | succ rounds ih =>
    refine asked_only rfl fun threads => ?_
    refine asked_only rfl fun expired => ?_
    split_ifs
    · exact only_done _
    · exact ih _

theorem affectedThreads_only (a : Action) : (affectedThreads a).Only A := by
  refine asked_only rfl fun threads => ?_
  cases threads with
  | none => exact only_done _
  | some threads =>
    refine Only.andThen ?_ fun owners => only_done _
    exact asked_only rfl fun owners => only_done _

variable {a : Action}

theorem execute_rearm_only (ha : a.kind = .rearm) (state : BucketState) :
    (execute cfg state a).Only A := by
  unfold execute
  rw [ha]
  split_ifs
  · exact only_done _
  · exact asked_only rfl fun _ => only_done _

section

variable (ha : ActsFor A a.bucket) (state : BucketState)
include ha

theorem notifyThread_only (text : String) (t : Thread) :
    (notifyThread cfg a state text t).Only A := by
  refine asked_only rfl fun now => ?_
  refine asked_only rfl fun fresh => ?_
  split_ifs
  · exact only_done _
  · refine (only_request (ha.warn t a.kind text)).andThen fun sent => ?_
    split_ifs
    · exact asked_only rfl fun now => saveIntent_only t a.bucket now true
    · exact only_done _

theorem notifyThreads_only (threads : List Thread) : (notifyThreads cfg threads a state).Only A := by
  unfold notifyThreads
  split_ifs
  · exact only_done _
  · refine asked_only rfl fun now => ?_
    dsimp only
    split
    · exact only_done _
    · exact only_each fun t _ => notifyThread_only ha state _ t

theorem warnThreads_only (threads : List Thread) : (warnThreads cfg threads a state).Only A := by
  refine (splitUserResumed_only threads state).andThen fun split => ?_
  refine (notifyThreads_only ha state split.1).andThen fun _ => ?_
  exact notifyThreads_only (a := { a with kind := .warn }) ha state split.2

omit [Background A] in
theorem sendStops_only (mode : String) (threads : List Thread) :
    (each (fun t => do let _ ← ask (.stopThread t mode a.bucket); pure ()) threads).Only A :=
  only_each fun t _ => (only_request (ha.stop t mode)).andThen fun _ => only_done _

theorem verifyStops_only (mode : String) (retries : Nat) (remaining : List Thread) :
    (verifyStops cfg mode a.bucket retries remaining).Only A := by
  induction retries generalizing mode remaining with
  | zero => exact only_done _
  | succ retries ih =>
    unfold verifyStops
    split
    · exact only_done _
    · refine (waitStopped_only _ _).andThen fun remaining => ?_
      split
      · exact only_done _
      · exact (sendStops_only ha _ remaining).andThen fun _ => ih _ remaining

theorem unstopped_only (targets : List Thread) : (unstopped cfg a.bucket targets).Only A := by
  unfold unstopped
  split_ifs
  · exact only_done _
  · exact verifyStops_only ha cfg.stopMode _ targets

theorem stopThreads_only (threads : List Thread) : (stopThreads cfg threads a state).Only A := by
  refine asked_only rfl fun now => ?_
  refine (splitUserResumed_only threads state).andThen fun split => ?_
  refine (only_fold (fun _ _ _ => asked_only rfl fun _ => only_done _) _).andThen fun targets => ?_
  split_ifs
  · exact only_done _
  · refine (sendStops_only ha cfg.stopMode targets).andThen fun _ => ?_
    refine (unstopped_only ha targets).andThen fun remaining => only_each fun t _ => ?_
    split_ifs
    · exact only_done _
    · exact asked_only rfl fun now => saveIntent_only t a.bucket now false

theorem execute_only : (execute cfg state a).Only A := by
  unfold execute
  split
  · split_ifs
    · exact only_done _
    · exact asked_only rfl fun _ => only_done _
  · exact only_done _
  · refine (affectedThreads_only a).andThen fun affected => ?_
    split
    · exact only_done _
    · exact only_done _
    · split_ifs
      · exact stopThreads_only ha state _
      · exact warnThreads_only ha state _

end

/-! ## Polling and resuming -/

theorem resumeOne_only (intent : ResumeIntent) (thread : Thread) (now : Time) :
    (resumeOne cfg intent thread now).Only A := by
  unfold resumeOne
  split_ifs
  · exact only_done _
  · refine asked_only rfl fun saved => ?_
    split_ifs
    · exact only_done _
    · refine asked_only rfl fun sent => ?_
      exact asked_only rfl fun _ => only_done _

theorem judgeIntent_only (owners : ThreadOwners) (memory : Memory) (now : Time)
    (candidates : List ResumeIntent) (intent : ResumeIntent) :
    (judgeIntent cfg threads states owners memory now candidates intent).Only A := by
  unfold judgeIntent
  dsimp only
  split_ifs
  any_goals exact only_done _
  all_goals exact asked_only rfl fun _ => only_done _

theorem launchOne_only (now : Time) (batch : Batch) (intent : ResumeIntent) :
    (launchOne cfg threads states now batch intent).Only A := by
  unfold launchOne
  dsimp only
  split_ifs
  · exact only_done _
  · refine asked_only rfl fun recheck => ?_
    split_ifs
    · exact only_done _
    · exact (resumeOne_only intent _ now).andThen fun _ => only_done _

theorem advanceResumes_only (owners : ThreadOwners) (memory : Memory) :
    (advanceResumes cfg threads states owners memory).Only A := by
  refine asked_only rfl fun intents => ?_
  split
  · exact only_done _
  · exact only_done _
  · refine asked_only rfl fun now => ?_
    refine (only_fold (fun intent _ candidates => judgeIntent_only threads states owners memory
      now candidates intent) _).andThen fun candidates => ?_
    exact (only_fold (fun intent _ batch => launchOne_only threads states now batch intent)
      _).andThen fun batch => only_done _

theorem relist_only (stoppedAny : Bool) (threads : List Thread) :
    (relist stoppedAny threads).Only A := by
  unfold relist
  split_ifs
  · exact ask_only rfl
  · exact only_done _

section

variable (hact : ∀ bucket : BucketKey, cfg.ignoredWindow bucket.window = false → ActsFor A bucket)
include hact

theorem pollBucket_only (threads : List Thread) (owners : ThreadOwners) (now : Time)
    (stoppedAny : Bool)
    (st : BucketState) : (pollBucket cfg threads owners now stoppedAny st).Only A := by
  unfold pollBucket
  dsimp only
  split
  · exact only_done _
  · rename_i hskip
    have hkey : ActsFor A st.key := by
      refine hact st.key ?_
      by_contra hignored
      exact hskip (.inr (.inr (.inl (by simpa using hignored))))
    split
    · exact (warnThreads_only (a := { kind := .warn, bucket := st.key, snapshot := snapshotFromState st })
        hkey st _).andThen fun _ => only_done _
    · exact (warnThreads_only (a := { kind := .drain, bucket := st.key, snapshot := snapshotFromState st })
        hkey st _).andThen fun _ => only_done _
    · split_ifs
      · exact only_done _
      · refine (splitUserResumed_only _ st).andThen fun split => ?_
        split_ifs
        · exact only_done _
        · exact (stopThreads_only (a := { kind := .stop, bucket := st.key, snapshot := snapshotFromState st })
            hkey st _).andThen fun _ => only_done _
    · exact only_done _

theorem pollThreads_only (hlist : A .listBuckets) (memory : Memory) :
    (pollThreads cfg memory).Only A := by
  refine asked_only rfl fun threads => ?_
  cases threads with
  | none => exact only_done _
  | some threads =>
    refine (only_request hlist).andThen fun states => ?_
    cases states with
    | none => exact only_done _
    | some states =>
      refine asked_only rfl fun now => ?_
      refine Only.andThen (asked_only rfl fun _ => only_done _) fun owners => ?_
      refine (only_fold (fun st _ stoppedAny => pollBucket_only hact threads owners now stoppedAny st)
        _).andThen fun stoppedAny => ?_
      refine (relist_only stoppedAny threads).andThen fun fresh => ?_
      cases fresh with
      | none => exact only_done _
      | some threads =>
        split_ifs
        · exact only_done _
        · exact advanceResumes_only threads states owners memory

end

/-! ## The actions of the policy -/

variable {t : Thresholds} {now : Time} {snap : QuotaSnapshot} {prev : BucketState}

theorem rearms_actions {state : BucketState} (h : a ∈ (t.rearms snap state now).2) :
    a.bucket = snap.key := by
  unfold Thresholds.rearms at h
  split_ifs at h
  · obtain rfl := mem_singleton.1 h
    rfl
  · cases h
  · obtain rfl := mem_singleton.1 h
    rfl
  · cases h
  · cases h
  · cases h

theorem escalate_actions {want : Phase} {state : BucketState}
    (h : a ∈ (t.escalate snap want state now).2) : a.bucket = snap.key := by
  unfold Thresholds.escalate at h
  generalize (if state.phase = .warned ∧ want = .normal ∧ snap.usedPercent < t.warnPercent then
    { state with phase := .normal } else state) = lowered at h
  by_cases hraise : lowered.phase.rank < want.rank
  · rw [if_pos hraise] at h
    obtain rfl := mem_singleton.1 h
    rfl
  · rw [if_neg hraise] at h
    cases h

theorem evaluate_actions (h : a ∈ (t.evaluate snap prev now).actions) : a.bucket = snap.key := by
  unfold Thresholds.evaluate at h
  dsimp only at h
  split_ifs at h
  · cases h
  · exact (mem_append.1 h).elim rearms_actions escalate_actions

theorem rederive_actions (h : a ∈ (t.rederive prev now).actions) : a.kind = .rearm := by
  unfold Thresholds.rederive at h
  dsimp only at h
  split at h
  · cases h
  · obtain rfl := mem_singleton.1 h
    rfl

theorem tick_actions (h : a ∈ (t.tick prev now).actions) : a.bucket = prev.key := by
  unfold Thresholds.tick at h
  split_ifs at h
  · cases h
  · cases h
  · obtain rfl := mem_singleton.1 h
    rfl

end Steward.Watchdog
