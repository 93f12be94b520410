import Steward.Worker.World

/-!
# What the worker does to one attempt

Every task of the runtime that works on one attempt reads and writes the record of that attempt
only, and leaves its identity and the coordinator's commands on it as they are; only the answers to
commands add to those. A task that never starts anything calls the driver to observe, stop and
collect.
-/

namespace Steward.Worker

open Process.Fallible

/-- What identifies the execution of a record and what the coordinator said about it. -/
structure Directives where
  assignment : Assignment
  package : ExecutionPackageManifest
  commandRequests : List (String × WorkerCommand)
  commandResults : List (String × WorkerAcknowledgement)
  throttleRequests : List (String × ThrottleCommand)
  throttleResults : List (String × ThrottleAcknowledgement)
  pendingThrottle : Option ThrottleCommand

def AttemptRecord.directives (r : AttemptRecord) : Directives :=
  { assignment := r.assignment, package := r.package, commandRequests := r.commandRequests
    commandResults := r.commandResults, throttleRequests := r.throttleRequests
    throttleResults := r.throttleResults, pendingThrottle := r.pendingThrottle }

def Steady (change : Int → AttemptRecord → Option AttemptRecord) : Prop :=
  ∀ n r r', change n r = some r' → r'.directives = r.directives

/-- A call on one attempt that leaves its directives alone, with these driver calls. -/
def Within (id : String) (D : DriverCall → Prop) : Call → Prop
  | .update id' _ change => id' = id ∧ Steady change
  | .remove id' _ => id' = id
  | .register key | .release key => key.assignmentID = id
  | .driver id' _ c => id' = id ∧ D c
  | .applyPolicy _ | .applyParked .. | .report _ => False
  | _ => True

abbrev WithinTask {α : Type} (id : String) (D : DriverCall → Prop) (t : Task α) : Prop :=
  Process.Only (Within id D) t

theorem steady_of_eq {f : AttemptRecord → AttemptRecord}
    (h : ∀ r, (f r).directives = r.directives) : Steady fun _ r => some (f r) := by
  rintro n r r' ⟨⟩
  exact h r

theorem steady_ite {P : Int → AttemptRecord → Prop} [∀ n r, Decidable (P n r)]
    {f : Int → AttemptRecord → AttemptRecord} (h : ∀ n r, (f n r).directives = r.directives) :
    Steady fun n r => if P n r then none else some (f n r) := by
  intro n r r' hr
  dsimp only at hr
  split at hr
  · cases hr
  · cases hr
    exact h n r

section

variable {A : Call → Prop} {α β : Type}

/-! ## Composing -/

@[simp] theorem fail_only (f : Fault) : Process.Only A (fail f : Task α) := only_fail f

theorem asked_only {c : Call} {k : c.Reply → Task β} (h : A c) (hk : ∀ r, Process.Only A (k r)) :
    Process.Only A (ask c >>= k : Task β) :=
  (only_request h).bind hk

@[simp] theorem onlyIf_only {c : Prop} [Decidable c] {t : Task Unit} (h : Process.Only A t) :
    Process.Only A (onlyIf c t) := by
  unfold onlyIf
  split
  · exact h
  · exact only_pure ()

theorem swallow_only {t : Task Unit} (h : Process.Only A t) : Process.Only A (swallow t) :=
  (only_attempt h).bind fun r => by
    split <;> simp

theorem succeed_only (reply : Except String Unit) (context : String) :
    Process.Only A (succeed reply context) := by
  unfold succeed
  split <;> simp

end

/-- The driver calls that start nothing are among these. -/
class Quiet (D : DriverCall → Prop) : Prop where
  allows : ∀ c, c.starts = false → D c

instance : Quiet fun _ => True := ⟨fun _ _ => trivial⟩

section

variable {id : String} {D : DriverCall → Prop} {change : AttemptRecord → Option AttemptRecord}

/-! ## The journal -/

theorem currentRecord_within : WithinTask id D (currentRecord id) :=
  asked_only trivial fun r => by
    cases r <;> simp

theorem recordOf_within : WithinTask id D (recordOf id) :=
  currentRecord_within.bind fun r => by
    cases r <;> simp

theorem update_within {moves : Bool} {change : Int → AttemptRecord → Option AttemptRecord}
    (h : Steady change) : WithinTask id D (update id moves change) :=
  asked_only ⟨rfl, h⟩ fun r => by
    cases r <;> simp

theorem modify_within (h : Steady fun _ r => change r) : WithinTask id D (modify id change) :=
  (update_within h).bind fun _ => only_pure ()

theorem amend_within (h : Steady fun _ r => change r) : WithinTask id D (amend id change) :=
  (update_within h).bind fun updated => by
    split <;> simp

@[simp] theorem recordableFailure_within (text : String) :
    WithinTask id D (recordableFailure id text) := by
  unfold recordableFailure
  split
  · exact only_pure _
  · exact asked_only trivial fun _ => only_pure _

theorem writePhase_within (phase : Phase) (failure workspace thread : String) :
    WithinTask id D (writePhase id phase failure workspace thread) :=
  asked_only trivial fun _ => amend_within (steady_of_eq fun _ => by rfl)

@[simp] theorem markPhase_within (phase : Phase) (failure workspace thread : String) :
    WithinTask id D (markPhase id phase failure workspace thread) :=
  (recordableFailure_within failure).bind fun failure => writePhase_within phase failure workspace
    thread

@[simp] theorem markUnknown_within (detail : String) : WithinTask id D (markUnknown id detail) :=
  (recordableFailure_within detail).bind fun detail => writePhase_within .unknown detail "" ""

theorem noteThreadState_within (observed : ThreadState) :
    WithinTask id D (noteThreadState id observed) :=
  Process.Only.bind (update_within (steady_ite fun _ _ => by rfl)) fun _ => only_pure ()

theorem setPrepareAttempts_within (attempts : Nat) :
    WithinTask id D (setPrepareAttempts id attempts) :=
  asked_only trivial fun _ => modify_within (steady_ite fun _ _ => by rfl)

variable (r : AttemptRecord)

theorem collectionClaimed_within : WithinTask id D (collectionClaimed id r) :=
  currentRecord_within.bind fun _ => only_pure _

theorem collectOnce_within : WithinTask id D (collectOnce id r) := by
  refine asked_only trivial fun registered => ?_
  split
  · refine asked_only trivial fun outcome => ?_
    split <;> simp
  · refine asked_only (by rfl) fun _ => (only_attempt (collectionClaimed_within r)).bind
      fun claimed => ?_
    split
    · exact asked_only (by rfl) fun _ => fail_only _
    · exact asked_only (by rfl) fun _ => only_pure _
    · refine asked_only trivial fun outcome => ?_
      split <;> simp

theorem completeCollection_within (settleUnproven : Bool) :
    WithinTask id D (completeCollection id r settleUnproven) :=
  asked_only trivial fun now => Process.Only.bind (modify_within (steady_ite fun _ _ => by rfl))
    fun _ =>
    asked_only (by rfl) fun _ => only_pure _

@[simp] theorem confirmStop_within (stopped : AttemptRecord) :
    WithinTask id D (confirmStop id stopped) := by
  refine asked_only trivial fun now => Process.Only.bind (update_within fun n r r' hr => ?_)
    fun updated => ?_
  · split at hr
    · cases hr
      rfl
    · cases hr
  · split <;> simp

variable [Quiet D]

theorem driver_within {c : DriverCall} (h : c.starts = false) (pkg : ExecutionPackage) :
    Within id D (.driver id pkg c) :=
  ⟨rfl, Quiet.allows c h⟩

@[simp] theorem markFailed_within (detail : String) : WithinTask id D (markFailed id detail) :=
  currentRecord_within.bind fun r => by
    cases r with
    | none => exact fail_only _
    | some r =>
      exact asked_only (driver_within rfl r.pkg) fun stopped => (succeed_only stopped "").bind
        fun _ =>
        (recordableFailure_within detail).bind fun detail => writePhase_within .failed detail "" ""

theorem observeThread_within (pkg : ExecutionPackage) : WithinTask id D (observeThread id pkg) :=
  asked_only (driver_within rfl pkg) fun reply => by
    split
    · exact only_pure _
    · exact fail_only _
    · refine (only_attempt (markFailed_within _)).bind fun r => ?_
      split <;> simp

/-! ## Preparing and dispatching -/

@[simp] theorem expireExecution_within : WithinTask id D (expireExecution id r) := by
  refine (onlyIf_only (markPhase_within _ _ _ _)).bind fun _ => ?_
  refine asked_only (driver_within rfl r.pkg) fun reply => ?_
  split
  · exact only_pure ()
  · refine (only_attempt (observeThread_within r.pkg)).bind fun observed => ?_
    split <;> simp

theorem expireTask_within : WithinTask id D (expireTask id r) := by
  unfold expireTask
  split <;> simp

theorem prepareFailed_within (attempts : Nat) (text : String) :
    WithinTask id D (prepareFailed id r attempts text) := by
  refine Process.Only.bind (by unfold firstFailure; split <;> simp) fun first => ?_
  split
  · exact markFailed_within _
  · refine (recordableFailure_within _).bind fun failure => asked_only trivial fun now => ?_
    exact Process.Only.bind (modify_within (steady_of_eq fun _ => by rfl)) fun _ => fail_only _

/-! ## Collecting -/

theorem failFinishedCollection_within (failure : String) :
    WithinTask id D (failFinishedCollection id r failure) := by
  refine (collectionClaimed_within r).bind fun claimed => ?_
  split
  · refine asked_only (driver_within rfl r.pkg) fun stopped => (succeed_only stopped "").bind
      fun _ => ?_
    refine asked_only trivial fun now => ?_
    refine Process.Only.bind (modify_within (steady_ite fun _ _ => by rfl)) fun _ => ?_
    exact asked_only (by rfl) fun _ => only_pure _
  · exact asked_only (by rfl) fun _ => only_pure _

theorem finishCollection_within (outcome : CollectOutcome) :
    WithinTask id D (finishCollection id r outcome) := by
  cases outcome with
  | ok => exact completeCollection_within r false
  | settleUnproven => exact completeCollection_within r true
  | permanent secret text =>
    refine (failFinishedCollection_within r _).bind fun claimed => ?_
    split <;> simp
  | lost failure => exact (failFinishedCollection_within r failure).bind fun _ => only_pure _
  | deferred text => exact asked_only (by rfl) fun _ => fail_only _

@[simp] theorem runCollection_within : WithinTask id D (runCollection id r) :=
  (collectOnce_within r).bind fun outcome => by
    cases outcome with
    | none => exact only_pure _
    | some outcome => exact finishCollection_within r outcome

theorem publishFailure_within : WithinTask id D (publishFailure id r) := by
  refine asked_only trivial fun redacted => ?_
  split
  · exact fail_only _
  · refine Process.Only.bind (onlyIf_only (modify_within (steady_ite fun _ _ => by rfl))) fun _ => ?_
    refine asked_only (driver_within rfl r.pkg) fun published => ?_
    split
    · exact fail_only _
    · exact asked_only trivial fun now => modify_within (steady_ite fun _ _ => by rfl)

@[simp] theorem failMissingWorkspace_within : WithinTask id D (failMissingWorkspace id) :=
  (markFailed_within _).bind fun _ => recordOf_within.bind fun r =>
    onlyIf_only (publishFailure_within r)

@[simp] theorem collectOutputs_within : WithinTask id D (collectOutputs id r) := by
  refine (onlyIf_only (markPhase_within _ _ _ _)).bind fun _ => asked_only trivial
    fun registered => ?_
  split
  · refine asked_only (driver_within rfl r.pkg) fun inspected => ?_
    split <;> simp
  · exact runCollection_within r

@[simp] theorem collect_within : WithinTask id D (collect id) :=
  recordOf_within.bind fun r => by
    split
    · exact only_pure _
    · exact publishFailure_within r
    · split <;> simp
    · split <;> simp
    · exact fail_only _

/-! ## Stopping -/

@[simp] theorem stopExecution_within : WithinTask id D (stopExecution id r) :=
  (markPhase_within _ _ _ _).bind fun _ => asked_only (driver_within rfl r.pkg) fun stopped =>
    (succeed_only stopped _).bind fun _ => confirmStop_within r

@[simp] theorem stopAfterCollection_within : WithinTask id D (stopAfterCollection id) :=
  (only_attempt collect_within).bind fun collected => by
    split
    · exact fail_only _
    · refine currentRecord_within.bind fun current => ?_
      split <;> simp

@[simp] theorem stop_within : WithinTask id D (stop id) :=
  recordOf_within.bind fun r => by
    split
    · exact only_pure _
    · exact only_pure _
    · exact markFailed_within _
    · exact markFailed_within _
    · exact markFailed_within _
    · refine asked_only trivial fun registered => ?_
      split <;> simp
    · exact stopExecution_within r

@[simp] theorem prune_within : WithinTask id D (prune id r) :=
  asked_only (driver_within rfl r.pkg) fun cleaned => (succeed_only cleaned "").bind fun _ =>
    asked_only rfl fun removed => by
      split <;> simp

theorem reconcileStopping_within : WithinTask id D (reconcileStopping id r) :=
  asked_only (driver_within rfl r.pkg) fun stopped => by
    split <;> simp

theorem reconcileCompleted_within (cfg : Config) (r : AttemptRecord) (now : Time) :
    WithinTask id D (reconcileCompleted cfg id r now) := by
  unfold reconcileCompleted
  split
  · refine asked_only (driver_within rfl r.pkg) fun settled => ?_
    split
    · exact only_pure _
    · exact modify_within (steady_of_eq fun _ => by rfl)
  · exact onlyIf_only (prune_within r)

end

/-- A task on one attempt, with any driver calls. -/
abbrev OwnTask {α : Type} (id : String) (t : Task α) : Prop := WithinTask id (fun _ => True) t

section

variable {id : String} {α β : Type} (cfg : Config)

/-! ## The host -/

theorem pauseRequired_within (route : ProviderRoute) : OwnTask id (pauseRequired cfg route) := by
  unfold pauseRequired
  split
  · exact only_pure _
  · exact only_lift (Process.only_embed (fun _ => trivial) _)

theorem resumeAllowed_within (pause : LocalThrottleRequest) (route : ProviderRoute) :
    OwnTask id (resumeAllowed cfg pause route) := by
  unfold resumeAllowed
  split
  · exact only_pure _
  · exact only_lift (Process.only_embed (fun _ => trivial) _)

@[simp] theorem updateProviderResume_within (change : ProviderResumeRecord → ProviderResumeRecord) :
    OwnTask id (updateProviderResume id change) :=
  asked_only trivial fun _ => modify_within (steady_of_eq fun _ => by rfl)

@[simp] theorem updateTurnEnd_within (change : TurnEndCheck → TurnEndCheck) :
    OwnTask id (updateTurnEnd id change) :=
  asked_only trivial fun _ => modify_within (steady_of_eq fun _ => by rfl)

theorem noteStopObserved_within : OwnTask id (noteStopObserved id) :=
  Process.Only.bind (update_within fun n r r' hr => by
    split at hr
    · cases hr
      rfl
    · cases hr) fun _ => only_pure _

variable (checkpoint : Option CheckpointMetadata) (pkg : ExecutionPackage) (r : AttemptRecord)
  (pause : LocalThrottleRequest) (turnID : String) (now : Time)

theorem observed_within {f : Except Fault ThreadState → Task α} (hf : ∀ observed,
    OwnTask id (f observed)) : OwnTask id (attempt (observeThread id r.pkg) >>= f) :=
  (only_attempt (observeThread_within r.pkg)).bind hf

@[simp] theorem prepareOnce_within : OwnTask id (prepareOnce id r) := by
  refine (setPrepareAttempts_within _).bind fun _ => asked_only ⟨rfl, trivial⟩ fun prepared => ?_
  split
  · exact (setPrepareAttempts_within _).bind fun _ => fail_only _
  · exact prepareFailed_within r _ _
  · split <;> simp

@[simp] theorem prepare_within : OwnTask id (prepare id) :=
  recordOf_within.bind fun r => by
    split <;> simp

@[simp] theorem createThread_within : OwnTask id (createThread id r) := by
  refine asked_only ⟨rfl, trivial⟩ fun created => ?_
  split
  · refine observed_within r fun observed => ?_
    split <;> simp
  · refine observed_within r fun observed => ?_
    split <;> simp

@[simp] theorem reconcileDispatch_within : OwnTask id (reconcileDispatch id) :=
  recordOf_within.bind fun r => by
    refine observed_within r fun observed => ?_
    split <;> simp

@[simp] theorem dispatchPrepared_within : OwnTask id (dispatchPrepared id r) := by
  refine asked_only trivial fun now => ?_
  split
  · exact expireTask_within r
  · split <;> simp

@[simp] theorem dispatch_within : OwnTask id (dispatch id) := by
  have hprepared : OwnTask id (do
      prepare id
      let r ← recordOf id
      if r.phase ≠ .prepared then pure () else dispatchPrepared id r) := by
    refine prepare_within.bind fun _ => recordOf_within.bind fun r => ?_
    split <;> simp
  refine recordOf_within.bind fun r => ?_
  split
  iterate 7 exact only_pure _
  · exact hprepared
  · exact hprepared
  · exact dispatchPrepared_within r

theorem dispatchIfPrepared_within : OwnTask id (dispatchIfPrepared id) :=
  recordOf_within.bind fun r => by
    split <;> simp

/-! ## The end of a turn -/

@[simp] theorem failProviderError_within (state : ProviderResumeRecord) :
    OwnTask id (failProviderError id r state) :=
  asked_only ⟨rfl, trivial⟩ fun _ => (markFailed_within _).bind fun _ =>
    collect_within

theorem providerResumeQuotaWait_within : OwnTask id (providerResumeQuotaWait cfg pkg) := by
  refine asked_only trivial fun policy => ?_
  split
  · exact only_pure _
  · refine (pauseRequired_within cfg pkg.route).bind fun pause => ?_
    split <;> simp

theorem sendProviderResume_within (current : ProviderResumeRecord) :
    OwnTask id (sendProviderResume cfg id pkg current) := by
  refine asked_only trivial fun now => ?_
  split
  · exact only_pure _
  · refine (providerResumeQuotaWait_within cfg pkg).bind fun reason => ?_
    split
    · split <;> simp
    · refine asked_only ⟨rfl, trivial⟩ fun sent => ?_
      split <;> simp

@[simp] theorem resumeWhenDue_within (current : ProviderResumeRecord) :
    OwnTask id (resumeWhenDue cfg id pkg current) := by
  refine asked_only trivial fun policy => ?_
  refine (onlyIf_only (updateProviderResume_within _)).bind fun _ => ?_
  split
  · refine currentRecord_within.bind fun r => ?_
    split <;> simp
  · exact sendProviderResume_within cfg pkg _

@[simp] theorem claimProviderResume_within (failure : ProviderTurnError) :
    OwnTask id (claimProviderResume cfg id r turnID failure) := by
  refine asked_only trivial fun policy => asked_only trivial fun now => ?_
  refine (recordableFailure_within _).bind fun detail => ?_
  dsimp only
  split <;> simp

@[simp] theorem checkProviderError_within : OwnTask id (checkProviderError cfg id r turnID) := by
  refine asked_only ⟨rfl, trivial⟩ fun found => ?_
  split <;> simp

theorem holdForProviderError_within : OwnTask id (holdForProviderError cfg id r turnID) := by
  unfold holdForProviderError
  dsimp only
  split
  · exact checkProviderError_within cfg r turnID
  · split <;> simp

@[simp] theorem sendLiveCommandNudge_within : OwnTask id (sendLiveCommandNudge id pkg turnID) :=
  asked_only ⟨rfl, trivial⟩ fun sent => by
    split <;> simp

@[simp] theorem failLiveCommands_within (commands : List String) (nudges : Int) :
    OwnTask id (failLiveCommands id r commands nudges) :=
  asked_only ⟨rfl, trivial⟩ fun _ => (updateTurnEnd_within _).bind fun _ =>
    (markFailed_within _).bind fun _ => collect_within

@[simp] theorem nudgeOrFail_within (commands : List String) :
    OwnTask id (nudgeOrFail id r turnID commands) := by
  unfold nudgeOrFail
  dsimp only
  split <;> simp

theorem holdForLiveCommands_within : OwnTask id (holdForLiveCommands id r turnID) := by
  unfold holdForLiveCommands
  dsimp only
  split
  · exact (onlyIf_only (sendLiveCommandNudge_within r.pkg turnID)).bind fun _ => only_pure _
  · refine asked_only ⟨rfl, trivial⟩ fun found => ?_
    split <;> simp

theorem collectUnlessHeld_within : OwnTask id (collectUnlessHeld cfg id r turnID) := by
  refine (holdForProviderError_within cfg r turnID).bind fun held => ?_
  split
  · exact only_pure _
  · refine (holdForLiveCommands_within r turnID).bind fun held => ?_
    split <;> simp

@[simp] theorem collectEnded_within : OwnTask id (collectEnded cfg id turnID) := by
  refine Process.Only.bind (modify_within (steady_ite fun _ _ => by rfl)) fun _ => ?_
  refine noteStopObserved_within.bind fun r => Process.Only.bind ?_ fun waiting => ?_
  · exact asked_only trivial fun _ => asked_only trivial fun _ => only_pure _
  split
  · exact only_pure _
  · exact (onlyIf_only (markPhase_within _ _ _ _)).bind fun _ => collectUnlessHeld_within cfg r turnID
  · split <;> simp

@[simp] theorem collectUnlessWaiting_within : OwnTask id (collectUnlessWaiting cfg id r) := by
  unfold collectUnlessWaiting
  split
  · exact collect_within
  · split
    · exact fail_only _
    · refine asked_only ⟨rfl, trivial⟩ fun observed => ?_
      split
      · exact markPhase_within _ _ _ _
      · split <;> simp
      · exact only_pure _

/-! ## The local quota pause -/

theorem withPause_steady (change : LocalThrottleRequest → LocalThrottleRequest) :
    Steady fun _ current => current.withPause change := by
  intro n r r' hr
  obtain ⟨request, -, rfl⟩ := Option.map_eq_some_iff.1 hr
  rfl

theorem pauseStopped_steady : Steady fun _ current => current.pauseStopped checkpoint turnID now := by
  intro n r r' hr
  obtain ⟨request, -, rfl⟩ := Option.map_eq_some_iff.1 hr
  rfl

theorem pauseCompleted_steady : Steady fun _ current => current.pauseCompleted r now := by
  intro n current r' hr
  simp only [AttemptRecord.pauseCompleted] at hr
  split at hr
  · cases hr
    rfl
  · cases hr

theorem keepPauseCheckpoint_within : OwnTask id (keepPauseCheckpoint id checkpoint) := by
  cases checkpoint with
  | none => exact only_pure _
  | some checkpoint => exact modify_within (withPause_steady _)

theorem pauseCheckpoint_within : OwnTask id (pauseCheckpoint id checkpoint) := by
  cases checkpoint with
  | some checkpoint => exact only_pure _
  | none =>
    refine currentRecord_within.bind fun r => ?_
    split
    · exact only_pure _
    · split
      · exact only_request ⟨rfl, trivial⟩
      · exact only_pure _

@[simp] theorem markLocalPauseStopped_within : OwnTask id (markLocalPauseStopped id checkpoint) := by
  refine (pauseCheckpoint_within checkpoint).bind fun checkpoint => recordOf_within.bind fun r => ?_
  refine asked_only ⟨rfl, trivial⟩ fun observed => ?_
  split
  · split
    · exact keepPauseCheckpoint_within checkpoint
    · exact asked_only trivial fun now => amend_within (pauseStopped_steady _ _ now)
  · exact keepPauseCheckpoint_within checkpoint

@[simp] theorem stopForQuota_within : OwnTask id (stopForQuota id pkg) :=
  asked_only ⟨rfl, trivial⟩ fun stopped => by
    split <;> simp

@[simp] theorem sendDrainNotice_within (request : LocalThrottleRequest) (retrying : Bool)
    (now : Time) : OwnTask id (sendDrainNotice cfg id r request retrying now) := by
  refine asked_only ⟨rfl, trivial⟩ fun sent => ?_
  split
  · exact asked_only trivial fun _ => modify_within (withPause_steady _)
  · split
    · exact only_pure _
    · exact Process.Only.bind (amend_within (steady_of_eq fun _ => by rfl)) fun _ =>
        stopForQuota_within r.pkg

@[simp] theorem applyPause_within (prior : Option LocalThrottleRequest)
    (pause : Watchdog.BucketState) (kind : ThrottleCommandKind) (now : Time) :
    OwnTask id (applyPause cfg id r prior pause kind now) := by
  refine Process.Only.bind (amend_within (steady_of_eq fun _ => by rfl)) fun _ => ?_
  split <;> simp

theorem pauseForQuota_within : OwnTask id (pauseForQuota cfg id r) := by
  unfold pauseForQuota
  split
  · exact only_pure _
  · refine (pauseRequired_within cfg r.pkg.route).bind fun pause => ?_
    split
    · exact only_pure _
    · exact asked_only trivial fun now => onlyIf_only (modify_within (withPause_steady _))
    · refine asked_only trivial fun now => ?_
      dsimp only
      split <;> simp

@[simp] theorem collectCompleted_within : OwnTask id (collectCompleted cfg id r) := by
  refine asked_only trivial fun now => (update_within (pauseCompleted_steady r now)).bind
    fun updated => ?_
  split
  · exact fail_only _
  · exact recordOf_within.bind fun current => collectUnlessWaiting_within cfg current

theorem collectCompletedLocalPause_within : OwnTask id (collectCompletedLocalPause cfg id r) := by
  unfold collectCompletedLocalPause
  split
  · exact only_pure _
  · exact only_pure _
  · refine asked_only ⟨rfl, trivial⟩ fun completed => ?_
    split <;> simp

@[simp] theorem parkForQuota_within (pause : Watchdog.BucketState) :
    OwnTask id (parkForQuota cfg id pause) := by
  refine asked_only trivial fun now => ?_
  refine Process.Only.bind (amend_within (steady_of_eq fun _ => by rfl)) fun _ => ?_
  refine (markLocalPauseStopped_within none).bind fun _ => recordOf_within.bind fun r => ?_
  exact (collectCompletedLocalPause_within cfg r).bind fun _ => only_pure _

theorem parkStoppedForQuota_within : OwnTask id (parkStoppedForQuota cfg id r) := by
  refine (pauseRequired_within cfg r.pkg.route).bind fun pause => ?_
  split <;> simp

@[simp] theorem endLocalPause_within : OwnTask id (endLocalPause id) :=
  asked_only trivial fun _ => amend_within (steady_of_eq fun _ => by rfl)

@[simp] theorem resumePaused_within : OwnTask id (resumePaused cfg id r pause now) :=
  asked_only ⟨rfl, trivial⟩ fun resumed => by
    split <;> simp

@[simp] theorem resumeIfRecovered_within : OwnTask id (resumeIfRecovered cfg id r pause now) := by
  unfold resumeIfRecovered
  split
  · exact only_pure _
  · refine asked_only trivial fun registered => ?_
    split
    · exact only_pure _
    · split
      · exact only_pure _
      · refine (resumeAllowed_within cfg pause r.pkg.route).bind fun allowed => ?_
        split
        · split <;> simp
        · exact only_pure _

@[simp] theorem advancePause_within : OwnTask id (advancePause cfg id r pause now) := by
  refine (collectCompletedLocalPause_within cfg r).bind fun completed => ?_
  split <;> simp

@[simp] theorem repairPause_within : OwnTask id (repairPause cfg id checkpoint now) := by
  refine (markLocalPauseStopped_within checkpoint).bind fun _ => currentRecord_within.bind fun r => ?_
  split
  · exact only_pure _
  · split
    · exact only_pure _
    · split <;> simp

theorem reconcileLocalPause_within : OwnTask id (reconcileLocalPause cfg id r pause now) := by
  refine observed_within r fun observed => ?_
  split
  · exact only_pure _
  · refine (noteThreadState_within _).bind fun _ => ?_
    split
    · exact endLocalPause_within
    · exact markUnknown_within _
    · split <;> simp

/-! ## Passes -/

theorem recoverUnknown_within : OwnTask id (recoverUnknown cfg id r) := by
  refine observed_within r fun observed => ?_
  split <;> simp

theorem reconcileWaiting_within : OwnTask id (reconcileWaiting cfg id r) := by
  unfold reconcileWaiting
  split
  · exact stop_within
  · refine observed_within r fun observed => ?_
    split <;> simp

@[simp] theorem reconcileTurnEnd_within : OwnTask id (reconcileTurnEnd cfg id r) := by
  refine (parkStoppedForQuota_within cfg r).bind fun parked => ?_
  split <;> simp

theorem reconcileRunning_within : OwnTask id (reconcileRunning cfg id r) := by
  refine observed_within r fun observed => ?_
  split
  · exact only_pure _
  · refine (noteThreadState_within _).bind fun _ => ?_
    split
    · exact pauseForQuota_within cfg r
    · split <;> simp
    · exact markUnknown_within _
    · exact only_pure _

@[simp] theorem reconcileEnded_within : OwnTask id (reconcileEnded cfg id r) := by
  refine observed_within r fun observed => ?_
  split <;> simp

theorem reconcileStopped_within : OwnTask id (reconcileStopped cfg id r now) := by
  unfold reconcileStopped
  split
  · split <;> simp
  · split
    · exact reconcileLocalPause_within cfg r _ now
    · split <;> simp

theorem reconcilePreparing_within : OwnTask id (reconcilePreparing id r) := by
  refine asked_only ⟨rfl, trivial⟩ fun inspected => ?_
  split
  · exact only_pure _
  · exact only_pure _
  · refine Process.Only.bind ?_ fun _ => onlyIf_only dispatchIfPrepared_within
    unfold resumePreparing
    split <;> simp

theorem reconcilePhase_within : OwnTask id (reconcilePhase cfg id r now) := by
  unfold reconcilePhase
  split
  · exact reconcileRunning_within cfg r
  · exact reconcileWaiting_within cfg r
  · exact reconcileStopped_within cfg r now
  · exact reconcilePreparing_within r
  · exact onlyIf_only dispatchIfPrepared_within
  · exact reconcileDispatch_within
  · exact reconcileStopping_within r
  · split <;> simp
  · exact onlyIf_only collect_within
  · exact recoverUnknown_within cfg r
  · exact reconcileCompleted_within cfg r now
  · exact only_pure _

theorem reconcileAttempt_within : OwnTask id (reconcileAttempt cfg id r now) := by
  unfold reconcileAttempt
  split
  · exact swallow_only (stop_within)
  · exact swallow_only (reconcilePhase_within cfg r now)

end

/-! ## Answers to commands -/

def About (id : String) (D : DriverCall → Prop) : Call → Prop
  | .update id' _ _ | .remove id' _ => id' = id
  | .register key | .release key => key.assignmentID = id
  | .driver id' _ c => id' = id ∧ D c
  | .applyPolicy _ | .applyParked .. | .report _ => False
  | _ => True

abbrev AboutTask {α : Type} (id : String) (D : DriverCall → Prop) (t : Task α) : Prop :=
  Process.Only (About id D) t

section

variable {id : String} {D : DriverCall → Prop} {α β : Type}

variable {c : Call}

theorem Within.about (h : Within id D c) : About id D c := by
  cases c with
  | update id' moves change => exact h.1
  | _ => exact h

theorem WithinTask.about {t : Task α} (h : WithinTask id D t) : AboutTask id D t :=
  Process.Only.mono h fun _ => Within.about

theorem update_about (moves : Bool) (change : Int → AttemptRecord → Option AttemptRecord) :
    AboutTask id D (update id moves change) :=
  (only_request (by rfl)).bind fun r => by
    cases r with
    | none => exact fail_only _
    | some r => exact only_pure r

variable (command : ThrottleCommand)

theorem finishThrottle_about (accepted : Bool) (result : ThrottleAcknowledgementResult)
    (checkpoint : Option CheckpointMetadata) (detail : String) (h : command.assignmentID = id) :
    AboutTask id D (finishThrottle command accepted result checkpoint detail) := by
  subst h
  refine asked_only trivial fun now => Process.Only.bind (update_about _ _) fun updated => ?_
  split <;> simp

theorem finishEffect_about (result : ThrottleAcknowledgementResult)
    (checkpoint : Option CheckpointMetadata) (reply : Except String Unit)
    (h : command.assignmentID = id) : AboutTask id D
      (finishEffect command result checkpoint reply) := by
  cases reply with
  | ok _ => exact finishThrottle_about command true result checkpoint "" h
  | error text =>
    subst h
    exact (recordableFailure_within text).about.bind fun detail =>
      finishThrottle_about command false result checkpoint detail rfl

def throttleCalls (command : ThrottleCommand) (c : DriverCall) : Prop :=
  (command.kind = .warn ∧ c = .warn command) ∨ (command.kind = .drain ∧ c = .checkpoint command) ∨
    c = .stopThread ∨ (command.kind = .resume ∧ c = .resume command false)

theorem applyThrottle_about (pkg : ExecutionPackage) (h : command.assignmentID = id)
    (hD : ∀ c, throttleCalls command c → D c) : AboutTask id D (applyThrottle command pkg) := by
  unfold applyThrottle
  split
  · rename_i hkind
    exact asked_only ⟨h, hD _ (.inl ⟨hkind, rfl⟩)⟩ fun reply => finishEffect_about command _ _ reply h
  · rename_i hkind
    refine asked_only ⟨h, hD _ (.inr (.inl ⟨hkind, rfl⟩))⟩ fun reply => ?_
    split <;> exact finishEffect_about command _ _ _ h
  · exact asked_only ⟨h, hD _ (.inr (.inr (.inl rfl)))⟩ fun reply => finishEffect_about command _ _
      reply h
  · rename_i hkind
    exact asked_only ⟨h, hD _ (.inr (.inr (.inr ⟨hkind, rfl⟩)))⟩ fun reply =>
      finishEffect_about command _ _ reply h
  · exact finishEffect_about command _ _ _ h

theorem executeThrottle_about (h : command.assignmentID = id)
    (hD : ∀ c, throttleCalls command c → D c) : AboutTask id D (executeThrottle command) := by
  subst h
  refine Process.Only.bind currentRecord_within.about fun current => asked_only trivial fun now => ?_
  split
  · exact finishThrottle_about command _ _ _ _ rfl
  · refine asked_only trivial fun registered => ?_
    split
    · exact finishThrottle_about command _ _ _ _ rfl
    · exact applyThrottle_about command _ rfl hD

theorem takeThrottle_about (h : command.assignmentID = id)
    (hD : ∀ c, throttleCalls command c → D c) : AboutTask id D (takeThrottle command) := by
  subst h
  refine asked_only trivial fun now => ?_
  exact Process.Only.bind (Process.Only.bind (update_about _ _) fun _ => only_pure ()) fun _ =>
    executeThrottle_about command rfl hD

theorem deliverThrottle_about (cfg : Config) (command : ThrottleCommand)
    (h : command.assignmentID = id)
    (hD : ∀ c, throttleCalls command c → D c) : AboutTask id D (deliverThrottle cfg command) := by
  subst h
  have hrefuse : ∀ detail, AboutTask command.assignmentID D (refuseThrottle command detail) :=
    fun detail => finishThrottle_about command _ _ _ detail rfl
  unfold deliverThrottle
  split
  · exact hrefuse _
  · refine Process.Only.bind currentRecord_within.about fun r => ?_
    split
    · exact hrefuse _
    · split
      · unfold replayThrottle
        split
        · exact fail_only _
        · exact (recordableFailure_within _).about.bind fun _ => only_pure _
      · unfold takeAddressed
        split
        · exact hrefuse _
        · split
          · exact hrefuse _
          · exact takeThrottle_about command rfl hD

theorem finishCommand_about (cfg : Config) (command : WorkerCommand) (accepted : Bool)
    (detail : String)
    (h : command.assignmentID = id) : AboutTask id D (finishCommand cfg command accepted detail) := by
  subst h
  refine asked_only trivial fun now => Process.Only.bind (update_about _ _) fun updated => ?_
  split <;> simp

theorem replayCommand_about (r : AttemptRecord) (command : WorkerCommand)
    (ack : WorkerAcknowledgement)
    (h : command.assignmentID = id) : AboutTask id D (replayCommand r command ack) := by
  subst h
  unfold replayCommand
  split
  · exact fail_only _
  · exact (recordableFailure_within _).about.bind fun _ => only_pure _

end

end Steward.Worker
