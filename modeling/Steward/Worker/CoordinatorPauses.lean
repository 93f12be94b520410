import Steward.Worker.Tracking

/-!
# A coordinator pause is ended by the coordinator

A drain or a hard stop of the coordinator leaves an attempt paused until it accepts a resume. The
worker looks for that only after a pause of its own, and a commanded collection does not look at
all: a recovered local pause, a provider error or a command left running then starts a turn. Without
a local pause and a command to collect, every turn of a paused attempt is started for a throttle
command.
-/

namespace Steward.Worker

open Process.Fallible Process

/-- The worker started a turn on its own account while the coordinator had the attempt paused. -/
def Started.BreaksPause (e : Started) : Prop :=
  e.call.ownTurn = true ∧ e.record.any AttemptRecord.throttlePaused = true

instance (e : Started) : Decidable e.BreaksPause := by
  unfold Started.BreaksPause
  infer_instance

/-- An attempt the coordinator paused has stopped or is finished, with no pause of the worker's
own. -/
def AttemptRecord.PauseKept (r : AttemptRecord) : Prop :=
  r.throttlePaused = true → r.localThrottle = none ∧
    (r.phase = .stopped ∨ r.phase = .stopping ∨ r.phase = .collecting ∨ r.phase = .completed ∨
    r.phase = .failed)

instance (r : AttemptRecord) : Decidable r.PauseKept := by
  unfold AttemptRecord.PauseKept
  infer_instance

def AttemptRecord.PendingOwn (r : AttemptRecord) : Prop :=
  ∀ command ∈ r.pendingThrottle, command.assignmentID = r.assignment.id

instance (r : AttemptRecord) : Decidable r.PendingOwn := by
  unfold AttemptRecord.PendingOwn
  infer_instance

/-- What the worker finds when an operation starts: every attempt keeps its pause, and an attempt
that is paused is told to collect only when it failed. -/
def World.KeepsPauses (w : World) : Op → Prop
  | .command command _ => ∀ r ∈ w.state.journal.attempts.rows,
      r.assignment.id = command.assignmentID →
      r.PauseKept ∧ (r.throttlePaused = true → command.kind = .collect → r.phase = .failed)
  | .pass | .snapshot => ∀ r ∈ w.state.journal.attempts.rows, r.PauseKept ∧ r.PendingOwn
  | _ => True

instance (w : World) : (op : Op) → Decidable (w.KeepsPauses op)
  | .command .. => inferInstanceAs (Decidable (∀ r ∈ w.state.journal.attempts.rows, _))
  | .pass | .snapshot => inferInstanceAs (Decidable (∀ r ∈ w.state.journal.attempts.rows, _))
  | .throttle _ | .statement _ | .restart | .host _ => isTrue trivial

def KeepsPauses (w : World) (step : Step) : Prop := w.KeepsPauses step.op

instance (w : World) (step : Step) : Decidable (KeepsPauses w step) :=
  inferInstanceAs (Decidable (w.KeepsPauses step.op))

/-! ## The calls a paused attempt may make -/

def PauseAllows (s : State) : Call → Prop
  | .driver id _ c => c.ownTurn = true → (s.record id).any AttemptRecord.throttlePaused = false
  | _ => True

abbrev MeetsPauses {α : Type} (p : Process Call Call.Reply α) (s : State) : Prop :=
  p.Meets (tracked PauseAllows) (fun _ _ => True) s

theorem ownTurn_of_quiet {c : DriverCall} (h : c.starts = false) : c.ownTurn = false := by
  cases c with
  | prepare | createThread | warn | checkpoint | requestQuotaDrain | resume
  | resumeAfterProviderError | nudgeLiveCommands => cases h
  | _ => rfl

instance : Quiet fun c => c.ownTurn = false := ⟨fun _ => ownTurn_of_quiet⟩

theorem ownTurn_of_throttle {command : ThrottleCommand} {c : DriverCall}
    (h : throttleCalls command c) : c.ownTurn = false := by
  rcases h with ⟨-, rfl⟩ | ⟨-, rfl⟩ | rfl | ⟨-, rfl⟩ <;> rfl

variable {r : AttemptRecord}

theorem throttlePaused_of_directives {r' : AttemptRecord} (h : r'.directives = r.directives) :
    r'.throttlePaused = r.throttlePaused := by
  have hrequests : r'.throttleRequests = r.throttleRequests := congrArg Directives.throttleRequests h
  have hresults : r'.throttleResults = r.throttleResults := congrArg Directives.throttleResults h
  have haccepted : r'.acceptedThrottle = r.acceptedThrottle := by
    funext entry
    simp only [AttemptRecord.acceptedThrottle, hresults]
  simp only [AttemptRecord.throttlePaused, AttemptRecord.latestThrottle, hrequests, haccepted]

theorem pauseAllows_unpaused {id : String} (h : r.throttlePaused = false) (s : State) (c : Call)
    (hs : s.Says id r.directives) (hc : Within id (fun _ => True) c) : PauseAllows s c := by
  cases c with
  | driver id' pkg c =>
    obtain rfl : id' = id := hc.1
    intro _
    cases hr : s.record id' with
    | none => rfl
    | some r' =>
      rw [Option.any_some, throttlePaused_of_directives (hs r' hr)]
      exact h
  | _ => trivial

theorem pauseAllows_quiet {id : String} (s : State) (c : Call)
    (hc : About id (fun c => c.ownTurn = false) c) : PauseAllows s c := by
  cases c with
  | driver id' pkg c =>
    intro hown
    rw [hc.2] at hown
    cases hown
  | _ => trivial

section

variable {id : String} {s : State} {α : Type}

theorem quiet_tracked {t : Task α} (h : AboutTask id (fun c => c.ownTurn = false) t) :
    Meets (tracked PauseAllows) (fun s' _ => s.Elsewhere id s') t s :=
  h.tracked pauseAllows_quiet

theorem unpaused_tracked {t : Task α} {r : AttemptRecord} (h : WithinTask id (fun _ => True) t)
    (hr : s.record id = some r) (hpaused : r.throttlePaused = false) :
    Meets (tracked PauseAllows) (fun s' _ => s.Elsewhere id s') t s :=
  (h.tracked (State.says_self hr) fun s' c => pauseAllows_unpaused hpaused s' c).mono fun _ _ h => h.2

end

/-! ## Passes -/

variable (cfg : Config)

theorem reconcilePhase_quiet (hpaused : r.throttlePaused = true) (hkept : r.PauseKept) (id : String)
    (now : Time) : WithinTask id (fun c => c.ownTurn = false) (reconcilePhase cfg id r now) := by
  obtain ⟨hlocal, hphase⟩ := hkept hpaused
  unfold reconcilePhase
  rcases hphase with hphase | hphase | hphase | hphase | hphase
  · rw [hphase]
    dsimp only
    unfold reconcileStopped
    rw [hlocal, hpaused]
    split
    · split
      · exact stop_within
      · exact onlyIf_only (prune_within r)
    · exact only_pure _
  · rw [hphase]
    exact reconcileStopping_within r
  · rw [hphase]
    dsimp only
    split
    · exact stop_within
    · exact collect_within
  · rw [hphase]
    exact reconcileCompleted_within cfg r now
  · rw [hphase]
    exact onlyIf_only (collect_within)

variable {s : State}

theorem reconcileAttempt_pauses (now : Time) (hr : s.record r.assignment.id = some r)
    (hkept : r.PauseKept) : Meets (tracked PauseAllows) (fun s' _ => s.Elsewhere r.assignment.id s')
      (reconcileAttempt cfg r.assignment.id r now) s := by
  cases hpaused : r.throttlePaused with
  | false => exact unpaused_tracked (reconcileAttempt_within cfg r now) hr hpaused
  | true =>
    refine quiet_tracked (WithinTask.about ?_)
    unfold reconcileAttempt
    split
    · exact swallow_only stop_within
    · exact swallow_only (reconcilePhase_quiet cfg hpaused hkept _ now)

theorem passAttempt_pauses (now : Time) (hr : s.record r.assignment.id = some r)
    (hready : r.PauseKept ∧ r.PendingOwn) :
    Meets (tracked PauseAllows) (fun s' _ => s.Elsewhere r.assignment.id s') (passAttempt cfg now r)
      s := by
  unfold passAttempt
  split
  · exact quiet_tracked (WithinTask.about (swallow_only (expireTask_within r)))
  · split
    · rename_i command hpending
      exact quiet_tracked ((executeThrottle_about command (hready.2 command hpending)
        fun c => ownTurn_of_throttle).bind fun _ => only_pure _)
    · exact reconcileAttempt_pauses cfg now hr hready.1

theorem redacts_pauseAllows (s : State) (c : Call) (h : Redacts c) : PauseAllows s c := by
  cases c with
  | driver id pkg c => exact h.elim
  | _ => trivial

theorem reconcilePass_pauses (h : ∀ id r, s.record id = some r → r.PauseKept ∧ r.PendingOwn) :
    MeetsPauses (reconcilePass cfg) s :=
  reconcilePass_tracked redacts_pauseAllows (fun _ => trivial)
    (fun _ now _ hr hready => passAttempt_pauses cfg now hr hready)
    fun id r _ hr => ⟨(h id r hr).1, (h id r hr).2⟩

/-! ## Commands -/

theorem start_paused {id : String} (hr : s.record id = some r)
    (hphase : r.phase = .stopped ∨ r.phase = .stopping ∨ r.phase = .collecting ∨
      r.phase = .completed ∨ r.phase = .failed) : MeetsPauses (prepare id) s ∧
      MeetsPauses (dispatch id) s := by
  constructor
  all_goals
    refine bind_tracked (recordOf_tracked trivial) (fun s' r' hr' => ?_) fun _ _ _ => trivial
    obtain rfl : r' = r := Option.some.inj ((hr'.2 r' rfl).symm.trans hr)
    rcases hphase with hphase | hphase | hphase | hphase | hphase
    all_goals
      rw [hphase]
      trivial

theorem commandEffect_pauses {command : WorkerCommand}
    (hr : s.record command.assignmentID = some r) (hkept : r.PauseKept)
    (hcollect : r.throttlePaused = true → command.kind = .collect → r.phase = .failed) :
    MeetsPauses (commandEffect cfg r command) s := by
  cases hpaused : r.throttlePaused with
  | false =>
    refine (unpaused_tracked ?_ hr hpaused).mono fun _ _ _ => trivial
    unfold commandEffect
    split <;> simp
  | true =>
    obtain ⟨-, hphase⟩ := hkept hpaused
    unfold commandEffect
    split
    · exact (start_paused hr hphase).1
    · exact (start_paused hr hphase).2
    · exact (quiet_tracked stop_within.about).mono fun _ _ _ => trivial
    · rename_i hkind
      have hfailed := hcollect hpaused hkind
      unfold collectUnlessWaiting
      rw [if_pos hfailed]
      exact (quiet_tracked collect_within.about).mono fun _ _ _ => trivial

theorem answered_pauses {id : String} {α : Type} {t : Task α}
    (h : AboutTask id (fun _ => False) t) : MeetsPauses t s :=
  (h.tracked fun s' c hc => by
    cases c with
    | driver id' pkg c => exact hc.2.elim
    | _ => trivial).mono fun _ _ _ => trivial

theorem applyCommand_pauses {command : WorkerCommand}
    (hr : s.record command.assignmentID = some r) (hkept : r.PauseKept)
    (hcollect : r.throttlePaused = true → command.kind = .collect → r.phase = .failed) :
    MeetsPauses (applyCommand cfg r command) s := by
  refine bind_tracked (Q := fun _ _ => True)
    ((commandEffect_pauses cfg hr hkept hcollect).andThen fun _ _ _ => trivial)
    (fun s' result _ => ?_)
    fun _ _ _ => trivial
  cases result with
  | ok _ => exact answered_pauses (finishCommand_about cfg command true "" rfl)
  | error e =>
    exact answered_pauses ((recordableFailure_within e.text).about.bind fun detail =>
      finishCommand_about cfg command true detail rfl)

theorem deliverCommand_pauses (command : WorkerCommand) (supplied : ExecutionPackageManifest)
    (h : ∀ r, s.record command.assignmentID = some r → r.PauseKept ∧
      (r.throttlePaused = true → command.kind = .collect → r.phase = .failed)) :
    MeetsPauses (deliverCommand cfg command supplied) s := by
  refine bind_tracked (currentRecord_tracked trivial) (fun s' r hr => ?_) fun _ _ _ => trivial
  obtain ⟨rfl, hr⟩ := hr
  have hrecord := hr r rfl
  split
  · exact answered_pauses (replayCommand_about _ command _ rfl)
  · refine bind_tracked (Q := fun s'' _ => s'' = s') (ask_tracked trivial fun _ _ _ => rfl)
      (fun s'' sequence hs'' => ?_) fun _ _ _ => trivial
    subst hs''
    split
    · trivial
    · split
      · exact answered_pauses (finishCommand_about cfg command _ _ rfl)
      · rename_i hvalid
        split
        · exact answered_pauses (finishCommand_about cfg command _ _ rfl)
        · cases r with
          | none =>
            unfold validateCommand at hvalid
            split at hvalid
            · cases hvalid
            · cases hvalid
          | some r => exact applyCommand_pauses cfg hrecord.symm (h r hrecord.symm).1 (h r hrecord.symm).2

/-! ## Runs -/

theorem applyParkedAssignments_pauses (request : SnapshotRequest) (s : State) :
    MeetsPauses (applyParkedAssignments request) s := by
  have honly : Only (fun c => ∀ id pkg d, c ≠ Call.driver id pkg d) (applyParkedAssignments request) := by
    unfold applyParkedAssignments
    split
    · exact only_fail _
    · refine asked_only (fun _ _ _ h => by cases h) fun applied => ?_
      split
      · split
        · exact only_pure _
        · refine asked_only (fun _ _ _ h => by cases h) fun now => ?_
          refine asked_only (fun _ _ _ h => by cases h) fun applied => ?_
          split <;> simp
      · exact only_fail _
  refine honly.meets (fun s' c h => ?_) s
  cases c with
  | driver id pkg d => exact (h id pkg d rfl).elim
  | _ => trivial

theorem snapshot_pauses (h : ∀ id r, s.record id = some r → r.PauseKept ∧ r.PendingOwn) :
    MeetsPauses (snapshot cfg) s := by
  refine bind_tracked (reconcilePass_pauses cfg h) (fun s' _ _ => ?_) fun _ _ _ => trivial
  refine bind_tracked (Q := fun _ _ => True) (ask_tracked trivial fun _ _ _ => trivial)
    (fun s'' now _ => ?_) fun _ _ _ => trivial
  refine bind_tracked (Q := fun _ _ => True) (ask_tracked trivial fun _ _ _ => trivial)
    (fun s'' reported _ => ?_) fun _ _ _ => trivial
  split
  · trivial
  · trivial

theorem effects_tracked {A : State → Call → Prop} {α : Type} {t : Task α}
    (h : Meets (tracked A) (fun _ _ => True) t s) :
    Meets (tracked A) (fun _ _ => True) (effects t) s :=
  h.andThen fun _ _ _ => trivial

theorem program_pauses {w : World} {step : Step} (h : KeepsPauses w step) :
    MeetsPauses (step.op.program cfg) w.state := by
  unfold KeepsPauses at h
  cases hop : step.op with
  | command command supplied =>
    rw [hop] at h
    exact effects_tracked (deliverCommand_pauses cfg command supplied fun r hr =>
      h r (State.record_mem hr) (State.record_id hr))
  | throttle command =>
    exact effects_tracked ((quiet_tracked (deliverThrottle_about cfg command rfl
      fun c => ownTurn_of_throttle)).mono fun _ _ _ => trivial)
  | statement request => exact effects_tracked (applyParkedAssignments_pauses request w.state)
  | pass =>
    rw [hop] at h
    exact effects_tracked (reconcilePass_pauses cfg fun id r hr => h r (State.record_mem hr))
  | snapshot =>
    rw [hop] at h
    exact effects_tracked (snapshot_pauses cfg fun id r hr => h r (State.record_mem hr))
  | restart | host => trivial

theorem answer_keeps_pauses (w : World) (m : Moment) (c : Call) (hw : ∀ e ∈ w.started, ¬e.BreaksPause)
    (hc : PauseAllows w.state c) : ∀ e ∈ (answer cfg w m c).2.started, ¬e.BreaksPause := by
  cases c with
  | driver id pkg c =>
    intro e he
    change e ∈ (if c.starts then w.started ++ [_] else w.started) at he
    split at he
    · rcases List.mem_append.1 he with he | he
      · exact hw e he
      · obtain rfl := List.mem_singleton.1 he
        rintro ⟨hown, hpaused⟩
        rw [hc hown] at hpaused
        cases hpaused
    · exact hw e he
  | _ => exact hw

theorem workerStep_keeps_pauses (w : World) (step : Step) (hw : ∀ e ∈ w.started, ¬e.BreaksPause)
    (h : KeepsPauses w step) : ∀ e ∈ (workerStep cfg w step).started, ¬e.BreaksPause := by
  have hrun : ∀ e ∈ ((step.op.program cfg).run (answer cfg) w step.moments).2.started,
    ¬e.BreaksPause :=
    run_tracked cfg (program_pauses cfg h) (answer_keeps_pauses cfg) hw
  unfold workerStep
  split
  · exact hw
  · exact hw
  · exact hrun

/-- In every history whose operations find paused attempts stopped or finished without a pause of
the worker's own, and tell none to collect that has not failed, the worker starts no turn of its own
on a paused attempt. -/
theorem coordinator_pauses_last (cfg : Config) (w : World) (steps : List Step)
    (hsteps : Runs.Along (workerStep cfg) KeepsPauses w steps)
    (hw : ∀ e ∈ w.started, ¬e.BreaksPause) :
    ∀ e ∈ (Runs.run (workerStep cfg) w steps).started, ¬e.BreaksPause :=
  Runs.run_invariant (fun w step hw h => workerStep_keeps_pauses cfg w step hw h) hw hsteps

/-! ## A recovered local pause ends the coordinator's -/

def stoppedThread : (c : DriverCall) → c.Reply
  | .prepare => .ok "/work"
  | .inspectWorkspace => some (.ok ("/work", true))
  | .observeThread => .ok .stopped
  | .observeThreadTurn => some (.ok (.stopped, "turn-1"))
  | .createThread _ | .stopThread | .stopPreparation | .settle | .cleanup _ => .ok ()
  | .collectFailure .. => .ok
  | .warn _ | .requestQuotaDrain _ | .resume .. => .ok ()
  | .checkpoint _ => .ok none
  | .readQuotaCheckpoint => none
  | .quotaPauseCompleted _ => some (.ok false)
  | .providerTurnError => .ok none
  | .resumeAfterProviderError .. | .nudgeLiveCommands _ => .ok ()
  | .liveCommands _ => some []
  | .snapshotWorkInProgress _ => ""

def weekRoute : ProviderRoute := { workerID := "w", providerInstanceID := "claude", quotaPoolID := "pool" }

def drainedAttempt : AttemptRecord :=
  { assignment := { id := "a", attemptID := "t", epoch := 1, workerID := "w", state := .claimed }
    package := { package := { identity := { attemptID := "t", threadID := "thread" }, route := weekRoute } }
    phase := .running, threadID := "thread"
    localThrottle := some
      { kind := .drain, bucket := { providerInstanceID := "claude", limitID := "claude", window := "seven_day" }
        requestedAt := 1, drainNoticeSent := true } }

def hardStopCommand : ThrottleCommand :=
  { id := "stop-1", attemptID := "t", assignmentID := "a", assignmentEpoch := 1, workerID := "w"
    threadID := "thread", route := weekRoute, kind := .hardStop, quotaPoolID := "pool" }

def recoveredHost : Watchdog.World :=
  { buckets := Table.ofList _
      [{ key := { providerInstanceID := "claude", limitID := "claude", window := "seven_day" }
         phase := .normal, usedPercent := 10, healthy := true, observedAt := 200 * Watchdog.minute
         recoveredAt := some (190 * Watchdog.minute) }] }

def shippedWorker : Config := { watchdog := Watchdog.shippedConfig, workerID := "w" }

def pausedRun : List Step :=
  let moment : Moment := { clock := 201 * Watchdog.minute, driver := stoppedThread
                           host := { clock := 201 * Watchdog.minute } }
  [{ op := .throttle hardStopCommand, moments := List.replicate 10 moment },
   { op := .pass, moments := List.replicate 30 moment }]

/-- The coordinator stops the attempt, the host's bucket recovers, and the worker resumes the
thread. -/
theorem local_resume_breaks_pause : ∃ e ∈ (Runs.run (workerStep shippedWorker)
      { state := { journal := { attempts := Table.ofList _ [drainedAttempt] } }, host := recoveredHost }
      pausedRun).started, e.BreaksPause := by
  decide

/-- Without the pause of its own, the worker leaves the attempt stopped. -/
theorem coordinator_pauses_last_hard_stop : Runs.Along (workerStep shippedWorker) KeepsPauses
        { state := { journal :=
            { attempts := Table.ofList _ [{ drainedAttempt with localThrottle := none }] } }
          host := recoveredHost } pausedRun ∧
      ∀ e ∈ (Runs.run (workerStep shippedWorker)
        { state := { journal :=
            { attempts := Table.ofList _ [{ drainedAttempt with localThrottle := none }] } }
          host := recoveredHost } pausedRun).started, ¬e.BreaksPause :=
  ⟨by decide, coordinator_pauses_last _ _ _ (by decide) fun _ he => by cases he⟩

end Steward.Worker
