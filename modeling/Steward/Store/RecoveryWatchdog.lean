import Steward.Lib.Runs
import Steward.Store.SupervisionDecisions
import Steward.Store.TaskWaits

/-!
# The recovery watchdog

`ReconcileRecoveryWatchdog` of `internal/store/sqlite/recovery_episode.go`, on the incident it
loads. Past its deadline an open episode is handed to a human, a supported wait is made visible, and
an episode without progress for the stall interval is woken once more and then escalated. A wait
does not touch the recorded progress; leaving one does, but in a branch behind the stall check.
-/

namespace Steward

open Runs Text Option List

/-! ## Episodes -/

inductive RecoveryState
  | pendingDispatch
  | recovering
  | expectedWait
  | needsHuman
  | resolved
deriving DecidableEq

inductive RecoveryNextAction
  | dispatchRepair
  | awaitCapacity
  | escalateHuman
  | none
deriving DecidableEq

structure RecoveryIncident where
  state : RecoveryState := .pendingDispatch
  nextAction : RecoveryNextAction := .dispatchRepair
  (attemptBudget attemptsUsed : Int := 0)
  (deadline lastProgressAt : Time := 0)
  (currentAttemptID exhaustionReason waitReason : String := "")
deriving DecidableEq

/-- An incident's record with its recovery, which only a task-recovery incident has. -/
structure RecoveryEpisode extends ReviewIncident where
  recovery : Option RecoveryIncident := none
deriving DecidableEq

def RecoveryEpisode.advance (e : RecoveryEpisode) (next : RecoveryIncident) : RecoveryEpisode :=
  { e with revision := e.revision + 1, recovery := some next }

structure RecoveryWatchdogRequest where
  (runID incidentID eventID escalationEventID waitReason : String := "")
  expectedIncidentRevision : Int := 0
  stalledAfter : Duration := 0
  progressObserved : Bool := false
  eventRecord : Option SupervisionEvent := none
  observedAt : Time := 0

/-- One pass over an episode: the request, the store's clock, whether the re-wake's event is in the
inbox already, and whether an escalation's notification can be written. -/
structure WatchdogPass extends RecoveryWatchdogRequest where
  clock : Time := 0
  announced : Bool := false
  notified : Except Err Unit := .ok ()

def WatchdogPass.now (p : WatchdogPass) : Time := p.observedAt.orNow p.clock

def WatchdogPass.busy (p : WatchdogPass) : Bool := !blank p.waitReason || p.progressObserved

def WatchdogPass.busyTime (p : WatchdogPass) : List Time := if p.busy then [p.now] else []

structure RecoveryWatchdogResult where
  incident : RecoveryEpisode := {}
  (rewoken escalated : Bool := false)
deriving DecidableEq

/-! ## One pass -/

/-- What a pass does with an episode that is neither handed over nor resolved. -/
inductive WatchdogVerdict
  | keep
  | update (next : RecoveryIncident)
  | rewake (next : RecoveryIncident)
  | escalate (next : RecoveryIncident)

namespace RecoveryIncident

variable (i : RecoveryIncident) (now : Time) (p : WatchdogPass)

def exhausted (reason : String) : RecoveryIncident :=
  { i with
    state := .needsHuman, nextAction := .escalateHuman, waitReason := "", exhaustionReason := reason }

def dispatched : RecoveryIncident :=
  { i with
    state := .pendingDispatch, nextAction := .dispatchRepair, waitReason := "", lastProgressAt := now }

def resumed : RecoveryIncident :=
  { i with state := .recovering, nextAction := .none, waitReason := "", lastProgressAt := now }

def verdict (sourceAttemptID : String) : WatchdogVerdict :=
  if i.deadline ≤ p.now then
    .escalate (i.exhausted ("recovery episode reached its absolute deadline after " ++
      toString i.attemptsUsed ++ " of " ++ toString i.attemptBudget ++ " attempts"))
  else if p.progressObserved ∧ i.state = .expectedWait then .update (i.resumed p.now)
  else if !blank p.waitReason then
    if i.state ≠ .expectedWait ∨ i.nextAction ≠ .awaitCapacity ∨ i.waitReason ≠ p.waitReason then
      .update { i with
        state := .expectedWait, nextAction := .awaitCapacity, waitReason := p.waitReason }
    else .keep
  else if p.stalledAfter ≤ p.now - i.lastProgressAt then
    if p.announced then
      .escalate (i.exhausted ("recovery episode made no durable progress for " ++
        durationText p.stalledAfter ++ " after its watchdog re-wake"))
    else .rewake (i.dispatched p.now)
  else if i.state = .expectedWait then
    .update (if i.currentAttemptID = sourceAttemptID then i.dispatched p.now else i.resumed p.now)
  else .keep

end RecoveryIncident

namespace RecoveryEpisode

section

variable (e : RecoveryEpisode) (p : WatchdogPass)

/-- The episode or its incident takes no more passes. -/
def closed (i : RecoveryIncident) : Prop :=
  e.state ≠ .open ∨ i.state = .needsHuman ∨ i.state = .resolved

instance (i : RecoveryIncident) : Decidable (e.closed i) := inferInstanceAs (Decidable (_ ∨ _))

def outcome : WatchdogVerdict → RecoveryWatchdogResult
  | .keep => { incident := e }
  | .update next => { incident := e.advance next }
  | .rewake next => { incident := e.advance next, rewoken := true }
  | .escalate next => { incident := e.advance next, escalated := true }

def reconcileRecoveryWatchdog : Except Err RecoveryWatchdogResult :=
  if p.runID = "" ∨ p.incidentID = "" ∨ p.eventID = "" ∨ p.escalationEventID = "" ∨
      p.expectedIncidentRevision < 1 ∨ p.stalledAfter ≤ 0 ∨ p.eventRecord.isNone then
    .error { text := "recovery watchdog observation is incomplete" }
  else
    match e.recovery.filter fun _ => e.revision = p.expectedIncidentRevision with
    | none =>
      .error { text := "recovery episode changed", sentinel := some .supervisionRequestConflict }
    | some i =>
      if e.closed i then .ok { incident := e }
      else
        match i.verdict p e.sourceAttemptID, p.notified with
        | .escalate _, .error err => .error err
        | v, _ => .ok (e.outcome v)

/-! ## Runs of passes -/

def watch : RecoveryEpisode := committed e ((e.reconcileRecoveryWatchdog p).map (·.incident))

/-- The pass finds the incident before its deadline. -/
def Finds (i : RecoveryIncident) : Prop := e.recovery = some i ∧ p.now < i.deadline

/-- The pass wakes the episode or hands it over. -/
def Stalls : Prop :=
  ∃ i result, e.Finds p i ∧ e.reconcileRecoveryWatchdog p = .ok result ∧
    (result.rewoken = true ∨ result.escalated = true)

/-- A pass that finds the wait of an episode over comes before the stall interval has passed since
the last recorded progress, and progress is seen in a wait. -/
def Timely : Prop :=
  ∀ i ∈ e.recovery, p.now < i.deadline → blank p.waitReason = true →
    if p.progressObserved then i.state = .expectedWait
    else i.state = .expectedWait → p.now - i.lastProgressAt < p.stalledAfter

instance : Decidable (e.Timely p) := inferInstanceAs (Decidable (∀ i ∈ e.recovery, _ → _ → ite _ _ _))

def busyTimes : RecoveryEpisode → List WatchdogPass → List Time
  | _, [] => []
  | e, p :: ps =>
    match e.reconcileRecoveryWatchdog p with
    | .error _ => busyTimes e ps
    | .ok result => p.busyTime ++ busyTimes result.incident ps

def Quiet (times : List Time) : Prop :=
  ∀ i, e.recovery = some i → ¬e.closed i → i.state ≠ .expectedWait → ∀ t ∈ times, t ≤ i.lastProgressAt

end

section

variable {e : RecoveryEpisode} {p : WatchdogPass} {i : RecoveryIncident}
  {result : RecoveryWatchdogResult}

/-- Before the deadline: a wait is over and the clock restarted, a wait is noted, the episode
stalls, or it goes on. -/
theorem verdict_cases (source : String) (hdeadline : p.now < i.deadline) :
    (∃ next, i.verdict p source = .update next ∧ i.state = .expectedWait ∧
        next.state ≠ .expectedWait ∧ next.lastProgressAt = p.now) ∨
      (blank p.waitReason = false ∧ ((i.verdict p source = .keep ∧ i.state = .expectedWait) ∨
        ∃ next, i.verdict p source = .update next ∧ next.state = .expectedWait)) ∨
      (blank p.waitReason = true ∧ ¬(p.progressObserved = true ∧ i.state = .expectedWait) ∧
        p.stalledAfter ≤ p.now - i.lastProgressAt ∧
        (i.verdict p source = .rewake (i.dispatched p.now) ∨
          ∃ reason, i.verdict p source = .escalate (i.exhausted reason))) ∨
      (blank p.waitReason = true ∧ i.state ≠ .expectedWait ∧ i.verdict p source = .keep) := by
  unfold RecoveryIncident.verdict
  rw [if_neg (not_le.2 hdeadline)]
  split
  · rename_i hprogress
    exact .inl ⟨_, rfl, hprogress.2, by simp [RecoveryIncident.resumed], rfl⟩
  · rename_i hprogress
    split
    · rename_i hwait
      refine .inr (.inl ⟨by simpa using hwait, ?_⟩)
      split
      · exact .inr ⟨_, rfl, rfl⟩
      · rename_i hkept
        exact .inl ⟨rfl, not_not.1 (not_or.1 hkept).1⟩
    · rename_i hwait
      have hblank : blank p.waitReason = true := by simpa using hwait
      split
      · rename_i hstalled
        refine .inr (.inr (.inl ⟨hblank, hprogress, hstalled, ?_⟩))
        split
        · exact .inr ⟨_, rfl⟩
        · exact .inl rfl
      · split
        · rename_i hstate
          refine .inl ⟨_, rfl, hstate, ?_⟩
          split <;> simp [RecoveryIncident.dispatched, RecoveryIncident.resumed]
        · rename_i hstate
          exact .inr (.inr (.inr ⟨hblank, hstate, rfl⟩))

theorem reconcileRecoveryWatchdog_ok (h : e.reconcileRecoveryWatchdog p = .ok result) :
    ∃ i, e.recovery = some i ∧ result =
      if e.closed i then { incident := e } else e.outcome (i.verdict p e.sourceAttemptID) := by
  unfold reconcileRecoveryWatchdog at h
  split_ifs at h
  split at h
  · cases h
  · rename_i i hrecovery
    refine ⟨i, (filter_eq_some_iff.1 hrecovery).1, ?_⟩
    split_ifs at h ⊢
    · exact (Except.ok.inj h).symm
    · split at h
      · cases h
      · exact (Except.ok.inj h).symm

variable {times : List Time} {ps : List WatchdogPass}

theorem mem_busyTime {t : Time} (h : t ∈ p.busyTime) : p.busy = true ∧ t = p.now := by
  unfold WatchdogPass.busyTime at h
  split_ifs at h with hbusy
  · exact ⟨hbusy, mem_singleton.1 h⟩
  · cases h

/-- A timely pass stalls only on what it saw neither wait nor progress. -/
theorem Timely.stalled (hp : e.Timely p) (hfinds : e.Finds p i) (hblank : blank p.waitReason = true)
    (hstalled : p.stalledAfter ≤ p.now - i.lastProgressAt) :
    (p.progressObserved = true ∧ i.state = .expectedWait) ∨
      (p.progressObserved = false ∧ i.state ≠ .expectedWait) := by
  have htimely := hp i hfinds.1 hfinds.2 hblank
  cases hobserved : p.progressObserved with
  | true => exact .inl ⟨rfl, by simpa [hobserved] using htimely⟩
  | false =>
    refine .inr ⟨rfl, fun hstate => ?_⟩
    rw [hobserved] at htimely
    exact absurd hstalled (not_le.2 (htimely hstate))

/-- A timely pass keeps the clock: what it sees of a wait or of progress it sees in a wait or puts
into one, and it leaves a wait by recording progress. -/
theorem watched_quiet (h : e.reconcileRecoveryWatchdog p = .ok result) (hp : e.Timely p)
    (hs : e.Quiet times) (hle : ∀ t ∈ times, t ≤ p.now) :
    result.incident.Quiet (p.busyTime ++ times) := by
  obtain ⟨i, hi, hresult⟩ := reconcileRecoveryWatchdog_ok h
  have hnow : ∀ t ∈ p.busyTime ++ times, t ≤ p.now := by
    intro t ht
    rcases mem_append.1 ht with ht | ht
    · exact (mem_busyTime ht).2.le
    · exact hle t ht
  intro i' hi' hopen hwait t ht
  split_ifs at hresult with hclosed
  · subst hresult
    cases hi.symm.trans hi'
    exact absurd hclosed hopen
  · by_cases hdeadline : p.now < i.deadline
    · rcases verdict_cases e.sourceAttemptID hdeadline with ⟨next, hv, -, -, hprogress⟩ |
        ⟨-, ⟨hv, hstate⟩ | ⟨next, hv, hnext⟩⟩ | ⟨-, -, -, hv | ⟨reason, hv⟩⟩ | ⟨hblank, hstate, hv⟩ <;>
        rw [hv] at hresult <;> subst hresult
      · cases some.inj hi'
        rw [hprogress]
        exact hnow t ht
      · cases hi.symm.trans hi'
        exact absurd hstate hwait
      · cases some.inj hi'
        exact absurd hnext hwait
      · cases some.inj hi'
        exact hnow t ht
      · cases some.inj hi'
        exact absurd (.inr (.inl rfl)) hopen
      · -- Progress would have been seen in a wait, so the pass saw neither.
        cases hi.symm.trans hi'
        have htimely := hp i hi hdeadline hblank
        rcases mem_append.1 ht with ht | ht
        · have hprogress : p.progressObserved = true := by
            simpa [WatchdogPass.busy, hblank] using (mem_busyTime ht).1
          rw [if_pos hprogress] at htimely
          exact absurd htimely hstate
        · exact hs i hi hopen hwait t ht
    · have hv : ∃ reason, i.verdict p e.sourceAttemptID = .escalate (i.exhausted reason) :=
        ⟨_, if_pos (not_lt.1 hdeadline)⟩
      obtain ⟨reason, hv⟩ := hv
      rw [hv] at hresult
      subst hresult
      cases some.inj hi'
      exact absurd (.inr (.inl rfl)) hopen

theorem run_quiet (hsorted : ps.Pairwise fun p q => p.now ≤ q.now)
    (hle : ∀ t ∈ times, ∀ p ∈ ps, t ≤ p.now) (h : Along watch Timely e ps) (hs : e.Quiet times) :
    (run watch e ps).Quiet (e.busyTimes ps ++ times) := by
  induction ps generalizing e times with
  | nil => exact hs
  | cons p ps ih =>
    obtain ⟨hfirst, hsorted⟩ := pairwise_cons.1 hsorted
    have hlater : ∀ t ∈ times, ∀ q ∈ ps, t ≤ q.now := fun t ht q hq =>
      hle t ht q (.tail _ hq)
    obtain ⟨hp, hps⟩ := h
    unfold busyTimes
    change (run watch (e.watch p) ps).Quiet _
    unfold watch at hps ⊢
    cases hw : e.reconcileRecoveryWatchdog p with
    | error err =>
      rw [hw] at hps
      exact ih hsorted hlater hps hs
    | ok result =>
      rw [hw] at hps
      have hquiet := watched_quiet hw hp hs fun t ht => hle t ht p (.head _)
      have hrun := ih hsorted (fun t ht q hq => ?_) hps hquiet
      · intro i hi hopen hwait t ht
        refine hrun i hi hopen hwait t ?_
        simp only [mem_append] at ht ⊢
        tauto
      · rcases mem_append.1 ht with ht | ht
        · exact (mem_busyTime ht).2.le.trans (hfirst q hq)
        · exact hlater t ht q hq

/-- In a run of timely passes in time order, an episode is woken or handed over for stalling only by
a pass that sees neither a wait nor progress, at least the stall interval after every pass that saw
either; a pass that finds a wait over restarts the clock. -/
theorem stalls_after_quiet_interval (hsorted : (ps ++ [p]).Pairwise fun p q => p.now ≤ q.now)
    (h : Along watch Timely e (ps ++ [p])) :
    ((run watch e ps).Stalls p → p.busy = false ∧ ∀ t ∈ e.busyTimes ps, t + p.stalledAfter ≤ p.now) ∧
    ∀ i result, (run watch e ps).reconcileRecoveryWatchdog p = .ok result →
      (run watch e ps).Finds p i → ¬(run watch e ps).closed i → i.state = .expectedWait →
      Text.blank p.waitReason = true → result.rewoken = false ∧ result.escalated = false ∧
        ∃ next, result.incident.recovery = some next ∧ next.state ≠ .expectedWait ∧
          next.lastProgressAt = p.now := by
  obtain ⟨hps, htimely, -⟩ := along_append.1 h
  have hquiet : (run watch e ps).Quiet (e.busyTimes ps ++ []) :=
    run_quiet (pairwise_append.1 hsorted).1 (by simp) hps fun _ _ _ _ t ht => by cases ht
  refine ⟨?_, ?_⟩
  · rintro ⟨i, result, hfinds, hok, hflag⟩
    obtain ⟨i', hi, hresult⟩ := reconcileRecoveryWatchdog_ok hok
    cases hfinds.1.symm.trans hi
    split_ifs at hresult with hclosed
    · simp [hresult] at hflag
    · rcases verdict_cases (run watch e ps).sourceAttemptID hfinds.2 with ⟨next, hv, -⟩ |
        ⟨-, ⟨hv, -⟩ | ⟨next, hv, -⟩⟩ | ⟨hblank, hprogress, hstalled, -⟩ | ⟨-, -, hv⟩
      · simp [hresult, hv, outcome] at hflag
      · simp [hresult, hv, outcome] at hflag
      · simp [hresult, hv, outcome] at hflag
      · obtain ⟨hobserved, hout⟩ := (htimely.stalled hfinds hblank hstalled).resolve_left hprogress
        refine ⟨by simp [WatchdogPass.busy, hblank, hobserved], fun t ht => ?_⟩
        have hlast := hquiet i hi hclosed hout t (by simpa using ht)
        exact (Int.add_le_add_right hlast _).trans (Int.add_le_of_le_sub_left hstalled)
      · simp [hresult, hv, outcome] at hflag
  · intro i result hok hfinds hopen hstate hblank
    obtain ⟨i', hi, hresult⟩ := reconcileRecoveryWatchdog_ok hok
    cases hfinds.1.symm.trans hi
    rw [if_neg hopen] at hresult
    rcases verdict_cases (run watch e ps).sourceAttemptID hfinds.2 with
      ⟨next, hv, -, hnext, hlast⟩ | ⟨hwait, -⟩ | ⟨-, hprogress, hstalled, -⟩ | ⟨-, hout, -⟩
    · rw [hresult, hv]
      exact ⟨rfl, rfl, next, rfl, hnext, hlast⟩
    · rw [hblank] at hwait
      cases hwait
    · exact absurd hstate ((htimely.stalled hfinds hblank hstalled).resolve_left hprogress).2
    · exact absurd hstate hout

/-! ## A long wait -/

def longWait : RecoveryEpisode :=
  { id := "e", runID := "r", state := .open, revision := 1, sourceAttemptID := "a"
    recovery := some { deadline := 1000, lastProgressAt := 1, currentAttemptID := "a" } }

def waitPass (at' revision : Int) (waitReason : String) (announced : Bool) : WatchdogPass :=
  { runID := "r", incidentID := "e", eventID := "w", escalationEventID := "o", stalledAfter := 10
    expectedIncidentRevision := revision, eventRecord := some {}, observedAt := at'
    waitReason := waitReason, announced := announced }

/-- The wait is seen at 5 and at 11, and is over at 12: the episode is woken at once, and one whose
re-wake was spent is handed over. -/
theorem long_wait_stalls :
    longWait.busyTimes [waitPass 5 1 "closed" false, waitPass 11 2 "closed" false] = [5, 11] ∧
    (((run watch longWait [waitPass 5 1 "closed" false, waitPass 11 2 "closed" false]
      ).reconcileRecoveryWatchdog (waitPass 12 2 "" false)).toOption.map (·.rewoken)) = some true ∧
    (((run watch longWait [waitPass 5 1 "closed" true, waitPass 11 2 "closed" true]
      ).reconcileRecoveryWatchdog (waitPass 12 2 "" true)).toOption.map (·.escalated)) =
      some true := by
  decide

/-- A wait seen at 5 is over at 8, which restarts the clock: the episode stalls at 18, not
before. -/
theorem short_wait_restarts_clock :
    (run watch longWait [waitPass 5 1 "closed" false, waitPass 8 2 "" false]).Stalls
        (waitPass 18 3 "" false) ∧
      ∀ t ∈ longWait.busyTimes [waitPass 5 1 "closed" false, waitPass 8 2 "" false], t + 10 ≤ 18 := by
  have hstalls : (run watch longWait [waitPass 5 1 "closed" false, waitPass 8 2 "" false]).Stalls
      (waitPass 18 3 "" false) :=
    ⟨_, _, ⟨rfl, by decide⟩, rfl, .inl rfl⟩
  exact ⟨hstalls, ((stalls_after_quiet_interval (by decide) (by decide)).1 hstalls).2⟩

end

end RecoveryEpisode

end Steward
