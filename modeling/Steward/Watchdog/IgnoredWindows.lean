import Steward.Watchdog.Calls
import Steward.Watchdog.World

/-!
# Ignored windows

Readings of an ignored window still move its stored phase and deadlines, so every operation that
acts on stored phases has to leave them out. The grace timer does not: a suppressed drain becomes a
stop that is sent when its grace period expires.
-/

namespace Steward.Watchdog

open Process

variable (cfg : Config)

def Permitted : Call → Prop
  | .warnThread _ _ _ cause => cfg.ignoredWindow cause.window = false
  | .stopThread _ _ cause => cfg.ignoredWindow cause.window = false
  | _ => True

variable {cfg}

instance : Background (Permitted cfg) := ⟨fun c hc => by
  cases c with
  | warnThread | stopThread => cases hc
  | _ => trivial⟩

theorem permitted_actsFor {bucket : BucketKey} (h : cfg.ignoredWindow bucket.window = false) :
    ActsFor (Permitted cfg) bucket :=
  ⟨fun _ _ _ => h, fun _ _ => h⟩

/-! ## Readings, starts and polls -/

theorem handleSnapshot_permitted (snap : QuotaSnapshot) :
    (handleSnapshot cfg snap).Only (Permitted cfg) := by
  refine asked_only rfl fun now => ?_
  dsimp only
  split_ifs
  · exact only_done _
  · refine asked_only rfl fun fresh => ?_
    split_ifs
    · exact only_done _
    · refine (only_request trivial).andThen fun prev => ?_
      cases prev with
      | none => exact only_done _
      | some prev =>
        dsimp only
        split_ifs
        · exact only_done _
        · refine (only_request trivial).andThen fun saved => ?_
          split_ifs with hquiet
          · exact only_done _
          · refine only_each fun a ha => execute_only (permitted_actsFor ?_) _
            rw [evaluate_actions ha]
            by_contra hignored
            rw [Bool.not_eq_false] at hignored
            exact hquiet (.inr (.inl ⟨hignored, List.ne_nil_of_mem ha⟩))

theorem rederive_permitted : (rederive cfg).Only (Permitted cfg) := by
  refine (only_request trivial).andThen fun states => ?_
  cases states with
  | none => exact only_done _
  | some states =>
    refine asked_only rfl fun now => only_each fun st _ => ?_
    dsimp only
    split_ifs
    · exact only_done _
    · refine (only_request trivial).andThen fun saved => ?_
      split_ifs
      · exact only_done _
      · exact only_each fun a ha => execute_rearm_only (rederive_actions ha) _

theorem pollThreads_permitted (memory : Memory) : (pollThreads cfg memory).Only (Permitted cfg) :=
  pollThreads_only (fun _ => permitted_actsFor) trivial memory

/-! ## The grace timer -/

variable (cfg) in
def IgnoredGraceOver (now : Time) (st : BucketState) : Prop :=
  cfg.ignoredWindow st.key.window = true ∧ st.phase = .draining ∧
    (st.drainDeadline.any fun deadline => deadline ≤ now) = true

instance (now : Time) (st : BucketState) : Decidable (IgnoredGraceOver cfg now st) :=
  inferInstanceAs (Decidable (_ ∧ _ ∧ _))

variable (cfg) in
/-- The contract of a tick: the clock read after listing the buckets finds no draining bucket of an
ignored window past its grace period. The note holds the listing until then. -/
def tickContract : Contract (List BucketState) Call Call.Reply where
  next listed c r :=
    match c with
    | .listBuckets => (r : Option (List BucketState)).getD []
    | .now => []
    | _ => listed
  allows _ c := Permitted cfg c
  expects listed c r :=
    match c with
    | .now => ∀ st ∈ listed, ¬IgnoredGraceOver cfg r st
    | _ => True

theorem tickBucket_permitted {now : Time} {st : BucketState} (h : ¬IgnoredGraceOver cfg now st) :
    (tickBucket cfg now st).Only (Permitted cfg) := by
  unfold tickBucket
  dsimp only
  split
  · exact only_done _
  · rename_i hdraining
    rw [not_not] at hdraining
    by_cases hignored : cfg.ignoredWindow st.key.window = true
    · have hwaits : (st.drainDeadline.all fun deadline => now < deadline) = true := by
        cases hdeadline : st.drainDeadline with
        | none => rfl
        | some deadline =>
          have hlater : ¬deadline ≤ now := fun hpast =>
            h ⟨hignored, hdraining, by rw [hdeadline]; simpa using hpast⟩
          simpa using hlater
      have htick : (cfg.engineOf st).tick st now = { state := st } := by
        exact if_pos (.inr hwaits)
      rw [htick]
      exact only_done _
    · have hkey : ∀ a ∈ ((cfg.engineOf st).tick st now).actions,
          cfg.ignoredWindow a.bucket.window = false := by
        intro a ha
        rw [tick_actions ha]
        simpa using hignored
      split_ifs
      · exact (only_request trivial).andThen fun _ => only_done _
      · exact only_done _
      · refine (only_request trivial).andThen fun saved => ?_
        split_ifs
        · exact only_done _
        · exact only_each fun a ha => execute_only (permitted_actsFor (hkey a ha)) _

theorem tickBuckets_meets (listed : List BucketState) :
    (tickBuckets cfg).Meets (tickContract cfg) (fun _ _ => True) listed := by
  unfold tickBuckets
  split_ifs
  · trivial
  · refine ⟨trivial, fun states _ => ?_⟩
    cases states with
    | none => trivial
    | some states =>
      refine ⟨trivial, fun now hnow => ?_⟩
      refine Only.meets (only_each fun st hst => ?_) (fun _ _ h => h) _
      exact tickBucket_permitted (hnow st hst)

instance (listed : List BucketState) (c : Call) (r : c.Reply) :
    Decidable ((tickContract cfg).expects listed c r) :=
  match c, r with
  | .now, r => inferInstanceAs (Decidable (∀ st ∈ listed, ¬IgnoredGraceOver cfg r st))
  | .owners, _ | .markEventSeen .., _ | .loadBucket .., _ | .saveBucket .., _ | .listBuckets, _
  | .markThreadNotice .., _ | .threadNotices .., _ | .clearThreadNotices .., _
  | .loadResumeIntent .., _ | .saveResumeIntent .., _ | .listResumeIntents, _ | .recordAction .., _
  | .listThreads, _ | .verifyDeadline, _ | .warnThread .., _ | .stopThread .., _ | .resumeThread ..,
      _ =>
    isTrue trivial

/-! ## Histories -/

variable (cfg) in
def Message.Spares : Message → Prop
  | .notice _ cause => cfg.ignoredWindow cause.window = false
  | .stop cause => cfg.ignoredWindow cause.window = false
  | .resume => True

variable (cfg) in
/-- All that was sent spares the ignored windows. -/
def Silent (w : World) : Prop := ∀ e ∈ w.sent, e.message.Spares cfg

theorem answer_silent {w : World} (m : Moment) {c : Call} (hw : Silent cfg w)
    (hc : Permitted cfg c) : Silent cfg (answer cfg w m c).2 := by
  intro e he
  rcases answer_sent cfg w m c with hsame | ⟨threadID, message, hmessage, hsent⟩
  · rw [hsame] at he
    exact hw e he
  · rw [hsent] at he
    rcases List.mem_append.1 he with he | he
    · exact hw e he
    · obtain rfl := List.mem_singleton.1 he
      cases c <;> cases hmessage
      · exact hc
      · exact hc
      · trivial

theorem run_silent {α : Type} {p : Program α} (hp : p.Only (Permitted cfg)) {w : World}
    (hw : Silent cfg w) (moments : List Moment) : Silent cfg (p.run (answer cfg) w moments).2 := by
  let K : Contract Unit Call Call.Reply :=
    { next := fun _ _ _ => (), allows := fun _ c => Permitted cfg c, expects := fun _ _ _ => True }
  have hmeets := hp.meets (K := K) (fun _ _ h => h) ()
  exact (hmeets.run_invariant (I := fun _ w => Silent cfg w) (.inr fun _ _ _ _ _ => trivial)
    (fun _ w m c hw hc _ => answer_silent m hw hc) hw).elim fun _ hrun => hrun.1

variable (cfg) in
/-- The condition on a step: a tick does not find a draining bucket of an ignored window past its
grace period. -/
def SparesIgnored (h : Host) (s : Step) : Prop :=
  s.op = .tick →
    (s.op.program cfg h.memory).Expected (answer cfg) (tickContract cfg) [] h.world s.moments

theorem tick_silent {h : Host} {moments : List Moment} (hs : Silent cfg h.world)
    (hspares : (Op.tick.program cfg h.memory).Expected (answer cfg) (tickContract cfg) [] h.world moments) :
    Silent cfg ((Op.tick.program cfg h.memory).run (answer cfg) h.world moments).2 := by
  have hmeets : (Op.tick.program cfg h.memory).Meets (tickContract cfg) (fun _ _ => True) [] :=
    (tickBuckets_meets []).andThen fun _ _ _ => trivial
  obtain ⟨-, hsilent, -⟩ := hmeets.run_invariant (I := fun _ w => Silent cfg w) (.inl hspares)
    (fun _ w m c hw hc _ => answer_silent m hw hc) hs
  exact hsilent

theorem hostStep_silent (h : Host) (s : Step) (hs : Silent cfg h.world)
    (hspares : SparesIgnored cfg h s) : Silent cfg (hostStep cfg h s).world := by
  obtain ⟨op, moments⟩ := s
  cases op with
  | start =>
    exact run_silent (Only.andThen rederive_permitted fun _ => pollThreads_permitted {}) hs moments
  | reading snap =>
    exact run_silent (Only.andThen (handleSnapshot_permitted snap) fun _ => only_done _) hs moments
  | tick => exact tick_silent hs (hspares rfl)
  | poll => exact run_silent (pollThreads_permitted h.memory) hs moments

/-- In every history whose ticks find no draining bucket of an ignored window past its grace period,
nothing is sent because of an ignored window. -/
theorem ignored_windows_never_act (cfg : Config) (h : Host) (steps : List Step)
    (hstart : Silent cfg h.world) (hspares : Runs.Along (hostStep cfg) (SparesIgnored cfg) h steps) :
    Silent cfg (Runs.run (hostStep cfg) h steps).world :=
  Runs.run_invariant (I := fun h => Silent cfg h.world)
    (fun h s hs hspares => hostStep_silent h s hs hspares) hstart hspares

/-! ## A drain that was suppressed -/

def overageKey : BucketKey := { providerInstanceID := "claudeAgent", limitID := "claude", window := "overage" }

def runningThread : Thread := { id := "t", providerInstanceID := "claudeAgent", running := true, turnID := "1" }

def calmMoments (clock : Time) : List Moment :=
  List.replicate 20 { clock := clock, threads := [runningThread] }

def suppressedDrain (tickAt : Time) : List Step :=
  [{ op := .reading { key := overageKey, usedPercent := 0, observedAt := 100 * minute, sourceEventID := "1" }
     moments := calmMoments (100 * minute) },
   { op := .reading { key := overageKey, usedPercent := 94, observedAt := 108 * minute, sourceEventID := "2" }
     moments := calmMoments (108 * minute) },
   { op := .tick, moments := calmMoments tickAt }]

/-- The drain of an ignored window is suppressed, and its grace timer stops the thread. -/
theorem ignored_window_stops_thread : shippedConfig.ignoredWindow overageKey.window = true ∧
      ∃ e ∈ (Runs.run (hostStep shippedConfig) {} (suppressedDrain (109 * minute))).world.sent,
        e.threadID = "t" ∧ e.message = .stop overageKey := by
  decide +kernel

/-- A tick inside the grace period leaves the suppressed drain alone. -/
theorem suppressed_drain_within_grace :
    Silent shippedConfig (Runs.run (hostStep shippedConfig) {} (suppressedDrain (108 * minute))).world :=
  ignored_windows_never_act shippedConfig {} (suppressedDrain (108 * minute)) (fun e he => by cases he)
    ⟨fun h => Op.noConfusion h, fun h => Op.noConfusion h, fun _ => by decide +kernel, trivial⟩

end Steward.Watchdog
