import Steward.Watchdog.BucketWriters

/-!
# The rules of a bucket's phase

Readings, ticks and re-derivations move one bucket through its phases. Draining and stopped are left
with a rearm only, so that each rearm is followed by one drain and one stop at most.
-/

namespace Steward.Watchdog

open Runs

inductive PolicyCall
  | evaluate (snap : QuotaSnapshot) (now : Time)
  | tick (now : Time)
  | rederive (now : Time)

/-- A reading names a bucket: the zero key stands for one that is not stored. -/
def PolicyCall.Keyed : PolicyCall → Prop
  | .evaluate snap _ => snap.key ≠ {}
  | _ => True

/-- A bucket with the actions emitted for it, the latest first, and whether the projection of the
last accepted reading asked for more than its percentage. -/
structure Watched where
  state : BucketState := {}
  trace : List Action := []
  asked : Bool := false

namespace Thresholds

variable (t : Thresholds)

/-- What `Validate` accepts. `StopETA` is read by that check only, and some value always meets
it. -/
def Valid : Prop :=
  t.warnPercent < t.drainPercent ∧ t.drainPercent < t.stopPercent ∧ t.stopPercent ≤ 100 ∧
    0 < t.warnPercent ∧ 0 < t.rearmPercent ∧ t.rearmPercent < t.warnPercent ∧ 0 ≤ t.gracePeriod ∧
    1 ≤ t.rearmObservations ∧ (0 < t.rateWindow → t.drainETA < t.warnETA) ∧ 0 ≤ t.resetExemption ∧
    1 ≤ t.runwayMargin ∧ 0 ≤ t.hardStopETA

instance : Decidable t.Valid := inferInstanceAs (Decidable (_ ∧ _))

def decision (state : BucketState) : PolicyCall → Decision
  | .evaluate snap now => t.evaluate snap state now
  | .tick now => t.tick state now
  | .rederive now => t.rederive state now

/-- The projection asks for a higher level than the percentage, in warning territory and before the
reset. -/
def asks (s : BucketState) (now : Time) : Bool :=
  s.exhaustsIn.any fun eta =>
    t.warnPercent ≤ s.usedPercent ∧ (s.resetsAt.all fun r => eta < r - now) ∧
      (t.level s.usedPercent).rank < (t.etaLevel eta).rank

def watch (w : Watched) (call : PolicyCall) : Watched :=
  let d := t.decision w.state call
  { state := d.state
    trace := d.actions.reverse ++ w.trace
    asked :=
      match call with
      | .evaluate _ now => if d.ignored then w.asked else t.asks d.state now
      | _ => w.asked }

end Thresholds

def sinceRearm (trace : List Action) (kind : ActionKind) : Nat :=
  (trace.takeWhile fun a => a.kind ≠ .rearm).countP fun a => a.kind = kind

@[simp] theorem sinceRearm_cons (a : Action) (trace : List Action) (kind : ActionKind) :
    sinceRearm (a :: trace) kind =
      if a.kind = .rearm then 0 else sinceRearm trace kind + if a.kind = kind then 1 else 0 := by
  unfold sinceRearm
  by_cases h : a.kind = .rearm
  · simp [h]
  · simp [h, List.countP_cons]

/-! ## Moves of the phase -/

/-- How the ladder moves a phase, with the actions it emits. -/
inductive Raise : Phase → List Action → Phase → Prop
  | kept (p : Phase) : Raise p [] p
  | calmed {p : Phase} (h : p.rank < 2) : Raise p [] .normal
  | raised {p q : Phase} {a : Action} (h : p.rank < q.rank) (ha : a.kind = actionFor q) :
      Raise p [a] q

/-- How a call moves a phase: the ladder, after a rearm or without one. -/
inductive PhaseMove : Phase → List Action → Phase → Prop
  | raise {p q : Phase} {l : List Action} (h : Raise p l q) : PhaseMove p l q
  | rearm {p p' q : Phase} {a : Action} {l : List Action} (ha : a.kind = .rearm)
      (h : Raise p' l q) : PhaseMove p (a :: l) q

/-- The phase bounds what was emitted since the last rearm. -/
structure Spaced (p : Phase) (trace : List Action) : Prop where
  drains : sinceRearm trace .drain ≤ if 2 ≤ p.rank then 1 else 0
  stops : sinceRearm trace .stop ≤ if p.rank = 3 then 1 else 0
  always : ∀ l, l <:+ trace → sinceRearm l .drain ≤ 1 ∧ sinceRearm l .stop ≤ 1

variable {p q : Phase} {l trace : List Action}

theorem Spaced.push {a : Action} (h : Spaced p trace)
    (hdrains : sinceRearm (a :: trace) .drain ≤ if 2 ≤ q.rank then 1 else 0)
    (hstops : sinceRearm (a :: trace) .stop ≤ if q.rank = 3 then 1 else 0) :
      Spaced q (a :: trace) := by
  refine ⟨hdrains, hstops, fun l hl => ?_⟩
  rcases List.suffix_cons_iff.1 hl with rfl | hl
  · constructor
    · exact hdrains.trans (by split <;> decide)
    · exact hstops.trans (by split <;> decide)
  · exact h.always l hl

theorem Spaced.raise (h : Spaced p trace) (hmove : Raise p l q) : Spaced q (l.reverse ++ trace) := by
  have hdrains := h.drains
  have hstops := h.stops
  cases hmove with
  | kept => exact h
  | calmed hp =>
    rw [if_neg (by omega)] at hdrains hstops
    exact ⟨hdrains, hstops, h.always⟩
  | raised hq ha =>
    -- The phase was below the new one, so nothing of its kind was emitted yet.
    apply h.push
    all_goals cases p <;> cases q <;> simp_all [Phase.rank, actionFor]

theorem Spaced.move (h : Spaced p trace) (hmove : PhaseMove p l q) :
    Spaced q (l.reverse ++ trace) := by
  cases hmove with
  | raise hraise => exact h.raise hraise
  | rearm ha hraise =>
    rename_i p' a _
    have hrearmed : Spaced p' (a :: trace) := h.push (by simp [ha]) (by simp [ha])
    simpa using hrearmed.raise hraise

theorem PhaseMove.rearms_of_lower (h : PhaseMove p l q) (hp : 2 ≤ p.rank)
    (hlower : q.rank < p.rank) : ∃ a ∈ l, a.kind = .rearm := by
  cases h with
  | rearm ha => exact ⟨_, (.head _), ha⟩
  | raise hraise =>
    cases hraise with
    | kept | calmed | raised => omega

theorem PhaseMove.of_unset (h : PhaseMove .normal l q) : PhaseMove .unset l q := by
  cases h with
  | rearm ha hraise => exact .rearm ha hraise
  | raise hraise =>
    cases hraise with
    | kept => exact .raise (.calmed (by decide))
    | calmed h => exact .raise (.calmed h)
    | raised h ha => exact .raise (.raised h ha)

/-! ## What a call does -/

def BucketState.Timed (s : BucketState) : Prop :=
  (s.stoppedAt.isSome = true ↔ s.phase = .stopped) ∧
    (s.drainDeadline.isSome = true → s.phase = .draining)

variable {t : Thresholds} {snap : QuotaSnapshot} {s : BucketState} {now : Time}

/-- The reading on the metered state, as `asks` reads it once it is recorded. -/
def BucketState.read (s : BucketState) (snap : QuotaSnapshot) : BucketState :=
  { s with usedPercent := snap.usedPercent, resetsAt := snap.resetsAt }

section

variable (t : Thresholds) (snap : QuotaSnapshot) (s : BucketState) (now : Time)

theorem rearms_cases : (∃ n, t.rearms snap s now = ({ s with rearmObservations := n }, [])) ∨
    ∃ l, t.rearms snap s now = (s.rearmed now, l) ∧
      (l = [] ∧ s.phase = .normal ∨ ∃ a : Action, a.kind = .rearm ∧ l = [a]) := by
  unfold Thresholds.rearms
  split_ifs with _ hphase
  · exact .inr ⟨_, rfl, .inr ⟨_, rfl, rfl⟩⟩
  · exact .inr ⟨_, rfl, .inl ⟨rfl, not_not.1 hphase⟩⟩
  · exact .inr ⟨_, rfl, .inr ⟨_, rfl, rfl⟩⟩
  · exact .inl ⟨_, rfl⟩
  · exact .inl ⟨_, rfl⟩
  · exact .inl ⟨_, rfl⟩

theorem rearms_strikes : (t.rearms snap s now).1.etaStrikes = s.etaStrikes := by
  rcases rearms_cases t snap s now with ⟨n, h⟩ | ⟨l, h, -⟩
  · rw [h]
  · rw [h]
    rfl

theorem escalate_raise (want : Phase) :
    Raise s.phase (t.escalate snap want s now).2 (t.escalate snap want s now).1.phase ∧
      (∀ a ∈ (t.escalate snap want s now).2,
        a.kind = actionFor want ∧ (t.escalate snap want s now).1.phase = want) ∧
      ((t.escalate snap want s now).1.exhaustsIn = s.exhaustsIn ∧
        (t.escalate snap want s now).1.etaStrikes = s.etaStrikes) ∧
      (s.Timed → (t.escalate snap want s now).1.Timed) := by
  unfold Thresholds.escalate
  by_cases hcalm : s.phase = .warned ∧ want = .normal ∧ snap.usedPercent < t.warnPercent
  · obtain ⟨hphase, rfl, -⟩ := id hcalm
    rw [if_pos hcalm, if_neg (by simp [Phase.rank])]
    refine ⟨.calmed (by simp [hphase, Phase.rank]), by simp, ⟨rfl, rfl⟩, fun h => ?_⟩
    simpa [BucketState.Timed, hphase] using h
  · rw [if_neg hcalm]
    by_cases hrank : s.phase.rank < want.rank
    · rw [if_pos hrank]
      refine ⟨?_, fun a ha => ?_, ?_, fun h => ?_⟩
      · split_ifs <;> exact .raised hrank rfl
      · rw [List.mem_singleton.1 ha]
        split_ifs <;> exact ⟨rfl, rfl⟩
      · split_ifs <;> exact ⟨rfl, rfl⟩
      · cases hs : s.phase <;> cases want <;> simp_all [BucketState.Timed, Phase.rank]
    · rw [if_neg hrank]
      exact ⟨.kept _, by simp, ⟨rfl, rfl⟩, id⟩

theorem tick_cases : t.tick s now = { state := s } ∨
      t.tick s now = { state := { s with drainDeadline := none, updatedAt := now }, ignored := true } ∨
      s.phase = .draining ∧ (t.exempt s.resetsAt now = false ∧
      t.lasts s.resetsAt s.exhaustsIn now = false ∧
          (t.stopPercent ≤ s.usedPercent ∨ (s.exhaustsIn.any fun eta => eta ≤ t.hardStop) = true)) ∧
        t.tick s now =
          { state :=
              { s with
                phase := .stopped, drainDeadline := none, stoppedAt := some now, healthy := false
                updatedAt := now }
            actions := [{ kind := .stop, bucket := s.key, snapshot := snapshotFromState s }] } := by
  unfold Thresholds.tick
  split_ifs with hidle hstands
  · exact .inl rfl
  · exact .inr (.inl rfl)
  · simp only [not_or, Bool.not_eq_true] at hstands
    refine .inr (.inr ⟨not_not.1 (not_or.1 hidle).1, ⟨hstands.2.1, hstands.1, ?_⟩, rfl⟩)
    by_cases hstop : t.stopPercent ≤ s.usedPercent
    · exact .inl hstop
    · refine .inr (by_contra fun habove => hstands.2.2 ⟨Rat.not_le.1 hstop, ?_⟩)
      cases heta : s.exhaustsIn <;> simp_all

theorem wantedLevel_cases : t.wantedLevel snap s now = (.normal, s.etaStrikes) ∨
      t.wantedLevel snap s now = (t.level snap.usedPercent, s.etaStrikes) ∨
      t.asks (s.read snap) now = true ∧
        (t.wantedLevel snap s now = (t.level snap.usedPercent, s.etaStrikes + 1) ∨
          0 < s.etaStrikes ∧ ∃ eta, s.exhaustsIn = some eta ∧
            t.wantedLevel snap s now = (t.etaLevel eta, s.etaStrikes + 1)) := by
  unfold Thresholds.wantedLevel
  by_cases hspared : t.exempt snap.resetsAt now = true ∨ t.lasts snap.resetsAt s.exhaustsIn now = true
  · exact .inl (if_pos hspared)
  · rw [if_neg hspared]
    cases heta : s.exhaustsIn with
    | none => exact .inr (.inl rfl)
    | some eta =>
      dsimp only
      split_ifs with hasks hfirst
      · exact .inr (.inr ⟨by simp [Thresholds.asks, BucketState.read, heta, hasks], .inl rfl⟩)
      · refine .inr (.inr ⟨by simp [Thresholds.asks, BucketState.read, heta, hasks],
          .inr ⟨by omega, ?_⟩⟩)
        exact ⟨eta, rfl, rfl⟩
      · exact .inr (.inl rfl)

end

/-- What a stored bucket keeps. -/
structure Thresholds.Kept (t : Thresholds) (s : BucketState) : Prop where
  absent : s.key = {} → s.phase = .unset
  timed : s.Timed
  healthy : s.healthy = true → s.phase = .normal ∧ s.usedPercent < t.warnPercent

theorem Thresholds.Kept.stateFor_timed (h : t.Kept s) (snap : QuotaSnapshot) :
    (Thresholds.stateFor snap s).Timed := by
  unfold Thresholds.stateFor
  split_ifs
  · simp [BucketState.Timed]
  · exact h.timed

theorem Thresholds.Kept.move_of_stateFor (h : t.Kept s)
    (hmove : PhaseMove (Thresholds.stateFor snap s).phase l q) : PhaseMove s.phase l q := by
  unfold Thresholds.stateFor at hmove
  split_ifs at hmove with hzero
  · rw [h.absent hzero]
    exact hmove.of_unset
  · exact hmove

theorem judged_timed (t : Thresholds) (snap : QuotaSnapshot) (now : Time) (hs : s.Timed) :
    (t.judged snap s now).1.Timed := by
  change (t.rearms snap s now).1.Timed
  rcases rearms_cases t snap s now with ⟨n, h⟩ | ⟨l, h, -⟩
  · rw [h]
    exact hs
  · rw [h]
    simp [BucketState.Timed, BucketState.rearmed]

theorem judged_move (hraise : Raise (t.judged snap s now).1.phase l q) :
    PhaseMove s.phase ((t.rearms snap s now).2 ++ l) q := by
  change Raise (t.rearms snap s now).1.phase l q at hraise
  rcases rearms_cases t snap s now with ⟨n, h⟩ | ⟨l', h, ⟨rfl, hphase⟩ | ⟨a, ha, rfl⟩⟩
  · rw [h] at hraise ⊢
    exact .raise hraise
  · rw [h] at hraise ⊢
    rw [hphase]
    exact .raise hraise
  · rw [h] at hraise ⊢
    exact .rearm ha hraise

theorem evaluate_kept (h : t.Kept s) (hkey : snap.key ≠ {}) :
    PhaseMove s.phase (t.evaluate snap s now).actions (t.evaluate snap s now).state.phase ∧
      t.Kept (t.evaluate snap s now).state := by
  cases hrefuses : Thresholds.refuses snap (Thresholds.stateFor snap s) now with
  | true =>
    rw [evaluate_refused t hrefuses]
    exact ⟨.raise (.kept _), h⟩
  | false =>
    have hnamed : (t.judged snap (Thresholds.stateFor snap s) now).1.key = snap.key :=
      (rearms_key t snap _ now).trans (stateFor_key hrefuses)
    rw [evaluate_accepted hrefuses]
    have hraise := escalate_raise t snap (t.judged snap (Thresholds.stateFor snap s) now).1 now
      (t.judged snap (Thresholds.stateFor snap s) now).2
    have htimed := judged_timed t snap now (h.stateFor_timed snap)
    refine ⟨h.move_of_stateFor (judged_move hraise.1), fun hzero => ?_, hraise.2.2.2 htimed,
      by simp [Thresholds.recorded]⟩
    exact absurd (((escalate_key t snap _ _ now).trans hnamed).symm.trans hzero) hkey

theorem tick_kept (h : t.Kept s) :
    PhaseMove s.phase (t.tick s now).actions (t.tick s now).state.phase ∧
    t.Kept (t.tick s now).state := by
  rcases tick_cases t s now with htick | htick | ⟨hphase, -, htick⟩
  · rw [htick]
    exact ⟨.raise (.kept _), h⟩
  · rw [htick]
    exact ⟨.raise (.kept _), h.absent, ⟨h.timed.1, nofun⟩, h.healthy⟩
  · rw [htick]
    refine ⟨.raise (.raised (by simp [hphase, Phase.rank]) rfl), fun hzero => ?_,
      by simp [BucketState.Timed], nofun⟩
    simp [h.absent hzero] at hphase

theorem rederive_kept (h : t.Kept s) :
    PhaseMove s.phase (t.rederive s now).actions (t.rederive s now).state.phase ∧
      t.Kept (t.rederive s now).state := by
  unfold Thresholds.rederive
  by_cases hidle : s.key = {} ∨ s.phase = .normal ∨ s.phase.rank ≤ (t.level s.usedPercent).rank
  · rw [if_pos hidle]
    exact ⟨.raise (.kept _), h⟩
  · rw [if_neg hidle]
    have hlow : (t.level s.usedPercent).rank < s.phase.rank :=
      not_le.1 fun hrank => hidle (.inr (.inr hrank))
    refine ⟨.rearm rfl (.kept _), fun hzero => absurd (.inl hzero) hidle, ⟨?_, nofun⟩, by simp⟩
    -- A lowered phase is not the highest one.
    cases hs : s.phase <;> cases hl : t.level s.usedPercent <;> simp_all [Phase.rank]

/-! ## Runs -/

theorem decision_kept (h : t.Kept s) {call : PolicyCall} (hkeyed : call.Keyed) :
    PhaseMove s.phase (t.decision s call).actions (t.decision s call).state.phase ∧
      t.Kept (t.decision s call).state := by
  cases call with
  | evaluate snap now => exact evaluate_kept h hkeyed
  | tick now => exact tick_kept h
  | rederive now => exact rederive_kept h

theorem watch_kept (t : Thresholds) {calls : List PolicyCall}
    (hkeyed : ∀ call ∈ calls, call.Keyed) : t.Kept (run t.watch {} calls).state ∧
      Spaced (run t.watch {} calls).state.phase (run t.watch {} calls).trace := by
  refine run_invariant (I := fun w : Watched => t.Kept w.state ∧ Spaced w.state.phase w.trace)
    (P := fun _ (call : PolicyCall) => call.Keyed) ?_ ?_ (along_of_forall fun _ => hkeyed)
  · rintro w call ⟨hkept, hspaced⟩ hcall
    have hmove := decision_kept hkept hcall
    exact ⟨hmove.2, hspaced.move hmove.1⟩
  · refine ⟨⟨fun _ => rfl, by simp [BucketState.Timed], nofun⟩, by simp [sinceRearm], by
      simp [sinceRearm], fun l hl => ?_⟩
    rw [List.suffix_nil.1 hl]
    simp [sinceRearm]

/-- The times and the health of a bucket are those of its phase, draining and stopped are left with
a rearm only, and at most one drain and one stop were emitted since the last rearm. -/
theorem phase_rules (t : Thresholds) (calls : List PolicyCall)
    (hkeyed : ∀ call ∈ calls, call.Keyed) : let w := Runs.run t.watch {} calls
    (w.state.stoppedAt.isSome = true ↔ w.state.phase = .stopped) ∧
      (w.state.drainDeadline.isSome = true → w.state.phase = .draining) ∧
      (w.state.healthy = true → w.state.phase = .normal ∧ w.state.usedPercent < t.warnPercent) ∧
      (∀ call : PolicyCall, call.Keyed → 2 ≤ w.state.phase.rank →
        (t.decision w.state call).state.phase.rank < w.state.phase.rank →
        ∃ a ∈ (t.decision w.state call).actions, a.kind = .rearm) ∧
      ∀ l, l <:+ w.trace → sinceRearm l .drain ≤ 1 ∧ sinceRearm l .stop ≤ 1 := by
  obtain ⟨hkept, hspaced⟩ := watch_kept t hkeyed
  refine ⟨hkept.timed.1, hkept.timed.2, hkept.healthy, fun call hcall hhigh hlower => ?_,
    hspaced.always⟩
  exact (decision_kept hkept hcall).1.rearms_of_lower hhigh hlower

def shipped : Thresholds := shippedConfig.thresholds

def codex : BucketKey := { providerInstanceID := "codex" }

/-- A reading of the window that ends at `resetsAt`. -/
def reading (used : Rat) (resetsAt at' : Time) : PolicyCall :=
  .evaluate { key := codex, usedPercent := used, observedAt := at', resetsAt := some resetsAt } at'

/-- A drain and a stop in one window, a rearm by the next one, and a stop there. -/
def twoWindows : List PolicyCall :=
  [reading 92 (60 * minute) minute, reading 96 (60 * minute) (2 * minute),
    reading 10 (120 * minute) (61 * minute), reading 96 (120 * minute) (70 * minute)]

theorem phase_rules_two_windows :
    let w := Runs.run shipped.watch {} twoWindows
    w.trace.map Action.kind = [.stop, .rearm, .stop, .drain] ∧ w.state.stoppedAt.isSome = true ∧
      ∀ l, l <:+ w.trace → sinceRearm l .drain ≤ 1 ∧ sinceRearm l .stop ≤ 1 := by
  have hphase : (run shipped.watch {} twoWindows).state.phase = .stopped := by decide +kernel
  have hrules := phase_rules shipped twoWindows
    (by simp [twoWindows, reading, codex, PolicyCall.Keyed])
  exact ⟨by decide +kernel, hrules.1.2 hphase, hrules.2.2.2.2⟩

/-! ## What a stop rests on -/

namespace Thresholds

def underFloor (t : Thresholds) (s : BucketState) :
    Bool := s.exhaustsIn.any fun eta => eta ≤ t.hardStop

/-- What a call stops a bucket for. A reading is of the current window, and at the stop threshold or
in warning territory with a projection under the floor, after one that asked for more too. The grace
timer takes the last reading as it is, outside the reset exemption and unless its projection lasts
to the reset. -/
def StopRests (t : Thresholds) (w : Watched) (call : PolicyCall) : Prop :=
  let s := (t.decision w.state call).state
  match call with
  | .evaluate _ now =>
    (∀ r, s.resetsAt = some r → now < r) ∧
      (t.stopPercent ≤ s.usedPercent ∨ t.warnPercent ≤ s.usedPercent ∧
        t.underFloor s = true ∧ t.asks s now = true ∧ w.asked = true)
  | .tick now =>
    t.exempt s.resetsAt now = false ∧ t.lasts s.resetsAt s.exhaustsIn now = false ∧
      (t.stopPercent ≤ s.usedPercent ∨ t.underFloor s = true)
  | .rederive _ => False

def Struck (w : Watched) : Prop := 0 < w.state.etaStrikes → w.asked = true

end Thresholds

theorem level_stopped {used : Rat} (h : t.level used = .stopped) : t.stopPercent ≤ used := by
  by_contra hbelow
  unfold Thresholds.level at h
  rw [if_neg hbelow] at h
  split_ifs at h

theorem etaLevel_stopped {eta : Duration} (h : t.etaLevel eta = .stopped) : eta ≤ t.hardStop := by
  by_contra habove
  unfold Thresholds.etaLevel at h
  rw [if_neg habove] at h
  split_ifs at h

/-- The state a reading is judged on. -/
def Thresholds.metered (t : Thresholds) (snap : QuotaSnapshot) (s : BucketState) (now : Time) :
    BucketState :=
  t.measured snap (t.detectReset snap s) (t.rearms snap s now).1

/-- The recorded state shows the reading and the projection it was judged by. -/
theorem evaluate_asks (h : Thresholds.refuses snap (Thresholds.stateFor snap s) now = false) :
    (t.evaluate snap s now).state.exhaustsIn = (t.metered snap (Thresholds.stateFor snap s) now).exhaustsIn ∧
      t.asks (t.evaluate snap s now).state now =
        t.asks ((t.metered snap (Thresholds.stateFor snap s) now).read snap) now := by
  rw [evaluate_accepted h]
  obtain ⟨-, -, ⟨heta, -⟩, -⟩ := escalate_raise t snap
    (t.judged snap (Thresholds.stateFor snap s) now).1 now
    (t.judged snap (Thresholds.stateFor snap s) now).2
  refine ⟨heta, ?_⟩
  simp only [Thresholds.asks, Thresholds.recorded, heta]
  rfl

/-- A reading raises a bucket to its percentage level, or to what it projects in the window of the
accepted reading before it, which asked for more too. -/
theorem evaluate_raises {w : Watched} (hw : Thresholds.Struck w) {a : Action}
    (ha : a ∈ (t.evaluate snap w.state now).actions) (hkind : a.kind ≠ .rearm) :
    let d := t.evaluate snap w.state now
    (∀ r, d.state.resetsAt = some r → now < r) ∧ a.kind = actionFor d.state.phase ∧
      (d.state.phase = .normal ∨ d.state.phase = t.level d.state.usedPercent ∨
        t.asks d.state now = true ∧ w.asked = true ∧
          t.detectReset snap (Thresholds.stateFor snap w.state) = false ∧
          ∃ eta, d.state.exhaustsIn = some eta ∧ d.state.phase = t.etaLevel eta) := by
  dsimp only
  cases hrefuses : Thresholds.refuses snap (Thresholds.stateFor snap w.state) now with
  | true => simp [evaluate_refused t hrefuses] at ha
  | false =>
    have hknown : 0 < (Thresholds.stateFor snap w.state).etaStrikes → w.asked = true := by
      unfold Thresholds.stateFor
      split_ifs
      · exact fun h => absurd h (lt_irrefl 0)
      · exact hw
    have haccepted := evaluate_accepted (t := t) hrefuses
    obtain ⟨heta, hasks⟩ := evaluate_asks (t := t) hrefuses
    rw [haccepted] at ha
    simp only [Thresholds.refuses, decide_eq_false_iff_not, not_or] at hrefuses
    obtain ⟨hresets, hused⟩ : (t.evaluate snap w.state now).state.resetsAt = snap.resetsAt ∧
        (t.evaluate snap w.state now).state.usedPercent = snap.usedPercent := by
      rw [haccepted]
      exact ⟨rfl, rfl⟩
    rw [hasks, heta, hresets, hused]
    rcases List.mem_append.1 ha with ha | ha
    · rcases rearms_cases t snap (Thresholds.stateFor snap w.state) now with
        ⟨n, h⟩ | ⟨l, h, ⟨rfl, -⟩ | ⟨b, hb, rfl⟩⟩
      all_goals simp_all
    · obtain ⟨haction, hphase⟩ := (escalate_raise t snap _ now _).2.1 a ha
      replace hphase := (congrArg (fun d : Decision => d.state.phase) haccepted).trans hphase
      rw [hphase]
      refine ⟨fun r hr => by simpa [QuotaSnapshot.isExpired, hr] using hrefuses.2.2.2, haction, ?_⟩
      generalize Thresholds.stateFor snap w.state = known at hknown
      rcases wantedLevel_cases t snap (t.metered snap known now) now with
        h | h | ⟨hasked, h | ⟨hstruck, eta, heta, h⟩⟩
      · exact .inl (congrArg Prod.fst h)
      · exact .inr (.inl (congrArg Prod.fst h))
      · exact .inr (.inl (congrArg Prod.fst h))
      · have hstrikes : (t.metered snap known now).etaStrikes = known.etaStrikes :=
          rearms_strikes t snap known now
        refine .inr (.inr ⟨hasked, hknown (hstrikes ▸ hstruck),
          eq_false_of_ne_true fun hreset => ?_, eta, heta, congrArg Prod.fst h⟩)
        simp [Thresholds.metered, hreset, Thresholds.measured, Thresholds.burnRate] at heta

theorem evaluate_struck {w : Watched} (hw : Thresholds.Struck w) (snap : QuotaSnapshot)
    (now : Time) : Thresholds.Struck (t.watch w (.evaluate snap now)) := by
  unfold Thresholds.Struck Thresholds.watch Thresholds.decision
  dsimp only
  cases hrefuses : Thresholds.refuses snap (Thresholds.stateFor snap w.state) now with
  | true =>
    rw [evaluate_refused t hrefuses]
    exact hw
  | false =>
    rw [(evaluate_asks hrefuses).2, evaluate_accepted hrefuses]
    intro hpositive
    rw [if_neg (by simp)]
    change 0 < (t.escalate _ _ _ _).1.etaStrikes at hpositive
    rw [(escalate_raise t snap _ now _).2.2.1.2] at hpositive
    generalize Thresholds.stateFor snap w.state = known at hpositive
    change 0 < (if (t.wantedLevel snap (t.metered snap known now) now).2 = (t.metered snap known now).etaStrikes
      then (0 : Int) else _) at hpositive
    rcases wantedLevel_cases t snap (t.metered snap known now) now with h | h | ⟨hasked, -⟩
    · rw [h, if_pos rfl] at hpositive
      cases hpositive
    · rw [h, if_pos rfl] at hpositive
      cases hpositive
    · exact hasked

theorem evaluate_rests {w : Watched} (hw : Thresholds.Struck w) {a : Action}
    (ha : a ∈ (t.evaluate snap w.state now).actions) (hkind : a.kind = .stop) :
    t.StopRests w (.evaluate snap now) := by
  obtain ⟨hexpired, haction, hwhy⟩ := evaluate_raises hw ha (by simp [hkind])
  have hstopped : (t.evaluate snap w.state now).state.phase = .stopped := by
    generalize (t.evaluate snap w.state now).state.phase = p at haction
    cases p <;> simp_all [actionFor]
  rw [hstopped] at hwhy
  refine ⟨hexpired, ?_⟩
  rcases hwhy with h | h | ⟨hasks, hasked, -, eta, heta, h⟩
  · cases h
  · exact .inl (level_stopped h.symm)
  · have hfloor : t.underFloor (t.evaluate snap w.state now).state = true := by
      simp [Thresholds.underFloor, heta, etaLevel_stopped h.symm]
    refine .inr ⟨?_, hfloor, hasks, hasked⟩
    simp only [Thresholds.asks, heta, Option.any_some, decide_eq_true_eq] at hasks
    exact hasks.1

theorem tick_rests {w : Watched} (hw : Thresholds.Struck w) (now : Time) :
    (∀ a ∈ (t.tick w.state now).actions, a.kind = .stop → t.StopRests w (.tick now)) ∧
      Thresholds.Struck (t.watch w (.tick now)) := by
  unfold Thresholds.StopRests Thresholds.Struck Thresholds.watch Thresholds.decision
  dsimp only
  rcases tick_cases t w.state now with htick | htick | ⟨-, hwhy, htick⟩
  · rw [htick]
    exact ⟨by simp, hw⟩
  · rw [htick]
    exact ⟨by simp, hw⟩
  · rw [htick]
    exact ⟨fun _ _ _ => hwhy, hw⟩

theorem rederive_struck {w : Watched} (hw : Thresholds.Struck w) (now : Time) :
    Thresholds.Struck (t.watch w (.rederive now)) := by
  unfold Thresholds.Struck Thresholds.watch Thresholds.decision Thresholds.rederive
  dsimp only
  split
  · exact hw
  · exact fun h => absurd h (lt_irrefl 0)

theorem watch_struck {w : Watched} (hw : Thresholds.Struck w) (call : PolicyCall) :
    Thresholds.Struck (t.watch w call) := by
  cases call with
  | evaluate snap now => exact evaluate_struck hw snap now
  | tick now => exact (tick_rests hw now).2
  | rederive now => exact rederive_struck hw now

/-- Every stop of every run rests on what its call may stop for. -/
theorem stops_rest (t : Thresholds) (calls : List PolicyCall) :
    Runs.Along t.watch (fun w call => ∀ a ∈ (t.decision w.state call).actions, a.kind = .stop →
      t.StopRests w call) {} calls := by
  refine along_of_invariant (I := Thresholds.Struck) (fun _ call hw => watch_struck hw call)
    (fun w call hw => ?_) (fun h => absurd h (lt_irrefl 0)) calls
  cases call with
  | evaluate snap now => exact fun a ha hkind => evaluate_rests hw ha hkind
  | tick now => exact (tick_rests hw now).1
  | rederive now =>
    intro a ha hkind
    rw [rederive_actions ha] at hkind
    cases hkind

/-- The state on which the grace timer stops a bucket after the calls. -/
def graceStop (t : Thresholds) (calls : List PolicyCall) (now : Time) : Option BucketState :=
  let s := (Runs.run t.watch {} calls).state
  if (t.tick s now).actions.map Action.kind = [.stop] then some s else none

/-- Margins under which a drain goes on although its projection reaches the reset. -/
def wideMargin : Thresholds := { shipped with runwayMargin := 3, resetExemption := 0 }

/-- The grace timer stops on the first projection, below the warning threshold, on a projection not
before the reset and after the window; a reading stops after a projection above the floor. -/
theorem grace_timer_stops : shipped.Valid ∧ wideMargin.Valid ∧
    (Runs.run shipped.watch {} [reading 84 (60 * minute) minute]).state.exhaustsIn = none ∧
    ((graceStop shipped [reading 84 (60 * minute) minute, reading 92 (60 * minute) (3 * minute)]
      (5 * minute)).any fun s => s.usedPercent < shipped.stopPercent) = true ∧
    ((graceStop shipped [reading 72 (60 * minute) minute, reading 92 (60 * minute) (3 * minute),
      reading 84 (60 * minute) (4 * minute)] (5 * minute)).any fun s =>
        s.usedPercent < shipped.warnPercent) = true ∧
    ((graceStop wideMargin [reading 84 (5 * minute) minute, reading 92 (5 * minute) (3 * minute)]
      (4 * minute)).any fun s => s.usedPercent < wideMargin.stopPercent ∧
        s.exhaustsIn = some (5 * minute - 3 * minute)) = true ∧
    ((graceStop shipped [reading 92 (21 * minute) minute, reading 96 (21 * minute) (12 * minute)]
      (22 * minute)).any fun s => s.resetsAt = some (21 * minute)) = true ∧
    let first := Runs.run shipped.watch {}
      [reading 81 (60 * minute) minute, reading 88 (60 * minute) (3 * minute)]
    let second := Runs.run shipped.watch first [reading 94 (60 * minute) (5 * minute)]
    first.state.exhaustsIn.map shipped.etaLevel = some .draining ∧
      second.state.usedPercent < shipped.stopPercent ∧
      second.trace.map Action.kind = [.stop, .warn] := by
  decide +kernel

/-! ## What a reading leaves and raises -/

/-- A raise above the percentage level is one to what this reading projects, in the window of the
accepted reading before it, and both asked for more than their percentage. -/
def Thresholds.ProjectedTwice (t : Thresholds) (w : Watched) : PolicyCall → Prop
  | .evaluate snap now =>
    let d := t.evaluate snap w.state now
    ∀ a ∈ d.actions, a.kind ≠ .rearm → (t.level d.state.usedPercent).rank < d.state.phase.rank →
      t.asks d.state now = true ∧ w.asked = true ∧
        t.detectReset snap (stateFor snap w.state) = false ∧
        ∃ eta, d.state.exhaustsIn = some eta ∧ d.state.phase = t.etaLevel eta
  | _ => True

theorem readings_ignored_or_projected_twice (t : Thresholds) :
    (∀ snap s now,
      (snap.sourceEventID ≠ "" ∧ snap.sourceEventID = (Thresholds.stateFor snap s).lastEventID ∨
      (Thresholds.stateFor snap s).observedAt ≠ 0 ∧
        snap.observedAt < (Thresholds.stateFor snap s).observedAt ∨ snap.isExpired now = true) →
      t.evaluate snap s now = { state := s, ignored := true }) ∧
    ∀ calls, Runs.Along t.watch t.ProjectedTwice {} calls := by
  refine ⟨fun snap s now h => evaluate_refused t (decide_eq_true (.inr h)), fun calls => ?_⟩
  refine along_of_invariant (I := Thresholds.Struck) (fun _ call hw => watch_struck hw call)
    (fun w call hw => ?_) (fun h => absurd h (lt_irrefl 0)) calls
  cases call with
  | evaluate snap now =>
    intro a ha hkind hrank
    obtain ⟨-, -, h | h | hwhy⟩ := evaluate_raises hw ha hkind
    · simp [h, Phase.rank] at hrank
    · rw [h] at hrank
      exact absurd hrank (lt_irrefl _)
    · exact hwhy
  | tick | rederive => trivial

/-- The first projection asks for draining; the second alone stops the bucket below the threshold. A
reading without an event identity is accepted twice. -/
theorem stop_projected_once : shipped.Valid ∧
    let calls := [reading 81 (60 * minute) minute, reading 88 (60 * minute) (3 * minute),
      reading 94 (60 * minute) (5 * minute)]
    let first := Runs.run shipped.watch {} (calls.take 2)
    let second := Runs.run shipped.watch {} calls
    (first.state.exhaustsIn.map shipped.etaLevel, first.state.phase) = (some .draining, .warned) ∧
      (second.state.usedPercent < shipped.stopPercent ∧ second.state.phase = .stopped) ∧
      (shipped.decision second.state (reading 94 (60 * minute) (5 * minute))).ignored = false := by
  decide +kernel

end Steward.Watchdog
