import Mathlib.Algebra.Order.Monoid.Unbundled.WithTop
import Mathlib.Algebra.Order.Ring.Int
import Steward.Lib.Versions
import Steward.Store.TaskWaitRuns
import Steward.Store.TurnOutcome

/-!
# Turn outcomes beside task-bound waits

`ReconcileTurnOutcomes` reads the attempts, then the live waits, plans, and commits; between these
steps other calls and the wait transactions commit as they please. The revision of the attempt
carries a decision over the gap: every transaction that changes an attempt raises it, and a
registration, which makes a wait live, does.
-/

namespace Steward

open Except Table Versions Runs Store List Option

variable {s s' : Store}

namespace Store

/-! ## What every transaction respects -/

def attemptView (s : Store) (id : String) : Option Attempt := s.attempts.get? id

def attemptRev : Option Attempt → WithBot Int
  | none => ⊥
  | some a => (a.revision : WithBot Int)

def throttleView (s : Store) (key : String ×ₗ String) : Option ThrottleAttemptRecord :=
  s.throttleAttempts.get? key

def throttleRev : Option ThrottleAttemptRecord → WithBot Int
  | none => ⊥
  | some r => (r.revision : WithBot Int)

/-- The attempt has a live wait. -/
def LiveOn (s : Store) (id : String) : Prop := ∃ w ∈ s.taskWaits.rows, w.live = true ∧
    w.attemptID = id

/-- Between two states: attempts and throttle records change only under a higher revision, finished
attempts and audit events do not, and a wait becomes live only under a higher revision too. -/
structure Fenced (s s' : Store) : Prop where
  attempts : Raises attemptView attemptRev s s'
  finished : ∀ id a, s.attempts.get? id = some a → a.progress.terminal = true →
    s'.attempts.get? id = some a
  live : ∀ id, s'.LiveOn id →
    s.LiveOn id ∨ attemptRev (s.attemptView id) < attemptRev (s'.attemptView id)
  throttle : Raises throttleView throttleRev s s'
  events : ∀ id e, s.auditEvents.get? id = some e → s'.auditEvents.get? id = some e

theorem Fenced.refl (s : Store) : Fenced s s :=
  ⟨Raises.refl s, fun _ _ h _ => h, fun _ h => .inl h, Raises.refl s, fun _ _ h => h⟩

theorem Fenced.trans {s₁ s₂ s₃ : Store} (h : Fenced s₁ s₂) (h' : Fenced s₂ s₃) : Fenced s₁ s₃ := by
  refine ⟨h.attempts.trans h'.attempts, fun id a ha hterminal => ?_, fun id hlive => ?_,
    h.throttle.trans h'.throttle, fun id e he => h'.events id e (h.events id e he)⟩
  · exact h'.finished id a (h.finished id a ha hterminal) hterminal
  · rcases h'.live id hlive with hlive | hlt
    · rcases h.live id hlive with hlive | hlt
      · exact .inl hlive
      · exact .inr (lt_of_lt_of_le hlt (h'.attempts.le id))
    · exact .inr (lt_of_le_of_lt (h.attempts.le id) hlt)

theorem Fenced.of_attempts_eq (hattempts : s'.attempts = s.attempts)
    (hlive : ∀ id, s'.LiveOn id → s.LiveOn id) (hthrottle : s'.throttleAttempts = s.throttleAttempts)
    (hevents : s'.auditEvents = s.auditEvents) : Fenced s s' := by
  refine ⟨fun id => .inl ?_, fun id a ha _ => by rw [hattempts, ha], fun id h => .inl (hlive id h),
    fun key => .inl ?_, fun id e he => by rw [hevents, he]⟩
  · rw [attemptView, attemptView, hattempts]
  · rw [throttleView, throttleView, hthrottle]

/-- A transaction that writes one unfinished attempt at the next revision, and makes waits live of
that attempt only. -/
theorem Fenced.of_put {a next : Attempt} (ha : s.attempts.get? next.id = some a)
    (hopen : a.progress.terminal = false) (hrevision : next.revision = a.revision + 1)
    (hattempts : s'.attempts = s.attempts.put next)
    (hlive : ∀ id, s'.LiveOn id → s.LiveOn id ∨ id = next.id)
    (hthrottle : s'.throttleAttempts = s.throttleAttempts)
    (hevents : s'.auditEvents = s.auditEvents) : Fenced s s' := by
  have hraised : attemptRev (s.attemptView next.id) < attemptRev (s'.attemptView next.id) := by
    simp only [attemptView, hattempts, get?_put_self, ha, attemptRev, WithBot.coe_lt_coe]
    omega
  refine ⟨fun id => ?_, fun id b hb hterminal => ?_, fun id h => ?_, fun key => .inl ?_,
    fun id e he => by rw [hevents, he]⟩
  · by_cases hid : next.id = id
    · exact .inr (hid ▸ hraised)
    · refine .inl ?_
      rw [attemptView, attemptView, hattempts, get?_put_of_ne _ hid]
  · have hid : next.id ≠ id := by
      rintro rfl
      rw [ha] at hb
      rw [← some.inj hb, hopen] at hterminal
      cases hterminal
    rw [hattempts, get?_put_of_ne _ hid, hb]
  · rcases hlive id h with h | rfl
    · exact .inl h
    · exact .inr hraised
  · rw [throttleView, throttleView, hthrottle]

/-! ## The wait transactions -/

section

variable {now : Time}

variable {wait : TaskWait} {id : String} {wakes : List TaskWaitWakeContext}

theorem registerTaskWait_fenced {obs : WaitObservers} {request : TaskWaitRegistration}
    (h : s.registerTaskWait obs request now = .ok (s', wait)) : Fenced s s' := by
  rcases registerTaskWait_ok h with ⟨rfl, -⟩ | ⟨-, hparks⟩
  · exact Fenced.refl s'
  · obtain ⟨attempt, wait, at', hget, hopen, -, -, hof, -, -, rfl⟩ := hparks.writes
    have hid : attempt.id = request.attemptID := key_of_get? hget
    have hget' : s.attempts.get? (parkedAttempt attempt wait.id at').id = some attempt := by
      change s.attempts.get? attempt.id = some attempt
      rw [hid, hget]
    refine Fenced.of_put hget' hopen rfl rfl (fun id hlive => ?_) rfl rfl
    obtain ⟨w, hw, hlive, hwid⟩ := hlive
    rcases mem_put_iff.1 hw with rfl | ⟨hw, -⟩
    · exact .inr (hwid.symm.trans (hof.trans hid.symm))
    · exact .inl ⟨w, hw, hlive, hwid⟩

theorem settleTaskWait_fenced {result : TaskWaitResult}
    (h : s.settleTaskWait id result now = .ok (s', wait)) : Fenced s s' := by
  obtain ⟨hattempts, ws, f, hws, hwaits⟩ := settleTaskWait_ok h
  have hframe : s'.throttleAttempts = s.throttleAttempts ∧ s'.auditEvents = s.auditEvents := by
    replace h := past_guard h
    split at h
    · cases h
    · replace h := past_guard h
      replace h := past_guard h
      unfold settleTaskWaitTx at h
      split_ifs at h <;> (obtain ⟨rfl, -⟩ := Prod.mk.inj (Except.ok.inj h); exact ⟨rfl, rfl⟩)
  refine Fenced.of_attempts_eq hattempts (fun id hlive => ?_) hframe.1 hframe.2
  obtain ⟨u, hu, hlive, huid⟩ := hlive
  rw [hwaits] at hu
  rcases mem_putAll hu with hu | ⟨hu, -⟩
  · obtain ⟨w, hw, rfl⟩ := mem_map.1 hu
    obtain ⟨hmem, hwlive, hfrom, -⟩ := hws w hw
    exact ⟨w, hmem, hwlive, hfrom.attemptID.symm.trans huid⟩
  · exact ⟨u, hu, hlive, huid⟩

variable {cutoffs : TaskWakeCutoffs} {c : WakeCandidate} {wake : Option TaskWaitWakeContext}

theorem wakeCandidate_fenced (hready : ∀ w ∈ c.ready, w.live = false)
    (h : s.wakeCandidate cutoffs now c = .ok (s', wake)) : Fenced s s' := by
  obtain ⟨R, hset, hsame⟩ := wakeCandidate_set h
  have hlive : ∀ id, s'.LiveOn id → s.LiveOn id := by
    rintro id ⟨u, hu, hlive, hid⟩
    rcases hset.waits with ⟨hwaits, -⟩ | ⟨f, hf, hwaits⟩
    · exact ⟨u, hwaits ▸ hu, hlive, hid⟩
    · rw [hwaits] at hu
      rcases mem_putAll hu with hu | ⟨hu, -⟩
      · obtain ⟨w, hw, rfl⟩ := mem_map.1 hu
        have hsettled := hready w hw
        rw [TaskWait.live, ← (hsame w _ (hf w hw)).settledAt, ← TaskWait.live, hlive] at hsettled
        cases hsettled
      · exact ⟨u, hu, hlive, hid⟩
  obtain ⟨attempt, hget, ⟨-, hleaves⟩ | hwakes⟩ := wakeCandidate_ok h
  · exact Fenced.of_attempts_eq hleaves.attempts hlive hset.throttleAttempts hset.auditEvents
  · rcases hwakes.attempts with ⟨-, hsame⟩ | ⟨next, hnext, hput⟩
    · exact Fenced.of_attempts_eq hsame hlive hset.throttleAttempts hset.auditEvents
    · have hid : next.id = c.attemptID := hnext.id.trans (key_of_get? hget)
      refine Fenced.of_put (hid ▸ hget) ?_ hnext.revision hput (fun id h => .inl (hlive id h))
        hset.throttleAttempts hset.auditEvents
      rw [hnext.parked]
      rfl

theorem wakeAll_fenced {cs : List WakeCandidate} (hready : ∀ c ∈ cs, ∀ w ∈ c.ready, w.live = false)
    (h : wakeAll cutoffs now s cs = .ok (s', wakes)) : Fenced s s' := by
  induction cs generalizing s wakes with
  | nil =>
    obtain ⟨rfl, -⟩ := Prod.mk.inj (Except.ok.inj h)
    exact Fenced.refl s
  | cons c cs ih =>
    obtain ⟨⟨mid, wake⟩, hfirst, h⟩ := of_bind h
    obtain ⟨⟨final, rest⟩, hrest, h⟩ := of_bind h
    cases h
    exact (wakeCandidate_fenced (hready c (.head _)) hfirst).trans
      (ih (fun d hd => hready d (.tail _ hd)) hrest)

theorem wakeTaskWaitsBefore_fenced (h : s.wakeTaskWaitsBefore now cutoffs = .ok (s', wakes)) :
    Fenced s s' := by
  replace h := past_guard h
  refine wakeAll_fenced (fun c hc w hw => ?_) h
  have hready := ((mem_taskWaitWakeSet (mem_wakeCandidates hc)).1 hw).2
  simp only [TaskWait.ready, TaskWait.settled, Bool.and_eq_true] at hready
  simpa [TaskWait.live] using hready.1

end

/-! ## A commit -/

section

variable {ts : List TurnOutcomeTransition}

theorem Committed.get?_attempt (h : Committed ts s s')
    (hdistinct : (ts.map fun t => t.attempt.id).Nodup) :
    (∀ t ∈ ts, s'.attempts.get? t.attempt.id = some t.attempt) ∧
      ∀ id, (∀ t ∈ ts, t.attempt.id ≠ id) → s'.attempts.get? id = s.attempts.get? id := by
  rw [h.attempts]
  constructor
  · intro t ht
    refine get?_putAll_of_mem (mem_map_of_mem ht) fun a ha hid => ?_
    obtain ⟨u, hu, rfl⟩ := mem_map.1 ha
    rw [inj_on_of_nodup_map hdistinct hu ht hid]
  · intro id hid
    refine get?_putAll_of_ne fun a ha => ?_
    obtain ⟨t, ht, rfl⟩ := mem_map.1 ha
    exact hid t ht

theorem Committed.get?_throttle (h : Committed ts s s')
    (hdistinct : (ts.map fun t => t.attempt.id).Nodup) (hchecked : ∀ t ∈ ts, Checked t) :
    (∀ t ∈ ts, ∀ r ∈ t.throttle, s'.throttleAttempts.get? r.record.key = some r.record) ∧
      ∀ key, (∀ t ∈ ts, ∀ r ∈ t.throttle, r.record.key ≠ key) →
        s'.throttleAttempts.get? key = s.throttleAttempts.get? key := by
  have hmem : ∀ record, record ∈ ts.flatMap (fun t => (t.throttle.map (·.record)).toList) ↔
      ∃ t ∈ ts, ∃ r ∈ t.throttle, r.record = record := by
    simp
  rw [h.throttle]
  constructor
  · intro t ht r hr
    refine get?_putAll_of_mem ((hmem _).2 ⟨t, ht, r, hr, rfl⟩) fun record hrecord hkey => ?_
    obtain ⟨u, hu, r', hr', rfl⟩ := (hmem record).1 hrecord
    have hattempt : r'.record.attemptID = r.record.attemptID :=
      congrArg (fun k : String ×ₗ String => (ofLex k).2) hkey
    rw [(hchecked u hu).throttle r' hr', (hchecked t ht).throttle r hr] at hattempt
    obtain rfl := inj_on_of_nodup_map hdistinct hu ht hattempt
    rw [mem_unique hr' hr]
  · intro key hkey
    refine get?_putAll_of_ne fun record hrecord => ?_
    obtain ⟨t, ht, r, hr, rfl⟩ := (hmem record).1 hrecord
    exact hkey t ht r hr

theorem commitTurnOutcomeTransitions_fenced
    (hopen : ∀ t ∈ ts, ∀ a, s.attempts.get? t.attempt.id = some a →
      a.revision = t.expectedAttemptRevision → a.progress.terminal = false)
    (hthrottle : ∀ t ∈ ts, ∀ r ∈ t.throttle, r.record.revision = r.expectedRevision + 1)
    (h : s.commitTurnOutcomeTransitions ts = .ok s') : Fenced s s' := by
  obtain ⟨sorted, hmem, hdistinct, hall, hcommitted⟩ := commitTurnOutcomeTransitions_ok h
  have hchecked : ∀ t ∈ sorted, Checked t := fun t ht => (hall t ht).1
  obtain ⟨hwritten, hother⟩ := hcommitted.get?_attempt hdistinct
  obtain ⟨hrecord, hrecords⟩ := hcommitted.get?_throttle hdistinct hchecked
  refine ⟨fun id => ?_, fun id a ha hterminal => ?_, fun id hlive => .inl ?_, fun key => ?_,
    hcommitted.kept⟩
  · by_cases hid : ∃ t ∈ sorted, t.attempt.id = id
    · obtain ⟨t, ht, rfl⟩ := hid
      obtain ⟨existing, hexisting, rfl | hrevision⟩ := (hall t ht).2.attempt
      · exact .inl ((hwritten t ht).trans hexisting.symm)
      · refine .inr ?_
        have hnext := (hchecked t ht).revision
        simp only [attemptView, hwritten t ht, hexisting, attemptRev, WithBot.coe_lt_coe]
        omega
    · exact .inl (hother id fun t ht heq => hid ⟨t, ht, heq⟩)
  · by_cases hid : ∃ t ∈ sorted, t.attempt.id = id
    · obtain ⟨t, ht, rfl⟩ := hid
      obtain ⟨existing, hexisting, rfl | hrevision⟩ := (hall t ht).2.attempt
      · rw [hwritten t ht, ← hexisting, ha]
      · have hunfinished := hopen t ((hmem t).1 ht) existing hexisting hrevision
        rw [hexisting] at ha
        rw [some.inj ha, hterminal] at hunfinished
        cases hunfinished
    · rw [hother id fun t ht heq => hid ⟨t, ht, heq⟩, ha]
  · unfold LiveOn at hlive ⊢
    rwa [hcommitted.taskWaits] at hlive
  · by_cases hkey : ∃ t ∈ sorted, ∃ r ∈ t.throttle, r.record.key = key
    · obtain ⟨t, ht, r, hr, rfl⟩ := hkey
      cases hexisting : s.throttleAttempts.get? r.record.key with
      | none =>
        refine .inr ?_
        simp only [throttleView, hrecord t ht r hr, hexisting, throttleRev]
        exact WithBot.bot_lt_coe _
      | some existing =>
        rcases (hall t ht).2.throttle r hr existing hexisting with rfl | hrevision
        · exact .inl ((hrecord t ht r hr).trans hexisting.symm)
        · refine .inr ?_
          have hnext := hthrottle t ((hmem t).1 ht) r hr
          simp only [throttleView, hrecord t ht r hr, hexisting, throttleRev, WithBot.coe_lt_coe]
          omega
    · exact .inl (hrecords key fun t ht r hr heq => hkey ⟨t, ht, r, hr, heq⟩)

theorem recordTaskWaitReconciliations_frame {events : List TaskWaitReconciliation}
    (h : s.recordTaskWaitReconciliations events = .ok s') :
    s'.attempts = s.attempts ∧ s'.taskWaits = s.taskWaits ∧
      s'.throttleAttempts = s.throttleAttempts ∧ s'.auditEvents = s.auditEvents := by
  unfold recordTaskWaitReconciliations at h
  induction events generalizing s with
  | nil =>
    cases h
    exact ⟨rfl, rfl, rfl, rfl⟩
  | cons event events ih =>
    rw [foldlM_cons] at h
    obtain ⟨mid, hmid, h⟩ := of_bind h
    replace hmid := past_guard hmid
    cases hmid
    obtain ⟨recorded, hrecorded⟩ := recordTaskWaitEvent_eq s event
    rw [hrecorded] at h
    have hframe := ih h
    exact hframe

end

end Store

/-! ## Calls in flight -/

/-- How far a call of `ReconcileTurnOutcomes` got, with what it read. -/
inductive TurnOutcomeCall
  | idle
  | loaded (attempts : List Attempt) (throttle : List ThrottleAttemptRecord)
  | waitsRead (attempts : List Attempt) (throttle : List ThrottleAttemptRecord)
      (liveTaskWaits : List (String × String))
  | planned (attempts : List Attempt) (throttle : List ThrottleAttemptRecord)
      (liveTaskWaits : List (String × String)) (now : Time)
      (transitions : List TurnOutcomeTransition) (refusals : List TaskWaitReconciliation)
deriving DecidableEq

/-- The store and any number of calls on their way. -/
structure OutcomeState where
  store : Store
  calls : Nat → TurnOutcomeCall

def OutcomeState.setCall (st : OutcomeState) (i : Nat) (call : TurnOutcomeCall) : OutcomeState :=
  { st with calls := fun j => if j = i then call else st.calls j }

def Store.finishTurnOutcomes (s : Store) (transitions : List TurnOutcomeTransition)
    (refusals : List TaskWaitReconciliation) : Except Err Store :=
  if refusals ≠ [] then s.recordTaskWaitReconciliations refusals
  else if transitions = [] then .ok s
  else s.commitTurnOutcomeTransitions transitions

inductive OutcomeOp
  | load (call : Nat)
  | readWaits (call : Nat)
  | plan (call : Nat) (outcomes : List TurnOutcome) (now : Time)
  | commit (call : Nat)
  | register (request : TaskWaitRegistration) (now : Time)
  | settle (id : String) (result : TaskWaitResult) (now : Time)
  | wake (now : Time) (cutoffs : TaskWakeCutoffs)

/-- One step. A call that fails ends; a transaction that fails leaves the store as it was. -/
def outcomeStep (hash : CoordinatorHash) (obs : WaitObservers) (st : OutcomeState) :
    OutcomeOp → OutcomeState
  | .load i =>
    let (attempts, throttle) := st.store.loadTurnOutcomeState
    st.setCall i (.loaded attempts throttle)
  | .readWaits i =>
    match st.calls i with
    | .loaded attempts throttle =>
      st.setCall i (.waitsRead attempts throttle st.store.liveTaskWaitAttempts)
    | _ => st
  | .plan i outcomes now =>
    match st.calls i with
    | .waitsRead attempts throttle live =>
      match planTurnOutcomesWithTaskWaits hash attempts throttle outcomes live now with
      | .ok (transitions, refusals) =>
        st.setCall i (.planned attempts throttle live now transitions refusals)
      | .error _ => st.setCall i .idle
    | _ => st
  | .commit i =>
    match st.calls i with
    | .planned _ _ _ _ transitions refusals =>
      { st.setCall i .idle with
        store := committed st.store (st.store.finishTurnOutcomes transitions refusals) }
    | _ => st
  | .register request now =>
    { st with
      store := committed st.store ((st.store.registerTaskWait obs request now).map Prod.fst) }
  | .settle id result now =>
    { st with
      store := committed st.store ((st.store.settleTaskWait id result now).map Prod.fst) }
  | .wake now cutoffs =>
    { st with
      store := committed st.store ((st.store.wakeTaskWaitsBefore now cutoffs).map Prod.fst) }

/-! ## What a call knows -/

def HoldsAttempts (s : Store) (attempts : List Attempt) : Prop :=
  ∀ id, Held attemptView attemptRev s id (attempts.find? fun a => a.id = id)

/-- A parked attempt that is still as the call read it has a live wait only if the call saw one. -/
def KnowsLive (s : Store) (attempts : List Attempt) (live : List (String × String)) : Prop :=
  ∀ id a, attempts.find? (fun a => a.id = id) = some a → a.progress = .waitingExternal →
    s.attemptView id = some a → s.LiveOn id → live.lookup id ≠ none

def CallOk (s : Store) : TurnOutcomeCall → Prop
  | .idle => True
  | .loaded attempts _ => HoldsAttempts s attempts
  | .waitsRead attempts _ live => HoldsAttempts s attempts ∧ KnowsLive s attempts live
  | .planned attempts throttle live now transitions _ =>
    HoldsAttempts s attempts ∧ KnowsLive s attempts live ∧
      ∀ t ∈ transitions, ∃ attempt o, Records attempts throttle live now t attempt o

variable {attempts : List Attempt} {live : List (String × String)}

theorem HoldsAttempts.mono (h : HoldsAttempts s attempts) (hfenced : s.Fenced s') :
    HoldsAttempts s' attempts :=
  fun id => (h id).mono hfenced.attempts

theorem KnowsLive.mono (hholds : HoldsAttempts s attempts)
    (h : KnowsLive s attempts live) (hfenced : s.Fenced s') : KnowsLive s' attempts live := by
  intro id a hfound hparked hcurrent hlive
  have hheld := hholds id
  rw [hfound] at hheld
  -- The copy is current, so the revision did not move and no wait became live.
  have hle := hfenced.attempts.le id
  rw [hcurrent] at hle
  have hsame : some a = s.attemptView id := hheld.eq (le_antisymm hheld.le hle)
  rcases hfenced.live id hlive with hlive | hlt
  · exact h id a hfound hparked hsame.symm hlive
  · rw [← hsame, hcurrent] at hlt
    exact absurd hlt (lt_irrefl _)

variable {call : TurnOutcomeCall} {throttle : List ThrottleAttemptRecord}

theorem CallOk.mono (h : CallOk s call) (hfenced : s.Fenced s') : CallOk s' call := by
  cases call with
  | idle => trivial
  | loaded attempts throttle => exact HoldsAttempts.mono h hfenced
  | waitsRead attempts throttle live => exact ⟨h.1.mono hfenced, h.2.mono h.1 hfenced⟩
  | planned attempts throttle live now transitions refusals =>
    exact ⟨h.1.mono hfenced, h.2.1.mono h.1 hfenced, h.2.2⟩

theorem lookup_liveTaskWaitAttempts {s : Store} {id : String} {a : Attempt}
    (ha : s.attempts.get? id = some a) (hparked : a.progress = .waitingExternal)
    (hlive : s.LiveOn id) : s.liveTaskWaitAttempts.lookup id ≠ none := by
  obtain ⟨w, hw, hwlive, hid⟩ := hlive
  have hfind : (s.taskWaits.rows.find? fun w => w.live ∧ w.attemptID = id) ≠ none := by
    intro hnone
    have := find?_eq_none.1 hnone w hw
    simp [hwlive, hid] at this
  obtain ⟨wait, hwait⟩ := ne_none_iff_exists'.1 hfind
  have hmem : (id, wait.id) ∈ s.liveTaskWaitAttempts := by
    refine mem_filterMap.2 ⟨id, ?_, ?_⟩
    · exact mem_dedup.2 (mem_map.2 ⟨w, mem_filter.2 ⟨hw, hwlive⟩, hid⟩)
    · simp only [ha, hwait, hparked, if_true]
  intro hnone
  have hne := lookup_eq_none_iff.1 hnone (id, wait.id) hmem
  simp at hne

/-! ## Steps and runs -/

def StateOk (st : OutcomeState) : Prop := ∀ i, CallOk st.store (st.calls i)

theorem StateOk.setCall {st : OutcomeState} (h : StateOk st) {i : Nat}
    (hcall : CallOk st.store call) : StateOk (st.setCall i call) := by
  intro j
  unfold OutcomeState.setCall
  dsimp only
  split_ifs
  · exact hcall
  · exact h j

theorem planned_current {s : Store} {now : Time} {t : TurnOutcomeTransition} {attempt a : Attempt}
    {o : TurnOutcome} (hholds : HoldsAttempts s attempts)
    (hrecords : Records attempts throttle live now t attempt o)
    (ha : s.attempts.get? t.attempt.id = some a)
      (hrevision : a.revision = t.expectedAttemptRevision) :
    a = attempt := by
  obtain ⟨hid, hexpected, -, -⟩ := hrecords.attempt_eq
  have hheld := hholds t.attempt.id
  rw [hid, hrecords.found, ← hid] at hheld
  have hview : s.attemptView t.attempt.id = some a := ha
  have hsame := hheld.eq (by rw [hview, attemptRev, attemptRev, hrevision, hexpected])
  rw [hview] at hsame
  exact (some.inj hsame).symm

theorem finishTurnOutcomes_fenced {now : Time}
    {transitions : List TurnOutcomeTransition} {refusals : List TaskWaitReconciliation}
    (hok : CallOk s (.planned attempts throttle live now transitions refusals))
    (h : s.finishTurnOutcomes transitions refusals = .ok s') : s.Fenced s' := by
  obtain ⟨hholds, -, hplanned⟩ := hok
  unfold finishTurnOutcomes at h
  split_ifs at h
  · obtain ⟨hattempts, hwaits, hthrottle, hevents⟩ := recordTaskWaitReconciliations_frame h
    refine Fenced.of_attempts_eq hattempts (fun id hlive => ?_) hthrottle hevents
    unfold LiveOn at hlive ⊢
    rwa [hwaits] at hlive
  · cases h
    exact Fenced.refl s
  · refine commitTurnOutcomeTransitions_fenced (fun t ht a ha hrevision => ?_) (fun t ht r hr => ?_) h
    · obtain ⟨attempt, o, hrecords⟩ := hplanned t ht
      rw [planned_current hholds hrecords ha hrevision]
      exact hrecords.unfinished
    · obtain ⟨attempt, o, hrecords⟩ := hplanned t ht
      exact hrecords.throttle_revision hr

section

variable (hash : CoordinatorHash) (obs : WaitObservers) {t : TurnOutcomeTransition}
  {st : OutcomeState}

theorem outcomeStep_ok (hst : StateOk st) (op : OutcomeOp) :
    StateOk (outcomeStep hash obs st op) ∧ st.store.Fenced (outcomeStep hash obs st op).store := by
  -- A transaction keeps the calls in order if it respects the fences.
  have htransaction : ∀ {result : Except Err Store}, (∀ s', result = .ok s' → st.store.Fenced s') →
      StateOk { st with store := committed st.store result } ∧
        st.store.Fenced (committed st.store result) := by
    intro result h
    have hfenced : st.store.Fenced (committed st.store result) :=
      rel_committed Fenced.refl h
    exact ⟨fun i => (hst i).mono hfenced, hfenced⟩
  cases op with
  | load i =>
    exact ⟨hst.setCall fun id => ⟨le_rfl, fun _ => rfl⟩, Fenced.refl st.store⟩
  | readWaits i =>
    unfold outcomeStep
    dsimp only
    split
    · rename_i attempts throttle hcall
      have hholds : HoldsAttempts st.store attempts := by
        have hok := hst i
        rwa [hcall] at hok
      refine ⟨hst.setCall ⟨hholds, fun id a _ hparked hcurrent hlive => ?_⟩, Fenced.refl _⟩
      exact lookup_liveTaskWaitAttempts hcurrent hparked hlive
    · exact ⟨hst, Fenced.refl _⟩
  | plan i outcomes now =>
    unfold outcomeStep
    dsimp only
    split
    · rename_i attempts throttle live hcall
      have hok := hst i
      rw [hcall] at hok
      split
      · rename_i transitions refusals hplan
        exact ⟨hst.setCall ⟨hok.1, hok.2, planTurnOutcomesWithTaskWaits_ok hplan⟩, Fenced.refl _⟩
      · exact ⟨hst.setCall trivial, Fenced.refl _⟩
    · exact ⟨hst, Fenced.refl _⟩
  | commit i =>
    unfold outcomeStep
    dsimp only
    split
    · rename_i attempts throttle live now transitions refusals hcall
      have hok := hst i
      rw [hcall] at hok
      have hfenced : st.store.Fenced (committed st.store
          (st.store.finishTurnOutcomes transitions refusals)) :=
        rel_committed Fenced.refl fun s' h => finishTurnOutcomes_fenced hok h
      exact ⟨fun j => ((hst.setCall trivial : StateOk (st.setCall i .idle)) j).mono hfenced, hfenced⟩
    · exact ⟨hst, Fenced.refl _⟩
  | register request now =>
    refine htransaction fun s' h => ?_
    obtain ⟨wait, h⟩ := map_fst_eq_ok h
    exact registerTaskWait_fenced h
  | settle id result now =>
    refine htransaction fun s' h => ?_
    obtain ⟨wait, h⟩ := map_fst_eq_ok h
    exact settleTaskWait_fenced h
  | wake now cutoffs =>
    refine htransaction fun s' h => ?_
    obtain ⟨wakes, h⟩ := map_fst_eq_ok h
    exact wakeTaskWaitsBefore_fenced h

theorem outcomeRun_ok (hst : StateOk st) (ops : List OutcomeOp) :
    StateOk (run (outcomeStep hash obs) st ops) ∧
      st.store.Fenced (run (outcomeStep hash obs) st ops).store := by
  induction ops generalizing st with
  | nil => exact ⟨hst, Fenced.refl _⟩
  | cons op ops ih =>
    obtain ⟨hnext, hfenced⟩ := outcomeStep_ok hash obs hst op
    obtain ⟨hlast, hrest⟩ := ih hnext
    exact ⟨hlast, hfenced.trans hrest⟩

/-! ## Done markers, finished attempts and repeated outcomes -/

/-- Call `i` has planned the transition. -/
def Plans (st : OutcomeState) (i : Nat) (t : TurnOutcomeTransition) : Prop :=
  ∃ attempts throttle live now transitions refusals,
    st.calls i = .planned attempts throttle live now transitions refusals ∧ t ∈ transitions

/-- Call `i` commits the transition now. -/
def Commits (st : OutcomeState) (i : Nat) (t : TurnOutcomeTransition) : Prop :=
  ∃ attempts throttle live now transitions,
    st.calls i = .planned attempts throttle live now transitions [] ∧ t ∈ transitions ∧
      ∃ s', st.store.commitTurnOutcomeTransitions transitions = .ok s'

/-- What a transition would write is as it was. The throttle record is compared when the transition
carries the same update as the one that was committed first. -/
structure LeavesAlone (s s' : Store) (first t : TurnOutcomeTransition) : Prop where
  attempt : s'.attempts.get? t.attempt.id = s.attempts.get? t.attempt.id
  waits : s'.taskWaits = s.taskWaits
  event : s'.auditEvents.get? (turnOutcomeAuditID t.outcomeID) =
    s.auditEvents.get? (turnOutcomeAuditID t.outcomeID)
  throttle : t.throttle = first.throttle → ∀ r ∈ t.throttle,
    s'.throttleAttempts.get? r.record.key = s.throttleAttempts.get? r.record.key

theorem LeavesAlone.refl (s : Store) (first t : TurnOutcomeTransition) : LeavesAlone s s first t :=
  ⟨rfl, rfl, rfl, fun _ _ _ => rfl⟩

/-- The trace a committed transition leaves: its audit event, and revisions that never go back. -/
structure Processed (t : TurnOutcomeTransition) (s : Store) : Prop where
  event : s.auditEvents.get? (turnOutcomeAuditID t.outcomeID) = some (turnOutcomeEvent t)
  attempt : (t.attempt.revision : WithBot Int) ≤ attemptRev (s.attemptView t.attempt.id)
  throttle : ∀ r ∈ t.throttle,
    (r.record.revision : WithBot Int) ≤ throttleRev (s.throttleView r.record.key)

theorem Processed.mono (h : Processed t s) (hfenced : s.Fenced s') : Processed t s' :=
  ⟨hfenced.events _ _ h.event, le_trans h.attempt (hfenced.attempts.le _),
    fun r hr => le_trans (h.throttle r hr) (hfenced.throttle.le _)⟩

variable {transitions : List TurnOutcomeTransition} {first : TurnOutcomeTransition} {i : Nat}

theorem processed_of_commit (ht : t ∈ transitions)
    (h : s.commitTurnOutcomeTransitions transitions = .ok s') : Processed t s' := by
  obtain ⟨sorted, hmem, hdistinct, hall, hcommitted⟩ := commitTurnOutcomeTransitions_ok h
  have ht := (hmem t).2 ht
  have hattempt := (hcommitted.get?_attempt hdistinct).1 t ht
  have hthrottle := (hcommitted.get?_throttle hdistinct fun u hu => (hall u hu).1).1 t ht
  refine ⟨hcommitted.recorded t ht, ?_, fun r hr => ?_⟩
  · rw [attemptView, hattempt, attemptRev]
  · rw [throttleView, hthrottle r hr, throttleRev]

theorem turnOutcomeEvent_inj {t' : TurnOutcomeTransition}
    (h : turnOutcomeEvent t = turnOutcomeEvent t') :
    t.attempt.id = t'.attempt.id ∧ t.expectedAttemptRevision = t'.expectedAttemptRevision ∧
      t.attempt.revision = t'.attempt.revision := by
  have hdetail := AuditDetail.native.inj (congrArg AuditEvent.detail h)
  exact ⟨congrArg AuditEvent.attemptID h, congrArg NativeAuditDetail.expectedRevision hdetail,
    congrArg NativeAuditDetail.revision hdetail⟩

theorem commit_again (hfirst : Processed first s) (ht : t ∈ transitions)
    (hid : t.outcomeID = first.outcomeID)
    (hrevision : ∀ r ∈ t.throttle, r.record.revision = r.expectedRevision + 1)
    (h : s.commitTurnOutcomeTransitions transitions = .ok s') : LeavesAlone s s' first t := by
  obtain ⟨sorted, hmem, hdistinct, hall, hcommitted⟩ := commitTurnOutcomeTransitions_ok h
  have ht := (hmem t).2 ht
  have hattempt := (hcommitted.get?_attempt hdistinct).1 t ht
  have hthrottle := (hcommitted.get?_throttle hdistinct fun u hu => (hall u hu).1).1 t ht
  have hevent := hfirst.event
  rw [← hid] at hevent
  have hrecorded := hcommitted.kept _ _ hevent
  have hsame := hrecorded.symm.trans (hcommitted.recorded t ht)
  obtain ⟨hattemptID, hexpected, hnext⟩ := turnOutcomeEvent_inj (some.inj hsame)
  refine ⟨?_, hcommitted.taskWaits, hrecorded.trans hevent.symm, fun hequal r hr => ?_⟩
  · obtain ⟨existing, hexisting, rfl | hstale⟩ := (hall t ht).2.attempt
    · rw [hattempt, hexisting]
    · -- The revision passed the expected one when the outcome was processed first.
      have hle := hfirst.attempt
      rw [hattemptID, attemptView, hexisting, attemptRev, WithBot.coe_le_coe] at hle
      have hchecked := (hall t ht).1.revision
      omega
  · have hle := hfirst.throttle r (hequal ▸ hr)
    cases hexisting : s.throttleAttempts.get? r.record.key with
    | none =>
      rw [throttleView, hexisting, throttleRev] at hle
      exact absurd hle (not_le_of_gt (WithBot.bot_lt_coe _))
    | some existing =>
      rcases (hall t ht).2.throttle r hr existing hexisting with rfl | hstale
      · exact hthrottle r hr
      · rw [throttleView, hexisting, throttleRev, WithBot.coe_le_coe] at hle
        have hchecked := hrevision r hr
        omega

theorem commit_processes (h : Commits st i t) :
    Processed t (outcomeStep hash obs st (.commit i)).store := by
  obtain ⟨attempts, throttle, live, now, transitions, hcall, ht, s', hs'⟩ := h
  have hne : transitions ≠ [] := ne_nil_of_mem ht
  simp only [outcomeStep, hcall, finishTurnOutcomes, ne_eq, not_true_eq_false, if_false, hne, hs',
    committed]
  exact processed_of_commit ht hs'

theorem commit_repeats (hst : StateOk st) {j : Nat} (hfirst : Processed first st.store)
    (h : Plans st j t) (hid : t.outcomeID = first.outcomeID) :
    LeavesAlone st.store (outcomeStep hash obs st (.commit j)).store first t := by
  obtain ⟨attempts, throttle, live, now, transitions, refusals, hcall, ht⟩ := h
  have hok := hst j
  rw [hcall] at hok
  obtain ⟨attempt, o, hrecords⟩ := hok.2.2 t ht
  simp only [outcomeStep, hcall]
  refine rel_committed (R := fun s s' => Processed first s → LeavesAlone s s' first t)
    (fun s _ => LeavesAlone.refl s first t) (fun s' hs' hfirst => ?_) hfirst
  unfold finishTurnOutcomes at hs'
  split_ifs at hs'
  · obtain ⟨hattempts, hwaits, hthrottle, hevents⟩ := recordTaskWaitReconciliations_frame hs'
    exact ⟨by rw [hattempts], hwaits, by rw [hevents], fun _ _ _ => by rw [hthrottle]⟩
  · cases hs'
    exact LeavesAlone.refl _ first t
  · exact commit_again hfirst ht hid (fun r hr => hrecords.throttle_revision hr) hs'

theorem commit_respects_park (hst : StateOk st) {id : String} {a b : Attempt}
    (ha : st.store.attempts.get? id = some a) (hparked : a.progress = .waitingExternal)
    (hlive : st.store.LiveOn id)
    (hb : (outcomeStep hash obs st (.commit i)).store.attempts.get? id = some b) :
    b.progress.terminal = false := by
  have hopen : a.progress.terminal = false := by
    rw [hparked]
    rfl
  have hunchanged : ∀ {s' : Store}, s'.attempts = st.store.attempts →
      s'.attempts.get? id = some b → b.progress.terminal = false := by
    intro s' hsame hb
    rw [hsame, ha] at hb
    rw [← some.inj hb, hopen]
  unfold outcomeStep at hb
  dsimp only at hb
  split at hb
  · rename_i attempts throttle live now transitions refusals hcall
    have hok := hst i
    rw [hcall] at hok
    obtain ⟨hholds, hknows, hplanned⟩ := hok
    cases hfinish : st.store.finishTurnOutcomes transitions refusals with
    | error e =>
      rw [hfinish] at hb
      exact hunchanged rfl hb
    | ok s' =>
      rw [hfinish] at hb
      change s'.attempts.get? id = some b at hb
      unfold finishTurnOutcomes at hfinish
      split_ifs at hfinish
      · exact hunchanged (recordTaskWaitReconciliations_frame hfinish).1 hb
      · cases hfinish
        exact hunchanged rfl hb
      · obtain ⟨sorted, hmem, hdistinct, hall, hcommitted⟩ :=
          commitTurnOutcomeTransitions_ok hfinish
        obtain ⟨hwritten, hother⟩ := hcommitted.get?_attempt hdistinct
        by_cases hmine : ∃ t ∈ sorted, t.attempt.id = id
        · obtain ⟨t, ht, rfl⟩ := hmine
          obtain ⟨attempt, o, hrecords⟩ := hplanned t ((hmem t).1 ht)
          obtain ⟨hid, -, -, hdone⟩ := hrecords.attempt_eq
          have hbt : t.attempt = b := some.inj ((hwritten t ht).symm.trans hb)
          obtain ⟨existing, hexisting, hcase⟩ := (hall t ht).2.attempt
          cases ha.symm.trans hexisting
          rcases hcase with hreplay | hrevision
          · rw [← hbt, ← hreplay, hopen]
          · -- The row is the one the plan read, and the plan saw its live wait.
            by_contra hfinished
            rw [Bool.not_eq_false, ← hbt] at hfinished
            have hcurrent := planned_current hholds hrecords ha hrevision
            have hsaw := hknows t.attempt.id a (by rw [hid, hrecords.found, hcurrent]) hparked ha
              hlive
            exact hsaw (hid ▸ hrecords.free (hdone hfinished))
        · rw [hother id fun t ht heq => hmine ⟨t, ht, heq⟩, ha] at hb
          rw [← some.inj hb, hopen]
  · exact hunchanged rfl hb

/-- In every interleaving with wait transactions, from any store: no commit finishes an attempt
parked on a live wait, a finished attempt never changes, and a commit that carries a committed
outcome again leaves what it wrote alone. -/
theorem no_done_marker_finishes_a_parked_attempt (s : Store) (ops : List OutcomeOp) :
    (∀ before i after, ops = before ++ .commit i :: after → ∀ id a b,
      (Runs.run (outcomeStep hash obs) ⟨s, fun _ => .idle⟩ before).store.attempts.get? id = some a →
      a.progress = .waitingExternal →
      (Runs.run (outcomeStep hash obs) ⟨s, fun _ => .idle⟩ before).store.LiveOn id →
      (Runs.run (outcomeStep hash obs) ⟨s, fun _ => .idle⟩
        (before ++ [.commit i])).store.attempts.get? id = some b →
      b.progress.terminal = false) ∧
    Runs.Throughout (outcomeStep hash obs)
      (fun st st' => ∀ id a, st.store.attempts.get? id = some a → a.progress.terminal = true →
        st'.store.attempts.get? id = some a) ⟨s, fun _ => .idle⟩ ops ∧
    ∀ before i between j after first t, ops = before ++ .commit i :: between ++ .commit j :: after →
      Commits (Runs.run (outcomeStep hash obs) ⟨s, fun _ => .idle⟩ before) i first →
      Plans (Runs.run (outcomeStep hash obs) ⟨s, fun _ => .idle⟩ (before ++ .commit i :: between)) j t →
      t.outcomeID = first.outcomeID →
      LeavesAlone (Runs.run (outcomeStep hash obs) ⟨s, fun _ => .idle⟩
        (before ++ .commit i :: between)).store (Runs.run (outcomeStep hash obs) ⟨s, fun _ => .idle⟩
          (before ++ .commit i :: between ++ [.commit j])).store first t := by
  have hstart : StateOk ⟨s, fun _ => .idle⟩ := fun _ => trivial
  have hreach := fun ops => (outcomeRun_ok hash obs hstart ops).1
  refine ⟨fun before i after _ id a b ha hparked hlive hb => ?_, fun before later rest _ => ?_,
    fun before i between j after first t _ hcommits hplans hid => ?_⟩
  · rw [run_append] at hb
    exact commit_respects_park hash obs (hreach before) ha hparked hlive hb
  · rw [run_append]
    exact (outcomeRun_ok hash obs (hreach before) later).2.finished
  · have hprocessed := commit_processes hash obs hcommits
    have hnext := (outcomeStep_ok hash obs (hreach before) (.commit i)).1
    have hbetween := (outcomeRun_ok hash obs hnext between).2
    have hsplit : run (outcomeStep hash obs) ⟨s, fun _ => .idle⟩ (before ++ .commit i :: between) =
        run (outcomeStep hash obs) (outcomeStep hash obs
          (run (outcomeStep hash obs) ⟨s, fun _ => .idle⟩ before) (.commit i)) between := by
      rw [run_append]
      rfl
    rw [run_append _ (before ++ .commit i :: between) [.commit j]]
    refine commit_repeats hash obs (hreach _) ?_ hplans hid
    rw [hsplit]
    exact hprocessed.mono hbetween

end

/-! ## A finished turn and a park -/

def runningStore : Store :=
  { waitingRecords "" with attempts := Table.ofList _ [waitingAttempt] }

def finishedTurn : TurnOutcome :=
  { id := "o", attemptID := "a", marker := .done, verificationPassed := true, observedAt := 5 }

def parkRequest : TaskWaitRegistration :=
  { requestID := "q", workflowRunID := "r", taskID := "t", attemptID := "a", threadID := "h"
    wake := .each, maxDuration := 10 }

def readAndPlan (i : Nat) : List OutcomeOp :=
  [.load i, .readWaits i, .plan i [finishedTurn] 6]

def finishedTransition : TurnOutcomeTransition := outcomeTransition waitingAttempt finishedTurn none 6

/-- The state a sequence of steps leaves. -/
abbrev outcomeRun (ops : List OutcomeOp) : OutcomeState :=
  run (outcomeStep zeroHash localObservers) ⟨runningStore, fun _ => .idle⟩ ops

def parkBeforeCommit : List OutcomeOp := readAndPlan 0 ++ [.register parkRequest 5]

def plannedTwice : List OutcomeOp := readAndPlan 0 ++ readAndPlan 1

def refusedWhileParked : List OutcomeOp := .register parkRequest 5 :: readAndPlan 0 ++ [.commit 0]

def plannedAfterWake : List OutcomeOp :=
  refusedWhileParked ++ [.settle "tw-q" { outcome := .met } 7, .wake 8 {}] ++ readAndPlan 0

theorem outcomeRun_states : ((outcomeRun parkBeforeCommit).store.attempts.get? "a").map
        Attempt.progress = some .waitingExternal ∧
      ((outcomeRun parkBeforeCommit).store.taskWaits.rows.any fun w => w.live ∧ w.attemptID = "a") = true ∧
      ((outcomeRun (parkBeforeCommit ++ [.commit 0])).store.attempts.get? "a").isSome = true ∧
      (outcomeRun plannedTwice).calls 0 = .planned [waitingAttempt] [] [] 6 [finishedTransition] [] ∧
      ((outcomeRun plannedTwice).store.commitTurnOutcomeTransitions
        [finishedTransition]).toOption.map (fun _ => ()) = some () ∧
      (outcomeRun (plannedTwice ++ [.commit 0])).calls 1 =
        .planned [waitingAttempt] [] [] 6 [finishedTransition] [] ∧
      (outcomeRun (plannedTwice ++ [.commit 0])).store.attempts.get? "a" =
        some finishedTransition.attempt := by
  decide +kernel

/-- A `done` planned before the park does not finish the attempt; one that is committed twice
finishes it once, and the second commit changes nothing. -/
theorem park_and_repeat_are_respected :
    (∃ b, (outcomeRun (parkBeforeCommit ++ [.commit 0])).store.attempts.get? "a" = some b ∧
      b.progress.terminal = false) ∧
    (outcomeRun (plannedTwice ++ [.commit 0] ++ [.commit 1])).store.attempts.get? "a" =
      some finishedTransition.attempt ∧
    LeavesAlone (outcomeRun (plannedTwice ++ [.commit 0])).store
      (outcomeRun (plannedTwice ++ [.commit 0] ++ [.commit 1])).store finishedTransition
      finishedTransition := by
  obtain ⟨hprogress, hlive, hafter, hcall, haccepted, hcall', hfinished⟩ := outcomeRun_states
  refine ⟨?_, ?_, ?_⟩
  · obtain ⟨a, ha, hparked⟩ := map_eq_some_iff.1 hprogress
    obtain ⟨b, hb⟩ := isSome_iff_exists.1 hafter
    refine ⟨b, hb, ?_⟩
    refine (no_done_marker_finishes_a_parked_attempt zeroHash localObservers runningStore
      (parkBeforeCommit ++ [.commit 0])).1 parkBeforeCommit 0 [] rfl "a" a b ha hparked ?_ hb
    obtain ⟨w, hw, hlive⟩ := any_eq_true.1 hlive
    exact ⟨w, hw, of_decide_eq_true hlive⟩
  · have hkeeps := (no_done_marker_finishes_a_parked_attempt zeroHash localObservers runningStore
      (plannedTwice ++ [.commit 0] ++ [.commit 1])).2.1 (plannedTwice ++ [.commit 0]) [.commit 1] []
      (append_nil _).symm
    have hterminal : finishedTransition.attempt.progress.terminal = true := by decide
    exact hkeeps "a" finishedTransition.attempt hfinished hterminal
  · refine (no_done_marker_finishes_a_parked_attempt zeroHash localObservers runningStore
      (plannedTwice ++ .commit 0 :: [] ++ .commit 1 :: [])).2.2 plannedTwice 0 [] 1 []
      finishedTransition finishedTransition rfl ⟨_, _, _, _, _, hcall, mem_singleton_self _, ?_⟩
      ⟨_, _, _, _, _, _, hcall', mem_singleton_self _⟩ rfl
    obtain ⟨s', h, -⟩ := of_toOption haccepted
    exact ⟨s', h⟩

/-- A refused outcome that comes again after the wake is applied: the first processing recorded the
refusal, the second one finishes the attempt. -/
theorem refused_outcome_is_applied_after_wake :
    ((outcomeRun refusedWhileParked).store.taskWaitEvents.get?
        (stableCoordinatorID zeroHash "reconciliation" finishedTurn.id)).map
        (fun e => (e.kind, e.attemptID)) = some (.doneWhileWaiting, "a") ∧
      ((outcomeRun plannedAfterWake).store.attempts.get? "a").map
        (fun a => (a.progress, a.lastTurnOutcomeID)) = some (.active, "") ∧
      ((outcomeRun (plannedAfterWake ++ [.commit 0])).store.attempts.get? "a").map
        (fun a => (a.progress, a.lastTurnOutcomeID)) = some (.succeeded, finishedTurn.id) := by
  decide +kernel

end Steward
