import Steward.Store.AskAnswers
import Steward.Store.TaskWakes

/-!
# Task-bound waits over whole runs

Registrations, settlements, expiries, answers and wake passes in any order, from an empty store,
beside transactions that write other records. The parked state lives on the attempt, liveness and
the wake marks on its waits; a parked attempt has a wait that was not woken.
-/

namespace Steward

open Except Table Runs List

variable {s : Store}

namespace Store

/-! ## A pass, one attempt at a time -/

structure SameView (s s' : Store) (id : String) : Prop where
  attempt : s'.attempts.get? id = s.attempts.get? id
  waits : ∀ w, w.attemptID = id → (w ∈ s'.taskWaits.rows ↔ w ∈ s.taskWaits.rows)

theorem SameView.refl (s : Store) (id : String) : SameView s s id := ⟨rfl, fun _ _ => Iff.rfl⟩

variable {w w' : TaskWait} {id : String}

theorem SameView.trans {s₁ s₂ s₃ : Store} (h : SameView s₁ s₂ id) (h' : SameView s₂ s₃ id) :
    SameView s₁ s₃ id :=
  ⟨h'.attempt.trans h.attempt, fun w hw => (h'.waits w hw).trans (h.waits w hw)⟩

def Loaded (s : Store) (c : WakeCandidate) : Prop :=
  ∀ w, w ∈ c.ready ↔ w ∈ s.taskWaits.rows ∧ w.attemptID = c.attemptID ∧ w.ready = true

variable {s' : Store} {c : WakeCandidate}

theorem Loaded.of_sameView (h : Loaded s c) (hview : SameView s s' c.attemptID) : Loaded s' c := by
  intro w
  rw [h w]
  constructor
  · rintro ⟨hw, hid, hready⟩
    exact ⟨(hview.waits w hid).2 hw, hid, hready⟩
  · rintro ⟨hw, hid, hready⟩
    exact ⟨(hview.waits w hid).1 hw, hid, hready⟩

section

variable {cutoffs : TaskWakeCutoffs} {now : Time}

structure SameWait (w w' : TaskWait) : Prop where
  id : w'.id = w.id
  requestID : w'.requestID = w.requestID
  attemptID : w'.attemptID = w.attemptID
  settledAt : w'.settledAt = w.settledAt
  result : w'.result = w.result

/-- A pass rewrites the rows of the wake set and leaves the settlement of each. -/
theorem wakeCandidate_set {wake : Option TaskWaitWakeContext}
    (h : s.wakeCandidate cutoffs now c = .ok (s', wake)) :
    ∃ R, RewritesSet c R s s' ∧ ∀ w w', R w w' → SameWait w w' := by
  obtain ⟨attempt, -, ⟨-, hleaves⟩ | hwakes⟩ := wakeCandidate_ok h
  · refine ⟨_, hleaves.toRewritesSet, ?_⟩
    rintro w _ ⟨deferral, rfl, -⟩
    exact ⟨rfl, rfl, rfl, rfl, rfl⟩
  · obtain ⟨marked, delivery, -, hset⟩ := hwakes.rows
    refine ⟨_, hset, ?_⟩
    rintro w _ ⟨resumption, deferral, rfl⟩
    exact ⟨rfl, rfl, rfl, rfl, rfl⟩

theorem RewritesSet.paired {R : TaskWait → TaskWait → Prop} (h : RewritesSet c R s s')
    (hloaded : Loaded s c) (hid : ∀ w w', R w w' → w'.id = w.id) :
    Paired (fun w w' => w ∈ c.ready ∧ R w w' ∨ w ∉ c.ready ∧ w' = w) s.taskWaits s'.taskWaits := by
  rcases h.waits with ⟨hsame, hrefl⟩ | ⟨f, hf, hwaits⟩
  · rw [hsame]
    exact Paired.refl fun w _ => (em (w ∈ c.ready)).imp (⟨·, hrefl w⟩) (⟨·, rfl⟩)
  · rw [hwaits]
    refine (Paired.of_putAll (fun w hw => ((hloaded w).1 hw).1) fun w hw => hid _ _ (hf w hw)).mono ?_
    rintro w - w' - (⟨hin, rfl⟩ | hout)
    · exact .inl ⟨hin, hf w hin⟩
    · exact .inr hout

theorem wakeCandidate_frame (hloaded : Loaded s c) {wake : Option TaskWaitWakeContext}
    (h : s.wakeCandidate cutoffs now c = .ok (s', wake)) {id : String} (hne : id ≠ c.attemptID) :
    SameView s s' id := by
  obtain ⟨R, hset, hsame⟩ := wakeCandidate_set h
  have hpaired := hset.paired hloaded fun w w' hw => (hsame w w' hw).id
  refine ⟨?_, fun w hw => ⟨fun hmem => ?_, fun hmem => ?_⟩⟩
  · obtain ⟨attempt, hattempt, ⟨-, hleaves⟩ | hwakes⟩ := wakeCandidate_ok h
    · rw [hleaves.attempts]
    · rcases hwakes.attempts with ⟨-, hsame⟩ | ⟨next, hnext, hput⟩
      · rw [hsame]
      · have hid : next.id = c.attemptID := hnext.id.trans (key_of_get? hattempt)
        rw [hput, get?_put_of_ne _ (by rw [hid]; exact hne.symm)]
  · obtain ⟨v, hv, -, ⟨hin, hrow⟩ | ⟨-, rfl⟩⟩ := hpaired.backward w hmem
    · exact absurd (hw.symm.trans ((hsame v w hrow).attemptID.trans ((hloaded v).1 hin).2.1)) hne
    · exact hv
  · obtain ⟨v, hv, -, ⟨hin, -⟩ | ⟨-, rfl⟩⟩ := hpaired.forward w hmem
    · exact absurd (hw.symm.trans ((hloaded w).1 hin).2.1) hne
    · exact hv

theorem wakeAll_ok {cs : List WakeCandidate} {wakes : List TaskWaitWakeContext}
    (hdistinct : (cs.map WakeCandidate.attemptID).Nodup) (hloaded : ∀ c ∈ cs, Loaded s c)
    (h : wakeAll cutoffs now s cs = .ok (s', wakes)) (id : String) :
    ((∀ c ∈ cs, c.attemptID ≠ id) → SameView s s' id) ∧
    ∀ c ∈ cs, c.attemptID = id → ∃ before after wake, SameView s before id ∧
      before.wakeCandidate cutoffs now c = .ok (after, wake) ∧ SameView after s' id := by
  induction cs generalizing s wakes with
  | nil =>
    obtain ⟨rfl, -⟩ := Prod.mk.inj (Except.ok.inj h)
    exact ⟨fun _ => SameView.refl s id, by simp⟩
  | cons c cs ih =>
    obtain ⟨⟨mid, wake⟩, hfirst, h⟩ := of_bind h
    obtain ⟨⟨final, rest⟩, hrest, h⟩ := of_bind h
    cases h
    obtain ⟨hnotin, hdistinct⟩ := nodup_cons.1 hdistinct
    have hc := hloaded c (.head _)
    have hother : ∀ d ∈ cs, d.attemptID ≠ c.attemptID := by
      rintro d hd heq
      exact hnotin (heq ▸ mem_map_of_mem hd)
    have hmid : ∀ d ∈ cs, Loaded mid d := fun d hd =>
      (hloaded d (.tail _ hd)).of_sameView (wakeCandidate_frame hc hfirst (hother d hd))
    obtain ⟨hframe, hown⟩ := ih hdistinct hmid hrest
    constructor
    · intro hall
      have hne : id ≠ c.attemptID := (hall c (.head _)).symm
      exact (wakeCandidate_frame hc hfirst hne).trans (hframe fun d hd => hall d (.tail _ hd))
    · rintro d hd rfl
      rcases mem_cons.1 hd with rfl | hd
      · exact ⟨s, mid, wake, SameView.refl s _, hfirst, hframe hother⟩
      · obtain ⟨before, after, w, hbefore, hstep, hafter⟩ := hown d hd rfl
        have hview := wakeCandidate_frame hc hfirst (hother d hd)
        exact ⟨before, after, w, hview.trans hbefore, hstep, hafter⟩

end

/-! ## The candidates of a pass -/

theorem mem_waitsOf : w ∈ s.waitsOf id ↔ w ∈ s.taskWaits.rows ∧ w.attemptID = id := by
  simp [waitsOf]

theorem mem_wakeCandidates (h : c ∈ s.wakeCandidates) :
    taskWaitWakeSet (s.waitsOf c.attemptID) = some c.ready := by
  unfold wakeCandidates at h
  rw [mem_insertionSort, mem_filterMap] at h
  obtain ⟨id, -, h⟩ := h
  obtain ⟨ready, hready, rfl⟩ := Option.map_eq_some_iff.1 h
  exact hready

theorem wakeCandidates_loaded : ∀ c ∈ s.wakeCandidates, Loaded s c := by
  intro c hc w
  rw [mem_taskWaitWakeSet (mem_wakeCandidates hc), mem_waitsOf, and_assoc]

theorem wakeCandidates_distinct (s : Store) :
    (s.wakeCandidates.map WakeCandidate.attemptID).Nodup := by
  refine Nodup.perm (l := map _ _) ?_ ((perm_insertionSort _ _).symm.map _)
  rw [map_filterMap]
  refine (nodup_dedup _).filterMap fun a a' b hb hb' => ?_
  simp only [Option.map_map, Option.mem_def, Option.map_eq_some_iff] at hb hb'
  obtain ⟨_, _, heq⟩ := hb
  obtain ⟨_, _, heq'⟩ := hb'
  exact heq.trans heq'.symm

variable {ready : List TaskWait} {attemptID requestID : String} {wakes : List TaskWaitWakeContext}
  {a : Attempt}

theorem wakeCandidate_of_ready (h : taskWaitWakeSet (s.waitsOf id) = some ready) :
    ∃ c ∈ s.wakeCandidates, c.attemptID = id ∧ c.ready = ready := by
  obtain ⟨-, ⟨w, hw, -⟩, -⟩ := taskWaitWakeSet_eq_some_iff.1 h
  obtain ⟨hmem, hid⟩ := mem_waitsOf.1 hw
  refine ⟨{ attemptID := id, settled := earliestSettled ready, ready := ready }, ?_, rfl, rfl⟩
  unfold wakeCandidates
  rw [mem_insertionSort, mem_filterMap]
  refine ⟨id, ?_, by rw [h]; rfl⟩
  rw [mem_dedup, ← hid]
  exact mem_map_of_mem hmem

/-- The probe finds a wait exactly when some attempt has a wake set, and so when a pass has a
candidate. -/
theorem hasReadyTaskWaits_iff (s : Store) :
    (s.hasReadyTaskWaits = true ↔ ∃ id ready, taskWaitWakeSet (s.waitsOf id) = some ready ∧ ready ≠ []) ∧
      (s.hasReadyTaskWaits = true ↔ s.wakeCandidates ≠ []) := by
  have hset : s.hasReadyTaskWaits = true ↔ ∃ id ready,
    taskWaitWakeSet (s.waitsOf id) = some ready := by
    simp only [hasReadyTaskWaits, any_eq_true, decide_eq_true_eq, taskWaitWakeSet_eq_some_iff,
      exists_eq_left, mem_waitsOf, not_exists, not_and]
    constructor
    · rintro ⟨w, hw, hready, hwake⟩
      refine ⟨w.attemptID, ⟨w, ⟨hw, rfl⟩, hready⟩, ?_⟩
      rcases hwake with heach | hnone
      · exact .inr ⟨w, ⟨hw, rfl⟩, hready, heach⟩
      · exact .inl fun v hv => eq_false_of_ne_true (hnone v hv.1 hv.2)
    · rintro ⟨id, ⟨w, ⟨hw, rfl⟩, hready⟩, hnone | ⟨v, ⟨hv, -⟩, hvready, heach⟩⟩
      · exact ⟨w, hw, hready, .inr fun v hv hid => ne_true_of_eq_false (hnone v ⟨hv, hid⟩)⟩
      · exact ⟨v, hv, hvready, .inl heach⟩
  constructor
  · rw [hset]
    refine exists_congr fun id => exists_congr fun ready => (and_iff_left_of_imp fun h => ?_).symm
    obtain ⟨-, ⟨w, hw⟩, -⟩ := taskWaitWakeSet_eq_some_iff.1 h
    exact ne_nil_of_mem ((mem_taskWaitWakeSet h).2 hw)
  · rw [hset]
    constructor
    · rintro ⟨id, ready, h⟩
      obtain ⟨c, hc, -⟩ := wakeCandidate_of_ready h
      exact ne_nil_of_mem hc
    · intro hne
      obtain ⟨c, hc⟩ := exists_mem_of_ne_nil _ hne
      exact ⟨_, _, mem_wakeCandidates hc⟩

/-! ## What later transactions keep -/

/-- A wait as a later store has it: the same park, its settlement kept once it has one, and its
wake kept once it was woken. -/
structure KeepsWait (w w' : TaskWait) : Prop where
  id : w'.id = w.id
  requestID : w'.requestID = w.requestID
  attemptID : w'.attemptID = w.attemptID
  settled : w.settled = true → w'.settledAt = w.settledAt ∧ w'.result = w.result
  woken : w.woken = true →
    w'.wokenAt = w.wokenAt ∧ w'.wakeRevision = w.wakeRevision ∧ w'.deliveryID = w.deliveryID

theorem KeepsWait.refl (w : TaskWait) : KeepsWait w w :=
  ⟨rfl, rfl, rfl, fun _ => ⟨rfl, rfl⟩, fun _ => ⟨rfl, rfl, rfl⟩⟩

theorem KeepsWait.trans {w₁ w₂ w₃ : TaskWait} (h : KeepsWait w₁ w₂) (h' : KeepsWait w₂ w₃) :
    KeepsWait w₁ w₃ where
  id := h'.id.trans h.id
  requestID := h'.requestID.trans h.requestID
  attemptID := h'.attemptID.trans h.attemptID
  settled hsettled := by
    obtain ⟨hat, hresult⟩ := h.settled hsettled
    have hsettled₂ : w₂.settled = true := by rw [TaskWait.settled, hat]; exact hsettled
    obtain ⟨hat', hresult'⟩ := h'.settled hsettled₂
    exact ⟨hat'.trans hat, hresult'.trans hresult⟩
  woken hwoken := by
    obtain ⟨hat, hrevision, hdelivery⟩ := h.woken hwoken
    have hwoken₂ : w₂.woken = true := by rw [TaskWait.woken, hat]; exact hwoken
    obtain ⟨hat', hrevision', hdelivery'⟩ := h'.woken hwoken₂
    exact ⟨hat'.trans hat, hrevision'.trans hrevision, hdelivery'.trans hdelivery⟩

/-- Every wait is kept as `KeepsWait` says. -/
def KeepsWaits (s s' : Store) : Prop :=
  ∀ w ∈ s.taskWaits.rows, ∃ w' ∈ s'.taskWaits.rows, KeepsWait w w'

theorem KeepsWaits.refl (s : Store) : KeepsWaits s s := fun w hw => ⟨w, hw, KeepsWait.refl w⟩

theorem KeepsWaits.trans (s₁ s₂ s₃ : Store) (h : KeepsWaits s₁ s₂) (h' : KeepsWaits s₂ s₃) :
    KeepsWaits s₁ s₃ := by
  intro w hw
  obtain ⟨w₂, hw₂, hkeeps⟩ := h w hw
  obtain ⟨w₃, hw₃, hkeeps'⟩ := h' w₂ hw₂
  exact ⟨w₃, hw₃, hkeeps.trans hkeeps'⟩

/-- The waits are the same ones, each kept. -/
structure RewritesWaits (s s' : Store) : Prop where
  forward : ∀ w ∈ s.taskWaits.rows, ∃ w' ∈ s'.taskWaits.rows, KeepsWait w w'
  backward : ∀ w' ∈ s'.taskWaits.rows, ∃ w ∈ s.taskWaits.rows, KeepsWait w w'

theorem RewritesWaits.of_paired (h : Paired KeepsWait s.taskWaits s'.taskWaits) :
    RewritesWaits s s' where
  forward w hw := by
    obtain ⟨w', hw', -, hkeeps⟩ := h.forward w hw
    exact ⟨w', hw', hkeeps⟩
  backward w' hw' := by
    obtain ⟨w, hw, -, hkeeps⟩ := h.backward w' hw'
    exact ⟨w, hw, hkeeps⟩

theorem SettledFrom.keeps (h : SettledFrom w w') (hlive : w.live = true) : KeepsWait w w' where
  id := h.id
  requestID := h.requestID
  attemptID := h.attemptID
  settled hsettled := by
    rw [TaskWait.live, Option.isNone_iff_eq_none] at hlive
    rw [TaskWait.settled, hlive] at hsettled
    cases hsettled
  woken _ := ⟨h.wokenAt, h.wakeRevision, h.deliveryID⟩

theorem not_woken_of_ready (h : w.ready = true) : w.woken = false := by
  simp only [TaskWait.ready, Bool.and_eq_true, Bool.not_eq_true'] at h
  exact h.2

theorem SameWait.keeps (h : SameWait w w') (hready : w.ready = true) : KeepsWait w w' where
  id := h.id
  requestID := h.requestID
  attemptID := h.attemptID
  settled _ := ⟨h.settledAt, h.result⟩
  woken hwoken := by
    rw [not_woken_of_ready hready] at hwoken
    cases hwoken

variable {R : TaskWait → TaskWait → Prop}

theorem SettlesLive.rewrites (h : SettlesLive R s s') : RewritesWaits s s' := by
  refine .of_paired (h.paired.mono ?_)
  rintro w - w' - (⟨hlive, hfrom, -⟩ | rfl)
  · exact hfrom.keeps hlive
  · exact KeepsWait.refl w'

theorem Parks.keeps (hnamed : ∀ w ∈ s.taskWaits.rows, w.id = taskWaitID w.requestID)
    (h : s.Parks s' requestID attemptID) : KeepsWaits s s' := by
  obtain ⟨hfresh, attempt, wait, now, -, -, hid, -, -, -, -, rfl⟩ := h
  intro w hw
  refine ⟨w, mem_put_iff.2 (.inr ⟨hw, fun heq => ?_⟩), KeepsWait.refl w⟩
  rw [hnamed w hw, hid] at heq
  exact hfresh w hw ((String.append_right_inj _).1 heq)

section

variable {cutoffs : TaskWakeCutoffs} {now : Time}

theorem wakeCandidate_rewrites {wake : Option TaskWaitWakeContext}
    (hloaded : Loaded s c) (h : s.wakeCandidate cutoffs now c = .ok (s', wake)) :
    RewritesWaits s s' := by
  obtain ⟨R, hset, hsame⟩ := wakeCandidate_set h
  refine .of_paired ((hset.paired hloaded fun w w' hw => (hsame w w' hw).id).mono ?_)
  rintro w - w' - (⟨hin, hrow⟩ | ⟨-, rfl⟩)
  · exact (hsame w w' hrow).keeps ((hloaded w).1 hin).2.2
  · exact KeepsWait.refl w'

/-- What a committed pass does to an attempt: nothing, when it has no wake set, or what its one
candidate does. -/
theorem wakeTaskWaitsBefore_ok (h : s.wakeTaskWaitsBefore now cutoffs = .ok (s', wakes))
    (id : String) : taskWaitWakeSet (s.waitsOf id) = none ∧ SameView s s' id ∨
    ∃ c before after wake, c.attemptID = id ∧ taskWaitWakeSet (s.waitsOf id) = some c.ready ∧
      Loaded before c ∧ SameView s before id ∧
      before.wakeCandidate cutoffs now c = .ok (after, wake) ∧ SameView after s' id := by
  replace h := past_guard h
  obtain ⟨hframe, hown⟩ := wakeAll_ok (wakeCandidates_distinct s) wakeCandidates_loaded h id
  cases hready : taskWaitWakeSet (s.waitsOf id) with
  | none =>
    refine .inl ⟨rfl, hframe fun c hc hid => ?_⟩
    have hcand := mem_wakeCandidates hc
    rw [hid, hready] at hcand
    cases hcand
  | some ready =>
    obtain ⟨c, hc, hid, rfl⟩ := wakeCandidate_of_ready hready
    obtain ⟨before, after, wake, hbefore, hstep, hafter⟩ := hown c hc hid
    refine .inr ⟨c, before, after, wake, hid, rfl, ?_, hbefore, hstep, hafter⟩
    exact (wakeCandidates_loaded c hc).of_sameView (hid ▸ hbefore)

theorem wakeTaskWaitsBefore_rewrites (h : s.wakeTaskWaitsBefore now cutoffs = .ok (s', wakes)) :
    RewritesWaits s s' := by
  constructor
  · intro w hw
    rcases wakeTaskWaitsBefore_ok h w.attemptID with ⟨-, hview⟩ |
      ⟨c, before, after, wake, -, -, hloaded, hbefore, hstep, hafter⟩
    · exact ⟨w, (hview.waits w rfl).2 hw, KeepsWait.refl w⟩
    · obtain ⟨w', hw', hkeeps⟩ := (wakeCandidate_rewrites hloaded hstep).forward w
        ((hbefore.waits w rfl).2 hw)
      exact ⟨w', (hafter.waits w' hkeeps.attemptID).2 hw', hkeeps⟩
  · intro w' hw'
    rcases wakeTaskWaitsBefore_ok h w'.attemptID with ⟨-, hview⟩ |
      ⟨c, before, after, wake, -, -, hloaded, hbefore, hstep, hafter⟩
    · exact ⟨w', (hview.waits w' rfl).1 hw', KeepsWait.refl w'⟩
    · obtain ⟨w, hw, hkeeps⟩ := (wakeCandidate_rewrites hloaded hstep).backward w'
        ((hafter.waits w' rfl).1 hw')
      exact ⟨w, (hbefore.waits w hkeeps.attemptID.symm).1 hw, hkeeps⟩

end

/-! ## The invariant -/

/-- What couples attempts and waits: a wait carries its request's identity, a parked attempt has a
wait that was not woken, and one parked in control is parked in progress. -/
structure WaitsSound (s : Store) : Prop where
  named : ∀ w ∈ s.taskWaits.rows, w.id = taskWaitID w.requestID
  parked : ∀ a ∈ s.attempts.rows, a.progress = .waitingExternal →
    ∃ w ∈ s.taskWaits.rows, w.attemptID = a.id ∧ w.woken = false
  control : ∀ a ∈ s.attempts.rows, a.control = .waitingExternal → a.progress = .waitingExternal

theorem waitsSound_empty : WaitsSound {} :=
  ⟨by simp, by simp, by simp⟩

theorem RewritesWaits.named (h : RewritesWaits s s') (hs : WaitsSound s) :
    ∀ w ∈ s'.taskWaits.rows, w.id = taskWaitID w.requestID := by
  intro w' hw'
  obtain ⟨w, hw, hkeeps⟩ := h.backward w' hw'
  rw [hkeeps.id, hkeeps.requestID]
  exact hs.named w hw

theorem SettlesLive.sound (h : SettlesLive R s s') (hs : WaitsSound s) : WaitsSound s' := by
  refine ⟨h.rewrites.named hs, fun a ha hparked => ?_, ?_⟩
  · rw [h.1] at ha
    obtain ⟨w, hw, hid, hwoken⟩ := hs.parked a ha hparked
    obtain ⟨w', hw', -, ⟨-, hfrom, -⟩ | rfl⟩ := h.paired.forward w hw
    · refine ⟨w', hw', hfrom.attemptID.trans hid, ?_⟩
      rw [TaskWait.woken, hfrom.wokenAt]
      exact hwoken
    · exact ⟨w', hw', hid, hwoken⟩
  · rw [h.1]
    exact hs.control

theorem Parks.sound (h : s.Parks s' requestID attemptID) (hs : WaitsSound s) : WaitsSound s' := by
  obtain ⟨hfresh, attempt, wait, now, hattempt, -, hid, hrequest, hof, -, hunwoken, rfl⟩ := h
  have hnew : wait ∈ (s.taskWaits.put wait).rows := mem_put_iff.2 (.inl rfl)
  refine ⟨fun w hw => ?_, fun a ha hparked => ?_, fun a ha hcontrol => ?_⟩
  · rcases mem_put_iff.1 hw with rfl | ⟨hw, -⟩
    · rw [hid, hrequest]
    · exact hs.named w hw
  · rcases mem_put_iff.1 ha with rfl | ⟨ha, -⟩
    · refine ⟨wait, hnew, ?_, by rw [TaskWait.woken, hunwoken]; rfl⟩
      exact hof.trans (key_of_get? hattempt).symm
    · obtain ⟨w, hw, hwid, hwoken⟩ := hs.parked a ha hparked
      refine ⟨w, mem_put_iff.2 (.inr ⟨hw, fun heq => ?_⟩), hwid, hwoken⟩
      rw [hs.named w hw, hid] at heq
      exact hfresh w hw ((String.append_right_inj _).1 heq)
  · rcases mem_put_iff.1 ha with rfl | ⟨ha, -⟩
    · rfl
    · exact hs.control a ha hcontrol

section

variable {cutoffs : TaskWakeCutoffs} {now : Time} {wake : Option TaskWaitWakeContext}

theorem wakeCandidate_parked (h : s.wakeCandidate cutoffs now c = .ok (s', wake)) {a : Attempt}
    (ha : s'.attempts.get? c.attemptID = some a)
    (hparked : a.progress = .waitingExternal ∨ a.control = .waitingExternal) :
    s.attempts.get? c.attemptID = some a ∧
      (a.progress = .waitingExternal → LeavesSet cutoffs c s s') := by
  obtain ⟨attempt, hattempt, ⟨-, hleft⟩ | hwakes⟩ := wakeCandidate_ok h
  · rw [hleft.attempts] at ha
    exact ⟨ha, fun _ => hleft⟩
  · rcases hwakes.attempts with ⟨hrunning, hsame⟩ | ⟨next, hnext, hput⟩
    · rw [hsame] at ha
      refine ⟨ha, fun hprogress => ?_⟩
      rw [Option.some.inj (hattempt.symm.trans ha)] at hrunning
      exact absurd hprogress hrunning
    · have hid : next.id = c.attemptID := hnext.id.trans (key_of_get? hattempt)
      rw [hput, ← hid, get?_put_self, Option.some.injEq] at ha
      subst ha
      exact (hparked.elim hnext.progress hnext.control).elim

theorem LeavesSet.paired (h : LeavesSet cutoffs c s s') (hloaded : Loaded s c) :
    Paired (fun w w' => w ∈ c.ready ∧ LeftRow cutoffs w w' ∨ w ∉ c.ready ∧ w' = w) s.taskWaits
      s'.taskWaits := by
  refine h.toRewritesSet.paired hloaded ?_
  rintro w _ ⟨deferral, rfl, -⟩
  rfl

theorem left_unwoken (hloaded : Loaded s c) (h : LeavesSet cutoffs c s s')
    {w : TaskWait} (hw : w ∈ s.taskWaits.rows) :
    ∃ w' ∈ s'.taskWaits.rows, w'.id = w.id ∧ w'.attemptID = w.attemptID ∧
      w'.settledAt = w.settledAt ∧ w'.wokenAt = w.wokenAt := by
  obtain ⟨w', hw', -, ⟨-, deferral, rfl, -⟩ | ⟨-, rfl⟩⟩ := (h.paired hloaded).forward w hw <;>
    exact ⟨_, hw', rfl, rfl, rfl, rfl⟩

end

variable {cutoffs : TaskWakeCutoffs}

theorem wakeTaskWaitsBefore_sound {now : Time}
    (h : s.wakeTaskWaitsBefore now cutoffs = .ok (s', wakes)) (hs : WaitsSound s) :
    WaitsSound s' := by
  refine ⟨(wakeTaskWaitsBefore_rewrites h).named hs, fun a ha hparked => ?_, fun a ha hcontrol => ?_⟩
  · have hget := mem_rows_iff.1 ha
    rcases wakeTaskWaitsBefore_ok h a.id with ⟨-, hview⟩ |
      ⟨c, before, after, wake, hid, -, hloaded, hbefore, hstep, hafter⟩
    · rw [hview.attempt] at hget
      obtain ⟨w, hw, hwid, hwoken⟩ := hs.parked a (mem_of_get? hget) hparked
      exact ⟨w, (hview.waits w hwid).2 hw, hwid, hwoken⟩
    · rw [hafter.attempt, ← hid] at hget
      obtain ⟨hgot, hleft⟩ := wakeCandidate_parked hstep hget (.inl hparked)
      rw [hid, hbefore.attempt] at hgot
      obtain ⟨w, hw, hwid, hwoken⟩ := hs.parked a (mem_of_get? hgot) hparked
      obtain ⟨w', hw', -, hattempt, -, hwoken'⟩ := left_unwoken hloaded (hleft hparked)
        ((hbefore.waits w hwid).2 hw)
      refine ⟨w', (hafter.waits w' (hattempt.trans hwid)).2 hw', hattempt.trans hwid, ?_⟩
      rw [TaskWait.woken, hwoken']
      exact hwoken
  · have hget := mem_rows_iff.1 ha
    rcases wakeTaskWaitsBefore_ok h a.id with ⟨-, hview⟩ |
      ⟨c, before, after, wake, hid, -, -, hbefore, hstep, hafter⟩
    · rw [hview.attempt] at hget
      exact hs.control a (mem_of_get? hget) hcontrol
    · rw [hafter.attempt, ← hid] at hget
      obtain ⟨hgot, -⟩ := wakeCandidate_parked hstep hget (.inr hcontrol)
      rw [hid, hbefore.attempt] at hgot
      exact hs.control a (mem_of_get? hgot) hcontrol

/-! ## A pass wakes a settled park or leaves it to a later pass -/

/-- The park is over: the attempt runs or has failed, and its wake set is marked. -/
structure WakeApplied (s' : Store) (id : String) (ready : List TaskWait) : Prop where
  attempt : ∃ next, s'.attempts.get? id = some next ∧ next.progress ≠ .waitingExternal
  woken : ∀ w ∈ ready, ∃ w' ∈ s'.taskWaits.rows, w'.id = w.id ∧ w'.woken = true

/-- The park stands with its whole wake set, so the next pass finds it again. An unrestricted pass
with worker evidence leaves the reason on every wait. -/
structure WakeLeft (cutoffs : TaskWakeCutoffs) (s' : Store) (a : Attempt) (ready : List TaskWait) :
    Prop where
  attempt : s'.attempts.get? a.id = some a
  again : ∃ ready', taskWaitWakeSet (s'.waitsOf a.id) = some ready' ∧
    (∀ w ∈ ready, ∃ w' ∈ ready', w'.id = w.id) ∧
    (cutoffs.authorizedWorkers ≠ none → cutoffs.contending = false →
      ∀ w' ∈ ready', w'.wakeDeferral ≠ none)

theorem wakeLeft_of_left {s before after s' : Store}
    (hid : c.attemptID = a.id) (hsettled : ∀ w ∈ s.waitsOf a.id, w.live = false)
    (hset : taskWaitWakeSet (s.waitsOf a.id) = some c.ready) (hloaded : Loaded before c)
    (hbefore : SameView s before a.id) (hafter : SameView after s' a.id)
    (hget : s'.attempts.get? a.id = some a)
    (hleft : LeavesSet cutoffs c before after) :
    WakeLeft cutoffs s' a c.ready := by
  -- Every wait of the attempt comes from one of the store before, with the same marks.
  have hback : ∀ w' ∈ s'.taskWaits.rows, w'.attemptID = a.id →
      w'.live = false ∧ (w'.ready = true → cutoffs.authorizedWorkers ≠ none →
        cutoffs.contending = false → w'.wakeDeferral ≠ none) := by
    intro w' hw' hof
    have hmem := (hafter.waits w' hof).1 hw'
    have hold : ∀ w ∈ before.taskWaits.rows, w.attemptID = a.id → w.live = false := fun w hw hwof =>
      hsettled w (mem_waitsOf.2 ⟨(hbefore.waits w hwof).1 hw, hwof⟩)
    obtain ⟨w, hw, -, ⟨-, deferral, rfl, hreason⟩ | ⟨hnot, rfl⟩⟩ :=
      (hleft.paired hloaded).backward w' hmem
    · refine ⟨hold w hw hof, fun _ hevidence hwide => ?_⟩
      rcases hreason with hrecorded | hbare | hrestricted
      · exact hrecorded
      · exact absurd hbare hevidence
      · rw [hwide] at hrestricted
        cases hrestricted
    · exact ⟨hold w' hw hof, fun hready =>
        absurd ((hloaded w').2 ⟨hw, hof.trans hid.symm, hready⟩) hnot⟩
  -- Every wait of the wake set is still there, still settled and unwoken.
  have hforward : ∀ w ∈ c.ready, ∃ w' ∈ s'.waitsOf a.id, w'.id = w.id ∧ w'.ready = true := by
    intro w hw
    obtain ⟨hmem, hof, hready⟩ := (hloaded w).1 hw
    obtain ⟨w', hw', hwid, hattempt, hat, hwoken⟩ := left_unwoken hloaded hleft hmem
    have hof' : w'.attemptID = a.id := hattempt.trans (hof.trans hid)
    refine ⟨w', mem_waitsOf.2 ⟨(hafter.waits w' hof').2 hw', hof'⟩, hwid, ?_⟩
    rw [TaskWait.ready, TaskWait.settled, TaskWait.woken, hat, hwoken]
    exact hready
  obtain ⟨-, ⟨w, hw, hwready⟩, -⟩ := taskWaitWakeSet_eq_some_iff.1 hset
  obtain ⟨w', hw', -, hready'⟩ := hforward w ((mem_taskWaitWakeSet hset).2 ⟨hw, hwready⟩)
  have hlive : ∀ w ∈ s'.waitsOf a.id, w.live = false := fun w hw =>
    (hback w (mem_waitsOf.1 hw).1 (mem_waitsOf.1 hw).2).1
  obtain ⟨ready', hset'⟩ := taskWaitWakeSet_of_settled hlive hw' (not_woken_of_ready hready')
  refine ⟨hget, ready', hset', fun w hw => ?_, fun hevidence hwide w hw => ?_⟩
  · obtain ⟨w', hw', hwid, hready'⟩ := hforward w hw
    exact ⟨w', (mem_taskWaitWakeSet hset').2 ⟨hw', hready'⟩, hwid⟩
  · obtain ⟨hw, hready⟩ := (mem_taskWaitWakeSet hset').1 hw
    exact (hback w (mem_waitsOf.1 hw).1 (mem_waitsOf.1 hw).2).2 hready hevidence hwide

/-- A committed pass wakes a park whose waits have all settled, or leaves it to a later pass. -/
theorem settled_park_progresses {now : Time}
    (ha : a ∈ s.attempts.rows) (hparked : a.progress = .waitingExternal)
    (hsettled : ∀ w ∈ s.waitsOf a.id, w.live = false)
    (hset : taskWaitWakeSet (s.waitsOf a.id) = some ready)
    (h : s.wakeTaskWaitsBefore now cutoffs = .ok (s', wakes)) :
    WakeApplied s' a.id ready ∨ WakeLeft cutoffs s' a ready := by
  rcases wakeTaskWaitsBefore_ok h a.id with ⟨hnone, -⟩ |
    ⟨c, before, after, wake, hid, hset', hloaded, hbefore, hstep, hafter⟩
  · rw [hset] at hnone
    cases hnone
  cases hset.symm.trans hset'
  have hget : before.attempts.get? a.id = some a := by
    rw [hbefore.attempt]
    exact mem_rows_iff.1 ha
  obtain ⟨attempt, hattempt, hcases⟩ := wakeCandidate_ok hstep
  rw [hid, hget, Option.some.injEq] at hattempt
  subst hattempt
  rcases hcases with ⟨-, hleft⟩ | hwakes
  · refine .inr (wakeLeft_of_left hid hsettled hset hloaded hbefore hafter ?_ hleft)
    rw [hafter.attempt, hleft.attempts]
    exact hget
  · refine .inl ⟨?_, fun w hw => ?_⟩
    · rcases hwakes.attempts with ⟨hrunning, -⟩ | ⟨next, hnext, hput⟩
      · exact absurd hparked hrunning
      · refine ⟨next, ?_, hnext.progress⟩
        rw [hafter.attempt, hput, ← hnext.id, get?_put_self]
    · obtain ⟨marked, delivery, -, hset⟩ := hwakes.rows
      have hpaired := hset.paired hloaded (by rintro w _ ⟨resumption, deferral, rfl⟩; rfl)
      obtain ⟨hmem, hof, -⟩ := (hloaded w).1 hw
      obtain ⟨w', hw', -, ⟨-, resumption, deferral, rfl⟩ | ⟨hnot, -⟩⟩ := hpaired.forward w hmem
      · refine ⟨_, (hafter.waits _ ?_).2 hw', rfl, rfl⟩
        exact hof.trans hid
      · exact absurd hw hnot

end Store

/-! ## Runs -/

/-- The transactions of a run. `other` is every transaction that is not one of the five: it writes
attempts that are not parked, and records that are neither attempts nor waits. -/
inductive WaitOp
  | register (request : TaskWaitRegistration) (now : Time)
  | settle (id : String) (result : TaskWaitResult) (now : Time)
  | expire (now : Time)
  | answer (answer : AskAnswer) (principal : String) (approver : Bool) (now : Time)
  | wake (now : Time) (cutoffs : TaskWakeCutoffs)
  | other (attempts : List Attempt) (records : Store)

def Attempt.isParked (a : Attempt) : Bool :=
  a.progress = .waitingExternal ∨ a.control = .waitingExternal

variable (obs : WaitObservers)

def waitStep (s : Store) : WaitOp → Store
  | .register request now => committed s ((s.registerTaskWait obs request now).map Prod.fst)
  | .settle id result now => committed s ((s.settleTaskWait id result now).map Prod.fst)
  | .expire now => committed s ((s.expireTaskWaits now).map Prod.fst)
  | .answer answer principal approver now =>
    committed s ((s.answerAsk answer principal approver now).map Prod.fst)
  | .wake now cutoffs => committed s ((s.wakeTaskWaitsBefore now cutoffs).map Prod.fst)
  | .other attempts records =>
    { records with
      attempts := s.attempts.putAll (attempts.filter fun a => !a.isParked)
      taskWaits := s.taskWaits
      taskWaitEvents := s.taskWaitEvents }

open Store in
theorem waitStep_sound (hs : WaitsSound s) (op : WaitOp) :
    WaitsSound (waitStep obs s op) ∧ KeepsWaits s (waitStep obs s op) := by
  -- A transaction that fails keeps both; it remains to look at what each one commits.
  have hcommit : ∀ {α : Type} {result : Except Err (Store × α)},
      (∀ s' a, result = .ok (s', a) → WaitsSound s' ∧ KeepsWaits s s') →
      WaitsSound (committed s (result.map Prod.fst)) ∧
      KeepsWaits s (committed s (result.map Prod.fst)) := by
    intro α result h
    refine rel_committed (R := fun s s' => WaitsSound s → WaitsSound s' ∧ KeepsWaits s s')
      (fun s hs => ⟨hs, KeepsWaits.refl s⟩) (fun s' heq _ => ?_) hs
    obtain ⟨a, heq⟩ := map_fst_eq_ok heq
    exact h s' a heq
  cases op with
  | register request now =>
    refine hcommit fun s' wait h => ?_
    rcases registerTaskWait_ok h with ⟨rfl, -⟩ | ⟨-, hparks⟩
    · exact ⟨hs, KeepsWaits.refl _⟩
    · exact ⟨hparks.sound hs, hparks.keeps hs.named⟩
  | settle id result now =>
    refine hcommit fun s' wait h => ?_
    exact ⟨(settleTaskWait_ok h).sound hs, (settleTaskWait_ok h).rewrites.forward⟩
  | expire now =>
    refine hcommit fun s' expired h => ?_
    exact ⟨(expireTaskWaits_ok h).sound hs, (expireTaskWaits_ok h).rewrites.forward⟩
  | answer answer principal approver now =>
    refine hcommit fun s' reply h => ?_
    exact ⟨(answerAsk_ok h).sound hs, (answerAsk_ok h).rewrites.forward⟩
  | wake now cutoffs =>
    refine hcommit fun s' wakes h => ?_
    exact ⟨wakeTaskWaitsBefore_sound h hs, (wakeTaskWaitsBefore_rewrites h).forward⟩
  | other attempts records =>
    have hwritten : ∀ a ∈ (s.attempts.putAll (attempts.filter fun a => !a.isParked)).rows,
        a.isParked = true → a ∈ s.attempts.rows := by
      intro a ha hparked
      rcases mem_putAll ha with hnew | ⟨hold, -⟩
      · have := (mem_filter.1 hnew).2
        rw [hparked] at this
        cases this
      · exact hold
    refine ⟨⟨hs.named, fun a ha hparked => ?_, fun a ha hcontrol => ?_⟩, KeepsWaits.refl s⟩
    · exact hs.parked a (hwritten a ha (by simp [Attempt.isParked, hparked])) hparked
    · exact hs.control a (hwritten a ha (by simp [Attempt.isParked, hcontrol])) hcontrol

open Store in
theorem waitsSound_run (ops : List WaitOp) : WaitsSound (run (waitStep obs) {} ops) :=
  run_invariant (I := WaitsSound) (P := fun _ _ => True)
    (fun _ op hs _ => (waitStep_sound obs hs op).1)
    waitsSound_empty (along_of_forall fun _ _ _ => trivial)

open Store in
theorem keepsWaits_run (hs : WaitsSound s) (ops : List WaitOp) :
    KeepsWaits s (run (waitStep obs) s ops) := by
  induction ops generalizing s with
  | nil => exact KeepsWaits.refl s
  | cons op ops ih =>
    obtain ⟨hsound, hkeeps⟩ := waitStep_sound obs hs op
    exact KeepsWaits.trans _ _ _ hkeeps (ih hsound)

open Store in
/-- In every run from an empty store: a parked attempt has a wait that was not woken, and once none
is live a wake set, which every committed pass applies or leaves whole; the first settlement and the
one wake of a wait are never changed; and no terminal attempt is in `waiting-external`. -/
theorem no_wakeup_lost_and_first_settlement_wins (obs : WaitObservers) (ops : List WaitOp) :
    (∀ a ∈ (Runs.run (waitStep obs) {} ops).attempts.rows, a.progress = .waitingExternal →
      (∃ w ∈ (Runs.run (waitStep obs) {} ops).waitsOf a.id, w.woken = false) ∧
      ((∀ w ∈ (Runs.run (waitStep obs) {} ops).waitsOf a.id, w.live = false) → ∃ ready, ready ≠ [] ∧
          taskWaitWakeSet ((Runs.run (waitStep obs) {} ops).waitsOf a.id) = some ready ∧
          ∀ now cutoffs s' wakes,
            (Runs.run (waitStep obs) {} ops).wakeTaskWaitsBefore now cutoffs = .ok (s', wakes) →
            WakeApplied s' a.id ready ∨ WakeLeft cutoffs s' a ready)) ∧
    Runs.Throughout (waitStep obs) KeepsWaits {} ops ∧
    ∀ a ∈ (Runs.run (waitStep obs) {} ops).attempts.rows,
      ¬(a.progress.terminal = true ∧ a.isParked = true) := by
  have hsound := waitsSound_run obs ops
  refine ⟨fun a ha hparked => ?_, ?_, ?_⟩
  · obtain ⟨w, hw, hof, hwoken⟩ := hsound.parked a ha hparked
    have hmem := mem_waitsOf.2 ⟨hw, hof⟩
    refine ⟨⟨w, hmem, hwoken⟩, fun hsettled => ?_⟩
    obtain ⟨ready, hset⟩ := taskWaitWakeSet_of_settled hsettled hmem hwoken
    refine ⟨ready, ?_, hset, fun now cutoffs s' wakes h =>
      settled_park_progresses ha hparked hsettled hset h⟩
    obtain ⟨-, ⟨v, hv, hready⟩, -⟩ := taskWaitWakeSet_eq_some_iff.1 hset
    exact ne_nil_of_mem ((mem_taskWaitWakeSet hset).2 ⟨hv, hready⟩)
  · intro earlier later rest _
    rw [run_append]
    exact keepsWaits_run obs (waitsSound_run obs earlier) later
  · rintro a ha ⟨hterminal, hparked⟩
    have hprogress : a.progress = .waitingExternal := by
      rcases of_decide_eq_true hparked with hprogress | hcontrol
      · exact hprogress
      · exact hsound.control a ha hcontrol
    rw [hprogress] at hterminal
    cases hterminal

/-! ## A park and its pass -/

def localObservers : WaitObservers where
  digests := ⟨fun _ _ => "", fun _ _ _ _ _ _ _ => "d"⟩
  resolveNodeState := fun _ _ => .ok {}
  quotaResetAt := fun _ _ => .ok none
  observeQuota := fun _ _ _ => .ok {}
  quotaText := fun _ => ""

def waitingAttempt : Attempt :=
  { id := "a", workflowRunID := "r", taskID := "t", progress := .active, control := .running
    assignmentID := "s", threadID := "h" }

def waitingRecords (provider : String) : Store :=
  { workflows := ofList _ [{ id := "f", project := "p" }]
    workflowRuns := ofList _ [{ id := "r", workflowID := "f" }]
    assignments := ofList _
      [{ id := "s", attemptID := "a", workerID := "w", state := .claimed
         route := { providerInstanceID := provider } }]
    workerSnapshots := ofList _ [{ workerID := "w", validUntil := 100 }] }

def settledPark (provider : String) : List WaitOp :=
  [.other [waitingAttempt] (waitingRecords provider),
   .register
     { requestID := "q", workflowRunID := "r", taskID := "t", attemptID := "a", threadID := "h"
       wake := .each, maxDuration := 10 } 1,
   .settle "tw-q" { outcome := .met } 2]

/-- The park, its settled wait, and the bare pass: an attempt on an ungoverned route is resumed, one
on a governed route is left without a record. -/
theorem settledPark_state : (∃ a ∈ (run (waitStep localObservers) {} (settledPark "")).attempts.rows,
      a.id = "a" ∧ a.progress = .waitingExternal) ∧
    (∀ w ∈ (run (waitStep localObservers) {} (settledPark "")).waitsOf "a", w.live = false) ∧
    ((run (waitStep localObservers) {} (settledPark "")).wakeTaskWaitsBefore 3 {}).toOption.map
        (fun r => ((r.1.attempts.get? "a").map Attempt.progress, (r.1.waitsOf "a").map TaskWait.woken)) =
      some (some .active, [true]) ∧
    ((run (waitStep localObservers) {} (settledPark "x")).attempts.get? "a").map
        Attempt.progress = some .waitingExternal ∧
    ((run (waitStep localObservers) {} (settledPark "x")).waitsOf "a").map TaskWait.live = [false] ∧
    ((run (waitStep localObservers) {} (settledPark "x")).wakeTaskWaitsBefore 3 {}).toOption.map
        (fun r => ((r.1.attempts.get? "a").map Attempt.progress,
          (r.1.waitsOf "a").map fun w => (w.woken, w.wakeDeferral))) =
      some (some .waitingExternal, [(false, none)]) := by
  decide

/-- The pass that follows the settlement of an ungoverned park finds its wake set and applies it. -/
theorem settled_park_is_resumed :
    ∃ a ∈ (Runs.run (waitStep localObservers) {} (settledPark "")).attempts.rows,
      a.progress = .waitingExternal ∧ ∃ ready, ready ≠ [] ∧ ∃ s' wakes,
        (Runs.run (waitStep localObservers) {} (settledPark "")).wakeTaskWaitsBefore 3 {} =
          .ok (s', wakes) ∧ Store.WakeApplied s' a.id ready := by
  obtain ⟨⟨a, ha, hid, hparked⟩, hsettled, hpass, -⟩ := settledPark_state
  rw [← hid] at hsettled
  obtain ⟨-, hprogress⟩ :=
    (no_wakeup_lost_and_first_settlement_wins localObservers (settledPark "")).1 a ha hparked
  obtain ⟨ready, hne, -, hnext⟩ := hprogress hsettled
  obtain ⟨⟨s', wakes⟩, h, hrows⟩ := of_toOption hpass
  refine ⟨a, ha, hparked, ready, hne, s', wakes, h,
    (hnext 3 {} s' wakes h).resolve_right fun hleft => ?_⟩
  have hactive := (Prod.mk.inj hrows).1
  rw [← hid, hleft.attempt, Option.map_some, hparked] at hactive
  cases hactive

/-- A bare pass over a settled park on a governed route commits, and neither wakes it nor records a
deferral. -/
theorem bare_pass_defers_without_record :
    ((Runs.run (waitStep localObservers) {} (settledPark "x")).attempts.get? "a").map
        Attempt.progress = some .waitingExternal ∧
    (∀ w ∈ (Runs.run (waitStep localObservers) {} (settledPark "x")).waitsOf "a", w.live = false) ∧
    ∃ s' wakes, (Runs.run (waitStep localObservers) {} (settledPark "x")).wakeTaskWaitsBefore 3 {} =
        .ok (s', wakes) ∧
      (s'.attempts.get? "a").map Attempt.progress = some .waitingExternal ∧
      ∀ w ∈ s'.waitsOf "a", w.woken = false ∧ w.wakeDeferral = none := by
  obtain ⟨-, -, -, hparked, hlive, hpass⟩ := settledPark_state
  refine ⟨hparked, fun w hw => ?_, ?_⟩
  · have hmem := mem_map_of_mem hw (f := TaskWait.live)
    rw [hlive] at hmem
    simpa using hmem
  · obtain ⟨⟨s', wakes⟩, h, hrows⟩ := of_toOption hpass
    obtain ⟨hprogress, hmarks⟩ := Prod.mk.inj hrows
    refine ⟨s', wakes, h, hprogress, fun w hw => ?_⟩
    have hmem := mem_map_of_mem hw (f := fun w : TaskWait => (w.woken, w.wakeDeferral))
    rw [hmarks] at hmem
    simpa using hmem

/-! ## A replayed registration -/

namespace Store

variable {s s' : Store} {obs : WaitObservers} {request : TaskWaitRegistration} {now : Time}
  {wait : TaskWait}

/-- What the digest of a registration's condition is taken of. -/
structure SameCondition (r r' : TaskWaitRegistration) : Prop where
  kind : r.kind.orShell = r'.kind.orShell
  name : r.name = r'.name
  condition : r.condition = r'.condition
  orTimeout : r.orTimeout = r'.orTimeout
  node : r.node = r'.node
  quota : r.quota = r'.quota
  shell : r.shell = r'.shell

end Store

def choiceRequest (options : List String) (contextName : String) : TaskWaitRegistration :=
  { requestID := "q", workflowRunID := "r", taskID := "t", attemptID := "a", threadID := "h"
    wake := .each, maxDuration := 10, kind := .ask
    ask := some { question := "which", options := options, contextName := contextName, onDeadline := .fail } }

/-- With any digests, a question whose options join to the text of the stored ones is answered with
the stored wait. -/
theorem choiceRequest_replayed (obs : WaitObservers) {a b : List String} {x y : String}
    (ha : (choiceRequest a x).validate obs.digests = .ok ())
    (hb : (choiceRequest b y).validate obs.digests = .ok ())
    (hjoin : "\x00".intercalate a = "\x00".intercalate b) :
    ∃ (s : Store) (wait : TaskWait),
      Store.registerTaskWait { attempts := ofList _ [waitingAttempt] } obs (choiceRequest a x) 1 =
        .ok (s, wait) ∧
      s.registerTaskWait obs (choiceRequest b y) 2 = .ok (s, wait) ∧ wait ∈ s.taskWaits.rows ∧
      wait.conditionDigest = (choiceRequest b y).conditionDigest obs.digests ∧
      wait.ask = (choiceRequest a x).ask := by
  refine ⟨_, _, bind_eq_ok_iff.2 ⟨_, ha, rfl⟩, ?_, .head _, rfl, rfl⟩
  refine bind_eq_ok_iff.2 ⟨_, hb, bind_eq_ok_iff.2 ⟨_, rfl, bind_eq_ok_iff.2 ⟨_, ?_, rfl⟩⟩⟩
  -- The digest covers the condition only, so it is the same text on both sides.
  refine refuseWhen_bind_eq_ok_iff.2 ⟨?_, refuseWhen_bind_eq_ok_iff.2 ⟨?_, ?_⟩⟩
  · simp [Store.registeredWait, choiceRequest, sameAskRegistration, sameAttentionRegistration,
      AskRequest.sameQuestion, WaitKind.orShell, hjoin]
  · rintro ⟨-, h⟩
    exact h rfl
  · refine refuseWhen_bind_eq_ok_iff.2 ⟨?_, refuseWhen_bind_eq_ok_iff.2 ⟨of_decide_eq_false rfl, ?_⟩⟩
    · rintro ⟨-, h⟩
      cases h
    · refine bind_eq_ok_iff.2 ⟨Store.parkedAttempt waitingAttempt (taskWaitID "q") 1, ?_, rfl⟩
      exact Store.loadAttempt_eq_ok_iff.2 ((Table.get?_put _ _ _).trans (if_pos rfl))

end Steward
