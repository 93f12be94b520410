import Steward.Store.TaskWaitRuns
import Steward.Store.TaskWakeDelivery

/-!
# Groups of wakes

What a wake pass, a transition and a listing do to the waits that share one message. The delivery
state is kept per row and repaired by listings, so the facts are about groups: every transaction
keeps a group `Underway` past its claim, and keeps every group in one state in a store without
traces of an older sender.
-/

namespace Steward.Store

open Table Option List

/-! ## What a wake pass writes on the rows -/

/-- What a pass marks the wake set of one attempt with. -/
structure WakeMark where
  first : String := ""
  revision : Int := 0
  delivery : String := ""

def WakeMark.deliveryID (m : WakeMark) : String :=
  "task-wake:" ++ m.first ++ ":" ++ toString m.revision

theorem WakeMark.deliveryID_ne {m : WakeMark} {id : String} {n : Int} (hne : m.first ≠ id) :
    m.deliveryID ≠ "task-wake:" ++ id ++ ":" ++ toString n := by
  intro h
  exact hne ((String.append_right_inj _).1 (Text.numbered_base_inj h))

structure Marked (m : WakeMark) (w w' : TaskWait) : Prop where
  woken : w'.woken = true
  attemptID : w'.attemptID = w.attemptID
  threadID : w'.threadID = w.threadID
  wakeRevision : w'.wakeRevision = m.revision
  delivery : w'.delivery = m.delivery
  deliveryID : w'.deliveryID = if w.deliveryID = "" then m.deliveryID else w.deliveryID

structure KeptWake (D : String → String → Prop) (w w' : TaskWait) :
    Prop extends Redelivered w w' where
  delivery : D w'.delivery w.delivery

theorem KeptWake.refl (w : TaskWait) : KeptWake Eq w w := ⟨Redelivered.refl w, rfl⟩

/-- How a wait leaves a transaction that marked its attempt's wake set with `m`: kept, with its
delivery related to what it was, or newly woken in that set, whose first member is woken too. -/
def PassedBy (D : String → String → Prop) (s s' : Store) (m : WakeMark) (w w' : TaskWait) : Prop :=
  KeptWake D w w' ∨
    w.woken = false ∧ Marked m w w' ∧ (m.delivery = "pending" ∨ m.delivery = "abandoned") ∧
      (∃ u ∈ s.taskWaits.rows, u.id = m.first ∧ u.attemptID = w.attemptID ∧ u.woken = false) ∧
      ∃ u ∈ s'.taskWaits.rows, u.id = m.first ∧ u.woken = true

section

variable {s s' : Store} {cutoffs : TaskWakeCutoffs} {now : Time} {m : WakeMark} {w w' : TaskWait}
  {D : String → String → Prop}

theorem PassedBy.attemptID (h : PassedBy D s s' m w w') : w'.attemptID = w.attemptID := by
  rcases h with h | ⟨-, h, -⟩ <;> exact h.attemptID

theorem PassedBy.threadID (h : PassedBy D s s' m w w') : w'.threadID = w.threadID := by
  rcases h with h | ⟨-, h, -⟩ <;> exact h.threadID

theorem wakeCandidate_paired {c : WakeCandidate} {wake : Option TaskWaitWakeContext}
    (hloaded : Loaded s c) (h : s.wakeCandidate cutoffs now c = .ok (s', wake)) :
    ∃ m, Paired (PassedBy Eq s s' m) s.taskWaits s'.taskWaits := by
  obtain ⟨attempt, -, ⟨-, hleaves⟩ | hwakes⟩ := wakeCandidate_ok h
  · refine ⟨{}, (hleaves.paired hloaded).mono ?_⟩
    rintro w - w' - (⟨-, deferral, rfl, -⟩ | ⟨-, rfl⟩)
    · exact .inl ⟨⟨rfl, rfl⟩, rfl⟩
    · exact .inl (KeptWake.refl w')
  · obtain ⟨marked, delivery, hdelivery, hset⟩ := hwakes.rows
    have hpaired := hset.paired hloaded (by rintro w _ ⟨resumption, deferral, rfl⟩; rfl)
    refine ⟨{ first := (c.ready.head?.map TaskWait.id).getD "", revision := marked.revision
              delivery := delivery }, hpaired.mono ?_⟩
    rintro w - w' - (⟨hin, resumption, deferral, rfl⟩ | ⟨-, rfl⟩)
    · obtain ⟨u, rest, hready⟩ := exists_cons_of_ne_nil (ne_nil_of_mem hin)
      obtain ⟨hmem, hattempt, hunwoken⟩ := (hloaded u).1 (by rw [hready]; exact .head _)
      obtain ⟨v, hv, hid, ⟨-, resumed, deferred, rfl⟩ | ⟨hnot, -⟩⟩ := hpaired.forward u hmem
      · rw [hready]
        exact .inr ⟨not_woken_of_ready ((hloaded w).1 hin).2.2, ⟨rfl, rfl, rfl, rfl, rfl, rfl⟩,
          hdelivery,
          ⟨u, hmem, rfl, hattempt.trans ((hloaded w).1 hin).2.1.symm, not_woken_of_ready hunwoken⟩,
          _, hv, rfl, rfl⟩
      · exact absurd (by rw [hready]; exact .head _) hnot
    · exact .inl (KeptWake.refl w')

/-- A whole pass, row by row: the rows of one attempt carry one mark. -/
theorem wakeTaskWaitsBefore_paired {wakes : List TaskWaitWakeContext}
    (h : s.wakeTaskWaitsBefore now cutoffs = .ok (s', wakes)) :
    ∃ mark : String → WakeMark,
      Paired (fun w w' => PassedBy Eq s s' (mark w.attemptID) w w') s.taskWaits s'.taskWaits := by
  have hattempt : ∀ id, ∃ m : WakeMark, (∀ w ∈ s.taskWaits.rows, w.attemptID = id →
        ∃ w' ∈ s'.taskWaits.rows, w'.id = w.id ∧ PassedBy Eq s s' m w w') ∧
      ∀ w' ∈ s'.taskWaits.rows, w'.attemptID = id →
        ∃ w ∈ s.taskWaits.rows, w'.id = w.id ∧ PassedBy Eq s s' m w w' := by
    intro id
    rcases wakeTaskWaitsBefore_ok h id with ⟨-, hview⟩ |
      ⟨c, before, after, wake, hid, -, hloaded, hbefore, hstep, hafter⟩
    · exact ⟨{}, fun w hw hid => ⟨w, (hview.waits w hid).2 hw, rfl, .inl (KeptWake.refl w)⟩,
        fun w hw hid => ⟨w, (hview.waits w hid).1 hw, rfl, .inl (KeptWake.refl w)⟩⟩
    · obtain ⟨m, hpaired⟩ := wakeCandidate_paired hloaded hstep
      have hlift : ∀ w w', w.attemptID = id → PassedBy Eq before after m w w' →
        PassedBy Eq s s' m w w' := by
        rintro w w' hw (hsame | ⟨hunwoken, hmarked, hdelivery, ⟨u, hu, hfirst, hown, hu'⟩, v, hv,
          hvid, hwoken⟩)
        · exact .inl hsame
        · refine .inr ⟨hunwoken, hmarked, hdelivery,
            ⟨u, (hbefore.waits u (hown.trans hw)).1 hu, hfirst, hown, hu'⟩, v, ?_, hvid, hwoken⟩
          obtain ⟨v', hv', hkey, hpassed⟩ := hpaired.backward v hv
          have hsame : v' = u := eq_of_key_eq hv' hu (hkey.symm.trans (hvid.trans hfirst.symm))
          exact (hafter.waits v (hpassed.attemptID.trans (hsame ▸ hown.trans hw))).2 hv
      refine ⟨m, fun w hw hid => ?_, fun w' hw' hid => ?_⟩
      · obtain ⟨w', hw', hkey, hpassed⟩ := hpaired.forward w ((hbefore.waits w hid).2 hw)
        exact ⟨w', (hafter.waits w' (hpassed.attemptID.trans hid)).2 hw', hkey,
          hlift w w' hid hpassed⟩
      · obtain ⟨w, hw, hkey, hpassed⟩ := hpaired.backward w' ((hafter.waits w' hid).1 hw')
        have hown : w.attemptID = id := hpassed.attemptID.symm.trans hid
        exact ⟨w, (hbefore.waits w hown).1 hw, hkey, hlift w w' hown hpassed⟩
  choose mark hforward hbackward using hattempt
  refine ⟨mark, fun w hw => hforward w.attemptID w hw rfl, fun w' hw' => ?_⟩
  obtain ⟨w, hw, hkey, hpassed⟩ := hbackward w'.attemptID w' hw' rfl
  exact ⟨w, hw, hkey, by rw [← hpassed.attemptID]; exact hpassed⟩

end

/-! ## Groups -/

def Member (s : Store) (g : WakeGroup) (w : TaskWait) : Prop :=
  w ∈ s.taskWaits.rows ∧ w.wakeGroup = some g

variable {w : TaskWait} {target : String} {g : WakeGroup}

theorem wakeGroup_eq_some_iff :
    w.wakeGroup = some g ↔ w.woken = true ∧ w.deliveryID ≠ "" ∧ w.groupKey = g := by
  unfold TaskWait.wakeGroup
  split_ifs with h
  · simp [h]
  · constructor
    · intro hnone
      cases hnone
    · exact fun hgroup => absurd ⟨hgroup.1, hgroup.2.1⟩ h

theorem Member.woken {s : Store} (h : s.Member g w) : w.woken = true :=
  (wakeGroup_eq_some_iff.1 h.2).1

theorem mem_states_iff {s : Store} {d : String} :
    d ∈ (s.taskWaits.rows.filter fun w => w.wakeGroup = some g).map TaskWait.delivery ↔
      ∃ w, s.Member g w ∧ w.delivery = d := by
  simp [Member]

/-- A group past its claim: a member is being sent, or the group cannot be claimed again, as a
member has left the states before a claim and no listing could bring a held member back. -/
def Underway (s : Store) (g : WakeGroup) : Prop :=
  (∃ w, s.Member g w ∧ w.delivery = "sending") ∨
    (∃ w, s.Member g w ∧ w.delivery ≠ "pending" ∧ w.delivery ≠ "held") ∧
      ∀ w, s.Member g w → w.delivery ≠ "held"

theorem Underway.past {s : Store} (h : s.Underway g) :
    ∃ w, s.Member g w ∧ w.delivery ≠ "pending" ∧ w.delivery ≠ "held" := by
  rcases h with ⟨w, hw, hsending⟩ | ⟨hpast, -⟩
  · exact ⟨w, hw, by rw [hsending]; decide⟩
  · exact hpast

/-! ## WakeMoves and groups -/

theorem wakeTransitionAllowed_past {source next : String}
    (h : wakeTransitionAllowed source next = true) (hpending : source ≠ "pending")
    (hheld : source ≠ "held") : next ≠ "pending" ∧ next ≠ "held" ∧ next ≠ "sending" := by
  simp only [wakeTransitionAllowed, decide_eq_true_eq] at h
  rcases h with ⟨h, -⟩ | ⟨h, -⟩ | ⟨-, rfl | rfl | rfl⟩ | ⟨-, rfl⟩ | ⟨rfl, -⟩
  · exact absurd h hpending
  · exact absurd h hheld
  all_goals decide

section

variable {s s' : Store} {wait : TaskWait} {source next : String} {now : Time}

theorem member_transition_cases (hwait : wait ∈ s.taskWaits.rows) (hwoken : wait.woken = true)
    (g : WakeGroup) :
    wait.wakeGroup = some g ∧ (∀ w, s.Member g w → w ∈ s.wakeTransitionGroup wait) ∨
      wait.wakeGroup ≠ some g ∧ ∀ w, s.Member g w → w ∉ s.wakeTransitionGroup wait := by
  by_cases hgroup : wait.wakeGroup = some g
  · obtain ⟨-, hid, hkey⟩ := wakeGroup_eq_some_iff.1 hgroup
    refine .inl ⟨hgroup, fun w hw => mem_wakeTransitionGroup.2 ⟨hw.1, .inr ⟨hid, ?_⟩⟩⟩
    exact (wakeGroup_eq_some_iff.1 hw.2).2.2.trans hkey.symm
  · refine .inr ⟨hgroup, fun w hw hin => hgroup ?_⟩
    rcases (mem_wakeTransitionGroup.1 hin).2 with hsame | ⟨hid, hkey⟩
    · rw [← eq_of_key_eq hw.1 hwait hsame]
      exact hw.2
    · exact wakeGroup_eq_some_iff.2 ⟨hwoken, hid, hkey.symm.trans (wakeGroup_eq_some_iff.1 hw.2).2.2⟩

/-- The rows of a transition keep whose wake they are. -/
theorem WakeMoves.redelivered (h : WakeMoves wait source next now s s') :
    Paired Redelivered s.taskWaits s'.taskWaits := by
  refine h.paired.mono ?_
  rintro w - w' - (⟨-, rfl⟩ | ⟨-, rfl⟩)
  · exact (delivers_spec w next now).1
  · exact Redelivered.refl w'

theorem WakeMoves.forward_moved (h : WakeMoves wait source next now s s') (hw : s.Member g w)
    (hin : w ∈ s.wakeTransitionGroup wait) : ∃ w', s'.Member g w' ∧ w'.delivery = next := by
  obtain ⟨w', hw', -, ⟨-, rfl⟩ | ⟨hout, -⟩⟩ := h.paired.forward w hw.1
  · obtain ⟨hsame, -, hdelivery⟩ := delivers_spec w next now
    exact ⟨_, ⟨hw', hsame.wakeGroup.trans hw.2⟩, hdelivery⟩
  · exact absurd hin hout

theorem WakeMoves.moved (h : WakeMoves wait source next now s s')
    (hall : ∀ w, s.Member g w → w ∈ s.wakeTransitionGroup wait) {w' : TaskWait}
    (hw' : s'.Member g w') :
    w'.delivery = next := by
  obtain ⟨w, hw, -, ⟨-, rfl⟩ | ⟨hout, rfl⟩⟩ := h.paired.backward w' hw'.1
  · exact (delivers_spec w next now).2.2
  · exact absurd (hall w' ⟨hw, hw'.2⟩) hout

section

variable (h : WakeMoves wait source next now s s')
include h

theorem WakeMoves.unmoved (hnone : ∀ w, s.Member g w → w ∉ s.wakeTransitionGroup wait) :
    s'.Member g w ↔ s.Member g w := by
  constructor
  · intro hw
    obtain ⟨v, hv, -, ⟨hin, rfl⟩ | ⟨-, rfl⟩⟩ := h.paired.backward w hw.1
    · have hmember : s.Member g v := ⟨hv, (delivers_spec v next now).1.wakeGroup.symm.trans hw.2⟩
      exact absurd hin (hnone v hmember)
    · exact ⟨hv, hw.2⟩
  · intro hw
    obtain ⟨v, hv, -, ⟨hin, -⟩ | ⟨-, rfl⟩⟩ := h.paired.forward w hw.1
    · exact absurd hin (hnone w hw)
    · exact ⟨hv, hw.2⟩

theorem WakeMoves.source_past (hunderway : s.Underway g)
    (hall : ∀ w, s.Member g w → w ∈ s.wakeTransitionGroup wait) :
    source ≠ "pending" ∧ source ≠ "held" := by
  obtain ⟨w, hw, hpending, hheld⟩ := hunderway.past
  rw [h.source w (hall w hw)] at hpending hheld
  exact ⟨hpending, hheld⟩

theorem WakeMoves.underway (hwait : wait ∈ s.taskWaits.rows) (hunderway : s.Underway g) :
    s'.Underway g := by
  rcases member_transition_cases hwait h.woken g with ⟨-, hall⟩ | ⟨-, hnone⟩
  · obtain ⟨hpending, hheld⟩ := h.source_past hunderway hall
    obtain ⟨hpending', hheld', -⟩ := wakeTransitionAllowed_past h.allowed hpending hheld
    obtain ⟨w, hw, -⟩ := hunderway.past
    obtain ⟨w', hw', hdelivery⟩ := h.forward_moved hw (hall w hw)
    refine .inr ⟨⟨w', hw', ?_⟩, fun v hv => ?_⟩
    · rw [hdelivery]; exact ⟨hpending', hheld'⟩
    · rw [h.moved hall hv]; exact hheld'
  · unfold Underway
    simp only [h.unmoved hnone]
    exact hunderway

end

end

/-! ## Listings and groups -/

/-- A group is brought to a state past the claim, unless all its members were waiting to be
claimed. -/
theorem wakeGroupTarget_some {claimed : Bool} {states : List String}
    (h : wakeGroupTarget claimed states = some target) :
    (target = "manual-recovery-required" ∨ target = "delivered" ∨ target = "recovery-required" ∨
      target = "abandoned") ∨
    target = "held" ∧ "held" ∈ states ∧ "sending" ∉ states ∧ "manual-recovery-required" ∉ states ∧
      "delivered" ∉ states ∧ "abandoned" ∉ states := by
  unfold wakeGroupTarget at h
  split_ifs at h with hmanual huniform hdelivered hsending habandoned hheld
  · exact .inl (.inl (some.inj h).symm)
  · exact .inl (.inr (.inl (some.inj h).symm))
  · exact .inl (.inr (.inr (.inl (some.inj h).symm)))
  · exact .inl (.inr (.inr (.inr (some.inj h).symm)))
  · exact .inr ⟨(some.inj h).symm, hheld.2, fun hs => hsending (.inl hs),
      fun hm => hmanual (.inl hm), hdelivered, habandoned⟩
  · exact .inl (.inl (some.inj h).symm)

theorem reconciledTarget_some {s : Store} (h : s.reconciledTarget s.taskWaits.rows g = some target) :
    (target ≠ "pending" ∧ target ≠ "held" ∧ target ≠ "sending") ∨
    target = "held" ∧ (∃ w, s.Member g w ∧ w.delivery = "held") ∧
      ∀ w, s.Member g w → w.delivery ≠ "sending" ∧ w.delivery ≠ "manual-recovery-required" ∧
        w.delivery ≠ "delivered" ∧ w.delivery ≠ "abandoned" := by
  unfold reconciledTarget at h
  dsimp only at h
  split_ifs at h with hfew
  rcases wakeGroupTarget_some h with hpast | ⟨rfl, hheld, hsending, hmanual, hdone, hgone⟩
  · refine .inl ?_
    rcases hpast with rfl | rfl | rfl | rfl <;> decide
  · refine .inr ⟨rfl, mem_states_iff.1 hheld, fun w hw => ⟨?_, ?_, ?_, ?_⟩⟩
    · exact fun hd => hsending (mem_states_iff.2 ⟨w, hw, hd⟩)
    · exact fun hd => hmanual (mem_states_iff.2 ⟨w, hw, hd⟩)
    · exact fun hd => hdone (mem_states_iff.2 ⟨w, hw, hd⟩)
    · exact fun hd => hgone (mem_states_iff.2 ⟨w, hw, hd⟩)

/-- What a listing leaves of a delivery: what its group was brought to, or abandoned when no message
of it can exist. -/
structure ListedAs (s : Store) (w w' : TaskWait) : Prop extends Redelivered w w' where
  delivery : w'.delivery = (w.wakeGroup.bind (s.reconciledTarget s.taskWaits.rows)).getD w.delivery ∨
    w'.delivery = "abandoned" ∧ w.woken = true ∧
      (w.wakeGroup.bind (s.reconciledTarget s.taskWaits.rows)).getD w.delivery ≠ "sending"

section

variable {s s' : Store} {now : Time} {wakes : List TaskWaitWakeContext}

theorem taskWakesAwaitingDelivery_listed (h : s.taskWakesAwaitingDelivery now = .ok (s', wakes)) :
    Paired (ListedAs s) s.taskWaits s'.taskWaits := by
  refine (taskWakesAwaitingDelivery_ok h).2.mono ?_
  rintro w - w' - ⟨mid, rfl, hcase⟩
  obtain ⟨hsame, -, hdelivery⟩ := reconciledWait_spec s s.taskWaits.rows now w
  rcases hcase with ⟨hcloses, rfl⟩ | ⟨-, rfl⟩
  · simp only [closesWake, TaskWait.awaitsDelivery, TaskWait.maybeSent, TaskWait.woken,
      Bool.and_eq_true, Bool.not_eq_true', decide_eq_false_iff_not, not_or] at hcloses
    refine ⟨⟨hsame.wokenAt, hsame.key⟩, .inr ⟨rfl, ?_, ?_⟩⟩
    · exact hsame.woken ▸ hcloses.1.1.1
    · rw [← hdelivery]
      exact hcloses.2.1
  · exact ⟨hsame, .inl hdelivery⟩

variable {w' : TaskWait}

theorem ListedAs.of_member (h : ListedAs s w w') (hw : s.Member g w) :
    w'.delivery = (s.reconciledTarget s.taskWaits.rows g).getD w.delivery ∨
    w'.delivery = "abandoned" ∧
        (s.reconciledTarget s.taskWaits.rows g).getD w.delivery ≠ "sending" := by
  have hdelivery := h.delivery
  rw [hw.2, bind_some] at hdelivery
  exact hdelivery.imp_right fun habandoned => ⟨habandoned.1, habandoned.2.2⟩

theorem Underway.target_past (hunderway : s.Underway g)
    (h : s.reconciledTarget s.taskWaits.rows g = some target) :
    target ≠ "pending" ∧ target ≠ "held" := by
  rcases reconciledTarget_some h with hpast | ⟨-, ⟨v, hv, hheld⟩, hnone⟩
  · exact ⟨hpast.1, hpast.2.1⟩
  · rcases hunderway with ⟨u, hu, hsending⟩ | ⟨-, hnoheld⟩
    · exact absurd hsending (hnone u hu).1
    · exact absurd hheld (hnoheld v hv)

/-- A listing leaves a member of a group past its claim as it was, or past the claim. -/
theorem ListedAs.past (h : ListedAs s w w') (hw : s.Member g w) (hunderway : s.Underway g) :
    w'.delivery = w.delivery ∨ w'.delivery ≠ "pending" ∧ w'.delivery ≠ "held" := by
  rcases h.of_member hw with hbrought | ⟨habandoned, -⟩
  · cases htarget : s.reconciledTarget s.taskWaits.rows g with
    | none =>
      rw [htarget] at hbrought
      exact .inl hbrought
    | some target =>
      rw [hbrought, htarget]
      exact .inr (hunderway.target_past htarget)
  · rw [habandoned]
    exact .inr (by decide)

theorem underway_of_listed (h : Paired (ListedAs s) s.taskWaits s'.taskWaits)
    (hunderway : s.Underway g) : s'.Underway g := by
  have hback : ∀ w', s'.Member g w' → ∃ w, s.Member g w ∧ ListedAs s w w' := by
    intro w' hw'
    obtain ⟨w, hw, -, hlisted⟩ := h.backward w' hw'.1
    exact ⟨w, ⟨hw, hlisted.wakeGroup.symm.trans hw'.2⟩, hlisted⟩
  have hforth : ∀ w, s.Member g w → ∃ w', s'.Member g w' ∧ ListedAs s w w' := by
    intro w hw
    obtain ⟨w', hw', -, hlisted⟩ := h.forward w hw.1
    exact ⟨w', ⟨hw', hlisted.wakeGroup.trans hw.2⟩, hlisted⟩
  by_cases hkept : ∃ w', s'.Member g w' ∧ w'.delivery = "sending"
  · exact .inl hkept
  · -- A sent member is only lost to a target of the group, and no member is held after that.
    refine .inr ⟨?_, fun v' hv' => ?_⟩
    · obtain ⟨w, hw, hpast⟩ := hunderway.past
      obtain ⟨w', hw', hlisted⟩ := hforth w hw
      exact ⟨w', hw', (hlisted.past hw hunderway).elim (fun hsame => hsame ▸ hpast) id⟩
    · obtain ⟨v, hv, hlisted⟩ := hback v' hv'
      have hpast := hlisted.past hv hunderway
      rcases hunderway with ⟨u, hu, hsending⟩ | ⟨-, hnoheld⟩
      · obtain ⟨u', hu', hlisted'⟩ := hforth u hu
        have hsent := hlisted'.of_member hu
        cases htarget : s.reconciledTarget s.taskWaits.rows g with
        | none =>
          rw [htarget, getD_none, hsending] at hsent
          exact absurd ⟨u', hu', hsent.resolve_right fun h => h.2 rfl⟩ hkept
        | some target =>
          rcases hlisted.of_member hv with hbrought | ⟨habandoned, -⟩
          · rw [hbrought, htarget]
            exact (Underway.target_past (.inl ⟨u, hu, hsending⟩) htarget).2
          · rw [habandoned]
            decide
      · exact hpast.elim (fun hsame => hsame ▸ hnoheld v hv) And.right

end

/-! ## Passes and groups -/

section

variable {s s' : Store} {mark : String → WakeMark}

theorem PassedBy.of_woken {m : WakeMark} {w w' : TaskWait} (h : PassedBy Eq s s' m w w')
    (hwoken : w.woken = true) : KeptWake Eq w w' := by
  rcases h with h | ⟨hunwoken, -⟩
  · exact h
  · rw [hwoken] at hunwoken
    cases hunwoken

/-- A pass adds to a group only waits that were just woken, and none of them is held. -/
theorem underway_of_passed
    (h : Paired (fun w w' => PassedBy Eq s s' (mark w.attemptID) w w') s.taskWaits s'.taskWaits)
    (hunderway : s.Underway g) : s'.Underway g := by
  have hkept : ∀ w, s.Member g w → ∃ w', s'.Member g w' ∧ w'.delivery = w.delivery := by
    intro w hw
    obtain ⟨w', hw', -, hpassed⟩ := h.forward w hw.1
    have hsame := hpassed.of_woken hw.woken
    exact ⟨w', ⟨hw', hsame.wakeGroup.trans hw.2⟩, hsame.delivery⟩
  rcases hunderway with ⟨w, hw, hsending⟩ | ⟨⟨w, hw, hpending, hheld⟩, hnoheld⟩
  · obtain ⟨w', hw', hdelivery⟩ := hkept w hw
    exact .inl ⟨w', hw', hdelivery.trans hsending⟩
  · obtain ⟨w', hw', hdelivery⟩ := hkept w hw
    rw [← hdelivery] at hpending hheld
    refine .inr ⟨⟨w', hw', hpending, hheld⟩, fun v' hv' hv'held => ?_⟩
    obtain ⟨v, hv, -, hsame | ⟨-, hmarked, hmark, -⟩⟩ := h.backward v' hv'.1
    · exact hnoheld v ⟨hv, hsame.wakeGroup.symm.trans hv'.2⟩ (hsame.delivery.symm.trans hv'held)
    · rw [← hmarked.delivery, hv'held] at hmark
      rcases hmark with hmark | hmark <;> exact absurd hmark (by decide)

end

/-! ## Stores without traces of an older sender -/

def Uniform (s : Store) : Prop :=
  ∀ g w v, s.Member g w → s.Member g v → w.delivery = v.delivery

/-- A wait that was not woken has no message, and no message is named after one that may still
be. -/
structure FreshMessages (s : Store) : Prop where
  unwoken : ∀ w ∈ s.taskWaits.rows, w.woken = false → w.deliveryID = ""
  unnamed : ∀ u ∈ s.taskWaits.rows, u.woken = false → ∀ w ∈ s.taskWaits.rows, w.woken = true →
    ∀ n : Int, w.deliveryID ≠ "task-wake:" ++ u.id ++ ":" ++ toString n

def OneThread (s : Store) : Prop :=
  ∀ w ∈ s.taskWaits.rows, ∀ v ∈ s.taskWaits.rows, w.attemptID = v.attemptID → w.threadID = v.threadID

def OneGroup (s : Store) : Prop :=
  ∀ g g' w v, s.Member g w → s.Member g' v → w.deliveryID = v.deliveryID → g = g'

section

variable {s s' : Store}

theorem Member.key {w : TaskWait} (h : s.Member g w) : w.groupKey = g :=
  (wakeGroup_eq_some_iff.1 h.2).2.2

end

section

variable {s s' : Store} {mark : String → WakeMark} {D : String → String → Prop}

theorem FreshMessages.deliveryID_ne (hs : s.FreshMessages) {m : WakeMark} {u w : TaskWait}
    (hu : u ∈ s.taskWaits.rows) (hfirst : u.id = m.first) (hunwoken : u.woken = false)
    (hw : w ∈ s.taskWaits.rows) (hwoken : w.woken = true) : w.deliveryID ≠ m.deliveryID := by
  unfold WakeMark.deliveryID
  rw [← hfirst]
  exact hs.unnamed u hu hunwoken w hw hwoken m.revision

section

variable (h : Paired (fun w w' => PassedBy D s s' (mark w.attemptID) w w') s.taskWaits s'.taskWaits)
include h

/-- A wait a transaction leaves in a group: a member before, or one that was just woken under the
mark of its attempt. -/
theorem member_of_passed (hs : s.FreshMessages) {w' : TaskWait} (hw' : s'.Member g w') :
    (∃ w, s.Member g w ∧ KeptWake D w w') ∨
      w'.delivery = (mark w'.attemptID).delivery ∧ w'.deliveryID = (mark w'.attemptID).deliveryID ∧
        w'.wakeRevision = (mark w'.attemptID).revision ∧
        ∃ u ∈ s.taskWaits.rows, u.id = (mark w'.attemptID).first ∧ u.attemptID = w'.attemptID ∧
          u.woken = false := by
  obtain ⟨w, hw, -, hpassed⟩ := h.backward w' hw'.1
  have hattempt := hpassed.attemptID
  rcases hpassed with hsame | ⟨hunwoken, hmarked, -, ⟨u, hu, hfirst, hown, huw⟩, -⟩
  · exact .inl ⟨w, ⟨hw, hsame.wakeGroup.symm.trans hw'.2⟩, hsame⟩
  · have hid := hmarked.deliveryID
    rw [if_pos (hs.unwoken w hw hunwoken)] at hid
    rw [hattempt]
    exact .inr ⟨hmarked.delivery, hid, hmarked.wakeRevision, u, hu, hfirst, hown, huw⟩

theorem fresh_of_passed (hs : s.FreshMessages) : s'.FreshMessages := by
  have hunwoken : ∀ u' ∈ s'.taskWaits.rows, u'.woken = false →
      ∃ u ∈ s.taskWaits.rows, u'.id = u.id ∧ u.woken = false ∧ KeptWake D u u' := by
    intro u' hu' hu'woken
    obtain ⟨u, hu, hid, hsame | ⟨-, hmarked, -⟩⟩ := h.backward u' hu'
    · exact ⟨u, hu, hid, hsame.woken ▸ hu'woken, hsame⟩
    · rw [hmarked.woken] at hu'woken
      cases hu'woken
  constructor
  · intro w' hw' hw'woken
    obtain ⟨w, hw, -, hwoken, hsame⟩ := hunwoken w' hw' hw'woken
    exact hsame.deliveryID.trans (hs.unwoken w hw hwoken)
  · intro u' hu' hu'woken w' hw' hw'woken n
    obtain ⟨u, hu, huid, huwoken, -⟩ := hunwoken u' hu' hu'woken
    obtain ⟨w, hw, -, hsame | ⟨hwwoken, hmarked, -, -, v, hv, hvid, hvwoken⟩⟩ := h.backward w' hw'
    · rw [hsame.deliveryID, huid]
      exact hs.unnamed u hu huwoken w hw (hsame.woken ▸ hw'woken) n
    · -- The set's first member is woken by now, so it is not the wait the message is named after.
      rw [hmarked.deliveryID, if_pos (hs.unwoken w hw hwwoken)]
      refine WakeMark.deliveryID_ne fun hfirst => ?_
      have hsame := eq_of_key_eq hv hu' (hvid.trans hfirst)
      rw [hsame, hu'woken] at hvwoken
      cases hvwoken

theorem oneThread_of_passed (hs : s.OneThread) : s'.OneThread := by
  intro w' hw' v' hv' hattempt
  obtain ⟨w, hw, -, hpassed⟩ := h.backward w' hw'
  obtain ⟨v, hv, -, hpassed'⟩ := h.backward v' hv'
  rw [hpassed.threadID, hpassed'.threadID]
  exact hs w hw v hv (hpassed.attemptID.symm.trans (hattempt.trans hpassed'.attemptID))

theorem oneGroup_of_passed (hfresh : s.FreshMessages) (hthread : s.OneThread) (hs : s.OneGroup) :
    s'.OneGroup := by
  have hthread' := oneThread_of_passed h hthread
  intro g g' w' v' hw' hv' hid
  rcases member_of_passed h hfresh hw' with
    ⟨w, hw, hsame⟩ | ⟨-, hwid, hrevision, u, hu, hfirst, hown, huw⟩
  · rcases member_of_passed h hfresh hv' with ⟨v, hv, hsame'⟩ | ⟨-, hvid, -, u, hu, hfirst, -, huw⟩
    · refine hs g g' w v hw hv ?_
      exact hsame.deliveryID.symm.trans (hid.trans hsame'.deliveryID)
    · exact absurd (hsame.deliveryID.symm.trans (hid.trans hvid))
        (hfresh.deliveryID_ne hu hfirst huw hw.1 hw.woken)
  · rcases member_of_passed h hfresh hv' with
      ⟨v, hv, hsame'⟩ | ⟨-, hvid, hrevision', u', hu', hfirst', hown', -⟩
    · exact absurd (hsame'.deliveryID.symm.trans (hid.symm.trans hwid))
        (hfresh.deliveryID_ne hu hfirst huw hv.1 hv.woken)
    · -- The message names the first wait of its set, and that wait has one attempt.
      have hname : u.id = u'.id := by
        rw [hfirst, hfirst']
        by_contra hne
        exact WakeMark.deliveryID_ne hne (hwid.symm.trans (hid.trans hvid))
      have hattempt : w'.attemptID = v'.attemptID := by
        rw [← hown, ← hown', eq_of_key_eq hu hu' hname]
      rw [← hw'.key, ← hv'.key]
      unfold TaskWait.groupKey
      rw [hthread' w' hw'.1 v' hv'.1 hattempt, hrevision, hrevision', hid, hattempt]

end

theorem uniform_of_passed
    (h : Paired (fun w w' => PassedBy Eq s s' (mark w.attemptID) w w') s.taskWaits s'.taskWaits)
    (hfresh : s.FreshMessages) (hs : s.Uniform) : s'.Uniform := by
  intro g w' v' hw' hv'
  have hid : w'.deliveryID = v'.deliveryID :=
    congrArg WakeGroup.deliveryID (hw'.key.trans hv'.key.symm)
  have hattempt : w'.attemptID = v'.attemptID :=
    congrArg WakeGroup.attemptID (hw'.key.trans hv'.key.symm)
  rcases member_of_passed h hfresh hw' with ⟨w, hw, hsame⟩ | ⟨hd, hwid, -, u, hu, hfirst, -, huw⟩
  · rcases member_of_passed h hfresh hv' with ⟨v, hv, hsame'⟩ | ⟨-, hvid, -, u, hu, hfirst, -, huw⟩
    · exact hsame.delivery.trans ((hs g w v hw hv).trans hsame'.delivery.symm)
    · exact absurd (hsame.deliveryID.symm.trans (hid.trans hvid))
        (hfresh.deliveryID_ne hu hfirst huw hw.1 hw.woken)
  · rcases member_of_passed h hfresh hv' with ⟨v, hv, hsame'⟩ | ⟨hd', -⟩
    · exact absurd (hsame'.deliveryID.symm.trans (hid.symm.trans hwid))
        (hfresh.deliveryID_ne hu hfirst huw hv.1 hv.woken)
    · rw [hd, hd', hattempt]

end

/-! ### A listing -/

section

variable {s s' : Store} {now : Time} {wakes : List TaskWaitWakeContext}

theorem closesWake_congr {w v : TaskWait} (hwoken : w.woken = v.woken)
    (hkey : w.groupKey = v.groupKey)
    (hdelivery : w.delivery = v.delivery) : s.closesWake w = s.closesWake v := by
  have hattempt : w.attemptID = v.attemptID := congrArg WakeGroup.attemptID hkey
  have hrevision : w.wakeRevision = v.wakeRevision := congrArg WakeGroup.wakeRevision hkey
  have hstale : w.stale = v.stale := by
    funext attempt
    rw [TaskWait.stale, TaskWait.stale, hrevision]
  have hsent : w.maybeSent = v.maybeSent := by rw [TaskWait.maybeSent, TaskWait.maybeSent, hdelivery]
  unfold closesWake
  by_cases hdelivered : w.delivery = "delivered"
  · -- A delivered wake is kept for observation, whatever else is known of it.
    have hkept : w.maybeSent = true := by simp [TaskWait.maybeSent, hdelivered]
    rw [← hsent, hkept, Bool.not_true, Bool.and_false, Bool.and_false]
  · have hdelivered' : v.delivery ≠ "delivered" := hdelivery ▸ hdelivered
    have hawaits : w.awaitsDelivery = v.awaitsDelivery := by
      simp [TaskWait.awaitsDelivery, hwoken, hdelivery, hdelivered']
    rw [hawaits, hattempt, hstale, hsent]

theorem uniform_of_listed (hs : s.Uniform) (h : s.taskWakesAwaitingDelivery now = .ok (s', wakes)) :
    s'.Uniform := by
  intro g w' v' hw' hv'
  have hback : ∀ u', s'.Member g u' → ∃ u mid, s.Member g u ∧ mid.woken = true ∧ mid.groupKey = g ∧
      mid.delivery = (s.reconciledTarget s.taskWaits.rows g).getD u.delivery ∧
      u'.delivery = if s.closesWake mid then "abandoned" else mid.delivery := by
    intro u' hu'
    obtain ⟨u, hu, -, mid, rfl, hlast⟩ := (taskWakesAwaitingDelivery_ok h).2.backward u' hu'.1
    obtain ⟨hsame, -, hdelivery⟩ := reconciledWait_spec s s.taskWaits.rows now u
    have hredelivered : Redelivered u u' := by
      rcases hlast with ⟨-, rfl⟩ | ⟨-, rfl⟩ <;> exact ⟨hsame.wokenAt, hsame.key⟩
    have hmember : s.Member g u := ⟨hu, hredelivered.wakeGroup.symm.trans hu'.2⟩
    rw [hmember.2, bind_some] at hdelivery
    refine ⟨u, _, hmember, ?_, hsame.key.trans hmember.key, hdelivery, ?_⟩
    · exact hsame.woken.trans hmember.woken
    · rcases hlast with ⟨hcloses, rfl⟩ | ⟨hcloses, rfl⟩ <;> rw [hcloses] <;> rfl
  obtain ⟨w, midw, hw, hwoken, hkey, hdelivery, hlast⟩ := hback w' hw'
  obtain ⟨v, midv, hv, hwoken', hkey', hdelivery', hlast'⟩ := hback v' hv'
  have hsame : midw.delivery = midv.delivery := by rw [hdelivery, hdelivery', hs g w v hw hv]
  have hcloses : s.closesWake midw = s.closesWake midv :=
    closesWake_congr (hwoken.trans hwoken'.symm) (hkey.trans hkey'.symm) hsame
  rw [hlast, hlast', hcloses, hsame]

theorem reconciledTarget_of_uniform (hs : s.Uniform) {target : String}
    (h : s.reconciledTarget s.taskWaits.rows g = some target) :
    target = "manual-recovery-required" := by
  unfold reconciledTarget at h
  dsimp only at h
  split_ifs at h with hfew
  generalize hmembers : (s.taskWaits.rows.filter fun w => w.wakeGroup = some g) = members at h hfew
  have hmember : ∀ w ∈ members, s.Member g w := by
    intro w hw
    rw [← hmembers] at hw
    simpa [Member] using hw
  have hone : (members.map TaskWait.delivery).dedup.length = 1 := by
    obtain ⟨w, rest, rfl⟩ : ∃ w rest, members = w :: rest :=
      exists_cons_of_ne_nil fun hnil => hfew (by rw [hnil]; decide)
    have hall : (w :: rest).map TaskWait.delivery = replicate (w :: rest).length w.delivery := by
      refine eq_replicate_iff.2 ⟨by rw [length_map], fun d hd => ?_⟩
      obtain ⟨v, hv, rfl⟩ := mem_map.1 hd
      exact hs g v w (hmember v hv) (hmember w (.head _))
    rw [hall, replicate_dedup (by simp)]
    rfl
  unfold wakeGroupTarget at h
  split_ifs at h
  exact (some.inj h).symm

end

end Steward.Store
