import Steward.Backlog.DagOperations

/-!
# The readiness invariant

Every operation changes some attempts in place and then refreshes all of them. `InPlace` relates the
attempts before and after position by position, so that a task's current attempt after it is the
changed one from before. A refresh moves only attempts that wait, and leaves each ready exactly when
nothing blocks it.
-/

namespace Steward

open List
open Relation (ReflTransGen TransGen)

/-! ## Attempts changed in place -/

/-- An attempt changed as `R` allows, with its identity, task, number and verdict kept. -/
structure ChangedTo (R : Attempt → Attempt → Prop) (a b : Attempt) : Prop where
  id : b.id = a.id
  taskID : b.taskID = a.taskID
  number : b.number = a.number
  reviewVerdict : b.reviewVerdict = a.reviewVerdict
  rel : R a b

def InPlace (R : Attempt → Attempt → Prop) (before after : List Attempt) : Prop :=
  Forall₂ (ChangedTo R) before after

section InPlace

variable {R S : Attempt → Attempt → Prop} {before after : List Attempt}

theorem ChangedTo.refl (hrefl : ∀ a, R a a) (a : Attempt) : ChangedTo R a a :=
  ⟨rfl, rfl, rfl, rfl, hrefl a⟩

theorem InPlace.refl (hrefl : ∀ a, R a a) (attempts : List Attempt) : InPlace R attempts attempts :=
  forall₂_same.2 fun a _ => .refl hrefl a

theorem InPlace.imp (h : InPlace R before after) (himp : ∀ a b, R a b → S a b) :
    InPlace S before after :=
  Forall₂.imp (fun a b hab =>
    ⟨hab.id, hab.taskID, hab.number, hab.reviewVerdict, himp a b hab.rel⟩) h

theorem InPlace.trans {last : List Attempt} (htrans : ∀ a b c, R a b → R b c → R a c)
    (h : InPlace R before after) (h' : InPlace R after last) : InPlace R before last := by
  induction h generalizing last with
  | nil =>
    cases h'
    exact .nil
  | cons hab _ ih =>
    cases h' with
    | cons hbc hrest =>
      refine .cons ⟨hbc.id.trans hab.id, hbc.taskID.trans hab.taskID, hbc.number.trans hab.number,
        hbc.reviewVerdict.trans hab.reviewVerdict, htrans _ _ _ hab.rel hbc.rel⟩ (ih hrest)

theorem inPlace_setAttempt {id : String} {f : Attempt → Attempt}
    (hsame : ∀ a ∈ before, a.id ≠ id → R a a) (hf : ∀ a ∈ before, a.id = id → ChangedTo R a (f a)) :
    InPlace R before (setAttempt before id f) := by
  unfold InPlace setAttempt
  rw [forall₂_map_right_iff]
  refine forall₂_same.2 fun a ha => ?_
  split_ifs with hid
  · exact hf a ha hid
  · exact ⟨rfl, rfl, rfl, rfl, hsame a ha hid⟩

theorem InPlace.ids (h : InPlace R before after) : after.map Attempt.id = before.map Attempt.id := by
  induction h with
  | nil => rfl
  | cons hab _ ih => rw [map_cons, map_cons, hab.id, ih]

theorem exists_of_forall₂ {α β : Type} {P : α → β → Prop} {l : List α} {l' : List β}
    (h : Forall₂ P l l') {a : α} (ha : a ∈ l) : ∃ b ∈ l', P a b := by
  induction h with
  | nil => cases ha
  | cons hab _ ih =>
    rcases mem_cons.1 ha with rfl | ha
    · exact ⟨_, (.head _), hab⟩
    · obtain ⟨b, hb, hrel⟩ := ih ha
      exact ⟨b, .tail _ hb, hrel⟩

theorem InPlace.exists_before (h : InPlace R before after) {b : Attempt} (hb : b ∈ after) :
    ∃ a ∈ before, ChangedTo R a b :=
  exists_of_forall₂ h.flip hb

variable {taskID : String} {a : Attempt} {attempts : List Attempt}

theorem InPlace.exists_after (h : InPlace R before after) (ha : a ∈ before) :
    ∃ b ∈ after, ChangedTo R a b :=
  exists_of_forall₂ h ha

theorem InPlace.latest (h : InPlace R before after) (taskID : String) :
    Option.Rel (ChangedTo R) (latestAttempt before taskID) (latestAttempt after taskID) := by
  suffices hfold : ∀ first last : Option Attempt, Option.Rel (ChangedTo R) first last →
      Option.Rel (ChangedTo R) (before.foldl (fun latest a =>
          if a.taskID = taskID ∧ (latest.all fun l => l.number < a.number) then some a else latest)
          first)
        (after.foldl (fun latest a =>
          if a.taskID = taskID ∧ (latest.all fun l => l.number < a.number) then some a else latest)
          last) from hfold none none .none
  induction h with
  | nil => exact fun _ _ hrel => hrel
  | @cons a b _ _ hab _ ih =>
    intro first last hrel
    refine ih _ _ ?_
    dsimp only
    rw [hab.taskID, hab.number]
    cases hrel with
    | none =>
      by_cases hown : a.taskID = taskID
      · simpa [hown] using Option.Rel.some hab
      · simp [hown]
    | @some c d hcd =>
      simp only [Option.all_some, hcd.number]
      split_ifs
      · exact .some hab
      · exact .some hcd

theorem InPlace.latest_isSome (h : InPlace R before after)
    (hsome : (latestAttempt before taskID).isSome = true) :
    (latestAttempt after taskID).isSome = true := by
  have hlatest := h.latest taskID
  generalize latestAttempt before taskID = first, latestAttempt after taskID = last at hlatest hsome
  cases hlatest with
  | none => exact hsome
  | some _ => rfl

theorem InPlace.current (hrefl : ∀ a, R a a) (h : InPlace R before after) (taskID : String) :
    ChangedTo R (currentTaskAttempt before taskID) (currentTaskAttempt after taskID) := by
  have hlatest := h.latest taskID
  unfold currentTaskAttempt
  generalize latestAttempt before taskID = first, latestAttempt after taskID = last at hlatest
  cases hlatest with
  | none => exact .refl hrefl _
  | some hab => exact hab

theorem latestAttempt_isSome (h : ∃ a ∈ attempts, a.taskID = taskID) :
    (latestAttempt attempts taskID).isSome = true := by
  obtain ⟨a, ha, hown⟩ := h
  rw [latestAttempt_eq_argmax, Option.isSome_iff_ne_none]
  intro hnone
  have hempty := argmax_eq_none.1 hnone
  have hmem : a ∈ attempts.filter fun a => a.taskID = taskID :=
    mem_filter.2 ⟨ha, decide_eq_true hown⟩
  rw [hempty] at hmem
  cases hmem

theorem latestAttempt_spec (h : latestAttempt attempts taskID = some a) :
    a ∈ attempts ∧ a.taskID = taskID ∧ ∀ b ∈ attempts, b.taskID = taskID → b.number ≤ a.number := by
  rw [latestAttempt_eq_argmax] at h
  have hmem := mem_filter.1 (argmax_mem h)
  refine ⟨hmem.1, of_decide_eq_true hmem.2, fun b hb hown => ?_⟩
  exact le_of_mem_argmax (mem_filter.2 ⟨hb, decide_eq_true hown⟩) h

theorem latest_of_current (h : (currentTaskAttempt attempts taskID).progress ≠ .unset) :
    latestAttempt attempts taskID = some (currentTaskAttempt attempts taskID) := by
  unfold currentTaskAttempt at h ⊢
  cases hlatest : latestAttempt attempts taskID with
  | none =>
    rw [hlatest] at h
    exact absurd rfl h
  | some a => rfl

theorem eq_current_of_id (hids : (attempts.map Attempt.id).Nodup)
    (hcurrent : (currentTaskAttempt attempts taskID).progress ≠ .unset) (ha : a ∈ attempts)
    (hid : a.id = (currentTaskAttempt attempts taskID).id) :
    a = currentTaskAttempt attempts taskID ∧ a.taskID = taskID := by
  obtain ⟨hmem, hown, -⟩ := latestAttempt_spec (latest_of_current hcurrent)
  obtain rfl := inj_on_of_nodup_map hids ha hmem hid
  exact ⟨rfl, hown⟩

end InPlace

/-! ## What a refresh changes -/

def Attempt.waits (a : Attempt) : Prop := a.progress = .blocked ∨ a.progress = .ready

def Waits (a b : Attempt) : Prop := b = a ∨ a.waits ∧ b.waits

def Refreshed (a b : Attempt) : Prop := b = a ∨ a.waits ∧ (b.waits ∨ b.progress = .skipped)

theorem changed_trans {P Q : Attempt → Prop} {a b c : Attempt} (h : b = a ∨ P a ∧ Q b)
    (h' : c = b ∨ P b ∧ Q c) : c = a ∨ P a ∧ Q c := by
  rcases h with rfl | ⟨ha, hb⟩
  · exact h'
  · rcases h' with rfl | ⟨-, hc⟩
    · exact .inr ⟨ha, hb⟩
    · exact .inr ⟨ha, hc⟩

theorem waits_refl (a : Attempt) : Waits a a := .inl rfl

theorem waits_trans (a b c : Attempt) (h : Waits a b) (h' : Waits b c) : Waits a c :=
  changed_trans h h'

theorem refreshed_trans (a b c : Attempt) (h : Refreshed a b) (h' : Refreshed b c) : Refreshed a c :=
  changed_trans (Q := fun b => b.waits ∨ b.progress = .skipped) h h'

theorem Waits.refreshed (a b : Attempt) (h : Waits a b) : Refreshed a b :=
  h.imp id fun ⟨ha, hb⟩ => ⟨ha, .inl hb⟩

variable {a b : Attempt}

theorem Refreshed.eq_of_not_waits (h : Refreshed a b) (ha : ¬a.waits) : b = a :=
  h.resolve_right fun hchanged => ha hchanged.1

theorem skipAt_changedTo {R : Attempt → Attempt → Prop} {reason : String} {now : Time}
    (h : R a (a.skipAt reason now)) : ChangedTo R a (a.skipAt reason now) := by
  refine ⟨?_, ?_, ?_, ?_, h⟩ <;>
    · unfold Attempt.skipAt Attempt.skip
      split_ifs <;> rfl

theorem skipAt_progress (a : Attempt) (reason : String) (now : Time) :
    (a.skipAt reason now).progress = .skipped := by
  unfold Attempt.skipAt Attempt.skip
  split_ifs <;> rfl

theorem refreshed_changedTo {R : Attempt → Attempt → Prop} {blockers : List String}
    (h : R a (a.refreshed blockers)) : ChangedTo R a (a.refreshed blockers) := by
  refine ⟨?_, ?_, ?_, ?_, h⟩ <;>
    · unfold Attempt.refreshed
      split_ifs <;> rfl

theorem refreshed_waits (a : Attempt) (blockers : List String) : (a.refreshed blockers).waits := by
  unfold Attempt.refreshed Attempt.waits
  split_ifs
  · exact .inr rfl
  · exact .inl rfl

/-! ## Current attempts replaced -/

section Puts

variable {R : Attempt → Attempt → Prop} {before after : List Attempt} {taskID : String}

/-- The current attempt of a task is changed as `R` allows. -/
def Puts (R : Attempt → Attempt → Prop) (before after : List Attempt) : Prop :=
  ∃ taskID f, (currentTaskAttempt before taskID).progress ≠ .unset ∧
    ChangedTo R (currentTaskAttempt before taskID) (f (currentTaskAttempt before taskID)) ∧
    after = setAttempt before (currentTaskAttempt before taskID).id f

variable (hids : (before.map Attempt.id).Nodup)

include hids

theorem Puts.inPlace (hrefl : ∀ a, R a a) (h : Puts R before after) : InPlace R before after := by
  obtain ⟨taskID, f, hcurrent, hchange, rfl⟩ := h
  refine inPlace_setAttempt (fun a _ _ => hrefl a) fun a ha hid => ?_
  obtain ⟨rfl, -⟩ := eq_current_of_id hids hcurrent ha hid
  exact hchange

theorem inPlace_of_puts (hrefl : ∀ a, R a a) (htrans : ∀ a b c, R a b → R b c → R a c)
    (h : ReflTransGen (Puts R) before after) : InPlace R before after := by
  induction h with
  | refl => exact .refl hrefl _
  | tail _ hstep ih => exact ih.trans htrans (hstep.inPlace (by rw [ih.ids]; exact hids) hrefl)

theorem current_setAttempt {f : Attempt → Attempt}
    (hcurrent : (currentTaskAttempt before taskID).progress ≠ .unset)
    (hf : ChangedTo R (currentTaskAttempt before taskID) (f (currentTaskAttempt before taskID)))
    (other : String) :
    currentTaskAttempt (setAttempt before (currentTaskAttempt before taskID).id f) other =
      if other = taskID then f (currentTaskAttempt before taskID)
      else currentTaskAttempt before other := by
  have hlatest := latest_of_current hcurrent
  have hfound : ∀ a, a ∈ before → a.id = (currentTaskAttempt before taskID).id →
      a = currentTaskAttempt before taskID := fun a ha hid => (eq_current_of_id hids hcurrent ha hid).1
  generalize currentTaskAttempt before taskID = cur at *
  have hchange : InPlace (fun a b => b = if a = cur then f cur else a) before
      (setAttempt before cur.id f) := by
    refine inPlace_setAttempt (fun a _ hne => ?_) fun a ha hid => ?_
    · rw [if_neg fun h => hne (by rw [h])]
    · rw [hfound a ha hid]
      exact ⟨hf.id, hf.taskID, hf.number, hf.reviewVerdict, (if_pos rfl).symm⟩
  have hother := hchange.latest other
  unfold currentTaskAttempt
  generalize latestAttempt (setAttempt before cur.id f) other = last at hother ⊢
  cases hbefore : latestAttempt before other with
  | none =>
    rw [if_neg fun h => by rw [h, hlatest] at hbefore; cases hbefore]
    rw [hbefore] at hother
    cases hother
    rfl
  | some a =>
    have hcur : a = cur ↔ other = taskID := by
      constructor
      · rintro rfl
        exact (latestAttempt_spec hbefore).2.1.symm.trans (latestAttempt_spec hlatest).2.1
      · rintro rfl
        exact Option.some.inj (hbefore.symm.trans hlatest)
    rw [hbefore] at hother
    cases hother with
    | some hab =>
      have hrel := hab.rel
      simp only [hcur] at hrel
      exact hrel

end Puts

/-! ## Sweeps -/

section Sweeps

variable {tasks : List Task} {now : Time} {before after attempts : List Attempt}

/-- A task that has not started is skipped because its branch is not taken. -/
def Skips (tasks : List Task) (now : Time) (before after : List Attempt) : Prop :=
  ∃ t ∈ tasks, ∃ reason, (currentTaskAttempt before t.id).unstarted = true ∧
    verdictSkipReason tasks before t = some reason ∧
    after = setAttempt before (currentTaskAttempt before t.id).id fun a => a.skipAt reason now

def Swept (tasks : List Task) (attempts : List Attempt) : Prop :=
  ∀ t ∈ tasks, (currentTaskAttempt attempts t.id).unstarted = true →
    verdictSkipReason tasks attempts t = none

theorem waits_of_unstarted (h : a.unstarted = true) : a.waits := by
  simp only [Attempt.unstarted, decide_eq_true_eq] at h
  exact h.2

theorem ne_unset_of_waits (h : a.waits) : a.progress ≠ .unset := by
  rcases h with h | h <;> simp [h]

theorem Skips.puts (h : Skips tasks now before after) : Puts Refreshed before after := by
  obtain ⟨t, -, reason, hopen, -, rfl⟩ := h
  refine ⟨t.id, _, ne_unset_of_waits (waits_of_unstarted hopen), skipAt_changedTo ?_, rfl⟩
  exact .inr ⟨waits_of_unstarted hopen, .inr (skipAt_progress _ _ _)⟩

theorem skips_inPlace (hids : (before.map Attempt.id).Nodup)
    (h : ReflTransGen (Skips tasks now) before after) : InPlace Refreshed before after :=
  inPlace_of_puts hids (fun _ => .inl rfl) refreshed_trans
    (ReflTransGen.mono (fun _ _ => Skips.puts) _ _ h)

theorem Skips.current (hids : (before.map Attempt.id).Nodup) (h : Skips tasks now before after) :
    ∃ t ∈ tasks, ∃ reason, (currentTaskAttempt before t.id).unstarted = true ∧
      verdictSkipReason tasks before t = some reason ∧
      ∀ taskID, currentTaskAttempt after taskID =
        if taskID = t.id then (currentTaskAttempt before t.id).skipAt reason now
        else currentTaskAttempt before taskID := by
  obtain ⟨t, ht, reason, hopen, hreason, rfl⟩ := h
  refine ⟨t, ht, reason, hopen, hreason, current_setAttempt hids
    (ne_unset_of_waits (waits_of_unstarted hopen)) (skipAt_changedTo (R := fun _ _ => True) trivial)⟩

def openBranches (tasks : List Task) (attempts : List Attempt) : List Task :=
  tasks.filter fun t => (currentTaskAttempt attempts t.id).unstarted

theorem Skips.openBranches_lt (hids : (before.map Attempt.id).Nodup)
    (h : Skips tasks now before after) :
    (openBranches tasks after).length < (openBranches tasks before).length := by
  obtain ⟨t, ht, reason, hopen, -, hafter⟩ := h.current hids
  have hfilter : openBranches tasks after =
      (openBranches tasks before).filter fun u => decide (u.id ≠ t.id) := by
    unfold openBranches
    rw [filter_filter]
    refine filter_congr fun u _ => ?_
    rw [hafter]
    split_ifs with hid <;> simp [hid, Attempt.unstarted, skipAt_progress]
  rw [hfilter]
  exact length_filter_lt_length_iff_exists.2 ⟨t, mem_filter.2 ⟨ht, hopen⟩, by simp⟩

theorem openBranches_lt_of_skips (hids : (before.map Attempt.id).Nodup)
    (h : TransGen (Skips tasks now) before after) :
    (openBranches tasks after).length < (openBranches tasks before).length := by
  induction h with
  | single h => exact h.openBranches_lt hids
  | tail hfirst hlast ih =>
    refine (hlast.openBranches_lt ?_).trans ih
    rw [(skips_inPlace hids hfirst.to_reflTransGen).ids]
    exact hids

/-- One step of a sweep leaves the attempts and the flag, or skips a task and raises it. -/
theorem skipVerdictBranchAt_cases (now : Time) {t : Task} (ht : t ∈ tasks)
    (acc : List Attempt × Bool) : skipVerdictBranchAt tasks now acc t = acc ∧
        ((currentTaskAttempt acc.1 t.id).unstarted = true → verdictSkipReason tasks acc.1 t = none) ∨
      ∃ attempts, skipVerdictBranchAt tasks now acc t = (attempts, true) ∧
        Skips tasks now acc.1 attempts := by
  unfold skipVerdictBranchAt
  dsimp only
  split
  · rename_i reason hreason
    split_ifs with hopen
    · exact .inr ⟨_, rfl, t, ht, reason, hopen, hreason, rfl⟩
    · exact .inl ⟨rfl, fun h => absurd h hopen⟩
  · rename_i hnone
    exact .inl ⟨rfl, fun _ => hnone⟩

theorem sweep_cases (now : Time) (items : List Task) (hitems : items ⊆ tasks)
    (acc : List Attempt × Bool) : items.foldl (skipVerdictBranchAt tasks now) acc = acc ∧
        (∀ t ∈ items, (currentTaskAttempt acc.1 t.id).unstarted = true →
          verdictSkipReason tasks acc.1 t = none) ∨
      ∃ attempts, items.foldl (skipVerdictBranchAt tasks now) acc = (attempts, true) ∧
        TransGen (Skips tasks now) acc.1 attempts := by
  induction items generalizing acc with
  | nil => exact .inl ⟨rfl, by simp⟩
  | cons t items ih =>
    obtain ⟨ht, hitems⟩ := cons_subset.1 hitems
    rw [foldl_cons]
    rcases skipVerdictBranchAt_cases now ht acc with ⟨hsame, hnone⟩ | ⟨first, hskip, hstep⟩
    · rw [hsame]
      rcases ih hitems acc with ⟨hrest, hnone'⟩ | hskips
      · exact .inl ⟨hrest, forall_mem_cons.2 ⟨hnone, hnone'⟩⟩
      · exact .inr hskips
    · rw [hskip]
      rcases ih hitems (first, true) with ⟨hrest, -⟩ | ⟨last, hrest, hskips⟩
      · exact .inr ⟨first, hrest, .single hstep⟩
      · exact .inr ⟨last, hrest, .head hstep hskips⟩

/-- Sweeping more often than there are open branches leaves none to skip: the loop of the code ends
within the sweeps it is given here. -/
theorem refreshVerdictBranchesAt_spec {fuel : Nat} (now : Time)
    (hids : (attempts.map Attempt.id).Nodup) (hfuel : (openBranches tasks attempts).length < fuel) :
    ReflTransGen (Skips tasks now) attempts (refreshVerdictBranchesAt tasks now fuel attempts) ∧
      Swept tasks (refreshVerdictBranchesAt tasks now fuel attempts) := by
  induction fuel generalizing attempts with
  | zero => exact absurd hfuel (Nat.not_lt_zero _)
  | succ fuel ih =>
    unfold refreshVerdictBranchesAt
    rcases sweep_cases now tasks (Subset.refl _) (attempts, false) with
      ⟨hsame, hnone⟩ | ⟨swept, hsweep, hskips⟩
    · rw [hsame]
      exact ⟨.refl, hnone⟩
    · rw [hsweep, if_pos rfl]
      obtain ⟨hrest, hswept⟩ := ih (by rw [(skips_inPlace hids hskips.to_reflTransGen).ids]; exact hids)
        (Nat.lt_of_lt_of_le (openBranches_lt_of_skips hids hskips) (Nat.le_of_lt_succ hfuel))
      exact ⟨hskips.to_reflTransGen.trans hrest, hswept⟩

end Sweeps

/-! ## What waiting depends on -/

theorem Waits.progress_of_not_waits (h : Waits a b) {p : ProgressState} (hblocked : p ≠ .blocked)
    (hready : p ≠ .ready) : b.progress = p ↔ a.progress = p := by
  rcases h with rfl | ⟨ha, hb⟩
  · exact Iff.rfl
  · have hne : ∀ {q : ProgressState}, q = .blocked ∨ q = .ready → q ≠ p := by
      rintro q (rfl | rfl)
      · exact hblocked.symm
      · exact hready.symm
    exact iff_of_false (hne hb) (hne ha)

theorem Waits.terminal (h : Waits a b) : b.progress.terminal = a.progress.terminal := by
  rcases h with rfl | ⟨ha | ha, hb | hb⟩
  · rfl
  all_goals simp [ha, hb, ProgressState.terminal]

section Waiting

variable {before after : List Attempt} (h : InPlace Waits before after)

include h

theorem taskSucceeded_inPlace (taskID : String) :
    taskSucceeded after taskID = taskSucceeded before taskID := by
  unfold taskSucceeded
  induction h with
  | nil => rfl
  | cons hab _ ih =>
    have hsucceeded := hab.rel.progress_of_not_waits (p := .succeeded) (by decide) (by decide)
    simp only [any_cons, hab.taskID, hsucceeded, ih]

theorem verdictSatisfied_inPlace (task dependency : Task) :
    verdictSatisfied after task dependency = verdictSatisfied before task dependency := by
  have hcurrent := h.current waits_refl dependency.id
  have hsucceeded := hcurrent.rel.progress_of_not_waits (p := .succeeded) (by decide) (by decide)
  unfold verdictSatisfied
  split
  · rfl
  · simp only [hsucceeded, hcurrent.reviewVerdict]

theorem dependencyBlockers_inPlace (state : DAGState) (task : Task) :
    dependencyBlockers { state with attempts := after } task =
      dependencyBlockers { state with attempts := before } task := by
  unfold dependencyBlockers
  simp only [taskSucceeded_inPlace h, verdictSatisfied_inPlace h,
    (h.current waits_refl _).rel.terminal]

end Waiting

/-! ## Readiness -/

def Settled (s : DAGState) (task : Task) : Prop :=
  taskSucceeded s.attempts task.id = false → (currentTaskAttempt s.attempts task.id).waits →
    ((currentTaskAttempt s.attempts task.id).progress = .ready ↔ dependencyBlockers s task = [])

instance (a : Attempt) : Decidable a.waits := inferInstanceAs (Decidable (_ ∨ _))

/-- The current attempt of a task as refreshing the task leaves it. -/
def refreshedCurrent (s : DAGState) (t : Task) : Attempt :=
  let current := currentTaskAttempt s.attempts t.id
  if taskSucceeded s.attempts t.id = false ∧ current.waits then
    current.refreshed (dependencyBlockers s t)
  else current

section RefreshTasks

variable {s : DAGState} {t : Task}

theorem refreshedCurrent_inPlace {before after : List Attempt} (h : InPlace Waits before after)
    (hcurrent : currentTaskAttempt after t.id = currentTaskAttempt before t.id) :
    refreshedCurrent { s with attempts := after } t = refreshedCurrent { s with attempts := before }
      t := by
  unfold refreshedCurrent
  simp only [taskSucceeded_inPlace h, dependencyBlockers_inPlace h, hcurrent]

theorem settled_of_refreshedCurrent {before after : List Attempt} (h : InPlace Waits before after)
    (hcurrent : currentTaskAttempt after t.id = refreshedCurrent { s with attempts := before } t) :
    Settled { s with attempts := after } t := by
  intro hopen hwaits
  rw [taskSucceeded_inPlace h] at hopen
  rw [dependencyBlockers_inPlace h, hcurrent]
  rw [hcurrent] at hwaits
  unfold refreshedCurrent at hwaits ⊢
  dsimp only at hwaits ⊢
  split_ifs at hwaits ⊢ with hdue
  · unfold Attempt.refreshed
    split_ifs with h <;> simp [h]
  · exact absurd ⟨hopen, hwaits⟩ hdue

theorem refreshTask_spec (hids : (s.attempts.map Attempt.id).Nodup) (t : Task) :
    ∃ attempts, refreshTask s t = { s with attempts := attempts } ∧
      ReflTransGen (Puts Waits) s.attempts attempts ∧
      ∀ taskID, currentTaskAttempt attempts taskID =
        if taskID = t.id then refreshedCurrent s t else currentTaskAttempt s.attempts taskID := by
  have hsame : ∀ taskID, currentTaskAttempt s.attempts taskID =
      if taskID = t.id then currentTaskAttempt s.attempts t.id
      else currentTaskAttempt s.attempts taskID := by
    intro taskID
    split_ifs with hid
    · rw [hid]
    · rfl
  unfold refreshTask refreshedCurrent
  dsimp only
  split_ifs with hsucceeded hdue hwaits hdue hdue
  · rw [hsucceeded] at hdue
    cases hdue.1
  · exact ⟨_, rfl, .refl, hsame⟩
  · have hchange : ChangedTo Waits (currentTaskAttempt s.attempts t.id)
        ((currentTaskAttempt s.attempts t.id).refreshed (dependencyBlockers s t)) :=
      refreshed_changedTo (.inr ⟨hwaits, refreshed_waits _ _⟩)
    exact ⟨_, rfl, .single ⟨t.id, _, ne_unset_of_waits hwaits, hchange, rfl⟩,
      current_setAttempt hids (ne_unset_of_waits hwaits) hchange⟩
  · exact absurd ⟨Bool.eq_false_iff.2 hsucceeded, hwaits⟩ hdue
  · exact absurd hdue.2 hwaits
  · exact ⟨_, rfl, .refl, hsame⟩

theorem refreshTasks_spec (hids : (s.attempts.map Attempt.id).Nodup) {tasks : List Task}
    (htasks : (tasks.map Task.id).Nodup) :
    ∃ attempts, tasks.foldl refreshTask s = { s with attempts := attempts } ∧
      ReflTransGen (Puts Waits) s.attempts attempts ∧
      (∀ t ∈ tasks, currentTaskAttempt attempts t.id = refreshedCurrent s t) ∧
      ∀ taskID ∉ tasks.map Task.id,
        currentTaskAttempt attempts taskID = currentTaskAttempt s.attempts taskID := by
  induction tasks generalizing s with
  | nil => exact ⟨s.attempts, rfl, .refl, by simp, fun _ _ => rfl⟩
  | cons t tasks ih =>
    obtain ⟨first, heq, hputs, hcurrent⟩ := refreshTask_spec hids t
    have hchange := inPlace_of_puts hids waits_refl waits_trans hputs
    rw [map_cons, nodup_cons] at htasks
    obtain ⟨last, heq', hputs', hown, hother⟩ :=
      ih (s := { s with attempts := first }) (by rw [hchange.ids]; exact hids) htasks.2
    rw [foldl_cons, heq]
    refine ⟨last, heq', hputs.trans hputs', forall_mem_cons.2 ⟨?_, fun u hu => ?_⟩,
      fun taskID hid => ?_⟩
    · rw [hother t.id htasks.1, hcurrent, if_pos rfl]
    · have hne : u.id ≠ t.id := fun h => htasks.1 (h ▸ mem_map_of_mem hu)
      rw [hown u hu, refreshedCurrent_inPlace hchange (by rw [hcurrent, if_neg hne])]
    · rw [map_cons, mem_cons, not_or] at hid
      rw [hother taskID hid.2, hcurrent, if_neg hid.1]

theorem refreshWith_attempts (hids : (s.attempts.map Attempt.id).Nodup)
    (htasks : (s.tasks.map Task.id).Nodup) (now : Time) (touch : Bool) :
    ∃ swept attempts run, refreshWith s now touch = { s with attempts := attempts, run := run } ∧
      ReflTransGen (Skips s.tasks now) s.attempts swept ∧ Swept s.tasks swept ∧
      ReflTransGen (Puts Waits) swept attempts ∧ ∀ t ∈ s.tasks,
      currentTaskAttempt attempts t.id = refreshedCurrent { s with attempts := swept } t := by
  obtain ⟨hskips, hswept⟩ := refreshVerdictBranchesAt_spec now hids
    (Nat.lt_succ_of_le (length_filter_le (fun t => (currentTaskAttempt s.attempts t.id).unstarted) s.tasks))
  have hids' := hids
  rw [← (skips_inPlace hids hskips).ids] at hids'
  obtain ⟨attempts, heq, hputs, hown, -⟩ := refreshTasks_spec
    (s := { s with
      attempts := refreshVerdictBranchesAt s.tasks now (s.tasks.length + 1) s.attempts }) hids' htasks
  refine ⟨_, attempts, (refreshWith s now touch).run, ?_, hskips, hswept, hputs, hown⟩
  unfold refreshWith
  dsimp only
  rw [heq]

theorem refreshWith_spec (hids : (s.attempts.map Attempt.id).Nodup)
    (htasks : (s.tasks.map Task.id).Nodup) (now : Time) (touch : Bool) :
    InPlace Refreshed s.attempts (refreshWith s now touch).attempts ∧
      (refreshWith s now touch).tasks = s.tasks ∧
      (refreshWith s now touch).external = s.external ∧
      ∀ t ∈ s.tasks, Settled (refreshWith s now touch) t := by
  obtain ⟨swept, attempts, run, heq, hskips, -, hputs, hcurrent⟩ :=
    refreshWith_attempts hids htasks now touch
  have hskipped := skips_inPlace hids hskips
  have hchange := inPlace_of_puts (by rw [hskipped.ids]; exact hids) waits_refl waits_trans hputs
  rw [heq]
  refine ⟨hskipped.trans refreshed_trans (hchange.imp Waits.refreshed), rfl, rfl, fun t ht => ?_⟩
  exact settled_of_refreshedCurrent (s := s) hchange (hcurrent t ht)

end RefreshTasks

end Steward
