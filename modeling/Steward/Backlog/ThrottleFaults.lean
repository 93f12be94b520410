import Steward.Backlog.ThrottleDirectives

/-!
# Faults of one pool or attempt

The planners of throttle commands check everything before they plan anything: one pool over its
limit stops every resume, and one pending command that no longer matches stops every delivery.
Without such a fault nothing is planned differently because of another pool or attempt.
-/

namespace Steward

open Except List

variable (hash : CoordinatorHash) (now : Time) (admissions : List QuotaAdmissionRecord) {a q : String}
  {previous : List ThrottleAttemptRecord} {pools : List QuotaPool} {plan : ThrottlePlan}

/-- Of the commands in `P`, the full plan has those of the plan alone. -/
def Unaffected (P : ThrottleCommand → Prop) (full alone : Except Err ThrottlePlan) : Prop :=
  ∀ plan, alone = .ok plan → ∃ whole, full = .ok whole ∧
    ∀ c, P c → (c ∈ whole.commands ↔ c ∈ plan.commands)

/-! ## Resumes -/

def otherPools (q : String) (pools : List QuotaPool) :
    List QuotaPool := pools.filter fun p => p.id ≠ q

theorem otherPools_takeSlot (q k : String) (pools : List QuotaPool) :
    otherPools q (takeSlot pools k) = takeSlot (otherPools q pools) k := by
  unfold otherPools takeSlot
  rw [filter_map]
  congr 1
  refine filter_congr fun p _ => ?_
  dsimp only [Function.comp]
  split_ifs <;> rfl

theorem takeSlot_otherPools (q : String) (pools : List QuotaPool) :
    takeSlot (otherPools q pools) q = otherPools q pools := by
  refine (map_congr_left fun p hp => if_neg ?_).trans (map_id _)
  simpa using (mem_filter.1 hp).2

theorem planResume_otherPools (pools : List QuotaPool) (r : ThrottleAttemptRecord) :
    (planResume hash now admissions (otherPools q pools) r).1 =
        otherPools q (planResume hash now admissions pools r).1 ∧
      (planResume hash now admissions (otherPools q pools) r).2.commands =
        (planResume hash now admissions pools r).2.commands.filter fun c => c.quotaPoolID ≠ q := by
  by_cases hq : r.command.quotaPoolID = q
  · have halone : planResume hash now admissions (otherPools q pools) r =
      (otherPools q pools, {}) := by
      have hnone : (otherPools q pools).find? (fun p => p.id = r.command.quotaPoolID) = none := by
        simp [otherPools, hq]
      unfold planResume
      rw [hnone]
      dsimp only
      split_ifs <;> rfl
    rw [halone]
    rcases planResume_cases hash now admissions pools r with h | h | ⟨pool, admission, hid, -, -, -,
      -, h⟩
    · simp [h]
    · simp [h, hq]
    · rw [h, hid, hq, otherPools_takeSlot, takeSlot_otherPools]
      simp [resumedRecord, followupThrottleCommand, hq]
  · have hfind : (otherPools q pools).find? (fun p => p.id = r.command.quotaPoolID) =
        pools.find? fun p => p.id = r.command.quotaPoolID := by
      unfold otherPools
      rw [find?_filter]
      congr 1
      funext p
      by_cases hp : p.id = r.command.quotaPoolID <;> simp [hp, hq]
    unfold planResume
    rw [hfind]
    dsimp only
    split
    · exact ⟨rfl, rfl⟩
    · split
      · exact ⟨rfl, rfl⟩
      · split
        · simp [hq]
        · split
          · exact ⟨rfl, rfl⟩
          · split_ifs
            · exact ⟨rfl, rfl⟩
            · exact ⟨rfl, rfl⟩
            · simp [otherPools_takeSlot, resumedRecord, followupThrottleCommand, hq]

theorem planResumes_cons (pools : List QuotaPool) (r : ThrottleAttemptRecord)
    (rest : List ThrottleAttemptRecord) :
    (planResumes hash now admissions pools (r :: rest)).commands =
      (planResume hash now admissions pools r).2.commands ++
        (planResumes hash now admissions (planResume hash now admissions pools r).1 rest).commands :=
  rfl

theorem planResumes_otherPools (pools : List QuotaPool) (rs : List ThrottleAttemptRecord) :
    (planResumes hash now admissions (otherPools q pools) rs).commands =
      (planResumes hash now admissions pools rs).commands.filter fun c => c.quotaPoolID ≠ q := by
  induction rs generalizing pools with
  | nil => rfl
  | cons r rest ih =>
    obtain ⟨hpools, hcommands⟩ := planResume_otherPools hash now admissions (q := q) pools r
    rw [planResumes_cons, hpools, hcommands, ih, planResumes_cons, filter_append]

/-! ## Deliveries -/

section

variable {d : ThrottleDirective} {kind : ThrottleCommandKind} {b : ThrottleAttemptBinding}
  {bindings others : List ThrottleAttemptBinding} {directives : List ThrottleDirective}

/-- If the directive reaches the execution and its command there is pending, the command is still
the one for this execution. -/
def StillMatches (previous : List ThrottleAttemptRecord) (d : ThrottleDirective)
    (b : ThrottleAttemptBinding) : Prop :=
  b.assignment.route.quotaPoolID = d.quotaPoolID → b.attempt.control.holdsProviderSlot = true →
    ∀ r, previous.find? (fun r => r.key = toLex (d.id, b.attempt.id)) = some r →
      r.delivery = .pending → commandKindForDirective d = .ok r.command.kind →
        r.command = throttleCommand hash d b r.command.kind 1 r.command.createdAt

variable {hash now}

theorem planDelivery_ok_iff (hkind : commandKindForDirective d = .ok kind) :
    (∃ plan, planDelivery hash previous now d kind b = .ok plan) ↔
    StillMatches hash previous d b := by
  unfold planDelivery StillMatches
  by_cases hout : b.assignment.route.quotaPoolID ≠ d.quotaPoolID ∨
    b.attempt.control.holdsProviderSlot = false
  · rw [if_pos hout]
    exact iff_of_true ⟨_, rfl⟩ fun hpool hslot => by simp [hpool, hslot] at hout
  · rw [if_neg hout]
    cases hfound : previous.find? fun r => r.key = toLex (d.id, b.attempt.id) with
    | none => exact iff_of_true ⟨_, rfl⟩ (by simp)
    | some r =>
      simp only [not_or, not_not, Bool.not_eq_false] at hout
      simp only [hout, Option.some.injEq, forall_eq', forall_const, replayDelivery]
      split_ifs with hpending hchanged
      · obtain ⟨hdelivery, rfl⟩ := hpending
        simp [hdelivery, hkind, hchanged]
      · obtain ⟨hdelivery, rfl⟩ := hpending
        exact iff_of_true ⟨_, rfl⟩ fun _ _ => not_not.1 hchanged
      · refine iff_of_true ⟨_, rfl⟩ fun hdelivery hsame => absurd ⟨hdelivery, ?_⟩ hpending
        exact Except.ok.inj (hsame.symm.trans hkind)

variable (hothers : ∀ b, b ∈ others ↔ b ∈ bindings ∧ b.attempt.id ≠ a)
include hothers

theorem planDirective_others (hok : ∀ b ∈ bindings, b.attempt.id = a →
      ∃ plan, planDelivery hash previous now d kind b = .ok plan) :
    Unaffected (·.attemptID ≠ a) (planDirective hash previous now d kind bindings)
      (planDirective hash previous now d kind others) := by
  intro plan h
  have hall : ∀ b ∈ bindings, ∃ plan, planDelivery hash previous now d kind b = .ok plan := by
    intro b hb
    by_cases ha : b.attempt.id = a
    · exact hok b hb ha
    · exact planDirective_iff.1 ⟨plan, h⟩ b ((hothers b).2 ⟨hb, ha⟩)
  obtain ⟨whole, hwhole⟩ := planDirective_iff.2 hall
  refine ⟨whole, hwhole, fun c hc => ?_⟩
  rw [(mem_planDirective hwhole).2, (mem_planDirective h).2]
  constructor
  · rintro ⟨b, hb, p, hp, hcp⟩
    have ha : b.attempt.id ≠ a := (planDelivery_spec hp).2.1 c hcp ▸ hc
    exact ⟨b, (hothers b).2 ⟨hb, ha⟩, p, hp, hcp⟩
  · rintro ⟨b, hb, p, hp, hcp⟩
    exact ⟨b, ((hothers b).1 hb).1, p, hp, hcp⟩

theorem planDirectives_others {seen : List String}
    (hok : ∀ d ∈ directives, ∀ b ∈ bindings, b.attempt.id = a → StillMatches hash previous d b) :
    Unaffected (·.attemptID ≠ a) (planDirectives hash previous now bindings directives seen)
      (planDirectives hash previous now others directives seen) := by
  intro plan h
  induction directives generalizing seen plan with
  | nil =>
    cases h
    exact ⟨_, rfl, fun _ _ => Iff.rfl⟩
  | cons d rest ih =>
    obtain ⟨kind, hkind, h⟩ := of_bind h
    obtain ⟨hnew, h⟩ := of_guard h
    obtain ⟨first, hfirst, h⟩ := of_bind h
    obtain ⟨last, hlast, h⟩ := of_bind h
    cases h
    obtain ⟨whole, hwhole, hsame⟩ := planDirective_others hothers
      (fun b hb ha => (planDelivery_ok_iff hkind).2 (hok d (.head _) b hb ha)) first hfirst
    obtain ⟨others, hrest, hsame'⟩ := ih (fun d hd => hok d (.tail _ hd)) last hlast
    refine ⟨whole.append others, ?_, fun c hc => ?_⟩
    · simp only [planDirectives, bind_eq_ok_iff]
      exact ⟨kind, hkind, (), refuseWhen_of_not hnew _, whole, hwhole, others, hrest, rfl⟩
    · simp only [ThrottlePlan.append, mem_append, hsame c hc, hsame' c hc]

end

/-! ## Plans with and without a pool or an attempt -/

/-- A pool of no more assignments than its limit. -/
def WithinLimit (p : QuotaPool) : Prop :=
  p.id ≠ "" ∧ 0 < p.maxConcurrent ∧ 0 ≤ p.activeAssignments ∧ p.activeAssignments ≤ p.maxConcurrent

theorem checkResumePools_ok_iff : checkResumePools pools [] = .ok () ↔
    (∀ p ∈ pools, WithinLimit p) ∧ (pools.map (·.id)).Nodup := by
  have hscan : checkResumePools pools (([] : List QuotaPool).map (·.id)) = .ok () ↔ _ :=
    scan_ok_iff (f := fun l _ seen => checkResumePools l (seen.map (·.id))) (p := WithinLimit)
      (R := fun p r : QuotaPool => p.id ≠ r.id) (i := 0) (fun _ _ => rfl) fun p l i seen => ?_
  · simpa [nodup_iff_pairwise_ne, pairwise_map] using hscan
  · simp only [checkResumePools, refuseWhen_bind_eq_ok_iff, map_cons, WithinLimit, not_or, not_le,
      not_lt]
    simp [and_assoc]

/-- What is planned on the other pools, and for the other attempts, is what would be planned without
the pool or the attempt, exactly when every pool is within its limit, and the attempt's pending
commands still match. -/
theorem throttle_faults_stay_local_iff (directives : List ThrottleDirective)
    (bindings : List ThrottleAttemptBinding) :
    (Unaffected (·.quotaPoolID ≠ q) (planThrottleResumes hash previous now admissions pools)
        (planThrottleResumes hash previous now admissions (otherPools q pools)) ↔
      ∀ plan, planThrottleResumes hash previous now admissions (otherPools q pools) = .ok plan →
        (∀ p ∈ pools, WithinLimit p) ∧ (pools.map (·.id)).Nodup) ∧
    (Unaffected (·.attemptID ≠ a) (planThrottleDeliveries hash previous now directives bindings)
        (planThrottleDeliveries hash previous now directives (bindings.filter fun b => b.attempt.id ≠ a)) ↔
      ∀ plan, planThrottleDeliveries hash previous now directives
          (bindings.filter fun b => b.attempt.id ≠ a) = .ok plan →
        checkThrottleBindings (bindings.insertionSort fun b b' => b.attempt.id ≤ b'.attempt.id)
          [] = .ok () ∧
          ∀ d ∈ directives, ∀ b ∈ bindings, b.attempt.id = a → StillMatches hash previous d b) := by
  refine ⟨forall_congr' fun plan => imp_congr_right fun h => ?_,
    forall_congr' fun plan => imp_congr_right fun h => ?_⟩
  · rw [← checkResumePools_ok_iff]
    unfold planThrottleResumes at h ⊢
    obtain ⟨hnow, h⟩ := of_guard h
    obtain ⟨⟨⟩, hrecords, h⟩ := of_bind h
    obtain ⟨⟨⟩, hadmissions, h⟩ := of_bind h
    obtain ⟨-, -, h⟩ := of_bind h
    cases h
    rw [refuseWhen_of_not hnow, hrecords, hadmissions]
    simp only [ok_bind]
    constructor
    · rintro ⟨whole, hwhole, -⟩
      obtain ⟨⟨⟩, hpools, -⟩ := of_bind hwhole
      exact hpools
    · intro hpools
      rw [hpools]
      refine ⟨_, rfl, fun c hc => (mem_insertionSort _).trans (.trans ?_ (mem_insertionSort _).symm)⟩
      rw [planResumes_otherPools, mem_filter]
      simp [hc]
  · unfold planThrottleDeliveries at h ⊢
    obtain ⟨hnow, h⟩ := of_guard h
    obtain ⟨⟨⟩, hrecords, h⟩ := of_bind h
    obtain ⟨-, -, h⟩ := of_bind h
    obtain ⟨planned, hplanned, h⟩ := of_bind h
    cases h
    rw [refuseWhen_of_not hnow, hrecords]
    simp only [ok_bind]
    constructor
    · rintro ⟨whole, hwhole, -⟩
      obtain ⟨⟨⟩, hbindings, hwhole⟩ := of_bind hwhole
      obtain ⟨parts, hparts, -⟩ := of_bind hwhole
      refine ⟨hbindings, fun d hd b hb _ => ?_⟩
      obtain ⟨kind, part, hkind, hpart, -⟩ := (planDirectives_parts hparts).1 d ((mem_insertionSort _).2 hd)
      exact (planDelivery_ok_iff hkind).1
        (planDirective_iff.1 ⟨part, hpart⟩ b ((mem_insertionSort _).2 hb))
    · rintro ⟨hbindings, hmatch⟩
      have hothers : ∀ b, b ∈ (bindings.filter fun b => b.attempt.id ≠ a).insertionSort
          (fun b b' => b.attempt.id ≤ b'.attempt.id) ↔
          b ∈ bindings.insertionSort (fun b b' => b.attempt.id ≤ b'.attempt.id) ∧
          b.attempt.id ≠ a := by
        simp [mem_insertionSort]
      obtain ⟨whole, hwhole, hsame⟩ := planDirectives_others hothers (fun d hd b hb =>
        hmatch d ((mem_insertionSort _).1 hd) b ((mem_insertionSort _).1 hb)) planned hplanned
      rw [hbindings, ok_bind, hwhole]
      exact ⟨_, rfl, fun c hc =>
        (mem_insertionSort _).trans ((hsame c hc).trans (mem_insertionSort _).symm)⟩

/-! ## One fault -/

def stoppedRecord : ThrottleAttemptRecord :=
  { directiveID := "d", attemptID := "a", revision := 1, delivery := .acknowledged
    control := .pausedUncheckpointed
    command := { id := "a", directiveID := "d", attemptID := "a", kind := .hardStop, workerID := "w"
                 threadID := "h", workspacePath := "/x", quotaPoolID := "q" } }

def faultyPools (active : Int) : List QuotaPool :=
  [{ id := "p", maxConcurrent := 1, activeAssignments := active }, { id := "q", maxConcurrent := 1 }]

def poolDirective (pool : String) : ThrottleDirective :=
  { id := "on " ++ pool, quotaPoolID := pool, admissionRevision := 1, severity := .drain }

def poolBinding (pool workspacePath : String) : ThrottleAttemptBinding :=
  { attempt := { id := "of " ++ pool, assignmentID := pool, control := .running }
    assignment := { id := pool, attemptID := "of " ++ pool, workerID := "w", threadID := "h", epoch := 1
                    route := { quotaPoolID := pool } }
    workspacePath := workspacePath }

def pendingDrain : ThrottleAttemptRecord :=
  newThrottleRecord zeroHash 1 (poolDirective "p") (poolBinding "p" "/old") .drain

/-- A pool over its limit stops the resume on another pool, and a pending command for another
workspace stops the delivery on another pool. -/
theorem one_fault_stops_all :
    let resumes := fun pools => (planThrottleResumes zeroHash [stoppedRecord] 1
      [{ quotaPoolID := "q", admission := .open }] pools).toOption.map fun p => p.commands.map
      (·.attemptID)
    let deliveries := fun bindings => (planThrottleDeliveries zeroHash [pendingDrain] 2
      [poolDirective "p", poolDirective "q"] bindings).toOption.map fun p => p.commands.map (·.attemptID)
    resumes (faultyPools 2) = none ∧ resumes (otherPools "p" (faultyPools 2)) = some ["a"] ∧
      deliveries [poolBinding "p" "/new", poolBinding "q" "/x"] = none ∧
      deliveries [poolBinding "q" "/x"] = some ["of q"] := by
  decide

end Steward
