import Steward.Backlog.ThrottleDelivery
import Steward.Lib.Runs

/-!
# Directives over boundary passes

A boundary pass commits the admission transitions of the quota pools and then exchanges with the
workers, handing on the directives of its own transitions (`cmd/t3-steward/backlog_v2_runtime.go`,
`backlog_v2_worker_client.go`). No pass reads the durable directives back: what one becomes is
decided in the pass that committed it.
-/

namespace Steward

open Except Runs List

/-! ## Passes -/

/-- An exchange with one worker: the attempts and assignments it found, what the worker reported and
answered, and the pools of the pass. -/
structure WorkerExchange where
  attempts : Table Attempt.id
  assignments : Table Assignment.id
  throttle : ThrottleExchange
  snapshot : WorkerSnapshot
  pools : List QuotaPool

/-- A boundary pass: the admissions it derived, whether the quota step handed its report on after
its commit, and the exchanges it came to before it stopped. -/
structure BoundaryPass where
  derived : List QuotaPoolAdmissionSnapshot
  appliedAt : Time
  reported : Bool
  exchanges : List WorkerExchange

namespace Store

def exchanging (s : Store) (e : WorkerExchange) : Store :=
  { s with attempts := e.attempts, assignments := e.assignments }

def exchange (directives : List ThrottleDirective) (s : Store) (e : WorkerExchange) :
    Store × List Err :=
  (s.exchanging e).reconcileWorkerThrottle e.throttle e.snapshot directives e.pools

def exchangeAll (directives : List ThrottleDirective) (s : Store) (es : List WorkerExchange) :
    Store :=
  es.foldl (fun s e => (s.exchange directives e).1) s

/-- The quota step of a pass: the store it leaves and the directives the exchanges are given. A
failure before its commit changes nothing; one after it gives nothing on. -/
def quotaStep (hash : CoordinatorHash) (s : Store) (p : BoundaryPass) :
    Store × List ThrottleDirective :=
  match reconcileQuotaAdmissionTransitions hash s p.derived p.appliedAt with
  | .error _ => (s, [])
  | .ok (s, directives) => (s, if p.reported then directives else [])

def boundaryPass (hash : CoordinatorHash) (s : Store) (p : BoundaryPass) : Store :=
  let (s, directives) := s.quotaStep hash p
  s.exchangeAll directives p.exchanges

def throttled (s : Store) (directiveID attemptID : String) : Bool :=
  (s.throttleAttempts.get? (toLex (directiveID, attemptID))).isSome

/-! ## What a stage keeps -/

section

variable {x : ThrottleExchange} {s : Store}

def Keeps (s s' : Store) : Prop :=
  s'.throttleDirectives = s.throttleDirectives ∧ KeepsRecords s s'

theorem Keeps.refl (s : Store) : Keeps s s := ⟨rfl, fun _ hk => hk⟩

theorem Keeps.trans {s₁ s₂ s₃ : Store} (h : Keeps s₁ s₂) (h' : Keeps s₂ s₃) : Keeps s₁ s₃ :=
  ⟨h'.1.trans h.1, fun k hk => h'.2 k (h.2 k hk)⟩

theorem Keeps.throttled {s s' : Store} (h : Keeps s s') {directiveID attemptID : String}
    (hrecord : s.throttled directiveID attemptID = true) :
    s'.throttled directiveID attemptID = true :=
  h.2 _ hrecord

theorem commitThrottleIntent_ok {s' : Store} {ts : List ThrottleAttemptTransition}
    (h : s.commitThrottleIntent x ts = .ok s') :
    Keeps s s' ∧ ∀ t ∈ ts, (s'.throttleAttempts.get? t.record.key).isSome := by
  unfold commitThrottleIntent at h
  split_ifs at h with hnone
  · cases h
    exact ⟨Keeps.refl s, by simp [hnone]⟩
  · obtain ⟨hdirectives, hrecords, hput⟩ := commitThrottleAttemptTransitions_ok h
    exact ⟨⟨hdirectives, hrecords⟩, hput⟩

theorem reconcilePlannedThrottleCommands_keeps (stage : ThrottleStage)
    (previous : List ThrottleAttemptRecord) (plan : ThrottlePlan) :
    Keeps s (s.reconcilePlannedThrottleCommands x stage previous plan).1 ∧
      ((s.reconcilePlannedThrottleCommands x stage previous plan).2 = [] → ∀ t ∈ plan.transitions,
          ((s.reconcilePlannedThrottleCommands x stage previous plan).1.throttleAttempts.get?
            t.record.key).isSome) := by
  unfold reconcilePlannedThrottleCommands
  cases hintent : s.commitThrottleIntent x plan.transitions with
  | error e => exact ⟨Keeps.refl s, by simp⟩
  | ok mid =>
    obtain ⟨hmid, hput⟩ := commitThrottleIntent_ok hintent
    dsimp only
    split_ifs with hquiet
    · exact ⟨hmid, fun _ => hput⟩
    · split
      · exact ⟨hmid, by simp⟩
      · rename_i transitions hacks
        cases hanswers : mid.commitThrottleIntent x transitions with
        | error e => exact ⟨hmid, by simp⟩
        | ok last =>
          obtain ⟨hlast, -⟩ := commitThrottleIntent_ok hanswers
          exact ⟨hmid.trans hlast, fun _ t ht => hlast.2 _ (hput t ht)⟩

theorem throttleStage_keeps (worker : String) (stage : ThrottleStage)
    (planned : List ThrottleAttemptRecord → Except Err ThrottlePlan) :
    Keeps s (s.throttleStage x worker stage planned).1 := by
  unfold throttleStage
  dsimp only
  cases planned (s.loadThrottleAttemptRecordsFor worker) with
  | error e => exact Keeps.refl s
  | ok plan => exact (reconcilePlannedThrottleCommands_keeps _ _ _).1

theorem reconcileWorkerThrottle_keeps (snapshot : WorkerSnapshot)
    (directives : List ThrottleDirective) (pools : List QuotaPool) :
    Keeps s (s.reconcileWorkerThrottle x snapshot directives pools).1 := by
  unfold reconcileWorkerThrottle
  dsimp only
  -- Every branch ends after some of the four stages.
  split_ifs
  · exact throttleStage_keeps _ _ _
  · exact (throttleStage_keeps _ _ _).trans (throttleStage_keeps _ _ _)
  · exact ((throttleStage_keeps _ _ _).trans (throttleStage_keeps _ _ _)).trans
      (throttleStage_keeps _ _ _)
  · exact (((throttleStage_keeps _ _ _).trans (throttleStage_keeps _ _ _)).trans
      (throttleStage_keeps _ _ _)).trans (throttleStage_keeps _ _ _)

theorem exchangeAll_keeps (directives : List ThrottleDirective) (es : List WorkerExchange) :
    Keeps s (s.exchangeAll directives es) := by
  induction es generalizing s with
  | nil => exact Keeps.refl s
  | cons e es ih =>
    exact (reconcileWorkerThrottle_keeps (s := s.exchanging e) e.snapshot directives e.pools).trans ih

end

end Store

/-! ## What a directive reaches -/

section

variable {hash : CoordinatorHash} {previous : List ThrottleAttemptRecord} {now : Time}
  {d : ThrottleDirective} {b : ThrottleAttemptBinding}

def Covered (previous : List ThrottleAttemptRecord) (plan : ThrottlePlan) (d : ThrottleDirective)
    (b : ThrottleAttemptBinding) : Prop :=
  (∃ r ∈ previous, r.key = toLex (d.id, b.attempt.id)) ∨
    ∃ t ∈ plan.transitions, t.record.key = toLex (d.id, b.attempt.id)

variable {kind : ThrottleCommandKind} {directives : List ThrottleDirective} {plan : ThrottlePlan}
  {bindings : List ThrottleAttemptBinding}

theorem planDirective_iff : (∃ plan, planDirective hash previous now d kind bindings = .ok plan) ↔
      ∀ b ∈ bindings, ∃ plan, planDelivery hash previous now d kind b = .ok plan := by
  induction bindings with
  | nil => exact iff_of_true ⟨_, rfl⟩ (by simp)
  | cons b rest ih =>
    rw [forall_mem_cons, ← ih]
    simp only [planDirective, bind_eq_ok_iff]
    constructor
    · rintro ⟨plan, first, hfirst, others, hothers, -⟩
      exact ⟨⟨first, hfirst⟩, others, hothers⟩
    · rintro ⟨⟨first, hfirst⟩, others, hothers⟩
      exact ⟨_, first, hfirst, others, hothers, rfl⟩

theorem mem_planDirective (h : planDirective hash previous now d kind bindings = .ok plan) :
    (∀ t, t ∈ plan.transitions ↔ ∃ b ∈ bindings, ∃ p,
      planDelivery hash previous now d kind b = .ok p ∧ t ∈ p.transitions) ∧
    ∀ c, c ∈ plan.commands ↔ ∃ b ∈ bindings, ∃ p,
      planDelivery hash previous now d kind b = .ok p ∧ c ∈ p.commands := by
  induction bindings generalizing plan with
  | nil =>
    cases h
    simp
  | cons b rest ih =>
    obtain ⟨first, hfirst, h⟩ := of_bind h
    obtain ⟨others, hothers, h⟩ := of_bind h
    cases h
    obtain ⟨htransitions, hcommands⟩ := ih hothers
    simp [ThrottlePlan.append, mem_append, htransitions, hcommands, hfirst]

/-- The plan is made of the plans of the directives, each of the kind its severity asks for. -/
theorem planDirectives_parts {seen : List String}
    (h : planDirectives hash previous now bindings directives seen = .ok plan) :
    (∀ d ∈ directives, ∃ kind p, commandKindForDirective d = .ok kind ∧
      planDirective hash previous now d kind bindings = .ok p ∧ p.transitions ⊆ plan.transitions) ∧
    ∀ t ∈ plan.transitions, ∃ d kind p, commandKindForDirective d = .ok kind ∧
      planDirective hash previous now d kind bindings = .ok p ∧ t ∈ p.transitions := by
  induction directives generalizing seen plan with
  | nil =>
    cases h
    simp
  | cons d rest ih =>
    obtain ⟨kind, hkind, h⟩ := of_bind h
    replace h := past_guard h
    obtain ⟨first, hfirst, h⟩ := of_bind h
    obtain ⟨others, hothers, h⟩ := of_bind h
    cases h
    obtain ⟨hparts, honly⟩ := ih hothers
    refine ⟨forall_mem_cons.2 ⟨⟨kind, first, hkind, hfirst, subset_append_left _ _⟩,
      fun d' hd' => ?_⟩, fun t ht => ?_⟩
    · obtain ⟨kind', p, hkind', hp, hsub⟩ := hparts d' hd'
      exact ⟨kind', p, hkind', hp, fun _ ht => mem_append_right _ (hsub ht)⟩
    · exact (mem_append.1 ht).elim (fun ht => ⟨d, kind, first, hkind, hfirst, ht⟩) (honly t)

theorem planDelivery_spec (h : planDelivery hash previous now d kind b = .ok plan) :
    (∀ t ∈ plan.transitions, t.record.command.kind = kind) ∧
      (∀ c ∈ plan.commands, c.attemptID = b.attempt.id) ∧
      (b.assignment.route.quotaPoolID = d.quotaPoolID → b.attempt.control.holdsProviderSlot = true →
        Covered previous plan d b) := by
  unfold planDelivery at h
  split_ifs at h with hout
  · cases h
    exact ⟨by simp, by simp, fun hpool hslot => by simp [hpool, hslot] at hout⟩
  split at h
  · rename_i existing hfound
    have hcovered : Covered previous plan d b :=
      .inl ⟨existing, mem_of_find?_eq_some hfound, by simpa using find?_some hfound⟩
    unfold replayDelivery at h
    split_ifs at h with hpending hsame
    · cases h
      rw [not_not] at hsame
      exact ⟨by simp, by rw [hsame]; simp [throttleCommand], fun _ _ => hcovered⟩
    · cases h
      exact ⟨by simp, by simp, fun _ _ => hcovered⟩
  · cases h
    refine ⟨?_, ?_, fun _ _ => .inr ⟨_, mem_singleton.2 rfl, rfl⟩⟩
    all_goals simp [newThrottleRecord, throttleCommand]

theorem planThrottleDeliveries_covers (hpool : b.assignment.route.quotaPoolID = d.quotaPoolID)
    (hslot : b.attempt.control.holdsProviderSlot = true)
    (h : planThrottleDeliveries hash previous now directives bindings = .ok plan)
      (hd : d ∈ directives)
    (hb : b ∈ bindings) : Covered previous plan d b := by
  replace h := past_guard h
  obtain ⟨-, -, h⟩ := of_bind h
  obtain ⟨-, -, h⟩ := of_bind h
  obtain ⟨whole, hwhole, h⟩ := of_bind h
  cases h
  obtain ⟨kind, part, -, hpart, hsub⟩ := (planDirectives_parts hwhole).1 d ((mem_insertionSort _).2 hd)
  have hb := (mem_insertionSort fun b b' : ThrottleAttemptBinding => b.attempt.id ≤ b'.attempt.id).2
    hb
  obtain ⟨p, hp⟩ := planDirective_iff.1 ⟨part, hpart⟩ b hb
  refine ((planDelivery_spec hp).2.2 hpool hslot).imp_right fun ⟨t, ht, hkey⟩ => ⟨t, ?_, hkey⟩
  exact (mem_insertionSort _).2 (hsub (((mem_planDirective hpart).1 t).2 ⟨b, hb, p, hp, ht⟩))

end

namespace Store

section

variable {x : ThrottleExchange} {s : Store} {d : ThrottleDirective} {b : ThrottleAttemptBinding}

/-- The store in which an exchange looks for the executions a directive can reach: after the
commands that were still pending. -/
def bindingStore (x : ThrottleExchange) (s : Store) (snapshot : WorkerSnapshot) : Store :=
  (s.throttleStage x snapshot.workerID .pending planPendingThrottleCommands).1

variable {directives : List ThrottleDirective}

/-- A delivery stage that does not fail leaves a record of every directive for every execution that
holds a slot of its pool. -/
theorem deliveryStage_records {worker : String} {bindings : List ThrottleAttemptBinding}
    (hd : d ∈ directives) (hb : b ∈ bindings) (hpool : b.assignment.route.quotaPoolID = d.quotaPoolID)
    (hslot : b.attempt.control.holdsProviderSlot = true)
    (h : (s.throttleStage x worker .delivery fun previous =>
      planThrottleDeliveries x.hash previous x.now directives bindings).2 = []) :
    (s.throttleStage x worker .delivery fun previous =>
      planThrottleDeliveries x.hash previous x.now directives bindings).1.throttled
        d.id b.attempt.id = true := by
  unfold throttleStage at h ⊢
  dsimp only at h ⊢
  cases hplan : planThrottleDeliveries x.hash (s.loadThrottleAttemptRecordsFor worker) x.now
      directives bindings with
  | error e =>
    rw [hplan] at h
    simp at h
  | ok plan =>
    rw [hplan] at h
    obtain ⟨hkeeps, hput⟩ := reconcilePlannedThrottleCommands_keeps (x := x) (s := s) .delivery
      (s.loadThrottleAttemptRecordsFor worker) plan
    rcases planThrottleDeliveries_covers hpool hslot hplan hd hb with ⟨r, hr, hkey⟩ | ⟨t, ht, hkey⟩
    · refine hkeeps.2 _ ?_
      rw [← hkey, Table.mem_rows_iff.1 (mem_of_mem_filter hr)]
      rfl
    · have hrecord := hput h t ht
      rwa [hkey] at hrecord

theorem reconcileWorkerThrottle_records {snapshot : WorkerSnapshot} {pools : List QuotaPool}
    (hd : d ∈ directives) (hb : b ∈ (s.bindingStore x snapshot).throttleBindings snapshot)
    (hpool : b.assignment.route.quotaPoolID = d.quotaPoolID)
    (hslot : b.attempt.control.holdsProviderSlot = true)
    (h : (s.reconcileWorkerThrottle x snapshot directives pools).2 = []) :
    (s.reconcileWorkerThrottle x snapshot directives pools).1.throttled d.id b.attempt.id = true := by
  unfold reconcileWorkerThrottle at h ⊢
  dsimp only at h ⊢
  split_ifs at h ⊢ with hpending hdelivery hexpiry
  · exact absurd h hpending
  · exact absurd h hdelivery
  · exact absurd h hexpiry
  · refine (throttleStage_keeps _ _ _).throttled ((throttleStage_keeps _ _ _).throttled ?_)
    exact deliveryStage_records hd hb hpool hslot (not_not.1 hdelivery)

end

/-! ## Runs of passes -/

section

variable (hash : CoordinatorHash)

/-- The exchange succeeds with a worker that reports the attempt's assignment with its workspace,
while the attempt, not force started, holds a slot of the pool. -/
def ReachesHolder (pool attemptID : String) (directives : List ThrottleDirective) (s : Store)
    (e : WorkerExchange) : Prop :=
  (s.exchange directives e).2 = [] ∧
    ∃ b ∈ ((s.exchanging e).bindingStore e.throttle e.snapshot).throttleBindings e.snapshot,
      b.attempt.id = attemptID ∧ b.assignment.route.quotaPoolID = pool ∧
        b.attempt.control.holdsProviderSlot = true

instance (pool attemptID : String) (directives : List ThrottleDirective) (s : Store)
    (e : WorkerExchange) : Decidable (ReachesHolder pool attemptID directives s e) :=
  inferInstanceAs (Decidable (_ ∧ ∃ b ∈ throttleBindings _ _, _))

def CommitsDirective (pool : String) (s : Store) (p : BoundaryPass) : Prop :=
  ∃ d ∈ (s.quotaStep hash p).1.throttleDirectives.rows,
    d.quotaPoolID = pool ∧ d ∉ s.throttleDirectives.rows

/-- A pass that commits a directive of the pool hands its report on and reaches the attempt before
it stops. -/
def DeliversInPass (pool attemptID : String) (s : Store) (p : BoundaryPass) : Prop :=
  CommitsDirective hash pool s p →
    p.reported = true ∧ ∃ before e after, p.exchanges = before ++ e :: after ∧
      ReachesHolder pool attemptID (s.quotaStep hash p).2
        ((s.quotaStep hash p).1.exchangeAll (s.quotaStep hash p).2 before) e

variable {hash} {s : Store} {p : BoundaryPass}

/-- The quota step keeps the records; a directive it adds is handed on when the report is. -/
theorem quotaStep_ok : (s.quotaStep hash p).1.throttleAttempts = s.throttleAttempts ∧
      (p.reported = true → ∀ d ∈ (s.quotaStep hash p).1.throttleDirectives.rows,
        d ∈ s.throttleDirectives.rows ∨ d ∈ (s.quotaStep hash p).2) := by
  unfold quotaStep
  cases h : reconcileQuotaAdmissionTransitions hash s p.derived p.appliedAt with
  | error e => exact ⟨rfl, fun _ d hd => .inl hd⟩
  | ok result =>
    obtain ⟨hrecords, hdirectives⟩ := reconcileQuotaAdmissionTransitions_ok h
    refine ⟨hrecords, fun hreported d hd => ?_⟩
    dsimp only
    rw [if_pos hreported]
    exact hdirectives d hd

/-- After a pass that delivers, every directive of the pool it added has a record for the attempt,
and the records of the earlier ones stay. -/
theorem boundaryPass_throttled {pool attemptID : String} (h : DeliversInPass hash pool attemptID s p)
    {d : ThrottleDirective} (hd : d ∈ (s.boundaryPass hash p).throttleDirectives.rows)
    (hpool : d.quotaPoolID = pool) :
    (d ∈ s.throttleDirectives.rows ∧ (s.throttled d.id attemptID = true →
      (s.boundaryPass hash p).throttled d.id attemptID = true)) ∨
      (s.boundaryPass hash p).throttled d.id attemptID = true := by
  obtain ⟨hrecords, hhanded⟩ := @quotaStep_ok hash s p
  have hkeeps := exchangeAll_keeps (s := (s.quotaStep hash p).1) (s.quotaStep hash p).2 p.exchanges
  have hd : d ∈ (s.quotaStep hash p).1.throttleDirectives.rows := by
    rw [← hkeeps.1]
    exact hd
  by_cases hold : d ∈ s.throttleDirectives.rows
  · refine .inl ⟨hold, fun hrecord => hkeeps.throttled ?_⟩
    unfold throttled
    rw [hrecords]
    exact hrecord
  · obtain ⟨hreported, before, e, after, hexchanges, hok, b, hb, hattempt, hb', hslot⟩ :=
      h ⟨d, hd, hpool, hold⟩
    have hgiven := (hhanded hreported d hd).resolve_left hold
    have hrecord := reconcileWorkerThrottle_records hgiven hb (hb'.trans hpool.symm) hslot hok
    refine .inr ?_
    change ((s.quotaStep hash p).1.exchangeAll (s.quotaStep hash p).2 p.exchanges).throttled
      d.id attemptID = true
    rw [hexchanges, exchangeAll, foldl_append, ← hattempt]
    exact (exchangeAll_keeps _ after).throttled hrecord

/-- If every pass that commits a directive of the pool reaches the attempt before it stops, the
attempt has a record for every directive of the pool committed in the run, the newest among them. -/
theorem directives_recorded_for_holder {pool attemptID : String} {passes : List BoundaryPass}
    (h : Along (boundaryPass hash) (DeliversInPass hash pool attemptID) s passes)
    {d : ThrottleDirective} (hd : d ∈ (run (boundaryPass hash) s passes).throttleDirectives.rows)
    (hpool : d.quotaPoolID = pool) (hnew : d ∉ s.throttleDirectives.rows) :
    (run (boundaryPass hash) s passes).throttled d.id attemptID = true := by
  have hinv := run_invariant (P := DeliversInPass hash pool attemptID)
    (I := fun s' : Store => ∀ d ∈ s'.throttleDirectives.rows, d.quotaPoolID = pool →
      d ∉ s.throttleDirectives.rows → s'.throttled d.id attemptID = true)
    (fun s₁ p hs₁ hp d hd hpool hnew => by
      rcases boundaryPass_throttled hp hd hpool with ⟨hold, hkept⟩ | hrecord
      · exact hkept (hs₁ d hold hpool hnew)
      · exact hrecord)
    (fun d hd _ hnew => absurd hd hnew) h
  exact hinv d hd hpool hnew

end

/-! ## One holder of a slot -/

def slotHolders : Table Attempt.id :=
  Table.ofList _
    [{ id := "a", workflowRunID := "r", taskID := "t", number := 1, progress := .active,
       control := .running, assignmentID := "s", revision := 1 }]

def slotAssignments : Table Assignment.id :=
  Table.ofList _
    [{ id := "s", attemptID := "a", workerID := "w", threadID := "h", epoch := 1, state := .claimed,
       route := { workerID := "w", providerInstanceID := "i", model := "m", quotaPoolID := "q" } }]

def slotStore : Store := { attempts := slotHolders, assignments := slotAssignments }

def slotExchange (now : Time) : WorkerExchange where
  attempts := slotHolders
  assignments := slotAssignments
  throttle := { hash := zeroHash, advance := fun s _ => .ok s.taskWaits, transport :=
                fun _ _ => ([], []), now := now }
  snapshot :=
    { workerID := "w"
      assignments :=
        [{ assignmentID := "s", assignmentEpoch := 1, state := .claimed, control := .running,
           workspacePath := "/x" }] }
  pools := [{ id := "q", maxConcurrent := 1, activeAssignments := 1 }]

def drainingPass (appliedAt : Time) (exchanges : List WorkerExchange) : BoundaryPass where
  derived := [{ quotaPoolID := "q", admission := .draining, observedAt := 1, reason := "low" }]
  appliedAt := appliedAt
  reported := true
  exchanges := exchanges

theorem drainingPass_reaches :
    ReachesHolder "q" "a" (slotStore.quotaStep zeroHash (drainingPass 10 [slotExchange 11])).2
        (slotStore.quotaStep zeroHash (drainingPass 10 [slotExchange 11])).1 (slotExchange 11) ∧
      (slotStore.boundaryPass zeroHash (drainingPass 10 [slotExchange 11])).throttleDirectives.rows.map
        (fun d => (d.id, d.quotaPoolID)) = [("throttle-0", "q")] := by
  decide

/-- A pass that commits the directive and reaches the attempt before it stops. -/
theorem drain_recorded_in_its_pass : ∃ d : ThrottleDirective,
    d ∈ (run (boundaryPass zeroHash) slotStore
        [drainingPass 10 [slotExchange 11]]).throttleDirectives.rows ∧
      (run (boundaryPass zeroHash) slotStore
        [drainingPass 10 [slotExchange 11]]).throttled d.id "a" = true := by
  obtain ⟨hreaches, hrows⟩ := drainingPass_reaches
  obtain ⟨d, hd, hpair⟩ := mem_map.1 (hrows ▸ mem_singleton.2 rfl)
  have hdelivers : Along (boundaryPass zeroHash) (DeliversInPass zeroHash "q" "a") slotStore
      [drainingPass 10 [slotExchange 11]] :=
    ⟨fun _ => ⟨rfl, [], slotExchange 11, [], rfl, hreaches⟩, trivial⟩
  exact ⟨d, hd, directives_recorded_for_holder hdelivers hd (Prod.mk.inj hpair).2
    (by simp [slotStore])⟩

/-- A pass stops after it committed the directive. The next one derives the same admission, commits
nothing and hands nothing on: the attempt holds its slot and has no record. -/
theorem drain_lost_after_stop :
    (slotStore.boundaryPass zeroHash (drainingPass 10 [])).throttleDirectives.rows.map (·.id) =
        ["throttle-0"] ∧
      ((run (boundaryPass zeroHash) slotStore
        [drainingPass 10 [], drainingPass 20 [slotExchange 21]]).quotaAdmissions.get? "q").map
          (·.admission) = some .draining ∧
      (run (boundaryPass zeroHash) slotStore
        [drainingPass 10 [], drainingPass 20 [slotExchange 21]]).throttleDirectives.rows.map
          (·.id) = ["throttle-0"] ∧
      ReachesHolder "q" "a" ((slotStore.boundaryPass zeroHash (drainingPass 10 [])).quotaStep
          zeroHash (drainingPass 20 [slotExchange 21])).2
        ((slotStore.boundaryPass zeroHash (drainingPass 10 [])).quotaStep zeroHash
          (drainingPass 20 [slotExchange 21])).1 (slotExchange 21) ∧
      (run (boundaryPass zeroHash) slotStore
        [drainingPass 10 [], drainingPass 20 [slotExchange 21]]).throttled "throttle-0" "a" =
        false := by
  decide

end Store

end Steward
