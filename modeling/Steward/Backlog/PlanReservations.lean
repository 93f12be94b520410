import Steward.Backlog.Planner
import Steward.Lib.Runs

/-!
# What the proposals of a plan take

`BuildPlan` of `internal/backlog/planner.go` takes what a proposal needs from all tasks after it.
Here the tasks come in any order, and any candidate that nothing blocks may be the one `planTask`
selects.
-/

namespace Steward

open Except List

structure PlanSession where
  router : ProviderRouter := {}
  directories : List DirectoryOwner := []
  (resourceOwners checkoutOwners : List (String × String) := [])

/-- A proposal with the candidate selected for it. -/
structure Selection where
  workflow : Workflow := {}
  state : DAGState := {}
  candidate : PlanningCandidate := {}
  locks : List String := []

namespace Selection

variable (p : Selection)

def attemptID : String := p.candidate.attempt.id

def poolID : String := (p.candidate.route.map ProviderRoute.quotaPoolID).getD ""

def checkouts : List String := if p.workflow.environmentScope = .workflow then [p.state.run.id] else []

def bindings : List DirectoryBinding := (clonePlanningTask p.candidate.task).directoryBindings

end Selection

variable {snapshots : List (String × SupervisionSnapshot)} {s : PlanSession} {p : Selection}
  {owners : List (String × String)} {keys keys' : List String} {a a' : String}

def setOwners (owners : List (String × String)) (keys : List String) (owner : String) :
    List (String × String) :=
  keys.foldl (fun owners key => setOwner owners key owner) owners

/-- Whether an attempt may take all keys. -/
def FreeFor (owners : List (String × String)) (attemptID : String) (keys : List String) : Prop :=
  ∀ key ∈ keys, ownerOf owners key = "" ∨ ownerOf owners key = attemptID

namespace PlanSession

variable (snapshots) (s) (p)

/-- What `planTask` checks against the proposals before. Role alternatives may have added estimates;
an attempt without an identity has no ordering history and is not planned. -/
structure Admits : Prop where
  attempt : p.attemptID ≠ ""
  ready : progressBlockers p.state p.candidate.task p.candidate.attempt = []
  supervised : planningSupervisionBlockers snapshots p.state.run.id p.candidate.task = []
  locked : planningResourceLocks p.candidate.task.resourceLocks = .ok p.locks
  resources : resourceBlockers s.resourceOwners p.candidate.attempt p.locks = []
  checkout : checkoutBlockers s.checkoutOwners p.workflow p.state.run.id p.candidate.attempt = []
  routed : ∃ estimates workerIDs, { candidate := p.candidate } ∈
    { s.router with estimates := estimates }.candidates p.candidate.task p.candidate.attempt workerIDs
  directories : directoryBlockers s.directories p.candidate = []

def take : PlanSession where
  router := s.router.reserve p.candidate
  directories := s.directories ++ if p.bindings = [] then [] else [{ attemptID := p.attemptID, bindings := p.bindings }]
  resourceOwners := setOwners s.resourceOwners p.locks p.attemptID
  checkoutOwners := setOwners s.checkoutOwners p.checkouts p.attemptID

def DirectoriesFree : Prop :=
  ∀ o ∈ s.directories, o.attemptID ≠ p.attemptID → ∀ a ∈ p.bindings, ∀ b ∈ o.bindings,
    a.conflicts b = false

def ReadyAndCleared : Prop :=
  p.candidate.attempt.progress = .ready ∧ p.candidate.attempt.assignmentID = "" ∧
    ∀ snapshot, snapshots.lookup p.state.run.id = some snapshot → snapshot.supervised = true →
      snapshot.Clears p.candidate.task.id

/-- Proposals of ready attempts that nothing withholds. No two of different attempts meet on a lock,
a checkout or conflicting directories, and none meets there with what another attempt held
before. -/
structure Apart (ps : List Selection) : Prop where
  ready : ∀ p ∈ ps, ReadyAndCleared snapshots p
  locks : (∀ p ∈ ps, FreeFor s.resourceOwners p.attemptID p.locks) ∧
    ps.Pairwise fun p q => ∀ key ∈ p.locks, key ∈ q.locks → p.attemptID = q.attemptID
  checkouts : (∀ p ∈ ps, FreeFor s.checkoutOwners p.attemptID p.checkouts) ∧
    ps.Pairwise fun p q => ∀ key ∈ p.checkouts, key ∈ q.checkouts → p.attemptID = q.attemptID
  directories : (∀ p ∈ ps, s.DirectoriesFree p) ∧ ps.Pairwise fun p q => p.attemptID ≠ q.attemptID →
    ∀ a ∈ q.bindings, ∀ b ∈ p.bindings, a.conflicts b = false

end PlanSession

/-! ## Owners -/

theorem ownerOf_setOwner (key k : String) :
    ownerOf (setOwner owners key a) k = if k = key then a else ownerOf owners k := by
  unfold ownerOf setOwner
  by_cases hk : k = key
  · simp [hk]
  · rw [if_neg hk, lookup_cons, beq_false_of_ne hk]
    congr 1
    induction owners with
    | nil => rfl
    | cons row rows ih => grind

theorem ownerOf_setOwners (k : String) :
    ownerOf (setOwners owners keys a) k = if k ∈ keys then a else ownerOf owners k := by
  induction keys generalizing owners with
  | nil => rfl
  | cons key keys ih =>
    change ownerOf (setOwners (setOwner owners key a) keys a) k = _
    grind [ownerOf_setOwner]

theorem FreeFor.of_setOwners (ha : a ≠ "") (h : FreeFor owners a keys)
    (h' : FreeFor (setOwners owners keys a) a' keys') :
    FreeFor owners a' keys' ∧ ∀ key ∈ keys, key ∈ keys' → a = a' := by
  have hmeet : ∀ key ∈ keys, key ∈ keys' → a = a' := by
    intro key hkey hkey'
    have := h' key hkey'
    rw [ownerOf_setOwners, if_pos hkey] at this
    exact this.resolve_left ha
  refine ⟨fun key hkey' => ?_, hmeet⟩
  by_cases hkey : key ∈ keys
  · exact hmeet key hkey hkey' ▸ h key hkey
  · have := h' key hkey'
    rwa [ownerOf_setOwners, if_neg hkey] at this

namespace PlanSession

theorem Admits.freeLocks (h : Admits snapshots s p) :
    FreeFor s.resourceOwners p.attemptID p.locks := by
  intro key hkey
  have := filter_eq_nil_iff.1 (map_eq_nil_iff.1 h.resources) key hkey
  grind [Selection.attemptID]

theorem Admits.freeCheckouts (h : Admits snapshots s p) :
    FreeFor s.checkoutOwners p.attemptID p.checkouts := by
  have hfree := h.checkout
  intro key hkey
  unfold Selection.checkouts at hkey
  grind [checkoutBlockers, Selection.attemptID]

theorem Admits.directoriesFree (h : Admits snapshots s p) : s.DirectoriesFree p := by
  intro o ho hne a ha b hb
  have hnone := flatMap_eq_nil_iff.1 h.directories a ha
  simp only at hnone
  split at hnone
  · cases hnone
  split_ifs at hnone
  have := filter_eq_nil_iff.1 (map_eq_nil_iff.1 hnone) o ho
  grind [Selection.attemptID]

theorem Admits.readyAndCleared (h : Admits snapshots s p) : ReadyAndCleared snapshots p := by
  have hready := h.ready
  refine ⟨by grind [progressBlockers, map_eq_nil_iff], by grind [progressBlockers],
    fun snapshot hfound hon => ?_⟩
  have hnone := h.supervised
  simp only [planningSupervisionBlockers, hfound] at hnone
  rw [← supervisionAdmits_iff hon]
  by_contra hnot
  rw [if_neg hnot, map_eq_nil_iff] at hnone
  grind [supervisionAdmits, length_insertionSort]

/-! ## Pools -/

variable {router : ProviderRouter} {workers : List WorkerInventory} {pools : List QuotaPool}
  {pool : QuotaPool}
  {estimates : List RouteEstimate} {preference route : ProviderRoute}

theorem checkRoutingPools_ok {seen : List String} (h : checkRoutingPools pools seen = .ok ()) :
    ∀ pool ∈ pools, pool.id ≠ "" ∧ pool.id ∉ seen ∧
    pools.find? (fun p => p.id = pool.id) = some pool := by
  induction pools generalizing seen with
  | nil => simp
  | cons first rest ih =>
    obtain ⟨hfirst, h⟩ := check_eq_ok_iff.1 h
    obtain ⟨hnew, hrest⟩ := check_eq_ok_iff.1 h
    have hid := refuseWhen_eq_ok_iff.1 (check_eq_ok_iff.1 hfirst).1
    intro pool hpool
    rcases mem_cons.1 hpool with rfl | hpool
    · grind [refuseWhen_eq_ok_iff, Text.proper]
    · grind

theorem newProviderRouter_ok (h : newProviderRouter workers pools estimates = .ok router) :
    ∀ pool ∈ pools, pool.id ≠ "" ∧ router.pool pool.id = some pool ∧
    router.load pool = pool.activeAssignments := by
  obtain ⟨hpools, h⟩ := check_eq_ok_iff.1 h
  obtain ⟨_, -, h⟩ := of_bind h
  cases h
  intro pool hpool
  obtain ⟨hid, -, hfound⟩ := checkRoutingPools_ok hpools pool ((mem_insertionSort _).2 hpool)
  exact ⟨hid, hfound, by simp [ProviderRouter.load]⟩

theorem resolvePool_ok {provider : WorkerProviderInventory}
    (h : router.resolvePool preference provider = .ok pool) : router.pool pool.id = some pool := by
  have hfound : ∀ id, router.pool id = some pool → router.pool pool.id = some pool := by
    intro id hid
    have := find?_some hid
    grind
  grind [ProviderRouter.resolvePool]

theorem candidates_room {task : Task} {attempt : Attempt} {workerIDs : List String} {candidate : PlanningCandidate}
    (h : { candidate := candidate } ∈ router.candidates task attempt workerIDs)
    (hroute : candidate.route = some route) :
    ∃ pool, router.pool route.quotaPoolID = some pool ∧ router.load pool < pool.maxConcurrent := by
  unfold ProviderRouter.candidates at h
  split at h
  · obtain ⟨_, -, h⟩ := mem_map.1 h
    cases h
    cases hroute
  · obtain ⟨⟨preference, ordinal⟩, -, h⟩ := mem_flatMap.1 h
    obtain ⟨workerID, -, h⟩ := mem_map.1 h
    simp only [ProviderRouter.resolveCandidate] at h
    -- every case but the last has a blocker
    repeat' split at h
    all_goals try cases h
    next pool hpool =>
      obtain ⟨rfl, hb⟩ := ProviderRouter.Routed.mk.injEq .. ▸ h
      cases hroute
      exact ⟨pool, resolvePool_ok hpool, by grind⟩

theorem load_take (hid : pool.id ≠ "") :
    (s.take p).router.load pool = s.router.load pool + if p.poolID = pool.id then 1 else 0 := by
  unfold take ProviderRouter.reserve Selection.poolID ProviderRouter.load
  grind

theorem pool_take (id : String) : (s.take p).router.pool id = s.router.pool id := by
  unfold take ProviderRouter.reserve
  grind [ProviderRouter.pool]

theorem load_le {ps : List Selection} (h : Runs.Along take (Admits snapshots) s ps)
    (hpool : s.router.pool pool.id = some pool) (hid : pool.id ≠ "") :
    s.router.load pool + ps.countP (·.poolID = pool.id) ≤ max (s.router.load pool) pool.maxConcurrent := by
  induction ps generalizing s with
  | nil => simp
  | cons p ps ih =>
    have hrest := ih h.2 ((pool_take _).trans hpool)
    rw [load_take hid] at hrest
    by_cases hp : p.poolID = pool.id
    · obtain ⟨_, _, hrouted⟩ := h.1.routed
      cases hroute : p.candidate.route with
      | none => exact absurd (hp.symm.trans (by simp [Selection.poolID, hroute])) hid
      | some route =>
        have hid' : route.quotaPoolID = pool.id := by simpa [Selection.poolID, hroute] using hp
        obtain ⟨_, hpool', hroom⟩ := candidates_room hrouted hroute
        cases hpool.symm.trans (hid' ▸ hpool')
        change s.router.load pool < _ at hroom
        rw [countP_cons_of_pos (by simpa using hp)]
        grind
    · simp_all

/-! ## Plans -/

def planPool : QuotaPool := { id := "pool", providerInstanceIDs := ["codex"], maxConcurrent := 2 }

def planWorker : WorkerInventory :=
  { id := "w", providers := [{ instanceID := "codex", available := true, models := ["gpt"] }] }

def planEstimate (id : String) : RouteEstimate :=
  { attemptID := id, workerID := "w", providerInstanceID := "codex", model := "gpt"
    estimate := { remainingCost := 1, expectedRuntime := 1 } }

def planSession : PlanSession where
  router := (newProviderRouter [planWorker] [planPool]
    [planEstimate "a", planEstimate "b"]).toOption.getD {}

def planDirectory (id : String) (inode : Nat) : DirectoryBinding where
  access := .readWrite
  identity :=
    { registration := { workerID := "w", resourceID := id, revision := "1", path := "/" ++ id, writable := true }
      object := { inode := inode }, mountID := 1, ancestors := [{ inode := 1 }] }

def planSelection (id : String) (inode : Nat) : Selection where
  workflow := { environmentScope := .workflow }
  state := { run := { id := id } }
  candidate :=
    { task :=
        { id := id, routes := [{ providerInstanceID := "codex", model := "gpt" }], resourceLocks := [id]
          directoryBindings := [planDirectory id inode] }
      attempt := { id := id, progress := .ready }, workerID := "w", routeOrdinal := 1
      route := some { (planEstimate id).route with quotaPoolID := "pool" }
      estimate := some (planEstimate id).estimate }
  locks := [id]

/-- The gate before the first task is accepted. -/
def planSupervision : List (String × SupervisionSnapshot) :=
  [("a", { runID := "a", supervised := true
           gates := [{ definition := { id := "g", protectedTaskIDs := ["a"] }, state := .accepted }] })]

def planSelections : List Selection := [planSelection "a" 2, planSelection "b" 3]

theorem planSelections_admitted : Runs.Along take (Admits planSupervision) planSession planSelections := by
  refine ⟨?_, ?_, trivial⟩
  all_goals exact ⟨by decide, by decide, by decide, by decide, by decide, by decide,
    ⟨planSession.router.estimates, ["w"], by decide +kernel⟩, by decide⟩

/-- Whatever order tasks are planned in and whichever unblocked candidates are selected, proposals
stay apart. -/
theorem planned_apart {ps : List Selection} (h : Runs.Along take (Admits snapshots) s ps) : Apart snapshots s ps where
  ready := (Runs.pairwise_of_along (F := fun _ => ReadyAndCleared snapshots) (R := fun _ _ => True)
    (fun _ _ => Admits.readyAndCleared) (fun _ _ _ _ hready => ⟨hready, trivial⟩) h).1
  locks := Runs.pairwise_of_along (fun _ _ => Admits.freeLocks)
    (fun _ _ _ hp => FreeFor.of_setOwners hp.attempt hp.freeLocks) h
  checkouts := Runs.pairwise_of_along (fun _ _ => Admits.freeCheckouts)
    (fun _ _ _ hp => FreeFor.of_setOwners hp.attempt hp.freeCheckouts) h
  directories := by
    refine Runs.pairwise_of_along (fun _ _ => Admits.directoriesFree) (fun s p q hp hfree => ⟨?_, ?_⟩) h
    · exact fun o ho => hfree o (mem_append_left _ ho)
    · intro hne a ha b hb
      have hheld : p.bindings ≠ [] := ne_nil_of_mem hb
      exact hfree ⟨p.attemptID, p.bindings⟩ (by simp [take, hheld]) hne a ha b hb

theorem planned_apart_two : Apart planSupervision planSession planSelections :=
  planned_apart planSelections_admitted

/-- A plan never proposes more on a pool than it has room for. -/
theorem planned_within_pools (hrouter : newProviderRouter workers pools estimates = .ok s.router)
    {ps : List Selection} (h : Runs.Along take (Admits snapshots) s ps) : ∀ pool ∈ pools,
      pool.activeAssignments + ps.countP (·.poolID = pool.id) ≤ max pool.activeAssignments pool.maxConcurrent := by
  intro pool hpool
  obtain ⟨hid, hfound, hload⟩ := newProviderRouter_ok hrouter pool hpool
  exact hload ▸ load_le h hfound hid

theorem planned_within_pools_two :
    planPool.activeAssignments + planSelections.countP (·.poolID = planPool.id) ≤
      max planPool.activeAssignments planPool.maxConcurrent :=
  planned_within_pools (show newProviderRouter [planWorker] [planPool] [planEstimate "a", planEstimate "b"] = _ by
    decide +kernel) planSelections_admitted planPool (.head _)

end PlanSession

end Steward
