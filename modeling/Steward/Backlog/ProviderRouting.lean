import Steward.Backlog.Coordinator
import Steward.Domain.Quota
import Steward.Lib.Except

/-!
# Provider routes and quota pools

`internal/backlog/provider_routing.go`. The router offers every route of a task on every worker as
it resolves there: an installed provider, one of its models, and one fleet pool. A pool at its
concurrency limit, this plan's assignments included, blocks the route.
-/

namespace Steward

open Except Text

/-! ## Candidates and blockers -/

structure PlanningCandidate where
  workflowRunID : String := ""
  task : Task := {}
  attempt : Attempt := {}
  workerID : String := ""
  routeOrdinal : Int := 0
  route : Option ProviderRoute := none
  estimate : Option TaskAdmissionEstimate := none
deriving DecidableEq

/-- Why a task or a candidate is not planned. -/
structure PlanningBlocker where
  (code detail workerID resource ownerID dependsOn supervisionCode gateID holdID : String := "")
  (providerInstanceID model : String := "")
  routeOrdinal : Int := 0
  quotaPoolID : String := ""
deriving DecidableEq

/-- The remaining cost and runtime of one attempt on one worker, provider, model and options. -/
structure RouteEstimate where
  (attemptID workerID providerInstanceID model : String := "")
  options : List (String × String) := []
  estimate : TaskAdmissionEstimate := {}
deriving DecidableEq

def RouteEstimate.route (e : RouteEstimate) : ProviderRoute :=
  { workerID := e.workerID, providerInstanceID := e.providerInstanceID, model := e.model, options := e.options }

def clonePlanningTask (task : Task) : Task := { task with dependencyInputs := [] }

/-- The text an estimate is found by; the options come in the order of their names. -/
def routeEstimateKey (attemptID : String) (route : ProviderRoute) : String :=
  (route.options.insertionSort fun a b => a.1 ≤ b.1).foldl
    (fun key option => key ++ "\x00" ++ option.1 ++ "=" ++ option.2)
    (attemptID ++ "\x00" ++ route.workerID ++ "\x00" ++ route.providerInstanceID ++ "\x00" ++
      route.model)

/-! ## The router -/

/-- What routes resolve against: the workers, the pools in identity order, the estimates by key, and
the pool of every assignment this plan already made. -/
structure ProviderRouter where
  workers : List WorkerInventory := []
  pools : List QuotaPool := []
  estimates : List (String × TaskAdmissionEstimate) := []
  batchAssignments : List String := []
deriving DecidableEq

def firstRepeated : List String → Option String
  | a :: b :: rest => if a = b then some b else firstRepeated (b :: rest)
  | _ => none

def validateRoutingPool (pool : QuotaPool) : Except Err Unit := do
  refuseWhen (!proper pool.id) { text := "provider routing quota pool ID must be nonempty and trimmed" }
  refuseWhen (pool.maxConcurrent ≤ 0)
    { text := "provider routing quota pool " ++ quote pool.id ++
        " maximum concurrency must be positive" }
  refuseWhen (pool.activeAssignments < 0)
    { text := "provider routing quota pool " ++ quote pool.id ++
        " active assignments cannot be negative" }
  refuseWhen (∃ instanceID ∈ pool.providerInstanceIDs, proper instanceID = false)
    { text := "provider routing quota pool " ++ quote pool.id ++
        " instance IDs must be nonempty and trimmed" }
  match firstRepeated (pool.providerInstanceIDs.insertionSort (· ≤ ·)) with
  | none => .ok ()
  | some instanceID =>
    .error { text := "provider routing quota pool " ++ quote pool.id ++
               " repeats provider instance " ++ quote instanceID }

def validateRouteEstimate (e : RouteEstimate) : Except Err Unit := do
  [("attempt", e.attemptID), ("worker", e.workerID), ("provider instance", e.providerInstanceID),
      ("model", e.model)].forM fun field => refuseWhen (!proper field.2)
    { text := "provider routing estimate " ++ field.1 ++ " must be nonempty and trimmed" }
  refuseWhen (∃ option ∈ e.options, proper option.1 = false ∨ proper option.2 = false)
    { text := "provider routing estimate options must have nonempty trimmed names and values" }
  refuseWhen (e.estimate.remainingCost ≤ 0)
    { text := "provider routing estimate remaining cost must be positive and finite" }
  refuseWhen (e.estimate.expectedRuntime ≤ 0)
    { text := "provider routing estimate runtime must be positive" }
  refuseWhen (e.estimate.checkpointMargin < 0)
    { text := "provider routing estimate checkpoint margin cannot be negative" }

def checkRoutingPools : List QuotaPool → List String → Except Err Unit
  | [], _ => .ok ()
  | pool :: rest, seen => do
    validateRoutingPool pool
    refuseWhen (pool.id ∈ seen) { text := "provider routing repeats quota pool " ++ quote pool.id }
    checkRoutingPools rest (pool.id :: seen)

def indexRouteEstimates : List RouteEstimate → List (String × TaskAdmissionEstimate) →
    Except Err (List (String × TaskAdmissionEstimate))
  | [], indexed => .ok indexed
  | e :: rest, indexed => do
    validateRouteEstimate e
    let key := routeEstimateKey e.attemptID e.route
    refuseWhen (key ∈ indexed.map (·.1))
      { text := "provider routing repeats estimate for attempt " ++ quote e.attemptID ++ " worker " ++
          quote e.workerID ++ " instance " ++ quote e.providerInstanceID ++ " model " ++
          quote e.model }
    indexRouteEstimates rest ((key, e.estimate) :: indexed)

def sortRouteEstimates (estimates : List RouteEstimate) : List RouteEstimate :=
  estimates.insertionSort fun a b =>
    routeEstimateKey a.attemptID a.route ≤ routeEstimateKey b.attemptID b.route

def newProviderRouter (workers : List WorkerInventory) (pools : List QuotaPool)
    (estimates : List RouteEstimate) : Except Err ProviderRouter := do
  let pools := pools.insertionSort fun a b => a.id ≤ b.id
  checkRoutingPools pools []
  let estimates ← indexRouteEstimates (sortRouteEstimates estimates) []
  return { workers := workers, pools := pools, estimates := estimates }

namespace ProviderRouter

variable (router : ProviderRouter)

def worker (workerID : String) : WorkerInventory :=
  (router.workers.reverse.find? fun w => w.id = workerID).getD {}

def pool (poolID : String) : Option QuotaPool := router.pools.find? fun p => p.id = poolID

def instancePools (instanceID : String) : List String :=
  (router.pools.filter fun p => instanceID ∈ p.providerInstanceIDs).map (·.id)

def estimate (attemptID : String) (route : ProviderRoute) : Option TaskAdmissionEstimate :=
  router.estimates.lookup (routeEstimateKey attemptID route)

def load (pool : QuotaPool) : Int := pool.activeAssignments + router.batchAssignments.count pool.id

def reserve (candidate : PlanningCandidate) : ProviderRouter :=
  match candidate.route with
  | none => router
  | some route =>
    if route.quotaPoolID = "" then router
    else { router with batchAssignments := route.quotaPoolID :: router.batchAssignments }

/-- The fleet pool of a route on a worker, or why it has none: the route's and the worker's must
agree, and without either the instance must belong to one pool only. -/
def resolvePool (preference : ProviderRoute) (provider : WorkerProviderInventory) :
    Except (String × String) QuotaPool :=
  let instancePools := router.instancePools preference.providerInstanceID
  if preference.quotaPoolID ≠ "" ∧ provider.quotaPoolID ≠ "" ∧
      preference.quotaPoolID ≠ provider.quotaPoolID then
    .error (preference.quotaPoolID, "route quota pool " ++ quote preference.quotaPoolID ++
      " conflicts with worker inventory pool " ++ quote provider.quotaPoolID)
  else if preference.quotaPoolID = "" ∧ provider.quotaPoolID = "" ∧ 1 < instancePools.length then
    .error ("", "provider instance " ++ quote preference.providerInstanceID ++
      " maps to multiple fleet quota pools; worker inventory must select one")
  else
    let poolID :=
      if preference.quotaPoolID ≠ "" then preference.quotaPoolID
      else if provider.quotaPoolID ≠ "" then provider.quotaPoolID
      else instancePools.headD ""
    match (if poolID = "" then none else router.pool poolID) with
    | none => .error (poolID, "provider instance " ++ quote preference.providerInstanceID ++
        " has no fleet quota pool")
    | some pool =>
      if preference.providerInstanceID ∉ pool.providerInstanceIDs then
        .error (poolID, "quota pool " ++ quote poolID ++ " does not include provider instance " ++
          quote preference.providerInstanceID)
      else .ok pool

structure Routed where
  candidate : PlanningCandidate := {}
  blockers : List PlanningBlocker := []
deriving DecidableEq

def pooledCandidate (candidate : PlanningCandidate) (route : ProviderRoute) (pool : QuotaPool) :
    Routed :=
  let base : PlanningBlocker :=
    { workerID := candidate.workerID, routeOrdinal := candidate.routeOrdinal
      providerInstanceID := route.providerInstanceID, model := route.model, quotaPoolID := pool.id }
  let estimate := router.estimate candidate.attempt.id route
  { candidate := { candidate with route := some route, estimate := estimate }
    blockers :=
      (if pool.maxConcurrent ≤ router.load pool then
        [{ base with
           code := "quota-pool-concurrency"
           detail := "quota pool " ++ quote pool.id ++ " has " ++ toString (router.load pool) ++
             " active or planned assignments at its limit of " ++ toString pool.maxConcurrent }]
      else []) ++
      (if estimate.isNone then
        [{ base with
           code := "route-estimate-missing"
           detail := "route " ++ toString candidate.routeOrdinal ++
             " has no remaining-cost and runtime estimate for attempt " ++
             quote candidate.attempt.id }]
      else []) }

def resolveCandidate (task : Task) (attempt : Attempt) (workerID : String) (routeOrdinal : Int)
    (preference : ProviderRoute) : Routed :=
  let route := { preference with workerID := workerID }
  let candidate : PlanningCandidate :=
    { task := task, attempt := attempt, workerID := workerID, routeOrdinal := routeOrdinal,
      route := some route }
  let blocked := fun (code detail poolID : String) => ({
    candidate := candidate
    blockers :=
      [{ code := code, detail := detail, workerID := workerID, routeOrdinal := routeOrdinal,
         providerInstanceID := preference.providerInstanceID, model := preference.model,
         quotaPoolID := poolID }] } : Routed)
  if preference.workerID ≠ "" ∧ preference.workerID ≠ workerID then
    blocked "route-worker-mismatch"
      ("route " ++ toString routeOrdinal ++ " requires worker " ++ quote preference.workerID) ""
  else
    match (router.worker workerID).providers.find? fun p => p.instanceID =
      preference.providerInstanceID with
    | none =>
      blocked "provider-instance-unavailable" ("provider instance " ++
        quote preference.providerInstanceID ++ " is not installed on worker " ++ quote workerID) ""
    | some provider =>
      if !provider.available then
        blocked "provider-instance-unavailable" ("provider instance " ++
          quote preference.providerInstanceID ++ " is unavailable on worker " ++ quote workerID) ""
      else if preference.model ∉ provider.models then
        blocked "provider-model-unavailable" ("model " ++ quote preference.model ++
          " is unavailable from provider instance " ++ quote preference.providerInstanceID ++
          " on worker " ++ quote workerID) ""
      else
        match router.resolvePool preference provider with
        | .error (poolID, detail) => blocked "route-quota-pool-unavailable" detail poolID
        | .ok pool => router.pooledCandidate candidate { route with quotaPoolID := pool.id } pool

def candidates (task : Task) (attempt : Attempt) (workerIDs : List String) : List Routed :=
  if task.routes = [] then
    workerIDs.map fun workerID => { candidate := { task := task, attempt := attempt, workerID := workerID } }
  else
    (task.routes.zipIdx 1).flatMap fun (preference, ordinal) =>
      workerIDs.map fun workerID => router.resolveCandidate task attempt workerID ordinal preference

end ProviderRouter

end Steward
