import Steward.Store.Store

/-!
# Offering, claiming and leasing assignments

`CommitAssignmentPlan` and `ClaimAssignment` of `internal/store/sqlite/fleet.go`, and
`RenewAssignmentLease` and `ExpireAssignmentLeases` of `worker_commands.go`. An attempt has one
assignment row: a released row is offered again in place, under the next epoch and fresh identities.
Fences that read tables outside this model are parameters.
-/

namespace Steward

open Except Text

/-- What an offer holds of the run's current graph. -/
structure AssignmentGraph where
  executorDemand : Option ResourceDemand := none
  graphRevision : Int := 0
deriving DecidableEq

/-- The fences of an offer or a claim that read tables outside this model: review children, other
runs' outcomes, the supervision predicate, worker enrolment, the run's graph, executor capacity and
usage bindings. -/
structure AdmissionFences where
  reviewRefusal : Store → Attempt → Except Err String
  requireExternalSuccess : Store → Attempt → Except Err Unit
  requireSupervisionAdmits : Store → (runID taskID : String) → (graphRevision : Int) → Except Err Unit
  workerEnrolled : Store → (workerID : String) → Except Err Bool
  bindAssignmentGraph : Store → Attempt → Assignment → Except Err AssignmentGraph
  requireExecutorCapacity : Store → (workerID : String) → Time → (workerEpoch : String) →
    Option ResourceDemand → Except Err Unit
  bindAssignmentUsage : Store → Assignment → Time → Except Err Unit

/-! ## Offers -/

def validateOfferedAssignment (assignment : Assignment) (item : AssignmentPlanItem) :
    Except Err Unit := do
  refuseWhen (assignment.id = "" ∨ assignment.attemptID = "" ∨ assignment.workerID = "" ∨
      assignment.workerEpoch = "" ∨ assignment.dispatchToken = "" ∨ assignment.leaseToken = "" ∨
      assignment.threadID = "" ∨ assignment.epoch < 1 ∨ assignment.state ≠ .offered ∨
      assignment.leaseExpiresAt ≠ 0 ∨ assignment.dispatchState ≠ .unset ∨
      assignment.dispatchRevision ≠ 0 ∨ item.expectedAttemptRevision < 0 ∨
      item.workerSnapshotSequence < 1)
    { text := "invalid offered assignment " ++ quote assignment.id }
  refuseWhen (assignment.route.providerInstanceID = "" ∨ assignment.route.model = "")
    { text := "assignment " ++ quote assignment.id ++ " requires a provider route" }

def sameAssignmentPlanIdentity (current offered : Assignment) : Bool :=
  current.id = offered.id ∧ current.attemptID = offered.attemptID ∧
    current.workerID = offered.workerID ∧ current.workerEpoch = offered.workerEpoch ∧
    current.route = offered.route ∧ current.estimate = offered.estimate ∧
    current.epoch = offered.epoch ∧ current.leaseToken = offered.leaseToken ∧
    current.dispatchToken = offered.dispatchToken ∧ current.threadID = offered.threadID

def epochIdentity (base : String) (epoch : Int) : String := base ++ "-e" ++ toString epoch

/-- An offer placed on a released row: the row's identity, the next epoch, and identities no earlier
epoch had. -/
def rearmedAssignment (released offered : Assignment) : Assignment :=
  { offered with
    id := released.id
    epoch := released.epoch + 1
    unknownSince := none
    leaseToken := epochIdentity released.leaseToken (released.epoch + 1)
    dispatchToken := epochIdentity released.dispatchToken (released.epoch + 1)
    threadID := epochIdentity ("thread-" ++ released.id) (released.epoch + 1) }

def boundAssignment (offered : Assignment) (graph : AssignmentGraph) (now : Time) : Assignment :=
  { offered with
    executorDemand := graph.executorDemand
    graphRevision := graph.graphRevision
    createdAt := now
    updatedAt := now }

namespace Store

variable (s : Store) (assignment : Assignment)

def insertAssignmentPlanAuditEvent (commit : AssignmentPlanCommit)
    (item : AssignmentPlanItem) (assignment : Assignment) (attempt : Attempt) : Except Err Store :=
  let base := "assignment-offer:" ++ assignment.id
  let identity := if 1 < assignment.epoch then numbered (base ++ ":epoch") assignment.epoch else base
  s.insertNativeAuditEvent
    { id := identity
      kind := "assignment-offered"
      workflowRunID := attempt.workflowRunID
      taskID := attempt.taskID
      attemptID := attempt.id
      targetType := .assignment
      targetID := assignment.id
      actor := "coordinator"
      reason := "assignment offered by planner"
      createdAt := assignment.createdAt }
    { coordinatorEpoch := commit.coordinatorEpoch
      workerEpoch := item.workerEpoch
      assignmentEpoch := assignment.epoch
      workerSequence := item.workerSnapshotSequence
      expectedRevision := item.expectedAttemptRevision
      revision := item.expectedAttemptRevision + 1
      idempotencyIdentity := identity
      outcome := "offered" }

def insertAssignment : Except Err Store :=
  if s.assignments.rows.any (fun a => a.id = assignment.id ∨ a.attemptID = assignment.attemptID ∨
      a.dispatchToken = assignment.dispatchToken) then
    .error { text := "commit assignment " ++ quote assignment.id, sentinel := some .constraint }
  else .ok { s with assignments := s.assignments.put assignment }

def rearmAssignment : Except Err Store :=
  if s.assignments.rows.any (fun a => a.id ≠ assignment.id ∧ a.dispatchToken = assignment.dispatchToken)
  then .error { text := "re-arm assignment " ++ quote assignment.id, sentinel := some .constraint }
  else .ok { s with assignments := s.assignments.put assignment }

def attemptAssignment (attemptID : String) : Option Assignment :=
  s.assignments.rows.find? fun a => a.attemptID = attemptID

def requirePlannedWorker (commit : AssignmentPlanCommit) (item : AssignmentPlanItem)
    (workerID : String) : Except Err Unit :=
  let changed : Err :=
    { text := "worker " ++ quote workerID ++ " planning snapshot changed"
      sentinel := some .staleWorkerSnapshot }
  match s.loadWorkerSnapshot workerID with
  | none => .error changed
  | some snapshot => do
    refuseWhen (snapshot.workerEpoch ≠ item.workerEpoch ∨
      snapshot.sequence ≠ item.workerSnapshotSequence ∨
      snapshot.coordinatorEpoch ≠ commit.coordinatorEpoch) changed
    refuseWhen (!workerAccepts snapshot commit.committedAt)
      { text := "worker " ++ quote workerID ++ " is disconnected, stale, or not ready"
        sentinel := some .workerUnavailable }

section

variable (fences : AdmissionFences)

variable (s : Store) (commit : AssignmentPlanCommit) (item : AssignmentPlanItem)

variable (attempt : Attempt) (assignment : Assignment)

/-- Store an offer whose own fences hold, and attach it to its attempt; `none` when the item is
skipped. `write` is the insertion or the re-arming. -/
def placeOffer (write : Store → Assignment → Except Err Store) :
    Except Err (Store × Option Assignment) := do
  s.requirePlannedWorker commit item assignment.workerID
  if !(← fences.workerEnrolled s assignment.workerID) then return (s, none)
  match fences.bindAssignmentGraph s attempt assignment with
  | .error _ => return (s, none)
  | .ok graph =>
    let assignment := boundAssignment assignment graph commit.committedAt
    match fences.requireExecutorCapacity s assignment.workerID commit.committedAt
        assignment.workerEpoch (assignmentExecutorDemand attempt assignment) with
    | .error e => if e.sentinel = some .executorCapacity then return (s, none) else .error e
    | .ok () =>
      let s ← write s assignment
      let attempt :=
        { attempt with
          assignmentID := assignment.id
          revision := attempt.revision + 1
          updatedAt := commit.committedAt }
      let s ← s.updateAttempt attempt item.expectedAttemptRevision
      let s ← s.insertAssignmentPlanAuditEvent commit item assignment attempt
      return (s, some assignment)

/-- An item whose attempt already has an assignment: a repeat of the offer it holds is confirmed,
anything else is skipped. -/
def replayOffer : Except Err (Store × Option Assignment) :=
  if attempt.assignmentID ≠ assignment.id then return (s, none)
  else do
    let current ← s.loadAssignment assignment.id
    if !sameAssignmentPlanIdentity current assignment then return (s, none)
    else
      let s ← s.insertAssignmentPlanAuditEvent commit item current attempt
      return (s, some current)

def freshOffer : Except Err (Store × Option Assignment) :=
  match s.attemptAssignment attempt.id with
  | none => s.placeOffer fences commit item attempt assignment insertAssignment
  | some released =>
    if released.state ≠ .released then return (s, none)
    else
      s.placeOffer fences commit item attempt (rearmedAssignment released assignment) rearmAssignment

def offerItem : Except Err (Store × Option Assignment) := do
  let assignment := { item.assignment with workerEpoch := item.workerEpoch }
  let attempt ← s.loadAttempt assignment.attemptID
  if (← fences.reviewRefusal s attempt) ≠ "" then return (s, none)
  if attempt.assignmentID ≠ "" then s.replayOffer commit item attempt assignment
  else if attempt.revision ≠ item.expectedAttemptRevision then return (s, none)
  else
    match fences.requireExternalSuccess s attempt with
    | .error _ => return (s, none)
    | .ok () =>
      match fences.requireSupervisionAdmits s attempt.workflowRunID attempt.taskID 0 with
      | .error e => if e.sentinel = some .supervisionBlocked then return (s, none) else .error e
      | .ok () =>
        if attempt.progress.terminal ∨ attempt.control ≠ .unassigned then return (s, none)
        else s.freshOffer fences commit item attempt assignment

def offerItems (s : Store) (commit : AssignmentPlanCommit) :
    List AssignmentPlanItem → List String → List String → Except Err (Store × List Assignment)
  | [], _, _ => .ok (s, [])
  | item :: items, assignmentIDs, attemptIDs => do
    let assignment := { item.assignment with workerEpoch := item.workerEpoch }
    validateOfferedAssignment assignment item
    refuseWhen (assignment.id ∈ assignmentIDs)
      { text := "assignment plan repeats assignment " ++ quote assignment.id }
    refuseWhen (assignment.attemptID ∈ attemptIDs)
      { text := "assignment plan repeats attempt " ++ quote assignment.attemptID }
    let (s, offered) ← s.offerItem fences commit item
    let (s, rest) ← offerItems s commit items (assignment.id :: assignmentIDs)
      (assignment.attemptID :: attemptIDs)
    return (s, offered.toList ++ rest)

def commitAssignmentPlan : Except Err (Store × List Assignment) := do
  refuseWhen (commit.coordinatorEpoch < 1 ∨ commit.committedAt = 0 ∨ commit.items = [])
    { text := "assignment plan requires coordinator epoch, commit time, and items" }
  s.requireCoordinatorEpoch commit.coordinatorEpoch
  s.offerItems fences commit commit.items [] []

end

end Store

/-! ## Claims -/

variable (request : AssignmentClaimRequest)

def validateAssignmentClaim : Except Err Unit :=
  refuseWhen (request.coordinatorEpoch < 1 ∨ request.workerID = "" ∨ request.workerEpoch = "" ∨
      request.assignmentID = "" ∨ request.assignmentEpoch < 1 ∨ request.leaseToken = "" ∨
      request.claimedAt = 0 ∨ ¬request.claimedAt < request.leaseExpiresAt)
    { text := "invalid claim identity or lease", sentinel := some .assignmentClaim }

def AssignmentClaimRequest.matches (assignment : Assignment) : Bool :=
  assignment.workerID = request.workerID ∧ assignment.workerEpoch = request.workerEpoch ∧
    assignment.epoch = request.assignmentEpoch ∧ assignment.leaseToken = request.leaseToken

def leasedAssignment (assignment : Assignment) : Assignment :=
  { assignment.setState .claimed request.claimedAt with
    leaseExpiresAt := request.leaseExpiresAt
    updatedAt := request.claimedAt }

namespace Store

def insertAssignmentClaimAuditEvent (s : Store) (request : AssignmentClaimRequest)
    (assignment : Assignment) (attempt : Attempt) : Except Err Store :=
  let identity := numbered ("assignment-claim:" ++ assignment.id) assignment.epoch
  s.insertNativeAuditEvent
    { id := identity
      kind := "assignment-claimed"
      workflowRunID := attempt.workflowRunID
      taskID := attempt.taskID
      attemptID := attempt.id
      targetType := .assignment
      targetID := assignment.id
      actor := "worker:" ++ request.workerID
      reason := "worker accepted assignment offer"
      createdAt := assignment.updatedAt }
    { coordinatorEpoch := request.coordinatorEpoch
      workerEpoch := request.workerEpoch
      assignmentEpoch := request.assignmentEpoch
      revision := request.assignmentEpoch
      idempotencyIdentity := identity
      outcome := "claimed" }

def requireClaimingWorker (s : Store) (request : AssignmentClaimRequest) : Except Err Unit :=
  let stale : Err :=
    { text := "worker " ++ quote request.workerID ++ " epoch is not current"
      sentinel := some .staleWorkerSnapshot }
  match s.loadWorkerSnapshot request.workerID with
  | none => .error stale
  | some snapshot => do
    refuseWhen (snapshot.workerEpoch ≠ request.workerEpoch ∨
      snapshot.coordinatorEpoch ≠ request.coordinatorEpoch) stale
    refuseWhen (!workerAccepts snapshot request.claimedAt)
      { text := "worker " ++ quote request.workerID ++ " is disconnected, stale, or not ready"
        sentinel := some .workerUnavailable }

def claimRefused (text : String) : Err := { text := text, sentinel := some .assignmentClaim }

section

variable (fences : AdmissionFences)

/-- Start authorization: external dependencies and the supervision predicate, against the graph the
offer was bound to. An overseer activation passes neither fence. -/
def requireStartAuthorized (s : Store) (attempt : Attempt) (assignment : Assignment) :
    Except Err Unit :=
  if attempt.isSupervisionActivation then .ok ()
  else
    match fences.requireExternalSuccess s attempt with
    | .error e => .error (claimRefused e.text)
    | .ok () =>
      match fences.requireSupervisionAdmits s attempt.workflowRunID attempt.taskID
          assignment.graphRevision with
      | .error e =>
        if e.sentinel = some .supervisionBlocked then .error (claimRefused e.text) else .error e
      | .ok () => .ok ()

/-- The claim of an offered assignment. The compare-and-set on the offered state finds the row it
was just read from. -/
def claimOffered (s : Store) (request : AssignmentClaimRequest) (assignment : Assignment)
    (attempt : Attempt) : Except Err (Store × Assignment) := do
  refuseWhen (attempt.assignmentID ≠ assignment.id ∨ attempt.progress.terminal = true ∨
      attempt.control ≠ .unassigned)
    (claimRefused ("attempt " ++ quote attempt.id ++ " is not claimable"))
  refuseWhen (!assignmentOwnsExecutorCapacity attempt assignment)
    (claimRefused ("assignment " ++ quote assignment.id ++
      " does not retain its offered executor reservation"))
  s.requireStartAuthorized fences attempt assignment
  let claimed := leasedAssignment request assignment
  let s := { s with assignments := s.assignments.put claimed }
  let active :=
    { attempt with
      progress := .active
      control := .preparing
      revision := attempt.revision + 1
      updatedAt := request.claimedAt }
  let s ← s.updateAttempt active attempt.revision
  let s ← s.insertAssignmentClaimAuditEvent request claimed active
  return (s, claimed)

def claimAssignment (s : Store) (request : AssignmentClaimRequest) :
    Except Err (Store × Assignment) := do
  validateAssignmentClaim request
  s.requireCoordinatorEpoch request.coordinatorEpoch
  s.requireClaimingWorker request
  let assignment ← s.loadAssignment request.assignmentID
  refuseWhen (!request.matches assignment)
    (claimRefused ("identity mismatch for " ++ quote request.assignmentID))
  let attempt ← s.loadAttempt assignment.attemptID
  let refusal ← fences.reviewRefusal s attempt
  refuseWhen (refusal ≠ "") (claimRefused refusal)
  fences.bindAssignmentUsage s assignment request.claimedAt
  if assignment.state = .claimed then
    refuseWhen (assignment.leaseExpiresAt ≠ request.leaseExpiresAt)
      (claimRefused ("assignment " ++ quote assignment.id ++ " is already claimed"))
    let s ← s.insertAssignmentClaimAuditEvent request assignment attempt
    return (s, assignment)
  else
    refuseWhen (assignment.state ≠ .offered)
      (claimRefused ("assignment " ++ quote assignment.id ++ " is " ++ assignment.state.text))
    s.claimOffered fences request assignment attempt

end

end Store

/-! ## Leases -/

variable (renewal : AssignmentLeaseRenewal) (assignment : Assignment)

def validateAssignmentLeaseRenewal : Except Err Unit :=
  refuseWhen (renewal.coordinatorEpoch < 1 ∨ renewal.workerID = "" ∨ renewal.workerEpoch = "" ∨
      renewal.workerSequence < 1 ∨ renewal.assignmentID = "" ∨ renewal.assignmentEpoch < 1 ∨
      renewal.leaseToken = "" ∨ renewal.renewedAt = 0 ∨ ¬renewal.renewedAt < renewal.leaseExpiresAt)
    { text := "invalid renewal identity or lease", sentinel := some .assignmentLeaseRenewal }

def AssignmentLeaseRenewal.matches : Bool :=
  assignment.workerID = renewal.workerID ∧ assignment.workerEpoch = renewal.workerEpoch ∧
    assignment.epoch = renewal.assignmentEpoch ∧ assignment.leaseToken = renewal.leaseToken ∧
    assignment.state = .claimed

def assignmentLeaseAuditID : String :=
  numbered (numbered ("assignment-lease:" ++ assignment.id) assignment.epoch)
    assignment.leaseExpiresAt

def renewedAssignment : Assignment :=
  { assignment with leaseExpiresAt := renewal.leaseExpiresAt, updatedAt := renewal.renewedAt }

def expiredAssignment (now : Time) (assignment : Assignment) : Assignment :=
  { assignment.setState .unknown now with
    dispatchState :=
      if assignment.dispatchState = .creating ∨ assignment.dispatchState = .confirmed then .unknown
      else assignment.dispatchState
    updatedAt := now }

namespace Store

def requireCurrentWorker (s : Store) (workerID workerEpoch : String)
    (coordinatorEpoch workerSequence : Int) (now : Time) : Except Err Unit :=
  let stale : Err :=
    { text := "worker " ++ quote workerID ++ " snapshot is not current"
      sentinel := some .staleWorkerSnapshot }
  match s.loadWorkerSnapshot workerID with
  | none => .error stale
  | some snapshot => do
    refuseWhen (snapshot.workerEpoch ≠ workerEpoch ∨
      snapshot.coordinatorEpoch ≠ coordinatorEpoch ∨ snapshot.sequence ≠ workerSequence) stale
    refuseWhen (!workerAccepts snapshot now)
      { text := "worker " ++ quote workerID ++ " is disconnected, stale, or not ready"
        sentinel := some .workerUnavailable }

def renewAssignmentLease (s : Store) (renewal : AssignmentLeaseRenewal) :
    Except Err (Store × Assignment) := do
  validateAssignmentLeaseRenewal renewal
  s.requireCoordinatorEpoch renewal.coordinatorEpoch
  let assignment ← s.loadAssignment renewal.assignmentID
  refuseWhen (!renewal.matches assignment)
    { text := "assignment identity or state mismatch for " ++ quote renewal.assignmentID
      sentinel := some .assignmentLeaseRenewal }
  if assignment.leaseExpiresAt = renewal.leaseExpiresAt then
    s.requireNativeAuditEvent (assignmentLeaseAuditID assignment)
    return (s, assignment)
  else
    refuseWhen (¬renewal.renewedAt < assignment.leaseExpiresAt ∨
        ¬assignment.leaseExpiresAt < renewal.leaseExpiresAt)
      { text := "assignment " ++ quote renewal.assignmentID ++ " lease is expired or not extended"
        sentinel := some .assignmentLeaseRenewal }
    s.requireCurrentWorker renewal.workerID renewal.workerEpoch renewal.coordinatorEpoch
      renewal.workerSequence renewal.renewedAt
    let renewed := renewedAssignment renewal assignment
    let s := { s with assignments := s.assignments.put renewed }
    let s ← s.insertNativeAuditEvent
      { id := assignmentLeaseAuditID renewed
        kind := "assignment-lease-renewed"
        attemptID := renewed.attemptID
        targetType := .assignment
        targetID := renewed.id
        actor := "worker:" ++ renewal.workerID
        reason := "worker renewed assignment lease"
        createdAt := renewal.renewedAt }
      { coordinatorEpoch := renewal.coordinatorEpoch
        workerEpoch := renewal.workerEpoch
        assignmentEpoch := renewal.assignmentEpoch
        workerSequence := renewal.workerSequence
        idempotencyIdentity := assignmentLeaseAuditID renewed
        outcome := "renewed" }
    return (s, renewed)

def leaseElapsed (now : Time) (assignment : Assignment) : Bool :=
  assignment.state = .claimed ∧ assignment.leaseExpiresAt ≠ 0 ∧ assignment.leaseExpiresAt ≤ now

def expireLeases (s : Store) (coordinatorEpoch : Int) (now : Time) :
    List Assignment → Except Err (Store × List Assignment)
  | [] => .ok (s, [])
  | assignment :: rest => do
    let expired := expiredAssignment now assignment
    let identity := numbered
      (numbered ("assignment-lease-expired:" ++ expired.id) expired.epoch) expired.leaseExpiresAt
    let s := { s with assignments := s.assignments.put expired }
    let s ← s.insertNativeAuditEvent
      { id := identity
        kind := "assignment-lease-expired"
        attemptID := expired.attemptID
        targetType := .assignment
        targetID := expired.id
        actor := "coordinator"
        reason := "assignment lease expired without conclusive worker state"
        createdAt := now }
      { coordinatorEpoch := coordinatorEpoch
        workerEpoch := expired.workerEpoch
        assignmentEpoch := expired.epoch
        revision := expired.epoch
        idempotencyIdentity := identity
        outcome := "unknown" }
    let (s, more) ← expireLeases s coordinatorEpoch now rest
    return (s, expired :: more)

/-- Mark every elapsed claim unknown. Unknown is not over: the old execution has to be proven
stopped before anything else is offered. -/
def expireAssignmentLeases (s : Store) (coordinatorEpoch : Int) (now : Time) :
    Except Err (Store × List Assignment) := do
  refuseWhen (coordinatorEpoch < 1 ∨ now = 0)
    { text := "invalid coordinator epoch or expiry time", sentinel := some .assignmentLeaseRenewal }
  s.requireCoordinatorEpoch coordinatorEpoch
  s.expireLeases coordinatorEpoch now (s.assignments.rows.filter (leaseElapsed now))

end Store

end Steward
