import Steward.Domain.Lease
import Steward.Lib.Runs
import Steward.Lib.Table

/-!
# Lease transactions

`ExecuteLease` of `internal/store/sqlite/lease.go` over the two tables that it alone writes: the
row of each lease name, and the receipt of each mutating request. The row is never deleted, so it
remains a fencing counter; the receipt answers a repeated request. The digest of a request and the
printed form of an instant are parameters.
-/

namespace Steward

structure LeaseReceipt (δ : Type) where
  digest : δ
  request : LeaseRequest
  response : LeaseResponse
  answeredAt : Time

def LeaseReceipt.requestID {δ : Type} (r : LeaseReceipt δ) : String := r.request.requestID

structure LeaseStore (δ : Type) where
  leases : Table Lease.name := .empty
  receipts : Table (LeaseReceipt.requestID : LeaseReceipt δ → String) := .empty

/-- Go's `math.MaxInt64`. -/
def maxLeaseToken : Int := 9223372036854775807

def leasePlanBareCharacters : String :=
  "abcdefghijklmnopqrstuvwxyzABCDEFGHIJKLMNOPQRSTUVWXYZ0123456789._/:@#-"

section Messages

variable (format : Time → String)

def heldLeaseDetail (lease : Lease) : String :=
  let plan :=
    if lease.plan.toList.all (· ∈ leasePlanBareCharacters.toList) then lease.plan
    else quote lease.plan
  let detail :=
    if lease.plan = "" then quote lease.reason else "plan " ++ plan ++ ", " ++ quote lease.reason
  lease.name ++ " is held by thread " ++ lease.ownerThread ++ " (" ++ detail ++ ") until " ++
    format lease.expiresAt

def heldLeaseMessage (lease : Lease) : String := "refused: " ++ heldLeaseDetail format lease

end Messages

/-! ## One request -/

section Execute

variable (format : Time → String)

def nextLeaseToken : Option Lease → Except Err Int
  | none => .ok 1
  | some lease => do
    Except.refuseWhen (lease.token = maxLeaseToken) { text := "lease fencing token exhausted" }
    Except.refuseWhen (lease.token < 0) { text := "invalid stored fencing token" }
    .ok (lease.token + 1)

def LeaseRequest.granted (request : LeaseRequest) (now : Time) (token : Int) : Lease :=
  { name := request.name, ownerThread := request.ownerThread, principal := request.principal,
    plan := request.plan, reason := request.reason, acquiredAt := now,
    expiresAt := now + request.effectiveTTL, token := token }

def acquireLease (row : Option Lease) (now : Time) (request : LeaseRequest) :
    Except Err (Option Lease × LeaseResponse) :=
  match row.filter (·.live now) with
  | some lease =>
    if lease.ownerThread = request.ownerThread then .ok (none, { lease := row })
    else .ok (none, { lease := row, code := 10, message := heldLeaseMessage format lease })
  | none => do
    let token ← nextLeaseToken row
    let lease := request.granted now token
    .ok (some lease, { lease := some lease })

def changeLease (change : Lease → Lease) (row : Option Lease) (now : Time)
    (request : LeaseRequest) : Except Err (Option Lease × LeaseResponse) :=
  match row.filter (·.live now) with
  | none =>
    .ok (none, { lease := row, code := 10, message := "refused: lease is free or expired" })
  | some lease =>
    if request.force = false ∧
        (lease.ownerThread ≠ request.ownerThread ∨ lease.token ≠ request.token) then
      .ok (none,
        { lease := row, code := 10
          message := "refused: holder or fencing token does not match; " ++
            heldLeaseDetail format lease })
    else .ok (some (change lease), { lease := some (change lease) })

def decideLease (row : Option Lease) (now : Time) (request : LeaseRequest) :
    Except Err (Option Lease × LeaseResponse) :=
  match request.action with
  | .acquire => acquireLease format row now request
  | .renew =>
    changeLease format (fun l => { l with expiresAt := now + request.effectiveTTL }) row now request
  | .release => changeLease format (fun l => { l with released := true }) row now request
  | _ => .ok (none, { lease := row })

variable {δ : Type} (digest : LeaseRequest → δ)

namespace LeaseStore

def readLease (s : LeaseStore δ) (now : Time) (request : LeaseRequest) : LeaseResponse :=
  if request.action = .list then { leases := s.leases.rows }
  else
    let row := s.leases.get? request.name
    match row.filter (·.live now) with
    | none => { lease := row, code := 11, message := "lease is free or expired" }
    | some lease =>
      if request.action = .check ∧ lease.ownerThread ≠ request.ownerThread then
        { lease := row, code := 10, message := heldLeaseMessage format lease }
      else { lease := row }

def answerLease (s : LeaseStore δ) (now : Time) (request : LeaseRequest) :
    Except Err (LeaseStore δ × LeaseResponse) := do
  let (row, response) ← decideLease format (s.leases.get? request.name) now request
  .ok
    ({ leases := row.elim s.leases s.leases.put
       receipts := s.receipts.put
        { digest := digest request, request := request, response := response, answeredAt := now } },
      response)

variable [DecidableEq δ]

def executeLease (s : LeaseStore δ) (now : Time) (request : LeaseRequest) :
    Except Err (LeaseStore δ × LeaseResponse) := do
  request.validate
  if request.mutating = false then
    .ok (s, s.readLease format now request)
  else
    match s.receipts.get? request.requestID with
    | some receipt =>
      if receipt.digest ≠ digest request then
        .error { text := "lease request id reused with a different digest" }
      else .ok (s, { receipt.response with replay := true })
    | none => s.answerLease format digest now request

end LeaseStore

end Execute

end Steward
