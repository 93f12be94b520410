import Steward.Domain.Errors
import Steward.Lib.Except

/-!
# Leases

`internal/domain/lease.go`. A lease gives one thread the exclusive use of a named resource until it
expires or is released. Every acquisition of a name gets the next fencing token; the row keeps the
last token after release or expiry. Durations are in nanoseconds.
-/

namespace Steward

open Except Text

def defaultLeaseTTL : Duration := 7200000000000

def minLeaseTTL : Duration := 300000000000

def maxLeaseTTL : Duration := 43200000000000

structure Lease where
  (name ownerThread principal plan reason : String := "")
  (acquiredAt expiresAt : Time := 0)
  token : Int := 0
  released : Bool := false
deriving DecidableEq

def Lease.live (l : Lease) (now : Time) : Bool := !l.released && decide (now < l.expiresAt)

/-- What a request asks for; any other word is refused. -/
inductive LeaseAction
  | acquire
  | renew
  | release
  | check
  | show
  | list
  | other (word : String)
deriving DecidableEq

def LeaseAction.text : LeaseAction → String
  | .acquire => "acquire"
  | .renew => "renew"
  | .release => "release"
  | .check => "check"
  | .show => "show"
  | .list => "list"
  | .other word => word

structure LeaseRequest where
  action : LeaseAction := .acquire
  (name ownerThread principal plan reason requestID : String := "")
  ttl : Duration := 0
  token : Int := 0
  force : Bool := false
deriving DecidableEq

namespace LeaseRequest

variable (r : LeaseRequest)

def mutating : Bool := r.action = .acquire ∨ r.action = .renew ∨ r.action = .release

def effectiveTTL : Duration := if r.ttl = 0 then defaultLeaseTTL else r.ttl

end LeaseRequest

structure LeaseResponse where
  lease : Option Lease := none
  leases : List Lease := []
  code : Int := 0
  message : String := ""
  replay : Bool := false
deriving DecidableEq

/-! ## Validation -/

def leaseNameCharacter (c : Char) : Bool :=
  c.isAlphanum || c ∈ ['.', '_', '/', ':', '-']

def validateRepositoryLease (path : List Char) : Except Err Unit := do
  let parts := path.splitOn '/'
  refuseWhen (parts.length < 2 ∨ parts.head? = some [])
    { text := "repository lease must be repo:<project>/<branch>" }
  parts.forM fun p =>
    refuseWhen (p = [] ∨ p = ['.'] ∨ p = ['.', '.'])
      { text := "repository lease has an empty or invalid component" }

/-- Only the two supported resource namespaces; deployment windows are reserved. -/
def validateLeaseName (name : String) : Except Err Unit := do
  refuseWhen (startsWith name "deploy:") { text := "deploy: leases are reserved for a follow-up" }
  refuseWhen (name = "" ∨ 128 < name.utf8ByteSize ∨ name.toList.all leaseNameCharacter = false)
    { text := "lease name must be 1-128 characters of [A-Za-z0-9._/:-]" }
  if startsWith name "repo:" then
    validateRepositoryLease (name.toList.drop 5)
  else if startsWith name "release:" then
    refuseWhen (name.toList.drop 8 = []) { text := "release lease must be release:<name>" }
  else
    .error { text := "lease name must start with repo: or release: followed by a name" }

/-- A text that other threads read: bounded, trimmed, and without characters that could disguise
it. -/
def leaseText (label value : String) (max : Nat) (required : Bool) : Except Err Unit := do
  refuseWhen (max < value.length)
    { text := "lease " ++ label ++ " exceeds " ++ toString max ++
        " characters or is invalid UTF-8" }
  refuseWhen ((required = true ∨ value ≠ "") ∧ (value = "" ∨ trimmed value = false))
    { text := "lease " ++ label ++ " must be nonempty and trimmed" }
  refuseWhen (value.toList.any fun c => isControl c || isFormat c)
    { text := "lease " ++ label ++ " contains a control, format or separator character" }

def LeaseRequest.checkAction (r : LeaseRequest) : Except Err Unit :=
  match r.action with
  | .other word => .error { text := "unknown lease action " ++ quote word }
  | .list => do
    refuseWhen (r.name ≠ "") { text := "lease list takes no name" }
  | .show => validateLeaseName r.name
  | _ => do
    validateLeaseName r.name
    leaseText "owner thread" r.ownerThread 256 true

def LeaseRequest.validate (r : LeaseRequest) : Except Err Unit := do
  r.checkAction
  leaseText "plan" r.plan 256 false
  leaseText "reason" r.reason 4096 (r.action = .acquire ∨ r.force = true)
  refuseWhen (r.force = true ∧ r.action ≠ .release)
    { text := "--force is only valid for lease release" }
  refuseWhen (r.token < 0) { text := "lease token must be positive" }
  refuseWhen ((r.action = .renew ∨ (r.action = .release ∧ r.force = false)) ∧ r.token < 1)
    { text := "lease " ++ r.action.text ++ " requires a positive token" }
  refuseWhen ((r.action = .acquire ∨ r.action = .renew) ∧
      (r.effectiveTTL < minLeaseTTL ∨ maxLeaseTTL < r.effectiveTTL))
    { text := "lease TTL must be between 5m and 12h" }
  if r.mutating then
    leaseText "request id" r.requestID 256 true
    leaseText "principal" r.principal 256 true

theorem LeaseRequest.validate_ttl {r : LeaseRequest} {u : Unit} (h : r.validate = .ok u)
    (haction : r.action = .acquire ∨ r.action = .renew) : 0 < r.effectiveTTL := by
  obtain ⟨_, -, h⟩ := of_bind h
  obtain ⟨_, -, h⟩ := of_bind h
  obtain ⟨_, -, h⟩ := of_bind h
  simp only [refuseWhen_bind_eq_ok_iff] at h
  have hterm := h.2.2.2.1
  have hmin : minLeaseTTL ≤ r.effectiveTTL :=
    Int.not_lt.1 fun hlt => hterm ⟨haction, .inl hlt⟩
  exact Int.lt_of_lt_of_le (by decide) hmin

end Steward
