import Mathlib.Data.List.Sort
import Mathlib.Data.String.Basic
import Steward.Domain.SupervisionTransitions
import Steward.Lib.Except

/-!
# Supervision readiness

`SupervisionAdmits` of `internal/domain/supervision_readiness.go`: whether supervision permits a
task to be dispatched, and the ordered reasons when it does not. The planner, the store and the
projection ask the same predicate.
-/

namespace Steward

open Except List

inductive SupervisionBlockerCode
  | gatePending
  | gateAwaitingReview
  | gateHeld
  | gateEscalated
  | gateCancelled
  | branchHold
  | runHold
  | routeUnavailable
  | runCancelled
  | runTerminal
  | staleSnapshot
deriving DecidableEq

def SupervisionBlockerCode.text : SupervisionBlockerCode → String
  | .gatePending => "supervision-gate-pending"
  | .gateAwaitingReview => "supervision-gate-awaiting-review"
  | .gateHeld => "supervision-gate-held"
  | .gateEscalated => "supervision-gate-escalated"
  | .gateCancelled => "supervision-gate-cancelled"
  | .branchHold => "supervision-branch-hold"
  | .runHold => "supervision-run-hold"
  | .routeUnavailable => "supervision-route-unavailable"
  | .runCancelled => "supervision-run-cancelled"
  | .runTerminal => "supervision-run-terminal"
  | .staleSnapshot => "supervision-stale-snapshot"

structure SupervisionBlocker where
  code : SupervisionBlockerCode
  (taskID gateID holdID reason : String := "")
deriving DecidableEq

structure SupervisionSnapshot where
  runID : String := ""
  graphRevision : Int := 0
  (supervised runTerminal runCancelled routeAvailable : Bool := false)
  gates : List Gate := []
  holds : List Hold := []
deriving DecidableEq

/-- The task the predicate is asked about; a zero graph revision does not fence. -/
structure SupervisionQuery where
  taskID : String := ""
  expectedGraphRevision : Int := 0
deriving DecidableEq

structure SupervisionVerdict where
  admitted : Bool := false
  blockers : List SupervisionBlocker := []
deriving DecidableEq

def GateDefinition.protects (d : GateDefinition) (taskID : String) : Bool :=
  taskID ∈ d.protectedTaskIDs

def GateState.blocker : GateState → Option SupervisionBlockerCode
  | .accepted => none
  | .readyForReview => some .gateAwaitingReview
  | .held => some .gateHeld
  | .escalated => some .gateEscalated
  | .cancelled => some .gateCancelled
  | .unset | .pendingEvidence => some .gatePending

def GateState.awaitsDecision : GateState → Bool
  | .readyForReview | .unset | .pendingEvidence => true
  | _ => false

def SupervisionBlocker.before (a b : SupervisionBlocker) : Prop :=
  if a.code ≠ b.code then a.code.text ≤ b.code.text
  else if a.gateID ≠ b.gateID then a.gateID ≤ b.gateID
  else a.holdID ≤ b.holdID

instance : DecidableRel SupervisionBlocker.before := fun a b =>
  inferInstanceAs (Decidable (if a.code ≠ b.code then a.code.text ≤ b.code.text
    else if a.gateID ≠ b.gateID then a.gateID ≤ b.gateID
    else a.holdID ≤ b.holdID))

variable (snapshot : SupervisionSnapshot)

def supervisionBlockers (taskID : String) : List SupervisionBlocker :=
  let cancelled : List SupervisionBlocker :=
    if snapshot.runCancelled then
      [{ code := .runCancelled, taskID := taskID
         reason := "the run is cancelled; supervision authority is revoked" }]
    else []
  let terminal : List SupervisionBlocker :=
    if snapshot.runTerminal then
      [{ code := .runTerminal, taskID := taskID, reason := "the run has settled" }]
    else []
  let holds : List SupervisionBlocker :=
    (snapshot.holds.filter fun h => h.covers taskID).map fun h =>
      { code := if h.scope.kind = .run then .runHold else .branchHold, taskID := taskID
        holdID := h.id, reason := h.reason }
  let protecting := snapshot.gates.filter fun g => g.definition.protects taskID
  let gates : List SupervisionBlocker := protecting.filterMap fun g =>
    g.state.blocker.map fun code =>
      { code := code, taskID := taskID, gateID := g.definition.id, reason := g.state.text }
  let route : List SupervisionBlocker :=
    if protecting.any (fun g => g.state.awaitsDecision) ∧ !snapshot.routeAvailable then
      [{ code := .routeUnavailable, taskID := taskID
         reason := "the supervisor route cannot be admitted, so the gate stays closed" }]
    else []
  cancelled ++ terminal ++ holds ++ gates ++ route

def supervisionAdmits (query : SupervisionQuery) :
    SupervisionVerdict :=
  if !snapshot.supervised then { admitted := true }
  else if query.expectedGraphRevision ≠ 0 ∧ query.expectedGraphRevision ≠ snapshot.graphRevision then
    { blockers :=
        [{ code := .staleSnapshot, taskID := query.taskID
           reason := "the supervision snapshot is not at the expected graph revision" }] }
  else
    let blockers := supervisionBlockers snapshot query.taskID
    if blockers = [] then { admitted := true }
    else { blockers := blockers.insertionSort SupervisionBlocker.before }

/-- Nothing in a snapshot withholds a task: the run goes on, no hold covers the task, and every gate
that protects it is accepted. -/
def SupervisionSnapshot.Clears (taskID : String) : Prop :=
  snapshot.runCancelled = false ∧ snapshot.runTerminal = false ∧
    (∀ h ∈ snapshot.holds, h.covers taskID = false) ∧
    ∀ g ∈ snapshot.gates, g.definition.protects taskID = true → g.state = .accepted

instance (snapshot : SupervisionSnapshot) (taskID : String) : Decidable (snapshot.Clears taskID) :=
  inferInstanceAs (Decidable (_ ∧ _ ∧ _ ∧ _))

theorem GateState.blocker_eq_none_iff {g : GateState} : g.blocker = none ↔ g = .accepted := by
  cases g <;> simp [GateState.blocker]

variable {snapshot : SupervisionSnapshot}

theorem supervisionBlockers_eq_nil_iff {taskID : String} :
    supervisionBlockers snapshot taskID = [] ↔ snapshot.Clears taskID := by
  have hgates : ((snapshot.gates.filter fun g => g.definition.protects taskID).filterMap fun g =>
      g.state.blocker.map fun code =>
        ({ code := code, taskID := taskID, gateID := g.definition.id
           reason := g.state.text } : SupervisionBlocker)) = [] ↔
      ∀ g ∈ snapshot.gates, g.definition.protects taskID = true → g.state = .accepted := by
    simp only [filterMap_eq_nil_iff, mem_filter, Option.map_eq_none_iff,
      GateState.blocker_eq_none_iff, and_imp]
  unfold supervisionBlockers SupervisionSnapshot.Clears
  rw [append_eq_nil_iff, append_eq_nil_iff, append_eq_nil_iff, append_eq_nil_iff, hgates]
  simp only [map_eq_nil_iff, filter_eq_nil_iff, ite_eq_right_iff, cons_ne_nil, imp_false,
    Bool.not_eq_true]
  constructor
  · rintro ⟨⟨⟨⟨hcancelled, hterminal⟩, hholds⟩, haccepted⟩, -⟩
    exact ⟨hcancelled, hterminal, hholds, haccepted⟩
  · rintro ⟨hcancelled, hterminal, hholds, haccepted⟩
    refine ⟨⟨⟨⟨hcancelled, hterminal⟩, hholds⟩, haccepted⟩, fun hroute => ?_⟩
    -- a gate that awaits its decision is not accepted
    obtain ⟨g, hg, hawaits⟩ := any_eq_true.1 hroute.1
    rw [haccepted g (mem_filter.1 hg).1 (mem_filter.1 hg).2] at hawaits
    cases hawaits

theorem supervisionAdmits_iff {taskID : String} (hsupervised : snapshot.supervised = true) :
    (supervisionAdmits snapshot { taskID := taskID }).admitted = true ↔ snapshot.Clears taskID := by
  rw [← supervisionBlockers_eq_nil_iff]
  unfold supervisionAdmits
  rw [hsupervised]
  by_cases hnil : supervisionBlockers snapshot taskID = [] <;> simp [hnil]

theorem clears_of_admits {query : SupervisionQuery} (hsupervised : snapshot.supervised = true)
    (h : (supervisionAdmits snapshot query).admitted = true) : snapshot.Clears query.taskID := by
  rw [← supervisionBlockers_eq_nil_iff]
  unfold supervisionAdmits at h
  rw [hsupervised] at h
  by_contra hblocked
  rw [if_neg hblocked, if_neg (by decide)] at h
  split_ifs at h

/-! ## What a change does to an acceptance -/

def GateDefinition.observes (d : GateDefinition) (taskID : String) : Bool :=
  taskID ∈ d.observedTaskIDs

def GateDefinition.validate (d : GateDefinition) : Except Err Unit := do
  refuseWhen (Text.blank d.id ∨ Text.blank d.name) { text := "gate needs an id and a name" }
  refuseWhen (d.observedTaskIDs = []) { text := "gate needs at least one observed task" }
  refuseWhen (d.final ∧ d.protectedTaskIDs ≠ [])
    { text := "a final-settlement gate protects no downstream task" }
  refuseWhen (!d.final ∧ d.protectedTaskIDs = [])
    { text := "gate protects no task and is not marked final" }
  d.observedTaskIDs.forM fun observed =>
    refuseWhen (d.protects observed)
      { text := "gate observes and protects the same task " ++ quote observed }

/-- What happened after an acceptance was recorded: a new attempt on a task, or an amendment of some
tasks with the receipt of its revalidation. -/
inductive GateChange
  | newAttempt (taskID : String)
  | amendment (amendedTaskIDs : List String) (revalidationReceiptID : String)
deriving DecidableEq

inductive AcceptanceInvalidation
  | standsUnaffected
  | standsRevalidated
  | notAnAcceptance
  | observedRetried
  | scopeAmended
  | noRevalidation
deriving DecidableEq

def AcceptanceInvalidation.stands : AcceptanceInvalidation → Bool
  | .standsUnaffected | .standsRevalidated => true
  | _ => false

def gateAcceptanceStands (gate : GateDefinition) (acceptance : GateDecision) (change : GateChange) :
    AcceptanceInvalidation :=
  if acceptance.outcome ≠ .accept then .notAnAcceptance
  else
    match change with
    | .newAttempt taskID => if gate.observes taskID then .observedRetried else .standsUnaffected
    | .amendment amended receipt =>
      if amended.any fun id => gate.observes id || gate.protects id then .scopeAmended
      else if Text.blank receipt then .noRevalidation
      else .standsRevalidated

end Steward
