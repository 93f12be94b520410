import Steward.Domain.Activation
import Steward.Store.SupervisionAmendment

/-!
# The decision transaction

`supervisionDecisionTx` of `internal/store/sqlite/supervision.go`. A request key answered before
replays its answer, or is refused when it asks for something else. Otherwise the operation is
applied, every offer that is no longer admitted is released, the record's revision is raised, and
the answer is kept under the key, all or nothing.
-/

namespace Steward.Store

open Except Text

variable (s : Store)

/-! ## Rows -/

variable (runID : String) (now : Time) (operation : SupervisionOperation)

def loadSupervisionActivations : List Activation :=
  s.activations.rows.filter fun a => a.runID = runID

/-- The upsert is keyed by the activation's identity alone and keeps the row's run; a closed
activation is immutable. -/
def saveSupervisionActivation (activation : Activation) : Except Err Store :=
  match s.activations.get? activation.id with
  | some current =>
    if current.state = .closed then
      .error
        { text := "save activation " ++ quote activation.id ++
            ": closed supervision activation is immutable"
          sentinel := some .constraint }
    else .ok { s with activations := s.activations.put { activation with runID := current.runID } }
  | none => .ok { s with activations := s.activations.put activation }

def recordNotFound (what id runID : String) : Err :=
  { text := what ++ " " ++ quote id ++ " of run " ++ quote runID
    sentinel := some .supervisionRecordNotFound }

def loadSupervisionGate (runID gateID : String) : Except Err Gate :=
  match (s.gates.get? gateID).filter fun g => g.runID = runID with
  | some gate => .ok gate
  | none => .error (recordNotFound "gate" gateID runID)

def loadSupervisionHold (runID holdID : String) : Option Hold :=
  (s.holds.get? holdID).filter fun h => h.runID = runID

def loadSupervisionIncident (runID incidentID : String) : Except Err ReviewIncident :=
  match (s.incidents.get? incidentID).filter fun i => i.runID = runID with
  | some incident => .ok incident
  | none => .error (recordNotFound "incident" incidentID runID)

/-! ## What a decision reads -/

def activationAt (activations : List Activation) (epoch : Int) : Activation :=
  (activations.filter fun a => a.epoch = epoch).getLast?.getD {}

/-- Everything a decision transaction reads before it decides. -/
structure DecisionContext where
  run : WorkflowRun
  record : SupervisionRecord
  activation : Activation
  snapshot : SupervisionSnapshot
  tasks : List Task

def decisionContext : Option DecisionContext :=
  match s.workflowRuns.get? runID, s.supervisionContext runID with
  | some run, some context =>
    some
      { run := run
        record := context.record
        activation := activationAt (s.loadSupervisionActivations runID) context.record.activationEpoch
        snapshot := s.supervisionState runID
        tasks := tasksForRun run (s.tasks.rows.filter fun t => t.workflowID = run.workflowID) }
  | _, _ => none

/-! ## Receipts -/

/-- The recorded answer of a request key. The key belongs to the operation and the payload it was
first presented with. -/
def lookupSupervisionReceipt (requestID digest : String) : Except Err (Option SupervisionAnswer) :=
  match s.supervisionReceipts.get? requestID with
  | none => .ok none
  | some receipt =>
    if receipt.operation ≠ operation ∨ receipt.payloadSHA256 ≠ digest then
      .error
        { text := "request " ++ quote requestID ++ " first answered " ++ quote receipt.operation.text
          sentinel := some .supervisionRequestConflict }
    else .ok (some receipt.answer)

def recordSupervisionReceipt (receipt : SupervisionReceipt) : Except Err Store :=
  match s.supervisionReceipts.get? receipt.requestID with
  | some _ =>
    .error
      { text := "record supervision receipt " ++ quote receipt.requestID
        sentinel := some .constraint }
  | none => .ok { s with supervisionReceipts := s.supervisionReceipts.put receipt }

/-! ## The sweep -/

/-- What the sweep of a decision reports: the offers it released, the tasks of claims it left, and
the highest attempt revision among them. -/
structure NarrowedOffers where
  (released claimed : List String := [])
  attemptRevision : Int := 0
deriving DecidableEq

def NarrowedOffers.add (out : NarrowedOffers) (snapshot : SupervisionSnapshot) (attempt : Attempt)
    (assignment : Assignment) (current : Option Assignment) : NarrowedOffers :=
  if (supervisionAdmits snapshot { taskID := attempt.taskID }).admitted then out
  else if assignment.state = .claimed then
    { out with
      claimed := out.claimed ++ [attempt.taskID]
      attemptRevision := max out.attemptRevision attempt.revision }
  else if !current.any (fun current => current.state = .offered) then
    { out with claimed := out.claimed ++ [attempt.taskID] }
  else
    { out with
      released := out.released ++ [assignment.id]
      attemptRevision := max out.attemptRevision (attempt.revision + 1) }

def sweepNarrowedOffers (snapshot : SupervisionSnapshot) (now : Time) :
    Except Err (Store × NarrowedOffers) := do
  if !snapshot.supervised then return (s, {})
  let (s, out) ← (s.liveAssignments snapshot.runID).foldlM (fun (s, out) assignment => do
      let attempt ← s.loadAttempt assignment.attemptID
      let s' ← releaseNarrowedOffer snapshot now s assignment
      return (s', NarrowedOffers.add out snapshot attempt assignment
        (s.assignments.get? assignment.id)))
    (s, ({} : NarrowedOffers))
  return (s,
    { out with
      released := out.released.insertionSort (· ≤ ·)
      claimed := out.claimed.insertionSort (· ≤ ·) })

/-! ## The transaction -/

/-- What an operation does to the supervision it read. -/
abbrev SupervisionApply := Store → DecisionContext → Except Err (Store × SupervisionDecision)

def decidedRecord (read : SupervisionRecord)
    (written : Option SupervisionRecord) : SupervisionRecord :=
  let createdAt := if read.createdAt = 0 then now else read.createdAt
  match written with
  | some record =>
    { record with
      runID := runID
      revision := read.revision + 1
      createdAt := if record.createdAt = 0 then createdAt else record.createdAt
      updatedAt := now }
  | none =>
    { read with
      runID := runID, revision := read.revision + 1, createdAt := createdAt, updatedAt := now }

def decidedAnswer (decision : SupervisionDecision) (out : NarrowedOffers)
    (record : SupervisionRecord) : SupervisionDecision :=
  { decision with
    releasedAssignmentIDs := out.released
    claimedTaskIDs := out.claimed
    attemptRevision := out.attemptRevision
    record := some record
    supervisionRevision := record.revision }

def freshDecision (runID requestID digest : String)
    (apply : SupervisionApply) (state : DecisionContext) :
    Except Err (Store × SupervisionDecision) := do
  let (s, decision) ← apply s state
  let (s, out) ← s.sweepNarrowedOffers (s.supervisionState runID) now
  let record := decidedRecord runID now state.record decision.record
  let answer := decidedAnswer decision out record
  let s ← (s.saveSupervisionRecord record).recordSupervisionReceipt
    { requestID := requestID, operation := operation, runID := runID, payloadSHA256 := digest
      answer := .decision answer, recordedAt := now }
  return (s, answer)

def supervisionDecision (runID requestID digest : String) (apply : SupervisionApply) :
    Except Err (Store × SupervisionDecision) := do
  refuseWhen (blank runID ∨ blank requestID)
    { text := "a supervision decision needs a run and a request key" }
  match ← s.lookupSupervisionReceipt operation requestID digest with
  | some (.decision decision) => return (s, { decision with replay := true })
  | some (.continuation _) =>
    .error { text := "decode replayed supervision answer " ++ quote requestID }
  | none =>
    match s.decisionContext runID with
    | none =>
      .error
        { text := "run " ++ quote runID ++ " is not supervised"
          sentinel := some .supervisionRecordNotFound }
    | some state => s.freshDecision now operation runID requestID digest apply state

/-! ## What a decision did -/

section

variable {s s' : Store} {now : Time} {operation : SupervisionOperation}
  {runID requestID digest : String} {apply : SupervisionApply} {d : SupervisionDecision}

theorem sweepNarrowedOffers_ok {snapshot : SupervisionSnapshot} {out : NarrowedOffers}
    (h : s.sweepNarrowedOffers snapshot now = .ok (s', out)) :
    s.releaseNarrowedOffers snapshot now = .ok s' := by
  unfold sweepNarrowedOffers at h
  unfold releaseNarrowedOffers
  split at h
  · rename_i hunsupervised
    rw [if_pos hunsupervised, (Prod.mk.inj (ok.inj h)).1]
  · rename_i hsupervised
    obtain ⟨⟨swept, out'⟩, hfold, h⟩ := of_bind h
    cases h
    rw [if_neg hsupervised]
    refine foldlM_map (p := Prod.fst) (fun t a t' hstep => ?_) hfold
    obtain ⟨attempt, -, hstep⟩ := of_bind hstep
    obtain ⟨mid, hrelease, hstep⟩ := of_bind hstep
    cases hstep
    exact hrelease

theorem supervisionState_eq (h : (s.supervisionContext runID).isSome = true) :
    ∃ run, s.workflowRuns.get? runID = some run ∧ s.supervisionState runID =
      { runID := runID
        graphRevision := run.graphRevision
        supervised := true
        runTerminal := runSettled run
        runCancelled := run.progress = .cancelled
        routeAvailable := true
        gates := s.loadSupervisionGates runID
        holds := s.loadSupervisionHolds runID .active } := by
  obtain ⟨run, hrun, hrecord⟩ := supervisionContext_isSome_iff.1 h
  refine ⟨run, hrun, ?_⟩
  obtain ⟨context, hcontext⟩ := Option.isSome_iff_exists.1 h
  have hrows := supervisionContext_rows hcontext
  simp only [supervisionState, hrun, hcontext, hrows]

@[simp] theorem supervisionState_runID : (s.supervisionState runID).runID = runID := by
  unfold supervisionState
  split <;> rfl

theorem supervisionState_congr {s₁ s₂ : Store} (h₁ : (s₁.supervisionContext runID).isSome = true)
    (h₂ : (s₂.supervisionContext runID).isSome = true) (hruns : s₂.workflowRuns = s₁.workflowRuns)
    (hgates : s₂.gates = s₁.gates) (hholds : s₂.holds = s₁.holds) :
    s₂.supervisionState runID = s₁.supervisionState runID := by
  obtain ⟨run₁, hrun₁, heq₁⟩ := supervisionState_eq h₁
  obtain ⟨run₂, hrun₂, heq₂⟩ := supervisionState_eq h₂
  rw [hruns] at hrun₂
  cases hrun₁.symm.trans hrun₂
  rw [heq₁, heq₂]
  unfold loadSupervisionGates loadSupervisionHolds
  rw [hgates, hholds]

variable {receipt : SupervisionReceipt} {g : Gate} {state : DecisionContext}

theorem supervised_of_mem_gates (h : g ∈ (s.supervisionState runID).gates) :
    (s.supervisionState runID).supervised = true := by
  unfold supervisionState at h ⊢
  split at h
  · rfl
  · cases h

theorem mem_supervisionState_gates (h : g ∈ (s.supervisionState runID).gates) :
    s.gates.get? g.definition.id = some g := by
  cases hcontext : s.supervisionContext runID with
  | none =>
    simp [supervisionState, hcontext] at h
  | some context =>
    obtain ⟨run, -, hstate⟩ := supervisionState_eq (by rw [hcontext]; rfl)
    rw [hstate] at h
    exact Table.mem_rows_iff.1 (List.mem_filter.1 h).1

@[simp] theorem decidedRecord_runID {read : SupervisionRecord} {written : Option SupervisionRecord} :
    (decidedRecord runID now read written).runID = runID := by
  cases written <;> rfl

theorem decisionContext_ok (h : s.decisionContext runID = some state) :
    state.snapshot = s.supervisionState runID ∧ state.snapshot.supervised = true ∧
      ∃ context, s.supervisionContext runID = some context ∧ state.record = context.record := by
  unfold decisionContext at h
  split at h
  · rename_i run context hrun hcontext
    cases h
    refine ⟨rfl, ?_, context, hcontext, rfl⟩
    simp only [supervisionState, hrun, hcontext]
  · cases h

theorem recordSupervisionReceipt_ok (h : s.recordSupervisionReceipt receipt = .ok s') :
    s.supervisionReceipts.get? receipt.requestID = none ∧
      s' = { s with supervisionReceipts := s.supervisionReceipts.put receipt } := by
  unfold recordSupervisionReceipt at h
  split at h
  · cases h
  · rename_i hnone
    exact ⟨hnone, (ok.inj h).symm⟩

theorem freshDecision_ok
    (h : s.freshDecision now operation runID requestID digest apply state = .ok (s', d)) :
    ∃ mid applied swept out, apply s state = .ok (mid, applied) ∧
      mid.releaseNarrowedOffers (mid.supervisionState runID) now = .ok swept ∧
      d = decidedAnswer applied out (decidedRecord runID now state.record applied.record) ∧
      s' = { swept with
        supervision :=
          swept.supervision.put (decidedRecord runID now state.record applied.record)
        supervisionReceipts := swept.supervisionReceipts.put
          { requestID := requestID, operation := operation, runID := runID, payloadSHA256 := digest
            answer := .decision d, recordedAt := now } } := by
  obtain ⟨⟨mid, applied⟩, happly, h⟩ := of_bind h
  obtain ⟨⟨swept, out⟩, hsweep, h⟩ := of_bind h
  obtain ⟨last, hrecord, h⟩ := of_bind h
  cases h
  obtain ⟨-, rfl⟩ := recordSupervisionReceipt_ok hrecord
  exact ⟨mid, applied, swept, out, happly, sweepNarrowedOffers_ok hsweep, rfl, rfl⟩

section

variable (h : s.supervisionDecision now operation runID requestID digest apply = .ok (s', d))
include h

theorem supervisionDecision_ok : (blank runID = false ∧ blank requestID = false) ∧
      (((s.supervisionReceipts.get? requestID).isSome ∧ s' = s) ∨
        (s.supervisionReceipts.get? requestID = none ∧ ∃ state, s.decisionContext runID = some state ∧
            s.freshDecision now operation runID requestID digest apply state = .ok (s', d))) := by
  obtain ⟨hnamed, h⟩ := of_guard h
  refine ⟨by simpa using hnamed, ?_⟩
  obtain ⟨answer, hlookup, h⟩ := of_bind h
  unfold lookupSupervisionReceipt at hlookup
  split at hlookup
  · rename_i hnone
    cases hlookup
    dsimp only at h
    split at h
    · cases h
    · rename_i state hstate
      exact .inr ⟨hnone, state, hstate, h⟩
  · rename_i receipt hreceipt
    split at hlookup
    · cases hlookup
    · cases hlookup
      refine .inl ⟨by rw [hreceipt]; rfl, ?_⟩
      cases hanswer : receipt.answer with
      | decision decision =>
        rw [hanswer] at h
        exact (Prod.mk.inj (ok.inj h)).1.symm
      | continuation receipt' =>
        rw [hanswer] at h
        cases h

theorem supervisionDecision_receipt :
    ∃ receipt decision, s'.supervisionReceipts.get? requestID = some receipt ∧
      receipt.operation = operation ∧ receipt.payloadSHA256 = digest ∧
      receipt.answer = .decision decision ∧
      { d with replay := true } = { decision with replay := true } := by
  replace h := past_guard h
  obtain ⟨answer, hlookup, h⟩ := of_bind h
  unfold lookupSupervisionReceipt at hlookup
  split at hlookup
  · cases hlookup
    dsimp only at h
    split at h
    · cases h
    · obtain ⟨mid, applied, swept, out, -, -, hd, rfl⟩ := freshDecision_ok h
      refine ⟨_, d, Table.get?_put_self _ _, rfl, rfl, rfl, rfl⟩
  · rename_i receipt hreceipt
    split at hlookup
    · cases hlookup
    · rename_i hsame
      rw [not_or, not_not, not_not] at hsame
      cases hlookup
      cases hanswer : receipt.answer with
      | decision decision =>
        rw [hanswer] at h
        cases h
        exact ⟨receipt, decision, hreceipt, hsame.1, hsame.2, hanswer, rfl⟩
      | continuation receipt' =>
        rw [hanswer] at h
        cases h

end

section

variable (hrun : blank runID = false) (hrequest : blank requestID = false)
  (hreceipt : s.supervisionReceipts.get? requestID = some receipt)
include hrun hrequest hreceipt

theorem supervisionDecision_replays {decision : SupervisionDecision}
    (hoperation : receipt.operation = operation) (hdigest : receipt.payloadSHA256 = digest)
    (hanswer : receipt.answer = .decision decision) :
    s.supervisionDecision now operation runID requestID digest apply =
      .ok (s, { decision with replay := true }) := by
  have hlookup : s.lookupSupervisionReceipt operation requestID digest = .ok (some (.decision decision)) := by
    simp [lookupSupervisionReceipt, hreceipt, hoperation, hdigest, hanswer]
  unfold supervisionDecision
  rw [refuseWhen_of_not (by simp [hrun, hrequest]), ok_bind, hlookup, ok_bind]
  rfl

theorem supervisionDecision_conflicts
    (hother : receipt.operation ≠ operation ∨ receipt.payloadSHA256 ≠ digest) :
    s.supervisionDecision now operation runID requestID digest apply = .error
        { text := "request " ++ quote requestID ++ " first answered " ++ quote receipt.operation.text
          sentinel := some .supervisionRequestConflict } := by
  unfold supervisionDecision
  rw [refuseWhen_of_not (by simp [hrun, hrequest]), ok_bind, lookupSupervisionReceipt, hreceipt]
  dsimp only
  rw [if_pos hother, error_bind]

end

end

end Steward.Store
