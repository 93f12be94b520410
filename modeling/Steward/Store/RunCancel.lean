import Steward.Domain.SinkOutcome
import Steward.Store.SupervisionDecisions
import Steward.Store.WorkflowProjection

/-!
# Applying a whole-run cancel

`ApplyAdminCommand` of `internal/store/sqlite/admin_apply.go` for the cancel of a whole run, with
the closing half of `run_cancel_supervision.go`: the planned attempts and run are written against
the revisions they were read at, the run's supervision is closed, and the sink is settled when
nothing is left to wait for. A refusal is recorded. How a reference to another run resolves and how
a time is printed are parameters.
-/

namespace Steward.Store

open Except

variable (resolveNode : Store → NodeRef → Except Err NodeObservation) (formatTime : Time → String)

/-! ## Refusals -/

variable (s : Store) (command : AdminCommand) (runID : String) (now : Time) (target : AdminTarget)
  (application : AdminCommandApplication)

/-- The live overseer activation of a run: pending dispatch or active, at or above the record's
epoch. -/
def liveRunActivation : Option Activation :=
  (s.loadSupervisionActivations runID).find? fun a =>
    otherActivationValid a ((s.supervision.get? runID).getD {}).activationEpoch

def runCancelActivationRefusal (activation : Activation) : String :=
  let lease := match activation.leaseExpiresAt with
    | some expires => ", lease until " ++ formatTime expires
    | none => ""
  "run " ++ runID ++ " has a live overseer activation " ++ activation.id ++ " (epoch " ++
    toString activation.epoch ++ ", " ++ activation.state.text ++ lease ++ "); " ++
    "a whole-run cancel would resolve its incidents while it is deciding them, so it was not applied. " ++
    "Wait until the activation is no longer pending-dispatch or active: " ++
    "t3-steward campaign supervision show " ++ runID ++ "; " ++
    "then send the cancel again: t3-steward campaign cancel " ++ runID ++ " --reason TEXT"

/-- The row a command is fenced on, and what it is part of. -/
structure AdminTarget where
  revision : Int := 0
  (runID taskID attemptID : String := "")
deriving DecidableEq

def loadAdminTarget (targetType : AdminTargetType) (targetID : String) : Except Err AdminTarget :=
  let notFound : Err :=
    { text := targetType.text ++ " " ++ quote targetID, sentinel := some .adminTargetNotFound }
  match targetType with
  | .attempt =>
    match s.attempts.get? targetID with
    | some a =>
      .ok { revision := a.revision, runID := a.workflowRunID, taskID := a.taskID, attemptID := a.id }
    | none => .error notFound
  | .workflowRun =>
    match s.workflowRuns.get? targetID with
    | some run => .ok { revision := run.revision, runID := targetID }
    | none => .error notFound
  | _ => .error { text := "invalid admin command: target type " ++ quote targetType.text }

def refuseRunCancel : Except Err AdminCommandApplication :=
  if application.state ≠ .applied then .ok application
  else do
    let snapshot ← s.loadWorkflowProjection resolveNode target.runID
    if sinkSettled snapshot.run then
      return application.reject "run sink is final; submit a new workflow"
    match s.liveRunActivation target.runID with
    | some activation =>
      return application.reject (runCancelActivationRefusal formatTime target.runID activation)
    | none => return application

def refuseStaleTarget : AdminCommandApplication × Option Int :=
  let expected := application.expectedTargetRevision
  if expected ≠ command.expectedRevision ∨ target.revision ≠ expected then
    (application.reject ("stale execution revision: expected " ++ toString expected ++ ", current " ++
      toString target.revision), some target.revision)
  else (application, none)

/-! ## The planned rows -/

def updateAdminWorkflowRun (run : WorkflowRun) : Except Err Store :=
  if (s.workflowRuns.get? run.id).any fun r => r.revision = run.revision - 1 then
    .ok { s with workflowRuns := s.workflowRuns.put run }
  else .error { text := "stale workflow run " ++ quote run.id ++ " revision" }

def updateRelatedAttempt (targetID : String) (s : Store) (related : Attempt) : Except Err Store :=
  if related.id = targetID ∨ related.revision < 1 then
    .error { text := "applied attempt command has an invalid related transition" }
  else s.updateAdminAttempt related (related.revision - 1)

def writeRunCancel : Except Err Store :=
  let expected := application.expectedTargetRevision
  match command.targetType with
  | .attempt =>
    match application.attempt with
    | none => .error { text := "applied attempt command has an invalid target transition" }
    | some attempt => do
      refuseWhen (attempt.id ≠ command.targetID ∨ attempt.revision ≠ expected + 1)
        { text := "applied attempt command has an invalid target transition" }
      let s ← s.updateAdminAttempt attempt expected
      let s ← application.relatedAttempts.foldlM (updateRelatedAttempt command.targetID) s
      match application.workflowRun with
      | some run => s.updateAdminWorkflowRun run
      | none => return s
  | .workflowRun =>
    match application.workflowRun with
    | none => .error { text := "applied workflow run command has an invalid target transition" }
    | some run => do
      refuseWhen (run.id ≠ command.targetID ∨ run.revision ≠ expected + 1)
        { text := "applied workflow run command has an invalid target transition" }
      s.updateAdminWorkflowRun run
  | _ => .error { text := "unsupported admin target transition" }

/-! ## Closing the run -/

/-- The run a cancel settles: the operator stopped it, so it reports cancelled whatever its tasks
did, and its sink keeps the result of the tasks. -/
def cancelledSettlement (before settled : WorkflowRun) (now : Time) : WorkflowRun :=
  { settled with progress := .cancelled, revision := before.revision + 1, updatedAt := now }

/-- Settle the sink in the cancel's own transaction when every task is over, every execution is
quiescent and supervision does not hold it. -/
def settleCancelledRunSink : Except Err (Store × Bool) := do
  let snapshot ← s.loadWorkflowProjection resolveNode runID
  if snapshot.run.sink.all (fun sink => sink.progress.terminal) then return (s, false)
  let barrier : SupervisionBarrier := match snapshot.supervision with
    | none => {}
    | some read => { supervised := true, gates := read.gates, incidents := read.incidents }
  match projectSupervisedRunSink snapshot.run snapshot.tasks snapshot.attempts snapshot.assignments
      barrier now with
  | (_, some e) => .error e
  | (settled, none) =>
    if !sinkSettled settled then return (s, false)
    let settled := cancelledSettlement snapshot.run settled now
    let s ← s.updateAdminWorkflowRun settled
    let sink := settled.sink.getD {}
    let s ← s.insertAuditEvent
      { id := "sink-settled:" ++ runID, workflowRunID := runID, taskID := sink.id
        kind := "sink-settled", actor := "coordinator"
        reason := "settled by a whole-run cancel: all sink predecessors are terminal and executions " ++
          "are quiescent"
        detail := .sinkSettled sink, createdAt := now }
    return (s, true)

def closeCancelledRun : Except Err Store := do
  let actor : Actor := { kind := .operator, principal := command.requestedBy }
  let (s, closure) ← s.closeRunSupervision actor command.id command.reason now runID
  let (s, settled) ← s.settleCancelledRunSink resolveNode runID now
  if closure.supervisionRev = 0 ∧ !settled then return s
  s.insertAuditEvent
    { id := "run-supervision-closed:" ++ command.id, kind := "run-supervision-closed"
      workflowRunID := runID, targetType := .workflowRun, targetID := runID
      actor := command.requestedBy, reason := command.reason
      detail := .supervisionClosed closure.commandID closure.resolvedIncidents
        closure.cancelledGates closure.releasedHolds closure.supervisionRev settled
      createdAt := now }

/-! ## The transaction -/

def invalidAdminCommandOutcome : Err :=
  { text := "invalid admin command outcome", sentinel := some .invalidAdminCommandOutcome }

def adminOutcomeEventID (commandID : String) : String := "admin-command:" ++ commandID ++ ":outcome"

def recordAdminOutcome (currentRevision : Option Int) : Except Err (Store × AdminCommand) := do
  let decided :=
    { command with
      state := application.state, failure := application.failure
      appliedAt := some application.appliedAt }
  let s ← Store.insertAuditEvent { s with adminCommands := s.adminCommands.put decided }
    { id := adminOutcomeEventID command.id, kind := "admin-command-" ++ decided.state.text
      workflowRunID := target.runID, taskID := target.taskID, attemptID := target.attemptID
      targetType := command.targetType, targetID := command.targetID, actor := "coordinator"
      reason := command.reason
      detail := .adminCommand decided.state command.expectedRevision currentRevision decided.failure
      createdAt := application.appliedAt }
  return (s, decided)

def applyPendingCommand : Except Err (Store × AdminCommand) := do
  let target ← s.loadAdminTarget command.targetType command.targetID
  let application ← s.refuseRunCancel resolveNode formatTime target application
  let (application, currentRevision) := refuseStaleTarget command target application
  let s ←
    if application.state = .applied then do
      let s ← s.writeRunCancel command application
      s.closeCancelledRun resolveNode command target.runID application.appliedAt
    else .ok s
  s.recordAdminOutcome command target application currentRevision

def applyAdminCommand : Except Err (Store × AdminCommand) := do
  refuseWhen (application.commandID = "" ∨ application.expectedCommandState ≠ .pending ∨
      (application.state ≠ .applied ∧ application.state ≠ .rejected ∧ application.state ≠ .failed) ∨
      application.appliedAt = 0)
    invalidAdminCommandOutcome
  refuseWhen (application.state = .applied ∧ application.failure ≠ "") invalidAdminCommandOutcome
  refuseWhen (application.state ≠ .applied ∧ application.failure = "") invalidAdminCommandOutcome
  match s.adminCommands.get? application.commandID with
  | none =>
    .error
      { text := "command " ++ quote application.commandID, sentinel := some .adminTargetNotFound }
  | some command =>
    if command.state ≠ application.expectedCommandState then
      if (s.auditEvents.get? (adminOutcomeEventID command.id)).isSome ∧
          command.state = application.state ∧ command.failure = application.failure then
        return (s, command)
      else
        .error
          { text := "command " ++ quote command.id ++ " is " ++ quote command.state.text
            sentinel := some .adminCommandStateConflict }
    else s.applyPendingCommand resolveNode formatTime command application

/-! ## What the transaction writes -/

section

variable {resolveNode formatTime} {s s' : Store} {command decided : AdminCommand}
  {application : AdminCommandApplication} {runID : String} {now : Time}

theorem updateAdminWorkflowRun_ok {run : WorkflowRun} (h : s.updateAdminWorkflowRun run = .ok s') :
    s' = { s with workflowRuns := s.workflowRuns.put run } := by
  unfold updateAdminWorkflowRun at h
  split_ifs at h
  exact (ok.inj h).symm

theorem updateRelatedAttempts_ok {targetID : String} {related : List Attempt}
    (h : related.foldlM (updateRelatedAttempt targetID) s = .ok s') :
    ∃ attempts, s' = { s with attempts := attempts } := by
  refine foldlM_invariant (I := fun t : Store => ∃ attempts, t = { s with attempts := attempts })
    (fun t a _ t' ht hstep => ?_) ⟨s.attempts, rfl⟩ h
  obtain ⟨attempts, rfl⟩ := ht
  unfold updateRelatedAttempt at hstep
  split_ifs at hstep
  obtain rfl := updateAdminAttempt_ok hstep
  exact ⟨_, rfl⟩

theorem writeRunCancel_ok (h : s.writeRunCancel command application = .ok s') :
    ∃ attempts, s' = { s with attempts := attempts } ∨ ∃ run, application.workflowRun = some run ∧
        s' = { s with attempts := attempts, workflowRuns := s.workflowRuns.put run } := by
  unfold writeRunCancel at h
  split at h
  · split at h
    · cases h
    · replace h := past_guard h
      obtain ⟨s₁, hfirst, h⟩ := of_bind h
      obtain ⟨s₂, hrelated, h⟩ := of_bind h
      obtain rfl := updateAdminAttempt_ok hfirst
      obtain ⟨attempts, rfl⟩ := updateRelatedAttempts_ok hrelated
      split at h
      · rename_i run hrun
        exact ⟨attempts, .inr ⟨run, hrun, updateAdminWorkflowRun_ok h⟩⟩
      · exact ⟨attempts, .inl (ok.inj h).symm⟩
  · split at h
    · cases h
    · rename_i run hrun
      replace h := past_guard h
      exact ⟨s.attempts, .inr ⟨run, hrun, updateAdminWorkflowRun_ok h⟩⟩
  · cases h

theorem settleCancelledRunSink_ok {settled : Bool}
    (h : s.settleCancelledRunSink resolveNode runID now = .ok (s', settled)) :
    s' = s ∨ ∃ run auditEvents, run.id = runID ∧ run.progress = .cancelled ∧
      s' = { s with workflowRuns := s.workflowRuns.put run, auditEvents := auditEvents } := by
  obtain ⟨snapshot, hload, h⟩ := of_bind h
  split_ifs at h
  · cases h
    exact .inl rfl
  · dsimp only at h
    split at h
    · cases h
    · rename_i run hproject
      split_ifs at h
      · cases h
        exact .inl rfl
      · obtain ⟨written, hupdate, h⟩ := of_bind h
        obtain ⟨recorded, haudit, h⟩ := of_bind h
        cases h
        obtain rfl := updateAdminWorkflowRun_ok hupdate
        obtain ⟨auditEvents, rfl⟩ := insertAuditEvent_ok haudit
        refine .inr ⟨cancelledSettlement snapshot.run run now, auditEvents, ?_, rfl, rfl⟩
        have hid : run.id = snapshot.run.id := by
          rw [← @projectSupervisedRunSink_id snapshot.run snapshot.tasks snapshot.attempts
            snapshot.assignments _ now, hproject]
        exact hid.trans (Table.key_of_get? (loadWorkflowProjection_ok hload).1)

theorem closeCancelledRun_ok (h : s.closeCancelledRun resolveNode command runID now = .ok s') :
    (s'.workflowRuns = s.workflowRuns ∨ ∃ run, run.id = runID ∧ run.progress = .cancelled ∧
      s'.workflowRuns = s.workflowRuns.put run) ∧
    CancelsGates now s s' := by
  obtain ⟨⟨s₁, closure⟩, hclose, h⟩ := of_bind h
  obtain ⟨⟨s₂, settled⟩, hsettle, h⟩ := of_bind h
  obtain ⟨⟨_, _, _, _, _, hs₁⟩, hmoves⟩ := closeRunSupervision_ok hclose
  have hruns₁ : s₁.workflowRuns = s.workflowRuns := by rw [hs₁]
  have hs₂ : s'.workflowRuns = s₂.workflowRuns ∧ s'.gates = s₂.gates := by
    dsimp only at h
    split_ifs at h
    · rw [ok.inj h]
      exact ⟨rfl, rfl⟩
    · obtain ⟨auditEvents, rfl⟩ := insertAuditEvent_ok h
      exact ⟨rfl, rfl⟩
  rw [hs₂.1, CancelsGates, hs₂.2, ← hruns₁]
  rcases settleCancelledRunSink_ok hsettle with rfl | ⟨run, _, hid, hprogress, rfl⟩
  · exact ⟨.inl rfl, hmoves⟩
  · exact ⟨.inr ⟨run, hid, hprogress, rfl⟩, hmoves⟩

theorem refuseRunCancel_ok {target : AdminTarget} {admitted : AdminCommandApplication}
    (h : s.refuseRunCancel resolveNode formatTime target application = .ok admitted)
    (happlied : admitted.state = .applied) :
    admitted = application ∧ ∃ snapshot, s.loadWorkflowProjection resolveNode
      target.runID = .ok snapshot ∧ sinkSettled snapshot.run = false := by
  unfold refuseRunCancel at h
  split_ifs at h with hstate
  · cases h
    exact absurd happlied hstate
  · obtain ⟨snapshot, hload, h⟩ := of_bind h
    split_ifs at h with hsettled
    · cases h
      cases happlied
    · split at h
      · cases h
        cases happlied
      · exact ⟨(ok.inj h).symm, snapshot, hload, by simpa using hsettled⟩

theorem recordAdminOutcome_ok {target : AdminTarget} {currentRevision : Option Int}
    (h : s.recordAdminOutcome command target application currentRevision = .ok (s', decided)) :
    decided.state = application.state ∧ s'.workflowRuns = s.workflowRuns ∧ s'.gates = s.gates := by
  obtain ⟨recorded, haudit, h⟩ := of_bind h
  cases h
  obtain ⟨auditEvents, rfl⟩ := insertAuditEvent_ok haudit
  exact ⟨rfl, rfl, rfl⟩

/-- A pending command was refused and the runs and gates are as they were, or it was applied to a
run whose sink was open. -/
theorem applyPendingCommand_ok
    (h : s.applyPendingCommand resolveNode formatTime command application = .ok (s', decided)) :
    ∃ target, s.loadAdminTarget command.targetType command.targetID = .ok target ∧
      ((decided.state ≠ .applied ∧ s'.workflowRuns = s.workflowRuns ∧ s'.gates = s.gates) ∨
        ∃ snapshot written closed, decided.state = .applied ∧
          s.loadWorkflowProjection resolveNode target.runID = .ok snapshot ∧
          sinkSettled snapshot.run = false ∧ s.writeRunCancel command application = .ok written ∧
          written.closeCancelledRun resolveNode command target.runID
          application.appliedAt = .ok closed ∧
          s'.workflowRuns = closed.workflowRuns ∧ s'.gates = closed.gates) := by
  obtain ⟨target, htarget, h⟩ := of_bind h
  obtain ⟨admitted, hadmit, h⟩ := of_bind h
  refine ⟨target, htarget, ?_⟩
  generalize hstale : refuseStaleTarget command target admitted = checked at h
  obtain ⟨final, currentRevision⟩ := checked
  dsimp only at h
  have hfinal : final = (refuseStaleTarget command target admitted).1 := by rw [hstale]
  by_cases happlied : final.state = .applied
  · rw [if_pos happlied] at h
    obtain ⟨written, hwritten, h⟩ := of_bind h
    obtain ⟨closed, hclosed, h⟩ := of_bind h
    obtain ⟨hstate, hruns, hgates⟩ := recordAdminOutcome_ok h
    rw [hfinal] at happlied
    have hsame : (refuseStaleTarget command target admitted).1 = admitted := by
      unfold refuseStaleTarget at happlied ⊢
      dsimp only at happlied ⊢
      split_ifs at happlied ⊢
      · cases happlied
      · rfl
    rw [hsame] at happlied hfinal
    obtain ⟨rfl, snapshot, hload, hopen⟩ := refuseRunCancel_ok hadmit happlied
    subst hfinal
    exact .inr ⟨snapshot, written, closed, hstate.trans happlied, hload, hopen, hwritten, hclosed,
      hruns, hgates⟩
  · rw [if_neg happlied, ok_bind] at h
    obtain ⟨hstate, hruns, hgates⟩ := recordAdminOutcome_ok h
    exact .inl ⟨hstate ▸ happlied, hruns, hgates⟩

end

end Steward.Store
