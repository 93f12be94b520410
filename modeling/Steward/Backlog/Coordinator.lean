import Steward.Backlog.WorkerReconcile

/-!
# The fleet coordinator

`internal/backlog/coordinator.go`: the offers that a planner run commits, and the lifecycle commands
that follow from the coordinator's durable state. Identities are derived from what they identify, so
planning the same thing twice gives the same identity.
-/

namespace Steward

open Text List Option

/-! ## Identities -/

/-- The hash behind stable identities, written in hexadecimal digits. -/
structure CoordinatorHash where
  sum : (kind identity : String) → String
  hex : ∀ kind identity, (sum kind identity).toList.all hexDigit = true

def zeroHash : CoordinatorHash := ⟨fun _ _ => "0", fun _ _ => by decide⟩

variable (hash : CoordinatorHash) (attempt : Attempt) (snapshot : WorkerSnapshot)

def stableCoordinatorID (kind identity : String) : String :=
  kind ++ "-" ++ hash.sum kind identity

/-- No two command identities hash to the same digits. -/
def CoordinatorHash.CollisionFree : Prop :=
  Function.Injective (hash.sum "command")

/-! ## Offers -/

structure ProposedTask where
  (attemptID workerID : String := "")
  route : ProviderRoute := {}
  estimate : TaskAdmissionEstimate := {}
  placement : Option ResourceDemand := none
deriving DecidableEq

/-- The offer of a proposal: its first epoch is the attempt's number. -/
def proposedAssignment (proposal : ProposedTask) : Assignment :=
  let assignmentID := stableCoordinatorID hash "assignment" attempt.id
  { id := assignmentID
    attemptID := attempt.id
    workerID := proposal.workerID
    route := proposal.route
    estimate := some proposal.estimate
    state := .offered
    epoch := attempt.number
    leaseToken := stableCoordinatorID hash "lease" assignmentID
    dispatchToken := stableCoordinatorID hash "dispatch" assignmentID
    threadID := stableCoordinatorID hash "thread" assignmentID
    placement := proposal.placement }

def proposedItem (proposal : ProposedTask) : AssignmentPlanItem :=
  { assignment := proposedAssignment hash attempt proposal
    expectedAttemptRevision := attempt.revision
    workerEpoch := snapshot.workerEpoch
    workerSnapshotSequence := snapshot.sequence }

/-! ## Lifecycle commands -/

variable (now : Time) (commandRecords : List WorkerCommandRecord) (coordinatorEpoch : Int)
  (assignment : Assignment) (kind : WorkerCommandKind) (assignmentID : String)

def workerCommandKey (assignmentEpoch : Int) (kind : WorkerCommandKind) : String :=
  assignmentID ++ "/" ++ toString assignmentEpoch ++ "/" ++ kind.text

/-- The identity of a command under one coordinator authority. A restarted coordinator issues a
fresh identity for the same effect. -/
def workerCommandID (assignmentEpoch : Int) (kind : WorkerCommandKind) : String :=
  if coordinatorEpoch ≤ 1 then
    stableCoordinatorID hash "command" (workerCommandKey assignmentID assignmentEpoch kind)
  else
    stableCoordinatorID hash "command"
      (workerCommandKey assignmentID assignmentEpoch kind ++ "@" ++ toString coordinatorEpoch)

/-- One record read into the planner's map of commands, as the entry of one effect sees it. An
acknowledged command is a fact whatever authority issued it; another counts only under the current
authority and never replaces an acknowledged one. -/
def existingStep (previous : Option WorkerCommandRecord) (record : WorkerCommandRecord) :
    Option WorkerCommandRecord :=
  if record.acknowledgement = none ∧ record.command.coordinatorEpoch ≠ coordinatorEpoch then previous
  else if record.command.assignmentID ≠ assignment.id ∨
      record.command.assignmentEpoch ≠ assignment.epoch ∨ record.command.kind ≠ kind then
    previous
  else if (previous.any fun r => r.acknowledgement.isSome) ∧ record.acknowledgement = none then
    previous
  else some record

def existingWorkerCommand : Option WorkerCommandRecord :=
  commandRecords.foldl (existingStep coordinatorEpoch assignment kind) none

/-- The observation of an assignment; the map of observations keeps the last, and an assignment that
is not observed has the empty one. -/
def observedAssignment : WorkerAssignmentObservation :=
  (snapshot.assignments.reverse.find? fun o => o.assignmentID = assignmentID).getD {}

def nextWorkerCommand (attempt : Attempt) (observation : WorkerAssignmentObservation)
    (existing : WorkerCommandKind → Option WorkerCommandRecord) : Option WorkerCommandKind :=
  if observation.assignmentID = assignment.id ∧ observation.assignmentEpoch = assignment.epoch ∧
      observation.state = .completed then
    if existing .collect = none then some .collect else none
  else if attempt.progress.terminal ∨ attempt.completedAt ≠ none ∨ attempt.control = .stopped then
    if existing .stop = none then some .stop else none
  else if assignment.state ≠ .claimed ∨ waitingExternal attempt then
    none
  else
    match existing .prepare with
    | none => some .prepare
    | some prepare =>
      if (prepare.acknowledgement.any fun a => a.accepted) = false then none
      else if attempt.control = .preparing ∨ attempt.control = .resuming then
        if existing .dispatch = none then some .dispatch else none
      else none

def boundCommand : WorkerCommand :=
  { id := workerCommandID hash snapshot.coordinatorEpoch assignment.id assignment.epoch kind
    kind := kind
    workerID := snapshot.workerID
    workerEpoch := snapshot.workerEpoch
    coordinatorEpoch := snapshot.coordinatorEpoch
    assignmentID := assignment.id
    assignmentEpoch := assignment.epoch
    expectedWorkerSequence := snapshot.sequence
    createdAt := now }

/-- The command planned for one assignment: none for another worker's or session's, for one that is
not claimed or unknown, or without an attempt. -/
def planAssignmentCommand (records : CoordinatorRecords)
    (snapshot : WorkerSnapshot) (commandRecords : List WorkerCommandRecord) (now : Time)
    (assignment : Assignment) : Option WorkerCommand :=
  if assignment.workerID ≠ snapshot.workerID ∨ assignment.workerEpoch ≠ snapshot.workerEpoch ∨
      ¬(assignment.state = .claimed ∨ assignment.state = .unknown) then none
  else
    match attemptByID records.attempts assignment.attemptID with
    | none => none
    | some attempt =>
      (nextWorkerCommand assignment attempt (observedAssignment snapshot assignment.id)
        (existingWorkerCommand commandRecords snapshot.coordinatorEpoch assignment)).map
          (boundCommand hash snapshot now assignment)

/-- The commands a snapshot calls for. A snapshot's sequence is spent on one new command: the first
in assignment order. -/
def planWorkerCommands (records : CoordinatorRecords)
    (snapshot : WorkerSnapshot) (commandRecords : List WorkerCommandRecord) (now : Time) :
    Except Err (List WorkerCommand) :=
  if snapshot.workerID = "" ∨ snapshot.workerEpoch = "" ∨ snapshot.coordinatorEpoch < 1 ∨
      snapshot.sequence < 1 ∨ now = 0 then
    .error { text := "worker command planning requires a complete snapshot and time" }
  else if !snapshot.connected ∨ ¬now < snapshot.validUntil then
    .error { text := "worker " ++ quote snapshot.workerID ++ " snapshot is disconnected or stale" }
  else
    .ok ((records.assignments.insertionSort fun a b => a.id ≤ b.id).findSome?
      (planAssignmentCommand hash records snapshot commandRecords now)).toList

/-! ## Command identities -/

theorem workerCommandKey_toList (assignmentID : String) (epoch : Int) (kind : WorkerCommandKind) :
    (workerCommandKey assignmentID epoch kind).toList =
      (assignmentID.toList ++ '/' :: (toString epoch).toList) ++ '/' :: kind.text.toList := by
  simp [workerCommandKey, String.toList_append]

theorem slash_not_mem_text (kind : WorkerCommandKind) : '/' ∉ kind.text.toList := by
  cases kind <;> decide

variable {n n' : Int} {k k' : WorkerCommandKind}

/-- The key of a command determines its assignment, its epoch and its kind, even if the assignment's
identity holds separators. -/
theorem workerCommandKey_inj {a a' : String}
    (h : workerCommandKey a n k = workerCommandKey a' n' k') :
    a = a' ∧ n = n' ∧ k = k' := by
  have hlist := congrArg String.toList h
  rw [workerCommandKey_toList, workerCommandKey_toList] at hlist
  obtain ⟨hbase, hkind⟩ :=
    append_cons_inj (slash_not_mem_text k) (slash_not_mem_text k') hlist
  obtain ⟨hid, hepoch⟩ := append_cons_inj (not_mem_toString (by decide) (by decide) n)
    (not_mem_toString (by decide) (by decide) n') hbase
  refine ⟨String.toList_inj.1 hid, toString_int_inj (String.toList_inj.1 hepoch), ?_⟩
  cases k <;> cases k' <;> first | rfl | exact absurd hkind (by decide)

def workerCommandText (coordinatorEpoch : Int) (assignmentID : String) (assignmentEpoch : Int)
    (kind : WorkerCommandKind) : String :=
  if coordinatorEpoch ≤ 1 then workerCommandKey assignmentID assignmentEpoch kind
  else workerCommandKey assignmentID assignmentEpoch kind ++ "@" ++ toString coordinatorEpoch

theorem workerCommandID_eq (hash : CoordinatorHash) (coordinatorEpoch : Int) (assignmentID : String)
    (assignmentEpoch : Int) (kind : WorkerCommandKind) :
    workerCommandID hash coordinatorEpoch assignmentID assignmentEpoch kind =
      stableCoordinatorID hash "command"
        (workerCommandText coordinatorEpoch assignmentID assignmentEpoch kind) := by
  unfold workerCommandID workerCommandText
  split_ifs <;> rfl

/-- A key ends in a letter, an identity under a later authority in a digit. -/
theorem workerCommandKey_ne_later (a a' : String) (n n' : Int) (k k' : WorkerCommandKind)
    (epoch : Int) :
    workerCommandKey a n k ≠ workerCommandKey a' n' k' ++ "@" ++ toString epoch := by
  intro h
  have hlast := congrArg (fun s => s.toList.getLast?) h
  simp only [workerCommandKey_toList, String.toList_append] at hlast
  rw [getLast?_append_of_ne_nil _ (toString_int_ne_nil epoch),
    getLast?_append_of_ne_nil _ (cons_ne_nil _ _)] at hlast
  obtain ⟨c, hc⟩ : ∃ c, (toString epoch).toList.getLast? = some c :=
    ne_none_iff_exists'.1 fun hnone =>
      toString_int_ne_nil epoch (getLast?_eq_none_iff.1 hnone)
  rw [hc] at hlast
  have hdigit := mem_toString_int (mem_of_getLast? hc)
  cases k <;> rcases hdigit with hdigit | rfl <;> first
    | exact absurd hlast (by decide)
    | (have hletter := some.inj hlast
       rw [← hletter] at hdigit
       exact absurd hdigit (by decide))

theorem workerCommandText_inj {e e' : Int} {a a' : String} (he : 1 ≤ e) (he' : 1 ≤ e')
    (h : workerCommandText e a n k = workerCommandText e' a' n' k') :
    e = e' ∧ a = a' ∧ n = n' ∧ k = k' := by
  unfold workerCommandText at h
  split_ifs at h with hfirst hfirst' hfirst'
  · exact ⟨by omega, workerCommandKey_inj h⟩
  · exact absurd h (workerCommandKey_ne_later _ _ _ _ _ _ _)
  · exact absurd h.symm (workerCommandKey_ne_later _ _ _ _ _ _ _)
  · have hlist := congrArg String.toList h
    simp only [String.toList_append] at hlist
    rw [append_assoc, append_assoc] at hlist
    obtain ⟨hkey, hepoch⟩ := append_cons_inj (not_mem_toString (by decide) (by decide) e)
      (not_mem_toString (by decide) (by decide) e') hlist
    exact ⟨toString_int_inj (String.toList_inj.1 hepoch),
      workerCommandKey_inj (String.toList_inj.1 hkey)⟩

theorem workerCommandID_inj {hash : CoordinatorHash} (hfree : hash.CollisionFree) {e e' : Int}
    {a a' : String} (he : 1 ≤ e) (he' : 1 ≤ e')
    (h : workerCommandID hash e a n k = workerCommandID hash e' a' n' k') :
    e = e' ∧ a = a' ∧ n = n' ∧ k = k' := by
  rw [workerCommandID_eq, workerCommandID_eq] at h
  exact workerCommandText_inj he he' (hfree (String.append_right_inj _ |>.1 h))

theorem workerCommandID_proper (hash : CoordinatorHash) (e : Int) (a : String) (n : Int)
    (k : WorkerCommandKind) : proper (workerCommandID hash e a n k) = true := by
  rw [workerCommandID_eq]
  have hhex := all_eq_true.1 (hash.hex "command" (workerCommandText e a n k))
  refine proper_of_no_space (fun hempty => ?_) fun c hc => ?_
  · have hlist := congrArg String.toList hempty
    simp [stableCoordinatorID] at hlist
  · simp only [stableCoordinatorID, String.toList_append, mem_append] at hc
    rcases hc with hc | hc
    · have hkind : ∀ c ∈ ("command".toList ++ "-".toList), isSpace c = false := by
        simp [isSpace]
      exact hkind c (mem_append.2 hc)
    · exact isSpace_of_hexDigit (hhex c hc)

/-! ## What the planner takes to be issued -/

/-- A record stands for a command of one kind for an assignment's epoch: it was acknowledged, or the
current authority issued it. -/
def CommandStands (coordinatorEpoch : Int) (assignment : Assignment) (kind : WorkerCommandKind)
    (record : WorkerCommandRecord) : Prop :=
  record.command.assignmentID = assignment.id ∧ record.command.assignmentEpoch = assignment.epoch ∧
    record.command.kind = kind ∧
    (record.acknowledgement ≠ none ∨ record.command.coordinatorEpoch = coordinatorEpoch)

section

variable {commandRecords : List WorkerCommandRecord} {coordinatorEpoch : Int} {a : Assignment}
  {kind : WorkerCommandKind}

theorem existingStep_cases (previous : Option WorkerCommandRecord) (record : WorkerCommandRecord) :
    (¬CommandStands coordinatorEpoch a kind record ∧
      existingStep coordinatorEpoch a kind previous record = previous) ∨
    CommandStands coordinatorEpoch a kind record ∧
      (existingStep coordinatorEpoch a kind previous record = some record ∨
        existingStep coordinatorEpoch a kind previous record = previous ∧ previous ≠ none) := by
  unfold existingStep
  split_ifs with hold hother hacked
  · exact .inl ⟨fun h => h.2.2.2.elim (· hold.1) hold.2, rfl⟩
  · refine .inl ⟨fun h => ?_, rfl⟩
    rcases hother with hne | hne | hne
    · exact hne h.1
    · exact hne h.2.1
    · exact hne h.2.2.1
  all_goals
    have hstands : CommandStands coordinatorEpoch a kind record := by
      simp only [not_or, not_not] at hother
      refine ⟨hother.1, hother.2.1, hother.2.2, ?_⟩
      by_contra hnot
      simp only [not_or, not_not] at hnot
      exact hold hnot
  · refine .inr ⟨hstands, .inr ⟨rfl, ?_⟩⟩
    rintro rfl
    cases hacked.1
  · exact .inr ⟨hstands, .inl rfl⟩

theorem existingWorkerCommand_eq_none_iff :
    existingWorkerCommand commandRecords coordinatorEpoch a kind = none ↔
      ∀ r ∈ commandRecords, ¬CommandStands coordinatorEpoch a kind r := by
  have hfold : ∀ (records : List WorkerCommandRecord) previous,
      records.foldl (existingStep coordinatorEpoch a kind) previous = none ↔
        previous = none ∧ ∀ r ∈ records, ¬CommandStands coordinatorEpoch a kind r := by
    intro records
    induction records with
    | nil => simp
    | cons r rest ih =>
      intro previous
      rw [foldl_cons, ih, forall_mem_cons, ← and_assoc]
      refine and_congr_left' ?_
      rcases existingStep_cases previous r with ⟨hnot, hstep⟩ | ⟨hstands, hstep | ⟨hstep, hsome⟩⟩
      · rw [hstep]
        exact ⟨fun h => ⟨h, hnot⟩, And.left⟩
      · rw [hstep]
        exact iff_of_false (some_ne_none r) fun h => h.2 hstands
      · rw [hstep]
        exact iff_of_false hsome fun h => h.2 hstands
  exact (hfold commandRecords none).trans (and_iff_right rfl)

theorem existingWorkerCommand_eq_some {r : WorkerCommandRecord}
    (h : existingWorkerCommand commandRecords coordinatorEpoch a kind = some r) :
    r ∈ commandRecords ∧ CommandStands coordinatorEpoch a kind r := by
  refine foldlRecOn (motive := fun entry => entry = some r →
    r ∈ commandRecords ∧ CommandStands coordinatorEpoch a kind r) commandRecords _ ?_ ?_ h
  · intro hnone
    cases hnone
  · intro previous ih record hmem hentry
    rcases existingStep_cases previous record with ⟨-, hstep⟩ | ⟨hstands, hstep | ⟨hstep, -⟩⟩
    · exact ih (hstep ▸ hentry)
    · cases hstep.symm.trans hentry
      exact ⟨hmem, hstands⟩
    · exact ih (hstep ▸ hentry)

end

/-- A command that is needed once only the acknowledged commands count is the next one to plan,
unless it is on record already. -/
theorem nextWorkerCommand_of_acknowledged {a : Assignment} {t : Attempt}
    {o : WorkerAssignmentObservation} {acknowledged existing : WorkerCommandKind →
      Option WorkerCommandRecord} {kind : WorkerCommandKind}
    (hkept : ∀ k r, acknowledged k = some r → existing k = some r)
    (hopen : ∀ k r, existing k = some r → acknowledged k = none → r.acknowledgement = none)
    (h : nextWorkerCommand a t o acknowledged = some kind) :
    acknowledged kind = none ∧
      nextWorkerCommand a t o existing = if existing kind = none then some kind else none := by
  unfold nextWorkerCommand at h ⊢
  split at h
  · rename_i hcompleted
    rw [if_pos hcompleted]
    split at h
    · cases h
      exact ⟨‹_›, rfl⟩
    · cases h
  · rename_i hcompleted
    rw [if_neg hcompleted]
    split at h
    · rename_i hover
      rw [if_pos hover]
      split at h
      · cases h
        exact ⟨‹_›, rfl⟩
      · cases h
    · rename_i hover
      rw [if_neg hover]
      split at h
      · cases h
      · rename_i hidle
        rw [if_neg hidle]
        split at h
        · rename_i hnone
          cases h
          refine ⟨hnone, ?_⟩
          cases hprepare : existing .prepare with
          | none => simp
          | some p => simp [hopen _ _ hprepare hnone]
        · rename_i p hprepare
          rw [hkept _ _ hprepare]
          split at h
          · cases h
          · rename_i haccepted
            split at h
            · rename_i hstarting
              split at h
              · cases h
                refine ⟨‹_›, ?_⟩
                dsimp only
                rw [if_neg haccepted, if_pos hstarting]
              · cases h
            · cases h

/-- An assignment a snapshot addresses: of its worker and session, claimed or unknown. -/
structure Addressed (snapshot : WorkerSnapshot) (a : Assignment) : Prop where
  worker : a.workerID = snapshot.workerID
  session : a.workerEpoch = snapshot.workerEpoch
  live : a.state = .claimed ∨ a.state = .unknown

section

variable {hash : CoordinatorHash} {records : CoordinatorRecords} {snapshot : WorkerSnapshot}
  {commandRecords : List WorkerCommandRecord} {now : Time} {a : Assignment} {command : WorkerCommand}

theorem planAssignmentCommand_some
    (h : planAssignmentCommand hash records snapshot commandRecords now a = some command) :
    Addressed snapshot a ∧ ∃ t kind, attemptByID records.attempts a.attemptID = some t ∧
      nextWorkerCommand a t (observedAssignment snapshot a.id)
        (existingWorkerCommand commandRecords snapshot.coordinatorEpoch a) = some kind ∧
      command = boundCommand hash snapshot now a kind := by
  unfold planAssignmentCommand at h
  split at h
  · cases h
  · rename_i haddressed
    obtain ⟨hworker, hrest⟩ := not_or.1 haddressed
    obtain ⟨hsession, hlive⟩ := not_or.1 hrest
    split at h
    · cases h
    · rename_i t ht
      obtain ⟨kind, hkind, rfl⟩ := map_eq_some_iff.1 h
      exact ⟨⟨not_not.1 hworker, not_not.1 hsession, not_not.1 hlive⟩, t, kind, ht, hkind, rfl⟩

theorem planWorkerCommands_mem {planned : List WorkerCommand}
    (h : planWorkerCommands hash records snapshot commandRecords now = .ok planned)
    (hmem : command ∈ planned) :
    ∃ a ∈ records.assignments, ∃ kind, command = boundCommand hash snapshot now a kind := by
  unfold planWorkerCommands at h
  split_ifs at h
  rw [← Except.ok.inj h, mem_toList] at hmem
  obtain ⟨a, ha, hplan⟩ := exists_of_findSome?_eq_some hmem
  obtain ⟨-, t, kind, -, -, rfl⟩ := planAssignmentCommand_some hplan
  exact ⟨a, (mem_insertionSort _).1 ha, kind, rfl⟩

end

/-! ## Quota admission -/

def unmeteredQuotaPoolID (quotaPoolID : String) : Bool :=
  "-free".toList.isSuffixOf quotaPoolID.toList

def forcedAssignment (records : CoordinatorRecords) (assignmentID : String) : Bool :=
  records.assignments.any fun a =>
    a.id = assignmentID ∧ records.attempts.any fun t => t.id = a.attemptID ∧ t.adminForceStart = true

/-- The quota pool of an assignment's route; the map of pools keeps the last. -/
def assignmentQuotaPool (records : CoordinatorRecords) (assignmentID : String) : String :=
  ((records.assignments.reverse.find? fun a => a.id = assignmentID).map fun a =>
    a.route.quotaPoolID).getD ""

/-- The last quota check before an offer or a lifecycle command reaches a worker
(`worker_admission.go`). -/
structure WorkerAdmissionPolicy where
  quotaChecksDisabled : Bool := false
  openQuotaPools : List String := []
deriving DecidableEq

namespace WorkerAdmissionPolicy

variable (policy : WorkerAdmissionPolicy)

def allowsNewWork (quotaPoolID : String) : Bool :=
  quotaPoolID ≠ "" ∧ (policy.quotaChecksDisabled = true ∨ quotaPoolID ∈ policy.openQuotaPools ∨
    unmeteredQuotaPoolID quotaPoolID = true)

/-- Whether the policy lets a command through: stop and collection always, new work when it is
forced or its pool is open. -/
def allowsCommand (records : CoordinatorRecords) (command : WorkerCommand) : Bool :=
  !command.kind.newWork || forcedAssignment records command.assignmentID ||
    policy.allowsNewWork (assignmentQuotaPool records command.assignmentID)

def filterCommands (records : CoordinatorRecords)
    (commands : List WorkerCommand) : List WorkerCommand × List WorkerCommand :=
  ((commands.filter (policy.allowsCommand records)).insertionSort fun a b => a.id ≤ b.id,
    (commands.filter fun c => !policy.allowsCommand records c).insertionSort fun a b => a.id ≤ b.id)

end WorkerAdmissionPolicy

end Steward
