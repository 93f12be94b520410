import Steward.Store.Throttle

/-!
# Admission transitions of quota pools

`internal/backlog/admission_transition.go`: the derived admission of every pool is compared with the
durable one. A changed projection gets a new record, and a directive when the severity of its
throttle or an epoch of its buckets changed. The batch is committed before a directive is sent.
-/

namespace Steward

open Except Text

structure QuotaPoolAdmissionSnapshot where
  quotaPoolID : String := ""
  admission : AdmissionState := .unset
  observedAt : Time := 0
  bucketEpochs : List QuotaBucketEpoch := []
  directiveDeadline : Option Time := none
  reason : String := ""
deriving DecidableEq

/-! ## Validation -/

def validateAdmissionBucketKey (key : BucketKey) : Except Err Unit := do
  [("provider instance", key.providerInstanceID), ("limit", key.limitID),
    ("window", key.window)].forM fun field => refuseWhen (!proper field.2)
      { text := "quota bucket " ++ field.1 ++ " must be nonempty and trimmed" }
  refuseWhen (!trimmed key.accountID) { text := "quota bucket account must be trimmed" }

def validateDomainBucketEpochs (poolID : String) :
    List QuotaBucketEpoch → List BucketKey → Except Err Unit
  | [], _ => .ok ()
  | e :: rest, seen => do
    (validateAdmissionBucketKey e.bucket).mapError fun err =>
      { err with text := "quota admission " ++ quote poolID ++ ": " ++ err.text }
    refuseWhen (!trimmed e.epoch)
      { text := "quota admission " ++ quote poolID ++ " bucket " ++ quote e.bucket.text ++
          " epoch must be trimmed" }
    refuseWhen (e.bucket ∈ seen)
      { text := "quota admission " ++ quote poolID ++ " repeats bucket " ++ quote e.bucket.text }
    validateDomainBucketEpochs poolID rest (e.bucket :: seen)

variable (r : QuotaAdmissionRecord) (d : QuotaPoolAdmissionSnapshot)

def validateQuotaAdmissionRecord : Except Err Unit := do
  refuseWhen (!proper r.quotaPoolID)
    { text := "quota admission record pool ID must be nonempty and trimmed" }
  refuseWhen (r.revision ≤ 0)
    { text := "quota admission record " ++ quote r.quotaPoolID ++ " revision must be positive" }
  refuseWhen (r.admission = .unset)
    { text := "quota admission record " ++ quote r.quotaPoolID ++ " has invalid state " ++
        quote r.admission.text }
  validateDomainBucketEpochs r.quotaPoolID r.bucketEpochs []

def validateDerivedAdmissionSnapshot : Except Err Unit := do
  refuseWhen (!proper d.quotaPoolID)
    { text := "derived quota admission pool ID must be nonempty and trimmed" }
  refuseWhen (d.admission = .unset)
    { text := "derived quota admission " ++ quote d.quotaPoolID ++ " has invalid state " ++
        quote d.admission.text }
  validateDomainBucketEpochs d.quotaPoolID d.bucketEpochs []

def checkQuotaAdmissionRecords : List QuotaAdmissionRecord → List String → Except Err Unit
  | [], _ => .ok ()
  | r :: rest, seen => do
    validateQuotaAdmissionRecord r
    refuseWhen (r.quotaPoolID ∈ seen)
      { text := "quota admission records repeat pool " ++ quote r.quotaPoolID }
    checkQuotaAdmissionRecords rest (r.quotaPoolID :: seen)

def checkDerivedAdmissions : List QuotaPoolAdmissionSnapshot → List String → Except Err Unit
  | [], _ => .ok ()
  | d :: rest, seen => do
    validateDerivedAdmissionSnapshot d
    refuseWhen (d.quotaPoolID ∈ seen)
      { text := "derived admissions repeat pool " ++ quote d.quotaPoolID }
    checkDerivedAdmissions rest (d.quotaPoolID :: seen)

/-! ## Planning -/

def throttleSeverity : AdmissionState → ThrottleSeverity
  | .constrained => .warn
  | .draining => .drain
  | .closed => .stop
  | _ => .unset

def QuotaBucketEpoch.before (a b : QuotaBucketEpoch) : Prop :=
  if a.bucket.text = b.bucket.text then a.epoch ≤ b.epoch else a.bucket.text ≤ b.bucket.text

instance : DecidableRel QuotaBucketEpoch.before := fun a b =>
  inferInstanceAs (Decidable
    (if a.bucket.text = b.bucket.text then a.epoch ≤ b.epoch else a.bucket.text ≤ b.bucket.text))

def sortDomainBucketEpochs (epochs : List QuotaBucketEpoch) : List QuotaBucketEpoch :=
  epochs.insertionSort QuotaBucketEpoch.before

def throttleDirectiveText (severity : ThrottleSeverity) : String :=
  r.bucketEpochs.foldl (fun text e => text ++ "\x00" ++ e.bucket.text ++ "\x00" ++ e.epoch)
    (r.quotaPoolID ++ "\x00" ++ toString r.revision ++ "\x00" ++ severity.text)

def throttleDirectiveID (hash : CoordinatorHash) (r : QuotaAdmissionRecord)
    (severity : ThrottleSeverity) : String :=
  "throttle-" ++ hash.sum "throttle" (throttleDirectiveText r severity)

def sameAdmissionProjection : Bool :=
  r.admission = d.admission ∧ r.observedAt = d.observedAt ∧ r.reason = d.reason ∧
    sortDomainBucketEpochs r.bucketEpochs = sortDomainBucketEpochs d.bucketEpochs

def admissionRecord (expectedRevision : Int) (appliedAt : Time) : QuotaAdmissionRecord :=
  { quotaPoolID := d.quotaPoolID
    revision := expectedRevision + 1
    admission := d.admission
    observedAt := d.observedAt
    appliedAt := appliedAt
    bucketEpochs := sortDomainBucketEpochs d.bucketEpochs
    reason := d.reason }

def needsDirective (prior : Option QuotaAdmissionRecord) (d : QuotaPoolAdmissionSnapshot) : Bool :=
  throttleSeverity d.admission ≠ .unset ∧
    prior.all fun p => throttleSeverity d.admission ≠ throttleSeverity p.admission ∨
      sortDomainBucketEpochs p.bucketEpochs ≠ sortDomainBucketEpochs d.bucketEpochs

section

variable (hash : CoordinatorHash)

def admissionDirective (record : QuotaAdmissionRecord) (deadline : Option Time) : ThrottleDirective :=
  let severity := throttleSeverity record.admission
  { id := throttleDirectiveID hash record severity
    quotaPoolID := record.quotaPoolID
    admissionRevision := record.revision
    severity := severity
    reason := record.reason
    deadline := deadline
    bucketEpochs := record.bucketEpochs
    createdAt := record.appliedAt }

def planQuotaAdmissionTransition (previous : List QuotaAdmissionRecord) (appliedAt : Time)
    (d : QuotaPoolAdmissionSnapshot) : Option QuotaAdmissionTransition :=
  let prior := previous.find? fun r => r.quotaPoolID = d.quotaPoolID
  if prior.any (sameAdmissionProjection · d) then none
  else
    let expectedRevision := (prior.map (·.revision)).getD 0
    let record := admissionRecord d expectedRevision appliedAt
    some
      { expectedRevision := expectedRevision
        record := record
        directive :=
          if needsDirective prior d then some (admissionDirective hash record d.directiveDeadline)
          else none }

def planQuotaAdmissionTransitions (previous : List QuotaAdmissionRecord)
    (derived : List QuotaPoolAdmissionSnapshot) (appliedAt : Time) :
    Except Err (List QuotaAdmissionTransition) := do
  refuseWhen (appliedAt = 0) { text := "quota admission transition time must be set" }
  checkQuotaAdmissionRecords previous []
  let snapshots := derived.insertionSort fun a b => a.quotaPoolID ≤ b.quotaPoolID
  checkDerivedAdmissions snapshots []
  return snapshots.filterMap (planQuotaAdmissionTransition hash previous appliedAt)

def reconcileQuotaAdmissionTransitions (s : Store) (derived : List QuotaPoolAdmissionSnapshot)
    (appliedAt : Time) : Except Err (Store × List ThrottleDirective) := do
  let transitions ← planQuotaAdmissionTransitions hash s.quotaAdmissions.rows derived appliedAt
  if transitions = [] then return (s, [])
  else
    let s ← s.commitQuotaAdmissionTransitions transitions
    return (s, transitions.filterMap (·.directive))

theorem reconcileQuotaAdmissionTransitions_ok {hash : CoordinatorHash} {s s' : Store}
    {derived : List QuotaPoolAdmissionSnapshot} {appliedAt : Time}
    {directives : List ThrottleDirective}
    (h : reconcileQuotaAdmissionTransitions hash s derived appliedAt = .ok (s', directives)) :
    s'.throttleAttempts = s.throttleAttempts ∧
      ∀ d ∈ s'.throttleDirectives.rows, d ∈ s.throttleDirectives.rows ∨ d ∈ directives := by
  obtain ⟨transitions, -, h⟩ := of_bind h
  split_ifs at h with hnone
  · cases h
    exact ⟨rfl, fun d hd => .inl hd⟩
  · obtain ⟨mid, hcommit, h⟩ := of_bind h
    cases h
    obtain ⟨hrecords, hdirectives⟩ := Store.commitQuotaAdmissionTransitions_ok hcommit
    refine ⟨hrecords, fun d hd => ?_⟩
    rcases hdirectives d hd with hd | ⟨t, ht, hd⟩
    · exact .inl hd
    · exact .inr (List.mem_filterMap.2 ⟨t, ht, hd⟩)

end

end Steward
