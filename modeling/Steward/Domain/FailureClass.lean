import Steward.Domain.Orchestrator
import Steward.Lib.Text

/-!
# The class of a failure

`internal/domain/failure_class.go`: the reason recorded on an attempt is looked up in a table of
texts, the first row whose text occurs in it decides, and only infrastructure failures are retried.
A joined reason is meant to take the class least willing to retry; a part that no row knows does not
count.
-/

namespace Steward

open List

structure FailureClassification where
  «class» : FailureClass
  code : String
deriving DecidableEq

structure FailureRule extends FailureClassification where
  «match» : String
deriving DecidableEq

def failureClassificationTable : List FailureRule :=
  let rows (c : FailureClass) (l : List (String × String)) : List FailureRule :=
    l.map fun (text, code) => { «match» := text, «class» := c, code := code }
  rows .policy
    [("permanent collection secret failure: ", "secret-scan"),
      ("withheld by secret scan", "secret-scan"),
      ("permanent collection size failure: ", "result-size"),
      ("task timeout expired", "task-timeout"),
      ("MB memory reservation", "memory-limit"),
      ("review gate ", "review-gate")] ++
  rows .cancelled [("stopped by the coordinator before dispatch", "coordinator-stop")] ++
  rows .code
    [("verification command failed (", "verification-failed"),
      ("gate command failed (", "gate-failed")] ++
  rows .protocol [("review_output verification failed: ", "review-output-invalid")] ++
  rows .code [("verification failed", "verification-failed")] ++
  rows .protocol
    [("missing declared output: ", "missing-output"),
      ("missing verification evidence: ", "missing-evidence"),
      ("missing gate evidence", "missing-evidence"),
      ("agent reported unfinished work: ", "unfinished-work"),
      ("result import rejected", "result-rejected"),
      ("thread still has pending input, approval, or background work", "pending-thread-work"),
      ("missing explicit success", "missing-success")] ++
  rows .infrastructure
    [("preparation failed", "preparation-failed"),
      ("preparation returned an empty workspace", "preparation-failed"),
      ("T3 thread creation failed: ", "thread-start-failed"),
      ("T3 thread never started: ", "thread-start-failed"),
      ("T3 refused to start the provider turn", "turn-start-refused"),
      ("provider turn did not complete successfully", "provider-turn-failed"),
      ("paused by quota watchdog: ", "quota-pause"),
      ("provider session is not ready without an active turn or error", "session-not-ready"),
      ("thread completion identity is missing or mismatched", "thread-identity"),
      ("provider completion timestamps are missing or invalid", "thread-identity"),
      ("workspace is missing; outputs cannot be collected", "workspace-missing"),
      ("preserved result digest mismatch", "preserved-result-mismatch"),
      ("contained run was killed for exceeding available memory", "host-memory"),
      ("unknown execution resolved as failed", "execution-unknown"),
      ("was parked on a task-bound wait; the execution cannot be resumed", "execution-abandoned"),
      ("no longer owns parked attempt", "execution-abandoned")]

def classifyFailure (reason : String) : FailureClassification :=
  match failureClassificationTable.find? fun rule => Text.contains reason rule.match with
  | some rule => rule.toFailureClassification
  | none => { «class» := .unknown, code := "unrecognized" }

def FailureClass.retryable (c : FailureClass) : Bool := c = .infrastructure

/-- A row of the table has its text in the reason. -/
def FailureRule.occursIn (rule : FailureRule) (reason : String) : Prop :=
  Text.contains reason rule.match = true

/-- A reason is retried when some row knows it, and all rows that do are willing: they are the last
of the table. -/
theorem classifyFailure_retryable_iff {reason : String} :
    (classifyFailure reason).class.retryable = true ↔
      (∃ rule ∈ failureClassificationTable, rule.occursIn reason) ∧
        ∀ rule ∈ failureClassificationTable, rule.occursIn reason → rule.class.retryable = true := by
  unfold classifyFailure
  cases hfind : failureClassificationTable.find? fun rule => Text.contains reason rule.match with
  | none =>
    refine iff_of_false (by decide) ?_
    rintro ⟨⟨rule, hmem, hoccurs⟩, -⟩
    exact find?_eq_none.1 hfind rule hmem hoccurs
  | some first =>
    have hfirst := find?_some hfind
    refine ⟨fun h => ⟨⟨first, mem_of_find?_eq_some hfind, hfirst⟩, fun rule hmem hoccurs => ?_⟩,
      fun h => h.2 first (mem_of_find?_eq_some hfind) hfirst⟩
    obtain ⟨-, before, after, htable, hbefore⟩ := find?_eq_some_iff_append.1 hfind
    have hsorted : failureClassificationTable.Pairwise fun r r' =>
        r.class.retryable = true → r'.class.retryable = true := by decide
    rw [htable] at hsorted hmem
    -- no row before the one that decides occurs in the reason
    rcases mem_append.1 hmem with hmem | hmem
    · exact absurd hoccurs (by simpa [FailureRule.occursIn] using hbefore rule hmem)
    · rcases mem_cons.1 hmem with rfl | hmem
      · exact h
      · exact (pairwise_cons.1 (pairwise_append.1 hsorted).2.1).1 rule hmem h

/-- A joined reason that only willing rows occur in must have a row in every part. -/
theorem classifyFailure_joined_iff (reasons : List String) :
    ((classifyFailure ("; ".intercalate reasons)).class.retryable = true →
        ∀ reason ∈ reasons, (classifyFailure reason).class.retryable = true) ↔
      ((∃ rule ∈ failureClassificationTable, rule.occursIn ("; ".intercalate reasons)) →
        (∀ rule ∈ failureClassificationTable, rule.occursIn ("; ".intercalate reasons) →
          rule.class.retryable = true) →
        ∀ reason ∈ reasons, ∃ rule ∈ failureClassificationTable, rule.occursIn reason) := by
  rw [classifyFailure_retryable_iff]
  constructor
  · intro h hknown hwilling reason hreason
    exact (classifyFailure_retryable_iff.1 (h ⟨hknown, hwilling⟩ reason hreason)).1
  · rintro h ⟨hknown, hwilling⟩ reason hreason
    refine classifyFailure_retryable_iff.2
      ⟨h hknown hwilling reason hreason, fun rule hmem hoccurs => ?_⟩
    exact hwilling rule hmem
      (Text.contains_iff.2 ((Text.contains_iff.1 hoccurs).trans (Text.infix_intercalate hreason)))

theorem joined_unknown_is_retryable :
    (classifyFailure ("; ".intercalate ["preparation failed", "disk on fire"])).class.retryable = true ∧
      (classifyFailure "disk on fire").class = .unknown := by
  decide +kernel

end Steward
