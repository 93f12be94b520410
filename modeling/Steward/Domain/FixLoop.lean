import Mathlib.Data.Int.ConditionallyCompleteOrder
import Mathlib.Data.List.MinMax
import Mathlib.Data.List.Sort
import Mathlib.Data.List.Dedup
import Mathlib.Order.ConditionallyCompleteLattice.Basic
import Steward.Domain.Orchestrator

/-!
# Fix loops

`SummarizeFixLoops` of `internal/domain/fix_loop.go`: for each declared loop, how many rounds
ran and the verdict of its last finished review. A loop whose last declared round ended with
`changes-requested` is exhausted, which fails the run at settlement.
-/

namespace Steward

structure FixLoopSummary where
  name : String := ""
  (rounds maxRounds : Int := 0)
  finalVerdict : String := ""
  exhausted : Bool := false
  escalation : String := ""
deriving DecidableEq

def verdictBranchSkipped : String := "verdict condition not matched"

def fixLoopExhausted : String := "fix-loop-exhausted"

variable (attempts : List Attempt)

/-- The latest attempt of a task: the first one of the highest number. -/
def latestAttempt (taskID : String) : Option Attempt :=
  attempts.foldl (fun latest a =>
    if a.taskID = taskID ∧ (latest.all fun l => l.number < a.number) then some a else latest) none

theorem latestAttempt_eq_argmax (taskID : String) : latestAttempt attempts taskID =
      (attempts.filter fun a => a.taskID = taskID).argmax Attempt.number := by
  unfold latestAttempt List.argmax
  rw [List.foldl_filter]
  congr 1
  funext latest a
  cases latest <;> simp [List.argAux, ite_and]

def foldFixLoopTask (acc : FixLoopSummary × Int) (t : Task) (f : FixLoopTask) :
    FixLoopSummary × Int :=
  let a := (latestAttempt attempts t.id).getD {}
  let s := { acc.1 with name := f.name, maxRounds := f.maxRounds }
  let s :=
    if (a.startedAt.isSome ∨ a.progress = .succeeded ∨ a.progress = .failed) ∧ f.round > s.rounds then
      { s with rounds := f.round }
    else s
  match a.reviewVerdict with
  | none => (s, acc.2)
  | some v =>
    if f.kind = "review" ∧ a.progress = .succeeded ∧ f.round > acc.2 then
      let exhausted : Bool := f.round = f.maxRounds ∧ v.verdict = "changes-requested"
      ({ s with
          finalVerdict := v.verdict
          exhausted := exhausted
          escalation := if exhausted then fixLoopExhausted else "" }, f.round)
    else (s, acc.2)

def summarizeFixLoop (tasks : List Task) (attempts : List Attempt) (name : String) : FixLoopSummary :=
  (tasks.foldl (fun acc t =>
    match t.fixLoop with
    | none => acc
    | some f => if f.name = name then foldFixLoopTask attempts acc t f else acc) ({}, 0)).1

def summarizeFixLoops (tasks : List Task) (attempts : List Attempt) : List FixLoopSummary :=
  let names := ((tasks.filterMap Task.fixLoop).map FixLoopTask.name).dedup
  (names.insertionSort (· ≤ ·)).map (summarizeFixLoop tasks attempts)

end Steward
