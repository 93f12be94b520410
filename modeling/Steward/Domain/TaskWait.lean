import Steward.Domain.Errors
import Steward.Lib.Except
import Mathlib.Data.List.Sort

/-!
# Task-bound waits

`internal/domain/task_wait.go`, `ask.go`, `attention.go` and `wait_kind.go`: the record that binds
one external condition to one attempt, the request that registers it, the ways it settles, and the
rule that decides when settled waits resume their attempt.
-/

namespace Steward

open Except Text List

/-- When a parked attempt resumes once it holds several waits: on the first settlement, or when no
wait of it is live. -/
inductive WakeMode
  | unset
  | each
  | all
deriving DecidableEq

inductive TaskWaitOutcome
  | unset
  | met
  | failed
  | timedOut
  | gaveUp
  | cancelled
deriving DecidableEq

def TaskWaitOutcome.text : TaskWaitOutcome → String
  | .unset => ""
  | .met => "met"
  | .failed => "failed"
  | .timedOut => "timed-out"
  | .gaveUp => "gave-up"
  | .cancelled => "cancelled"

structure TaskWaitResult where
  outcome : TaskWaitOutcome := .unset
  exitCode : Int := 0
  (reason output : String := "")
  fields : List (String × String) := []
  ranFor : Duration := 0
  observedAt : Time := 0
deriving DecidableEq

/-- How a wait is settled. `unset` is a record from before kinds existed. -/
inductive WaitKind
  | unset
  | shell
  | time
  | github
  | node
  | quota
  | attention
  | ask
deriving DecidableEq

namespace WaitKind

def isLocal : WaitKind → Bool
  | .shell | .time | .github | .unset => true
  | _ => false

def coordinator : WaitKind → Bool
  | .node | .quota | .attention | .ask => true
  | _ => false

def orShell : WaitKind → WaitKind
  | .unset => .shell
  | kind => kind

def text : WaitKind → String
  | .unset => ""
  | .shell => "shell"
  | .time => "time"
  | .github => "github"
  | .node => "node"
  | .quota => "quota"
  | .attention => "attention"
  | .ask => "ask"

end WaitKind

structure NodeWaitCondition where
  target : NodeRef := {}
  state : String := ""
deriving DecidableEq

def nodeWaitStates : List String := ["terminal", "succeeded", "paused", "waiting-external", "active"]

def parseNodeWaitState (value : String) : Except Err String :=
  if value = "" then .ok "terminal"
  else if value ∈ nodeWaitStates then .ok value
  else
    .error { text := "--state " ++ quote value ++ " is not a node state; the states are " ++
               ", ".intercalate nodeWaitStates }

/-- The condition of a quota wait: exactly one of a percentage, the normal phase or a reset. -/
structure QuotaWaitCondition where
  pool : String := ""
  below : Option Rat := none
  phase : String := ""
  reset : Bool := false
  resetAt : Option Time := none
deriving DecidableEq

def QuotaWaitCondition.validate (c : QuotaWaitCondition) : Except Err Unit := do
  refuseWhen (blank c.pool) { text := "--quota needs the pool id" }
  refuseWhen (c.below.any fun b => b ≤ 0 ∨ 100 < b)
    { text := "--below " ++ toString (c.below.getD 0) ++ " is not a percent above 0 and at most 100" }
  refuseWhen (c.phase ≠ "" ∧ c.phase ≠ "normal")
    { text := "--phase " ++ quote c.phase ++
      ": a quota wait waits for the pool to be normal again; " ++
        "the other phases are what it waits out" }
  let named := c.below.toList.length + (if c.phase ≠ "" then 1 else 0) + (if c.reset then 1 else 0)
  refuseWhen (named ≠ 1)
    { text := "--quota takes exactly one of --below N, --phase normal or --reset" }

structure ShellWaitCondition where
  dir : String := ""
  command : List String := []
deriving DecidableEq

/-! ## Attention requests -/

inductive AttentionKind
  | unset
  | approval
  | direction
deriving DecidableEq

def AttentionKind.text : AttentionKind → String
  | .unset => ""
  | .approval => "approval"
  | .direction => "direction"

/-- An operator question, and the coordinator's fences of the execution that asks it. -/
structure AttentionRequest where
  kind : AttentionKind := .unset
  (prompt assignmentID : String := "")
  assignmentEpoch : Int := 0
  (workerID contentDigest : String := "")
  decisionDeadline : Time := 0
deriving DecidableEq

/-- The two digests a registration takes: of an attention request's kind and prompt, and of the
condition a registration waits for. -/
structure WaitDigests where
  attention : AttentionKind → String → String
  condition : WaitKind → String → String → Bool → Option NodeWaitCondition →
    Option QuotaWaitCondition → Option ShellWaitCondition → String

def AttentionRequest.validate (digests : WaitDigests) (r : AttentionRequest) : Except Err Unit := do
  refuseWhen (r.kind = .unset) { text := "attention request kind must be approval or direction" }
  refuseWhen (!proper r.prompt ∨ r.prompt.utf8ByteSize > 4000)
    { text := "attention request prompt must be trimmed, non-empty and at most 4000 bytes" }
  refuseWhen (!proper r.assignmentID) { text := "attention request needs the exact assignment ID" }
  let enriched : Prop := r.assignmentEpoch ≠ 0 ∨ r.workerID ≠ "" ∨ r.contentDigest ≠ "" ∨
    r.decisionDeadline ≠ 0
  refuseWhen (enriched ∧ (r.assignmentEpoch < 1 ∨ !proper r.workerID ∨
      r.contentDigest ≠ digests.attention r.kind r.prompt ∨ r.decisionDeadline = 0))
    { text := "attention request has incomplete or invalid coordinator fences" }

inductive AttentionReceiptState
  | unset
  | received
  | applied
  | rejected
  | delivered
  | observed
deriving DecidableEq

structure AttentionReceipt where
  state : AttentionReceiptState := .unset
  (deliveredAt observedAt : Option Time := none)
deriving DecidableEq

/-! ## Asks -/

inductive AskOnDeadline
  | unset
  | default
  | fail
deriving DecidableEq

inductive AskRequires
  | unset
  | approver
deriving DecidableEq

inductive AskAnswerSource
  | unset
  | t3
  | cli
  | deadlineDefault
deriving DecidableEq

def AskAnswerSource.text : AskAnswerSource → String
  | .unset => ""
  | .t3 => "t3"
  | .cli => "cli"
  | .deadlineDefault => "deadline-default"

/-- The question of an ask. `relayThread` is the thread that puts it to its owner, once one is
open. -/
structure AskRequest where
  question : String := ""
  options : List String := []
  multi : Bool := false
  (context contextName : String := "")
  onDeadline : AskOnDeadline := .unset
  default : List String := []
  requires : AskRequires := .unset
  relayThread : Option String := none
deriving DecidableEq

structure AskAnswer where
  (schema askID workflowRunID taskID question : String := "")
  options : List String := []
  freeText : String := ""
  source : AskAnswerSource := .unset
  (answeredBy threadID : String := "")
  answeredAt : Time := 0
deriving DecidableEq

def askAnswerSchema : String := "ask-answer/v1"

def trimSpace (s : String) : String :=
  String.ofList ((s.toList.dropWhile isSpace).reverse.dropWhile isSpace).reverse

def AskAnswer.summary (a : AskAnswer) : String :=
  "; ".intercalate ((if a.options = [] then [] else [", ".intercalate a.options]) ++
      (if trimSpace a.freeText = "" then [] else ["free text: " ++ trimSpace a.freeText]))

namespace AskRequest

def checkChosen (known : List String) : List String → List String → Except Err Unit
  | _, [] => .ok ()
  | chosen, o :: rest =>
    if o ∉ known then
      .error { text := quote o ++ " is not one of the options: " ++ ", ".intercalate (known.map quote) }
    else if o ∈ chosen then .error { text := "option " ++ quote o ++ " is chosen twice" }
    else checkChosen known (o :: chosen) rest

def checkAnswer (r : AskRequest) (options : List String) (freeText : String) : Except Err Unit := do
  refuseWhen (options = [] ∧ blank freeText)
    { text := "an answer needs at least one --option or free text" }
  refuseWhen (options.length > 1 ∧ r.multi = false)
    { text := "this ask takes one option; it was not asked with --multi" }
  refuseWhen (freeText.utf8ByteSize > 4000)
    { text := "the free-text answer must be at most 4000 bytes" }
  checkChosen r.options [] options

def checkOptions : List String → List String → Except Err Unit
  | _, [] => .ok ()
  | seen, o :: rest =>
    if !proper o ∨ o.utf8ByteSize > 120 ∨ '\n' ∈ o.toList ∨ '\r' ∈ o.toList then
      .error { text := "option " ++ quote o ++
        " must be one trimmed, non-empty line of at most 120 bytes" }
    else if o ∈ seen then .error { text := "option " ++ quote o ++ " is given twice" }
    else checkOptions (o :: seen) rest

def validate (r : AskRequest) : Except Err Unit := do
  refuseWhen (!proper r.question ∨ r.question.utf8ByteSize > 2000)
    { text := "the question must be trimmed, non-empty and at most 2000 bytes" }
  refuseWhen (r.options.length < 2 ∨ r.options.length > 4)
    { text := "an ask needs 2 to 4 --option values (the owner can always type a free-text answer " ++
        "instead); got " ++ toString r.options.length }
  checkOptions [] r.options
  refuseWhen (r.context.utf8ByteSize > 16 * 1024)
    { text := "the context must be at most 16384 bytes" }
  match r.onDeadline with
  | .default =>
    refuseWhen (r.default = []) { text := "a default on deadline needs --default OPTION" }
  | .fail =>
    refuseWhen (r.default ≠ []) { text := "--default and --on-deadline fail exclude each other" }
  | .unset => .error { text := "the deadline outcome \"\" must be default or fail" }
  refuseWhen (r.requires = .approver ∧ r.default ≠ [])
    { text := "--requires approver excludes --default: an approver ask is answered by the approver " ++
        "or times out unanswered" }
  if r.default ≠ [] then
    match r.checkAnswer r.default "" with
    | .ok _ => .ok ()
    | .error e => .error { e with text := "--default: " ++ e.text }

def sameQuestion (r other : AskRequest) : Bool :=
  r.question = other.question ∧ "\x00".intercalate r.options = "\x00".intercalate other.options ∧
    r.multi = other.multi ∧ r.context = other.context ∧ r.onDeadline = other.onDeadline ∧
    "\x00".intercalate r.default = "\x00".intercalate other.default ∧ r.requires = other.requires

end AskRequest

/-! ## Waits -/

structure TaskWaitWakeDeferral where
  (code detail workerID poolID : String := "")
  observedAt : Time := 0
deriving DecidableEq

structure TaskWait where
  (id workflowRunID taskID attemptID : String := "")
  issuedRevision : Int := 0
  threadID : String := ""
  wake : WakeMode := .unset
  maxDuration : Duration := 0
  (requestID conditionDigest name condition : String := "")
  kind : WaitKind := .unset
  orTimeout : Bool := false
  node : Option NodeWaitCondition := none
  quota : Option QuotaWaitCondition := none
  attention : Option AttentionRequest := none
  attentionReceipts : List AttentionReceipt := []
  ask : Option AskRequest := none
  askAnswer : Option AskAnswer := none
  registeredRevision : Int := 0
  (registeredAt deadline : Time := 0)
  result : Option TaskWaitResult := none
  (settledAt wokenAt : Option Time := none)
  delivery : String := ""
  (deliveredAt deliveryObservedAt : Option Time := none)
  deliveryID : String := ""
  wakeRevision : Int := 0
  resumption : Bool := false
  wakeDeferral : Option TaskWaitWakeDeferral := none
deriving DecidableEq

namespace TaskWait

def settled (w : TaskWait) : Bool := w.settledAt.isSome

def live (w : TaskWait) : Bool := w.settledAt.isNone

def woken (w : TaskWait) : Bool := w.wokenAt.isSome

def ready (w : TaskWait) : Bool := w.settled && !w.woken

end TaskWait

/-- The settled waits that justify resuming their attempt, by identity: none while a wait is live,
unless one of the settled waits wakes on its own. -/
def taskWaitWakeSet (waits : List TaskWait) : Option (List TaskWait) :=
  let ready := waits.filter TaskWait.ready
  if ready = [] ∨ (waits.any TaskWait.live = true ∧ ready.all (fun w => w.wake ≠ .each) = true) then
    none
  else some (ready.insertionSort fun a b => a.id ≤ b.id)

structure TaskWaitRegistration where
  (requestID workflowRunID taskID attemptID : String := "")
  issuedRevision : Int := 0
  threadID : String := ""
  wake : WakeMode := .unset
  maxDuration : Duration := 0
  (name condition : String := "")
  shell : Option ShellWaitCondition := none
  kind : WaitKind := .unset
  orTimeout : Bool := false
  node : Option NodeWaitCondition := none
  quota : Option QuotaWaitCondition := none
  attention : Option AttentionRequest := none
  ask : Option AskRequest := none
deriving DecidableEq

def TaskWaitRegistration.conditionDigest (digests : WaitDigests) (r : TaskWaitRegistration) :
    String :=
  digests.condition r.kind.orShell r.name r.condition r.orTimeout r.node r.quota r.shell

def maxTaskWaitDuration : Duration := 30 * 24 * 3600 * 1000000000

def TaskWaitRegistration.validateKind (r : TaskWaitRegistration) : Except Err Unit := do
  refuseWhen (!r.kind.isLocal ∧ !r.kind.coordinator)
    { text := "task-bound wait kind " ++ quote r.kind.text ++
        " is not one of [shell time github node quota attention ask]" }
  refuseWhen (r.kind = .node ∧ (r.node.all fun n => n.target.runID = "" ∨ n.target.taskID = ""))
    { text := "a node wait needs a target run and task" }
  refuseWhen (r.kind ≠ .node ∧ r.node ≠ none)
    { text := "a " ++ r.kind.orShell.text ++ " wait carries no node condition" }
  refuseWhen (r.kind = .quota ∧ r.quota = none)
    { text := "a quota wait needs its pool and condition" }
  refuseWhen (r.kind ≠ .quota ∧ r.quota ≠ none)
    { text := "a " ++ r.kind.orShell.text ++ " wait carries no quota condition" }
  refuseWhen (r.kind = .attention ∧ r.attention = none)
    { text := "an attention wait needs its typed request" }
  refuseWhen (r.kind ≠ .attention ∧ r.attention ≠ none)
    { text := "a " ++ r.kind.orShell.text ++ " wait carries no attention request" }
  refuseWhen (r.kind = .ask ∧ r.ask = none) { text := "an ask wait needs its question" }
  refuseWhen (r.kind ≠ .ask ∧ r.ask ≠ none)
    { text := "a " ++ r.kind.orShell.text ++ " wait carries no question" }
  refuseWhen (r.kind = .ask ∧ r.ask.any fun a => a.relayThread ≠ none)
    { text := "an ask registration cannot name a relay thread; the steward records it" }
  refuseWhen (r.kind = .ask ∧ r.orTimeout)
    { text := "an ask decides its deadline with --default or --on-deadline fail, not --or-timeout" }

def TaskWaitRegistration.validate (digests : WaitDigests) (r : TaskWaitRegistration) :
    Except Err Unit := do
  refuseWhen (blank r.requestID ∨ r.requestID.utf8ByteSize > 128)
    { text := "task-bound wait needs a request ID of at most 128 bytes" }
  refuseWhen (r.workflowRunID = "" ∨ r.taskID = "" ∨ r.attemptID = "")
    { text := "task-bound wait needs a workflow run, task and attempt" }
  refuseWhen (r.issuedRevision < 0)
    { text := "task-bound wait needs a non-negative issued attempt revision" }
  refuseWhen (r.threadID = "") { text := "task-bound wait needs the canonical T3 thread" }
  refuseWhen (r.wake = .unset) { text := "task-bound wait wake mode \"\" must be each or all" }
  refuseWhen (r.maxDuration ≤ 0 ∨ maxTaskWaitDuration < r.maxDuration)
    { text := "task-bound wait needs a maximum duration above zero and at most 720h0m0s" }
  refuseWhen (r.name.utf8ByteSize > 1000 ∨ r.condition.utf8ByteSize > 4000)
    { text := "task-bound wait name or condition is too long" }
  r.validateKind
  r.ask.forM AskRequest.validate
  r.attention.forM (AttentionRequest.validate digests)
  r.node.forM fun n => discard (parseNodeWaitState n.state)
  r.quota.forM QuotaWaitCondition.validate

inductive TaskWaitReconciliationKind
  | doneWhileWaiting
  | authorityRevoked
  | expired
  | undelivered
  | groupDeliveryClaim
  | groupDeliveryAmbiguous
deriving DecidableEq

structure TaskWaitReconciliation where
  id : String := ""
  kind : TaskWaitReconciliationKind := .expired
  (attemptID waitID threadID detail : String := "")
  observedAt : Time := 0
deriving DecidableEq

/-- The evidence handed to a resumed turn; worker and workspace are transport metadata. -/
structure TaskWaitWakeContext where
  (workerID workspacePath attemptID threadID : String := "")
  attemptRevision : Int := 0
  waits : List TaskWait := []
deriving DecidableEq

/-! ## The wake set -/

variable {ready waits : List TaskWait} {w : TaskWait}

theorem taskWaitWakeSet_eq_some_iff : taskWaitWakeSet waits = some ready ↔
      ready = (waits.filter TaskWait.ready).insertionSort (fun a b => a.id ≤ b.id) ∧
      (∃ w ∈ waits, w.ready = true) ∧
      ((∀ w ∈ waits, w.live = false) ∨ ∃ w ∈ waits, w.ready = true ∧ w.wake = .each) := by
  have hempty : waits.filter TaskWait.ready = [] ↔ ¬∃ w ∈ waits, w.ready = true := by
    simp [filter_eq_nil_iff]
  have hheld : (waits.any TaskWait.live = true ∧
      (waits.filter TaskWait.ready).all (fun w => w.wake ≠ .each) = true) ↔
      ¬((∀ w ∈ waits, w.live = false) ∨ ∃ w ∈ waits, w.ready = true ∧ w.wake = .each) := by
    simp only [any_eq_true, all_filter, all_eq_true, not_or, not_forall, not_exists]
    refine and_congr (by simp) (forall_congr' fun w => ?_)
    cases w.ready <;> simp
  unfold taskWaitWakeSet
  simp only [hempty, hheld]
  split_ifs with hnone
  · refine iff_of_false (by simp) ?_
    rintro ⟨-, hready, heach⟩
    exact hnone.elim (fun h => h hready) (fun h => h heach)
  · obtain ⟨hready, heach⟩ := not_or.1 hnone
    rw [not_not] at hready heach
    rw [Option.some.injEq, eq_comm]
    exact ⟨fun h => ⟨h, hready, heach⟩, And.left⟩

theorem mem_taskWaitWakeSet (h : taskWaitWakeSet waits = some ready) :
    w ∈ ready ↔ w ∈ waits ∧ w.ready = true := by
  rw [(taskWaitWakeSet_eq_some_iff.1 h).1, mem_insertionSort, mem_filter]

theorem taskWaitWakeSet_of_settled (hsettled : ∀ w ∈ waits, w.live = false) (hw : w ∈ waits)
    (hnot : w.woken = false) : ∃ ready, taskWaitWakeSet waits = some ready := by
  have hready : w.ready = true := by
    have hlive := hsettled w hw
    simp only [TaskWait.live, Option.isNone_eq_false_iff] at hlive
    simp [TaskWait.ready, TaskWait.settled, hlive, hnot]
  exact ⟨_, taskWaitWakeSet_eq_some_iff.2 ⟨rfl, ⟨w, hw, hready⟩, .inl hsettled⟩⟩

end Steward
