import Steward.Store.Store

/-!
# Registering and settling task-bound waits

The transactions of `internal/store/sqlite/task_wait.go` and `ask.go` that register a wait, settle
it, expire it and answer an ask. Registration parks the attempt; the others write only wait rows and
events. The observers that resolve a node or quota condition, and the digests, are parameters.
-/

namespace Steward

open Except

/-- What the coordinator's records say about a node: its canonical identity, and the outcome the
condition would settle with, empty while it is undecided. -/
structure NodeStateObservation where
  target : NodeRef := {}
  (progress outcome reason : String := "")
deriving DecidableEq

structure QuotaPoolReading where
  (outcome reason : String := "")
deriving DecidableEq

/-- How conditions of the coordinator kinds are read from its records. -/
structure WaitObservers where
  digests : WaitDigests
  resolveNodeState : Store → NodeWaitCondition → Except Err NodeStateObservation
  quotaResetAt : Store → QuotaWaitCondition → Except Err (Option Time)
  observeQuota : Store → QuotaWaitCondition → Time → Except Err QuotaPoolReading
  quotaText : QuotaWaitCondition → String

def durationText (d : Duration) : String := toString d ++ "ns"

def taskWaitID (requestID : String) : String := "tw-" ++ requestID

def sameAttentionRegistration (stored requested : Option AttentionRequest) : Bool :=
  match stored, requested with
  | some a, some b => a.kind = b.kind ∧ a.prompt = b.prompt ∧ a.assignmentID = b.assignmentID
  | none, none => true
  | _, _ => false

def sameAskRegistration (stored requested : Option AskRequest) : Bool :=
  match stored, requested with
  | some a, some b => a.sameQuestion b
  | none, none => true
  | _, _ => false

def WaitKind.side (kind : WaitKind) : String :=
  if kind.orShell.coordinator then "a coordinator kind" else "a local kind"

def NodeWaitCondition.orTerminal (c : NodeWaitCondition) : NodeWaitCondition :=
  if c.state = "" then { c with state := "terminal" } else c

def NodeWaitCondition.text (c : NodeWaitCondition) : String :=
  "node " ++ c.target.text ++ " " ++ c.orTerminal.state

/-- The longest prefix of at most `limit` bytes that splits no character. -/
def truncateUTF8 (text : String) (limit : Nat) : String :=
  let rec go : List Char → Nat → List Char
    | [], _ => []
    | c :: cs, room => if c.utf8Size ≤ room then c :: go cs (room - c.utf8Size) else []
  String.ofList (go text.toList limit)

namespace Store

variable (s : Store)

/-! ## Rows -/

def saveTaskWait (w : TaskWait) : Store := { s with taskWaits := s.taskWaits.put w }

def recordTaskWaitEvent (event : TaskWaitReconciliation) : Store :=
  match s.taskWaitEvents.get? event.id with
  | some _ => s
  | none => { s with taskWaitEvents := s.taskWaitEvents.put event }

variable (obs : WaitObservers) (request : TaskWaitRegistration) (attempt : Attempt) (now : Time)

def saveAttemptFenced (expected : Int) : Except Err Store :=
  match s.updateAttempt attempt expected with
  | .ok s' => .ok s'
  | .error e =>
    if e.sentinel = some .staleAttemptRevision then
      .error
        { text := "attempt " ++ quote attempt.id ++ " is no longer at revision " ++ toString expected
          sentinel := some .taskWaitStaleRevision }
    else .error e

/-! ## Registration -/

/-- The attempt's live `all` waits are all of local kinds or all of coordinator kinds. -/
def refuseMixedTaskWaitSet : Except Err Unit :=
  match s.taskWaits.rows.find? fun w => request.wake = .all ∧ w.attemptID = request.attemptID ∧
      w.live ∧ w.wake = .all ∧ w.kind.orShell.coordinator ≠ request.kind.orShell.coordinator with
  | none => .ok ()
  | some w =>
    .error
      { text := "a --wake all set is all local kinds or all coordinator kinds: wait " ++ w.id ++
        " (" ++
          w.kind.orShell.text ++ ", " ++ w.kind.side ++ ") and this " ++ request.kind.orShell.text ++
          " wait (" ++ request.kind.side ++ ") would mix them; register this one with --any " ++
          "(--wake each), or wait for " ++ w.id ++ " to settle" }

def readNodeTarget (condition : NodeWaitCondition) : Except Err NodeStateObservation :=
  match obs.resolveNodeState s condition with
  | .ok seen => .ok seen
  | .error e => .error { e with text := "node wait target: " ++ e.text }

def validateNodeRegistration (condition : NodeWaitCondition) : Except Err TaskWaitRegistration := do
  let condition := condition.orTerminal
  let seen ← s.readNodeTarget obs condition
  refuseWhen (condition.target.runID = request.workflowRunID ∧
      seen.target.taskID = sinkTaskID request.workflowRunID)
    { text := "a task cannot wait for its own run " ++ request.workflowRunID ++
        " to settle: the run cannot settle while this attempt is parked; wait for a sibling task " ++
        "with --node " ++ request.workflowRunID ++ "/<task>" }
  refuseWhen (seen.outcome ≠ "")
    { text := "the condition already holds (" ++ condition.target.text ++ " is " ++ seen.progress ++
        ": " ++ seen.reason ++ "), so there is nothing to park for" }
  let condition := { condition with target := seen.target }
  .ok { request with
    node := some condition
    condition := if request.condition = "" then condition.text else request.condition }

def quotaWithReset (condition : QuotaWaitCondition) : Except Err QuotaWaitCondition :=
  if condition.reset ∧ condition.resetAt = none then do
    let resetAt ← obs.quotaResetAt s condition
    .ok { condition with resetAt := resetAt }
  else .ok condition

def validateQuotaRegistration
    (condition : QuotaWaitCondition) (now : Time) : Except Err TaskWaitRegistration := do
  let condition ← s.quotaWithReset obs condition
  let seen ← obs.observeQuota s condition now
  refuseWhen (seen.outcome ≠ "")
    { text := "the condition already holds (" ++ seen.reason ++ "), so there is nothing to park for" }
  .ok { request with
    quota := some condition
    condition := if request.condition = "" then obs.quotaText condition else request.condition }

/-- A registration of a coordinator kind with its condition checked and written out. -/
def structuredCondition : Except Err TaskWaitRegistration :=
  match request.node, request.attention, request.ask, request.quota with
  | some node, _, _, _ => s.validateNodeRegistration obs request node
  | none, some attention, _, _ =>
    .ok { request with condition := "attention " ++ attention.kind.text ++ ": " ++ attention.prompt }
  | none, none, some ask, _ =>
    .ok { request with condition := truncateUTF8 ("ask: " ++ ask.question) 4000 }
  | none, none, none, some quota => s.validateQuotaRegistration obs request quota now
  | none, none, none, none =>
    .error { text := "a " ++ request.kind.text ++ " wait needs its structured condition" }

/-- Check a registration of a coordinator kind against the records it will be settled from. A local
kind is registered as it is. -/
def validateStructuredRegistration : Except Err TaskWaitRegistration :=
  if request.kind.coordinator then do
    let request ← s.structuredCondition obs request now
    .ok { request with name := if request.name = "" then request.condition else request.name }
  else .ok request

def sameLegacyCondition (stored : TaskWait) (request : TaskWaitRegistration) : Bool :=
  let derived := request.kind.orShell.coordinator
  if request.shell ≠ none ∨ stored.orTimeout ≠ request.orTimeout ∨
      ((request.condition ≠ "" ∨ derived = false) ∧ request.condition ≠ stored.condition) ∨
      ((request.name ≠ "" ∨ derived = false) ∧ request.name ≠ stored.name) then
    false
  else if derived = false then stored.node = none ∧ stored.quota = none
  else if request.kind = .attention ∨ request.kind = .ask then true
  else
    match request.node, request.quota with
    | some node, _ =>
      match stored.node, obs.resolveNodeState s node.orTerminal with
      | some kept, .ok seen => seen.target = kept.target ∧ node.orTerminal.state = kept.state
      | _, _ => false
    | none, some sent =>
      match stored.quota with
      | none => false
      | some kept => sent = (if sent.resetAt = none then { kept with resetAt := none } else kept)
    | none, none => false

def replayTaskWait (wait : TaskWait) : Except Err TaskWait := do
  refuseWhen (wait.attemptID ≠ request.attemptID ∨ wait.threadID ≠ request.threadID ∨
      wait.wake ≠ request.wake ∨ wait.maxDuration ≠ request.maxDuration ∨
      wait.workflowRunID ≠ request.workflowRunID ∨ wait.taskID ≠ request.taskID ∨
      wait.kind.orShell ≠ request.kind.orShell ∨
      sameAttentionRegistration wait.attention request.attention = false ∨
      sameAskRegistration wait.ask request.ask = false)
    { text := "task-bound wait request ID replay changed the registration"
      sentinel := some .taskWaitReplayChanged }
  refuseWhen (wait.conditionDigest ≠ "" ∧
      wait.conditionDigest ≠ request.conditionDigest obs.digests)
    { text := "request ID " ++ quote request.requestID ++ " is wait " ++ wait.id ++
        ", which waits for " ++ quote wait.condition ++
        "; register the new condition without --request-id, or with a different one, to add it to this park"
      sentinel := some .taskWaitReplayCondition }
  refuseWhen (wait.conditionDigest = "" ∧ s.sameLegacyCondition obs wait request = false)
    { text := "request ID " ++ quote request.requestID ++ " is wait " ++ wait.id ++
        ", registered before conditions were recorded, which waits for " ++ quote wait.condition ++
        ", and this registration cannot be shown to name the same condition; register it without " ++
        "--request-id, or with a different one, to add it to this park"
      sentinel := some .taskWaitReplayCondition }
  refuseWhen (wait.live = false)
    { text := wait.id ++ " settled as " ++
        quote ((wait.result.map fun r => r.outcome.text).getD "settled")
      sentinel := some .taskWaitReplaySettled }
  let attempt ← s.loadAttempt wait.attemptID
  refuseWhen (attempt.progress ≠ .waitingExternal)
    { text := "attempt " ++ quote attempt.id ++ " is " ++ quote attempt.progress.text
      sentinel := some .taskWaitReplayNotParked }
  .ok wait

def checkParkable : Except Err Unit := do
  refuseWhen (attempt.workflowRunID ≠ request.workflowRunID ∨ attempt.taskID ≠ request.taskID)
    { text := "task-bound wait names attempt " ++ quote request.attemptID ++ " of a different task" }
  refuseWhen (attempt.progress.terminal = true)
    { text := "(" ++ attempt.progress.text ++ "); task-bound waits are refused"
      sentinel := some .taskWaitTerminalAttempt }
  refuseWhen (attempt.turnLive = false)
    { text := "attempt " ++ quote attempt.id ++ " is " ++ quote attempt.progress.text ++ "/" ++
        quote attempt.control.text
      sentinel := some .taskWaitTurnNotLive }
  refuseWhen (attempt.threadID ≠ "" ∧ attempt.threadID ≠ request.threadID)
    { text := "attempt " ++ quote attempt.id ++ " runs on thread " ++ quote attempt.threadID ++
        ", not " ++ quote request.threadID
      sentinel := some .taskWaitForeignThread }
  refuseWhen (attempt.revision < request.issuedRevision)
    { text := "task-bound wait names attempt revision " ++ toString request.issuedRevision ++
        ", ahead of attempt " ++ quote attempt.id ++ " at revision " ++ toString attempt.revision }

def fenceAttention : Except Err TaskWaitRegistration :=
  match request.attention with
  | none => .ok request
  | some attention => do
    let assignment ← s.loadAssignment attention.assignmentID
    refuseWhen (attempt.assignmentID ≠ assignment.id ∨ assignment.attemptID ≠ attempt.id ∨
        assignment.state ≠ .claimed)
      { text := "attention request assignment no longer owns the live attempt" }
    .ok { request with
      attention := some
        { attention with
          assignmentEpoch := assignment.epoch
          workerID := assignment.workerID
          contentDigest := obs.digests.attention attention.kind attention.prompt
          decisionDeadline := now + request.maxDuration } }

def registeredWait (digest : String) (attempt : Attempt) (now : Time) : TaskWait :=
  { id := taskWaitID request.requestID
    workflowRunID := request.workflowRunID
    taskID := request.taskID
    attemptID := request.attemptID
    issuedRevision := request.issuedRevision
    threadID := request.threadID
    wake := request.wake
    maxDuration := request.maxDuration
    requestID := request.requestID
    conditionDigest := digest
    name := request.name
    condition := request.condition
    kind := request.kind.orShell
    orTimeout := request.orTimeout
    node := request.node
    quota := request.quota
    attention := request.attention
    ask := request.ask
    registeredRevision := attempt.revision + 1
    registeredAt := now
    deadline := now + request.maxDuration }

def parkedAttempt (waitID : String) (now : Time) : Attempt :=
  { attempt with
    revision := attempt.revision + 1
    progress := .waitingExternal
    control := .waitingExternal
    lastTurnOutcomeID := "turn-outcome:" ++ waitID
    lastTurnOutcomeMarker := .waiting
    completedAt := none
    updatedAt := now }

def parkTaskWait (digest : String) (attempt : Attempt)
    (now : Time) : Except Err (Store × TaskWait) := do
  let wait := registeredWait request digest attempt now
  let s ← s.saveAttemptFenced (parkedAttempt attempt wait.id now) attempt.revision
  .ok (s.saveTaskWait wait, wait)

def registerTaskWait : Except Err (Store × TaskWait) := do
  request.validate obs.digests
  refuseWhen (now = 0) { text := "task-bound wait registration needs a timestamp" }
  let digest := request.conditionDigest obs.digests
  match s.taskWaits.rows.find? fun w => w.requestID = request.requestID with
  | some wait =>
    let wait ← s.replayTaskWait obs request wait
    .ok (s, wait)
  | none =>
    let attempt ← s.loadAttempt request.attemptID
    checkParkable request attempt
    s.refuseMixedTaskWaitSet request
    let request ← s.validateStructuredRegistration obs request now
    let request ← s.fenceAttention obs request attempt now
    s.parkTaskWait request digest attempt now

/-! ## Settlement -/

variable (wait : TaskWait)

variable (ask : AskRequest) (answer : AskAnswer) (principal : String) (result : TaskWaitResult)
  (now : Time)

def settledWait : TaskWait :=
  { wait with
    result := some
      { result with
        observedAt := if result.observedAt = 0 then now else result.observedAt
        ranFor := if result.ranFor = 0 then now - wait.registeredAt else result.ranFor }
    settledAt := some now }

def settleTaskWaitTx : Store × TaskWait :=
  if wait.settled then (s, wait)
  else (s.saveTaskWait (settledWait wait result now), settledWait wait result now)

def settleTaskWait (id : String) (result : TaskWaitResult) (now : Time) :
    Except Err (Store × TaskWait) := do
  refuseWhen (id = "" ∨ result.outcome = .unset ∨ now = 0)
    { text := "task-bound wait settlement needs an ID, an outcome and a timestamp" }
  match s.taskWaits.get? id with
  | none => .error { text := "task-bound wait " ++ quote id ++ " is unknown" }
  | some wait =>
    refuseWhen (wait.kind = .attention)
      { text := "attention waits may only be settled by an authenticated attention decision" }
    refuseWhen (wait.kind = .ask ∧ result.outcome ≠ .cancelled)
      { text := "an ask is settled only by its answer, its deadline or a cancellation" }
    .ok (s.settleTaskWaitTx wait result now)

/-! ## Expiry -/

def expiredResult : TaskWaitResult :=
  { outcome := .timedOut
    exitCode := 2
    reason := "the wait exceeded its maximum duration of " ++ durationText wait.maxDuration
    ranFor := now - wait.registeredAt
    observedAt := now }

/-- What an expiring ask becomes: its declared default as the answer, or a timed-out result that
says there was none. The flag says the default was applied. -/
def applyAskDeadline : TaskWait × Bool :=
  let unanswered (reason : String) : TaskWait × Bool :=
    ({ wait with
        result := some { expiredResult wait now with reason := reason, fields := [("answer", "none")] } },
      false)
  if ask.requires = .approver then
    unanswered ("no approver answer before the deadline of " ++ durationText wait.maxDuration ++
      "; an approver ask times out unanswered")
  else if ask.onDeadline ≠ .default ∨ ask.default = [] then
    unanswered ("no answer before the deadline of " ++ durationText wait.maxDuration ++
      "; the ask was registered with --on-deadline fail")
  else
    let answer : AskAnswer :=
      { schema := askAnswerSchema, askID := wait.id, workflowRunID := wait.workflowRunID
        taskID := wait.taskID, question := ask.question, options := ask.default
        source := .deadlineDefault, answeredAt := now }
    ({ wait with
        askAnswer := some answer
        result := some
          { outcome := .met
            exitCode := 0
            reason := "no answer before the deadline of " ++ durationText wait.maxDuration ++
              "; the declared default applies"
            fields := [("answer", answer.summary), ("source", answer.source.text)]
            ranFor := now - wait.registeredAt
            observedAt := now } },
      true)

def expiredWait : TaskWait × Bool :=
  let timedOut := { wait with result := some (expiredResult wait now) }
  let (asked, answered) :=
    match wait.ask with
    | some ask => applyAskDeadline timedOut ask now
    | none => (timedOut, false)
  if answered then ({ asked with settledAt := some now }, false)
  else if wait.orTimeout then
    ({ asked with
        result := asked.result.map fun r =>
          { r with
            exitCode := 0
            reason := "the deadline of " ++ durationText wait.maxDuration ++
              " passed, which this wait treats as a normal outcome (--or-timeout)" }
        settledAt := some now }, false)
  else ({ asked with settledAt := some now }, true)

def expireTaskWait : Store × TaskWait :=
  let (expired, recorded) := expiredWait wait now
  let s := s.saveTaskWait expired
  if recorded then
    (s.recordTaskWaitEvent
      { id := "expiry:" ++ wait.id, kind := .expired, attemptID := wait.attemptID, waitID := wait.id
        threadID := wait.threadID, detail := (expired.result.map TaskWaitResult.reason).getD ""
        observedAt := now }, expired)
  else (s, expired)

def expireTaskWaits : Except Err (Store × List TaskWait) := do
  refuseWhen (now = 0) { text := "task-bound wait expiry needs a timestamp" }
  let due := s.taskWaits.rows.filter fun w => w.live ∧ ¬now < w.deadline
  .ok (due.foldl (fun (acc : Store × List TaskWait) w =>
    let (s, expired) := acc.1.expireTaskWait w now
    (s, acc.2 ++ [expired])) (s, []))

/-! ## Answers -/

def checkAnswerAuthority (approver : Bool) : Except Err Unit := do
  refuseWhen (ask.requires = .approver ∧ answer.source = .t3)
    { text := "an answer given in T3 is refused", sentinel := some .askApproverRequired }
  refuseWhen (ask.requires = .approver ∧ approver = false)
    { text := "answer it with a client configured as an approver (t3-steward --config " ++
        "<approver config> ask answer " ++ wait.id ++ " ...)"
      sentinel := some .askApproverRequired }
  refuseWhen (answer.source = .t3 ∧
      (ask.relayThread.all fun thread => thread = "" ∨ thread ≠ answer.threadID))
    { text := "a T3 answer must come from the ask's own relay thread; " ++ quote answer.threadID ++
        " is not it"
      sentinel := some .askAnswerRefused }

def sameAnswer (prior answer : AskAnswer) : Bool :=
  prior.source = answer.source ∧ prior.threadID = answer.threadID ∧
    trimSpace prior.freeText = trimSpace answer.freeText ∧ prior.options = answer.options

def recordedAnswer : AskAnswer :=
  { schema := askAnswerSchema, askID := wait.id, workflowRunID := wait.workflowRunID
    taskID := wait.taskID, question := ask.question, options := answer.options
    freeText := trimSpace answer.freeText, source := answer.source, answeredBy := principal
    threadID := answer.threadID, answeredAt := now }

def answeredResult (record : AskAnswer) (principal : String) : TaskWaitResult :=
  { outcome := .met
    exitCode := 0
    reason :=
      if record.source = .t3 then "answered in T3 on relay thread " ++ record.threadID
      else "answered from the CLI by " ++ principal
    fields := [("answer", record.summary), ("source", record.source.text)] }

/-- Record the answer to an ask and settle it. A late answer commits the expiry and is then refused,
so the inner result can be an error beside a committed store. -/
def answerAsk (approver : Bool) (now : Time) : Except Err (Store × Except Err TaskWait) := do
  refuseWhen (answer.askID = "" ∨ principal = "" ∨ now = 0)
    { text := "an ask answer needs the ask ID, an authenticated principal and a timestamp" }
  refuseWhen (answer.source ≠ .t3 ∧ answer.source ≠ .cli)
    { text := "an ask answer comes from t3 or cli, not " ++ quote answer.source.text }
  refuseWhen (answer.source = .cli ∧ answer.threadID ≠ "")
    { text := "a CLI answer names no thread" }
  match s.taskWaits.get? answer.askID with
  | none => .error { text := "ask " ++ quote answer.askID ++ " is unknown" }
  | some wait =>
    match wait.kind, wait.ask with
    | .ask, some ask =>
      checkAnswerAuthority wait ask answer approver
      match wait.askAnswer with
      | some prior =>
        if sameAnswer prior answer then .ok (s, .ok wait)
        else
          .error { text := prior.summary ++ ", from " ++ prior.source.text
                   sentinel := some .askAlreadyAnswered }
      | none =>
        if wait.live ∧ ¬now < wait.deadline then
          let (s, expired) := s.expireTaskWait wait now
          .ok (s, .error
            { text := "as " ++ ((expired.result.map fun r => r.outcome.text).getD "") ++
                ": the answer arrived after the deadline"
              sentinel := some .askSettled })
        else
          refuseWhen (wait.settled = true)
            { text := "as " ++ ((wait.result.map fun r => r.outcome.text).getD "settled")
              sentinel := some .askSettled }
          match ask.checkAnswer answer.options (trimSpace answer.freeText) with
          | .error e => .error { e with sentinel := some .askAnswerRefused }
          | .ok _ =>
            let attempt ← s.loadAttempt wait.attemptID
            refuseWhen (attempt.progress.terminal = true)
              { text := "the task that asked is no longer waiting: its attempt is " ++
                  attempt.progress.text
                sentinel := some .askAnswerRefused }
            let record := recordedAnswer wait ask answer principal now
            let (s, settled) := s.settleTaskWaitTx { wait with askAnswer := some record }
              (answeredResult record principal) now
            .ok (s, .ok settled)
    | kind, _ =>
      .error { text := "wait " ++ quote wait.id ++ " is a " ++ kind.orShell.text ++
        " wait, not an ask" }

/-! ## Reads -/

/-- The attempts parked on a live wait, each with the first of its live waits by identity. -/
def liveTaskWaitAttempts : List (String × String) :=
  ((s.taskWaits.rows.filter TaskWait.live).map TaskWait.attemptID).dedup.filterMap fun id =>
    match s.attempts.get? id, s.taskWaits.rows.find? fun w => w.live ∧ w.attemptID = id with
    | some attempt, some wait =>
      if attempt.progress = .waitingExternal then some (id, wait.id) else none
    | _, _ => none

/-! ## What the transactions write -/

section

variable {s s' : Store} {obs : WaitObservers} {request : TaskWaitRegistration} {now : Time}

variable {request' : TaskWaitRegistration} {attempt : Attempt}

theorem saveAttemptFenced_ok {expected : Int} (h : s.saveAttemptFenced attempt expected = .ok s') :
    (∃ current, s.attempts.get? attempt.id = some current ∧ current.revision = expected) ∧
      s' = { s with attempts := s.attempts.put attempt } := by
  unfold saveAttemptFenced at h
  split at h
  · rename_i written hwrite
    cases h
    exact updateAttempt_ok hwrite
  · split_ifs at h

/-- The fields of a request that identify the park. -/
def SamePark (request request' : TaskWaitRegistration) : Prop :=
  request'.requestID = request.requestID ∧ request'.attemptID = request.attemptID

theorem validateNodeRegistration_park {condition : NodeWaitCondition}
    (h : s.validateNodeRegistration obs request condition = .ok request') :
    SamePark request request' := by
  obtain ⟨seen, -, h⟩ := of_bind h
  replace h := past_guard h
  replace h := past_guard h
  cases h
  exact ⟨rfl, rfl⟩

theorem validateQuotaRegistration_park {condition : QuotaWaitCondition}
    (h : s.validateQuotaRegistration obs request condition now = .ok request') :
    SamePark request request' := by
  obtain ⟨condition', -, h⟩ := of_bind h
  obtain ⟨seen, -, h⟩ := of_bind h
  replace h := past_guard h
  cases h
  exact ⟨rfl, rfl⟩

theorem structuredCondition_park (h : s.structuredCondition obs request now = .ok request') :
    SamePark request request' := by
  unfold structuredCondition at h
  split at h
  · exact validateNodeRegistration_park h
  · cases h
    exact ⟨rfl, rfl⟩
  · cases h
    exact ⟨rfl, rfl⟩
  · exact validateQuotaRegistration_park h
  · cases h

theorem validateStructuredRegistration_park
    (h : s.validateStructuredRegistration obs request now = .ok request') :
    SamePark request request' := by
  unfold validateStructuredRegistration at h
  split_ifs at h
  · obtain ⟨checked, hchecked, h⟩ := of_bind h
    have hpark := structuredCondition_park hchecked
    cases h
    exact hpark
  · cases h
    exact ⟨rfl, rfl⟩

theorem fenceAttention_park (h : s.fenceAttention obs request attempt now = .ok request') :
    SamePark request request' := by
  unfold fenceAttention at h
  split at h
  · cases h
    exact ⟨rfl, rfl⟩
  · obtain ⟨assignment, -, h⟩ := of_bind h
    replace h := past_guard h
    cases h
    exact ⟨rfl, rfl⟩

theorem checkParkable_ok {u : Unit} (h : checkParkable request attempt = .ok u) :
    attempt.progress.terminal = false ∧ attempt.turnLive = true := by
  replace h := past_guard h
  obtain ⟨hterminal, h⟩ := of_guard h
  obtain ⟨hlive, -⟩ := of_guard h
  exact ⟨by simpa using hterminal, by simpa using hlive⟩

/-- What a registration that parks writes: one new wait under a request seen for the first time,
and its attempt parked on it at the next revision. -/
structure Parks (s s' : Store) (requestID attemptID : String) : Prop where
  fresh : ∀ w ∈ s.taskWaits.rows, w.requestID ≠ requestID
  writes : ∃ attempt wait now, s.attempts.get? attemptID = some attempt ∧
    attempt.progress.terminal = false ∧
    wait.id = taskWaitID requestID ∧ wait.requestID = requestID ∧ wait.attemptID = attemptID ∧
    wait.settledAt = none ∧ wait.wokenAt = none ∧
    s' = { s with
      attempts := s.attempts.put (parkedAttempt attempt wait.id now)
      taskWaits := s.taskWaits.put wait }

theorem replayTaskWait_ok {wait wait' : TaskWait}
    (h : s.replayTaskWait obs request wait = .ok wait') :
    wait' = wait ∧ sameAskRegistration wait.ask request.ask = true ∧
      (wait.conditionDigest ≠ "" → wait.conditionDigest = request.conditionDigest obs.digests) ∧
      (wait.conditionDigest = "" → s.sameLegacyCondition obs wait request = true) := by
  obtain ⟨hsame, h⟩ := of_guard h
  obtain ⟨hdigest, h⟩ := of_guard h
  obtain ⟨hlegacy, h⟩ := of_guard h
  replace h := past_guard h
  obtain ⟨attempt, -, h⟩ := of_bind h
  cases past_guard h
  grind

theorem registerTaskWait_ok {wait : TaskWait}
    (h : s.registerTaskWait obs request now = .ok (s', wait)) :
    (s' = s ∧ request.validate obs.digests = .ok () ∧ s.replayTaskWait obs request wait = .ok wait) ∨
      wait.requestID = request.requestID ∧ s.Parks s' request.requestID request.attemptID := by
  obtain ⟨_, hvalid, h⟩ := of_bind h
  replace h := past_guard h
  split at h
  · obtain ⟨replayed, hreplay, h⟩ := of_bind h
    cases h
    obtain ⟨rfl, -⟩ := replayTaskWait_ok hreplay
    exact .inl ⟨rfl, hvalid, hreplay⟩
  · rename_i hnone
    obtain ⟨attempt, hattempt, h⟩ := of_bind h
    obtain ⟨_, hparkable, h⟩ := of_bind h
    obtain ⟨_, -, h⟩ := of_bind h
    obtain ⟨checked, hchecked, h⟩ := of_bind h
    obtain ⟨fenced, hfenced, h⟩ := of_bind h
    have hpark := validateStructuredRegistration_park hchecked
    have hpark' := fenceAttention_park hfenced
    obtain ⟨written, hwrite, h⟩ := of_bind h
    cases h
    obtain ⟨-, rfl⟩ := saveAttemptFenced_ok hwrite
    refine .inr ⟨hpark'.1.trans hpark.1, fun w hw heq => ?_, attempt, _, now,
      loadAttempt_ok hattempt, (checkParkable_ok hparkable).1, ?_, ?_, ?_, rfl, rfl, rfl⟩
    · have := List.find?_eq_none.1 hnone w hw
      simp [heq] at this
    · rw [← hpark.1, ← hpark'.1]
      rfl
    · exact hpark'.1.trans hpark.1
    · exact hpark'.2.trans hpark.2

end

/-- A wait that got an outcome: everything that identifies it and its wake is as it was. -/
structure SettledFrom (w w' : TaskWait) : Prop where
  id : w'.id = w.id
  requestID : w'.requestID = w.requestID
  attemptID : w'.attemptID = w.attemptID
  wokenAt : w'.wokenAt = w.wokenAt
  wakeRevision : w'.wakeRevision = w.wakeRevision
  deliveryID : w'.deliveryID = w.deliveryID

/-- Some live waits got an outcome, each in the way `R` says. -/
def SettlesLive (R : TaskWait → TaskWait → Prop) (s s' : Store) : Prop :=
  s'.attempts = s.attempts ∧ ∃ (ws : List TaskWait) (f : TaskWait → TaskWait),
    (∀ w ∈ ws, w ∈ s.taskWaits.rows ∧ w.live = true ∧ SettledFrom w (f w) ∧ R w (f w)) ∧
    s'.taskWaits = s.taskWaits.putAll (ws.map f)

section

variable {R : TaskWait → TaskWait → Prop}

theorem SettlesLive.refl (s : Store) : SettlesLive R s s :=
  ⟨rfl, [], id, by simp, rfl⟩

theorem SettlesLive.one {s s' : Store} {w w' : TaskWait} (hw : w ∈ s.taskWaits.rows)
    (hlive : w.live = true) (hfrom : SettledFrom w w') (hR : R w w')
    (hattempts : s'.attempts = s.attempts)
    (hwaits : s'.taskWaits = s.taskWaits.put w') : SettlesLive R s s' :=
  ⟨hattempts, [w], fun _ => w', by simp [hw, hlive, hfrom, hR], hwaits⟩

theorem recordTaskWaitEvent_eq (s : Store) (event : TaskWaitReconciliation) :
    ∃ events, s.recordTaskWaitEvent event = { s with taskWaitEvents := events } := by
  unfold recordTaskWaitEvent
  split
  · exact ⟨s.taskWaitEvents, rfl⟩
  · exact ⟨_, rfl⟩

@[simp] theorem recordTaskWaitEvent_attempts (s : Store) (event : TaskWaitReconciliation) :
    (s.recordTaskWaitEvent event).attempts = s.attempts := by
  unfold recordTaskWaitEvent
  split <;> rfl

@[simp] theorem recordTaskWaitEvent_taskWaits (s : Store) (event : TaskWaitReconciliation) :
    (s.recordTaskWaitEvent event).taskWaits = s.taskWaits := by
  unfold recordTaskWaitEvent
  split <;> rfl

theorem settleTaskWaitTx_settles {s : Store} {w wait : TaskWait} (hw : w ∈ s.taskWaits.rows)
    (hfrom : SettledFrom w wait) (hsame : wait.settledAt = w.settledAt) (result : TaskWaitResult)
    (now : Time) (hR : R w (settledWait wait result now)) :
    SettlesLive R s (s.settleTaskWaitTx wait result now).1 := by
  unfold settleTaskWaitTx
  split_ifs with hsettled
  · exact SettlesLive.refl s
  · have hlive : w.live = true := by
      simp only [TaskWait.settled, Bool.not_eq_true, Option.isSome_eq_false_iff] at hsettled
      simpa [TaskWait.live, ← hsame] using hsettled
    have hsettled : SettledFrom w (settledWait wait result now) := { hfrom with }
    exact SettlesLive.one hw hlive hsettled hR rfl rfl

theorem settleTaskWait_ok {s s' : Store} {id : String} {result : TaskWaitResult} {now : Time}
    {wait : TaskWait} (h : s.settleTaskWait id result now = .ok (s', wait)) :
    SettlesLive (fun _ _ => True) s s' := by
  replace h := past_guard h
  split at h
  · cases h
  · rename_i row hrow
    replace h := past_guard h
    replace h := past_guard h
    have hsettles := settleTaskWaitTx_settles (R := fun _ _ => True) (Table.mem_of_get? hrow)
      ⟨rfl, rfl, rfl, rfl, rfl, rfl⟩ rfl result now trivial
    rwa [ok.inj h] at hsettles

end

end Store

end Steward
