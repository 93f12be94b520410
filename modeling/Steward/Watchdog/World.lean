import Steward.Lib.Runs
import Steward.Lib.Table
import Steward.Watchdog.Daemon

/-!
# The watchdog among its store and T3

The state database of the host, what the watchdog has sent, and the moves of its surroundings: time
passes, threads come and go, calls fail, and the process ends. A history is a list of operations,
each with the moves that answer its calls; one with fewer moves than calls ends there.
-/

namespace Steward.Watchdog

structure Notice where
  (threadID bucket epoch : String := "")
  kind : ActionKind := .warn
  noticeAt : Time := 0
deriving DecidableEq

inductive Message
  | notice (kind : ActionKind) (cause : BucketKey)
  | stop (cause : BucketKey)
  | resume
deriving DecidableEq

structure Sent where
  threadID : String
  message : Message
  sentAt : Time
deriving DecidableEq

/-- The tables of the state database the watchdog uses, and the messages that reached T3. Intents
are in the order they were last saved. -/
structure World where
  buckets : Table (fun st : BucketState => st.key.text) := .empty
  notices : List Notice := []
  intents : List ResumeIntent := []
  seen : List String := []
  sent : List Sent := []

/-- The surroundings at one call: the clock, the listed threads, what the worker journal says, and
whether the call fails. A failed control call may have taken effect; `expired` ends the time to
verify a stop. -/
structure Moment where
  clock : Time := 0
  threads : List Thread := []
  owners : Option ThreadOwners := some {}
  (fails applied expired : Bool := false)

namespace World

variable (w : World)

def saveBucket (st : BucketState) : World := { w with buckets := w.buckets.put st }

def threadNotices (bucket : BucketKey) (epoch : String) (kind : ActionKind) : List Notice :=
  w.notices.filter fun n => n.bucket = bucket.text ∧ n.epoch = epoch ∧ n.kind = kind

def noticeFresh (threadID : String) (bucket : BucketKey) (epoch : String) (kind : ActionKind) :
    Bool :=
  (w.threadNotices bucket epoch kind).all fun n => n.threadID ≠ threadID

def intentOf (threadID : String) : Option ResumeIntent :=
  w.intents.find? fun i => i.threadID = threadID

def saveIntent (intent : ResumeIntent) : World :=
  { w with intents := (w.intents.filter fun i => i.threadID ≠ intent.threadID) ++ [intent] }

def send (threadID : String) (message : Message) (sentAt : Time) : World :=
  { w with sent := w.sent ++ [{ threadID := threadID, message := message, sentAt := sentAt }] }

end World

variable (cfg : Config)

def deliver (w : World) (m : Moment) (threadID : String) (message : Message) : Bool × World :=
  if cfg.dryRun then (true, w)
  else if m.fails then (false, if m.applied then w.send threadID message m.clock else w)
  else (true, w.send threadID message m.clock)

def answer (w : World) (m : Moment) : (c : Call) → c.Reply × World
  | .now => (m.clock, w)
  | .owners => (m.owners, w)
  | .markEventSeen eventID _ =>
    if m.fails then (none, w)
    else if eventID = "" then (some true, w)
    else if eventID ∈ w.seen then (some false, w)
    else (some true, { w with seen := eventID :: w.seen })
  | .loadBucket key =>
    if m.fails then (none, w) else (some ((w.buckets.get? key.text).getD {}), w)
  | .saveBucket st => if m.fails then (false, w) else (true, w.saveBucket st)
  | .listBuckets => if m.fails then (none, w) else (some w.buckets.rows, w)
  | .markThreadNotice threadID bucket epoch kind noticeAt =>
    if m.fails then (none, w)
    else if w.noticeFresh threadID bucket epoch kind then
      (some true,
        { w with
          notices := w.notices ++
            [{ threadID := threadID, bucket := bucket.text, epoch := epoch, kind := kind
               noticeAt := noticeAt }] })
    else (some false, w)
  | .threadNotices bucket epoch kind =>
    if m.fails then (none, w)
    else (some ((w.threadNotices bucket epoch kind).map fun n => (n.threadID, n.noticeAt)), w)
  | .clearThreadNotices bucket =>
    if m.fails then (false, w)
    else (true, { w with notices := w.notices.filter fun n => n.bucket ≠ bucket.text })
  | .loadResumeIntent threadID => if m.fails then (none, w) else (some (w.intentOf threadID), w)
  | .saveResumeIntent intent => if m.fails then (false, w) else (true, w.saveIntent intent)
  | .listResumeIntents =>
    if m.fails then (none, w) else (some (w.intents.filter ResumeIntent.considered), w)
  | .recordAction .. => (!m.fails, w)
  | .listThreads => if m.fails then (none, w) else (some m.threads, w)
  | .verifyDeadline => (m.expired, w)
  | .warnThread thread kind _ cause => deliver cfg w m thread.id (.notice kind cause)
  | .stopThread thread _ cause => deliver cfg w m thread.id (.stop cause)
  | .resumeThread thread _ => deliver cfg w m thread.id .resume

def Call.message : Call → Option (String × Message)
  | .warnThread thread kind _ cause => some (thread.id, .notice kind cause)
  | .stopThread thread _ cause => some (thread.id, .stop cause)
  | .resumeThread thread _ => some (thread.id, .resume)
  | _ => none

theorem answer_sent (w : World) (m : Moment) (c : Call) : (answer cfg w m c).2.sent = w.sent ∨
      ∃ threadID message, c.message = some (threadID, message) ∧ (answer cfg w m c).2.sent =
          w.sent ++ [{ threadID := threadID, message := message, sentAt := m.clock }] := by
  have hdeliver : ∀ threadID message, (deliver cfg w m threadID message).2.sent = w.sent ∨
      (deliver cfg w m threadID message).2.sent =
        w.sent ++ [{ threadID := threadID, message := message, sentAt := m.clock }] := by
    intro threadID message
    unfold deliver
    split_ifs
    · exact .inl rfl
    · exact .inr rfl
    · exact .inl rfl
    · exact .inr rfl
  cases c with
  | warnThread thread kind text cause =>
    exact (hdeliver thread.id (.notice kind cause)).imp_right fun h => ⟨_, _, rfl, h⟩
  | stopThread thread mode cause =>
    exact (hdeliver thread.id (.stop cause)).imp_right fun h => ⟨_, _, rfl, h⟩
  | resumeThread thread prompt => exact (hdeliver thread.id .resume).imp_right fun h => ⟨_, _, rfl, h⟩
  | now | owners | recordAction | verifyDeadline => exact .inl rfl
  | _ =>
    refine .inl ?_
    dsimp only [answer]
    split_ifs <;> rfl

structure Step where
  op : Op
  moments : List Moment

structure Host where
  world : World := {}
  memory : Memory := {}

/-- Run one operation. A process that ends in the middle forgets what it remembered. -/
def hostStep (h : Host) (s : Step) : Host :=
  let outcome := (s.op.program cfg h.memory).run (answer cfg) h.world s.moments
  { world := outcome.2, memory := outcome.1.getD {} }

end Steward.Watchdog
