import Steward.Watchdog.World
import Steward.Worker.Reconcile

/-!
# The worker among its journal, the host and T3

The journal and the registry of the process, the host's quota state, what was asked of the driver
and reported, and the moves of the surroundings: time passes, calls fail, the driver answers
anything, and the process ends. A history is a list of operations, each with the moves that answer
its calls; one with fewer moves than calls ends there.
-/

namespace Steward.Worker

/-- A driver call that prepares a workspace, creates a thread or sends a thread a message that
starts a turn. -/
def DriverCall.starts : DriverCall → Bool
  | .prepare | .createThread _ | .warn _ | .checkpoint _ | .requestQuotaDrain _ | .resume .. => true
  | .resumeAfterProviderError .. | .nudgeLiveCommands _ => true
  | _ => false

/-- A turn the worker starts on its own account, rather than for a throttle command. -/
def DriverCall.ownTurn : DriverCall → Bool
  | .createThread _ | .requestQuotaDrain _ | .resume _ true => true
  | .resumeAfterProviderError .. | .nudgeLiveCommands _ => true
  | _ => false

structure Started where
  assignmentID : String
  call : DriverCall
  record : Option AttemptRecord

/-- The journal, with what the process remembers: the collections it runs, and that the failures of
an earlier release are redacted. -/
structure State where
  journal : Journal := {}
  flights : List FlightKey := []
  failuresRedacted : Bool := false

namespace State

variable (s : State)

def record (id : String) : Option AttemptRecord := s.journal.attempts.get? id

def next : (c : Call) → c.Reply → State
  | .update id moves change, some _ =>
    { s with journal := ((s.journal.update id moves change).map Prod.snd).getD s.journal }
  | .remove id gone, true => if (s.record id).any gone then { s with journal := s.journal.remove id } else s
  | .applyPolicy policy, true => { s with journal := { s.journal with providerResumePolicy := policy } }
  | .applyParked request now, true => { s with journal := s.journal.applyParked request now }
  | .report _, true => { s with journal := { s.journal with sequence := s.journal.sequence + 1 } }
  | .setFailuresRedacted, _ => { s with failuresRedacted := true }
  | .register key, _ => { s with flights := key :: s.flights }
  | .release key, _ => { s with flights := s.flights.filter fun k => k ≠ key }
  | _, _ => s

end State

/-- The surroundings at one call: the clock, whether a journal call fails, what the driver and the
secret scan answer, the collections that have ended, and the host. -/
structure Moment where
  clock : Time := 0
  fails : Bool := false
  driver : (c : DriverCall) → c.Reply
  redacted : String → Option String := some
  collected : FlightKey → Option CollectOutcome := fun _ => none
  host : Watchdog.Moment := {}

/-- The worker and its surroundings. Starts and reports are in the order they were made. -/
structure World where
  state : State := {}
  host : Watchdog.World := {}
  started : List Started := []
  reports : List WorkerAssignmentObservation := []

variable (cfg : Config)

namespace World

variable (w : World) (m : Moment)

def journalReply {α : Type} (a : α) : Option α := if m.fails then none else some a

def reply : (c : Call) → c.Reply
  | .now => m.clock
  | .sequence => journalReply m w.state.journal.sequence
  | .attempts => journalReply m w.state.journal.attempts.rows
  | .load id => journalReply m (w.state.record id)
  | .update id moves change =>
    if m.fails then none else (w.state.journal.update id moves change).map Prod.fst
  | .remove .. | .applyPolicy _ | .applyParked .. | .report _ => !m.fails
  | .statement =>
    journalReply m
      { reported := w.state.journal.parkedReported, observedAt := w.state.journal.parkedObservedAt
        acknowledgedSequence := w.state.journal.parkedAcknowledgedSequence
        parked := w.state.journal.parked }
  | .providerResume => w.state.journal.providerResumePolicy
  | .failuresRedacted => w.state.failuresRedacted
  | .redact _ text => m.redacted text
  | .registered key => decide (key ∈ w.state.flights)
  | .join key | .launch key => m.collected key
  | .setFailuresRedacted | .register _ | .release _ => ()
  | .host c => (Watchdog.answer cfg.watchdog w.host m.host c).1
  | .driver _ _ c => m.driver c

def nextHost : Call → Watchdog.World
  | .host c => (Watchdog.answer cfg.watchdog w.host m.host c).2
  | _ => w.host

def nextStarted : Call → List Started
  | .driver id _ c =>
    if c.starts then w.started ++ [{ assignmentID := id, call := c, record := w.state.record id }]
    else w.started
  | _ => w.started

def nextReports : (c : Call) → c.Reply → List WorkerAssignmentObservation
  | .report now, true =>
    w.reports ++ w.state.journal.attempts.rows.map fun r => observation cfg.digest r now
  | _, _ => w.reports

end World

def answer (w : World) (m : Moment) (c : Call) : c.Reply × World :=
  (w.reply cfg m c,
    { state := w.state.next c (w.reply cfg m c)
      host := w.nextHost cfg m c
      started := w.nextStarted c
      reports := w.nextReports cfg c (w.reply cfg m c) })

/-- What the worker does. Between its operations it can be started anew, and the host's quota state
can change. -/
inductive Op
  | command (command : WorkerCommand) (supplied : ExecutionPackageManifest)
  | throttle (command : ThrottleCommand)
  | statement (request : SnapshotRequest)
  | pass
  | snapshot
  | restart
  | host (world : Watchdog.World)

def effects {α : Type} (t : Task α) : Process Call Call.Reply Unit :=
  Process.andThen t fun _ => .done ()

def Op.program : Op → Process Call Call.Reply Unit
  | .command c supplied => effects (deliverCommand cfg c supplied)
  | .throttle c => effects (deliverThrottle cfg c)
  | .statement request => effects (applyParkedAssignments request)
  | .pass => effects (reconcilePass cfg)
  | .snapshot => effects (Worker.snapshot cfg)
  | .restart | .host _ => .done ()

structure Step where
  op : Op
  moments : List Moment := []

def workerStep (w : World) (s : Step) : World :=
  match s.op with
  | .restart => { w with state := { w.state with flights := [], failuresRedacted := false } }
  | .host world => { w with host := world }
  | op => ((op.program cfg).run (answer cfg) w s.moments).2

/-! ## What the worker may rely on -/

def State.Faithful (s : State) : (c : Call) → c.Reply → Prop
  | .attempts, reply => ∀ rows, reply = some rows → rows = s.journal.attempts.rows
  | .load id, reply => ∀ r, reply = some r → r = s.record id
  | .update id moves change, reply =>
    ∀ updated, reply = some updated → (s.journal.update id moves change).map Prod.fst = some updated
  | .registered key, reply => reply = decide (key ∈ s.flights)
  | _, _ => True

theorem reply_faithful (w : World) (m : Moment) (c : Call) :
    w.state.Faithful c (w.reply cfg m c) := by
  cases c with
  | attempts | load =>
    intro stored h
    simp only [World.reply, World.journalReply] at h
    split at h
    · cases h
    · exact (Option.some.inj h).symm
  | update id moves change =>
    intro updated h
    simp only [World.reply] at h
    split at h
    · cases h
    · exact h
  | registered key => rfl
  | _ => trivial

/-- What a task may do at the state it has reached, when the surroundings answer like this. -/
def following (allows : State → Call → Prop) (answers : (c : Call) → c.Reply → Prop) :
    Process.Contract State Call Call.Reply where
  next := State.next
  allows := allows
  expects s c reply := s.Faithful c reply ∧ answers c reply

/-- What a task may do at the state it has reached, whatever the surroundings answer. -/
abbrev tracked (allows : State → Call → Prop) : Process.Contract State Call Call.Reply :=
  following allows fun _ _ => True

end Steward.Worker
