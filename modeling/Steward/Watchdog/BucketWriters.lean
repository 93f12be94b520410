import Steward.Lib.Interleaving
import Steward.Watchdog.Calls
import Steward.Watchdog.QuotaGuard
import Steward.Watchdog.World

/-!
# The writers of the buckets

The watchdog, the worker's quota guard and the operator's rearm each read a whole bucket, decide,
and write it back, in separate statements on one database. What was saved between a writer's read
and its write is lost, observation time and phase included; when every writer still finds what it
read, nothing is.
-/

namespace Steward.Watchdog

open Process Table Option List

variable (cfg : Config)

/-- What a process of the host can be started on: an operation of the watchdog, a worker's question
whether an attempt may resume, or an operator's rearm. -/
inductive BucketOp
  | watchdog (memory : Memory) (op : Op)
  | resume (pause : PauseRequest) (route : ProviderRoute)
  | rearm (req : RearmRequest) (now : Time)

def BucketOp.program : BucketOp → Program Unit
  | .watchdog memory op => do
    let _ ← op.program cfg memory
    pure ()
  | .resume pause route => do
    let _ ← resumeAllowed cfg pause route
    pure ()
  | .rearm req now => do
    let _ ← rearmBucket cfg req now
    pure ()

/-! ## What a writer keeps -/

def Follows (loaded saved : BucketState) : Prop :=
  loaded.observedAt ≠ 0 → loaded.observedAt ≤ saved.observedAt

/-- The contract of a writer. Its note holds what it read of each bucket, the latest first; it saves
a bucket it read and keeps the observation time. It relies on a listing with one record for each key
and on a load by key. -/
def writerContract : Contract (List (String × BucketState)) Call Call.Reply where
  next loaded c r :=
    match c with
    | .loadBucket key =>
      match (r : Option BucketState) with
      | none => loaded
      | some st => (key.text, st) :: loaded
    | .listBuckets =>
      ((r : Option (List BucketState)).getD []).map (fun st => (st.key.text, st)) ++ loaded
    | _ => loaded
  allows loaded c :=
    match c with
    | .saveBucket st => ∃ read, loaded.lookup st.key.text = some read ∧ Follows read st
    | _ => True
  expects _ c r :=
    match c with
    | .loadBucket key => ∀ st, (r : Option BucketState) = some st → st.key = {} → key ≠ {} →
        st.observedAt = 0
    | .listBuckets => (((r : Option (List BucketState)).getD []).map fun st => st.key.text).Nodup
    | _ => True

def Call.aside : Call → Prop
  | .loadBucket .. | .saveBucket .. | .listBuckets => False
  | _ => True

instance : Background Call.aside := ⟨fun c hc => by
  cases c with
  | loadBucket | saveBucket | listBuckets => cases hc
  | _ => trivial⟩

variable (loaded : List (String × BucketState))

variable {cfg}

theorem actions_writer (state : BucketState) (actions : List Action) :
    (each (execute cfg state) actions).Meets writerContract (fun after _ => after = loaded)
    loaded := by
  have hacts : ∀ bucket, ActsFor Call.aside bucket := fun _ => ⟨fun _ _ _ => trivial, fun _ _ => trivial⟩
  refine (only_each fun a _ => execute_only (hacts a.bucket) state).meets_invariant ?_ ?_ rfl
  · rintro after c rfl hc
    cases c with
    | saveBucket state => exact hc.elim
    | _ => trivial
  · rintro after c r rfl hc _
    cases c with
    | loadBucket | listBuckets => exact hc.elim
    | _ => rfl

/-! ## The policy keeps the observation time -/

variable (t : Thresholds)

theorem rearms_key (snap : QuotaSnapshot) (state : BucketState) (now : Time) :
    (t.rearms snap state now).1.key = state.key := by
  unfold Thresholds.rearms
  split_ifs <;> rfl

theorem escalate_key (snap : QuotaSnapshot) (want : Phase) (state : BucketState) (now : Time) :
    (t.escalate snap want state now).1.key = state.key := by
  unfold Thresholds.escalate
  dsimp only
  split_ifs <;> rfl

variable {snap : QuotaSnapshot} {st prev : BucketState} {now : Time}
  {loaded : List (String × BucketState)} {states : List BucketState}

theorem stateFor_key (h : Thresholds.refuses snap (Thresholds.stateFor snap prev) now = false) :
    (Thresholds.stateFor snap prev).key = snap.key := by
  simp only [Thresholds.refuses, decide_eq_false_iff_not, not_or, not_not] at h
  exact h.1.symm

theorem evaluate_refused (h : Thresholds.refuses snap (Thresholds.stateFor snap prev) now = true) :
    t.evaluate snap prev now = { state := prev, ignored := true } :=
  if_pos h

theorem evaluate_accepted {t : Thresholds}
    (h : Thresholds.refuses snap (Thresholds.stateFor snap prev) now = false) :
    t.evaluate snap prev now =
      let judged := t.judged snap (Thresholds.stateFor snap prev) now
      let raised := t.escalate snap judged.2 judged.1 now
      { state := t.recorded snap raised.1 now
        actions := (t.rearms snap (Thresholds.stateFor snap prev) now).2 ++ raised.2 } := by
  unfold Thresholds.evaluate
  rw [if_neg (by simp [h])]

theorem evaluate_accepts {t : Thresholds} (h : (t.evaluate snap prev now).ignored = false)
    (hprev : prev.key = {} → prev.observedAt = 0) :
    (t.evaluate snap prev now).state.key = snap.key ∧
      Follows prev (t.evaluate snap prev now).state := by
  by_cases hrefuses : Thresholds.refuses snap (Thresholds.stateFor snap prev) now = true
  · rw [evaluate_refused t hrefuses] at h
    cases h
  · rw [Bool.not_eq_true] at hrefuses
    rw [evaluate_accepted hrefuses]
    constructor
    · have hkey : (t.judged snap (Thresholds.stateFor snap prev) now).1.key =
          (Thresholds.stateFor snap prev).key := rearms_key t snap _ now
      change (t.escalate _ _ _ _).1.key = snap.key
      rw [escalate_key, hkey, stateFor_key hrefuses]
    · intro hobserved
      have hknown : Thresholds.stateFor snap prev = prev :=
        if_neg fun hkey => hobserved (hprev hkey)
      rw [hknown] at hrefuses
      simp only [Thresholds.refuses, decide_eq_false_iff_not, not_or, not_and, not_lt] at hrefuses
      exact hrefuses.2.2.1 hobserved

theorem rederive_keeps (prev : BucketState) (now : Time) :
    (t.rederive prev now).state.key = prev.key ∧ Follows prev (t.rederive prev now).state := by
  unfold Thresholds.rederive
  dsimp only
  split
  · exact ⟨rfl, fun _ => le_rfl⟩
  · exact ⟨rfl, fun _ => le_rfl⟩

theorem tick_keeps (prev : BucketState) (now : Time) :
    (t.tick prev now).state.key = prev.key ∧ Follows prev (t.tick prev now).state := by
  unfold Thresholds.tick
  split_ifs
  all_goals exact ⟨rfl, fun _ => le_rfl⟩

/-! ## Every program keeps the contract -/

theorem save_writer (read : BucketState) {state : BucketState}
    (hread : loaded.lookup state.key.text = some read) (hfollows : Follows read state)
    {next : Bool → Program Unit}
    (hnext : ∀ saved, (next saved).Meets writerContract (fun after _ => after = loaded) loaded) :
    ((ask (.saveBucket state)).andThen next).Meets writerContract (fun after _ => after = loaded)
      loaded :=
  meets_request_andThen ⟨read, hread, hfollows⟩ fun saved _ => hnext saved

theorem handleSnapshot_writer (hsnap : snap.key ≠ {}) :
    (handleSnapshot cfg snap).Meets writerContract (fun _ _ => True) loaded := by
  refine meets_request_andThen trivial fun now _ => ?_
  dsimp only
  split
  · trivial
  · refine meets_request_andThen trivial fun fresh _ => ?_
    split
    · trivial
    · refine meets_request_andThen trivial fun prev hprev => ?_
      cases prev with
      | none => trivial
      | some prev =>
        dsimp only
        split
        · trivial
        · rename_i haccepted
          rw [Bool.not_eq_true] at haccepted
          have hempty : prev.key = {} → prev.observedAt = 0 := fun hkey =>
            hprev prev rfl hkey (by unfold Config.relabelled; split <;> exact hsnap)
          obtain ⟨hkey, hfollows⟩ := evaluate_accepts haccepted hempty
          refine (save_writer prev ?_ hfollows fun saved => ?_).mono fun _ _ _ => trivial
          · rw [hkey]
            exact lookup_cons_self
          · split
            · exact rfl
            · exact actions_writer _ _ _

theorem lookup_listed (hnodup : (states.map fun st => st.key.text).Nodup) (hst : st ∈ states)
    (loaded : List (String × BucketState)) :
    (states.map (fun st => (st.key.text, st)) ++ loaded).lookup st.key.text = some st := by
  induction states with
  | nil => cases hst
  | cons first rest ih =>
    rw [map_cons, nodup_cons] at hnodup
    rcases mem_cons.1 hst with rfl | hrest
    · exact lookup_cons_self
    · have hne : st.key.text ≠ first.key.text := fun heq =>
        hnodup.1 (heq ▸ mem_map_of_mem hrest)
      change (((first.key.text, first) :: (rest.map _ ++ loaded)).lookup st.key.text) = _
      rw [lookup_cons, beq_false_of_ne hne]
      exact ih hnodup.2 hrest

theorem each_writer {body : BucketState → Program Unit}
    (hbody : ∀ st ∈ states, (body st).Meets writerContract (fun after _ => after = loaded) loaded) :
    (each body states).Meets writerContract (fun _ _ => True) loaded := by
  refine (meets_fold (I := fun after _ => after = loaded) rfl fun st hst after _ hafter => ?_).mono
    fun _ _ _ => trivial
  rw [hafter]
  exact hbody st hst

theorem rederive_writer : (rederive cfg).Meets writerContract (fun _ _ => True) loaded := by
  refine meets_request_andThen trivial fun states hstates => ?_
  cases states with
  | none => trivial
  | some states =>
    refine meets_request_andThen trivial fun now _ => each_writer fun st hst => ?_
    dsimp only
    split
    · exact rfl
    · obtain ⟨hkey, hfollows⟩ := rederive_keeps (cfg.engineOf st) st now
      refine save_writer st ?_ hfollows fun saved => ?_
      · rw [hkey]
        exact lookup_listed hstates hst loaded
      · split
        · exact rfl
        · exact actions_writer _ _ _

theorem tickBucket_writer (hread : loaded.lookup st.key.text = some st) (now : Time) :
    (tickBucket cfg now st).Meets writerContract (fun after _ => after = loaded) loaded := by
  obtain ⟨hkey, hfollows⟩ := tick_keeps (cfg.engineOf st) st now
  have hsaved : loaded.lookup ((cfg.engineOf st).tick st now).state.key.text = some st := by
    rw [hkey]
    exact hread
  unfold tickBucket
  split
  · exact rfl
  · dsimp only
    split
    · exact save_writer st hsaved hfollows fun _ => rfl
    · split
      · exact rfl
      · refine save_writer st hsaved hfollows fun saved => ?_
        split
        · exact rfl
        · exact actions_writer _ _ _

theorem tickBuckets_writer : (tickBuckets cfg).Meets writerContract (fun _ _ => True) loaded := by
  unfold tickBuckets
  split
  · trivial
  · refine meets_request_andThen trivial fun states hstates => ?_
    cases states with
    | none => trivial
    | some states =>
      refine meets_request_andThen trivial fun now _ => each_writer fun st hst => ?_
      exact tickBucket_writer (lookup_listed hstates hst loaded) now

theorem pollThreads_writer (memory : Memory) :
    (pollThreads cfg memory).Meets writerContract (fun _ _ => True) loaded := by
  have honly : (pollThreads cfg memory).Only fun c => ∀ st, c ≠ .saveBucket st := by
    have : Background fun c => ∀ st, c ≠ .saveBucket st := ⟨fun c hc st h => by
      rw [h] at hc
      cases hc⟩
    refine pollThreads_only (fun bucket _ => ?_) (fun _ => Call.noConfusion) memory
    exact ⟨fun _ _ _ _ => Call.noConfusion, fun _ _ _ => Call.noConfusion⟩
  refine honly.meets (fun loaded c hc => ?_) loaded
  cases c with
  | saveBucket st => exact absurd rfl (hc st)
  | _ => trivial

theorem stateByKey_some {key : BucketKey} (h : stateByKey states key = some st) :
    st ∈ states ∧ st.key = key := by
  have hmem := mem_filter.1 (mem_of_getLast? h)
  exact ⟨hmem.1, by simpa using hmem.2⟩

theorem resumeAllowed_writer (pause : PauseRequest) (route : ProviderRoute) :
    (resumeAllowed cfg pause route).Meets writerContract (fun _ _ => True) loaded := by
  unfold resumeAllowed
  split
  · trivial
  · refine meets_request_andThen trivial fun states hstates => ?_
    cases states with
    | none => trivial
    | some states =>
      refine meets_request_andThen trivial fun now _ => ?_
      split
      · trivial
      · split
        · trivial
        · rename_i st hst
          have hread := lookup_listed hstates (stateByKey_some hst).1 loaded
          unfold probe
          split
          · trivial
          · refine meets_request_andThen trivial fun threads _ => ?_
            cases threads with
            | none => trivial
            | some threads =>
              dsimp only
              split
              · trivial
              · refine meets_request_andThen ⟨st, hread, fun _ => le_rfl⟩ fun saved _ => ?_
                split
                · trivial
                · exact meets_request_andThen trivial fun _ _ => trivial

theorem rearmBucket_writer (req : RearmRequest) (now : Time) :
    (rearmBucket cfg req now).Meets writerContract (fun _ _ => True) loaded := by
  unfold rearmBucket
  split
  · trivial
  · refine meets_request_andThen trivial fun states hstates => ?_
    cases states with
    | none => trivial
    | some states =>
      dsimp only
      split
      · trivial
      · rename_i before hbefore
        have hread := lookup_listed hstates (stateByKey_some hbefore).1 loaded
        split
        · trivial
        · refine meets_request_andThen ⟨before, hread, fun _ => le_rfl⟩ fun saved _ => ?_
          split
          · trivial
          · refine meets_request_andThen trivial fun cleared _ => ?_
            split
            · trivial
            · exact ⟨trivial, fun _ _ => trivial⟩

def BucketOp.Named : BucketOp → Prop
  | .watchdog _ (.reading snap) => snap.key ≠ {}
  | _ => True

theorem program_writer {op : BucketOp} (hop : op.Named) :
    (op.program cfg).Meets writerContract (fun _ _ => True) loaded := by
  cases op with
  | watchdog memory op =>
    refine Meets.andThen (Q := fun _ _ => True) ?_ fun _ _ _ => trivial
    cases op with
    | start => exact rederive_writer.andThen fun _ _ _ => pollThreads_writer {}
    | reading snap => exact (handleSnapshot_writer hop).andThen fun _ _ _ => trivial
    | tick => exact tickBuckets_writer.andThen fun _ _ _ => trivial
    | poll => exact pollThreads_writer memory
  | resume pause route => exact (resumeAllowed_writer pause route).andThen fun _ _ _ => trivial
  | rearm req now => exact (rearmBucket_writer req now).andThen fun _ _ _ => trivial

/-! ## Interleavings -/

section

variable {π : Type} [DecidableEq π]

/-- The processes of the host and its database. Next to a process stands what it read of the buckets
since it was started. -/
abbrev Writers (π : Type) := System π World (List (String × BucketState)) Call Call.Reply

abbrev WriterMove (π : Type) := Move π BucketOp Moment

variable (cfg) in
def writersStep (s : Writers π) (move : WriterMove π) : Writers π :=
  s.step (BucketOp.program cfg) writerContract [] (answer cfg) move

def World.bucket (w : World) (key : String) : BucketState := (w.buckets.get? key).getD {}

def Call.saved : Call → Option BucketState
  | .saveBucket st => some st
  | _ => none

/-- The condition on a move: a reading names its bucket, and a save finds the bucket as the writer
read it. -/
def Undisturbed (s : Writers π) : WriterMove π → Prop
  | .start _ op => op.Named
  | .call p _ =>
    ∀ st ∈ (s.pending p).bind Call.saved, ∀ read ∈ (s.note p).lookup st.key.text,
      s.shared.bucket st.key.text = read
  | .stop _ => True

variable (cfg) in
/-- What a move must keep: the observation time of a stored bucket does not decrease, and a phase is
replaced only by a writer that read it. -/
structure Respects (s : Writers π) (move : WriterMove π) : Prop where
  observed : ∀ key st, s.shared.buckets.get? key = some st →
    ∃ st', (writersStep cfg s move).shared.buckets.get? key = some st' ∧ Follows st st'
  phase : ∀ key st st', s.shared.buckets.get? key = some st →
    (writersStep cfg s move).shared.buckets.get? key = some st' → st'.phase ≠ st.phase →
    ∃ p m read, move = .call p m ∧ (s.note p).lookup key = some read ∧ read.phase = st.phase

instance (s : Writers π) : (move : WriterMove π) → Decidable (Undisturbed s move)
  | .start _ (.watchdog _ (.reading snap)) => inferInstanceAs (Decidable (snap.key ≠ {}))
  | .start _ (.watchdog _ .start) | .start _ (.watchdog _ .tick) | .start _ (.watchdog _ .poll)
  | .start _ (.resume ..) | .start _ (.rearm ..) | .stop _ => isTrue trivial
  | .call p _ =>
    inferInstanceAs (Decidable (∀ st ∈ (s.pending p).bind Call.saved,
      ∀ read ∈ (s.note p).lookup st.key.text, s.shared.bucket st.key.text = read))

variable (cfg) in
theorem answer_buckets (w : World) (m : Moment) (c : Call) :
    (answer cfg w m c).2.buckets = w.buckets ∨
      ∃ st, c = .saveBucket st ∧ (answer cfg w m c).2.buckets = w.buckets.put st := by
  have hdeliver : ∀ threadID message, (deliver cfg w m threadID message).2.buckets = w.buckets := by
    intro threadID message
    unfold deliver
    split_ifs <;> rfl
  cases c with
  | saveBucket st =>
    dsimp only [answer]
    split_ifs
    · exact .inl rfl
    · exact .inr ⟨st, rfl, rfl⟩
  | warnThread | stopThread | resumeThread => exact .inl (hdeliver _ _)
  | now | owners | recordAction | verifyDeadline => exact .inl rfl
  | _ =>
    refine .inl ?_
    dsimp only [answer]
    split_ifs <;> rfl

theorem eq_empty_of_text {key : BucketKey} (h : key.text = ({} : BucketKey).text) : key = {} := by
  obtain ⟨provider, account, limit, window⟩ := key
  have hlength := congrArg String.length h
  have hslash : "/".length = 1 := rfl
  have hempty : "".length = 0 := rfl
  simp only [BucketKey.text, String.length_append, hslash, hempty, if_true] at hlength
  have hprovider : provider.length = 0 := by omega
  have hlimit : limit.length = 0 := by omega
  have hwindow : window.length = 0 := by omega
  have haccount : account = "" := by
    by_contra hne
    rw [if_neg hne, String.length_append, hslash] at hlength
    omega
  rw [String.length_eq_zero_iff] at hprovider hlimit hwindow
  subst hprovider hlimit hwindow haccount
  rfl

omit [DecidableEq π] in
theorem writers_expected (s : Writers π) (move : WriterMove π) :
    s.Expected writerContract (answer cfg) move := by
  cases move with
  | start | stop => trivial
  | call p m =>
    intro c hc
    cases c with
    | loadBucket key =>
      intro st hst hempty hkey
      dsimp only [answer] at hst
      split_ifs at hst
      cases hst
      cases hstored : s.shared.buckets.get? key.text with
      | none => rfl
      | some st =>
        rw [hstored, getD_some] at hempty
        have htext := key_of_get? hstored
        rw [hempty] at htext
        exact absurd (eq_empty_of_text htext.symm) hkey
    | listBuckets =>
      dsimp only [answer, writerContract]
      split_ifs
      · exact nodup_nil
      · exact s.shared.buckets.nodup_keys
    | _ => trivial

/-- A save that finds the bucket as it was read keeps its observation time, and read its phase. -/
theorem respects_of_undisturbed {s : Writers π} (hmeets : s.Meets writerContract)
    {move : WriterMove π} (h : Undisturbed s move) : Respects cfg s move := by
  have hsame : (writersStep cfg s move).shared.buckets = s.shared.buckets → Respects cfg s move := by
    intro hbuckets
    refine ⟨fun key st hst => ⟨st, by rw [hbuckets]; exact hst, fun _ => le_rfl⟩, ?_⟩
    intro key st st' hst hst' hphase
    rw [hbuckets, hst] at hst'
    cases hst'
    exact absurd rfl hphase
  rcases System.step_shared (BucketOp.program cfg) writerContract [] (answer cfg) s
    move with hshared | ⟨p, m, c, rfl, hpending, hshared⟩
  · exact hsame (by rw [writersStep, hshared])
  · rcases answer_buckets cfg s.shared m c with hbuckets | ⟨saved, rfl, hbuckets⟩
    · exact hsame (by rw [writersStep, hshared, hbuckets])
    · obtain ⟨read, hread, hfollows⟩ := hmeets.allows hpending
      have hput : (writersStep cfg s (.call p m)).shared.buckets = s.shared.buckets.put saved := by
        rw [writersStep, hshared, hbuckets]
      have hstored : s.shared.bucket saved.key.text = read :=
        h saved (by rw [hpending]; rfl) read hread
      have hfound : ∀ st, s.shared.buckets.get? saved.key.text = some st → st = read := by
        intro st hst
        rw [← hstored, World.bucket, hst, getD_some]
      constructor
      · intro key st hst
        rw [hput, get?_put]
        split_ifs with hkey
        · subst hkey
          exact ⟨saved, rfl, hfound st hst ▸ hfollows⟩
        · exact ⟨st, hst, fun _ => le_rfl⟩
      · intro key st st' hst hst' hphase
        rw [hput, get?_put] at hst'
        split_ifs at hst' with hkey
        · subst hkey
          exact ⟨p, m, read, rfl, hread, by rw [hfound st hst]⟩
        · rw [hst] at hst'
          cases hst'
          exact absurd rfl hphase

/-- In every interleaving in which each save finds the bucket as its writer read it, and each
reading names its bucket, no observation time decreases and no phase is undone by a writer that did
not read it. -/
theorem writers_keep_buckets (cfg : Config) (s : Writers π) (moves : List (WriterMove π))
    (hidle : ∀ p, s.process p = .done ())
    (hundisturbed : Runs.Along (writersStep cfg) Undisturbed s moves) :
    Runs.Along (writersStep cfg) (Respects cfg) s moves := by
  have hmeets : s.Meets writerContract := fun p => by
    rw [hidle p]
    trivial
  clear hidle
  induction moves generalizing s with
  | nil => trivial
  | cons move moves ih =>
    refine ⟨respects_of_undisturbed hmeets hundisturbed.1, ih _ hundisturbed.2 ?_⟩
    refine hmeets.step (fun p op hmove => ?_) (writers_expected s move)
    subst hmove
    exact program_writer hundisturbed.1

end

/-! ## A probe over a newer reading -/

inductive HostProcess
  | watchdog
  | worker
  | operator
deriving DecidableEq

def weekKey : BucketKey := { providerInstanceID := "claudeAgent", limitID := "claude", window := "seven_day" }

def stoppedHost : Writers HostProcess where
  shared :=
    { buckets := ofList _
        [{ key := weekKey, phase := .stopped, usedPercent := 80, observedAt := 100 * minute
           resetsAt := some (1000 * minute), stoppedAt := some (100 * minute) }] }
  process := fun _ => .done ()
  note := fun _ => []

def askResume : WriterMove HostProcess :=
  .start .worker (.resume { bucket := weekKey, requestedAt := 100 * minute }
    { providerInstanceID := "claudeAgent" })

def receiveReading : WriterMove HostProcess :=
  .start .watchdog (.watchdog {} (.reading
    { key := weekKey, usedPercent := 10, resetsAt := some (1000 * minute), observedAt := 200 * minute
      sourceEventID := "1" }))

def calls (p : HostProcess) (n : Nat) : List (WriterMove HostProcess) :=
  replicate n (.call p { clock := 200 * minute })

def readingDuringProbe : List (WriterMove HostProcess) :=
  [askResume] ++ calls .worker 3 ++ [receiveReading] ++ calls .watchdog 4

/-- The worker's probe writes the bucket back as it was before the reading: the observation time
goes back, and a writer that never saw it recover stops it again. -/
theorem probe_undoes_reading : ¬Runs.Along (writersStep shippedConfig) (Respects shippedConfig) stoppedHost
      (readingDuringProbe ++ calls .worker 1) := by
  intro h
  have hlast := (Runs.along_append.1 h).2.1
  have hbefore : ((Runs.run (writersStep shippedConfig) stoppedHost
      readingDuringProbe).shared.buckets.get? weekKey.text).map (fun st => (st.observedAt, st.phase)) =
        some (200 * minute, .normal) := by
    decide +kernel
  have hafter : ((Runs.run (writersStep shippedConfig) stoppedHost
      (readingDuringProbe ++ calls .worker 1)).shared.buckets.get? weekKey.text).map
        (fun st => (st.observedAt, st.phase)) = some (100 * minute, .stopped) := by
    decide +kernel
  obtain ⟨st, hst, hnewer⟩ := map_eq_some_iff.1 hbefore
  obtain ⟨st', hst', holder⟩ := map_eq_some_iff.1 hafter
  rw [Runs.run_append] at hst'
  obtain ⟨saved, hsaved, hfollows⟩ := hlast.observed weekKey.text st hst
  cases hsaved.symm.trans hst'
  rw [Prod.mk.injEq] at hnewer holder
  rw [Follows, hnewer.1, holder.1] at hfollows
  exact absurd (hfollows (by decide)) (by decide)

/-- The probe first, then the reading, then an operator's rearm. -/
theorem probe_before_reading_is_kept :
    Runs.Along (writersStep shippedConfig) (Respects shippedConfig) stoppedHost
      ([askResume] ++ calls .worker 5 ++ [receiveReading] ++ calls .watchdog 4 ++
        [.start .operator (.rearm { key := weekKey, reason := "reset" } (201 * minute))] ++
        calls .operator 2) :=
  writers_keep_buckets shippedConfig stoppedHost _ (fun _ => rfl) (by decide +kernel)

end Steward.Watchdog
