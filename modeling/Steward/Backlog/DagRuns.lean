import Steward.Backlog.DagInvariant
import Steward.Backlog.DagValidation

/-!
# Runs of graph operations

`call_spec` says once what a call can do: fail and leave the state, move attempts in place and
refresh, or append the next attempt of a task and refresh. From it follow what single calls keep and
the invariant of every run.
-/

namespace Steward

open Except List
open Relation (ReflTransGen)

/-- Only latest attempts have succeeded. -/
def OnlyLatestSucceeded (attempts : List Attempt) : Prop :=
  ∀ a ∈ attempts, a.progress = .succeeded → latestAttempt attempts a.taskID = some a

theorem taskSucceeded_iff_current {attempts : List Attempt} (h : OnlyLatestSucceeded attempts)
    (taskID : String) :
    taskSucceeded attempts taskID = true ↔
      (currentTaskAttempt attempts taskID).progress = .succeeded := by
  simp only [taskSucceeded, any_eq_true, decide_eq_true_eq]
  constructor
  · rintro ⟨a, ha, rfl, hsucceeded⟩
    rw [currentTaskAttempt, h a ha hsucceeded]
    exact hsucceeded
  · intro hsucceeded
    have hset : (currentTaskAttempt attempts taskID).progress ≠ .unset := by simp [hsucceeded]
    obtain ⟨ha, hown, -⟩ := latestAttempt_spec (latest_of_current hset)
    exact ⟨_, ha, hown, hsucceeded⟩

namespace DAGState

variable {a b : Attempt} {after before : List Attempt} {tasks : List Task} {u : Unit}
  {taskID : String}

variable {s : DAGState} {run : WorkflowRun} {index : Nat} {attempts : List Attempt}
  {R : Attempt → Attempt → Prop} {now : Time}

theorem Indexed.inPlace {s s' : DAGState} (h : s.Indexed)
    (hchange : InPlace R s.attempts s'.attempts) (htasks : s'.tasks = s.tasks) : s'.Indexed := by
  refine ⟨by rw [htasks]; exact h.taskIDs, by rw [hchange.ids]; exact h.attemptIDs, ?_, ?_⟩
  · intro b hb b' hb' htask hnumber
    obtain ⟨a, ha, hab⟩ := hchange.exists_before hb
    obtain ⟨a', ha', hab'⟩ := hchange.exists_before hb'
    have hsame : a = a' := by
      refine h.numbers a ha a' ha' ?_ ?_
      · rw [← hab.taskID, ← hab'.taskID, htask]
      · rw [← hab.number, ← hab'.number, hnumber]
    have hids : (s'.attempts.map Attempt.id).Nodup := by
      rw [hchange.ids]
      exact h.attemptIDs
    exact inj_on_of_nodup_map hids hb hb' (by rw [hab.id, hab'.id, hsame])
  · intro t ht
    rw [htasks] at ht
    obtain ⟨a, ha, hown⟩ := h.covered t ht
    obtain ⟨b, hb, hab⟩ := hchange.exists_after ha
    exact ⟨b, hb, hab.taskID.trans hown⟩

theorem Indexed.latest (h : s.Indexed) {t : Task} (ht : t ∈ s.tasks) :
    ∃ a, latestAttempt s.attempts t.id = some a ∧ currentTaskAttempt s.attempts t.id = a := by
  obtain ⟨a, ha⟩ := Option.isSome_iff_exists.1 (latestAttempt_isSome (h.covered t ht))
  exact ⟨a, ha, by rw [currentTaskAttempt, ha]; rfl⟩

/-! ## What a call can do -/

/-- What a call does to an attempt in place: start one that is ready, end one that is not over, or
skip one that did not succeed. -/
def Moves (a b : Attempt) : Prop :=
  b = a ∨ (a.progress = .ready ∧ b.progress = .active) ∨
    (a.progress.terminal = false ∧ b.progress.terminal = true) ∨
    (a.progress ≠ .succeeded ∧ b.progress = .skipped)

structure Retries (s : DAGState) (task : Task) (new : Attempt) : Prop where
  mem : task ∈ s.tasks
  ended : (currentTaskAttempt s.attempts task.id).progress = .failed ∨
    (currentTaskAttempt s.attempts task.id).progress = .cancelled
  fresh : new.id ∉ s.attempts.map Attempt.id
  taskID : new.taskID = task.id
  number : new.number = (currentTaskAttempt s.attempts task.id).number + 1
  progress : new.progress = .blocked

/-- The attempts a call moves: those of the state, and in a retry the next attempt of one task. -/
inductive Opens (s : DAGState) : List Attempt → Prop
  | same : Opens s s.attempts
  | retried (task : Task) (new : Attempt) (hretries : Retries s task new) :
      Opens s (s.attempts ++ [new])

inductive CallOutcome (s : DAGState) : DAGState × Option Err → Prop
  | refused (e : Err) : CallOutcome s (s, some e)
  | applied {opened : List Attempt} (attempts : List Attempt) (now : Time) (hopens : Opens s opened)
      (hmoves : InPlace Moves opened attempts) :
      CallOutcome s (refreshWith { s with attempts := attempts } now true, none)

theorem moves_refl (a : Attempt) : Moves a a := .inl rfl

theorem attemptIndex_spec (hindexed : s.Indexed) {id : String} {attempt : Attempt}
    (h : s.attemptIndex id = some attempt) (ha : a ∈ s.attempts) (hid : a.id = id) : a = attempt := by
  have hmem := mem_of_find?_eq_some h
  have hfound : attempt.id = id := by simpa using find?_some h
  exact inj_on_of_nodup_map hindexed.attemptIDs ha hmem (hid.trans hfound.symm)

theorem startAttempt_outcome (h : s.Indexed) (attemptID : String) (now : Time) :
    CallOutcome s (s.startAttempt attemptID now) := by
  unfold startAttempt
  split
  · exact .refused _
  · rename_i attempt hfound
    split_ifs with hready
    · exact .refused _
    · refine .applied _ now .same (inPlace_setAttempt (fun a _ _ => moves_refl a) fun a ha hid => ?_)
      rw [attemptIndex_spec h hfound ha hid]
      exact ⟨rfl, rfl, rfl, rfl, .inr (.inl ⟨not_not.1 hready, rfl⟩)⟩

theorem completeAttempt_outcome (h : s.Indexed) (attemptID : String)
    (result : CompletionResult) (now : Time) :
    CallOutcome s (s.completeAttempt attemptID result now) := by
  unfold completeAttempt
  split
  · exact .refused _
  · rename_i attempt hfound
    split_ifs with hactive
    · exact .refused _
    · refine .applied _ now .same (inPlace_setAttempt (fun a _ _ => moves_refl a) fun a ha hid => ?_)
      rw [attemptIndex_spec h hfound ha hid]
      have hopen : attempt.progress.terminal = false := by
        rw [not_and_or, not_not, not_not] at hactive
        rcases hactive with h | h <;> simp [h, ProgressState.terminal]
      refine ⟨?_, ?_, ?_, ?_, .inr (.inr (.inl ⟨hopen, ?_⟩))⟩ <;>
        · unfold completed
          split_ifs <;> rfl

def Cancels (a b : Attempt) : Prop := b = a ∨ a.progress.terminal = false ∧ b.progress = .cancelled

theorem cancels_trans (a b c : Attempt) (h : Cancels a b) (h' : Cancels b c) : Cancels a c := by
  rcases h with rfl | ⟨ha, hb⟩
  · exact h'
  · rcases h' with rfl | ⟨hb', -⟩
    · exact .inr ⟨ha, hb⟩
    · rw [hb] at hb'
      cases hb'

theorem cancelCurrent_fold (now : Time) {names : List String}
    (hids : (attempts.map Attempt.id).Nodup) (hnames : ∀ name ∈ names,
      (latestAttempt attempts ((taskByName tasks name).getD {}).id).isSome = true) (changed : Bool) :
    InPlace Cancels attempts (names.foldl (cancelCurrent tasks now) (attempts, changed)).1 ∧
      ((names.foldl (cancelCurrent tasks now) (attempts, changed)).2 = false →
        (names.foldl (cancelCurrent tasks now) (attempts, changed)).1 = attempts ∧
        changed = false) := by
  induction names generalizing attempts changed with
  | nil => exact ⟨.refl (fun a => .inl rfl) _, fun h => ⟨rfl, h⟩⟩
  | cons name names ih =>
    obtain ⟨current, hlatest⟩ := Option.isSome_iff_exists.1 (hnames name (.head _))
    have hrest := fun name hname => hnames name (.tail _ hname)
    rw [foldl_cons]
    unfold cancelCurrent
    dsimp only
    rw [currentTaskAttempt, hlatest, Option.getD_some]
    split_ifs with hterminal
    · exact ih hids hrest changed
    · have hfirst : InPlace Cancels attempts
        (setAttempt attempts current.id (ended .cancelled now)) := by
        refine inPlace_setAttempt (fun a _ _ => .inl rfl) fun a ha hid => ⟨rfl, rfl, rfl, rfl, ?_⟩
        obtain rfl : a = current :=
          inj_on_of_nodup_map hids ha (latestAttempt_spec hlatest).1 hid
        exact .inr ⟨Bool.eq_false_of_not_eq_true hterminal, rfl⟩
      have hids' := hids
      rw [← hfirst.ids] at hids'
      obtain ⟨hlater, hflag⟩ := ih hids' (fun name hname => hfirst.latest_isSome (hrest name hname))
        true
      refine ⟨hfirst.trans cancels_trans hlater, fun hdown => ?_⟩
      exact absurd (hflag hdown).2 (by decide)

theorem mem_descendantNames_iff (hids : (s.tasks.map Task.id).Nodup) {root : Task}
    (hroot : root ∈ s.tasks) {name : String} : name ∈ s.descendantNames root.name ↔
      ∃ t ∈ s.tasks, t.name = name ∧ ReflTransGen (Feeds s.tasks) root.id t.id := by
  have hmem : name ∈ s.descendantNames root.name ↔
      ReflTransGen (Graph.Edge Task.name (fun need t => need ∈ t.needs) s.tasks) root.name name := by
    rw [descendantNames, mem_insertionSort]
    exact Graph.mem_saturate_iff (fun selected t => by simp [needsSelected, and_comm]) le_rfl
  rw [hmem]
  clear hmem
  constructor
  · intro hpath
    induction hpath with
    | refl => exact ⟨root, hroot, rfl, .refl⟩
    | tail _ hedge ih =>
      obtain ⟨u, hu, rfl, hreach⟩ := ih
      obtain ⟨t, ht, rfl, hneed⟩ := hedge
      exact ⟨t, ht, rfl, hreach.tail ⟨u, hu, t, ht, rfl, rfl, hneed⟩⟩
  · rintro ⟨t, ht, rfl, hreach⟩
    suffices ∀ id, ReflTransGen (Feeds s.tasks) root.id id → ∀ t ∈ s.tasks, t.id = id →
        ReflTransGen (Graph.Edge Task.name (fun need t => need ∈ t.needs) s.tasks) root.name
        t.name from
      this _ hreach t ht rfl
    intro id hreach
    induction hreach with
    | refl =>
      intro t ht hid
      rw [inj_on_of_nodup_map hids ht hroot hid]
    | tail _ hfeeds ih =>
      intro t ht hid
      obtain ⟨u, hu, v, hv, hsource, htarget, hneed⟩ := hfeeds
      obtain rfl := inj_on_of_nodup_map hids hv ht (htarget.trans hid.symm)
      exact (ih u hu hsource).tail ⟨v, hv, rfl, hneed⟩

theorem cancelTask_outcome (h : s.Indexed) (taskID : String) (now : Time) :
    CallOutcome s (s.cancelTask taskID now) := by
  unfold cancelTask
  split_ifs
  · exact .refused _
  · split
    · exact .refused _
    · rename_i task hfound
      have htask : task ∈ s.tasks := mem_of_find?_eq_some hfound
      have hnames : ∀ name ∈ s.descendantNames task.name,
          (latestAttempt s.attempts ((taskByName s.tasks name).getD {}).id).isSome = true := by
        intro name hname
        obtain ⟨t, ht, htname, -⟩ := (mem_descendantNames_iff h.taskIDs htask).1 hname
        have hsome : (taskByName s.tasks name).isSome = true :=
          find?_isSome.2 ⟨t, ht, decide_eq_true htname⟩
        obtain ⟨t', ht'⟩ := Option.isSome_iff_exists.1 hsome
        rw [ht', Option.getD_some]
        exact latestAttempt_isSome (h.covered t' (mem_of_find?_eq_some ht'))
      obtain ⟨hcancels, hflag⟩ := cancelCurrent_fold now h.attemptIDs hnames false
      dsimp only
      split_ifs with hchanged
      · refine .applied _ now .same (hcancels.imp fun a b hab => ?_)
        rcases hab with hsame | ⟨hopen, hcancelled⟩
        · exact .inl hsame
        · exact .inr (.inr (.inl ⟨hopen, by rw [hcancelled]; rfl⟩))
      · rw [(hflag (Bool.eq_false_of_not_eq_true hchanged)).1]
        exact .refused _

theorem skipTask_outcome (h : s.Indexed) (taskID : String) (now : Time) :
    CallOutcome s (s.skipTask taskID now) := by
  unfold skipTask
  split_ifs
  · exact .refused _
  · split
    · exact .refused _
    · rename_i task hfound
      obtain ⟨current, hlatest, hcurrent⟩ := h.latest (mem_of_find?_eq_some hfound)
      dsimp only
      rw [hcurrent]
      split_ifs with hover
      · exact .refused _
      · refine .applied _ now .same (inPlace_setAttempt (fun a _ _ => moves_refl a)
          fun a ha hid => ?_)
        obtain rfl : a = current :=
          inj_on_of_nodup_map h.attemptIDs ha (latestAttempt_spec hlatest).1 hid
        exact ⟨rfl, rfl, rfl, rfl, .inr (.inr (.inr ⟨fun hs => hover (.inl hs), rfl⟩))⟩

theorem retryTask_outcome (taskID attemptID : String) (now : Time) :
    CallOutcome s (s.retryTask taskID attemptID now) := by
  unfold retryTask
  by_cases hfinal : s.sinkFinal = true
  · rw [if_pos hfinal]
    exact .refused _
  · rw [if_neg hfinal]
    split
    · exact .refused _
    · rename_i task hfound
      have hid : task.id = taskID := by simpa using find?_some hfound
      subst hid
      dsimp only
      split_ifs with hempty hduplicate hfix hover
      · exact .refused _
      · exact .refused _
      · exact .refused _
      · exact .refused _
      · refine .applied _ now (.retried task _ ⟨mem_of_find?_eq_some hfound, ?_, ?_, rfl, rfl, rfl⟩)
          (.refl moves_refl _)
        · rwa [not_and_or, not_not, not_not] at hover
        · intro hmem
          obtain ⟨a, ha, haid⟩ := mem_map.1 hmem
          exact hduplicate (find?_isSome.2 ⟨a, ha, decide_eq_true haid⟩)

/-- A call fails and leaves the state, moves attempts in place, or appends a task's next attempt. -/
theorem call_spec (h : s.Indexed) (c : DAGCall) : CallOutcome s (s.call c) := by
  cases c with
  | startAttempt attemptID now => exact startAttempt_outcome h attemptID now
  | completeAttempt attemptID result now => exact completeAttempt_outcome h attemptID result now
  | cancelTask taskID now => exact cancelTask_outcome h taskID now
  | skipTask taskID now => exact skipTask_outcome h taskID now
  | retryTask taskID attemptID now => exact retryTask_outcome taskID attemptID now

/-! ## What one call keeps -/

def Steps (a b : Attempt) : Prop := ∃ moved, Moves a moved ∧ Refreshed moved b

theorem Steps.eq_of_succeeded (h : Steps a b) (ha : a.progress = .succeeded) : b = a := by
  obtain ⟨m, hmoves, hrefreshed⟩ := h
  obtain rfl : m = a := by
    rcases hmoves with rfl | ⟨hready, -⟩ | ⟨hopen, -⟩ | ⟨hne, -⟩
    · rfl
    · rw [ha] at hready
      cases hready
    · rw [ha] at hopen
      cases hopen
    · exact absurd ha hne
  exact hrefreshed.eq_of_not_waits (by simp [Attempt.waits, ha])

theorem Steps.active (h : Steps a b) (hb : b.progress = .active) :
    a.progress = .active ∨ a.progress = .ready := by
  obtain ⟨m, hmoves, hrefreshed⟩ := h
  obtain rfl : b = m := by
    rcases hrefreshed with rfl | ⟨-, (hb' | hb') | hb'⟩
    · rfl
    all_goals
      rw [hb] at hb'
      cases hb'
  rcases hmoves with rfl | ⟨hready, -⟩ | ⟨-, hterminal⟩ | ⟨-, hskipped⟩
  · exact .inl hb
  · exact .inr hready
  · rw [hb] at hterminal
    cases hterminal
  · rw [hb] at hskipped
    cases hskipped

/-- The attempts of a run whose older attempts are over without success, numbered without gaps. -/
structure WellFormed (attempts : List Attempt) : Prop where
  older : ∀ a ∈ attempts, ∀ b ∈ attempts, a.taskID = b.taskID → a.number < b.number →
    a.progress.terminal = true ∧ a.progress ≠ .succeeded
  gapless : ∀ a ∈ attempts, ∀ b ∈ attempts, a.taskID = b.taskID → ∀ n, a.number < n →
    n < b.number → ∃ c ∈ attempts, c.taskID = a.taskID ∧ c.number = n
  known : ∀ a ∈ attempts, a.progress ≠ .unset ∧ a.progress ≠ .queued

theorem WellFormed.inPlace (h : WellFormed before) (hchange : InPlace R before after)
    (hover : ∀ a b, R a b → a.progress.terminal = true → a.progress ≠ .succeeded →
      b.progress.terminal = true ∧ b.progress ≠ .succeeded)
    (hknown : ∀ a b, R a b → a.progress ≠ .unset ∧ a.progress ≠ .queued →
      b.progress ≠ .unset ∧ b.progress ≠ .queued) : WellFormed after := by
  constructor
  · intro b hb b' hb' htask hlt
    obtain ⟨a, ha, hab⟩ := hchange.exists_before hb
    obtain ⟨a', ha', hab'⟩ := hchange.exists_before hb'
    rw [hab.taskID, hab'.taskID] at htask
    rw [hab.number, hab'.number] at hlt
    obtain ⟨hterminal, hfailed⟩ := h.older a ha a' ha' htask hlt
    exact hover a b hab.rel hterminal hfailed
  · intro b hb b' hb' htask n hlow hhigh
    obtain ⟨a, ha, hab⟩ := hchange.exists_before hb
    obtain ⟨a', ha', hab'⟩ := hchange.exists_before hb'
    rw [hab.taskID, hab'.taskID] at htask
    rw [hab.number] at hlow
    rw [hab'.number] at hhigh
    obtain ⟨c, hc, hctask, hcnumber⟩ := h.gapless a ha a' ha' htask n hlow hhigh
    obtain ⟨d, hd, hcd⟩ := hchange.exists_after hc
    exact ⟨d, hd, hcd.taskID.trans (hctask.trans hab.taskID.symm), hcd.number.trans hcnumber⟩
  · intro b hb
    obtain ⟨a, ha, hab⟩ := hchange.exists_before hb
    exact hknown a b hab.rel (h.known a ha)

theorem WellFormed.steps (h : WellFormed before) (hchange : InPlace Steps before after) :
    WellFormed after := by
  refine h.inPlace hchange ?_ ?_
  · rintro a b ⟨m, hmoves, hrefreshed⟩ hterminal hfailed
    have hm : m.progress.terminal = true ∧ m.progress ≠ .succeeded := by
      rcases hmoves with rfl | ⟨hready, -⟩ | ⟨hopen, -⟩ | ⟨-, hskipped⟩
      · exact ⟨hterminal, hfailed⟩
      · rw [hready] at hterminal
        cases hterminal
      · rw [hopen] at hterminal
        cases hterminal
      · rw [hskipped]
        exact ⟨rfl, by decide⟩
    rw [hrefreshed.eq_of_not_waits (fun hwaits => ?_)]
    · exact hm
    · rcases hwaits with hwaits | hwaits <;> (rw [hwaits] at hm; cases hm.1)
  · rintro a b ⟨m, hmoves, hrefreshed⟩ hknown
    have hm : m.progress ≠ .unset ∧ m.progress ≠ .queued := by
      rcases hmoves with rfl | ⟨-, hactive⟩ | ⟨-, hterminal⟩ | ⟨-, hskipped⟩
      · exact hknown
      · simp [hactive]
      · constructor <;> (intro hm; rw [hm] at hterminal; cases hterminal)
      · simp [hskipped]
    rcases hrefreshed with rfl | ⟨-, (hb | hb) | hb⟩
    · exact hm
    all_goals simp [hb]

section Retry

variable {task : Task} {new : Attempt} (h : s.Indexed) (hretries : Retries s task new)

include h hretries

theorem Indexed.append : ({ s with attempts := s.attempts ++ [new] } : DAGState).Indexed := by
  obtain ⟨current, hlatest, hcurrent⟩ := h.latest hretries.mem
  obtain ⟨-, hown, hmax⟩ := latestAttempt_spec hlatest
  have hnew : new.number = current.number + 1 := by rw [hretries.number, hcurrent]
  have hother : ∀ a ∈ s.attempts, a.taskID = new.taskID → a.number ≠ new.number := by
    intro a ha htask
    have hle := hmax a ha (htask.trans hretries.taskID)
    omega
  refine ⟨h.taskIDs, ?_, ?_, ?_⟩
  · rw [map_append, nodup_append]
    refine ⟨h.attemptIDs, by simp, ?_⟩
    rintro id hid _ hmem rfl
    rw [map_singleton, mem_singleton] at hmem
    exact hretries.fresh (hmem ▸ hid)
  · intro a ha b hb htask hnumber
    rcases mem_append.1 ha with ha | ha <;> rcases mem_append.1 hb with hb | hb
    · exact h.numbers a ha b hb htask hnumber
    · rw [mem_singleton.1 hb] at htask hnumber
      exact absurd hnumber (hother a ha htask)
    · rw [mem_singleton.1 ha] at htask hnumber
      exact absurd hnumber.symm (hother b hb htask.symm)
    · rw [mem_singleton.1 ha, mem_singleton.1 hb]
  · intro t ht
    obtain ⟨a, ha, hown⟩ := h.covered t ht
    exact ⟨a, mem_append_left _ ha, hown⟩

theorem WellFormed.append (hwell : WellFormed s.attempts) : WellFormed (s.attempts ++ [new]) := by
  obtain ⟨current, hlatest, hcurrent⟩ := h.latest hretries.mem
  obtain ⟨hmem, hown, hmax⟩ := latestAttempt_spec hlatest
  have hnew : new.number = current.number + 1 := by rw [hretries.number, hcurrent]
  have hover := hretries.ended
  rw [hcurrent] at hover
  have hle : ∀ a ∈ s.attempts, a.taskID = new.taskID → a.number ≤ current.number :=
    fun a ha htask => hmax a ha (htask.trans hretries.taskID)
  constructor
  · intro a ha b hb htask hlt
    rcases mem_append.1 ha with ha | ha <;> rcases mem_append.1 hb with hb | hb
    · exact hwell.older a ha b hb htask hlt
    · rw [mem_singleton.1 hb] at htask hlt
      by_cases heq : a.number = current.number
      · rw [h.numbers a ha current hmem (htask.trans (hretries.taskID.trans hown.symm)) heq]
        rcases hover with hover | hover <;> simp [hover, ProgressState.terminal]
      · refine hwell.older a ha current hmem (htask.trans (hretries.taskID.trans hown.symm)) ?_
        have := hle a ha htask
        omega
    · rw [mem_singleton.1 ha] at htask hlt
      have := hle b hb htask.symm
      omega
    · rw [mem_singleton.1 ha, mem_singleton.1 hb] at hlt
      omega
  · intro a ha b hb htask n hlow hhigh
    rcases mem_append.1 ha with ha | ha <;> rcases mem_append.1 hb with hb | hb
    · obtain ⟨c, hc, hfound⟩ := hwell.gapless a ha b hb htask n hlow hhigh
      exact ⟨c, mem_append_left _ hc, hfound⟩
    · rw [mem_singleton.1 hb] at htask hhigh
      have htask' : a.taskID = current.taskID := htask.trans (hretries.taskID.trans hown.symm)
      by_cases heq : n = current.number
      · exact ⟨current, mem_append_left _ hmem, htask'.symm, heq.symm⟩
      · obtain ⟨c, hc, hfound⟩ := hwell.gapless a ha current hmem htask' n hlow (by omega)
        exact ⟨c, mem_append_left _ hc, hfound⟩
    · rw [mem_singleton.1 ha] at htask hlow
      have := hle b hb htask.symm
      omega
    · rw [mem_singleton.1 ha] at hlow
      rw [mem_singleton.1 hb] at hhigh
      omega
  · intro a ha
    rcases mem_append.1 ha with ha | ha
    · exact hwell.known a ha
    · rw [mem_singleton.1 ha, hretries.progress]
      simp

end Retry

variable {opened : List Attempt}

theorem Opens.indexed (hopens : Opens s opened) (h : s.Indexed) :
    ({ s with attempts := opened } : DAGState).Indexed := by
  cases hopens with
  | same => exact h
  | retried task new hretries => exact h.append hretries

/-- A need counts as met: its latest attempt succeeded, or is at least over for a task that judges
reviews, and any verdict asked of it was given. -/
def NeedMet (s : DAGState) (task : Task) (need : String) : Prop :=
  let dependency := (taskByName s.tasks need).getD {}
  let latest := currentTaskAttempt s.attempts dependency.id
  (latest.progress = .succeeded ∨ task.reviewJudge = true ∧ latest.progress.terminal = true) ∧
    verdictSatisfied s.attempts task dependency = true

def NeedsMet (s : DAGState) (task : Task) : Prop :=
  (∀ need ∈ task.needs, NeedMet s task need) ∧
    ∀ ref ∈ task.externalNeeds, ∃ observation,
      externalObservation s.external ref.text = some observation ∧ observation.exitCode = 0

def started (a : Attempt) : Prop :=
  a.progress = .active ∨ a.progress = .needsInput ∨ a.progress = .waitingExternal ∨
    a.progress = .verifying

/-- The latest attempt of a task is ready only if its needs are met, and one that is neither over
nor started is blocked if they are not. -/
def Readiness (s : DAGState) : Prop :=
  ∀ t ∈ s.tasks, ∀ a, latestAttempt s.attempts t.id = some a →
    (a.progress = .ready → NeedsMet s t) ∧
    (a.progress.terminal = false → ¬started a → ¬NeedsMet s t → a.progress = .blocked)

theorem taskSucceeded_iff (h : s.Indexed) (hwell : WellFormed s.attempts)
    (taskID : String) : taskSucceeded s.attempts taskID = true ↔
      (currentTaskAttempt s.attempts taskID).progress = .succeeded := by
  refine taskSucceeded_iff_current (fun a ha hsucceeded => ?_) taskID
  obtain ⟨b, hlatest⟩ := Option.isSome_iff_exists.1 (latestAttempt_isSome ⟨a, ha, rfl⟩)
  obtain ⟨hb, hown, hmax⟩ := latestAttempt_spec hlatest
  have hnumber : a.number = b.number := by
    by_contra hne
    have hlt : a.number < b.number := lt_of_le_of_ne (hmax a ha rfl) hne
    exact (hwell.older a ha b hb hown.symm hlt).2 hsucceeded
  rw [hlatest, h.numbers a ha b hb hown.symm hnumber]

theorem dependencyBlockers_eq_nil_iff (h : s.Indexed) (hwell : WellFormed s.attempts)
    (t : Task) : dependencyBlockers s t = [] ↔ NeedsMet s t := by
  have hlocal : ∀ need, ((!taskSucceeded s.attempts ((taskByName s.tasks need).getD {}).id &&
      !(t.reviewJudge &&
        (currentTaskAttempt s.attempts ((taskByName s.tasks need).getD {}).id).progress.terminal)) ||
      !verdictSatisfied s.attempts t ((taskByName s.tasks need).getD {})) = false ↔
      NeedMet s t need := by
    intro need
    unfold NeedMet
    dsimp only
    rw [← taskSucceeded_iff h hwell]
    simp only [Bool.or_eq_false_iff, Bool.and_eq_false_iff, Bool.not_eq_false', Bool.and_eq_true]
  have hexternal : ∀ ref : NodeRef,
      ((externalObservation s.external ref.text).any fun o => o.exitCode = 0) = true ↔
      ∃ o, externalObservation s.external ref.text = some o ∧ o.exitCode = 0 := by
    intro ref
    simp [Option.any_eq_true]
  unfold dependencyBlockers NeedsMet
  rw [← length_eq_zero_iff, length_insertionSort, length_eq_zero_iff,
    append_eq_nil_iff, map_eq_nil_iff, filter_eq_nil_iff, filter_eq_nil_iff]
  refine and_congr (forall₂_congr fun need _ => ?_) (forall₂_congr fun ref _ => ?_)
  · rw [← hlocal, Bool.not_eq_true]
  · rw [← hexternal]
    simp

structure Invariant (s : DAGState) : Prop where
  indexed : s.Indexed
  wellFormed : WellFormed s.attempts
  settled : ∀ t ∈ s.tasks, Settled s t

theorem Invariant.readiness (h : s.Invariant) : s.Readiness := by
  intro t ht a hlatest
  have hcurrent : currentTaskAttempt s.attempts t.id = a := by rw [currentTaskAttempt, hlatest]; rfl
  have hopen : a.waits → taskSucceeded s.attempts t.id = false := by
    intro hwaits
    rw [← Bool.not_eq_true, taskSucceeded_iff h.indexed h.wellFormed, hcurrent]
    intro hsucceeded
    rcases hwaits with hwaits | hwaits <;> (rw [hwaits] at hsucceeded; cases hsucceeded)
  have hsettled : a.waits → (a.progress = .ready ↔ s.NeedsMet t) := by
    intro hwaits
    have hready := h.settled t ht (hopen hwaits) (by rw [hcurrent]; exact hwaits)
    rw [hcurrent, dependencyBlockers_eq_nil_iff h.indexed h.wellFormed] at hready
    exact hready
  refine ⟨fun hready => (hsettled (.inr hready)).1 hready, fun hterminal hstarted hunmet => ?_⟩
  have hknown := h.wellFormed.known a (latestAttempt_spec hlatest).1
  have hwaits : a.waits := by
    unfold started at hstarted
    unfold Attempt.waits
    cases hprogress : a.progress <;> simp_all [ProgressState.terminal]
  exact hwaits.resolve_right fun hready => hunmet ((hsettled hwaits).1 hready)

/-! ## Runs -/

theorem inPlace_steps {moved : List Attempt} (h : InPlace Moves before moved)
    (h' : InPlace Refreshed moved after) : InPlace Steps before after := by
  induction h generalizing after with
  | nil =>
    cases h'
    exact .nil
  | @cons a m _ _ ham _ ih =>
    cases h' with
    | cons hmb hrest =>
      exact .cons ⟨hmb.id.trans ham.id, hmb.taskID.trans ham.taskID, hmb.number.trans ham.number,
        hmb.reviewVerdict.trans ham.reviewVerdict, m, ham.rel, hmb.rel⟩ (ih hrest)

/-- What a call leaves: the same state, or the attempts it opened changed step by step. -/
inductive StepOutcome (s : DAGState) : DAGState → Prop
  | same : StepOutcome s s
  | stepped (s' : DAGState) {opened : List Attempt} (hopens : Opens s opened)
      (hsteps : InPlace Steps opened s'.attempts) (htasks : s'.tasks = s.tasks)
      (hsettled : ∀ t ∈ s'.tasks, Settled s' t) : StepOutcome s s'

theorem step_outcome (h : s.Indexed) (c : DAGCall) : StepOutcome s (s.step c) := by
  unfold step
  have hcall := call_spec h c
  generalize s.call c = result at hcall
  cases hcall with
  | refused e => exact .same
  | applied attempts now hopens hmoves =>
    have hmoved : ({ s with attempts := attempts } : DAGState).Indexed :=
      (hopens.indexed h).inPlace hmoves rfl
    obtain ⟨hrefreshed, htasks, -, hsettled⟩ :=
      refreshWith_spec hmoved.attemptIDs hmoved.taskIDs now true
    exact .stepped _ hopens (inPlace_steps hmoves hrefreshed) htasks fun t ht => hsettled t
      (htasks ▸ ht)

theorem step_indexed (h : s.Indexed) (c : DAGCall) : (s.step c).Indexed := by
  have hstep := step_outcome h c
  generalize s.step c = s' at hstep
  cases hstep with
  | same => exact h
  | stepped s' hopens hsteps htasks hsettled => exact (hopens.indexed h).inPlace hsteps htasks

theorem step_invariant (h : s.Invariant) (c : DAGCall) : (s.step c).Invariant := by
  have hstep := step_outcome h.indexed c
  have hindexed := step_indexed h.indexed c
  generalize s.step c = s' at hstep hindexed
  cases hstep with
  | same => exact h
  | stepped s' hopens hsteps htasks hsettled =>
    refine ⟨hindexed, WellFormed.steps ?_ hsteps, hsettled⟩
    cases hopens with
    | same => exact h.wellFormed
    | retried task new hretries => exact WellFormed.append h.indexed hretries h.wellFormed

theorem step_active (h : s.Indexed) (c : DAGCall) (hb : b ∈ (s.step c).attempts)
    (hactive : b.progress = .active) :
    ∃ a ∈ s.attempts, a.id = b.id ∧ (a.progress = .active ∨ a.progress = .ready) := by
  have hstep := step_outcome h c
  generalize s.step c = s' at hstep hb
  cases hstep with
  | same => exact ⟨b, hb, rfl, .inl hactive⟩
  | stepped s' hopens hsteps htasks hsettled =>
    obtain ⟨a, ha, hab⟩ := hsteps.exists_before hb
    have hbefore := hab.rel.active hactive
    refine ⟨a, ?_, hab.id.symm, hbefore⟩
    cases hopens with
    | same => exact ha
    | retried task new hretries =>
      refine (mem_append.1 ha).resolve_right fun hnew => ?_
      rw [mem_singleton.1 hnew, hretries.progress] at hbefore
      simp at hbefore

/-- What has succeeded stays so, by the same latest attempt. -/
def KeepsSuccess (s s' : DAGState) : Prop :=
  ∀ taskID, (taskSucceeded s.attempts taskID = true → taskSucceeded s'.attempts taskID = true) ∧
    ∀ a, latestAttempt s.attempts taskID = some a → a.progress = .succeeded →
      latestAttempt s'.attempts taskID = some a

theorem latest_of_steps (h : InPlace Steps before after)
    (hlatest : latestAttempt before taskID = some a) (hsucceeded : a.progress = .succeeded) :
    latestAttempt after taskID = some a := by
  have hrel := h.latest taskID
  rw [hlatest] at hrel
  generalize latestAttempt after taskID = last at hrel
  cases hrel with
  | some hab => rw [hab.rel.eq_of_succeeded hsucceeded]

theorem taskSucceeded_of_steps (h : InPlace Steps before after)
    (hsucceeded : taskSucceeded before taskID = true) : taskSucceeded after taskID = true := by
  simp only [taskSucceeded, any_eq_true, decide_eq_true_eq] at hsucceeded ⊢
  obtain ⟨a, ha, hown, hdone⟩ := hsucceeded
  obtain ⟨b, hb, hab⟩ := h.exists_after ha
  exact ⟨b, hb, hab.taskID.trans hown, by rw [hab.rel.eq_of_succeeded hdone]; exact hdone⟩

theorem step_keepsSuccess (h : s.Indexed) (c : DAGCall) : KeepsSuccess s (s.step c) := by
  have hstep := step_outcome h c
  generalize s.step c = s' at hstep
  intro taskID
  cases hstep with
  | same => exact ⟨id, fun a hlatest _ => hlatest⟩
  | stepped s' hopens hsteps htasks hsettled =>
    cases hopens with
    | same => exact ⟨taskSucceeded_of_steps hsteps, fun a => latest_of_steps hsteps⟩
    | retried task new hretries =>
      refine ⟨fun hsucceeded => taskSucceeded_of_steps hsteps ?_, fun a hlatest hdone =>
        latest_of_steps hsteps ?_ hdone⟩
      · unfold taskSucceeded at hsucceeded ⊢
        rw [any_append, hsucceeded, Bool.true_or]
      · -- a task whose latest attempt succeeded is not retried
        have hother : new.taskID ≠ taskID := by
          intro heq
          have hover := hretries.ended
          rw [currentTaskAttempt, ← hretries.taskID, heq, hlatest, Option.getD_some, hdone] at hover
          simp at hover
        simpa [latestAttempt, foldl_append, hother] using hlatest

theorem call_error (h : s.Indexed) (c : DAGCall) {e : Err}
    (herr : (s.call c).2 = some e) : (s.call c).1 = s := by
  have hcall := call_spec h c
  generalize s.call c = result at hcall herr
  cases hcall with
  | refused e => rfl
  | applied => cases herr

theorem newDAGExecution_ok {start s : DAGState} (h : newDAGExecution start = .ok s) :
    s.Indexed ∧ (WellFormed start.attempts → s.Invariant) := by
  obtain ⟨_, hvalid, h⟩ := of_bind h
  cases h
  have hindexed := (indexAndValidate_ok_iff.1 hvalid).toIndexed
  rw [refresh_eq_refreshWith]
  obtain ⟨hrefreshed, htasks, -, hsettled⟩ :=
    refreshWith_spec hindexed.attemptIDs hindexed.taskIDs 0 false
  have hnext := hindexed.inPlace hrefreshed htasks
  refine ⟨hnext, fun hwell => ⟨hnext, ?_, fun t ht => hsettled t (htasks ▸ ht)⟩⟩
  exact hwell.steps (hrefreshed.imp fun a b h => ⟨a, moves_refl a, h⟩)

/-- Over every sequence of calls from an accepted snapshot: an attempt becomes active only from
ready, what has succeeded stays, and a failed call changes nothing. From a well-formed snapshot the
attempts stay well formed and readiness follows the needs of each task. -/
theorem dag_runs_keep_invariant {start s : DAGState} (h : newDAGExecution start = .ok s)
    (calls : List DAGCall) :
    Runs.Along step (fun s c => ∀ b ∈ (s.step c).attempts, b.progress = .active →
        ∃ a ∈ s.attempts, a.id = b.id ∧ (a.progress = .active ∨ a.progress = .ready)) s calls ∧
      Runs.Throughout step KeepsSuccess s calls ∧
      Runs.Along step (fun s c => (s.call c).2 ≠ none → s.step c = s) s calls ∧
      (WellFormed start.attempts → ∀ before after, calls = before ++ after →
        (Runs.run step s before).Readiness ∧ WellFormed (Runs.run step s before).attempts ∧
        (Runs.run step s before).Indexed) := by
  obtain ⟨hindexed, hinvariant⟩ := newDAGExecution_ok h
  refine ⟨?_, ?_, ?_, ?_⟩
  · exact Runs.along_of_invariant (I := Indexed) (fun s c hs => step_indexed hs c)
      (fun s c hs b hb hactive => step_active hs c hb hactive) hindexed calls
  · rw [Runs.throughout_iff (fun s taskID => ⟨id, fun a hlatest _ => hlatest⟩)
      fun s₁ s₂ s₃ h h' taskID =>
      ⟨(h' taskID).1 ∘ (h taskID).1, fun a hlatest hdone => (h' taskID).2 a
        ((h taskID).2 a hlatest hdone) hdone⟩]
    exact Runs.along_of_invariant (I := Indexed) (fun s c hs => step_indexed hs c)
      (fun s c hs => step_keepsSuccess hs c) hindexed calls
  · refine Runs.along_of_invariant (I := Indexed) (fun s c hs => step_indexed hs c)
      (fun s c hs herr => ?_) hindexed calls
    obtain ⟨e, he⟩ := Option.ne_none_iff_exists'.1 herr
    exact call_error hs c he
  · intro hwell before after _
    have hrun : (Runs.run step s before).Invariant :=
      Runs.run_invariant (I := Invariant) (P := fun _ _ => True)
        (fun s c hs _ => step_invariant hs c) (hinvariant hwell) (Runs.along_of_forall fun _ _ _ => trivial)
    exact ⟨hrun.readiness, hrun.wellFormed, hrun.indexed⟩

def pairSnapshot : DAGState :=
  { run := { id := "r", workflowID := "w" }
    tasks := [{ id := "a", name := "a", workflowID := "w" },
      { id := "b", name := "b", workflowID := "w", needs := ["a"] }]
    attempts := [{ id := "a1", workflowRunID := "r", taskID := "a", number := 1, progress := .blocked },
      { id := "b1", workflowRunID := "r", taskID := "b", number := 1, progress := .blocked }] }

def pairCalls : List DAGCall :=
  [.startAttempt "a1" 1, .completeAttempt "a1" {} 2, .retryTask "a" "a2" 3, .startAttempt "a2" 4,
    .completeAttempt "a2" { explicitSuccess := true, verificationPassed := true } 5]

theorem pair_becomes_ready : (Runs.run step (refresh pairSnapshot) pairCalls).Readiness ∧
      (currentTaskAttempt (Runs.run step (refresh pairSnapshot) pairCalls).attempts "b").progress =
        .ready := by
  have hstart : newDAGExecution pairSnapshot = .ok (refresh pairSnapshot) := by decide
  have hwell : WellFormed pairSnapshot.attempts := by
    refine ⟨by decide, ?_, by decide⟩
    intro a ha b hb htask n hlow hhigh
    simp only [pairSnapshot, mem_cons, not_mem_nil, or_false] at ha hb
    rcases ha with rfl | rfl <;> rcases hb with rfl | rfl <;>
      exact absurd (hlow.trans hhigh) (lt_irrefl _)
  exact ⟨((dag_runs_keep_invariant hstart pairCalls).2.2.2 hwell pairCalls [] (by simp)).1, by decide⟩

def gapSnapshot : DAGState :=
  { run := { id := "r", workflowID := "w" }
    tasks := [{ id := "a", name := "a", workflowID := "w" }]
    attempts := [{ id := "a1", workflowRunID := "r", taskID := "a", number := 1, progress := .active },
      { id := "a3", workflowRunID := "r", taskID := "a", number := 3, progress := .blocked }] }

/-- The snapshot is accepted, with an older attempt that is not over and a number missing. -/
theorem gap_snapshot_accepted :
    ∃ s, newDAGExecution gapSnapshot = .ok s ∧ s.attempts.map Attempt.number = [1, 3] ∧
      s.attempts.map Attempt.taskID = ["a", "a"] ∧
      s.attempts.map Attempt.progress = [.active, .ready] :=
  ⟨refresh gapSnapshot, by decide, by decide, by decide, by decide⟩

end DAGState

end Steward
