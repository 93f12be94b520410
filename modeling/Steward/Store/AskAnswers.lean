import Mathlib.Data.List.DropRight
import Steward.Lib.Runs
import Steward.Store.TaskWaits

/-!
# Answers to a question

An ask settles by an answer or at its deadline. These are separate transactions that race for the
row, and each writes it only while it is live.
-/

namespace Steward

open Except Table Text Runs List

theorem trimSpace_trimSpace (text : String) : trimSpace (trimSpace text) = trimSpace text := by
  unfold trimSpace
  rw [String.toList_ofList]
  generalize hrest : text.toList.dropWhile isSpace = rest
  have hkept : (rest.rdropWhile isSpace).dropWhile isSpace = rest.rdropWhile isSpace := by
    rcases hhead : rest.rdropWhile isSpace with _ | ⟨c, kept⟩
    · rfl
    · obtain ⟨tail, htail⟩ := rdropWhile_prefix isSpace rest
      rw [hhead, ← hrest] at htail
      refine dropWhile_cons_of_neg fun hspace => ?_
      have hfirst := head?_dropWhile_not isSpace text.toList
      rw [← htail] at hfirst
      exact absurd hspace (by simpa using hfirst)
  exact congrArg String.ofList ((congrArg _ hkept).trans (rdropWhile_idempotent isSpace rest))

/-- An answer to an ask, or a pass over the waits whose deadline is over. -/
inductive AskOp
  | answer (answer : AskAnswer) (principal : String) (approver : Bool) (now : Time)
  | expire (now : Time)

def AskOp.now : AskOp → Time
  | .answer _ _ _ now | .expire now => now

def askStep (s : Store) : AskOp → Store
  | .answer answer principal approver now =>
    committed s ((s.answerAsk answer principal approver now).map Prod.fst)
  | .expire now => committed s ((s.expireTaskWaits now).map Prod.fst)

/-- Who may answer and where: an ask that requires an approver takes an approver's answer from the
CLI; an answer in T3 comes from the ask's own relay thread, one from the CLI names none. -/
structure AnswerAllowed (ask : AskRequest) (answer : AskAnswer) (approver : Bool) : Prop where
  actor : ask.requires = .approver → answer.source = .cli ∧ approver = true
  channel : answer.source = .cli ∧ answer.threadID = "" ∨
    answer.source = .t3 ∧ answer.threadID ≠ "" ∧ ask.relayThread = some answer.threadID

namespace Store

def answeredWait (w : TaskWait) (ask : AskRequest) (answer : AskAnswer) (principal : String)
    (now : Time) : TaskWait :=
  let record := recordedAnswer w ask answer principal now
  settledWait { w with askAnswer := some record } (answeredResult record principal) now

/-- What an operation records on a live wait: an allowed and accepted answer before the deadline,
the outcome of the deadline from then on. -/
inductive SettledBy (w : TaskWait) : AskOp → TaskWait → Prop
  | answered (ask : AskRequest) (answer : AskAnswer) (principal : String) (approver : Bool)
      (now : Time)
      (asked : w.kind = .ask ∧ w.ask = some ask) (named : answer.askID = w.id ∧ w.id ≠ "")
      (early : now < w.deadline) (allowed : AnswerAllowed ask answer approver)
      (accepted : ask.checkAnswer answer.options (trimSpace answer.freeText) = .ok ()) :
      SettledBy w (.answer answer principal approver now) (answeredWait w ask answer principal now)
  | expired (op : AskOp) (due : ¬op.now < w.deadline) : SettledBy w op (expiredWait w op.now).1

variable {s s' : Store} {w w' : TaskWait} {ask : AskRequest} {answer : AskAnswer} {approver : Bool}
  {principal : String} {now : Time} {op : AskOp}

theorem answerAllowed_iff : AnswerAllowed ask answer approver ↔
    ¬(answer.source ≠ .t3 ∧ answer.source ≠ .cli) ∧ ¬(answer.source = .cli ∧ answer.threadID ≠ "") ∧
      checkAnswerAuthority w ask answer approver = .ok () := by
  simp only [checkAnswerAuthority, refuseWhen_bind_eq_ok_iff, refuseWhen_eq_ok_iff,
    Option.all_eq_true, decide_eq_true_eq]
  constructor
  · rintro ⟨hactor, hchannel⟩
    grind
  · rintro ⟨hsource, hthread, happrover, hactor, hrelay⟩
    constructor <;> grind

theorem expiredWait_from (w : TaskWait) (now : Time) : SettledFrom w (expiredWait w now).1 := by
  unfold expiredWait applyAskDeadline
  cases w.ask with
  | none | some =>
    dsimp only
    split_ifs <;> exact ⟨rfl, rfl, rfl, rfl, rfl, rfl⟩

theorem expireTaskWait_writes (s : Store) (w : TaskWait) (now : Time) :
    (s.expireTaskWait w now).1.attempts = s.attempts ∧
      (s.expireTaskWait w now).1.taskWaits = s.taskWaits.put (expiredWait w now).1 := by
  unfold expireTaskWait
  dsimp only
  split_ifs
  · exact ⟨recordTaskWaitEvent_attempts _ _, recordTaskWaitEvent_taskWaits _ _⟩
  · exact ⟨rfl, rfl⟩

theorem expireTaskWaits_ok {expired : List TaskWait} (h : s.expireTaskWaits now = .ok (s',
    expired)) : SettlesLive (SettledBy · (.expire now)) s s' := by
  replace h := past_guard h
  have hfold : ∀ (step : Store × List TaskWait → TaskWait → Store × List TaskWait),
      (∀ acc w, (step acc w).1 = (acc.1.expireTaskWait w now).1) →
      ∀ (due : List TaskWait) acc, (due.foldl step acc).1.attempts = acc.1.attempts ∧
        (due.foldl step acc).1.taskWaits =
          acc.1.taskWaits.putAll (due.map fun w => (expiredWait w now).1) := by
    intro step hstep due
    induction due with
    | nil => exact fun acc => ⟨rfl, rfl⟩
    | cons w due ih =>
      intro acc
      obtain ⟨hattempts, hwaits⟩ := expireTaskWait_writes acc.1 w now
      rw [← hstep] at hattempts hwaits
      rw [foldl_cons, map_cons, putAll_cons, ← hwaits, ← hattempts]
      exact ih (step acc w)
  obtain ⟨hattempts, hwaits⟩ : s'.attempts = s.attempts ∧ s'.taskWaits = s.taskWaits.putAll
      ((s.taskWaits.rows.filter fun w => w.live ∧
      ¬now < w.deadline).map fun w => (expiredWait w now).1) := by
    have hstore : _ = s' := congrArg Prod.fst (ok.inj h)
    rw [← hstore]
    refine hfold _ ?_ _ (s, [])
    exact fun _ _ => rfl
  refine ⟨hattempts, _, fun w => (expiredWait w now).1, fun w hw => ?_, hwaits⟩
  obtain ⟨hmem, hdue⟩ := mem_filter.1 hw
  obtain ⟨hlive, hdue⟩ := of_decide_eq_true hdue
  exact ⟨hmem, hlive, expiredWait_from w now, .expired (.expire now) hdue⟩

theorem answerAsk_ok {reply : Except Err TaskWait}
    (h : s.answerAsk answer principal approver now = .ok (s', reply)) :
    SettlesLive (SettledBy · (.answer answer principal approver now)) s s' := by
  obtain ⟨hnamed, h⟩ := of_guard h
  obtain ⟨hsource, h⟩ := of_guard h
  obtain ⟨hthread, h⟩ := of_guard h
  split at h
  · cases h
  · rename_i wait hrow
    have hmem := mem_of_get? hrow
    have hid : answer.askID = wait.id := (key_of_get? hrow).symm
    split at h
    · rename_i ask hkind hask
      obtain ⟨_, hauthority, h⟩ := of_bind h
      split at h
      · split_ifs at h
        rw [← (Prod.mk.inj (ok.inj h)).1]
        exact SettlesLive.refl s
      · split_ifs at h with hlate
        · cases h
          obtain ⟨hattempts, hwaits⟩ := expireTaskWait_writes s wait now
          exact SettlesLive.one hmem hlate.1 (expiredWait_from wait now)
            (.expired (.answer answer principal approver now) hlate.2) hattempts hwaits
        · obtain ⟨hopen, h⟩ := of_guard h
          split at h
          · cases h
          · rename_i haccepted
            obtain ⟨attempt, -, h⟩ := of_bind h
            replace h := past_guard h
            rw [← (Prod.mk.inj (ok.inj h)).1]
            have hearly : now < wait.deadline := by
              by_contra hdue
              exact hlate ⟨by simpa [TaskWait.live, TaskWait.settled] using hopen, hdue⟩
            refine settleTaskWaitTx_settles hmem ?_ (by rfl) _ now ?_
            · exact ⟨rfl, rfl, rfl, rfl, rfl, rfl⟩
            · exact .answered ask answer principal approver now ⟨hkind, hask⟩
                ⟨hid, fun hempty => hnamed (.inl (hid.trans hempty))⟩ hearly
                (answerAllowed_iff.2 ⟨hsource, hthread, hauthority⟩) haccepted
    · cases h

/-! ## Rows over a run -/

theorem SettlesLive.paired {R : TaskWait → TaskWait → Prop} (h : SettlesLive R s s') :
    Paired (fun w w' => w.live = true ∧ SettledFrom w w' ∧ R w w' ∨ w' = w) s.taskWaits
      s'.taskWaits := by
  obtain ⟨-, ws, f, hf, hwaits⟩ := h
  rw [hwaits]
  refine (Paired.of_putAll (fun w hw => (hf w hw).1) fun w hw => (hf w hw).2.2.1.id).mono ?_
  rintro w - w' - (⟨hin, rfl⟩ | ⟨-, rfl⟩)
  · exact .inl (hf w hin).2
  · exact .inr rfl

theorem SettledBy.settled (h : SettledBy w op w') : w'.live = false := by
  cases h with
  | answered => rfl
  | expired =>
    unfold expiredWait
    dsimp only
    split_ifs <;> rfl

theorem askStep_row (op : AskOp) (hw : w ∈ s.taskWaits.rows) : w ∈ (askStep s op).taskWaits.rows ∨
    w.live = true ∧ ∃ w' ∈ (askStep s op).taskWaits.rows, SettledBy w op w' := by
  have hsettles : SettlesLive (SettledBy · op) s (askStep s op) := by
    cases op with
    | answer answer principal approver now =>
      refine rel_committed SettlesLive.refl fun s' h => ?_
      obtain ⟨reply, h⟩ := map_fst_eq_ok h
      exact answerAsk_ok h
    | expire now =>
      refine rel_committed SettlesLive.refl fun s' h => ?_
      obtain ⟨expired, h⟩ := map_fst_eq_ok h
      exact expireTaskWaits_ok h
  obtain ⟨w', hw', -, ⟨hlive, -, hby⟩ | rfl⟩ := hsettles.paired.forward w hw
  · exact .inr ⟨hlive, w', hw', hby⟩
  · exact .inl hw'

theorem askRun_settled (hw : w ∈ s.taskWaits.rows) (hsettled : w.live = false) (ops : List AskOp) :
    w ∈ (run askStep s ops).taskWaits.rows := by
  refine run_invariant (I := fun s : Store => w ∈ s.taskWaits.rows) (P := fun _ _ => True)
    (fun s op hw _ => ?_) hw (along_of_forall fun _ _ _ => trivial)
  rcases askStep_row op hw with hkept | ⟨hlive, -⟩
  · exact hkept
  · rw [hsettled] at hlive
    cases hlive

theorem SettledBy.repeated (h : SettledBy w (.answer answer principal approver now) w')
    (hearly : now < w.deadline) (hw' : w' ∈ s.taskWaits.rows) {again : String} {later : Time}
    (hagain : again ≠ "") (hlater : later ≠ 0) :
    s.answerAsk answer again approver later = .ok (s, .ok w') := by
  cases h with
  | expired _ due => exact absurd hearly due
  | answered ask _ _ _ _ asked named early allowed accepted =>
    have hget : s.taskWaits.get? w.id = some (answeredWait w ask answer principal now) :=
      mem_rows_iff.1 hw'
    have hkind : (answeredWait w ask answer principal now).kind = .ask := asked.1
    have hask : (answeredWait w ask answer principal now).ask = some ask := asked.2
    have hprior : (answeredWait w ask answer principal now).askAnswer =
      some (recordedAnswer w ask answer principal now) := rfl
    generalize answeredWait w ask answer principal now = row at hget hkind hask hprior
    obtain ⟨hsource, hthread, hauthority⟩ := (answerAllowed_iff (w := row)).1 allowed
    unfold answerAsk
    rw [refuseWhen_of_not (by rw [named.1]; simp [named.2, hagain, hlater]), ok_bind,
      refuseWhen_of_not hsource, ok_bind, refuseWhen_of_not hthread, ok_bind, named.1]
    simp only [hget, hkind, hask, hauthority, ok_bind, hprior]
    rw [if_pos]
    simp [sameAnswer, recordedAnswer, trimSpace_trimSpace]

/-- The row stays as it is, or one operation settles it and every later one leaves it. -/
def SettlesOnce (s : Store) (w : TaskWait) (ops : List AskOp) : Prop :=
  w ∈ (run askStep s ops).taskWaits.rows ∨
    ∃ before op after w', ops = before ++ op :: after ∧ w ∈ (run askStep s before).taskWaits.rows ∧
      w.live = true ∧ SettledBy w op w' ∧
      ∀ l, l <+: after → w' ∈ (run askStep s (before ++ op :: l)).taskWaits.rows

/-- In every interleaving of answers and expiry passes a wait is settled at most once: by an answer
that is allowed, accepted and before the deadline, or as the deadline says. The recorded answer is
returned whenever it is given again. -/
theorem ask_settles_once (s : Store) (w : TaskWait) (hw : w ∈ s.taskWaits.rows) (ops : List AskOp) :
    SettlesOnce s w ops ∧
      ∀ answer principal approver now w', SettledBy w (.answer answer principal approver now) w' →
        now < w.deadline → ∀ s : Store, w' ∈ s.taskWaits.rows → ∀ again later, again ≠ "" →
          later ≠ 0 → s.answerAsk answer again approver later = .ok (s, .ok w') := by
  refine ⟨?_, fun answer principal approver now w' hby hearly s hw' again later =>
    hby.repeated hearly hw'⟩
  induction ops generalizing s with
  | nil => exact .inl hw
  | cons op ops ih =>
    rcases askStep_row op hw with hkept | ⟨hlive, w', hw', hby⟩
    · rcases ih (askStep s op) hkept with hend | ⟨before, op', after, w', rfl, hbefore, hafter⟩
      · exact .inl hend
      · exact .inr ⟨op :: before, op', after, w', rfl, hbefore, hafter⟩
    · exact .inr ⟨[], op, ops, w', rfl, hw, hlive, hby, fun l _ => askRun_settled hw' hby.settled l⟩

def openAsk : TaskWait :=
  { id := "q", attemptID := "a", kind := .ask, deadline := 10
    ask := some { question := "now?", options := ["yes", "no"], onDeadline := .fail } }

def askedStore : Store :=
  { attempts := ofList _ [{ id := "a", progress := .waitingExternal }]
    taskWaits := ofList _ [openAsk] }

def answerThenExpire : List AskOp :=
  [.answer { askID := "q", options := ["yes"], source := .cli } "owner" false 5, .expire 20]

/-- The answer is recorded, and the deadline changes nothing. -/
theorem answered_ask_settles_once : SettlesOnce askedStore openAsk answerThenExpire ∧
    ((run askStep askedStore answerThenExpire).taskWaits.get? "q").map
      (fun w => (w.settledAt, w.askAnswer.map AskAnswer.options)) = some (some 5, some ["yes"]) :=
  ⟨(ask_settles_once askedStore openAsk (by decide) answerThenExpire).1, by decide⟩

end Store

end Steward
