import Steward.Store.Lease

/-!
# Fencing over whole runs

Clients call `ExecuteLease` in any order, at a clock that never goes back. `LeaseWrite` says which
rows a transaction may write: the next token for whoever acquires a lease that is not live, or the
live row renewed or released by the owner of its token, or by force. That tokens only grow and
holders stay dead follows from it.
-/

namespace Steward

open Runs Except Table Option List

def leaseToken (row : Option Lease) : Int := row.elim 0 Lease.token

@[simp] theorem leaseToken_granted (request : LeaseRequest) (now : Time) (token : Int) :
    leaseToken (some (request.granted now token)) = token := rfl

def LeaseHeld (row : Option Lease) (ownerThread : String) (token : Int) (now : Time) : Prop :=
  ∃ lease, row = some lease ∧ lease.live now = true ∧ lease.ownerThread = ownerThread ∧
    lease.token = token

def LeaseFree (row : Option Lease) (now : Time) : Prop := ∀ lease ∈ row, lease.live now = false

variable {token : Int}

theorem leaseHeld_token {row : Option Lease} {owner : String} {now : Time}
    (h : LeaseHeld row owner token now) : token = leaseToken row := by
  obtain ⟨lease, hrow, -, -, rfl⟩ := h
  rw [hrow]
  rfl

theorem LeaseFree.mono {row : Option Lease} {now now' : Time} (h : LeaseFree row now)
    (hle : now ≤ now') : LeaseFree row now' := by
  intro lease hlease
  have hdead := h lease hlease
  simp only [Lease.live, Bool.and_eq_false_iff, Bool.not_eq_false',
    decide_eq_false_iff_not] at hdead ⊢
  rcases hdead with hreleased | hexpired
  · exact .inl hreleased
  · exact .inr fun hlt => hexpired (Int.lt_of_le_of_lt hle hlt)

/-! ## What a transaction may write -/

/-- The rows a new request may write over the row it finds. -/
inductive LeaseWrite (row : Option Lease) (now : Time) (request : LeaseRequest) : Lease → Prop
  | acquire (haction : request.action = .acquire) (hfree : LeaseFree row now) :
      LeaseWrite row now request (request.granted now (leaseToken row + 1))
  | change (lease changed : Lease) (hrow : row = some lease) (hlive : lease.live now = true)
      (haction : request.action ≠ .acquire)
      (howner : request.force = false →
        lease.ownerThread = request.ownerThread ∧ lease.token = request.token)
      (hname : changed.name = lease.name) (hkeeps : changed.ownerThread = lease.ownerThread)
      (htoken : changed.token = lease.token) : LeaseWrite row now request changed

theorem nextLeaseToken_ok {row : Option Lease} (h : nextLeaseToken row = .ok token) :
    token = leaseToken row + 1 := by
  cases row with
  | none => exact (ok.inj h).symm
  | some lease =>
    simp only [nextLeaseToken, refuseWhen_bind_eq_ok_iff] at h
    exact (ok.inj h.2.2).symm

theorem leaseFree_iff {row : Option Lease} {now : Time} :
    LeaseFree row now ↔ row.filter (·.live now) = none := by
  simp [LeaseFree, filter_eq_none_iff]

variable {format : Time → String} {now : Time} {request : LeaseRequest}

section Writes

variable {row : Option Lease} {response : LeaseResponse} {lease : Lease} {written : Option Lease}

theorem acquireLease_of_free (hfree : LeaseFree row now)
    (h : acquireLease format row now request = .ok (written, response)) :
    written = some (request.granted now (leaseToken row + 1)) := by
  unfold acquireLease at h
  rw [leaseFree_iff.1 hfree] at h
  obtain ⟨token, htoken, h⟩ := of_bind h
  rw [← nextLeaseToken_ok htoken]
  exact (Prod.mk.inj (ok.inj h)).1.symm

theorem acquireLease_ok (haction : request.action = .acquire)
    (h : acquireLease format row now request = .ok (some lease, response)) :
    LeaseWrite row now request lease := by
  have hfree : LeaseFree row now := by
    rw [leaseFree_iff]
    cases hlive : row.filter (·.live now) with
    | none => rfl
    | some holder =>
      unfold acquireLease at h
      rw [hlive] at h
      dsimp only at h
      split_ifs at h <;> cases h
  rw [some.inj (acquireLease_of_free hfree h)]
  exact .acquire haction hfree

theorem changeLease_ok {change : Lease → Lease}
    (h : changeLease format change row now request = .ok (some lease, response))
    (haction : request.action ≠ .acquire) (hname : ∀ l, (change l).name = l.name)
    (hkeeps : ∀ l, (change l).ownerThread = l.ownerThread)
      (htoken : ∀ l, (change l).token = l.token) :
    LeaseWrite row now request lease := by
  unfold changeLease at h
  split at h
  · cases h
  · rename_i found hfound
    obtain ⟨hrow, hlive⟩ := filter_eq_some_iff.1 hfound
    split_ifs at h with hmatch
    · cases h
    · obtain rfl : change found = lease := some.inj (Prod.mk.inj (ok.inj h)).1
      refine .change found _ hrow hlive haction (fun hforce => ?_) (hname found) (hkeeps found)
        (htoken found)
      by_contra hdiffers
      exact hmatch ⟨hforce, by tauto⟩

theorem changeLease_replay {change : Lease → Lease}
    (h : changeLease format change row now request = .ok (written, response)) :
    response.replay = false := by
  unfold changeLease at h
  split at h
  · cases h
    rfl
  · split_ifs at h <;> (cases h; rfl)

theorem decideLease_ok (h : decideLease format row now request = .ok (some lease, response)) :
    LeaseWrite row now request lease := by
  unfold decideLease at h
  split at h
  · rename_i haction
    exact acquireLease_ok haction h
  · rename_i haction
    exact changeLease_ok h (by simp [haction]) (fun _ => rfl) (fun _ => rfl) (fun _ => rfl)
  · rename_i haction
    exact changeLease_ok h (by simp [haction]) (fun _ => rfl) (fun _ => rfl) (fun _ => rfl)
  · cases h

theorem decideLease_replay (h : decideLease format row now request = .ok (written, response)) :
    response.replay = false := by
  unfold decideLease at h
  split at h
  · unfold acquireLease at h
    split at h
    · split_ifs at h <;> (cases h; rfl)
    · obtain ⟨token, -, h⟩ := of_bind h
      cases h
      rfl
  · exact changeLease_replay h
  · exact changeLease_replay h
  · cases h
    rfl

/-- How a row may go on: its token does not fall, it is not deleted, and a token keeps its owner. -/
structure LeaseFollows (row row' : Option Lease) : Prop where
  token_le : leaseToken row ≤ leaseToken row'
  kept : row.isSome = true → row'.isSome = true
  owner : ∀ lease ∈ row, ∀ lease' ∈ row', lease'.token = lease.token →
    lease'.ownerThread = lease.ownerThread

theorem LeaseFollows.refl (row : Option Lease) : LeaseFollows row row :=
  ⟨le_rfl, id, fun l hl l' hl' _ => by rw [mem_unique hl hl']⟩

theorem LeaseFollows.trans {row₁ row₂ row₃ : Option Lease} (h : LeaseFollows row₁ row₂)
    (h' : LeaseFollows row₂ row₃) : LeaseFollows row₁ row₃ := by
  refine ⟨h.token_le.trans h'.token_le, h'.kept ∘ h.kept, ?_⟩
  intro l hl l'' hl'' htoken
  obtain ⟨l', hl'⟩ := isSome_iff_exists.1 (h.kept (isSome_iff_exists.2 ⟨l, hl⟩))
  have hle := h.token_le
  have hle' := h'.token_le
  rw [mem_def.1 hl, hl'] at hle
  rw [hl', mem_def.1 hl''] at hle'
  simp only [leaseToken, elim_some] at hle hle'
  have hfirst : l'.token = l.token := by omega
  rw [h'.owner l' hl' l'' hl'' (by omega), h.owner l hl l' hl' hfirst]

theorem LeaseWrite.follows (h : LeaseWrite row now request lease) :
    LeaseFollows row (some lease) := by
  cases h with
  | acquire haction hfree =>
    refine ⟨?_, fun _ => rfl, ?_⟩
    · rw [leaseToken_granted]
      omega
    · rintro l rfl l' hl' htoken
      cases hl'
      change l.token + 1 = l.token at htoken
      omega
  | change found changed hfound hlive haction howner hname hkeeps htoken =>
    subst hfound
    refine ⟨by simp [leaseToken, htoken], fun _ => rfl, ?_⟩
    rintro l hl l' hl' -
    rw [← some.inj hl, ← some.inj hl', hkeeps]

end Writes

/-! ## Steps -/

structure LeaseCall where
  now : Time
  request : LeaseRequest

namespace LeaseStore

variable {δ : Type}

def row (s : LeaseStore δ) (name : String) : Option Lease := s.leases.get? name

variable [DecidableEq δ]

def step (format : Time → String) (digest : LeaseRequest → δ) (s : LeaseStore δ) (c : LeaseCall) :
    LeaseStore δ :=
  committed s ((s.executeLease format digest c.now c.request).map Prod.fst)

variable {digest : LeaseRequest → δ} {s s' : LeaseStore δ} {c : LeaseCall}
  {name : String} {response : LeaseResponse}

theorem step_of_ok (h : s.executeLease format digest c.now c.request = .ok (s', response)) :
    s.step format digest c = s' := by
  unfold step
  rw [h]
  rfl

/-- What an answered call was: one that left the store alone, or a new mutating request that
committed its decision. -/
theorem executeLease_ok (h : s.executeLease format digest now request = .ok (s', response)) :
    request.validate = .ok () ∧
      (s' = s ∧ (request.mutating = true → ∃ receipt,
      s.receipts.get? request.requestID = some receipt ∧
          receipt.digest = digest request ∧ response = { receipt.response with replay := true }) ∨
        request.mutating = true ∧ s.receipts.get? request.requestID = none ∧
          s.answerLease format digest now request = .ok (s', response)) := by
  obtain ⟨_, hvalid, h⟩ := of_bind h
  refine ⟨hvalid, ?_⟩
  split_ifs at h with hmutating
  · cases h
    exact .inl ⟨rfl, fun hm => absurd hm (by simp [hmutating])⟩
  · split at h
    · rename_i receipt hreceipt
      split_ifs at h with hdigest
      cases h
      exact .inl ⟨rfl, fun _ => ⟨receipt, hreceipt, not_not.1 hdigest, rfl⟩⟩
    · rename_i hnone
      exact .inr ⟨Bool.eq_true_of_not_eq_false hmutating, hnone, h⟩

omit [DecidableEq δ] in
theorem answerLease_ok (h : s.answerLease format digest now request = .ok (s', response)) :
    (∃ written, decideLease format (s.row request.name) now request = .ok (written, response) ∧
        s'.row request.name = written.or (s.row request.name)) ∧
      (∀ name, name ≠ request.name → s'.row name = s.row name) ∧
      s'.receipts = s.receipts.put ⟨digest request, request, response, now⟩ := by
  obtain ⟨⟨written, answer⟩, hdecide, h⟩ := of_bind h
  cases h
  cases written with
  | none => exact ⟨⟨none, hdecide, rfl⟩, fun _ _ => rfl, rfl⟩
  | some lease =>
    have hname : lease.name = request.name := by
      cases decideLease_ok hdecide with
      | acquire => rfl
      | change found _ hfound _ _ _ hname => exact hname.trans (key_of_get? hfound)
    refine ⟨⟨some lease, hdecide, ?_⟩, fun name hne => ?_, rfl⟩
    · change (s.leases.put lease).get? request.name = some lease
      rw [← hname, get?_put_self]
    · exact get?_put_of_ne _ fun heq => hne (heq.symm.trans hname)

/-- A step leaves a row alone, or is answered for the first time and writes what is allowed
over it. -/
theorem step_row (format : Time → String) (digest : LeaseRequest → δ) (s : LeaseStore δ)
    (c : LeaseCall) (name : String) :
    (s.step format digest c).row name = s.row name ∨ name = c.request.name ∧
        (∃ s' response, s.executeLease format digest c.now c.request = .ok (s', response) ∧
          response.replay = false) ∧
        ∃ lease, LeaseWrite (s.row name) c.now c.request lease ∧
          (s.step format digest c).row name = some lease := by
  unfold step
  cases h : s.executeLease format digest c.now c.request with
  | error e => exact .inl rfl
  | ok result =>
    obtain ⟨s', response⟩ := result
    rcases (executeLease_ok h).2 with ⟨rfl, -⟩ | ⟨-, -, hanswer⟩
    · exact .inl rfl
    · obtain ⟨⟨written, hdecide, hrow⟩, hothers, -⟩ := answerLease_ok hanswer
      by_cases hname : name = c.request.name
      · subst hname
        cases written with
        | none => exact .inl hrow
        | some lease =>
          exact .inr ⟨rfl, ⟨s', response, rfl, decideLease_replay hdecide⟩, lease,
            decideLease_ok hdecide, hrow⟩
      · exact .inl (hothers name hname)

variable {receipt : LeaseReceipt δ}

theorem step_receipts {id : String} (h : s.receipts.get? id = some receipt) :
    (s.step format digest c).receipts.get? id = some receipt := by
  unfold step
  cases hcall : s.executeLease format digest c.now c.request with
  | error e => exact h
  | ok result =>
    obtain ⟨s', response⟩ := result
    rcases (executeLease_ok hcall).2 with ⟨rfl, -⟩ | ⟨-, hnone, hanswer⟩
    · exact h
    · obtain ⟨-, -, hreceipts⟩ := answerLease_ok hanswer
      change s'.receipts.get? id = some receipt
      rw [hreceipts, get?_put_of_ne _ ?_]
      · exact h
      · intro heq
        change c.request.requestID = id at heq
        rw [heq, h] at hnone
        cases hnone

/-! ## What one step keeps -/

def Acquires (format : Time → String) (digest : LeaseRequest → δ) (s : LeaseStore δ) (c : LeaseCall)
    (name : String) : Prop :=
  c.request.name = name ∧ c.request.action = .acquire ∧ LeaseFree (s.row name) c.now ∧
    ∃ s' response, s.executeLease format digest c.now c.request = .ok (s', response) ∧
      response.replay = false

/-- An acquisition makes its caller the live holder of the next token. -/
theorem step_of_acquires (h : s.Acquires format digest c name) :
    LeaseHeld ((s.step format digest c).row name) c.request.ownerThread
        (leaseToken (s.row name) + 1) c.now := by
  obtain ⟨rfl, haction, hfree, s', response, hcall, hreplay⟩ := h
  have hmutating : c.request.mutating = true := by simp [LeaseRequest.mutating, haction]
  obtain ⟨hvalid, ⟨-, hreceipt⟩ | ⟨-, -, hanswer⟩⟩ := executeLease_ok hcall
  · obtain ⟨receipt, -, -, rfl⟩ := hreceipt hmutating
    cases hreplay
  · obtain ⟨⟨written, hdecide, hrow⟩, -, -⟩ := answerLease_ok hanswer
    simp only [decideLease, haction] at hdecide
    rw [acquireLease_of_free hfree hdecide] at hrow
    have hterm := LeaseRequest.validate_ttl hvalid (.inl haction)
    rw [step_of_ok hcall]
    have hlive := Int.lt_add_of_pos_right c.now hterm
    exact ⟨_, hrow, decide_eq_true hlive, rfl, rfl⟩

theorem step_of_not_acquires (h : ¬s.Acquires format digest c name) :
    leaseToken ((s.step format digest c).row name) = leaseToken (s.row name) := by
  rcases step_row format digest s c name with
    hrow | ⟨rfl, hanswered, lease, hwrite, hrow⟩
  · rw [hrow]
  · rw [hrow]
    cases hwrite with
    | acquire haction hfree => exact absurd ⟨rfl, haction, hfree, hanswered⟩ h
    | change found changed hfound hlive haction howner hname hkeeps htoken =>
      rw [hfound]
      exact htoken

theorem step_follows (s : LeaseStore δ) (c : LeaseCall) (name : String) :
    LeaseFollows (s.row name) ((s.step format digest c).row name) := by
  rcases step_row format digest s c name with
    hrow | ⟨rfl, -, lease, hwrite, hrow⟩
  · rw [hrow]
    exact LeaseFollows.refl _
  · rw [hrow]
    exact hwrite.follows

/-- A row that is not live stays as it is until somebody acquires the next token. -/
theorem step_of_free (h : LeaseFree (s.row name) c.now) :
    (s.step format digest c).row name = s.row name ∨
      leaseToken (s.row name) < leaseToken ((s.step format digest c).row name) := by
  rcases step_row format digest s c name with
    hrow | ⟨rfl, -, lease, hwrite, hrow⟩
  · exact .inl hrow
  · rw [hrow]
    cases hwrite with
    | acquire haction hfree =>
      rw [leaseToken_granted]
      exact .inr (by omega)
    | change found changed hfound hlive haction howner hname hkeeps htoken =>
      rw [h found hfound] at hlive
      cases hlive

theorem step_changed (haction : c.request.action ≠ .acquire) (hforce : c.request.force = false)
    (h : (s.step format digest c).row name ≠ s.row name) :
    name = c.request.name ∧ LeaseHeld (s.row name) c.request.ownerThread c.request.token c.now := by
  rcases step_row format digest s c name with
    hrow | ⟨rfl, -, lease, hwrite, hrow⟩
  · exact absurd hrow h
  · cases hwrite with
    | acquire haction' hfree => exact absurd haction' haction
    | change found changed hfound hlive haction' howner hname hkeeps htoken =>
      exact ⟨rfl, found, hfound, hlive, howner hforce⟩

/-! ## Replays -/

theorem executeLease_receipt (hmutating : request.mutating = true)
    (h : s.executeLease format digest now request = .ok (s', response)) :
    ∃ receipt, s'.receipts.get? request.requestID = some receipt ∧ receipt.digest = digest request ∧
      { receipt.response with replay := true } = { response with replay := true } := by
  rcases (executeLease_ok h).2 with ⟨rfl, hreceipt⟩ | ⟨-, -, hanswer⟩
  · obtain ⟨receipt, hfound, hdigest, rfl⟩ := hreceipt hmutating
    exact ⟨receipt, hfound, hdigest, rfl⟩
  · obtain ⟨-, -, hreceipts⟩ := answerLease_ok hanswer
    refine ⟨⟨digest request, request, response, now⟩, ?_, rfl, rfl⟩
    rw [hreceipts]
    exact get?_put_self _ _

theorem executeLease_of_receipt (hmutating : request.mutating = true)
    (hreceipt : s.receipts.get? request.requestID = some receipt) :
    (receipt.digest = digest request → request.validate = .ok () →
      s.executeLease format digest now request =
        .ok (s, { receipt.response with replay := true })) ∧
    (receipt.digest ≠ digest request → ∃ e, s.executeLease format digest now request = .error e) := by
  unfold executeLease
  constructor
  · intro hdigest hvalid
    simp [hvalid, hmutating, hreceipt, hdigest]
  · intro hdigest
    cases hvalid : request.validate with
    | error e => exact ⟨e, rfl⟩
    | ok u =>
      exact ⟨{ text := "lease request id reused with a different digest" },
        by simp [hmutating, hreceipt, hdigest]⟩

/-! ## Runs -/

/-- The calls come in the order of their clocks. -/
def ClockForward (calls : List LeaseCall) : Prop := calls.Pairwise fun c c' => c.now ≤ c'.now

/-- What every run of calls guarantees. -/
structure Fenced (format : Time → String) (digest : LeaseRequest → δ) (s : LeaseStore δ)
    (calls : List LeaseCall) : Prop where
  /-- The token of a name never falls. -/
  token_le : Throughout (step format digest)
    (fun a b => ∀ name, leaseToken (a.row name) ≤ leaseToken (b.row name)) s calls
  /-- A call that acquires a lease which is not live raises its token by one and makes the caller
  its live holder; no other call moves a token. -/
  token_step : Along (step format digest) (fun a c => ∀ name, (a.Acquires format digest c name →
      leaseToken ((a.step format digest c).row name) = leaseToken (a.row name) + 1 ∧
      LeaseHeld ((a.step format digest c).row name) c.request.ownerThread
        (leaseToken (a.row name) + 1) c.now) ∧
    (¬a.Acquires format digest c name →
      leaseToken ((a.step format digest c).row name) = leaseToken (a.row name))) s calls
  /-- At every moment at most one holder and token is live for a name. -/
  one_holder : ∀ before after, calls = before ++ after → ∀ name now owner token owner' token',
    LeaseHeld ((run (step format digest) s before).row name) owner token now →
    LeaseHeld ((run (step format digest) s before).row name) owner' token' now →
    owner = owner' ∧ token = token'
  /-- A token belongs to one owner for the whole run. -/
  token_owner : Throughout (step format digest)
    (fun a b => ∀ name, ∀ lease ∈ a.row name, ∀ lease' ∈ b.row name, lease'.token = lease.token →
      lease'.ownerThread = lease.ownerThread) s calls
  /-- A lease found free at a call is live under none of the tokens given out until then at any
  later moment. -/
  free_stays : ∀ before c after rest, calls = before ++ c :: after ++ rest →
    ∀ name, LeaseFree ((run (step format digest) s before).row name) c.now →
    ∀ owner token now, c.now ≤ now →
      token ≤ leaseToken ((run (step format digest) s before).row name) →
      ¬LeaseHeld ((run (step format digest) s (before ++ c :: after)).row name) owner token now
  /-- A renewal or release without force changes a row only for the owner and token of the live
  lease. -/
  changed_by_holder : Along (step format digest) (fun a c =>
    c.request.action = .renew ∨ c.request.action = .release → c.request.force = false →
    ∀ name, (a.step format digest c).row name ≠ a.row name →
      name = c.request.name ∧
        LeaseHeld (a.row name) c.request.ownerThread c.request.token c.now) s calls
  /-- So none that carries an older token changes the row. -/
  older_token : Along (step format digest) (fun a c =>
    c.request.action = .renew ∨ c.request.action = .release → c.request.force = false →
    c.request.token < leaseToken (a.row c.request.name) →
      (a.step format digest c).row c.request.name = a.row c.request.name) s calls
  /-- A mutating request that repeats the id of an answered one is given the first response, marked
  as a replay, and changes nothing; with other content it is refused. -/
  replay : ∀ before c mid c' rest, calls = before ++ c :: mid ++ c' :: rest →
    c.request.mutating = true → c'.request.mutating = true →
    c'.request.requestID = c.request.requestID →
    ∀ s₁ response, (run (step format digest) s before).executeLease format digest c.now
        c.request = .ok (s₁, response) →
    let s₂ := run (step format digest) s (before ++ c :: mid)
    (c'.request = c.request → s₂.executeLease format digest c'.now c'.request =
      .ok (s₂, { response with replay := true })) ∧
    (c'.request ≠ c.request → ∃ e, s₂.executeLease format digest c'.now c'.request = .error e)
  /-- A request that does not mutate changes nothing. -/
  reads : Along (step format digest)
    (fun a c => c.request.mutating = false → a.step format digest c = a) s calls

theorem run_follows (s : LeaseStore δ) (calls : List LeaseCall) : Throughout (step format digest)
      (fun a b => ∀ name, LeaseFollows (a.row name) (b.row name)) s calls := by
  rw [throughout_iff (fun a name => .refl _) fun a b c h h' name => (h name).trans (h' name)]
  exact along_of_forall fun a c _ name => step_follows a c name

theorem run_of_free (hfree : LeaseFree (s.row name) now) {calls : List LeaseCall}
    (hclock : ∀ c ∈ calls, now ≤ c.now) :
    (run (step format digest) s calls).row name = s.row name ∨
      leaseToken (s.row name) < leaseToken ((run (step format digest) s calls).row name) := by
  refine run_invariant (P := fun _ c => now ≤ c.now)
    (I := fun a : LeaseStore δ => a.row name = s.row name ∨
    leaseToken (s.row name) < leaseToken (a.row name))
    ?_ (.inl rfl) (along_of_forall fun _ c hc => hclock c hc)
  rintro a c (hrow | hnewer) hnow
  · rw [← hrow] at hfree ⊢
    exact step_of_free (hfree.mono hnow)
  · exact .inr (hnewer.trans_le (step_follows a c name).token_le)

theorem run_receipts {id : String} (h : s.receipts.get? id = some receipt)
    (calls : List LeaseCall) : (run (step format digest) s calls).receipts.get? id = some receipt :=
  run_invariant (P := fun _ _ => True) (I := fun a : LeaseStore δ => a.receipts.get? id =
    some receipt) (fun _ _ ha _ => step_receipts ha) h (along_of_forall fun _ _ _ => trivial)

/-- The fencing guarantees hold in every run whose clock never goes back. -/
theorem leases_are_fenced (hdigest : Function.Injective digest) (s : LeaseStore δ)
    (calls : List LeaseCall) (hclock : ClockForward calls) : Fenced format digest s calls where
  token_le earlier later rest hcalls name :=
    (run_follows s calls earlier later rest hcalls name).token_le
  token_step := along_of_forall fun a c _ name => by
    refine ⟨fun h => ?_, step_of_not_acquires⟩
    have hheld := step_of_acquires h
    exact ⟨(leaseHeld_token hheld).symm, hheld⟩
  one_holder before after _ name now owner token owner' token' h h' := by
    obtain ⟨lease, hrow, -, rfl, rfl⟩ := h
    obtain ⟨lease', hrow', -, rfl, rfl⟩ := h'
    cases hrow.symm.trans hrow'
    exact ⟨rfl, rfl⟩
  token_owner earlier later rest hcalls name :=
    (run_follows s calls earlier later rest hcalls name).owner
  free_stays before c after rest hcalls name hfree owner token now hnow htoken hheld := by
    have hlater : ∀ c' ∈ c :: after, c.now ≤ c'.now := by
      rw [hcalls, ClockForward, append_assoc, pairwise_append, cons_append, pairwise_cons] at hclock
      intro c' hc'
      rcases mem_cons.1 hc' with rfl | hc'
      · exact le_rfl
      · exact hclock.2.1.1 c' (mem_append_left _ hc')
    have hcurrent := leaseHeld_token hheld
    rw [run_append] at hheld hcurrent
    rcases run_of_free hfree hlater with hrow | hnewer
    · rw [hrow] at hheld
      obtain ⟨lease, hlease, hlive, -, -⟩ := hheld
      rw [hfree.mono hnow lease hlease] at hlive
      cases hlive
    · omega
  changed_by_holder := along_of_forall fun a c _ haction hforce name h =>
    step_changed (by rcases haction with h | h <;> simp [h]) hforce h
  older_token := along_of_forall fun a c _ haction hforce htoken => by
    by_contra hchanged
    obtain ⟨-, hheld⟩ := step_changed (by rcases haction with h | h <;> simp [h]) hforce hchanged
    rw [leaseHeld_token hheld] at htoken
    exact absurd htoken (lt_irrefl _)
  replay before c mid c' rest hcalls hmutating hmutating' hid s₁ response hcall := by
    obtain ⟨receipt, hreceipt, hdigest', hresponse⟩ := executeLease_receipt hmutating hcall
    intro s₂
    have hs₂ : s₂ = run (step format digest) s₁ mid := by
      rw [← step_of_ok hcall]
      exact run_append _ _ _
    have hkept : s₂.receipts.get? c'.request.requestID = some receipt := by
      rw [hs₂, hid]
      exact run_receipts hreceipt mid
    obtain ⟨hsame, hother⟩ := executeLease_of_receipt hmutating' hkept
    constructor
    · intro heq
      rw [← hresponse]
      refine hsame (by rw [heq, hdigest']) ?_
      rw [heq]
      exact (executeLease_ok hcall).1
    · intro hne
      refine hother fun heq => hne (hdigest ?_).symm
      rw [← hdigest', heq]
  reads := along_of_forall fun a c _ hreads => by
    unfold step
    cases hcall : a.executeLease format digest c.now c.request with
    | error e => rfl
    | ok result =>
      rcases (executeLease_ok hcall).2 with ⟨hsame, -⟩ | ⟨hmutating, -⟩
      · exact hsame
      · rw [hreads] at hmutating
        cases hmutating

/-! ## A handover -/

def acquireMain : LeaseRequest :=
  { action := .acquire, name := "repo:p/main", ownerThread := "a", principal := "p", reason := "w"
    requestID := "r1", ttl := minLeaseTTL }

def takeMain : LeaseRequest := { acquireMain with ownerThread := "b", requestID := "r2" }

def lateRelease : LeaseRequest :=
  { action := .release, name := "repo:p/main", ownerThread := "a", principal := "p"
    requestID := "r3", token := 1 }

def handover : List LeaseCall :=
  [⟨0, acquireMain⟩, ⟨2 * minLeaseTTL, takeMain⟩, ⟨2 * minLeaseTTL, lateRelease⟩,
    ⟨2 * minLeaseTTL, acquireMain⟩]

theorem handover_is_fenced : Fenced (fun _ => "") id {} handover ∧
      leaseToken ((Runs.run (step (fun _ => "") id) {} handover).row "repo:p/main") = 2 :=
  ⟨leases_are_fenced Function.injective_id {} handover (by unfold ClockForward; decide), by decide⟩

def showMain : LeaseRequest := { action := .show, name := "repo:p/main", requestID := "r1" }

/-- A read under the id of an answered request is answered, not refused. -/
theorem read_reuses_request_id :
    ∃ s₁ response, ({} : LeaseStore LeaseRequest).executeLease (fun _ => "") id 0 acquireMain =
        .ok (s₁, response) ∧
      showMain.requestID = acquireMain.requestID ∧ showMain ≠ acquireMain ∧
      ∃ answer, s₁.executeLease (fun _ => "") id 1 showMain = .ok (s₁, answer) :=
  ⟨_, _, rfl, rfl, by decide, _, rfl⟩

end LeaseStore

end Steward
