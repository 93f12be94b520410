import Steward.Worker.Calls

/-!
# Following the records of a run

What one call does to the records, and how a task is followed through its calls: what it reads is
what the journal holds, a task on one attempt leaves the others alone and keeps its own directives,
and a pass meets a contract when each of its attempts does.
-/

namespace Steward.Worker

open Process.Fallible Table

/-! ## One update -/

/-- An update writes the record of its assignment only, and nothing but what the change makes of the
record that was there. -/
structure UpdateSpec (j : Journal) (id : String) (change : Int → AttemptRecord →
    Option AttemptRecord) (updated : Updated) (j' : Journal) : Prop where
  before : updated.before = j.attempts.get? id
  after : updated.after = j'.attempts.get? id
  elsewhere : ∀ id', id' ≠ id → j'.attempts.get? id' = j.attempts.get? id'
  changed : updated.after = updated.before ∨
    ∃ r r', updated.before = some r ∧ change (j.sequence + 1) r = some r' ∧ r'.assignment.id = id ∧
      updated.after = some r'
  unchanged : ∀ r, updated.before = some r → change (j.sequence + 1) r = none → updated.after = some r
  written : ∀ r r', updated.before = some r → change (j.sequence + 1) r = some r' →
    updated.after = some r'

variable {id : String}

theorem Journal.update_spec {j j' : Journal} {moves : Bool}
    {change : Int → AttemptRecord → Option AttemptRecord} {updated : Updated}
    (h : j.update id moves change = some (updated, j')) : UpdateSpec j id change updated j' := by
  unfold Journal.update at h
  split at h
  · rename_i hnone
    cases h
    exact ⟨hnone.symm, hnone.symm, fun _ _ => rfl, .inl rfl, fun _ hr => (by cases hr),
      fun _ _ hr => (by cases hr)⟩
  · rename_i r hr
    split at h
    · rename_i hchange
      cases h
      refine ⟨hr.symm, hr.symm, fun _ _ => rfl, .inl rfl, fun _ hr' _ => hr', fun r₁ r' hr₁ hr' => ?_⟩
      cases hr₁
      rw [hchange] at hr'
      cases hr'
    · rename_i r' hchange
      split at h
      · rename_i hid
        cases h
        refine ⟨hr.symm, ?_, fun id' hne => ?_, .inr ⟨r, r', rfl, hchange, hid, rfl⟩,
          fun r₁ hr₁ hnone => ?_, fun r₁ r'' hr₁ hr'' => ?_⟩
        · have hself := j.attempts.get?_put_self r'
          rw [hid] at hself
          exact hself.symm
        · exact j.attempts.get?_put_of_ne (by rw [hid]; exact fun h => hne h.symm)
        · cases hr₁
          rw [hchange] at hnone
          cases hnone
        · cases hr₁
          rw [hchange] at hr''
          rw [← hr'']
      · cases h

theorem Journal.remove_record (j : Journal) (id id' : String) (h : id' ≠ id) :
    (j.remove id).attempts.get? id' = j.attempts.get? id' := by
  unfold Journal.remove filter get?
  rw [List.find?_filter]
  congr 1
  funext r
  by_cases hr : r.assignment.id = id'
  · simp [hr, h]
  · simp [hr]

theorem Journal.remove_record_self (j : Journal) (id : String) :
    (j.remove id).attempts.get? id = none := by
  unfold Journal.remove filter get?
  rw [List.find?_eq_none]
  intro r hr
  have hne := (List.mem_filter.1 hr).2
  simpa using hne

variable {s : State}

namespace State

def Says (s : State) (id : String) (d : Directives) : Prop :=
  ∀ r, s.record id = some r → r.directives = d

variable {r : AttemptRecord} {D : DriverCall → Prop}

theorem record_mem (h : s.record id = some r) : r ∈ s.journal.attempts.rows :=
  mem_of_get? h

theorem record_id (h : s.record id = some r) : r.assignment.id = id := by
  have hkey := @key_of_get? _ _ _ (fun r : AttemptRecord => r.assignment.id) _ _ _ h
  exact hkey

/-- The other records and the collections of other attempts are as they were. -/
structure Elsewhere (id : String) (s s' : State) : Prop where
  record : ∀ id', id' ≠ id → s'.record id' = s.record id'
  flights : ∀ key : FlightKey, key.assignmentID ≠ id → (key ∈ s'.flights ↔ key ∈ s.flights)

theorem Elsewhere.refl (id : String) (s : State) :
    Elsewhere id s s := ⟨fun _ _ => rfl, fun _ _ => Iff.rfl⟩

theorem Elsewhere.trans {s s' s'' : State} (h : Elsewhere id s s')
    (h' : Elsewhere id s' s'') : Elsewhere id s s'' :=
  ⟨fun id' hne => (h'.record id' hne).trans (h.record id' hne),
    fun key hne => (h'.flights key hne).trans (h.flights key hne)⟩

theorem says_self (h : s.record id = some r) : s.Says id r.directives := by
  intro r' hr'
  rw [h] at hr'
  cases hr'
  rfl

theorem next_update {moves : Bool} {change : Int → AttemptRecord → Option AttemptRecord}
    {updated : Updated} (h : s.Faithful (.update id moves change) (some updated)) :
    UpdateSpec s.journal id change updated
      (s.next (.update id moves change) (some updated)).journal := by
  have hupdate := h updated rfl
  obtain ⟨⟨u, j'⟩, hj, rfl⟩ := Option.map_eq_some_iff.1 hupdate
  have hnext : (s.next (.update id moves change) (some u)).journal = j' := by
    simp only [State.next, hj, Option.map_some, Option.getD_some]
  rw [hnext]
  exact Journal.update_spec hj

theorem next_remove (s : State) (id : String) (gone : AttemptRecord → Bool) :
    s.next (.remove id gone) true = { s with journal := s.journal.remove id } ∨
      s.next (.remove id gone) true = s := by
  by_cases hgone : (s.record id).any gone = true
  · exact .inl (if_pos hgone)
  · exact .inr (if_neg hgone)

theorem next_about {c : Call} {reply : c.Reply} (h : About id D c)
    (hreply : s.Faithful c reply) : Elsewhere id s (s.next c reply) := by
  cases c with
  | update id' moves change =>
    obtain rfl : id' = id := h
    cases reply with
    | none => exact Elsewhere.refl _ s
    | some updated => exact ⟨(next_update hreply).elsewhere, fun _ _ => Iff.rfl⟩
  | remove id' gone =>
    obtain rfl : id' = id := h
    cases reply with
    | false => exact Elsewhere.refl _ s
    | true =>
      rcases next_remove s id' gone with hnext | hnext
      · rw [hnext]
        exact ⟨fun id'' hne => s.journal.remove_record id' id'' hne, fun _ _ => Iff.rfl⟩
      · rw [hnext]
        exact Elsewhere.refl _ s
  | register key =>
    refine ⟨fun _ _ => rfl, fun key' hne => ?_⟩
    have hkey : key' ≠ key := fun heq => hne (heq ▸ h)
    exact ⟨fun hmem => (List.mem_cons.1 hmem).resolve_left hkey, List.mem_cons_of_mem _⟩
  | release key =>
    refine ⟨fun _ _ => rfl, fun key' hne => ?_⟩
    have hkey : key' ≠ key := fun heq => hne (heq ▸ h)
    exact ⟨fun hmem => (List.mem_filter.1 hmem).1,
      fun hmem => List.mem_filter.2 ⟨hmem, by simpa using hkey⟩⟩
  | setFailuresRedacted => exact ⟨fun _ _ => rfl, fun _ _ => Iff.rfl⟩
  | applyPolicy | applyParked | report => exact h.elim
  | _ => exact Elsewhere.refl _ s

theorem next_within {c : Call} {reply : c.Reply} {d : Directives}
    (h : Within id D c) (hreply : s.Faithful c reply) (hs : s.Says id d) :
    (s.next c reply).Says id d := by
  cases c with
  | update id' moves change =>
    obtain ⟨rfl, hsteady⟩ := h
    cases reply with
    | none => exact hs
    | some updated =>
      have hspec := next_update hreply
      intro r hr
      have hr' : updated.after = some r := hspec.after.trans hr
      rcases hspec.changed with hsame | ⟨r₀, r₁, hbefore, hchange, -, hafter⟩
      · exact hs r (by rw [← hr', hsame]; exact hspec.before.symm)
      · cases hafter.symm.trans hr'
        exact (hsteady _ _ _ hchange).trans (hs r₀ (hspec.before.symm.trans hbefore))
  | remove id' gone =>
    obtain rfl : id' = id := h
    cases reply with
    | false => exact hs
    | true =>
      rcases next_remove s id' gone with hnext | hnext
      · rw [hnext]
        intro r hr
        rw [State.record, s.journal.remove_record_self id'] at hr
        cases hr
      · rw [hnext]
        exact hs
  | applyPolicy | applyParked | report => exact h.elim
  | _ => exact hs

end State

/-! ## Following a task -/

section

variable {A : State → Call → Prop} {B : (c : Call) → c.Reply → Prop} {α β : Type}
  {D : DriverCall → Prop}

theorem WithinTask.tracked {t : Task α} {d : Directives} (h : WithinTask id D t) (hs : s.Says id d)
    (hA : ∀ s' c, s'.Says id d → Within id D c → A s' c) :
    Process.Meets (following A B) (fun s' _ => s'.Says id d ∧ s.Elsewhere id s') t s :=
  Process.Only.meets_invariant h (fun s' c hs' hc => hA s' c hs'.1 hc)
    (fun _ _ _ hs' hc hreply => ⟨State.next_within hc hreply.1 hs'.1,
      hs'.2.trans (State.next_about hc.about hreply.1)⟩) ⟨hs, State.Elsewhere.refl id s⟩

theorem ask_tracked {c : Call} {Q : State → Except Fault c.Reply → Prop} (hA : A s c)
    (h : ∀ reply, s.Faithful c reply → B c reply → Q (s.next c reply) (.ok reply)) :
    Process.Meets (following A B) Q (ask c) s :=
  ⟨hA, fun reply hreply => h reply hreply.1 hreply.2⟩

theorem bind_tracked {t : Task α} {k : α → Task β} {Q : State → Except Fault α → Prop}
    {Q' : State → Except Fault β → Prop} (h : Process.Meets (following A B) Q t s)
    (hok : ∀ s' a, Q s' (.ok a) → Process.Meets (following A B) Q' (k a) s')
    (herror : ∀ s' e, Q s' (.error e) → Q' s' (.error e)) :
    Process.Meets (following A B) Q' (t >>= k : Task β) s :=
  meets_bind h hok herror

theorem currentRecord_tracked (hA : A s (.load id)) :
    Process.Meets (following A B) (fun s' result => s' = s ∧ ∀ r, result = .ok r → r = s.record id)
      (currentRecord id) s := by
  refine ⟨hA, fun reply hreply => ?_⟩
  cases reply with
  | none => exact ⟨rfl, fun r hr => by cases hr⟩
  | some r =>
    refine ⟨rfl, fun r' hr' => ?_⟩
    cases hr'
    exact hreply.1 r rfl

theorem recordOf_tracked (hA : A s (.load id)) :
    Process.Meets (following A B) (fun s' result => s' = s ∧ ∀ r, result = .ok r →
      s.record id = some r) (recordOf id) s := by
  refine bind_tracked (currentRecord_tracked hA) (fun s' r hr => ?_) fun s' e he => ⟨he.1,
    fun r hr => by cases hr⟩
  obtain ⟨rfl, hr⟩ := hr
  have hrecord := hr r rfl
  cases r with
  | none => exact ⟨rfl, fun r hr => by cases hr⟩
  | some r =>
    refine ⟨rfl, fun r' hr' => ?_⟩
    cases hr'
    exact hrecord.symm

theorem AboutTask.tracked {t : Task α} (h : AboutTask id D t) (hA : ∀ s' c, About id D c → A s' c) :
    Process.Meets (following A B) (fun s' _ => s.Elsewhere id s') t s :=
  Process.Only.meets_invariant h (fun s' c _ hc => hA s' c hc)
    (fun _ _ _ helse hc hreply => helse.trans (State.next_about hc hreply.1))
    (State.Elsewhere.refl id s)

/-- A pass meets a contract when each of its attempts does: an attempt is found as the pass read it,
because the attempts before it left it alone. -/
theorem each_tracked {f : AttemptRecord → Task Unit} {Ready : AttemptRecord → Prop}
    {rows : List AttemptRecord}
    (hf : ∀ s r, s.record r.assignment.id = some r → Ready r →
      Process.Meets (following A B) (fun s' _ => s.Elsewhere r.assignment.id s') (f r) s)
    (hready : ∀ r ∈ rows, s.record r.assignment.id = some r ∧ Ready r)
    (hnodup : (rows.map fun r => r.assignment.id).Nodup) :
    Process.Meets (following A B) (fun _ _ => True) (Process.Fallible.each f rows) s := by
  induction rows generalizing s with
  | nil => trivial
  | cons r rows ih =>
    obtain ⟨hr, hready'⟩ := List.forall_mem_cons.1 hready
    rw [List.map_cons, List.nodup_cons] at hnodup
    refine bind_tracked (hf s r hr.1 hr.2) (fun s' _ helse => ?_) fun _ _ _ => trivial
    refine ih (fun r' hr' => ⟨?_, (hready' r' hr').2⟩) hnodup.2
    have hne : r'.assignment.id ≠ r.assignment.id := by
      intro heq
      exact hnodup.1 (heq ▸ List.mem_map_of_mem hr')
    rw [helse.record _ hne]
    exact (hready' r' hr').1

end

/-! ## A pass -/

def Redacts : Call → Prop
  | .update _ _ change => ∃ raw redacted, permanentCollectionIntent raw = false ∧
      change = fun _ current => current.recordedFailureRedacted raw redacted
  | .attempts | .failuresRedacted | .setFailuresRedacted | .redact .. => True
  | _ => False

theorem redactRecorded_only (r : AttemptRecord) : Process.Only Redacts (redactRecorded r) := by
  unfold redactRecorded
  split
  · exact only_pure _
  · rename_i hraw
    refine asked_only trivial fun redacted => ?_
    split
    · exact only_pure _
    · split
      · exact only_pure _
      · refine asked_only ⟨r.failure, _, by simp_all, rfl⟩ fun updated => ?_
        split <;> simp

theorem redactAll_only (complete : Bool) (rows : List AttemptRecord) :
    Process.Only Redacts (redactAll complete rows) := by
  induction rows generalizing complete with
  | nil => exact only_pure _
  | cons r rows ih => exact (redactRecorded_only r).bind fun _ => ih _

theorem redactRecordedFailures_only : Process.Only Redacts redactRecordedFailures := by
  refine asked_only trivial fun redacted => ?_
  split
  · exact only_pure _
  · refine asked_only trivial fun attempts => ?_
    split
    · exact only_pure _
    · refine (redactAll_only true _).bind fun complete => ?_
      split
      · exact only_request trivial
      · exact only_pure _

def State.Redacted (s s' : State) : Prop :=
  ∀ id r', s'.record id = some r' → ∃ r, s.record id = some r ∧ r' = { r with failure := r'.failure }

theorem State.next_redacts {c : Call} {reply : c.Reply} (h : Redacts c)
    (hreply : s.Faithful c reply) : s.Redacted (s.next c reply) := by
  have hself : s.Redacted s := fun id r' hr' => ⟨r', hr', rfl⟩
  cases c with
  | update id moves change =>
    obtain ⟨raw, redacted, -, rfl⟩ := h
    cases reply with
    | none => exact hself
    | some updated =>
      have hspec := State.next_update hreply
      intro id' r' hr'
      by_cases hid : id' = id
      · subst hid
        have hafter : updated.after = some r' := hspec.after.trans hr'
        rcases hspec.changed with hsame | ⟨r, r₁, hbefore, hchange, -, hafter'⟩
        · exact ⟨r', by rw [← hafter, hsame]; exact hspec.before.symm, rfl⟩
        · cases hafter'.symm.trans hafter
          refine ⟨r, hspec.before.symm.trans hbefore, ?_⟩
          unfold AttemptRecord.recordedFailureRedacted at hchange
          split at hchange
          · cases hchange
          · cases hchange
            rfl
      · exact ⟨r', (hspec.elsewhere id' hid).symm.trans hr', rfl⟩
  | attempts | failuresRedacted | setFailuresRedacted | redact => exact hself
  | _ => exact h.elim

variable {A : State → Call → Prop}

theorem redacts_tracked {B : (c : Call) → c.Reply → Prop} {α : Type} {t : Task α}
    (h : Process.Only Redacts t) (hA : ∀ s' c, Redacts c → A s' c) :
    Process.Meets (following A B) (fun s' _ => s.Redacted s') t s := by
  have hall : ∀ s', s.Redacted s' → Process.Meets (following A B) (fun s' _ => s.Redacted s') t
    s' := by
    induction t with
    | done a => exact fun s' hs' => hs'
    | call c next ih =>
      intro s' hs'
      refine ⟨hA s' c h.1, fun reply hreply => ih reply (h.2 reply) _ fun id r'' hr'' => ?_⟩
      obtain ⟨r', hr', hr''eq⟩ := State.next_redacts h.1 hreply.1 id r'' hr''
      obtain ⟨r, hr, hr'eq⟩ := hs' id r' hr'
      refine ⟨r, hr, ?_⟩
      rw [hr'eq] at hr''eq
      exact hr''eq
  exact hall s fun id r' hr' => ⟨r', hr', rfl⟩

/-- A pass meets a contract when each attempt does, for records that are ready for it; redaction
does not make a record less so. -/
theorem reconcilePass_tracked {cfg : Config} {B : (c : Call) → c.Reply → Prop}
    {Ready : AttemptRecord → Prop} (hA : ∀ s' c, Redacts c → A s' c) (hnow : ∀ s', A s' .now)
    (hattempt : ∀ s now r, s.record r.assignment.id = some r → Ready r →
      Process.Meets (following A B) (fun s' _ => s.Elsewhere r.assignment.id s')
      (passAttempt cfg now r) s)
    (hready : ∀ id r failure, s.record id = some r → Ready { r with failure := failure }) :
    Process.Meets (following A B) (fun _ _ => True) (reconcilePass cfg) s := by
  refine bind_tracked (redacts_tracked redactRecordedFailures_only hA) (fun s' _ hs' => ?_)
    fun _ _ _ => trivial
  refine bind_tracked (Q := fun s'' reply => s'' = s' ∧ ∀ r, reply = .ok r → s'.Faithful .attempts r)
    (ask_tracked (hA s' .attempts trivial) fun reply hreply _ => ⟨rfl, fun r hr => ?_⟩)
    (fun s'' reply hreply => ?_)
    fun _ _ _ => trivial
  · cases hr
    exact hreply
  · obtain ⟨rfl, hreply⟩ := hreply
    have hfaithful := hreply reply rfl
    split
    · trivial
    · rename_i rows
      obtain rfl := hfaithful rows rfl
      refine bind_tracked (Q := fun s₁ _ => s₁ = s'') (ask_tracked (hnow s'') fun _ _ _ => rfl)
        (fun s₁ now hs₁ => ?_) fun _ _ _ => trivial
      subst hs₁
      refine each_tracked (fun s r hr hr' => hattempt s now r hr hr') (fun r hr => ?_)
        s₁.journal.attempts.nodup_keys
      have hrecord : s₁.record r.assignment.id = some r := mem_rows_iff.1 hr
      obtain ⟨r₀, hr₀, heq⟩ := hs' _ r hrecord
      refine ⟨hrecord, ?_⟩
      rw [heq]
      exact hready _ r₀ _ hr₀

theorem run_tracked (cfg : Config) {Φ : World → Prop} {α : Type}
    {Q : State → α → Prop} {p : Process Call Call.Reply α} {w : World} {moments : List Moment}
    (h : p.Meets (tracked A) Q w.state)
    (hstep : ∀ w m c, Φ w → A w.state c → Φ (answer cfg w m c).2) (hw : Φ w) :
    Φ (p.run (answer cfg) w moments).2 := by
  have hexpects : ∀ s w m c, w.state = s ∧ Φ w → s.Faithful c (answer cfg w m c).1 ∧ True := by
    rintro s w m c ⟨rfl, -⟩
    exact ⟨reply_faithful cfg w m c, trivial⟩
  have hnext : ∀ s w m c, w.state = s ∧ Φ w → A s c →
      (answer cfg w m c).2.state = s.next c (answer cfg w m c).1 ∧ Φ (answer cfg w m c).2 := by
    rintro s w m c ⟨rfl, hΦ⟩ hA
    exact ⟨rfl, hstep w m c hΦ hA⟩
  obtain ⟨s, ⟨-, hΦ⟩, -⟩ := h.run_invariant (I := fun s w => w.state = s ∧ Φ w) (.inr hexpects)
    (fun s w m c hw hA _ => hnext s w m c hw hA) ⟨rfl, hw⟩
  exact hΦ

end Steward.Worker
