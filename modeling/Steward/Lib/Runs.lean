import Mathlib.Tactic.Common

/-!
# Runs of transactions

A run applies operations one after another. A transaction that fails leaves the state it found. What
every step guarantees carries over to whole runs: an invariant, a condition met by every step, a
relation between any earlier and any later state.
-/

namespace Runs

variable {σ ι ε : Type}

/-- The state a transaction leaves: what it commits, or what it found when it fails. -/
def committed (s : σ) : Except ε σ → σ
  | .ok s' => s'
  | .error _ => s

variable {s : σ} {R : σ → σ → Prop}

/-- Whatever relates a state to itself and to what a transaction commits relates it to what the
transaction leaves. -/
theorem rel_committed (hrefl : ∀ s, R s s) {result : Except ε σ}
    (h : ∀ s', result = .ok s' → R s s') : R s (committed s result) := by
  cases result with
  | error e => exact hrefl s
  | ok s' => exact h s' rfl

variable (step : σ → ι → σ)

def run (s : σ) (ops : List ι) : σ := ops.foldl step s

/-- A condition met by every step of a run. -/
def Along (P : σ → ι → Prop) : σ → List ι → Prop
  | _, [] => True
  | s, op :: ops => P s op ∧ Along P (step s op) ops

instance decidableAlong (P : σ → ι → Prop) [h : ∀ s op, Decidable (P s op)] :
    (s : σ) → (ops : List ι) → Decidable (Along step P s ops)
  | _, [] => isTrue trivial
  | s, op :: ops => @instDecidableAnd _ _ (h s op) (decidableAlong P (step s op) ops)

/-- A relation between any earlier and any later state of a run. -/
def Throughout (R : σ → σ → Prop) (s : σ) (ops : List ι) : Prop :=
  ∀ earlier later rest, ops = earlier ++ later ++ rest →
    R (run step s earlier) (run step s (earlier ++ later))

variable {step}

theorem run_append (s : σ) (ops ops' : List ι) :
    run step s (ops ++ ops') = run step (run step s ops) ops' :=
  List.foldl_append

variable {ops : List ι}

theorem run_eq_self (h : ∀ op ∈ ops, step s op = s) : run step s ops = s := by
  induction ops with
  | nil => rfl
  | cons op ops ih =>
    change run step (step s op) ops = s
    rw [h op (.head _)]
    exact ih fun op' hop => h op' (.tail _ hop)

variable {P : σ → ι → Prop}

theorem along_append {ops ops' : List ι} :
    Along step P s (ops ++ ops') ↔ Along step P s ops ∧ Along step P (run step s ops) ops' := by
  induction ops generalizing s with
  | nil => exact ⟨fun h => ⟨trivial, h⟩, fun h => h.2⟩
  | cons op ops ih =>
    rw [List.cons_append, Along, ih]
    exact ⟨fun h => ⟨⟨h.1, h.2.1⟩, h.2.2⟩, fun h => ⟨h.1.1, h.1.2, h.2⟩⟩

theorem along_congr {P Q : σ → ι → Prop} (h : ∀ s op, P s op ↔ Q s op) :
    Along step P s ops ↔ Along step Q s ops := by
  induction ops generalizing s with
  | nil => exact Iff.rfl
  | cons op ops ih => exact and_congr (h s op) ih

/-- What each operation needs free, and a step leaves free only for operations that agree with its
own, is free at the start for all operations of a run, and any two agree. -/
theorem pairwise_of_along {F : σ → ι → Prop} {R : ι → ι → Prop} (hfree : ∀ s op, P s op → F s op)
    (hstep : ∀ s op op', P s op → F (step s op) op' → F s op' ∧ R op op') (h : Along step P s ops) :
    (∀ op ∈ ops, F s op) ∧ ops.Pairwise R := by
  induction ops generalizing s with
  | nil => exact ⟨by simp, .nil⟩
  | cons op ops ih =>
    obtain ⟨hlater, hops⟩ := ih h.2
    have hfirst := fun op' hop' => hstep s op op' h.1 (hlater op' hop')
    exact ⟨List.forall_mem_cons.2 ⟨hfree s op h.1, fun op' hop' => (hfirst op' hop').1⟩,
      .cons (fun op' hop' => (hfirst op' hop').2) hops⟩

theorem along_of_forall (h : ∀ s, ∀ op ∈ ops, P s op) : Along step P s ops := by
  induction ops generalizing s with
  | nil => trivial
  | cons op ops ih =>
    exact ⟨h s op (.head _), ih fun s op' hop => h s op' (.tail _ hop)⟩

theorem run_invariant {I : σ → Prop} (hstep : ∀ s op, I s → P s op → I (step s op)) (hs : I s)
    (h : Along step P s ops) : I (run step s ops) := by
  induction ops generalizing s with
  | nil => exact hs
  | cons op ops ih => exact ih (hstep s op hs h.1) h.2

theorem along_of_invariant {I : σ → Prop} (hstep : ∀ s op, I s → I (step s op))
    (hP : ∀ s op, I s → P s op) (hs : I s) (ops : List ι) : Along step P s ops := by
  induction ops generalizing s with
  | nil => trivial
  | cons op ops ih => exact ⟨hP s op hs, ih (hstep s op hs)⟩

/-- An invariant that a step keeps exactly under a condition holds all along a run exactly when
every step meets the condition. -/
theorem invariant_iff {I : σ → Prop} (hstep : ∀ s op, I s → (I (step s op) ↔ P s op)) (hs : I s) :
    (∀ l, l <+: ops → I (run step s l)) ↔ Along step P s ops := by
  induction ops generalizing s with
  | nil =>
    refine ⟨fun _ => trivial, fun _ l hl => ?_⟩
    rw [List.prefix_nil.1 hl]
    exact hs
  | cons op ops ih =>
    constructor
    · intro h
      have hnext : I (step s op) := h [op] (by simp)
      exact ⟨(hstep s op hs).1 hnext,
        (ih hnext).1 fun l hl => h (op :: l) (List.cons_prefix_cons.2 ⟨rfl, hl⟩)⟩
    · rintro ⟨hop, hops⟩ (_ | ⟨op', l⟩) hl
      · exact hs
      · obtain ⟨rfl, hrest⟩ := List.cons_prefix_cons.1 hl
        exact (ih ((hstep s op' hs).2 hop)).2 hops l hrest

theorem rel_run (hrefl : ∀ s, R s s) (htrans : ∀ a b c, R a b → R b c → R a c)
    (h : Along step (fun s op => R s (step s op)) s ops) :
    R s (run step s ops) := by
  induction ops generalizing s with
  | nil => exact hrefl s
  | cons op ops ih => exact htrans _ _ _ h.1 (ih h.2)

/-- A reflexive and transitive relation holds throughout a run exactly when every step
establishes it. -/
theorem throughout_iff (hrefl : ∀ s, R s s) (htrans : ∀ a b c, R a b → R b c → R a c) :
    Throughout step R s ops ↔ Along step (fun s op => R s (step s op)) s ops := by
  constructor
  · intro h
    induction ops generalizing s with
    | nil => trivial
    | cons op ops ih =>
      refine ⟨h [] [op] ops rfl, ih fun earlier later rest hops => ?_⟩
      exact h (op :: earlier) later rest (by rw [hops]; rfl)
  · rintro h earlier later rest rfl
    obtain ⟨h, -⟩ := along_append.1 h
    obtain ⟨-, h⟩ := along_append.1 h
    rw [run_append]
    exact rel_run hrefl htrans h

/-- A property that a run ends with held all along, or was entered by some step and not left
since. -/
theorem last_entry {I : σ → Prop} (h : I (run step s ops)) : (∀ l, l <+: ops → I (run step s l)) ∨
      ∃ earlier op later, ops = earlier ++ op :: later ∧ ¬I (run step s earlier) ∧
        ∀ l, l <+: later → I (run step s (earlier ++ op :: l)) := by
  induction ops generalizing s with
  | nil =>
    refine .inl fun l hl => ?_
    rw [List.prefix_nil.1 hl]
    exact h
  | cons op ops ih =>
    rcases ih h with hall | ⟨earlier, op', later, hops, hbefore, hafter⟩
    · by_cases hs : I s
      · refine .inl fun l hl => ?_
        cases l with
        | nil => exact hs
        | cons op' l =>
          obtain ⟨rfl, hrest⟩ := List.cons_prefix_cons.1 hl
          exact hall l hrest
      · exact .inr ⟨[], op, ops, rfl, hs, hall⟩
    · refine .inr ⟨op :: earlier, op', later, ?_, hbefore, hafter⟩
      rw [hops]
      rfl

/-- Progress. A bounded measure that no step lowers and a counted step raises unless the goal is
reached is exhausted after enough counted steps; a goal once reached stays. -/
theorem goal_of_progress {I G : σ → Prop} {m : σ → Nat} {n : Nat} {c : ι → Bool}
    (hinv : ∀ s op, I s → P s op → I (step s op))
    (hbound : ∀ s, I s → m s ≤ n)
    (hmono : ∀ s op, I s → P s op → m s ≤ m (step s op))
    (hkept : ∀ s op, I s → P s op → G s → G (step s op))
    (hprogress : ∀ s op, I s → P s op → c op = true → ¬G s → G (step s op) ∨ m s < m (step s op))
    (hs : I s) (h : Along step P s ops)
    (hcount : n < m s + ops.countP c) : G (run step s ops) := by
  have hstays : ∀ (ops : List ι) (s : σ), I s → Along step P s ops → G s → G (run step s ops) := by
    intro ops
    induction ops with
    | nil => exact fun _ _ _ hgoal => hgoal
    | cons op ops ih =>
      exact fun s hs h hgoal => ih _ (hinv s op hs h.1) h.2 (hkept s op hs h.1 hgoal)
  induction ops generalizing s with
  | nil => exact absurd (hbound s hs) (by simpa using hcount)
  | cons op ops ih =>
    have hnext := hinv s op hs h.1
    by_cases hgoal : G (step s op)
    · exact hstays ops (step s op) hnext h.2 hgoal
    · refine ih hnext h.2 ?_
      have hstart : ¬G s := fun hgoal' => hgoal (hkept s op hs h.1 hgoal')
      cases hop : c op with
      | false =>
        rw [List.countP_cons_of_neg (by simp [hop])] at hcount
        have hkept' := hmono s op hs h.1
        omega
      | true =>
        rw [List.countP_cons_of_pos hop] at hcount
        have hraised := (hprogress s op hs h.1 hop hstart).resolve_left hgoal
        omega

end Runs
