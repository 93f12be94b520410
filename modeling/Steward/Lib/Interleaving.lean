import Steward.Lib.Process
import Steward.Lib.Runs
import Mathlib.Logic.Function.Basic

/-!
# Processes that share a state

Several processes work on one state, one call at a time and in any order; each can be started on a
program when it has finished the last one, and can be ended between any two calls. Next to a process
stands the note of its contract. If every program meets the contract, each process is always at a
point where it still does.
-/

namespace Process

variable {π ω σ ι γ C : Type} {R : C → Type}

structure System (π σ γ C : Type) (R : C → Type) where
  shared : σ
  process : π → Process C R Unit
  note : π → γ

/-- What can happen next. -/
inductive Move (π ω ι : Type)
  | start (p : π) (op : ω)
  | call (p : π) (i : ι)
  | stop (p : π)

namespace System

variable [DecidableEq π] (program : ω → Process C R Unit) (K : Contract γ C R) (init : γ)
  (answer : σ → ι → (c : C) → R c × σ)

variable (s : System π σ γ C R)

def step : Move π ω ι → System π σ γ C R
  | .start p op =>
    match s.process p with
    | done _ =>
      { s with
        process := Function.update s.process p (program op)
        note := Function.update s.note p init }
    | call _ _ => s
  | .call p i =>
    match s.process p with
    | done _ => s
    | call c next =>
      { shared := (answer s.shared i c).2
        process := Function.update s.process p (next (answer s.shared i c).1)
        note := Function.update s.note p (K.next (s.note p) c (answer s.shared i c).1) }
  | .stop p => { s with process := Function.update s.process p (done ()) }

def pending (p : π) : Option C :=
  match s.process p with
  | done _ => none
  | call c _ => some c

def Meets : Prop := ∀ p, (s.process p).Meets K (fun _ _ => True) (s.note p)

def Expected : Move π ω ι → Prop
  | .call p i => ∀ c, s.pending p = some c → K.expects (s.note p) c (answer s.shared i c).1
  | _ => True

variable {program K init answer} {s : System π σ γ C R}

omit [DecidableEq π] in
theorem Meets.allows (h : s.Meets K) {p : π} {c : C} (hc : s.pending p = some c) :
    K.allows (s.note p) c := by
  have hp := h p
  unfold pending at hc
  cases hprocess : s.process p with
  | done a =>
    rw [hprocess] at hc
    cases hc
  | call c' next =>
    rw [hprocess] at hc hp
    cases hc
    exact hp.1

/-- One move keeps every process on its contract. -/
theorem Meets.step (h : s.Meets K) {move : Move π ω ι}
    (hstart : ∀ p op, move = .start p op → (program op).Meets K (fun _ _ => True) init)
    (hexpected : s.Expected K answer move) : (s.step program K init answer move).Meets K := by
  cases move with
  | start p op =>
    dsimp only [System.step]
    split
    · intro q
      by_cases hq : q = p
      · subst hq
        simp only [Function.update_self]
        exact hstart q op rfl
      · simp only [Function.update_of_ne hq]
        exact h q
    · exact h
  | stop p =>
    intro q
    dsimp only [System.step]
    by_cases hq : q = p
    · subst hq
      rw [Function.update_self]
      trivial
    · rw [Function.update_of_ne hq]
      exact h q
  | call p i =>
    dsimp only [System.step]
    split
    · exact h
    · rename_i c next hprocess
      have hreply := hexpected c (by rw [pending, hprocess])
      have hp := h p
      rw [hprocess] at hp
      intro q
      by_cases hq : q = p
      · subst hq
        simp only [Function.update_self]
        exact hp.2 _ hreply
      · simp only [Function.update_of_ne hq]
        exact h q

variable (program K init answer) in
theorem step_shared (s : System π σ γ C R) (move : Move π ω ι) :
    (s.step program K init answer move).shared = s.shared ∨ ∃ p i c, move = .call p i ∧ s.pending
        p = some c ∧ (s.step program K init answer move).shared = (answer s.shared i c).2 := by
  cases move with
  | start p op =>
    refine .inl ?_
    dsimp only [System.step]
    split <;> rfl
  | stop p => exact .inl rfl
  | call p i =>
    dsimp only [System.step]
    split
    · exact .inl rfl
    · rename_i c next hprocess
      exact .inr ⟨p, i, c, rfl, by rw [pending, hprocess], rfl⟩

end System

end Process
