import Mathlib.Data.List.Forall2
import Mathlib.Tactic.Common

/-!
# Peeling a fallible computation apart

A transaction is a chain of steps in `Except ε`, each of which may refuse. These rules take a
chain that succeeded apart, one step at a time, without unfolding the steps.
-/

namespace Except

variable {ε α β σ : Type}

/-- A chain succeeds exactly when its first step does and the rest succeeds on its value. -/
theorem bind_eq_ok_iff {x : Except ε α} {f : α → Except ε β} {b : β} :
    (x >>= f) = .ok b ↔ ∃ a, x = .ok a ∧ f a = .ok b := by
  cases x with
  | error e =>
    constructor
    · intro h
      cases h
    · rintro ⟨a, h, -⟩
      cases h
  | ok a =>
    constructor
    · intro h
      exact ⟨a, rfl, h⟩
    · rintro ⟨a', h, hb⟩
      cases h
      exact hb

theorem of_bind {x : Except ε α} {f : α → Except ε β} {b : β} (h : (x >>= f) = .ok b) :
    ∃ a, x = .ok a ∧ f a = .ok b :=
  bind_eq_ok_iff.1 h

@[simp] theorem ok_bind (a : α) (f : α → Except ε β) : ((.ok a : Except ε α) >>= f) = f a := rfl

@[simp] theorem error_bind (e : ε) (f : α → Except ε β) :
    ((.error e : Except ε α) >>= f) = .error e := rfl

theorem of_toOption {x : Except ε α} {f : α → β} {b : β} (h : x.toOption.map f = some b) :
    ∃ a, x = .ok a ∧ f a = b := by
  cases x with
  | error e => cases h
  | ok a => exact ⟨a, rfl, Option.some.inj h⟩

theorem map_fst_eq_ok {x : Except ε (α × β)} {a : α} (h : x.map Prod.fst = .ok a) :
    ∃ b, x = .ok (a, b) := by
  cases x with
  | error e => cases h
  | ok r => exact ⟨r.2, by rw [← Except.ok.inj h]⟩

theorem check_eq_ok_iff {x : Except ε Unit} {f : Unit → Except ε β} {b : β} :
    (x >>= f) = .ok b ↔ x = .ok () ∧ f () = .ok b :=
  bind_eq_ok_iff.trans ⟨fun ⟨_, h⟩ => h, fun h => ⟨(), h⟩⟩

theorem forM_ok_iff {f : α → Except ε Unit} {l : List α} :
    l.forM f = .ok () ↔ ∀ a ∈ l, f a = .ok () := by
  induction l with
  | nil => simp [pure, Except.pure]
  | cons a l ih =>
    rw [List.forall_mem_cons, ← ih]
    exact check_eq_ok_iff

theorem forM_eq_ok {f : α → Except ε Unit} {l : List α} {u : Unit} (h : l.forM f = .ok u) :
    ∀ a ∈ l, f a = .ok () :=
  forM_ok_iff.1 h

theorem mapM_ok_iff {f : α → Except ε β} {l : List α} {r : List β} :
    l.mapM f = .ok r ↔ List.Forall₂ (fun a b => f a = .ok b) l r := by
  induction l generalizing r with
  | nil => simp [pure, Except.pure, eq_comm]
  | cons a l ih =>
    simp only [List.mapM_cons, bind_eq_ok_iff, ih, List.forall₂_cons_left_iff, pure, Except.pure,
      Except.ok.injEq]
    grind

theorem if_error_eq_ok_iff {p : Prop} [Decidable p] {e : ε} {x : Except ε α} {a : α} :
    (if p then .error e else x) = .ok a ↔ ¬p ∧ x = .ok a := by
  split_ifs with h <;> simp [h]

/-- A check of a list, element by element and against what was seen before. -/
theorem scan_ok_iff {f : List α → Nat → List α → Except ε Unit} {p : α → Prop} {R : α → α → Prop}
    (hnil : ∀ i seen, f [] i seen = .ok ())
    (hcons : ∀ a l i seen, f (a :: l) i seen = .ok () ↔ (p a ∧ ∀ b ∈ seen, R b a) ∧
      f l (i + 1) (a :: seen) = .ok ()) {l : List α} {i : Nat} {seen : List α} :
    f l i seen = .ok () ↔ (∀ a ∈ l, p a ∧ ∀ b ∈ seen, R b a) ∧ l.Pairwise R := by
  induction l generalizing i seen with
  | nil => simp [hnil]
  | cons a l ih =>
    rw [hcons, ih]
    simp only [List.forall_mem_cons, List.pairwise_cons, forall_and]
    tauto

variable {f : σ → α → Except ε σ}

theorem foldlM_invariant {I : σ → Prop} {l : List α}
    (hstep : ∀ s, ∀ a ∈ l, ∀ s', I s → f s a = .ok s' → I s') {s s' : σ} (hs : I s)
    (h : l.foldlM f s = .ok s') : I s' := by
  induction l generalizing s with
  | nil =>
    cases h
    exact hs
  | cons a l ih =>
    rw [List.foldlM_cons] at h
    obtain ⟨s₁, hfirst, hrest⟩ := bind_eq_ok_iff.1 h
    exact ih (fun s b hb => hstep s b (.tail _ hb)) (hstep s a (.head _) s₁ hs hfirst) hrest

/-- A fold whose steps simulate those of another under a map of its states. -/
theorem foldlM_map {τ : Type} {g : τ → α → Except ε τ} {p : τ → σ}
    (hstep : ∀ t a t', g t a = .ok t' → f (p t) a = .ok (p t')) {l : List α} {t t' : τ}
    (h : l.foldlM g t = .ok t') : l.foldlM f (p t) = .ok (p t') := by
  induction l generalizing t with
  | nil =>
    cases h
    rfl
  | cons a l ih =>
    rw [List.foldlM_cons] at h ⊢
    obtain ⟨mid, hfirst, hrest⟩ := bind_eq_ok_iff.1 h
    exact bind_eq_ok_iff.2 ⟨p mid, hstep t a mid hfirst, ih hrest⟩

/-- What a step establishes of its own element and later steps keep, a fold that succeeds has
established of every element. -/
theorem foldlM_each {Q : α → σ → Prop} (hdone : ∀ s a s', f s a = .ok s' → Q a s')
    (hkept : ∀ s a s' b, Q b s → f s a = .ok s' → Q b s') {l : List α} {s s' : σ}
    (h : l.foldlM f s = .ok s') : ∀ a ∈ l, Q a s' := by
  induction l generalizing s with
  | nil => simp
  | cons a l ih =>
    rw [List.foldlM_cons] at h
    obtain ⟨mid, hfirst, hrest⟩ := bind_eq_ok_iff.1 h
    intro b hb
    rcases List.mem_cons.1 hb with rfl | hb
    · exact foldlM_invariant (fun s a _ s' hs => hkept s a s' b hs) (hdone s b mid hfirst) hrest
    · exact ih hrest b hb

theorem exists_foldlM {l : List α} (h : ∀ s, ∀ a ∈ l, ∃ s', f s a = .ok s') (s : σ) :
    ∃ s', l.foldlM f s = .ok s' := by
  induction l generalizing s with
  | nil => exact ⟨s, rfl⟩
  | cons a l ih =>
    obtain ⟨mid, hmid⟩ := h s a (.head _)
    rw [List.foldlM_cons, hmid]
    exact ih (fun s b hb => h s b (.tail _ hb)) mid

@[simp] theorem pure_eq_ok (a : α) : (pure a : Except ε α) = .ok a := rfl

@[simp] theorem throw_eq_error (e : ε) : (throw e : Except ε α) = .error e := rfl

def refuseWhen (p : Prop) [Decidable p] (e : ε) : Except ε Unit :=
  if p then .error e else .ok ()

theorem refuseWhen_eq_ok_iff {p : Prop} [Decidable p] {e : ε} {u : Unit} :
    refuseWhen p e = .ok u ↔ ¬p := by
  unfold refuseWhen
  split_ifs with h <;> simp [h]

/-- A guarded chain succeeds exactly when the guard lets it through and the rest succeeds. -/
theorem refuseWhen_bind_eq_ok_iff {p : Prop} [Decidable p] {e : ε} {f : Unit → Except ε β} {b : β} :
    (refuseWhen p e >>= f) = .ok b ↔ ¬p ∧ f () = .ok b := by
  unfold refuseWhen
  split_ifs with h <;> simp [h]

section

variable {p : Prop} [Decidable p] {e : ε} {f : Unit → Except ε β} {b : β}

theorem of_guard (h : (refuseWhen p e >>= f) = .ok b) : ¬p ∧ f () = .ok b :=
  refuseWhen_bind_eq_ok_iff.1 h

theorem past_guard (h : (refuseWhen p e >>= f) = .ok b) : f () = .ok b :=
  (of_guard h).2

end

theorem refuseWhen_of_not {p : Prop} [Decidable p] (h : ¬p) (e : ε) : refuseWhen p e = .ok () :=
  if_neg h

end Except
