import Mathlib.Order.Basic

/-!
# Copies of versioned records

A state shows a value for every key, and every value has a revision. Writers that raise the revision
of whatever they change let a reader check its copy by the revision alone: a copy whose revision is
still the current one is the current value, however much time passed since it was read.
-/

namespace Versions

variable {σ κ ν ρ : Type} [Preorder ρ] (view : σ → κ → ν) (rev : ν → ρ)

/-- From one state to the next, every value is kept or its revision is raised. -/
def Raises (s s' : σ) : Prop :=
  ∀ k, view s' k = view s k ∨ rev (view s k) < rev (view s' k)

/-- A copy of a key's value: not newer than the current value, and equal to it at its revision. -/
structure Held (s : σ) (k : κ) (v : ν) : Prop where
  le : rev v ≤ rev (view s k)
  eq : rev v = rev (view s k) → v = view s k

variable {view rev}

theorem Raises.refl (s : σ) : Raises view rev s s := fun _ => .inl rfl

theorem Raises.le {s s' : σ} (h : Raises view rev s s') (k : κ) :
    rev (view s k) ≤ rev (view s' k) := by
  rcases h k with heq | hlt
  · rw [heq]
  · exact le_of_lt hlt

theorem Raises.trans {s₁ s₂ s₃ : σ} (h : Raises view rev s₁ s₂) (h' : Raises view rev s₂ s₃) :
    Raises view rev s₁ s₃ := by
  intro k
  have hle := h.le k
  have hle' := h'.le k
  rcases h k with heq | hlt
  · rw [← heq]
    exact h' k
  · exact .inr (lt_of_lt_of_le hlt hle')

theorem Held.mono {s s' : σ} {k : κ} {v : ν} (h : Held view rev s k v)
    (hraises : Raises view rev s s') : Held view rev s' k v := by
  refine ⟨le_trans h.le (hraises.le k), fun hrev => ?_⟩
  rcases hraises k with heq | hlt
  · rw [heq] at hrev ⊢
    exact h.eq hrev
  · exact absurd (hrev ▸ lt_of_le_of_lt h.le hlt) (lt_irrefl _)

end Versions
