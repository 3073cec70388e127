import Mathlib

/-!
# Endless runs under a clock

Sequences of states that go on for ever, each taken at a time, with a clock that passes every time.

* `reaches`: if each state is of lower rank than the one before it, or of the same rank with less
  of a wait left, the lowest rank is reached;
* `Execution`: a machine that is answered in each state, and rests when it is over.
-/

namespace Waiting

variable {σ ε : Type}

/-- A clock that never goes back and does not stop. -/
structure Clock (clock : ℕ → ℤ) : Prop where
  monotone : Monotone clock
  passes : ∀ time, ∃ k, time < clock k

/-- One wait may take any number of states, as long as what is left of it shrinks with time. -/
theorem reaches {clock : ℕ → ℤ} (advances : Clock clock) {c : ℕ → σ} (rank : σ → ℕ)
    (left : σ → ℤ) (start : ℕ) (falls : ∀ k, start ≤ k → rank (c k) ≠ 0 →
      rank (c (k + 1)) < rank (c k) ∨ rank (c (k + 1)) = rank (c k) ∧ 0 ≤ left (c (k + 1)) ∧
        left (c (k + 1)) + clock (k + 1) ≤ left (c k) + clock k) :
    ∃ k, rank (c k) = 0 := by
  induction low : rank (c start) using Nat.strong_induction_on generalizing start with
  | _ n ih =>
    by_cases zero : n = 0
    · exact ⟨start, low.trans zero⟩
    by_contra never
    -- no later state has a lower rank, so all of them share the one wait
    have waits (k : ℕ) : rank (c (start + k)) = n ∧ (k ≠ 0 → 0 ≤ left (c (start + k))) ∧
        left (c (start + k)) + clock (start + k) ≤ left (c start) + clock start := by
      induction k with
      | zero => exact ⟨low, fun h => absurd rfl h, le_rfl⟩
      | succ k here =>
        obtain ⟨same, -, less⟩ := here
        obtain lower | ⟨equal, some', shrinks⟩ := falls (start + k) (by omega) (by omega)
        · exact absurd (ih _ (same ▸ lower) _ (fun j after => falls j (by omega)) rfl) never
        · exact ⟨equal.trans same, fun _ => some', shrinks.trans less⟩
    obtain ⟨k, late⟩ := advances.passes (left (c start) + clock start)
    obtain ⟨-, some', less⟩ := waits (k + 1)
    have later : clock k ≤ clock (start + (k + 1)) := advances.monotone (by omega)
    have := some' (by omega)
    omega

/-- The states of a machine whose `k`-th step is answered by `e k`. -/
def Execution (step : σ → ε → Option σ) (answers : ℕ → σ → ε → Prop) (over' : σ → Prop)
    (c : ℕ → σ) (e : ℕ → ε) : Prop :=
  ∀ k, (over' (c k) ∧ c (k + 1) = c k) ∨
    (¬ over' (c k) ∧ step (c k) (e k) = some (c (k + 1)) ∧ answers k (c k) (e k))

namespace Execution

variable {step : σ → ε → Option σ} {answers : ℕ → σ → ε → Prop} {over' : σ → Prop} {c : ℕ → σ}
  {e : ℕ → ε}

/-- What every answered step preserves holds from one state on. -/
theorem invariant (h : Execution step answers over' c e) (Inv : σ → Prop)
    (preserved : ∀ k, Inv (c k) → step (c k) (e k) = some (c (k + 1)) → answers k (c k) (e k) →
      Inv (c (k + 1))) {start k : ℕ} (here : Inv (c start)) (after : start ≤ k) : Inv (c k) := by
  induction after with
  | refl => exact here
  | @step k _ ih =>
    obtain ⟨-, same⟩ | ⟨-, stepped, answered⟩ := h k
    · rw [Nat.succ_eq_add_one, same]
      exact ih
    · exact preserved k ih stepped answered

end Execution

end Waiting
