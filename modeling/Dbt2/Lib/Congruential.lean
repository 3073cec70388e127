import Mathlib

/-!
# Congruential generators

The map `x ↦ a * x + c` over a commutative ring, and the two ways to jump ahead in its orbit:

* `stride`: the coefficients of `n` steps by repeated squaring, in the accumulator form a loop
  over the binary digits of `n` has. `stride_iterate` says they are the coefficients of `n` steps;
* `iterate_mod`: over a ring in which `2 ^ w` vanishes, an odd multiplier with increment zero has
  a period dividing `2 ^ w`, so a step count may be reduced modulo `2 ^ w` before the jump;
* `iterate_eq_iff`, `exists_iterate`: a multiplier of remainder five modulo eight has the greatest
  period, and the odd states fall into two orbits, one for each remainder modulo four.
-/

namespace Congruential

section
variable {R : Type} [CommRing R]

/-- One step of the generator with multiplier `a` and increment `c`. -/
def affine (a c x : R) : R := a * x + c

/-- The loop over the binary digits of the step count. `curMult` and `curPlus` are the
coefficients of the current power of two many steps, the accumulators those of the digits read. -/
def stride (n : Nat) (curMult curPlus accMult accPlus : R) : R × R :=
  if n = 0 then (accMult, accPlus)
  else
    if n % 2 = 1 then
      stride (n / 2) (curMult * curMult) ((curMult + 1) * curPlus)
        (accMult * curMult) (accPlus * curMult + curPlus)
    else
      stride (n / 2) (curMult * curMult) ((curMult + 1) * curPlus) accMult accPlus
termination_by n
decreasing_by all_goals omega

theorem affine_twice (a c : R) : (affine a c)^[2] = affine (a * a) ((a + 1) * c) := by
  funext x
  simp only [Function.iterate_succ, Function.iterate_zero, Function.comp_apply, id_eq, affine]
  ring

theorem affine_double (a c : R) (n : Nat) :
    (affine a c)^[2 * n] = (affine (a * a) ((a + 1) * c))^[n] := by
  rw [Function.iterate_mul, affine_twice]

/-- The loop returns the coefficients of `n` further steps after the accumulated ones. -/
theorem stride_iterate (n : Nat) (a c accMult accPlus x : R) :
    (stride n a c accMult accPlus).1 * x + (stride n a c accMult accPlus).2 =
      (affine a c)^[n] (accMult * x + accPlus) := by
  induction n using Nat.strongRecOn generalizing a c accMult accPlus with
  | ind n ih =>
    rw [stride]
    by_cases zero : n = 0
    · simp [zero]
    · have smaller : n / 2 < n := by omega
      by_cases odd : n % 2 = 1
      · have split : (2 * (n / 2)).succ = n := by omega
        have first : affine a c (accMult * x + accPlus) =
            accMult * a * x + (accPlus * a + c) := by
          simp only [affine]
          ring
        simp only [zero, odd, ↓reduceIte]
        rw [ih _ smaller, ← affine_double, ← first, ← Function.iterate_succ_apply, split]
      · have split : 2 * (n / 2) = n := by omega
        simp only [zero, odd, ↓reduceIte]
        rw [ih _ smaller, ← affine_double, split]

theorem affine_zero_iterate (a x : R) (n : Nat) : (affine a 0)^[n] x = a ^ n * x := by
  induction n with
  | zero => simp
  | succ n ih =>
    rw [Function.iterate_succ_apply', ih]
    simp only [affine]
    ring

/-- Repeated squaring of an odd element gains one factor of two each time. -/
theorem odd_pow_two_pow (t : R) (k : Nat) : ∃ s : R, (1 + 2 * t) ^ 2 ^ k = 1 + 2 ^ k * s := by
  induction k with
  | zero => exact ⟨2 * t, by ring⟩
  | succ k ih =>
    obtain ⟨s, hs⟩ := ih
    cases k with
    | zero => exact ⟨2 * (t + t * t), by ring⟩
    | succ k =>
      refine ⟨s + 2 ^ k * s * s, ?_⟩
      rw [pow_succ 2 (k + 1), pow_mul, hs]
      ring

theorem odd_pow_period {w : Nat} (vanish : (2 : R) ^ w = 0) (t : R) : (1 + 2 * t) ^ 2 ^ w = 1 := by
  obtain ⟨s, hs⟩ := odd_pow_two_pow t w
  rw [hs, vanish]
  ring

/-- Over a ring where `2 ^ w` is zero, a step count of an odd multiplier counts modulo `2 ^ w`. -/
theorem iterate_mod {w : Nat} (vanish : (2 : R) ^ w = 0) (t x : R) (n : Nat) :
    (affine (1 + 2 * t) 0)^[n % 2 ^ w] x = (affine (1 + 2 * t) 0)^[n] x := by
  have whole : (1 + 2 * t) ^ n = (1 + 2 * t) ^ (n % 2 ^ w) := by
    conv_lhs => rw [← Nat.mod_add_div n (2 ^ w)]
    rw [pow_add, pow_mul, odd_pow_period vanish, one_pow, mul_one]
  rw [affine_zero_iterate, affine_zero_iterate, whole]

/-! ## Periods and orbits -/

/-- Squaring `1 + 4 * u` gains one factor of two each time, and no more. -/
theorem four_pow_two_pow (u : R) (k : Nat) :
    ∃ r : R, (1 + 4 * u) ^ 2 ^ k = 1 + 2 ^ (k + 2) * (u + 2 * r) := by
  induction k with
  | zero => exact ⟨0, by ring⟩
  | succ k ih =>
    obtain ⟨r, hr⟩ := ih
    refine ⟨r + 2 ^ k * (u + 2 * r) ^ 2, ?_⟩
    rw [pow_succ 2 k, pow_mul, hr]
    ring

theorem orderOf_step {w : Nat} (vanish : (2 : R) ^ (w + 3) = 0) (half : (2 : R) ^ (w + 2) ≠ 0)
    (t : R) : orderOf (1 + 4 * (1 + 2 * t)) = 2 ^ (w + 1) := by
  have prime : Fact (Nat.Prime 2) := ⟨Nat.prime_two⟩
  apply orderOf_eq_prime_pow
  · obtain ⟨r, hr⟩ := four_pow_two_pow (1 + 2 * t) w
    rw [hr]
    intro one
    apply half
    calc (2 : R) ^ (w + 2)
        = 2 ^ (w + 2) * (1 + 2 * t + 2 * r) - 2 ^ (w + 3) * (t + r) := by ring
      _ = 0 := by rw [vanish, zero_mul, sub_zero]; exact add_eq_left.mp one
  · obtain ⟨r, hr⟩ := four_pow_two_pow (1 + 2 * t) (w + 1)
    rw [hr, show w + 1 + 2 = w + 3 from rfl, vanish, zero_mul, add_zero]

/-- From an odd state, the multiplier's order is the period of the generator. -/
theorem iterate_eq_iff {w : Nat} (vanish : (2 : R) ^ (w + 3) = 0) (half : (2 : R) ^ (w + 2) ≠ 0)
    (t s : R) (m n : Nat) :
    (affine (1 + 4 * (1 + 2 * t)) 0)^[m] (1 + 2 * s) =
        (affine (1 + 4 * (1 + 2 * t)) 0)^[n] (1 + 2 * s) ↔ m ≡ n [MOD 2 ^ (w + 1)] := by
  have unit : IsUnit (1 + 2 * s) :=
    IsUnit.of_pow_eq_one (odd_pow_period vanish s) (by positivity)
  have order := orderOf_step vanish half t
  have finite : IsOfFinOrder (1 + 4 * (1 + 2 * t)) :=
    orderOf_pos_iff.mp (by rw [order]; positivity)
  rw [affine_zero_iterate, affine_zero_iterate, unit.mul_left_inj, finite.pow_eq_pow_iff_modEq,
    order]

/-- A multiplier of the greatest order takes `1 + 4 * v` to `1`: one factor of two after the
other. -/
theorem exists_pow_mul {w : Nat} (parity : ∀ z : R, ∃ y, z = 2 * y ∨ z = 1 + 2 * y) (t v : R) :
    ∃ n z, (1 + 4 * (1 + 2 * t)) ^ n * (1 + 4 * v) = 1 + 2 ^ (w + 2) * z := by
  induction w with
  | zero => exact ⟨0, v, by ring⟩
  | succ w ih =>
    obtain ⟨n, z, hz⟩ := ih
    obtain ⟨y, rfl | rfl⟩ := parity z
    · exact ⟨n, y, by rw [hz]; ring⟩
    · obtain ⟨r, hr⟩ := four_pow_two_pow (1 + 2 * t) w
      refine ⟨2 ^ w + n, 1 + y + t + r + 2 ^ (w + 1) * (1 + 2 * y) * (1 + 2 * t + 2 * r), ?_⟩
      rw [pow_add, mul_assoc, hz, hr]
      ring

/-- The states of one remainder modulo four are all on one orbit. -/
theorem exists_iterate {w : Nat} (vanish : (2 : R) ^ (w + 2) = 0)
    (parity : ∀ z : R, ∃ y, z = 2 * y ∨ z = 1 + 2 * y) (t s v : R) :
    ∃ n, (affine (1 + 4 * (1 + 2 * t)) 0)^[n] (1 + 2 * s + 4 * v) = 1 + 2 * s := by
  have unit : (1 + 2 * s) * (1 + 2 * s) ^ (2 ^ (w + 2) - 1) = 1 := by
    rw [← pow_succ', Nat.sub_add_cancel (Nat.one_le_two_pow), odd_pow_period vanish]
  obtain ⟨n, z, reached⟩ := exists_pow_mul (w := w) parity t ((1 + 2 * s) ^ (2 ^ (w + 2) - 1) * v)
  refine ⟨n, ?_⟩
  rw [vanish, zero_mul, add_zero] at reached
  rw [affine_zero_iterate]
  calc (1 + 4 * (1 + 2 * t)) ^ n * (1 + 2 * s + 4 * v)
      = (1 + 4 * (1 + 2 * t)) ^ n * (1 + 2 * s +
          4 * ((1 + 2 * s) * (1 + 2 * s) ^ (2 ^ (w + 2) - 1) * v)) := by rw [unit, one_mul]
    _ = (1 + 2 * s) * ((1 + 4 * (1 + 2 * t)) ^ n *
          (1 + 4 * ((1 + 2 * s) ^ (2 ^ (w + 2) - 1) * v))) := by ring
    _ = 1 + 2 * s := by rw [reached, mul_one]

end

end Congruential
