import Mathlib

/-!
# Rounding to significant bits

A floating-point operation takes the exact result to the nearest number of so many significant
bits, and of two the even one. The exponent is not bounded.

* `significant`: the rounded number, for integers in units of whatever power of two;
* `significant_exact`: a number of few bits is itself;
* `significant_error`: the error is at most half a unit in the last place;
* `rounded`, `rounded_exact`: the same for rational numbers and digits to any base.
-/

namespace Rounding

/-- How many times `2 ^ s`, rounded to the nearest. -/
def nearest (s n : Nat) : Nat :=
  let q := n / 2 ^ s
  let r := n % 2 ^ s
  if 2 ^ s < 2 * r ∨ (2 * r = 2 ^ s ∧ q % 2 = 1) then q + 1 else q

/-- To `p` significant bits. -/
def magnitude (p n : Nat) : Nat := nearest (n.size - p) n * 2 ^ (n.size - p)

def significant (p : Nat) (n : Int) : Int := n.sign * magnitude p n.natAbs

example : [significant 2 5, significant 2 6, significant 2 7, significant 2 (-7)] =
  [4, 6, 8, -8] := by decide

theorem nearest_zero (n : Nat) : nearest 0 n = n := by
  simp [nearest, Nat.mod_one]

theorem nearest_error (s n : Nat) :
    2 * (nearest s n * 2 ^ s) ≤ 2 * n + 2 ^ s ∧ 2 * n ≤ 2 * (nearest s n * 2 ^ s) + 2 ^ s := by
  have split := Nat.div_add_mod' n (2 ^ s)
  have small := Nat.mod_lt n (Nat.two_pow_pos s)
  unfold nearest
  dsimp only
  split_ifs with up
  · rw [Nat.add_mul, Nat.one_mul]
    omega
  · omega

theorem magnitude_exact {p n : Nat} (short : n < 2 ^ p) : magnitude p n = n := by
  have few : n.size - p = 0 := Nat.sub_eq_zero_of_le (Nat.size_le.mpr short)
  simp [magnitude, few, nearest_zero]

theorem magnitude_error (p n : Nat) :
    magnitude p n * 2 ^ p ≤ n * 2 ^ p + n ∧ n * 2 ^ p ≤ magnitude p n * 2 ^ p + n := by
  by_cases few : n.size ≤ p
  · rw [magnitude_exact (Nat.size_le.mp few)]
    omega
  · -- With `s` more bits than fit, half of the last place is `2 ^ (s - 1)`.
    obtain ⟨s, size⟩ : ∃ s, n.size = s + 1 + p := ⟨n.size - p - 1, by omega⟩
    have large : 2 ^ (s + p) ≤ n := Nat.lt_size.mp (by omega)
    have error := nearest_error (s + 1) n
    have half : 2 ^ (s + 1) = 2 * 2 ^ s := Nat.pow_succ'
    unfold magnitude
    rw [size, Nat.add_sub_cancel]
    constructor
    · have above : nearest (s + 1) n * 2 ^ (s + 1) ≤ n + 2 ^ s := by omega
      calc nearest (s + 1) n * 2 ^ (s + 1) * 2 ^ p ≤ (n + 2 ^ s) * 2 ^ p :=
            Nat.mul_le_mul_right _ above
        _ = n * 2 ^ p + 2 ^ (s + p) := by rw [Nat.add_mul, Nat.pow_add 2 s p]
        _ ≤ n * 2 ^ p + n := Nat.add_le_add_left large _
    · have below : n ≤ nearest (s + 1) n * 2 ^ (s + 1) + 2 ^ s := by omega
      calc n * 2 ^ p ≤ (nearest (s + 1) n * 2 ^ (s + 1) + 2 ^ s) * 2 ^ p :=
            Nat.mul_le_mul_right _ below
        _ = nearest (s + 1) n * 2 ^ (s + 1) * 2 ^ p + 2 ^ (s + p) := by
            rw [Nat.add_mul, Nat.pow_add 2 s p]
        _ ≤ nearest (s + 1) n * 2 ^ (s + 1) * 2 ^ p + n := Nat.add_le_add_left large _

theorem significant_natCast (p n : Nat) : significant p n = magnitude p n := by
  cases n with
  | zero => simp [significant, magnitude, nearest]
  | succ n => rw [significant, Int.natAbs_natCast, Int.sign_eq_one_of_pos (by omega), one_mul]

theorem significant_exact {p : Nat} {n : Int} (short : n.natAbs < 2 ^ p) : significant p n = n := by
  rw [significant, magnitude_exact short, Int.sign_mul_natAbs]

theorem significant_error (p : Nat) {n : Int} (nonneg : 0 ≤ n) :
    significant p n * 2 ^ p ≤ n * 2 ^ p + n ∧ n * 2 ^ p ≤ significant p n * 2 ^ p + n := by
  obtain ⟨n, rfl⟩ := Int.eq_ofNat_of_zero_le nonneg
  rw [significant_natCast]
  exact_mod_cast magnitude_error p n

/-! ## Rational numbers -/

/-- The nearest integer, and of two the even one. -/
def nearestInt (q : ℚ) : Int :=
  let below := ⌊q⌋
  if q - below < 1 / 2 ∨ (q - below = 1 / 2 ∧ below % 2 = 0) then below else below + 1

/-- The last of `p` places to the base `b`. -/
def lastPlace (b p : Nat) (q : ℚ) : ℚ := (b : ℚ) ^ (Int.log b |q| + 1 - p)

/-- To `p` significant digits to the base `b`. -/
def rounded (b p : Nat) (q : ℚ) : ℚ := nearestInt (q / lastPlace b p q) * lastPlace b p q

example : [rounded 2 2 (5 / 8), rounded 2 2 (-7 / 8), rounded 10 2 (305 / 2)] =
  [1 / 2, -1, 150] := by decide +kernel

theorem nearestInt_intCast (n : Int) : nearestInt n = n := by
  simp [nearestInt]

/-- A number of few digits is itself. -/
theorem rounded_exact {b p : Nat} (base : 1 < b) {m e : Int} (short : m.natAbs < b ^ p) :
    rounded b p (m * (b : ℚ) ^ e) = m * (b : ℚ) ^ e := by
  have positive : (0 : ℚ) < b := by exact_mod_cast (by omega : 0 < b)
  by_cases zero : m = 0
  · subst zero
    simp [rounded, nearestInt]
  · have size : |(m : ℚ) * (b : ℚ) ^ e| < (b : ℚ) ^ ((p : Int) + e) := by
      rw [abs_mul, abs_of_pos (zpow_pos positive e), zpow_add₀ positive.ne', zpow_natCast]
      refine mul_lt_mul_of_pos_right ?_ (zpow_pos positive e)
      rw [← Int.cast_abs, ← Int.natCast_natAbs]
      exact_mod_cast short
    have some' : 0 < |(m : ℚ) * (b : ℚ) ^ e| :=
      abs_pos.mpr (mul_ne_zero (by exact_mod_cast zero) (zpow_pos positive e).ne')
    have places := (Int.lt_zpow_iff_log_lt base some').mp size
    obtain ⟨n, more⟩ := Int.eq_ofNat_of_zero_le
      (by omega : 0 ≤ e - (Int.log b |(m : ℚ) * (b : ℚ) ^ e| + 1 - p))
    have whole : (m : ℚ) * (b : ℚ) ^ e / lastPlace b p (m * (b : ℚ) ^ e) =
        ((m * (b : Int) ^ n : Int) : ℚ) := by
      rw [lastPlace, mul_div_assoc, ← zpow_sub₀ positive.ne', more]
      push_cast
      rfl
    have last : lastPlace b p (m * (b : ℚ) ^ e) ≠ 0 := (zpow_pos positive _).ne'
    rw [rounded, whole, nearestInt_intCast, ← whole, div_mul_cancel₀ _ last]

theorem rounded_int {b p : Nat} (base : 1 < b) {n : Int} (short : n.natAbs < b ^ p) :
    rounded b p n = n := by
  simpa using rounded_exact base (e := 0) short

theorem nearestInt_error (q : ℚ) : |nearestInt q - q| ≤ 1 / 2 := by
  have below := Int.floor_le q
  have above := Int.lt_floor_add_one q
  unfold nearestInt
  dsimp only
  split
  · next down =>
    rw [abs_le]
    obtain near | ⟨half, -⟩ := down <;> constructor <;> linarith
  · next up =>
    have far : 1 / 2 ≤ q - ⌊q⌋ := not_lt.mp fun near => up (.inl near)
    rw [abs_le]
    push_cast
    constructor <;> linarith

theorem lastPlace_pos {b : Nat} (base : 1 < b) (p : Nat) (q : ℚ) : 0 < lastPlace b p q :=
  zpow_pos (by exact_mod_cast (by omega : 0 < b)) _

/-- With at least one digit, a number is off by half of itself at most. -/
theorem rounded_error {b p : Nat} (base : 1 < b) (digits : 1 ≤ p) (q : ℚ) :
    |rounded b p q - q| ≤ |q| / 2 := by
  by_cases zero : q = 0
  · subst zero
    simp [rounded, nearestInt]
  · have place := lastPlace_pos base p q
    have split : rounded b p q - q = (nearestInt (q / lastPlace b p q) - q / lastPlace b p q) *
        lastPlace b p q := by
      rw [sub_mul, div_mul_cancel₀ _ place.ne']
      rfl
    have small : lastPlace b p q ≤ |q| := by
      have base' : (1 : ℚ) ≤ b := by exact_mod_cast base.le
      calc lastPlace b p q ≤ (b : ℚ) ^ Int.log b |q| := zpow_le_zpow_right₀ base' (by omega)
        _ ≤ |q| := Int.zpow_log_le_self base (abs_pos.mpr zero)
    calc |rounded b p q - q|
        = |nearestInt (q / lastPlace b p q) - q / lastPlace b p q| * lastPlace b p q := by
          rw [split, abs_mul, abs_of_pos place]
      _ ≤ 1 / 2 * lastPlace b p q := mul_le_mul_of_nonneg_right (nearestInt_error _) place.le
      _ ≤ |q| / 2 := by linarith

/-- An integer is rounded to one. -/
theorem rounded_intCast {b p : Nat} (base : 1 < b) (n : Int) : ∃ m : Int, rounded b p n = m := by
  by_cases short : n.natAbs < b ^ p
  · exact ⟨n, rounded_int base short⟩
  · have some' : (0 : ℚ) < |(n : ℚ)| := by
      rw [abs_pos, Int.cast_ne_zero]
      rintro rfl
      exact short (pow_pos (by omega) p)
    have long : (b : ℚ) ^ (p : Int) ≤ |(n : ℚ)| := by
      rw [zpow_natCast, ← Int.cast_abs, ← Int.natCast_natAbs]
      exact_mod_cast not_lt.mp short
    have places := (Int.zpow_le_iff_le_log base some').mp long
    obtain ⟨e, exponent⟩ := Int.eq_ofNat_of_zero_le
      (by omega : 0 ≤ Int.log b |(n : ℚ)| + 1 - p)
    refine ⟨nearestInt (n / lastPlace b p n) * (b : Int) ^ e, ?_⟩
    rw [rounded]
    push_cast
    congr 1
    rw [lastPlace, exponent]
    exact zpow_natCast _ _

end Rounding
