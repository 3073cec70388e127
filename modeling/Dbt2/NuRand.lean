import Dbt2.Drawn
import Dbt2.Lib.Rounding

/-!
# NURand in machine arithmetic

`get_nurand` as a compiled program computes it: an `int` expression may overflow, after which there
is nothing to rely on, and a product of doubles is rounded. `Drawn` has the same function in exact
arithmetic.

* `draw_near`: a draw there and the rounded one here differ by one at most;
* `getRandom_yields`, `getRandom_attains`: it is below its bound, and may be any number there;
* `Covers`: no draws leave the range, and some give each number of it;
* `nurand_covers_iff`: so it is as long as neither bound of a draw overflows.
-/

namespace Dbt2.NuRand

open Draws Drawn Rounding

variable {σ : Type}

/-- The value of an `int` expression, unless it overflows. -/
def cInt (n : Int) : StateT σ Option Int := if -2 ^ 31 ≤ n ∧ n < 2 ^ 31 then pure n else failure

def toDouble (n : Int) : Int := significant 53 n

section

variable [Source σ]

/-- In units of `2 ^ -53` up to the cast. -/
def getRandom (max : Int) : StateT σ Option Int := do
  let r ← word
  pure ((toDouble (toDouble max * highBits r)).tdiv (2 ^ 53))

def getNurand (a x y : Int32) : StateT σ Option Int32 := do
  let bound ← cInt (a.toInt + 1)
  let span ← cInt (y.toInt - x.toInt)
  let span ← cInt (span + 1)
  let u ← getRandom bound
  let v ← getRandom span
  if span = 0 then failure
  else pure (Int32.ofInt ((u.lor (x.toInt + v)).tmod span + x.toInt))

end

/-! ## Rounded draws -/

theorem toDouble_exact {n : Int} (low : 0 ≤ n) (high : n < 2 ^ 53) : toDouble n = n :=
  significant_exact (by omega)

theorem toDouble_near {n k : Int} (nonneg : 0 ≤ n) (below : n < k * 2 ^ 53) :
    n - k < toDouble n ∧ toDouble n < n + k := by
  have error := significant_error 53 nonneg
  unfold toDouble
  omega

theorem toDouble_nonneg {n : Int} (nonneg : 0 ≤ n) : 0 ≤ toDouble n := by
  obtain ⟨n, rfl⟩ := Int.eq_ofNat_of_zero_le nonneg
  rw [toDouble, significant_natCast]
  exact Int.natCast_nonneg _

theorem product_bounds {max : Int} (pos : 0 < max) (r : BitVec 64) :
    0 ≤ max * highBits r ∧ max * highBits r ≤ max * 2 ^ 53 - max := by
  have high : (highBits r : Int) ≤ 2 ^ 53 - 1 := by
    have := highBits_lt r
    omega
  constructor
  · exact Int.mul_nonneg pos.le (Int.natCast_nonneg _)
  · calc max * highBits r ≤ max * (2 ^ 53 - 1) := Int.mul_le_mul_of_nonneg_left high pos.le
      _ = max * 2 ^ 53 - max := by ring

/-- Rounding a draw moves it by one at most. -/
theorem draw_near {max : Int} (pos : 0 < max) (fits : max < 2 ^ 53) (r : BitVec 64) :
    |(toDouble (toDouble max * highBits r)).tdiv (2 ^ 53) -
      (max * highBits r).tdiv (2 ^ 53)| ≤ 1 := by
  obtain ⟨nonneg, most⟩ := product_bounds pos r
  have near := toDouble_near (k := max) nonneg (by omega)
  rw [toDouble_exact pos.le fits, Int.tdiv_eq_ediv_of_nonneg (toDouble_nonneg nonneg),
    Int.tdiv_eq_ediv_of_nonneg nonneg, abs_le]
  omega

/-- A rounded product of a bound and 53 bits stays below the bound. -/
theorem draw_below {max : Int} (pos : 0 < max) (fits : max < 2 ^ 53) (r : BitVec 64) :
    0 ≤ (toDouble (toDouble max * highBits r)).tdiv (2 ^ 53) ∧
      (toDouble (toDouble max * highBits r)).tdiv (2 ^ 53) < max := by
  obtain ⟨nonneg, most⟩ := product_bounds pos r
  have near := toDouble_near (k := max) nonneg (by omega)
  rw [toDouble_exact pos.le fits, Int.tdiv_eq_ediv_of_nonneg (toDouble_nonneg nonneg)]
  constructor
  · exact Int.ediv_nonneg (toDouble_nonneg nonneg) (by norm_num)
  · exact Int.ediv_lt_of_lt_mul (by norm_num) (by omega)

theorem getRandom_yields [Source σ] {max : Int} (pos : 0 < max) (fits : max < 2 ^ 53) :
    Yields (getRandom max : StateT σ Option Int) fun r => 0 ≤ r ∧ r < max :=
  word_yields.bind fun r _ => Yields.pure (draw_below pos fits r)

/-- A product a little above `r`, so that rounding can not take it elsewhere. -/
theorem exists_rounded {max r : Int} (low : 0 ≤ r) (high : r < max) (fits : max ≤ 2 ^ 51) :
    ∃ m : Nat, m < 2 ^ 53 ∧ (toDouble (toDouble max * m)).tdiv (2 ^ 53) = r := by
  have pos : 0 < max := by omega
  obtain ⟨m, least⟩ : ∃ m, m = (r * 2 ^ 53 + 2 * max) / max := ⟨_, rfl⟩
  have stops : max * m ≤ r * 2 ^ 53 + 2 * max := by
    rw [least]
    exact Int.mul_ediv_self_le pos.ne'
  have reaches : r * 2 ^ 53 + 2 * max < max * m + max := by
    have next := Int.lt_ediv_add_one_mul_self (r * 2 ^ 53 + 2 * max) pos
    rwa [← least, add_mul, one_mul, mul_comm m max] at next
  have nonneg : 0 ≤ m := by
    rw [least]
    exact Int.ediv_nonneg (by omega) pos.le
  have bounded : m < 2 ^ 53 := by
    rw [least]
    exact Int.ediv_lt_of_lt_mul pos (by omega)
  obtain ⟨n, rfl⟩ := Int.eq_ofNat_of_zero_le nonneg
  have product : 0 ≤ max * n := Int.mul_nonneg pos.le nonneg
  have near := toDouble_near (k := max) product (by omega)
  refine ⟨n, by exact_mod_cast bounded, ?_⟩
  rw [toDouble_exact pos.le (by omega), Int.tdiv_eq_ediv_of_nonneg (toDouble_nonneg product)]
  omega

theorem getRandom_attains {max r : Int} (low : 0 ≤ r) (high : r < max) (fits : max ≤ 2 ^ 51) :
    Attains (getRandom max) r := by
  obtain ⟨m, bounded, product⟩ := exists_rounded low high fits
  refine (attains_word (wordOf m)).bind ?_
  rw [highBits_wordOf bounded, product]
  exact Attains.pure r

/-! ## Numbers in a range -/

/-- From any source of words, a number of the range; and each of them from some words. -/
structure Covers (a x y : Int32) : Prop where
  inRange : ∀ (σ : Type) [Source σ],
    Yields (getNurand a x y : StateT σ Option Int32) fun n => x ≤ n ∧ n ≤ y
  attained : ∀ n, x ≤ n → n ≤ y → Attains (getNurand a x y) n

theorem cInt_fits {n : Int} (low : -2 ^ 31 ≤ n) (high : n < 2 ^ 31) :
    (cInt n : StateT σ Option Int) = pure n := if_pos ⟨low, high⟩

theorem cInt_overflow {n : Int} (high : 2 ^ 31 ≤ n) : (cInt n : StateT σ Option Int) = failure :=
  if_neg (by omega)

/-- With bounds that fit. -/
theorem getNurand_fits [Source σ] {a x y : Int32} (ha : 0 ≤ a.toInt) (first : a.toInt + 1 < 2 ^ 31)
    (order : x.toInt ≤ y.toInt) (second : y.toInt - x.toInt + 1 < 2 ^ 31) :
    (getNurand a x y : StateT σ Option Int32) = (do
      let u ← getRandom (a.toInt + 1)
      let v ← getRandom (y.toInt - x.toInt + 1)
      pure (Int32.ofInt ((u.lor (x.toInt + v)).tmod (y.toInt - x.toInt + 1) + x.toInt))) := by
  have some : y.toInt - x.toInt + 1 ≠ 0 := by omega
  unfold getNurand
  simp only [cInt_fits (by omega) first, cInt_fits (n := y.toInt - x.toInt) (by omega) (by omega),
    cInt_fits (by omega) second, pure_bind, if_neg some]

theorem getNurand_overflow [Source σ] {a x y : Int32} (ha : 0 ≤ a.toInt) (hx : 0 ≤ x.toInt)
    (overflow : 2 ^ 31 ≤ a.toInt + 1 ∨ 2 ^ 31 ≤ y.toInt - x.toInt + 1) (s : σ) :
    getNurand a x y s = none := by
  have := y.toInt_lt
  unfold getNurand
  by_cases first : 2 ^ 31 ≤ a.toInt + 1
  · rw [cInt_overflow first]
    rfl
  · obtain large | second := overflow
    · exact absurd large first
    · simp only [cInt_fits (n := a.toInt + 1) (by omega) (by omega),
        cInt_fits (n := y.toInt - x.toInt) (by omega) (by omega), cInt_overflow second, pure_bind]
      rfl

theorem toInt_ofInt_between {x y : Int32} {n : Int} (h : x.toInt ≤ n ∧ n ≤ y.toInt) :
    (Int32.ofInt n).toInt = n := by
  have := x.le_toInt
  have := y.toInt_lt
  exact Int32.toInt_ofInt_of_le (by omega) (by omega)

theorem getNurand_yields [Source σ] {a x y : Int32} (ha : 0 ≤ a.toInt)
    (first : a.toInt + 1 < 2 ^ 31) (hx : 0 ≤ x.toInt) (order : x.toInt ≤ y.toInt)
    (second : y.toInt - x.toInt + 1 < 2 ^ 31) :
    Yields (getNurand a x y : StateT σ Option Int32) fun n => x ≤ n ∧ n ≤ y := by
  rw [getNurand_fits ha first order second]
  refine (getRandom_yields (by omega) (by omega)).bind fun u hu =>
    (getRandom_yields (by omega) (by omega)).bind fun v hv => Yields.pure ?_
  have between := nurand_between hx order hu.1 hv.1
  rw [Int32.le_iff_toInt_le, Int32.le_iff_toInt_le, toInt_ofInt_between between]
  exact between

theorem getNurand_attains {a x y n : Int32} (ha : 0 ≤ a.toInt) (first : a.toInt + 1 < 2 ^ 31)
    (hx : 0 ≤ x.toInt) (second : y.toInt - x.toInt + 1 < 2 ^ 31) (low : x.toInt ≤ n.toInt)
    (high : n.toInt ≤ y.toInt) : Attains (getNurand a x y) n := by
  have pos : 0 < y.toInt - x.toInt + 1 := by omega
  rw [getNurand_fits ha first (by omega) second]
  refine (getRandom_attains le_rfl (by omega) (by omega)).bind ?_
  refine (getRandom_attains (Int.emod_nonneg (n.toInt - x.toInt - x.toInt) pos.ne')
    (Int.emod_lt_of_pos (n.toInt - x.toInt - x.toInt) pos) (by omega)).bind ?_
  rw [nurand_second hx low high, Int32.ofInt_toInt]
  exact Attains.pure n

theorem nurand_covers_iff {a x y : Int32} (ha : 0 ≤ a) (hx : 0 ≤ x) (order : x ≤ y) :
    Covers a x y ↔ a < Int32.maxValue ∧ y - x < Int32.maxValue := by
  rw [Int32.le_iff_toInt_le] at ha hx order
  have zero : (0 : Int32).toInt = 0 := rfl
  have most : Int32.maxValue.toInt = 2 ^ 31 - 1 := rfl
  have range : (y - x).toInt = y.toInt - x.toInt := by
    have := y.toInt_lt
    rw [Int32.toInt_sub]
    exact Int.bmod_eq_of_le (by omega) (by omega)
  rw [Int32.lt_iff_toInt_lt, Int32.lt_iff_toInt_lt, range, most]
  constructor
  · intro covers
    by_contra large
    obtain ⟨n, t, returned, -⟩ := covers.inRange (Stream' (BitVec 64)) (Stream'.const 0)
    rw [getNurand_overflow (by omega) (by omega) (by omega)] at returned
    cases returned
  · rintro ⟨first, second⟩
    constructor
    · intro σ source
      exact getNurand_yields (by omega) (by omega) (by omega) order (by omega)
    · intro n low high
      rw [Int32.le_iff_toInt_le] at low high
      exact getNurand_attains (by omega) (by omega) (by omega) (by omega) low high

/-- The last names. -/
theorem nurand_covers_names : Covers 255 0 999 :=
  (nurand_covers_iff (by decide) (by decide) (by decide)).mpr (by decide)

theorem nurand_not_covers : ¬ Covers Int32.maxValue 0 999 := by
  intro covers
  obtain ⟨n, t, returned, -⟩ := covers.inRange (Stream' (BitVec 64)) (Stream'.const 0)
  rw [getNurand_overflow (by decide) (by decide) (by decide)] at returned
  cases returned

end Dbt2.NuRand
