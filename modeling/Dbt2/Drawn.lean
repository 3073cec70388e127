import Dbt2.Common
import Dbt2.Lib.Source

/-!
# Random values from any source

The helpers of `Common`, over any source of words; at the vendored generator they are the same
(`getRandom_pcg64f` and its siblings). Each comes with what it yields and what it attains: a bounded
draw attains every value below its bound, as long as the bound is one that a double tells apart.
-/

namespace Dbt2

open Draws

instance : Source Pcg64f where
  draw rng := (pcgOutputXslRr12864 (pcg64fStepR rng).state, pcg64fStepR rng)
  seeded := pcg64fSrandomR

namespace Drawn

variable {σ : Type} [Source σ]

def getRandom (max : Int) : StateT σ Option Int := do
  let r ← word
  pure ((max * highBits r).tdiv (2 ^ 53))

def getNurand (a x y : Int) : StateT σ Option Int := do
  let u ← getRandom (a + 1)
  let v ← getRandom (y - x + 1)
  pure ((u.lor (x + v)).tmod (y - x + 1) + x)

def getPercentage : StateT σ Option ℚ := do
  let r ← word
  pure (highBits r / (2 ^ 53 - 1))

def getString (table : List Char) (x y : Int) : StateT σ Option (List Char) := do
  let seed ← word
  aside (Source.seeded seed) do
    let r ← getRandom (y - x + 1)
    let length := x + r + 1
    forRange 0 (length - 1) fun _ => do
      let c ← getRandom table.length
      pure [table.getD c.toNat ' ']

def getAString (x y : Int) : StateT σ Option (List Char) := getString aStringChar x y

def getLString (x y : Int) : StateT σ Option (List Char) := getString lStringChar x y

def getNString (x y : Int) : StateT σ Option (List Char) := getString nStringChar x y

/-- `max * m / 2 ^ 53` of 53 random bits `m`. -/
theorem draw_bounds {max : Int} (pos : 0 < max) (r : BitVec 64) :
    0 ≤ (max * highBits r).tdiv (2 ^ 53) ∧ (max * highBits r).tdiv (2 ^ 53) < max := by
  have low : (0 : Int) ≤ highBits r := Int.natCast_nonneg _
  have high : (highBits r : Int) < 2 ^ 53 := by exact_mod_cast highBits_lt r
  have nonneg : 0 ≤ max * highBits r := Int.mul_nonneg pos.le low
  rw [Int.tdiv_eq_ediv_of_nonneg nonneg]
  exact ⟨Int.ediv_nonneg nonneg (by norm_num),
    Int.ediv_lt_of_lt_mul (by norm_num) (Int.mul_lt_mul_of_pos_left high pos)⟩

/-- The same draw with its bounds. -/
def getRandomBelow (max : Int) (pos : 0 < max) : StateT σ Option {r : Int // 0 ≤ r ∧ r < max} := do
  let r ← word
  pure ⟨(max * highBits r).tdiv (2 ^ 53), draw_bounds pos r⟩

theorem getRandom_pcg64f (max : Int) : getRandom max = Dbt2.getRandom max := rfl

theorem getNurand_pcg64f (a x y : Int) : getNurand a x y = Dbt2.getNurand a x y := rfl

theorem getPercentage_pcg64f : getPercentage = Dbt2.getPercentage := rfl

theorem getString_pcg64f (table : List Char) (x y : Int) :
    getString table x y = Dbt2.getString table x y := rfl

/-! ## Bounds -/

theorem getRandom_yields {max : Int} (pos : 0 < max) :
    Yields (getRandom max : StateT σ Option Int) fun r => 0 ≤ r ∧ r < max :=
  word_yields.bind fun r _ => Yields.pure (draw_bounds pos r)

theorem getRandomBelow_yields {max : Int} (pos : 0 < max) :
    Yields (getRandomBelow max pos : StateT σ Option _) fun _ => True :=
  word_yields.bind fun _ _ => Yields.pure trivial

theorem lor_nonneg {u v : Int} (hu : 0 ≤ u) (hv : 0 ≤ v) : 0 ≤ u.lor v := by
  obtain ⟨m, rfl⟩ := Int.eq_ofNat_of_zero_le hu
  obtain ⟨n, rfl⟩ := Int.eq_ofNat_of_zero_le hv
  exact Int.natCast_nonneg (m ||| n)

theorem zero_lor {v : Int} (hv : 0 ≤ v) : Int.lor 0 v = v := by
  obtain ⟨n, rfl⟩ := Int.eq_ofNat_of_zero_le hv
  exact congrArg Nat.cast (Nat.zero_or n)

/-- What `getNurand` makes of two draws. -/
theorem nurand_between {x y u v : Int} (hx : 0 ≤ x) (order : x ≤ y) (hu : 0 ≤ u) (hv : 0 ≤ v) :
    x ≤ (u.lor (x + v)).tmod (y - x + 1) + x ∧ (u.lor (x + v)).tmod (y - x + 1) + x ≤ y := by
  have nonneg : 0 ≤ u.lor (x + v) := lor_nonneg hu (by omega)
  rw [Int.tmod_eq_emod_of_nonneg nonneg]
  have low := Int.emod_nonneg (u.lor (x + v)) (show y - x + 1 ≠ 0 by omega)
  have high := Int.emod_lt_of_pos (u.lor (x + v)) (show 0 < y - x + 1 by omega)
  omega

/-- With nothing from the first draw, the second one decides the number. -/
theorem nurand_second {x y n : Int} (hx : 0 ≤ x) (low : x ≤ n) (high : n ≤ y) :
    (Int.lor 0 (x + (n - x - x) % (y - x + 1))).tmod (y - x + 1) + x = n := by
  have nonneg : 0 ≤ x + (n - x - x) % (y - x + 1) := by
    have := Int.emod_nonneg (n - x - x) (show y - x + 1 ≠ 0 by omega)
    omega
  have reduced : (x + (n - x - x) % (y - x + 1)) % (y - x + 1) = n - x := by
    rw [Int.add_emod_emod, show x + (n - x - x) = n - x by ring]
    exact Int.emod_eq_of_lt (by omega) (by omega)
  rw [zero_lor nonneg, Int.tmod_eq_emod_of_nonneg nonneg, reduced, sub_add_cancel]

theorem getNurand_yields {a x y : Int} (ha : 0 ≤ a) (hx : 0 ≤ x) (order : x ≤ y) :
    Yields (getNurand a x y : StateT σ Option Int) fun n => x ≤ n ∧ n ≤ y :=
  (getRandom_yields (by omega)).bind fun _ hu =>
    (getRandom_yields (by omega)).bind fun _ hv =>
      Yields.pure (nurand_between hx order hu.1 hv.1)

/-- A string of between `x` and `y` characters of the table. -/
structure Word (table : List Char) (x y : Int) (s : List Char) : Prop where
  least : x ≤ s.length
  most : s.length ≤ y
  table : ∀ c ∈ s, c ∈ table

theorem getString_yields {table : List Char} (some : table ≠ []) {x y : Int} (nonneg : 0 ≤ x)
    (order : x ≤ y) :
    Yields (getString table x y : StateT σ Option (List Char)) (Word table x y) := by
  have pos : 0 < (table.length : Int) := by exact_mod_cast List.length_pos_of_ne_nil some
  refine word_yields.bind fun seed _ => Yields.aside ?_ _
  refine (getRandom_yields (by omega)).bind fun r bounds => ?_
  refine (forRange_yields (R := fun c => c ∈ table) _ _ fun _ =>
    (getRandom_yields pos).bind fun c inside => Yields.pure ⟨_, rfl, ?_⟩).mono ?_
  · have index : c.toNat < table.length := by omega
    rw [List.getD_eq_getElem _ _ index]
    exact List.getElem_mem index
  · rintro s ⟨length, chars⟩
    exact ⟨by omega, by omega, chars⟩

/-! ## Attained values -/

/-- A word with the given high bits. -/
def wordOf (m : Nat) : BitVec 64 := BitVec.ofNat 64 (m * 2 ^ 11)

theorem highBits_wordOf {m : Nat} (h : m < 2 ^ 53) : highBits (wordOf m) = m := by
  simp only [highBits, wordOf, BitVec.toNat_ushiftRight, BitVec.toNat_ofNat,
    Nat.shiftRight_eq_div_pow]
  omega

/-- The least draw whose product with the bound reaches `r` stays below the next number. -/
theorem exists_draw {max r : Int} (low : 0 ≤ r) (high : r < max) (fits : max ≤ 2 ^ 53) :
    ∃ m : Nat, m < 2 ^ 53 ∧ (max * m).tdiv (2 ^ 53) = r := by
  have pos : 0 < max := by omega
  obtain ⟨m, least⟩ : ∃ m, m = (r * 2 ^ 53 + (max - 1)) / max := ⟨_, rfl⟩
  have reaches : r * 2 ^ 53 + (max - 1) < max * m + max := by
    have next := Int.lt_ediv_add_one_mul_self (r * 2 ^ 53 + (max - 1)) pos
    rwa [← least, add_mul, one_mul, mul_comm m max] at next
  have stops : max * m ≤ r * 2 ^ 53 + (max - 1) := by
    rw [least]
    exact Int.mul_ediv_self_le (by omega)
  have nonneg : 0 ≤ m := by
    rw [least]
    exact Int.ediv_nonneg (by omega) pos.le
  have bounded : m < 2 ^ 53 := by
    rw [least]
    exact Int.ediv_lt_of_lt_mul pos (by omega)
  obtain ⟨n, rfl⟩ := Int.eq_ofNat_of_zero_le nonneg
  refine ⟨n, by exact_mod_cast bounded, ?_⟩
  rw [Int.tdiv_eq_ediv_of_nonneg (by positivity)]
  refine le_antisymm ?_ (Int.le_ediv_of_mul_le (by norm_num) (by omega))
  exact Int.lt_add_one_iff.mp (Int.ediv_lt_of_lt_mul (by norm_num) (by omega))

theorem getRandom_attains {max r : Int} (low : 0 ≤ r) (high : r < max) (fits : max ≤ 2 ^ 53) :
    Attains (getRandom max) r := by
  obtain ⟨m, bounded, product⟩ := exists_draw low high fits
  refine (attains_word (wordOf m)).bind ?_
  rw [highBits_wordOf bounded, product]
  exact Attains.pure r

theorem getRandomBelow_attains {max r : Int} (low : 0 ≤ r) (high : r < max)
    (fits : max ≤ 2 ^ 53) :
    Attains (getRandomBelow max (low.trans_lt high)) ⟨r, low, high⟩ := by
  obtain ⟨m, bounded, product⟩ := exists_draw low high fits
  refine (attains_word (wordOf m)).bind ?_
  simp only [highBits_wordOf bounded, product]
  exact Attains.pure _

theorem getNurand_attains {a x y n : Int} (ha : 0 ≤ a) (small : a < 2 ^ 53) (hx : 0 ≤ x)
    (low : x ≤ n) (high : n ≤ y) (fits : y - x + 1 ≤ 2 ^ 53) : Attains (getNurand a x y) n := by
  have pos : 0 < y - x + 1 := by omega
  refine (getRandom_attains le_rfl (by omega) (by omega)).bind ?_
  refine (getRandom_attains (Int.emod_nonneg (n - x - x) pos.ne')
    (Int.emod_lt_of_pos (n - x - x) pos) fits).bind ?_
  rw [nurand_second hx low high]
  exact Attains.pure n

end Drawn

end Dbt2
