import Dbt2.Lib.Congruential
import Dbt2.Lib.Draws

/-!
# The vendored generator

`pcg64f`: a 128-bit multiplicative congruential state with the xsl-rr output function. The data
generator relies on one thing about it, `pcg64fAdvanceR_ofNat`: an advance by `n` is `n` draws,
whatever the size of `n`. How long the sequence of a seed is says `pcg64f_period`, and which seeds
have the same one `pcg64f_orbit`.
-/

namespace Dbt2

structure Pcg64f where
  state : BitVec 128
  deriving DecidableEq, Repr

/-- `PCG_DEFAULT_MULTIPLIER_128`, given in the source by its two halves. -/
def pcgDefaultMultiplier128 : BitVec 128 :=
  (2549297995355413924#128 <<< 64) + 4865540595714422341#128

def pcgAdvanceLcg128 (state delta curMult curPlus : BitVec 128) : BitVec 128 :=
  let acc := Congruential.stride delta.toNat curMult curPlus 1 0
  acc.1 * state + acc.2

def pcgRotr64 (value : BitVec 64) (rot : Nat) : BitVec 64 :=
  (value >>> rot) ||| (value <<< ((-(BitVec.ofNat 32 rot)) &&& 63#32).toNat)

def pcgOutputXslRr12864 (state : BitVec 128) : BitVec 64 :=
  pcgRotr64 ((state >>> 64).setWidth 64 ^^^ state.setWidth 64) (state >>> 122).toNat

def pcg64fStepR (rng : Pcg64f) : Pcg64f := ⟨rng.state * pcgDefaultMultiplier128⟩

def pcg64fAdvanceR (rng : Pcg64f) (delta : BitVec 128) : Pcg64f :=
  ⟨pcgAdvanceLcg128 rng.state delta pcgDefaultMultiplier128 0⟩

def pcg64fSrandomR (initstate : BitVec 64) : Pcg64f := ⟨initstate.setWidth 128 ||| 1#128⟩

/-- A program that draws from a generator. No result stands for `exit(1)`. -/
abbrev Gen (α : Type) := StateT Pcg64f Option α

def pcg64fRandomR : Gen (BitVec 64) := fun rng =>
  let next := pcg64fStepR rng
  some (pcgOutputXslRr12864 next.state, next)

theorem pcg64fRandomR_takes : Draws.Takes pcg64fStepR 1 pcg64fRandomR := fun _ => ⟨_, rfl⟩

/-! ## An advance is that many steps -/

theorem two_pow_128 : (2 : BitVec 128) ^ 128 = 0 := by decide +kernel

theorem pcgDefaultMultiplier128_odd : ∃ t, pcgDefaultMultiplier128 = 1 + 2 * t :=
  ⟨pcgDefaultMultiplier128 >>> 1, by decide⟩

theorem stepR_iterate (rng : Pcg64f) (n : Nat) :
    pcg64fStepR^[n] rng = ⟨(Congruential.affine pcgDefaultMultiplier128 0)^[n] rng.state⟩ := by
  induction n with
  | zero => rfl
  | succ n ih =>
    rw [Function.iterate_succ_apply', ih, Function.iterate_succ_apply']
    simp only [pcg64fStepR, Congruential.affine, add_zero, mul_comm]

/-- The step count is a 128-bit number, but the multiplier's period divides `2 ^ 128`, so the
reduction loses nothing. -/
theorem pcg64fAdvanceR_ofNat (rng : Pcg64f) (n : Nat) :
    pcg64fAdvanceR rng (BitVec.ofNat 128 n) = pcg64fStepR^[n] rng := by
  have steps := Congruential.stride_iterate (n % 2 ^ 128) pcgDefaultMultiplier128 0 1 0 rng.state
  rw [one_mul, add_zero] at steps
  simp only [pcg64fAdvanceR, pcgAdvanceLcg128, BitVec.toNat_ofNat, steps, stepR_iterate]
  obtain ⟨t, odd⟩ := pcgDefaultMultiplier128_odd
  rw [odd, Congruential.iterate_mod two_pow_128]

/-! ## Periods and orbits -/

theorem pcgDefaultMultiplier128_five_mod_eight :
    ∃ t, pcgDefaultMultiplier128 = 1 + 4 * (1 + 2 * t) :=
  ⟨pcgDefaultMultiplier128 >>> 3, by decide⟩

theorem even_or_odd (z : BitVec 128) : ∃ y, z = 2 * y ∨ z = 1 + 2 * y := by
  refine ⟨z >>> 1, ?_⟩
  have bound := z.isLt
  obtain even | odd := Nat.mod_two_eq_zero_or_one z.toNat
  · left
    apply BitVec.eq_of_toNat_eq
    rw [BitVec.toNat_mul, BitVec.toNat_ushiftRight, Nat.shiftRight_eq_div_pow]
    change _ = (2 % 2 ^ 128 * _) % 2 ^ 128
    omega
  · right
    apply BitVec.eq_of_toNat_eq
    rw [BitVec.toNat_add, BitVec.toNat_mul, BitVec.toNat_ushiftRight, Nat.shiftRight_eq_div_pow]
    change _ = (1 % 2 ^ 128 + 2 % 2 ^ 128 * _ % 2 ^ 128) % 2 ^ 128
    omega

theorem pcg64fSrandomR_toNat (seed : BitVec 64) :
    (pcg64fSrandomR seed).state.toNat = 2 * (seed.toNat / 2) + 1 := by
  have same : (pcg64fSrandomR seed).state.toNat = (seed.setWidth 128).toNat ||| 1 := rfl
  have wide : (seed.setWidth 128).toNat = seed.toNat := by
    have := seed.isLt
    rw [BitVec.toNat_setWidth]
    omega
  have low : (seed.toNat ||| 1) % 2 = 1 := by simp [Nat.or_mod_two_eq_one]
  have high : (seed.toNat ||| 1) / 2 = seed.toNat / 2 := by simp [Nat.or_div_two]
  rw [same, wide]
  omega

theorem pcg64fSrandomR_odd (seed : BitVec 64) : ∃ s, (pcg64fSrandomR seed).state = 1 + 2 * s := by
  obtain ⟨s, even | odd⟩ := even_or_odd (pcg64fSrandomR seed).state
  · have parity := pcg64fSrandomR_toNat seed
    rw [even, BitVec.toNat_mul] at parity
    change (2 % 2 ^ 128 * _) % 2 ^ 128 = _ at parity
    omega
  · exact ⟨s, odd⟩

theorem half_ne_zero : (2 : BitVec 128) ^ 127 ≠ 0 := by decide +kernel

/-- From every seed the generator repeats itself after `2 ^ 126` draws and no sooner, whether it
gets there draw by draw or by an advance. -/
theorem pcg64f_period (seed : BitVec 64) (m n : Nat) :
    pcg64fAdvanceR (pcg64fSrandomR seed) (BitVec.ofNat 128 m) =
        pcg64fStepR^[n] (pcg64fSrandomR seed) ↔ m ≡ n [MOD 2 ^ 126] := by
  obtain ⟨t, five⟩ := pcgDefaultMultiplier128_five_mod_eight
  obtain ⟨s, odd⟩ := pcg64fSrandomR_odd seed
  rw [pcg64fAdvanceR_ofNat, stepR_iterate, stepR_iterate, odd, five, Pcg64f.mk.injEq]
  exact Congruential.iterate_eq_iff two_pow_128 half_ne_zero t s m n

theorem pcg64fStepR_mod_four (rng : Pcg64f) :
    (pcg64fStepR rng).state.toNat % 4 = rng.state.toNat % 4 := by
  have five : pcgDefaultMultiplier128.toNat % 4 = 1 := by decide
  have step : (pcg64fStepR rng).state.toNat =
      rng.state.toNat * pcgDefaultMultiplier128.toNat % 2 ^ 128 := BitVec.toNat_mul _ _
  rw [step, Nat.mod_mod_of_dvd _ (by norm_num), Nat.mul_mod, five, mul_one, Nat.mod_mod]

theorem iterate_mod_four (rng : Pcg64f) (n : Nat) :
    (pcg64fStepR^[n] rng).state.toNat % 4 = rng.state.toNat % 4 := by
  induction n with
  | zero => rfl
  | succ n ih => rw [Function.iterate_succ_apply', pcg64fStepR_mod_four, ih]

theorem getLsbD_one (x : BitVec 64) : x.getLsbD 1 = decide (x.toNat / 2 % 2 = 1) := by
  rw [BitVec.getLsbD, Nat.testBit_eq_decide_div_mod_eq, pow_one]

theorem seeds_mod_four (seed seed' : BitVec 64) :
    (pcg64fSrandomR seed).state.toNat % 4 = (pcg64fSrandomR seed').state.toNat % 4 ↔
      seed.getLsbD 1 = seed'.getLsbD 1 := by
  rw [pcg64fSrandomR_toNat, pcg64fSrandomR_toNat, getLsbD_one, getLsbD_one, decide_eq_decide]
  omega

theorem apart_by_four {x y : BitVec 128} (same : x.toNat % 4 = y.toNat % 4) :
    ∃ v, x = y + 4 * v := by
  refine ⟨(x - y) >>> 2, ?_⟩
  have left := x.isLt
  have right := y.isLt
  apply BitVec.eq_of_toNat_eq
  rw [BitVec.toNat_add, BitVec.toNat_mul, BitVec.toNat_ushiftRight, BitVec.toNat_sub,
    Nat.shiftRight_eq_div_pow]
  change _ = (_ + 4 % 2 ^ 128 * _ % 2 ^ 128) % 2 ^ 128
  omega

/-- The sequences of two seeds are one, begun at different points, just if the seeds agree in
their second lowest bit. -/
theorem pcg64f_orbit (seed seed' : BitVec 64) :
    (∃ n, pcg64fStepR^[n] (pcg64fSrandomR seed) = pcg64fSrandomR seed') ↔
      seed.getLsbD 1 = seed'.getLsbD 1 := by
  rw [← seeds_mod_four]
  constructor
  · rintro ⟨n, reached⟩
    rw [← reached, iterate_mod_four]
  · intro same
    obtain ⟨t, five⟩ := pcgDefaultMultiplier128_five_mod_eight
    obtain ⟨s, odd⟩ := pcg64fSrandomR_odd seed'
    obtain ⟨v, apart⟩ := apart_by_four same
    obtain ⟨n, reached⟩ := Congruential.exists_iterate (w := 126) two_pow_128 even_or_odd t s v
    refine ⟨n, ?_⟩
    rw [stepR_iterate, apart, odd, five, reached, ← odd]

end Dbt2
