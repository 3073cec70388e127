import Dbt2.Pcg

/-!
# Random values and strings

The helpers every generator of values shares. A string costs its caller one draw, which seeds a
generator of its own; `getAString_takes` and its siblings say so.

`getRandom` and `getPercentage` are read with exact arithmetic in place of doubles.
-/

namespace Dbt2

open Draws

def ERROR : Int := 0
def OK : Int := 1
def STATUS_ROLLBACK : Int := 4
def RECONNECT : Int := 6

def DISTRICT_CARDINALITY : Int := 10
def O_OL_CNT_MAX : Int := 15

def aStringChar : List Char :=
  ("A!#$%&()*+,-./" ++
    "0123456789:;<=>?@ABCDEFGHIJKLMNOPQRSTUVWXYZ[]^_`abcdef" ++
    "ghijklmnopqrstuvwxyz\x7b|\x7d~€‚ƒ„…†‡ˆ‰Š‹ŒŽ‘’“”•–—˜™š›œžŸ¡¢£¤¥¦§¨©").toList

def nStringChar : List Char := "0123456789".toList

def lStringChar : List Char := "ABCDEFGHIJKLMNOPQRSTUVWXYZabcdefghijklmnopqrstuvwxyz".toList

def cLastSyl : List String :=
  ["BAR", "OUGHT", "ABLE", "PRI", "PRES", "ESE", "ANTI", "CALLY", "ATION", "EING"]

/-- The 53 high bits of a draw, from which both real-valued helpers start. -/
def highBits (r : BitVec 64) : Nat := (r >>> 11).toNat

/-- The product truncated toward zero, as the cast to an integer does. -/
def getRandom (max : Int) : Gen Int := do
  let r ← pcg64fRandomR
  pure ((max * highBits r).tdiv (2 ^ 53))

def getPercentage : Gen ℚ := do
  let r ← pcg64fRandomR
  pure (highBits r / (2 ^ 53 - 1))

def getNurand (a x y : Int) : Gen Int := do
  let u ← getRandom (a + 1)
  let v ← getRandom (y - x + 1)
  pure ((u.lor (x + v)).tmod (y - x + 1) + x)

/-- The body of the three string helpers, which differ in their character table. -/
def getString (table : List Char) (x y : Int) : Gen (List Char) := do
  let seed ← pcg64fRandomR
  aside (pcg64fSrandomR seed) do
    let r ← getRandom (y - x + 1)
    let length := x + r + 1
    forRange 0 (length - 1) fun _ => do
      let c ← getRandom table.length
      pure [table.getD c.toNat ' ']

def getAString (x y : Int) : Gen (List Char) := getString aStringChar x y

def getLString (x y : Int) : Gen (List Char) := getString lStringChar x y

def getNString (x y : Int) : Gen (List Char) := getString nStringChar x y

def getCLast (i : Int) : String :=
  if i < 0 ∨ 999 < i then "" else
    let digit (n : Nat) := cLastSyl.getD (n % 10) ""
    digit (i.toNat / 100) ++ digit (i.toNat / 10) ++ digit i.toNat

/-! ## Bounds and costs -/

theorem highBits_lt (r : BitVec 64) : highBits r < 2 ^ 53 := by
  have := r.isLt
  simp only [highBits, BitVec.toNat_ushiftRight, Nat.shiftRight_eq_div_pow]
  omega

/-- The bounds of a random number, inclusive and exclusive. -/
theorem getRandom_emits {max : Int} (pos : 0 < max) :
    Emits (getRandom max) fun r => 0 ≤ r ∧ r < max := by
  refine (Emits.trivial _).bind fun r _ => Emits.pure ?_
  have low : (0 : Int) ≤ highBits r := Int.natCast_nonneg _
  have high : (highBits r : Int) < 2 ^ 53 := by exact_mod_cast highBits_lt r
  have nonneg : 0 ≤ max * highBits r := Int.mul_nonneg pos.le low
  rw [Int.tdiv_eq_ediv_of_nonneg nonneg]
  exact ⟨Int.ediv_nonneg nonneg (by norm_num),
    Int.ediv_lt_of_lt_mul (by norm_num) (Int.mul_lt_mul_of_pos_left high pos)⟩

theorem getRandom_takes (max : Int) : Takes pcg64fStepR 1 (getRandom max) :=
  pcg64fRandomR_takes.map _

theorem getPercentage_takes : Takes pcg64fStepR 1 getPercentage := pcg64fRandomR_takes.map _

theorem getNurand_takes (a x y : Int) : Takes pcg64fStepR 2 (getNurand a x y) :=
  (getRandom_takes _).bind fun _ => (getRandom_takes _).map _

theorem getString_takes (table : List Char) (x y : Int) :
    Takes pcg64fStepR 1 (getString table x y) := by
  refine pcg64fRandomR_takes.bind fun seed => Returns.aside ?_ _
  exact (getRandom_takes _).returns.bind fun r => forRange_returns
    (fun _ => ((getRandom_takes _).map _).returns) _ _

end Dbt2
