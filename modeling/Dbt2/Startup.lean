import Dbt2.Forks
import Dbt2.Lib.Fallible

/-!
# Starting up with any settings

The checks of `driver_main.c` and what they let through. Integers have 32 bits here; an overflow
in a bound, a counter or an index leaves nothing to rely on. A start-up is kept if it ends after
finitely many rounds without one, without a division by zero and without leaving an array.
-/

namespace Dbt2

open Stepping Fallible

/-- The settings a command line leaves behind, as far as the start-up depends on them. -/
structure CommandLine where
  warehouses : Int32 := 1
  wIdMin : Int32 := 0
  wIdMax : Int32 := 0
  spread : Int32 := 1
  terminalsPerWarehouse : Int32 := 10
  terminalsLimit : Int32 := 0
  forkPerProcessor : Int32 := 1
  deliveryActual : ℚ := 4 / 100
  orderStatusActual : ℚ := 4 / 100
  paymentActual : ℚ := 43 / 100
  stockLevelActual : ℚ := 4 / 100

namespace CommandLine

/-- What is left for New-Order transactions. -/
def newOrderActual (a : CommandLine) : ℚ :=
  1 - (a.deliveryActual + a.orderStatusActual + a.paymentActual + a.stockLevelActual)

/-- The checks of `main`, which look at neither the spread nor the numbers of processes and
terminals. -/
def accept (a : CommandLine) : Option DriverSettings :=
  let wIdMin := if a.wIdMin = 0 then 1 else a.wIdMin.toInt
  let wIdMax := if a.wIdMax = 0 then a.warehouses.toInt else a.wIdMax.toInt
  if wIdMax < wIdMin then none
  else if a.warehouses.toInt < wIdMax then none
  else if a.newOrderActual < 0 then none
  else some
    { wIdMin, wIdMax
      spread := a.spread.toInt
      terminalsPerWarehouse := a.terminalsPerWarehouse.toInt
      terminalsLimit := a.terminalsLimit.toInt
      forkPerProcessor := a.forkPerProcessor.toInt }

end CommandLine

/-- The value of an `int` expression. -/
abbrev cInt : Int → Except (Halt Int) Int := signed 31

theorem cInt_ok {n : Int} (low : -2 ^ 31 ≤ n) (high : n < 2 ^ 31) : cInt n = .ok n :=
  signed_ok low high

theorem cInt_overflow {n : Int} (high : 2 ^ 31 ≤ n) : cInt n = .error .overflow :=
  signed_overflow high

theorem cInt_eq_ok {n m : Int} (ok : cInt n = .ok m) : m = n ∧ -2 ^ 31 ≤ n ∧ n < 2 ^ 31 := by
  unfold cInt signed at ok
  split at ok
  · rename_i fits
    exact ⟨(Except.ok.inj ok).symm, fits⟩
  · cases ok

theorem cInt_cases (n : Int) :
    (cInt n = .ok n ∧ -2 ^ 31 ≤ n ∧ n < 2 ^ 31) ∨ Fails (cInt n) := by
  unfold cInt signed
  split
  · rename_i fits
    exact .inl ⟨rfl, fits⟩
  · exact .inr ⟨.overflow, rfl, trivial⟩

theorem cInt_value (n : Int) : cInt n = .ok n ∨ Fails (cInt n) := (cInt_cases n).imp_left And.left

/-- A range that is not empty, and integers of 32 bits. -/
structure IntSettings (c : DriverSettings) : Prop where
  le : c.wIdMin ≤ c.wIdMax
  first : -2 ^ 31 ≤ c.wIdMin
  last : c.wIdMax < 2 ^ 31
  spread : -2 ^ 31 ≤ c.spread ∧ c.spread < 2 ^ 31
  terminals : c.terminalsPerWarehouse < 2 ^ 31
  limit : c.terminalsLimit < 2 ^ 31

/-- What the checks let through. -/
structure Accepted (c : DriverSettings) : Prop extends IntSettings c where
  nonzero : c.wIdMin ≠ 0

theorem CommandLine.accepted {a : CommandLine} {c : DriverSettings} (ok : a.accept = some c) :
    Accepted c := by
  have lowMin := a.wIdMin.le_toInt
  have highMax := a.wIdMax.toInt_lt
  have highAll := a.warehouses.toInt_lt
  have zero : a.wIdMin.toInt = 0 → a.wIdMin = 0 := fun h => Int32.toInt_inj.mp (by simpa using h)
  have nonzero : (if a.wIdMin = 0 then 1 else a.wIdMin.toInt) ≠ 0 := by
    split
    · exact one_ne_zero
    · rename_i given
      exact fun h => given (zero h)
  have low : -2 ^ 31 ≤ (if a.wIdMin = 0 then 1 else a.wIdMin.toInt) := by split <;> omega
  have high : (if a.wIdMax = 0 then a.warehouses.toInt else a.wIdMax.toInt) < 2 ^ 31 := by
    split <;> omega
  unfold accept at ok
  extract_lets wIdMin wIdMax at ok
  split at ok
  · cases ok
  · rename_i ordered
    split at ok
    · cases ok
    · split at ok
      · cases ok
      · obtain rfl := Option.some.inj ok
        exact ⟨⟨not_lt.mp ordered, low, high, ⟨a.spread.le_toInt, a.spread.toInt_lt⟩,
          a.terminalsPerWarehouse.toInt_lt, a.terminalsLimit.toInt_lt⟩, nonzero⟩

theorem IntSettings.columns {c : DriverSettings} (ints : IntSettings c) (j : Nat)
    (lt : j < c.terminalsPerWarehouse) : cInt (j + 1) = .ok ((j : Int) + 1) :=
  cInt_ok (by omega) (by have := ints.terminals; omega)

theorem not_fails_ok {α : Type} {a : α} : ¬ Fails (.ok a : Except (Halt Int) α) :=
  fun ⟨_, h, _⟩ => nomatch h

theorem not_fails_returned {α : Type} {rc : Int} :
    ¬ Fails (.error (.returned rc) : Except (Halt Int) α) := by
  rintro ⟨h, same, fault⟩
  cases same
  exact fault

/-! ## driver.c -/

namespace Driver1

variable {c : DriverSettings}

/-- What an allocation loop that does not fail says of its rows. -/
theorem rowsFit_of_kept {slots : Int} {S : Nat} (some : 0 ≤ c.terminalsPerWarehouse)
    (inside : ∀ k < S, row c k < slots) (fuel : Nat) {k : Nat} (le : k ≤ quota c S)
    (kept : ¬ Fails (forLoop cInt slots c.spread (allocateRow cInt c slots) fuel (row c k)
      (allocationAfter c k))) :
    (∀ n, k ≤ n → n < quota c S →
      (0 ≤ row c n ∧ 1 + (n : Int) + 1 < 2 ^ 31) ∧ row c (n + 1) < 2 ^ 31) ∧
    (quota c S < S → 0 ≤ row c (quota c S)) := by
  induction fuel generalizing k with
  | zero => exact absurd ⟨.running, rfl, trivial⟩ kept
  | succ fuel ih =>
    have within := quota_le (c := c) S
    by_cases done : k = S
    · exact ⟨fun n low high => by omega, fun less => by omega⟩
    rw [forLoop, if_pos (inside k (by omega))] at kept
    by_cases fits : 0 ≤ row c k
    · by_cases last : k = quota c S
      · exact ⟨fun n low high => by omega, fun _ => last ▸ fits⟩
      · have lt : k < quota c S := by omega
        obtain ⟨counts, -, small⟩ | ⟨h, unfit, fault⟩ := cInt_cases (1 + k + 1)
        · rw [allocateRow_next ⟨fits, inside k (by omega)⟩ some (not_limited lt) counts] at kept
          dsimp only at kept
          obtain ⟨steps, -, below⟩ | ⟨h, unfit, fault⟩ := cInt_cases (row c k + c.spread)
          · rw [steps, row_succ] at kept
            rw [row_succ] at below
            obtain ⟨later, end'⟩ := ih (by omega) kept
            refine ⟨fun n low high => ?_, end'⟩
            obtain rfl | further := low.eq_or_lt
            · exact ⟨⟨fits, small⟩, below⟩
            · exact later n further high
          · exact absurd ⟨h, by rw [unfit], fault⟩ kept
        · have halted : allocateRow cInt c slots (row c k) (allocationAfter c k) = .error h := by
            rw [allocateRow, if_neg (not_not.mpr ⟨fits, inside k (by omega)⟩), if_neg (by omega)]
            simp only [allocationAfter, not_limited lt, Bool.false_eq_true, if_false, unfit]
            rfl
          exact absurd ⟨h, by rw [halted], fault⟩ kept
    · have halted : allocateRow cInt c slots (row c k) (allocationAfter c k) =
          .error .outOfBounds := by
        rw [allocateRow, if_pos fun h => fits h.1]
      exact absurd ⟨.outOfBounds, by rw [halted], trivial⟩ kept

/-- Where the terminals are created, given the range and the rows. With a spread that is not
positive only the limit ends the loops, which then do not get past the first column. -/
inductive Reaches (c : DriverSettings) : Prop
  | forward (pos : 1 ≤ c.spread)
      (stays : row c (quota c (steps c.wIdMin c.wIdMax c.spread)) < 2 ^ 31)
      (counted : quota c (steps c.wIdMin c.wIdMax c.spread * c.terminalsPerWarehouse.toNat) + 1 <
        2 ^ 31)
  | backward (neg : c.spread ≤ 0) (limited : c.terminalsLimit ≠ 0)
      (stays : 0 ≤ row c c.terminalsLimit.toNat) (counted : c.terminalsLimit.toNat + 1 < 2 ^ 31)
      (reports : c.spread = 0 → c.terminalsPerWarehouse ≤ 0 ∨ c.terminalsLimit < 100)

/-- Either the bound is negative, so that nothing is allocated; or the warehouses are indexes, and
nothing is allocated for them or all terminals are reached. -/
def Bounded (c : DriverSettings) : Prop :=
  c.wIdMax + 1 < 2 ^ 31 ∧ (c.wIdMax + 1 < 0 ∨
    0 ≤ c.wIdMin ∧ (c.terminalsPerWarehouse < 0 ∨ Reaches c))

theorem row_zero : row c 0 = c.wIdMin := by simp [row]

theorem row_mono (pos : 0 ≤ c.spread) {k n : Nat} (le : k ≤ n) : row c k ≤ row c n := by
  have := Int.mul_le_mul_of_nonneg_right (Int.ofNat_le.mpr le) pos
  simp only [row]
  omega

theorem row_anti (neg : c.spread ≤ 0) {k n : Nat} (le : k ≤ n) : row c n ≤ row c k := by
  have := Int.mul_le_mul_of_nonpos_right (Int.ofNat_le.mpr le) neg
  simp only [row]
  omega

theorem quota_limit (limited : c.terminalsLimit ≠ 0) :
    quota c (c.terminalsLimit.toNat + 1) = c.terminalsLimit.toNat := by
  rw [quota, if_neg limited]
  omega

theorem bound_ok (accepted : Accepted c) (fits : c.wIdMax + 1 < 2 ^ 31) :
    cInt (c.wIdMax + 1) = .ok (c.wIdMax + 1) :=
  cInt_ok (by have := accepted.first; have := accepted.le; omega) fits

theorem ends_forward (accepted : Accepted c) (fits : c.wIdMax + 1 < 2 ^ 31) (low : 0 ≤ c.wIdMin)
    (some : 0 ≤ c.terminalsPerWarehouse) (pos : 1 ≤ c.spread)
    (stays : row c (quota c (steps c.wIdMin c.wIdMax c.spread)) < 2 ^ 31)
    (counted : quota c (steps c.wIdMin c.wIdMax c.spread * c.terminalsPerWarehouse.toNat) + 1 <
      2 ^ 31) :
    Ends (startDriver cInt c) (.ok (threads c (steps c.wIdMin c.wIdMax c.spread))) := by
  have le := accepted.le
  have nonzero := accepted.nonzero
  have spans := spans_steps low le pos
  have few := steps_le le pos
  have within := quota_le (c := c) (steps c.wIdMin c.wIdMax c.spread)
  apply ends_startDriver spans (bound_ok accepted fits) (by omega) some accepted.columns
  · intro k lt
    rw [row_succ]
    have below : row c (k + 1) ≤ row c (quota c (steps c.wIdMin c.wIdMax c.spread)) :=
      row_mono (by omega) lt
    have above : row c 0 ≤ row c (k + 1) := row_mono (by omega) (Nat.zero_le _)
    have first := row_zero (c := c)
    exact cInt_ok (by omega) (by omega)
  · exact fun k lt => cInt_ok (by omega) (by omega)
  · exact fun m lt => cInt_ok (by omega) (by omega)
  · exact fun _ _ h => absurd h.2 (by omega)

theorem kept_backward (accepted : Accepted c) (fits : c.wIdMax + 1 < 2 ^ 31)
    (size : 0 ≤ c.wIdMax + 1) (low : 0 ≤ c.wIdMin)
    (some : 0 ≤ c.terminalsPerWarehouse) (neg : c.spread ≤ 0) (limited : c.terminalsLimit ≠ 0)
    (stays : 0 ≤ row c c.terminalsLimit.toNat) (counted : c.terminalsLimit.toNat + 1 < 2 ^ 31)
    (reports : c.spread = 0 → c.terminalsPerWarehouse ≤ 0 ∨ c.terminalsLimit < 100) :
    Kept (startDriver cInt c) := by
  have le := accepted.le
  have first := row_zero (c := c)
  have spans : Spans c (c.wIdMax + 1) (c.terminalsLimit.toNat + 1) := by
    refine ⟨Nat.succ_pos _, fun k lt => ?_, .inr ⟨limited, Nat.lt_succ_self _⟩⟩
    have := row_anti neg (Nat.le_of_lt_succ lt)
    have := row_anti neg (Nat.zero_le k)
    omega
  have all := quota_limit limited
  have terminals (n : Nat) : quota c n ≤ c.terminalsLimit.toNat := by
    rw [quota, if_neg limited]
    omega
  apply (ends_startDriver spans (bound_ok accepted fits) size some accepted.columns _ _ _
    _).kept not_fails_ok
  · intro k lt
    rw [row_succ]
    rw [all] at lt
    have above : row c c.terminalsLimit.toNat ≤ row c (k + 1) := row_anti neg lt
    have below : row c (k + 1) ≤ row c 0 := row_anti neg (Nat.zero_le _)
    exact cInt_ok (by omega) (by omega)
  · exact fun k lt => cInt_ok (by omega) (by omega)
  · intro m lt
    have := lt.trans_le (terminals _)
    exact cInt_ok (by omega) (by omega)
  · rintro m lt ⟨hundredth, zero⟩
    obtain none | few := reports zero
    · rw [show c.terminalsPerWarehouse.toNat = 0 by omega, Nat.mul_zero] at lt
      have := quota_le (c := c) 0
      omega
    · have := lt.trans_le (terminals _)
      rw [Int.tmod_eq_emod_of_nonneg (by omega)] at hundredth
      omega

/-! ### Settings that are not kept -/

theorem createThread_overflow {slots : Int} {S m : Nat} {rows : List Int}
    (there : allocated c slots rows (row c (m % S)) (m / S : Nat) = true) (nonzero : c.spread ≠ 0)
    (high : 2 ^ 31 ≤ 1 + (m : Int) + 1) :
    createThread cInt c slots rows (row c (m % S)) (m / S : Nat) (progressAfter c S m) =
      .error .overflow := by
  rw [createThread, if_neg (not_not.mpr there), if_neg fun h => nonzero h.2]
  simp only [progressAfter, cInt_overflow high]
  rfl

theorem createThread_division {slots : Int} {S m : Nat} {rows : List Int}
    (there : allocated c slots rows (row c (m % S)) (m / S : Nat) = true) (zero : c.spread = 0)
    (hundredth : (1 + m : Int).tmod 100 = 0) :
    createThread cInt c slots rows (row c (m % S)) (m / S : Nat) (progressAfter c S m) =
      .error .divisionByZero := by
  rw [createThread, if_neg (not_not.mpr there)]
  exact if_pos ⟨hundredth, zero⟩

/-- A start-up that is kept has rows that do not fail. -/
theorem allocation_kept (accepted : Accepted c) (fits : c.wIdMax + 1 < 2 ^ 31)
    (size : 0 ≤ c.wIdMax + 1) (kept : Kept (startDriver cInt c)) :
    ∃ fuel, ¬ Fails (forLoop cInt (c.wIdMax + 1) c.spread (allocateRow cInt c (c.wIdMax + 1)) fuel
      c.wIdMin { count := 1, rows := [] }) := by
  obtain ⟨r, ⟨n, enough⟩, fine⟩ := kept
  refine ⟨n, fun fails => fine ?_⟩
  have ran := enough n le_rfl
  unfold startDriver at ran
  rw [bound_ok accepted fits] at ran
  change (if c.wIdMax + 1 < 0 then _ else _) = r at ran
  rw [if_neg (not_lt.mpr size)] at ran
  rw [← ran]
  exact fails.bind _

theorem nonneg_of_kept (accepted : Accepted c) (fits : c.wIdMax + 1 < 2 ^ 31)
    (size : 0 ≤ c.wIdMax + 1) (kept : Kept (startDriver cInt c)) : 0 ≤ c.wIdMin := by
  obtain ⟨fuel, fine⟩ := allocation_kept accepted fits size kept
  by_contra neg
  apply fine
  have le := accepted.le
  cases fuel with
  | zero => exact ⟨.running, rfl, trivial⟩
  | succ fuel =>
    rw [forLoop, if_pos (by omega), allocateRow, if_pos fun h => neg h.1]
    exact ⟨.outOfBounds, rfl, trivial⟩

theorem reaches_forward (accepted : Accepted c) (fits : c.wIdMax + 1 < 2 ^ 31)
    (size : 0 ≤ c.wIdMax + 1) (low : 0 ≤ c.wIdMin) (some : 0 ≤ c.terminalsPerWarehouse)
    (pos : 1 ≤ c.spread) (kept : Kept (startDriver cInt c)) : Reaches c := by
  have le := accepted.le
  have nonzero := accepted.nonzero
  have first := row_zero (c := c)
  have spans := spans_steps low le pos
  obtain ⟨fuel, fine⟩ := allocation_kept accepted fits size kept
  rw [← first] at fine
  obtain ⟨rows, -⟩ := rowsFit_of_kept some (fun k lt => (spans.fits k lt).2) fuel
    (Nat.zero_le _) fine
  have stays : row c (quota c (steps c.wIdMin c.wIdMax c.spread)) < 2 ^ 31 := by
    obtain zero | some := Nat.eq_zero_or_pos (quota c (steps c.wIdMin c.wIdMax c.spread))
    · rw [zero]
      omega
    · obtain ⟨n, last⟩ := Nat.exists_eq_add_one_of_ne_zero some.ne'
      rw [last]
      exact (rows n (Nat.zero_le n) (by omega)).2
  refine .forward pos stays ?_
  -- The creation that overflows the count would end the driver.
  by_contra many
  have bounded (k : Nat) (lt : k < quota c (steps c.wIdMin c.wIdMax c.spread)) :
      row c (k + 1) < 2 ^ 31 := (rows k (Nat.zero_le k) lt).2
  have nonneg (k : Nat) : 0 ≤ row c k := by
    have above : row c 0 ≤ row c k := row_mono (by omega) (Nat.zero_le k)
    omega
  have last : 2 ^ 31 - 2 <
    quota c (steps c.wIdMin c.wIdMax c.spread * c.terminalsPerWarehouse.toNat) := by omega
  have halted := halts_startDriver spans (bound_ok accepted fits) size some accepted.columns
    (fun k lt => by
      rw [row_succ]
      exact cInt_ok (by have := nonneg (k + 1); omega) (bounded k lt))
    (fun k lt => cInt_ok (by omega) (rows k (Nat.zero_le k) lt).1.2) last
    (fun m lt => cInt_ok (by omega) (by omega)) (fun _ _ h => absurd h.2 (by omega))
    (createThread_overflow (allocated_position spans last) (by omega) (by decide))
  exact halted.not_kept ⟨.overflow, rfl, trivial⟩ kept

/-- Without a limit a round goes on, or fails. -/
theorem allocateRow_unlimited (some : 0 ≤ c.terminalsPerWarehouse)
    (unlimited : c.terminalsLimit = 0) (slots i : Int) (s : Allocation) :
    (∃ t, allocateRow cInt c slots i s = .ok (.next t)) ∨ Fails (allocateRow cInt c slots i s) := by
  have open' : c.limited s.count = false := by simp [DriverSettings.limited, unlimited]
  unfold allocateRow
  split
  · exact .inr ⟨.outOfBounds, rfl, trivial⟩
  · rw [if_neg (by omega), open']
    obtain counts | ⟨h, unfit, fault⟩ := cInt_value (s.count + 1)
    · exact .inl ⟨{ count := s.count + 1, rows := s.rows ++ [i] }, by rw [counts]; rfl⟩
    · exact .inr ⟨h, by rw [unfit]; rfl, fault⟩

theorem reaches_backward (accepted : Accepted c) (fits : c.wIdMax + 1 < 2 ^ 31)
    (size : 0 ≤ c.wIdMax + 1) (some : 0 ≤ c.terminalsPerWarehouse)
    (neg : c.spread ≤ 0) (kept : Kept (startDriver cInt c)) : Reaches c := by
  have le := accepted.le
  have first := row_zero (c := c)
  obtain ⟨fuel, fine⟩ := allocation_kept accepted fits size kept
  -- Without a limit nothing ends the allocation loop.
  have limited : c.terminalsLimit ≠ 0 := by
    intro unlimited
    apply fine
    exact forLoop_fails cInt_value neg (fun i s _ => allocateRow_unlimited some unlimited _ i s) fuel
      (by omega) _
  have inside (k : Nat) : row c k < c.wIdMax + 1 := by
    have below : row c k ≤ row c 0 := row_anti neg (Nat.zero_le k)
    omega
  have all := quota_limit limited
  rw [← first] at fine
  obtain ⟨rows, stays⟩ := rowsFit_of_kept (S := c.terminalsLimit.toNat + 1) some
    (fun k _ => inside k) fuel (Nat.zero_le _) fine
  rw [all] at rows stays
  have last : 0 ≤ row c c.terminalsLimit.toNat := stays (Nat.lt_succ_self _)
  have counted : c.terminalsLimit.toNat + 1 < 2 ^ 31 := by
    by_contra many
    have := (rows (c.terminalsLimit.toNat - 1) (Nat.zero_le _) (by omega)).1.2
    omega
  refine .backward neg limited last counted fun zero => ?_
  -- The hundredth thread that is created reports progress, and divides by zero.
  by_contra both
  obtain ⟨terminals, hundred⟩ := not_or.mp both
  have nonneg (k : Nat) (le : k ≤ c.terminalsLimit.toNat) : 0 ≤ row c k :=
    last.trans (row_anti neg le)
  have spans : Spans c (c.wIdMax + 1) (c.terminalsLimit.toNat + 1) :=
    ⟨Nat.succ_pos _, fun k lt => ⟨nonneg k (Nat.le_of_lt_succ lt), inside k⟩,
      .inr ⟨limited, Nat.lt_succ_self _⟩⟩
  have columns : 1 ≤ c.terminalsPerWarehouse.toNat := by omega
  have lt : 99 < quota c ((c.terminalsLimit.toNat + 1) * c.terminalsPerWarehouse.toNat) := by
    rw [quota, if_neg limited]
    have := Nat.mul_le_mul_left (c.terminalsLimit.toNat + 1) columns
    omega
  have halted := halts_startDriver spans (bound_ok accepted fits) size some accepted.columns
    (fun k lt => by
      rw [all] at lt
      rw [row_succ]
      have := nonneg (k + 1) lt
      have := inside (k + 1)
      exact cInt_ok (by omega) (by omega))
    (fun k lt => cInt_ok (by omega) (by omega)) lt (fun m lt => cInt_ok (by omega) (by omega))
    (fun m lt h => by
      have := h.1
      rw [Int.tmod_eq_emod_of_nonneg (by omega)] at this
      omega)
    (createThread_division (allocated_position spans lt) zero (by decide))
  exact halted.not_kept ⟨.divisionByZero, rfl, trivial⟩ kept

/-- A row of negative size makes the driver return. -/
theorem kept_returned (accepted : Accepted c) (fits : c.wIdMax + 1 < 2 ^ 31)
    (size : 0 ≤ c.wIdMax + 1) (low : 0 ≤ c.wIdMin) (neg : c.terminalsPerWarehouse < 0) :
    Kept (startDriver cInt c) := by
  have le := accepted.le
  have first : allocateRow cInt c (c.wIdMax + 1) c.wIdMin { count := 1, rows := [] } =
      .error (.returned ERROR) := by
    rw [allocateRow, if_neg (by omega), if_pos neg]
  have halted : Loop cInt (c.wIdMax + 1) c.spread (fun _ => allocateRow cInt c (c.wIdMax + 1))
      c.wIdMin { count := 1, rows := [] } (.error (.returned ERROR)) :=
    .halt (by omega) (by rw [first]; exact .const _)
  have ended : Ends (startDriver cInt c) (.error (.returned ERROR)) := by
    unfold startDriver
    rw [bound_ok accepted fits]
    change Ends (fun fuel => if c.wIdMax + 1 < 0 then _ else _) _
    simp only [if_neg (not_lt.mpr size)]
    exact halted.ends.bind_halt
  exact ended.kept not_fails_returned

theorem kept_iff (accepted : Accepted c) : Kept (startDriver cInt c) ↔ Bounded c := by
  by_cases fits : c.wIdMax + 1 < 2 ^ 31
  · by_cases size : 0 ≤ c.wIdMax + 1
    · constructor
      · intro kept
        have low := nonneg_of_kept accepted fits size kept
        refine ⟨fits, .inr ⟨low, ?_⟩⟩
        by_cases some : 0 ≤ c.terminalsPerWarehouse
        · by_cases pos : 1 ≤ c.spread
          · exact .inr (reaches_forward accepted fits size low some pos kept)
          · exact .inr (reaches_backward accepted fits size some (by omega) kept)
        · exact .inl (by omega)
      · rintro ⟨-, neg | ⟨low, none | reaches⟩⟩
        · omega
        · exact kept_returned accepted fits size low none
        · by_cases some : 0 ≤ c.terminalsPerWarehouse
          · cases reaches with
            | forward pos stays counted =>
              exact (ends_forward accepted fits low some pos stays counted).kept not_fails_ok
            | backward neg limited stays counted reports =>
              exact kept_backward accepted fits size low some neg limited stays counted reports
          · exact kept_returned accepted fits size low (by omega)
    · have returned : Ends (startDriver cInt c) (.error (.returned ERROR)) := by
        unfold startDriver
        rw [bound_ok accepted fits]
        change Ends (fun fuel => if c.wIdMax + 1 < 0 then _ else _) _
        simp only [if_pos (not_le.mp size)]
        exact .const _
      exact iff_of_true (returned.kept not_fails_returned) ⟨fits, .inl (by omega)⟩
  · have halted : Ends (startDriver cInt c) (.error .overflow) := by
      unfold startDriver
      rw [cInt_overflow (by omega)]
      exact .const _
    exact iff_of_false (halted.not_kept ⟨.overflow, rfl, trivial⟩) fun h => fits h.1

end Driver1

/-! ## driver2.c and driver3.c -/

namespace Forks

variable {c : DriverSettings} {p : Part} {nprocs : Int}

/-- The steps from `lo` to before `hi` and the terminals on them do not overflow. -/
structure Walk (c : DriverSettings) (lo hi : Int) : Prop where
  bound : hi < 2 ^ 31
  stays : lo + steps lo (hi - 1) c.spread * c.spread < 2 ^ 31
  counted : steps lo (hi - 1) c.spread * c.terminalsPerWarehouse.toNat < 2 ^ 31

theorem increment_eq (c : DriverSettings) (p : Part) (k : Nat) :
    p.mymin + k * c.spread + c.spread = p.mymin + (k + 1 : Nat) * c.spread := by
  push_cast
  ring

/-- A process whose steps fit. -/
theorem ends_of_walk (ints : IntSettings c) (le : p.mymin ≤ p.mymax) (low : -2 ^ 31 ≤ p.mymin)
    (some : 0 < c.terminalsPerWarehouse) (pos : 1 ≤ c.spread)
    (walk : Walk c p.mymin (p.mymax + 1)) :
    Ends (createTerminals cInt c p)
      (.ok (terminalsAfter c p (steps p.mymin p.mymax c.spread) (size c p))) := by
  obtain ⟨bound, stays, counted⟩ := walk
  rw [add_sub_cancel_right] at stays counted
  apply ends_createTerminals le pos some.le (cInt_ok (by omega) bound) ints.columns
  · intro k lt
    rw [increment_eq]
    have up : ((k + 1 : Nat) : Int) * c.spread ≤ steps p.mymin p.mymax c.spread * c.spread :=
      Int.mul_le_mul_of_nonneg_right (by omega) (by omega)
    have nonneg : 0 ≤ ((k + 1 : Nat) : Int) * c.spread :=
      Int.mul_nonneg (Int.natCast_nonneg _) (by omega)
    exact cInt_ok (by omega) (by omega)
  · intro m lt
    have : m < 2 ^ 31 - 1 := by unfold size at lt; omega
    exact cInt_ok (by omega) (by omega)

theorem ends_of_none (none : c.terminalsPerWarehouse ≤ 0) :
    Ends (createTerminals cInt c p) (.ok { k := 0, rte := [] }) :=
  (Loop.exit (by omega)).ends

theorem kept_of_none (none : c.terminalsPerWarehouse ≤ 0) : Kept (createTerminals cInt c p) :=
  (ends_of_none none).kept not_fails_ok

theorem createTerminal_value (i j : Int) (s : Terminals) :
    (∃ t, createTerminal cInt c p i j s = .ok t) ∨ Fails (createTerminal cInt c p i j s) := by
  unfold createTerminal
  split
  · exact .inr ⟨.outOfBounds, rfl, trivial⟩
  · obtain counts | ⟨h, unfit, fault⟩ := cInt_value (s.k + 1)
    · exact .inl ⟨{ k := s.k + 1, rte := s.rte ++ [(i, j + 1)] }, by rw [counts]; rfl⟩
    · exact .inr ⟨h, by rw [unfit]; rfl, fault⟩

/-- Without a positive spread no column ends. -/
theorem not_kept_of_spread (le : p.mymin ≤ p.mymax) (some : 0 < c.terminalsPerWarehouse)
    (neg : c.spread ≤ 0) : ¬ Kept (createTerminals cInt c p) := by
  apply not_kept_of_fails
  intro fuel
  cases fuel with
  | zero => exact ⟨.running, rfl, trivial⟩
  | succ fuel =>
    unfold createTerminals sweep
    apply forLoop_fails_round fuel some
    obtain bound | fails := cInt_value (p.mymax + 1)
    · have column (s : Terminals) : Fails (sweepColumn cInt p.mymin c.spread (p.mymax + 1)
          (fun _ => false) (createTerminal cInt c p) 0 (fuel + 1) s) := by
        apply forLoop_fails cInt_value neg _ (fuel + 1) (by omega)
        intro i s _
        obtain ⟨t, created⟩ | fails := createTerminal_value (c := c) (p := p) i 0 s
        · exact .inl ⟨t, by rw [created]; rfl⟩
        · exact .inr (fails.bind _)
      rw [bound]
      exact (column _).bind _
    · exact fails.bind _

/-- A creation that halts, or cannot go on, ends the process. -/
theorem halts_createTerminals {int : Int → Except (Halt Int) Int} {h : Nat} {halt : Halt Int}
    (le : p.mymin ≤ p.mymax) (pos : 1 ≤ c.spread) (some : 0 < c.terminalsPerWarehouse)
    (bound : int (p.mymax + 1) = .ok (p.mymax + 1))
    (columns : ∀ j : Nat, j < c.terminalsPerWarehouse → int (j + 1) = .ok (j + 1))
    (lt : h < size c p)
    (increments : ∀ m < h, int (p.mymin + (m % steps p.mymin p.mymax c.spread : Nat) * c.spread +
      c.spread) = .ok (p.mymin + (m % steps p.mymin p.mymax c.spread + 1 : Nat) * c.spread))
    (counts : ∀ m < h, int ((m : Int) + 1) = .ok (m + 1))
    (halts : createTerminal int c p
        (p.mymin + (h % steps p.mymin p.mymax c.spread : Nat) * c.spread)
        (h / steps p.mymin p.mymax c.spread : Nat)
        (terminalsAfter c p (steps p.mymin p.mymax c.spread) h) = .error halt ∨
      ∃ t, createTerminal int c p
          (p.mymin + (h % steps p.mymin p.mymax c.spread : Nat) * c.spread)
          (h / steps p.mymin p.mymax c.spread : Nat)
          (terminalsAfter c p (steps p.mymin p.mymax c.spread) h) = .ok t ∧
        int (p.mymin + (h % steps p.mymin p.mymax c.spread : Nat) * c.spread + c.spread) =
          .error halt) :
    Ends (createTerminals int c p) (.error halt) := by
  have start : ({ k := 0, rte := [] } : Terminals) =
    terminalsAfter c p (steps p.mymin p.mymax c.spread) 0 := rfl
  have space := size_le_room le pos some.le
  unfold createTerminals
  rw [bound, start]
  apply ends_sweep_halt lt columns (fun k lt => steps_fits le pos lt)
    (fun _ => steps_passed le pos) _ rfl halts
  intro m earlier
  exact ⟨rfl, createTerminal_ok (by omega) (counts m earlier), increments m earlier⟩

theorem walk_of_kept (ints : IntSettings c) (le : p.mymin ≤ p.mymax) (low : -2 ^ 31 ≤ p.mymin)
    (wide : p.mymax - p.mymin + 1 < 2 ^ 31) (some : 0 < c.terminalsPerWarehouse)
    (pos : 1 ≤ c.spread) (kept : Kept (createTerminals cInt c p)) :
    Walk c p.mymin (p.mymax + 1) := by
  have columns := ints.columns
  have space := size_le_room le pos some.le
  have rows := steps_pos le pos
  have few := steps_le le pos
  have wider : steps p.mymin p.mymax c.spread ≤ size c p :=
    Nat.le_mul_of_pos_right _ (by omega)
  have bound : p.mymax + 1 < 2 ^ 31 := by
    by_contra unfit
    have halted : Ends (createTerminals cInt c p) (.error .overflow) := by
      apply (Loop.halt some _).ends
      rw [cInt_overflow (by omega)]
      exact .const _
    exact halted.not_kept ⟨.overflow, rfl, trivial⟩ kept
  have bounded : cInt (p.mymax + 1) = .ok (p.mymax + 1) := cInt_ok (by omega) bound
  -- All steps of a column stay in the range, but for the last.
  have early (k : Nat) (lt : k + 1 < steps p.mymin p.mymax c.spread) :
      cInt (p.mymin + k * c.spread + c.spread) = .ok (p.mymin + (k + 1 : Nat) * c.spread) := by
    have inside := steps_fits le pos lt
    have nonneg : 0 ≤ ((k + 1 : Nat) : Int) * c.spread :=
      Int.mul_nonneg (Int.natCast_nonneg _) (by omega)
    rw [increment_eq]
    exact cInt_ok (by omega) (by omega)
  have stays : p.mymin + steps p.mymin p.mymax c.spread * c.spread < 2 ^ 31 := by
    by_contra far
    obtain ⟨last, eq⟩ := Nat.exists_eq_add_one_of_ne_zero rows.ne'
    have row : last % steps p.mymin p.mymax c.spread = last := Nat.mod_eq_of_lt (by omega)
    have unfit : cInt (p.mymin + (last % steps p.mymin p.mymax c.spread : Nat) * c.spread +
        c.spread) = .error .overflow := by
      rw [row, increment_eq, ← eq]
      exact cInt_overflow (by omega)
    apply (halts_createTerminals le pos some bounded columns (h := last) (by omega)
      (fun m lt => ?_) (fun m lt => cInt_ok (by omega) (by omega))
      (.inr ⟨_, createTerminal_ok (by omega) (cInt_ok (by omega) (by omega)), unfit⟩)).not_kept
      ⟨.overflow, rfl, trivial⟩ kept
    rw [Nat.mod_eq_of_lt (by omega)]
    exact early m (by omega)
  have counted : size c p < 2 ^ 31 := by
    by_contra many
    have all (k : Nat) (lt : k < steps p.mymin p.mymax c.spread) :
        cInt (p.mymin + k * c.spread + c.spread) = .ok (p.mymin + (k + 1 : Nat) * c.spread) := by
      obtain lt | last := Nat.lt_or_eq_of_le lt
      · exact early k lt
      · rw [increment_eq, show k + 1 = steps p.mymin p.mymax c.spread from last]
        have : 0 ≤ (steps p.mymin p.mymax c.spread : Int) * c.spread :=
          Int.mul_nonneg (Int.natCast_nonneg _) (by omega)
        exact cInt_ok (by omega) stays
    have unfit : createTerminal cInt c p
        (p.mymin + ((2 ^ 31 - 1) % steps p.mymin p.mymax c.spread : Nat) * c.spread)
        ((2 ^ 31 - 1) / steps p.mymin p.mymax c.spread : Nat)
        (terminalsAfter c p (steps p.mymin p.mymax c.spread) (2 ^ 31 - 1)) = .error .overflow := by
      rw [createTerminal, if_neg (not_not.mpr ⟨Int.natCast_nonneg _, by
        change ((2 ^ 31 - 1 : Nat) : Int) < _; omega⟩)]
      simp only [terminalsAfter]
      rw [cInt_overflow (by decide)]
      rfl
    apply (halts_createTerminals le pos some bounded columns (h := 2 ^ 31 - 1) (by omega)
      (fun m _ => all _ (Nat.mod_lt m rows)) (fun m lt => cInt_ok (by omega) (by omega))
      (.inl unfit)).not_kept ⟨.overflow, rfl, trivial⟩ kept
  refine ⟨bound, ?_, ?_⟩
  · rwa [add_sub_cancel_right]
  · rwa [add_sub_cancel_right]

theorem kept_iff (ints : IntSettings c) (le : p.mymin ≤ p.mymax) (low : -2 ^ 31 ≤ p.mymin)
    (wide : p.mymax - p.mymin + 1 < 2 ^ 31) :
    Kept (createTerminals cInt c p) ↔
      (0 < c.terminalsPerWarehouse → 1 ≤ c.spread ∧ Walk c p.mymin (p.mymax + 1)) := by
  by_cases some : 0 < c.terminalsPerWarehouse
  · rw [forall_prop_of_true some]
    constructor
    · intro kept
      have pos : 1 ≤ c.spread := by
        by_contra neg
        exact not_kept_of_spread le some (by omega) kept
      exact ⟨pos, walk_of_kept ints le low wide some pos kept⟩
    · exact fun ⟨pos, walk⟩ => (ends_of_walk ints le low some pos walk).kept not_fails_ok
  · exact iff_of_true (kept_of_none (by omega)) fun h => absurd h some

/-- `m` processes, after a reduction. Their parts start at the boundaries, of which only the first
is a number of the settings; where the product is negative there are none. -/
structure Bounded (c : DriverSettings) (nprocs m : Int) : Prop where
  range : number c < 2 ^ 31
  product : -2 ^ 31 ≤ nprocs * c.forkPerProcessor ∧ nprocs * c.forkPerProcessor < 2 ^ 31
  forked : c.forkPerProcessor ≠ 0
  terminals : 0 < c.terminalsPerWarehouse → 1 ≤ c.spread ∧ ∀ l : Nat, l < m →
    Walk c (boundary c (number c) (forks c nprocs) m l)
      (boundary c (number c) (forks c nprocs) m (l + 1))

theorem processes_eq (reduce : Int → Int) (ints : IntSettings c) (some : nprocs ≠ 0)
    (range : number c < 2 ^ 31)
    (product : -2 ^ 31 ≤ nprocs * c.forkPerProcessor ∧ nprocs * c.forkPerProcessor < 2 ^ 31)
    (forked : c.forkPerProcessor ≠ 0) : processes cInt c reduce nprocs =
      .ok (parts c (number c / forks c nprocs) (reduce (forks c nprocs))) := by
  have le := ints.le
  have difference : cInt (c.wIdMax - c.wIdMin) = .ok (c.wIdMax - c.wIdMin) :=
    cInt_ok (by omega) (by unfold number at range; omega)
  have whole : cInt (c.wIdMax - c.wIdMin + 1) = .ok (number c) := cInt_ok (by omega) range
  have processed : cInt (nprocs * c.forkPerProcessor) = .ok (nprocs * c.forkPerProcessor) :=
    cInt_ok product.1 product.2
  have computed : (if number c < nprocs * c.forkPerProcessor then number c
      else nprocs * c.forkPerProcessor) = forks c nprocs := by
    unfold forks
    split <;> omega
  have nonzero : ¬(forks c nprocs = 0 ∨ nprocs = 0) := by
    rintro (zero | none)
    · have : nprocs * c.forkPerProcessor ≠ 0 := mul_ne_zero some forked
      unfold forks number at zero
      omega
    · exact some none
  simp only [processes, numberOfWarehouses, maxFork, difference, processed]
  change (cInt (c.wIdMax - c.wIdMin + 1) >>= _) = _
  rw [whole]
  change (if (if number c < nprocs * c.forkPerProcessor then number c
    else nprocs * c.forkPerProcessor) = 0 ∨ nprocs = 0 then _ else _) = _
  rw [computed, if_neg nonzero]

theorem bounded_of_processes {reduce : Int → Int} {ps : List Part} (ints : IntSettings c)
    (computed : processes cInt c reduce nprocs = .ok ps) :
    number c < 2 ^ 31 ∧
      (-2 ^ 31 ≤ nprocs * c.forkPerProcessor ∧ nprocs * c.forkPerProcessor < 2 ^ 31) ∧
      c.forkPerProcessor ≠ 0 := by
  obtain ⟨whole, counted, rest⟩ := bind_eq_ok.mp computed
  obtain ⟨difference, subtracted, total⟩ := bind_eq_ok.mp counted
  obtain ⟨rfl, -⟩ := cInt_eq_ok subtracted
  obtain ⟨rfl, -, range⟩ := cInt_eq_ok total
  obtain ⟨chosen, product, rest⟩ := bind_eq_ok.mp rest
  obtain ⟨processes, multiplied, minimum⟩ := bind_eq_ok.mp product
  obtain ⟨rfl, fits⟩ := cInt_eq_ok multiplied
  refine ⟨range, fits, fun none => ?_⟩
  have le := ints.le
  have zero : chosen = 0 := by
    rw [← Except.ok.inj minimum, none, mul_zero, if_neg (by omega)]
  rw [if_pos (.inl zero)] at rest
  cases rest

theorem walk_initial (ints : IntSettings c) (pos : 1 ≤ c.spread) : Walk c 0 (0 + 1) := by
  have one : steps 0 (0 + 1 - 1) c.spread = 1 := by simp [steps]
  have := ints.spread
  have := ints.terminals
  refine ⟨by decide, ?_, ?_⟩
  · rw [one]
    omega
  · rw [one]
    omega

/-- One process of several. -/
theorem part_kept_iff {n m : Int} (ints : IntSettings c) (range : number c < 2 ^ 31)
    (le : n ≤ number c) (some : 0 < m) (fewer : m ≤ n) {l : Nat} (lt : l < m) :
    Kept (createTerminals cInt c (part c (number c / n) m l)) ↔
      (0 < c.terminalsPerWarehouse → 1 ≤ c.spread ∧
        Walk c (boundary c (number c) n m l) (boundary c (number c) n m (l + 1))) := by
  have whole : number c = c.wIdMax - c.wIdMin + 1 := rfl
  have partition := parts_partition whole le some fewer
  have first := ints.first
  obtain ⟨p, eq⟩ : ∃ p, p = part c (number c / n) m l := ⟨_, rfl⟩
  have mem : p ∈ parts c (number c / n) m := by
    rw [parts, if_neg (by omega), eq]
    exact List.mem_map.mpr ⟨l, List.mem_range.mpr (by omega), rfl⟩
  have nonempty := partition.nonempty p mem
  have low := (partition.covers p.mymin).mp ⟨p, mem, le_rfl, nonempty⟩
  have high := (partition.covers p.mymax).mp ⟨p, mem, nonempty, le_rfl⟩
  have bounds := part_eq whole le some fewer lt
  rw [← eq] at bounds ⊢
  rw [kept_iff ints nonempty (first.trans low.1) (by have := low.1; have := high.2; omega),
    bounds, sub_add_cancel]

/-- The start-up of all processes. -/
theorem processes_kept_iff {reduce : Int → Int} (ints : IntSettings c) (some : nprocs ≠ 0)
    (reduced : ∀ forks, 1 ≤ forks → 1 ≤ reduce forks ∧ reduce forks ≤ forks)
    (unreduced : ∀ forks, forks ≤ 0 → reduce forks ≤ 0) :
    (∃ ps, processes cInt c reduce nprocs = .ok ps ∧
      ∀ p ∈ ps, Kept (createTerminals cInt c p)) ↔
    Bounded c nprocs (reduce (forks c nprocs)) := by
  have le := ints.le
  by_cases fits : number c < 2 ^ 31 ∧
      (-2 ^ 31 ≤ nprocs * c.forkPerProcessor ∧ nprocs * c.forkPerProcessor < 2 ^ 31) ∧
      c.forkPerProcessor ≠ 0
  · obtain ⟨range, product, forked⟩ := fits
    have computed := processes_eq reduce ints some range product forked
    have all : (∃ ps, processes cInt c reduce nprocs = .ok ps ∧
        ∀ p ∈ ps, Kept (createTerminals cInt c p)) ↔
        ∀ p ∈ parts c (number c / forks c nprocs) (reduce (forks c nprocs)),
          Kept (createTerminals cInt c p) := by
      rw [computed]
      constructor
      · rintro ⟨ps, same, kept⟩
        exact Except.ok.inj same ▸ kept
      · exact fun kept => ⟨_, rfl, kept⟩
    rw [all]
    by_cases many : 1 ≤ forks c nprocs
    · obtain ⟨positive, fewer⟩ := reduced _ many
      have positive : ¬ reduce (forks c nprocs) ≤ 0 := by omega
      have each (l : Nat) (lt : l < reduce (forks c nprocs)) :=
        part_kept_iff ints range (min_le_right _ _) (by omega) fewer lt
      rw [parts, if_neg positive]
      constructor
      · intro kept
        have all (l : Nat) (lt : l < reduce (forks c nprocs)) :=
          (each l lt).mp (kept _ (List.mem_map.mpr ⟨l, List.mem_range.mpr (by omega), rfl⟩))
        refine ⟨range, product, forked, fun terminals => ⟨?_, fun l lt => (all l lt terminals).2⟩⟩
        exact (all 0 (by omega) terminals).1
      · intro bounded p mem
        obtain ⟨l, inside, rfl⟩ := List.mem_map.mp mem
        have lt : (l : Int) < reduce (forks c nprocs) := Int.lt_toNat.mp (List.mem_range.mp inside)
        refine (each l lt).mpr fun terminals => ?_
        obtain ⟨pos, walks⟩ := bounded.terminals terminals
        exact ⟨pos, walks l lt⟩
    · have none := unreduced _ (by omega : forks c nprocs ≤ 0)
      have single : parts c (number c / forks c nprocs) (reduce (forks c nprocs)) =
          [{ mymin := 0, mymax := 0 }] := if_pos none
      rw [single]
      simp only [List.mem_singleton, forall_eq]
      rw [kept_iff ints le_rfl (by decide) (by decide)]
      constructor
      · exact fun kept => ⟨range, product, forked, fun terminals =>
          ⟨(kept terminals).1, fun l lt => absurd lt (by omega)⟩⟩
      · intro bounded terminals
        have pos := (bounded.terminals terminals).1
        exact ⟨pos, walk_initial ints pos⟩
  · refine iff_of_false ?_ fun h => fits ⟨h.range, h.product, h.forked⟩
    rintro ⟨ps, computed, -⟩
    exact fits (bounded_of_processes ints computed)

theorem processes_nonempty {reduce : Int → Int} {ps : List Part} (ints : IntSettings c)
    (some : nprocs ≠ 0)
    (reduced : ∀ forks, 1 ≤ forks → 1 ≤ reduce forks ∧ reduce forks ≤ forks)
    (unreduced : ∀ forks, forks ≤ 0 → reduce forks ≤ 0)
    (computed : processes cInt c reduce nprocs = .ok ps) : ∀ p ∈ ps, p.mymin ≤ p.mymax := by
  obtain ⟨range, product, forked⟩ := bounded_of_processes ints computed
  have same := processes_eq reduce ints some range product forked
  obtain rfl := Except.ok.inj (computed.symm.trans same)
  by_cases many : 1 ≤ forks c nprocs
  · obtain ⟨positive, fewer⟩ := reduced _ many
    have whole : number c = c.wIdMax - c.wIdMin + 1 := rfl
    exact (parts_partition whole (min_le_right _ _) (by omega) fewer).nonempty
  · intro p mem
    rw [parts, if_pos (unreduced _ (by omega))] at mem
    obtain rfl := List.mem_singleton.mp mem
    exact le_rfl

end Forks

theorem Driver3.limitForks_nonpos (c : DriverSettings) (forks : Int) (none : forks ≤ 0) :
    Driver3.limitForks c forks ≤ 0 := by
  unfold Driver3.limitForks
  split <;> omega

theorem Driver3.startProcess_kept_iff {c : DriverSettings} {p : Part} (le : p.mymin ≤ p.mymax) :
    Kept (Driver3.startProcess cInt c p) ↔ Kept (Forks.createTerminals cInt c p) := by
  by_cases space : Forks.room c p < 0
  · have none : c.terminalsPerWarehouse ≤ 0 := by
      by_contra some
      have : 0 ≤ Forks.room c p := Int.mul_nonneg (by omega) (by omega)
      omega
    have returned : Ends (Driver3.startProcess cInt c p) (.error (.returned ERROR)) := by
      unfold Driver3.startProcess
      simp only [if_pos space]
      exact .const _
    exact iff_of_true (returned.kept not_fails_returned) (Forks.kept_of_none none)
  · have same : Driver3.startProcess cInt c p = Forks.createTerminals cInt c p :=
      funext fun _ => if_neg space
    rw [same]

theorem Driver2.processes_kept_iff {c : DriverSettings} {nprocs : Int} (ints : IntSettings c)
    (some : nprocs ≠ 0) :
    (∃ ps, Driver2.processes cInt c nprocs = .ok ps ∧
      ∀ p ∈ ps, Kept (Driver2.startProcess cInt c p)) ↔
    Forks.Bounded c nprocs (Forks.forks c nprocs) :=
  Forks.processes_kept_iff ints some (fun _ many => ⟨many, le_rfl⟩) fun _ none => none

theorem Driver3.processes_kept_iff {c : DriverSettings} {nprocs : Int} (ints : IntSettings c)
    (some : nprocs ≠ 0) :
    (∃ ps, Driver3.processes cInt c nprocs = .ok ps ∧
      ∀ p ∈ ps, Kept (Driver3.startProcess cInt c p)) ↔
    Forks.Bounded c nprocs (Driver3.limitForks c (Forks.forks c nprocs)) := by
  have reduced := Driver3.limitForks_bounds c
  have unreduced := Driver3.limitForks_nonpos c
  rw [← Forks.processes_kept_iff ints some reduced unreduced]
  apply exists_congr
  intro ps
  apply and_congr_right
  intro computed
  have nonempty := Forks.processes_nonempty ints some reduced unreduced computed
  exact forall₂_congr fun p mem => Driver3.startProcess_kept_iff (nonempty p mem)

end Dbt2
