import Dbt2.Common
import Dbt2.Lib.Stepping

/-!
# Starting terminals

`start_driver` of `driver.c`, which starts a thread per terminal and later joins them all. It
visits the terminals warehouse by warehouse for the first district, then for the second, and so
on; a limit on terminals ends this early. Every call of the thread library succeeds; what an
integer expression evaluates to is left to `int`.
-/

namespace Dbt2

open Stepping

/-- What the drivers read of their settings when they start terminals. -/
structure DriverSettings where
  wIdMin : Int
  wIdMax : Int
  spread : Int
  terminalsPerWarehouse : Int
  terminalsLimit : Int
  forkPerProcessor : Int
  deriving DecidableEq

namespace DriverSettings

/-- Whether the limit forbids the terminal with number `count`. -/
def limited (c : DriverSettings) (count : Int) : Bool :=
  c.terminalsLimit ≠ 0 ∧ c.terminalsLimit < count

end DriverSettings

namespace Driver1

structure Allocation where
  count : Int
  rows : List Int
  deriving DecidableEq

/-- Positions in `g_tid`, with the number the next one gets. -/
structure Progress where
  count : Int
  positions : List (Int × Int)
  deriving DecidableEq

/-- The rows of `g_tid` and the positions at which threads were created and joined. -/
structure Threads where
  rows : List Int
  created : List (Int × Int)
  joined : List (Int × Int)
  deriving DecidableEq

section

variable (int : Int → Except (Halt Int) Int) (c : DriverSettings)

/-- A negative size is a huge one to `malloc`, which fails. -/
def allocateRow (slots i : Int) (s : Allocation) : Except (Halt Int) (Flow Allocation) :=
  if ¬(0 ≤ i ∧ i < slots) then .error .outOfBounds
  else if c.terminalsPerWarehouse < 0 then .error (.returned ERROR)
  else if c.limited s.count then .ok (.leave { s with rows := s.rows ++ [i] })
  else do
    let count ← int (s.count + 1)
    .ok (.next { count, rows := s.rows ++ [i] })

/-- Whether `g_tid[i][j]` is there. -/
def allocated (slots : Int) (rows : List Int) (i j : Int) : Bool :=
  (0 ≤ i ∧ i < slots) ∧ i ∈ rows ∧ 0 ≤ j ∧ j < c.terminalsPerWarehouse

/-- Every hundredth thread reports progress, with a quotient by `spread`. -/
def createThread (slots : Int) (rows : List Int) (i j : Int) (s : Progress) :
    Except (Halt Int) Progress :=
  if ¬allocated c slots rows i j then .error .outOfBounds
  else if s.count.tmod 100 = 0 ∧ c.spread = 0 then .error .divisionByZero
  else do
    let count ← int (s.count + 1)
    .ok { count, positions := s.positions ++ [(i, j)] }

def joinThread (slots : Int) (rows : List Int) (i j : Int) (s : Progress) :
    Except (Halt Int) Progress :=
  if ¬allocated c slots rows i j then .error .outOfBounds
  else do
    let count ← int (s.count + 1)
    .ok { count, positions := s.positions ++ [(i, j)] }

/-- The loops that create the threads and those that join them, which differ in what they do at a
position. -/
def eachTerminal (act : Int → Int → Progress → Except (Halt Int) Progress) (fuel : Nat) :
    Except (Halt Int) Progress :=
  sweep int c.wIdMin c.spread c.terminalsPerWarehouse (int (c.wIdMax + 1))
    (fun s => c.limited s.count) act fuel { count := 1, positions := [] }

def startDriver (fuel : Nat) : Except (Halt Int) Threads := do
  let slots ← int (c.wIdMax + 1)
  if slots < 0 then .error (.returned ERROR) else
  let allocation ← forLoop int slots c.spread (allocateRow int c slots) fuel c.wIdMin
    { count := 1, rows := [] }
  let created ← eachTerminal int c (createThread int c slots allocation.rows) fuel
  let joined ← eachTerminal int c (joinThread int c slots allocation.rows) fuel
  .ok { rows := allocation.rows, created := created.positions, joined := joined.positions }

end

/-! ## Rows and positions in order -/

section

variable (c : DriverSettings)

/-- The `k`-th warehouse. -/
def row (k : Nat) : Int := c.wIdMin + k * c.spread

/-- How many of `n` the limit leaves. -/
def quota (n : Nat) : Nat :=
  if c.terminalsLimit = 0 then n else min c.terminalsLimit.toNat n

/-- The first `S` rows lie in `g_tid`, and then the range ends or the limit has cut it short. -/
structure Spans (slots : Int) (S : Nat) : Prop where
  pos : 0 < S
  fits : ∀ k < S, 0 ≤ row c k ∧ row c k < slots
  ends : ¬ row c S < slots ∨ c.terminalsLimit ≠ 0 ∧ c.terminalsLimit.toNat < S

def allocationAfter (k : Nat) : Allocation :=
  { count := 1 + k, rows := (List.range k).map (row c) }

def progressAfter (S m : Nat) : Progress :=
  { count := 1 + m, positions := grid (row c) S m }

variable {c} {int : Int → Except (Halt Int) Int} {slots : Int} {S : Nat}

theorem limited_iff (m : Nat) :
    c.limited (1 + m) = true ↔ c.terminalsLimit ≠ 0 ∧ c.terminalsLimit.toNat ≤ m := by
  simp only [DriverSettings.limited, decide_eq_true_eq]
  omega

theorem not_limited {n m : Nat} (lt : m < quota c n) : c.limited (1 + m) = false := by
  rw [Bool.eq_false_iff]
  intro limited
  obtain ⟨given, le⟩ := (limited_iff m).mp limited
  rw [quota, if_neg given] at lt
  omega

theorem quota_le (n : Nat) : quota c n ≤ n := by
  unfold quota
  split <;> omega

/-- The limit, unless everything is visited. -/
theorem quota_limited {n : Nat} (less : quota c n < n) : c.limited (1 + quota c n) = true := by
  rw [limited_iff]
  unfold quota at less ⊢
  split at less <;> rename_i given
  · omega
  · rw [if_neg given]
    exact ⟨given, by omega⟩

theorem row_succ (k : Nat) : row c k + c.spread = row c (k + 1) := by
  simp only [row, Nat.cast_succ]
  ring

/-! ## The allocation loop -/

/-- How many rows are allocated: one more than the limit, when it ends the loop. -/
def rowsAllocated (c : DriverSettings) (S : Nat) : Nat :=
  if quota c S < S then quota c S + 1 else S

theorem allocateRow_next {k : Nat} (fits : 0 ≤ row c k ∧ row c k < slots)
    (some : 0 ≤ c.terminalsPerWarehouse) (open' : c.limited (1 + k) = false)
    (counts : int (1 + k + 1) = .ok (1 + k + 1)) :
    allocateRow int c slots (row c k) (allocationAfter c k) =
      .ok (.next (allocationAfter c (k + 1))) := by
  rw [allocateRow, if_neg (not_not.mpr fits), if_neg (by omega)]
  simp only [allocationAfter, open', Bool.false_eq_true, if_false, counts, List.range_succ,
    List.map_append, List.map_cons, List.map_nil, Nat.cast_succ, ← add_assoc]
  rfl

theorem allocateRow_leave {k : Nat} (fits : 0 ≤ row c k ∧ row c k < slots)
    (some : 0 ≤ c.terminalsPerWarehouse) (shut : c.limited (1 + k) = true) :
    allocateRow int c slots (row c k) (allocationAfter c k) =
      .ok (.leave { count := 1 + k, rows := (List.range (k + 1)).map (row c) }) := by
  rw [allocateRow, if_neg (not_not.mpr fits), if_neg (by omega)]
  simp only [allocationAfter, shut, if_true, List.range_succ, List.map_append, List.map_cons,
    List.map_nil]

theorem ends_allocation (spans : Spans c slots S) (some : 0 ≤ c.terminalsPerWarehouse)
    (steps : ∀ k < quota c S, int (row c k + c.spread) = .ok (row c (k + 1)))
    (counts : ∀ k < quota c S, int (1 + k + 1) = .ok (1 + k + 1)) :
    ∃ count, Ends (fun fuel => forLoop int slots c.spread (allocateRow int c slots) fuel c.wIdMin
        { count := 1, rows := [] })
      (.ok { count, rows := (List.range (rowsAllocated c S)).map (row c) }) := by
  have start : ({ count := 1, rows := [] } : Allocation) = allocationAfter c 0 := rfl
  have pass (k : Nat) (lt : k < quota c S) : row c k < slots ∧
      Ends (fun _ => allocateRow int c slots (row c k) (allocationAfter c k))
        (.ok (.next (allocationAfter c (k + 1)))) ∧
      int (row c k + c.spread) = .ok (row c (k + 1)) := by
    have fits := spans.fits k (by have := quota_le (c := c) S; omega)
    rw [allocateRow_next fits some (not_limited lt) (counts k lt)]
    exact ⟨fits.2, .const _, steps k lt⟩
  rw [start]
  by_cases less : quota c S < S
  · refine ⟨1 + quota c S, (Loop.rounds (quota c S) (allocationAfter c) pass ?_).ends⟩
    have fits := spans.fits _ less
    apply Loop.leave fits.2
    change Ends (fun _ => allocateRow int c slots (row c (quota c S)) _) _
    rw [allocateRow_leave fits some (quota_limited less), rowsAllocated, if_pos less]
    exact .const _
  · have all : quota c S = S := le_antisymm (quota_le S) (by omega)
    refine ⟨1 + S, (Loop.rounds (quota c S) (allocationAfter c) pass ?_).ends⟩
    rw [all, rowsAllocated, if_neg less]
    apply Loop.exit
    obtain passed | ⟨given, small⟩ := spans.ends
    · exact passed
    · rw [quota, if_neg given] at less
      omega

/-! ## The loops over the terminals -/

theorem mod_lt_quota {n m : Nat} (pos : 0 < S) (lt : m < quota c (S * n)) : m % S < quota c S := by
  have small : m % S < S := Nat.mod_lt m pos
  have le : m % S ≤ m := Nat.mod_le m S
  unfold quota at lt ⊢
  split at lt <;> rename_i given
  · rw [if_pos given]
    exact small
  · rw [if_neg given]
    omega

theorem progressAfter_succ (m : Nat) : progressAfter c S (m + 1) =
    { count := 1 + m + 1
      positions := (progressAfter c S m).positions ++ [(row c (m % S), ((m / S : Nat) : Int))] } := by
  simp only [progressAfter, grid, List.range_succ, List.map_append, List.map_cons, List.map_nil,
    Nat.cast_succ, add_assoc]

/-- Both loops visit the positions in order, up to the limit. -/
theorem ends_eachTerminal {act : Int → Int → Progress → Except (Halt Int) Progress}
    (spans : Spans c slots S) (bound : int (c.wIdMax + 1) = .ok slots)
    (columns : ∀ j : Nat, j < c.terminalsPerWarehouse → int (j + 1) = .ok (j + 1))
    (steps : ∀ k < quota c S, int (row c k + c.spread) = .ok (row c (k + 1)))
    (acts : ∀ m < quota c (S * c.terminalsPerWarehouse.toNat),
      act (row c (m % S)) (m / S : Nat) (progressAfter c S m) = .ok (progressAfter c S (m + 1))) :
    Ends (eachTerminal int c act)
      (.ok (progressAfter c S (quota c (S * c.terminalsPerWarehouse.toNat)))) := by
  have start : ({ count := 1, positions := [] } : Progress) = progressAfter c S 0 := rfl
  have visits (m : Nat) (lt : m < quota c (S * c.terminalsPerWarehouse.toNat)) :
      Visits int c.wIdMin c.spread (fun s : Progress => c.limited s.count) act S
        (progressAfter c S) m :=
    ⟨not_limited lt, acts m lt, steps _ (mod_lt_quota spans.pos lt)⟩
  have fits (k : Nat) (lt : k < S) : c.wIdMin + k * c.spread < slots := (spans.fits k lt).2
  unfold eachTerminal
  rw [bound, start]
  by_cases some : 0 < c.terminalsPerWarehouse
  · have columns_pos : 0 < c.terminalsPerWarehouse.toNat := by omega
    have grid : S ≤ S * c.terminalsPerWarehouse.toNat := Nat.le_mul_of_pos_right S columns_pos
    by_cases filled : c.limited (1 + quota c (S * c.terminalsPerWarehouse.toNat)) = true
    · apply ends_sweep_full (quota_le _) some columns spans.pos fits _ visits filled
      intro more
      obtain passed | ⟨given, small⟩ := spans.ends
      · exact passed
      · rw [quota, if_neg given] at more
        omega
    · have all : quota c (S * c.terminalsPerWarehouse.toNat) =
          S * c.terminalsPerWarehouse.toNat :=
        le_antisymm (quota_le _) (not_lt.mp fun less => filled (quota_limited less))
      rw [all] at visits filled ⊢
      apply ends_sweep columns fits _ visits (Bool.eq_false_iff.mpr filled)
      obtain passed | ⟨given, small⟩ := spans.ends
      · exact passed
      · rw [quota, if_neg given] at all
        omega
  · have none : c.terminalsPerWarehouse.toNat = 0 := by omega
    have nothing : quota c (S * c.terminalsPerWarehouse.toNat) = 0 := by
      rw [none, Nat.mul_zero]
      exact Nat.le_zero.mp (quota_le 0)
    rw [nothing]
    exact (Loop.exit (by omega)).ends

/-- What is visited lies in a row that was allocated. -/
theorem allocated_position (spans : Spans c slots S) {m : Nat}
    (lt : m < quota c (S * c.terminalsPerWarehouse.toNat)) :
    allocated c slots ((List.range (rowsAllocated c S)).map (row c)) (row c (m % S))
      (m / S : Nat) = true := by
  have small : m % S < S := Nat.mod_lt m spans.pos
  have column : m / S < c.terminalsPerWarehouse.toNat := by
    rw [Nat.div_lt_iff_lt_mul spans.pos, Nat.mul_comm]
    exact lt_of_lt_of_le lt (quota_le _)
  have there : m % S < rowsAllocated c S := by
    have := mod_lt_quota spans.pos lt
    unfold rowsAllocated
    split <;> omega
  simp only [allocated, decide_eq_true_eq]
  exact ⟨spans.fits _ small, List.mem_map.mpr ⟨_, List.mem_range.mpr there, rfl⟩,
    Int.natCast_nonneg _, Int.lt_toNat.mp column⟩

theorem createThread_ok {rows : List Int} {m : Nat}
    (there : allocated c slots rows (row c (m % S)) (m / S : Nat) = true)
    (reports : ¬((1 + m : Int).tmod 100 = 0 ∧ c.spread = 0))
    (counts : int (1 + m + 1) = .ok (1 + m + 1)) :
    createThread int c slots rows (row c (m % S)) (m / S : Nat) (progressAfter c S m) =
      .ok (progressAfter c S (m + 1)) := by
  have reports' : ¬((progressAfter c S m).count.tmod 100 = 0 ∧ c.spread = 0) := reports
  rw [createThread, if_neg (not_not.mpr there), if_neg reports', progressAfter_succ]
  simp only [progressAfter, counts]
  rfl

theorem joinThread_ok {rows : List Int} {m : Nat}
    (there : allocated c slots rows (row c (m % S)) (m / S : Nat) = true)
    (counts : int (1 + m + 1) = .ok (1 + m + 1)) :
    joinThread int c slots rows (row c (m % S)) (m / S : Nat) (progressAfter c S m) =
      .ok (progressAfter c S (m + 1)) := by
  rw [joinThread, if_neg (not_not.mpr there), progressAfter_succ]
  simp only [progressAfter, counts]
  rfl

/-- What is there once the driver has joined its threads. -/
def threads (c : DriverSettings) (S : Nat) : Threads :=
  let positions := grid (row c) S (quota c (S * c.terminalsPerWarehouse.toNat))
  { rows := (List.range (rowsAllocated c S)).map (row c), created := positions, joined := positions }

theorem ends_startDriver (spans : Spans c slots S) (bound : int (c.wIdMax + 1) = .ok slots)
    (size : 0 ≤ slots) (some : 0 ≤ c.terminalsPerWarehouse)
    (columns : ∀ j : Nat, j < c.terminalsPerWarehouse → int (j + 1) = .ok (j + 1))
    (steps : ∀ k < quota c S, int (row c k + c.spread) = .ok (row c (k + 1)))
    (rowCounts : ∀ k < quota c S, int (1 + k + 1) = .ok (1 + k + 1))
    (counts : ∀ m < quota c (S * c.terminalsPerWarehouse.toNat), int (1 + m + 1) = .ok (1 + m + 1))
    (reports : ∀ m < quota c (S * c.terminalsPerWarehouse.toNat),
      ¬((1 + m : Int).tmod 100 = 0 ∧ c.spread = 0)) :
    Ends (startDriver int c) (.ok (threads c S)) := by
  obtain ⟨count, allocation⟩ := ends_allocation spans some steps rowCounts
  have creation := ends_eachTerminal spans bound columns steps fun m lt =>
    createThread_ok (allocated_position spans lt) (reports m lt) (counts m lt)
  have joining := ends_eachTerminal spans bound columns steps fun m lt =>
    joinThread_ok (allocated_position spans lt) (counts m lt)
  unfold startDriver
  rw [bound]
  change Ends (fun fuel => if slots < 0 then _ else _) _
  simp only [if_neg (not_lt.mpr size)]
  apply allocation.bind
  apply creation.bind
  apply joining.bind
  exact .const _

/-- A creation that halts ends the driver. -/
theorem halts_startDriver {h : Nat} {halt : Halt Int} (spans : Spans c slots S)
    (bound : int (c.wIdMax + 1) = .ok slots) (size : 0 ≤ slots)
    (some : 0 ≤ c.terminalsPerWarehouse)
    (columns : ∀ j : Nat, j < c.terminalsPerWarehouse → int (j + 1) = .ok (j + 1))
    (steps : ∀ k < quota c S, int (row c k + c.spread) = .ok (row c (k + 1)))
    (rowCounts : ∀ k < quota c S, int (1 + k + 1) = .ok (1 + k + 1))
    (lt : h < quota c (S * c.terminalsPerWarehouse.toNat))
    (counts : ∀ m < h, int (1 + m + 1) = .ok (1 + m + 1))
    (reports : ∀ m < h, ¬((1 + m : Int).tmod 100 = 0 ∧ c.spread = 0))
    (halts : createThread int c slots ((List.range (rowsAllocated c S)).map (row c))
      (row c (h % S)) (h / S : Nat) (progressAfter c S h) = .error halt) :
    Ends (startDriver int c) (.error halt) := by
  obtain ⟨count, allocation⟩ := ends_allocation spans some steps rowCounts
  have start : ({ count := 1, positions := [] } : Progress) = progressAfter c S 0 := rfl
  have creation : Ends (eachTerminal int c (createThread int c slots
      ((List.range (rowsAllocated c S)).map (row c)))) (.error halt) := by
    unfold eachTerminal
    rw [bound, start]
    apply ends_sweep_halt (lt.trans_le (quota_le _)) columns
      (fun k small => (spans.fits k small).2) _ _ (not_limited lt) (.inl halts)
    · intro more
      obtain passed | ⟨given, small⟩ := spans.ends
      · exact passed
      · rw [quota, if_neg given] at lt
        omega
    · intro m earlier
      exact ⟨not_limited (earlier.trans lt), createThread_ok
        (allocated_position spans (earlier.trans lt)) (reports m earlier) (counts m earlier),
        steps _ (mod_lt_quota spans.pos (earlier.trans lt))⟩
  unfold startDriver
  rw [bound]
  change Ends (fun fuel => if slots < 0 then _ else _) _
  simp only [if_neg (not_lt.mpr size)]
  exact allocation.bind creation.bind_halt

theorem spans_steps (low : 0 ≤ c.wIdMin) (le : c.wIdMin ≤ c.wIdMax) (pos : 1 ≤ c.spread) :
    Spans c (c.wIdMax + 1) (steps c.wIdMin c.wIdMax c.spread) where
  pos := steps_pos le pos
  fits k lt := by
    have : 0 ≤ (k : Int) * c.spread := Int.mul_nonneg (Int.natCast_nonneg k) (by omega)
    exact ⟨by simp only [row]; omega, steps_fits le pos lt⟩
  ends := .inl (steps_passed le pos)

end

end Driver1

end Dbt2
