import Dbt2.Terminals

/-!
# Starting terminals from several processes

`start_driver` of `driver2.c` and `driver3.c`. The range of warehouses is cut into one part for
each process; a process steps through its part as `driver.c` does through the whole range.
Quotients are rational numbers.
-/

namespace Dbt2

open Stepping

/-- The cast of a real number to an integer. -/
def truncate (q : ℚ) : Int := if 0 ≤ q then ⌊q⌋ else ⌈q⌉

/-- The warehouses of a process. -/
structure Part where
  mymin : Int
  mymax : Int
  deriving DecidableEq

namespace Part

def warehouses (p : Part) : Set Int := Set.Icc p.mymin p.mymax

end Part

namespace Forks

/-- The terminals in `rte`, and the index of the next one. -/
structure Terminals where
  k : Int
  rte : List (Int × Int)
  deriving DecidableEq

section

variable (int : Int → Except (Halt Int) Int) (c : DriverSettings)

def numberOfWarehouses : Except (Halt Int) Int := do
  let difference ← int (c.wIdMax - c.wIdMin)
  int (difference + 1)

def maxFork (nprocs number : Int) : Except (Halt Int) Int := do
  let processes ← int (nprocs * c.forkPerProcessor)
  .ok (if number < processes then number else processes)

/-- What the `l`-th round computes, of `forks` rounds. -/
def part (partitionSize : ℚ) (forks : Int) (l : Nat) : Part where
  mymin := c.wIdMin + truncate (l * partitionSize)
  mymax := if (l : Int) ≠ forks - 1 then c.wIdMin + truncate ((l + 1) * partitionSize) - 1
    else c.wIdMax

/-- Each round forks a child but for the last, which the parent keeps. Without rounds it keeps
the initial values. -/
def parts (partitionSize : ℚ) (forks : Int) : List Part :=
  if forks ≤ 0 then [{ mymin := 0, mymax := 0 }]
  else (List.range forks.toNat).map (part c partitionSize forks)

/-- `reduce` lowers the number of forks after the size of the parts has been fixed. -/
def processes (reduce : Int → Int) (nprocs : Int) : Except (Halt Int) (List Part) := do
  let number ← numberOfWarehouses int c
  let forks ← maxFork int c nprocs number
  if forks = 0 ∨ nprocs = 0 then .error .divisionByZero
  else .ok (parts c (number / forks) (reduce forks))

/-- The number of terminals there is room for. -/
def room (p : Part) : Int := (p.mymax - p.mymin + 1) * c.terminalsPerWarehouse

def createTerminal (p : Part) (i j : Int) (s : Terminals) : Except (Halt Int) Terminals :=
  if ¬(0 ≤ s.k ∧ s.k < room c p) then .error .outOfBounds
  else do
    let k ← int (s.k + 1)
    .ok { k, rte := s.rte ++ [(i, j + 1)] }

/-- There is no limit on terminals here. -/
def createTerminals (p : Part) (fuel : Nat) : Except (Halt Int) Terminals :=
  sweep int p.mymin c.spread c.terminalsPerWarehouse (int (p.mymax + 1)) (fun _ => false)
    (createTerminal int c p) fuel { k := 0, rte := [] }

end

/-! ## The parts of a range -/

/-- A list of parts covers a range, each warehouse once. -/
structure Partitions (ps : List Part) (lo hi : Int) : Prop where
  nonempty : ∀ p ∈ ps, p.mymin ≤ p.mymax
  disjoint : ps.Pairwise fun p q => Disjoint p.warehouses q.warehouses
  covers : ∀ w, (∃ p ∈ ps, w ∈ p.warehouses) ↔ w ∈ Set.Icc lo hi

theorem truncate_quotient {a b : Int} (nonneg : 0 ≤ a) (pos : 0 < b) :
    truncate ((a : ℚ) / b) = a / b := by
  obtain ⟨d, rfl⟩ := Int.eq_ofNat_of_zero_le pos.le
  have quotient : (0 : ℚ) ≤ (a : ℚ) / (d : Int) := by positivity
  rw [truncate, if_pos quotient]
  exact_mod_cast Rat.floor_intCast_div_natCast a d

/-- Where the `l`-th part starts, when `number` warehouses are cut in `forks` parts. -/
def cut (c : DriverSettings) (number forks : Int) (l : Nat) : Int :=
  c.wIdMin + l * number / forks

section

variable {c : DriverSettings} {number forks m : Int}

theorem start_eq_cut (c : DriverSettings) (nonneg : 0 ≤ number) (pos : 0 < forks) (l : Nat) :
    c.wIdMin + truncate (l * ((number : ℚ) / forks)) = cut c number forks l := by
  have product : (l : ℚ) * ((number : ℚ) / forks) = ((l * number : Int) : ℚ) / forks := by
    push_cast
    ring
  rw [product, truncate_quotient (Int.mul_nonneg (Int.natCast_nonneg l) nonneg) pos]
  rfl

/-- A part has at least one warehouse, since there are no more parts than warehouses. -/
theorem cut_succ (pos : 0 < forks) (le : forks ≤ number) (l : Nat) :
    cut c number forks l < cut c number forks (l + 1) := by
  have step : l * number + 1 * forks ≤ (l + 1 : Nat) * number := by
    push_cast
    linarith
  have := Int.ediv_le_ediv pos step
  rw [Int.add_mul_ediv_right _ _ pos.ne'] at this
  unfold cut
  omega

theorem cut_last (pos : 0 < forks) (le : forks ≤ number) {l : Nat} (lt : l < forks) :
    cut c number forks l < c.wIdMin + number := by
  have below : l * number / forks < number := by
    apply Int.ediv_lt_of_lt_mul pos
    nlinarith
  unfold cut
  omega

/-- The starts of the `m` parts, and the end of the range. -/
def boundary (c : DriverSettings) (number forks m : Int) (l : Nat) : Int :=
  if l < m then cut c number forks l else c.wIdMin + number

theorem boundary_succ (le : forks ≤ number) (some : 0 < m) (fewer : m ≤ forks) {l : Nat}
    (lt : l < m) : boundary c number forks m l < boundary c number forks m (l + 1) := by
  rw [boundary, if_pos lt, boundary]
  split
  · exact cut_succ (by omega) le l
  · exact cut_last (by omega) le (by omega)

theorem part_eq (whole : number = c.wIdMax - c.wIdMin + 1) (le : forks ≤ number) (some : 0 < m)
    (fewer : m ≤ forks) {l : Nat} (lt : l < m) :
    part c (number / forks) m l =
      { mymin := boundary c number forks m l, mymax := boundary c number forks m (l + 1) - 1 } := by
  have start (l : Nat) := start_eq_cut c (show 0 ≤ number by omega) (show 0 < forks by omega) l
  have next := start (l + 1)
  push_cast at next
  by_cases last : (l : Int) ≠ m - 1
  · simp only [part, boundary, if_pos lt, if_pos last, start, next,
      if_pos (show ((l + 1 : Nat) : Int) < m by omega)]
  · simp only [part, boundary, if_pos lt, if_neg last, start,
      if_neg (show ¬((l + 1 : Nat) : Int) < m by omega), Part.mk.injEq, true_and]
    omega

theorem warehouses_part (whole : number = c.wIdMax - c.wIdMin + 1) (le : forks ≤ number)
    (some : 0 < m) (fewer : m ≤ forks) {l : Nat} (lt : l < m) :
    (part c (number / forks) m l).warehouses = piece (boundary c number forks m) l := by
  rw [part_eq whole le some fewer lt]
  ext w
  simp only [Part.warehouses, piece, Set.mem_Icc, Set.mem_Ico]
  omega

theorem parts_partition (whole : number = c.wIdMax - c.wIdMin + 1) (le : forks ≤ number)
    (some : 0 < m) (fewer : m ≤ forks) :
    Partitions (parts c (number / forks) m) c.wIdMin c.wIdMax := by
  have up (l : Nat) (lt : l < m.toNat) :
      boundary c number forks m l < boundary c number forks m (l + 1) :=
    boundary_succ le some fewer (by omega)
  have first : boundary c number forks m 0 = c.wIdMin := by simp [boundary, cut, some]
  have last : boundary c number forks m m.toNat = c.wIdMin + number := by
    rw [boundary, if_neg (by omega)]
  rw [parts, if_neg (by omega)]
  refine ⟨?_, ?_, ?_⟩
  · intro p mem
    obtain ⟨l, inside, rfl⟩ := List.mem_map.mp mem
    have lt := List.mem_range.mp inside
    have := up l lt
    rw [part_eq whole le some fewer (by omega)]
    dsimp only
    omega
  · rw [List.pairwise_map]
    apply List.Pairwise.imp_of_mem _ List.pairwise_lt_range
    intro l n mem mem' lt
    have := List.mem_range.mp mem
    have := List.mem_range.mp mem'
    rw [warehouses_part whole le some fewer (by omega),
      warehouses_part whole le some fewer (by omega)]
    exact piece_disjoint (fun l lt => (up l lt).le) lt (by omega)
  · intro w
    have pieces := mem_piece_iff (fun l lt => (up l lt).le) w
    rw [first, last] at pieces
    rw [Set.mem_Icc, show w ≤ c.wIdMax ↔ w < c.wIdMin + number by omega, ← pieces]
    constructor
    · rintro ⟨p, mem, here⟩
      obtain ⟨l, inside, rfl⟩ := List.mem_map.mp mem
      have lt := List.mem_range.mp inside
      rw [warehouses_part whole le some fewer (by omega)] at here
      exact ⟨l, lt, here⟩
    · rintro ⟨l, lt, here⟩
      refine ⟨_, List.mem_map.mpr ⟨l, List.mem_range.mpr lt, rfl⟩, ?_⟩
      rw [warehouses_part whole le some fewer (by omega)]
      exact here

end

/-! ## The terminals of a process -/

/-- The first `m` terminals of a process; districts count from one. -/
def terminalsAfter (c : DriverSettings) (p : Part) (S m : Nat) : Terminals :=
  { k := m, rte := (grid (fun k => p.mymin + k * c.spread) S m).map fun t => (t.1, t.2 + 1) }

section

variable {c : DriverSettings} {p : Part} {int : Int → Except (Halt Int) Int} {b : Int}

/-- As many terminals as there are steps, in each district. -/
def size (c : DriverSettings) (p : Part) : Nat :=
  steps p.mymin p.mymax c.spread * c.terminalsPerWarehouse.toNat

theorem room_nonneg (le : p.mymin ≤ p.mymax) (nonneg : 0 ≤ c.terminalsPerWarehouse) :
    0 ≤ room c p := Int.mul_nonneg (by omega) nonneg

theorem size_le_room (le : p.mymin ≤ p.mymax) (pos : 1 ≤ c.spread)
    (nonneg : 0 ≤ c.terminalsPerWarehouse) : (size c p : Int) ≤ room c p := by
  rw [size, Nat.cast_mul, Int.toNat_of_nonneg nonneg, room]
  have few := steps_le le pos
  exact Int.mul_le_mul_of_nonneg_right (by omega) nonneg

theorem createTerminal_ok {S m : Nat} (there : (m : Int) < room c p)
    (counts : int (m + 1) = .ok (m + 1)) :
    createTerminal int c p (p.mymin + (m % S : Nat) * c.spread) (m / S : Nat)
      (terminalsAfter c p S m) = .ok (terminalsAfter c p S (m + 1)) := by
  have inside : 0 ≤ (m : Int) ∧ (m : Int) < room c p := ⟨Int.natCast_nonneg m, there⟩
  simp only [createTerminal, terminalsAfter, if_neg (not_not.mpr inside), counts, grid,
    List.range_succ, List.map_append, List.map_cons, List.map_nil, Nat.cast_succ]
  rfl

theorem ends_createTerminals (le : p.mymin ≤ p.mymax) (pos : 1 ≤ c.spread)
    (nonneg : 0 ≤ c.terminalsPerWarehouse) (bound : int (p.mymax + 1) = .ok (p.mymax + 1))
    (columns : ∀ j : Nat, j < c.terminalsPerWarehouse → int (j + 1) = .ok (j + 1))
    (increments : ∀ k < steps p.mymin p.mymax c.spread,
      int (p.mymin + k * c.spread + c.spread) = .ok (p.mymin + (k + 1 : Nat) * c.spread))
    (counts : ∀ m < size c p, int ((m : Int) + 1) = .ok (m + 1)) :
    Ends (createTerminals int c p)
      (.ok (terminalsAfter c p (steps p.mymin p.mymax c.spread) (size c p))) := by
  have start : ({ k := 0, rte := [] } : Terminals) =
    terminalsAfter c p (steps p.mymin p.mymax c.spread) 0 := rfl
  have space := size_le_room le pos nonneg
  unfold createTerminals
  rw [bound, start]
  apply ends_sweep columns (fun k lt => steps_fits le pos lt) (steps_passed le pos) _ rfl
  intro m lt
  exact ⟨rfl, createTerminal_ok (lt_of_lt_of_le (Int.ofNat_lt.mpr lt) space) (counts m lt),
    increments _ (Nat.mod_lt m (steps_pos le pos))⟩

end

end Forks

namespace Driver2

variable (int : Int → Except (Halt Int) Int) (c : DriverSettings)

def processes (nprocs : Int) : Except (Halt Int) (List Part) := Forks.processes int c id nprocs

def startProcess (p : Part) (fuel : Nat) : Except (Halt Int) Forks.Terminals :=
  Forks.createTerminals int c p fuel

end Driver2

namespace Driver3

variable (int : Int → Except (Halt Int) Int) (c : DriverSettings)

/-- Here the limit is one on processes. -/
def limitForks (forks : Int) : Int :=
  if 0 < c.terminalsLimit ∧ c.terminalsLimit < forks then c.terminalsLimit else forks

def processes (nprocs : Int) : Except (Halt Int) (List Part) :=
  Forks.processes int c (limitForks c) nprocs

/-- The allocation is checked, and fails for a negative size. -/
def startProcess (p : Part) (fuel : Nat) : Except (Halt Int) Forks.Terminals :=
  if Forks.room c p < 0 then .error (.returned ERROR) else Forks.createTerminals int c p fuel

end Driver3

/-! ## The number of parts -/

namespace Forks

/-- The number of warehouses. -/
def number (c : DriverSettings) : Int := c.wIdMax - c.wIdMin + 1

/-- The number of parts, before a limit. -/
def forks (c : DriverSettings) (nprocs : Int) : Int := min (nprocs * c.forkPerProcessor) (number c)

theorem forks_bounds {c : DriverSettings} {nprocs : Int} (le : c.wIdMin ≤ c.wIdMax)
    (product : 1 ≤ nprocs * c.forkPerProcessor) :
    1 ≤ forks c nprocs ∧ forks c nprocs ≤ number c := by
  unfold forks number
  omega

end Forks

theorem Driver3.limitForks_bounds (c : DriverSettings) (forks : Int) (some : 1 ≤ forks) :
    1 ≤ Driver3.limitForks c forks ∧ Driver3.limitForks c forks ≤ forks := by
  unfold Driver3.limitForks
  split <;> omega

end Dbt2
