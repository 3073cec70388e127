import Dbt2.Startup

/-!
# What the start-up has created

Where no bound, counter or index overflows, `driver` joins the threads that it created, and the
processes of `driver2` and `driver3` have the warehouses between them.

* `Driver1.created_joined_iff`: for which settings created and joined terminals agree;
* `Forks.warehouses_partitioned_iff`: for which the range is partitioned among processes.
-/

namespace Dbt2

open Stepping

/-! ## driver.c -/

namespace Driver1

/-- No `int` of the loops overflows. -/
structure Fits (c : DriverSettings) : Prop where
  bound : c.wIdMax + 1 < 2 ^ 31
  stays : row c (quota c (steps c.wIdMin c.wIdMax c.spread)) < 2 ^ 31
  counted : quota c (steps c.wIdMin c.wIdMax c.spread * c.terminalsPerWarehouse.toNat) + 1 < 2 ^ 31

/-- The created threads are joined, at allocated positions, and there are as many as wanted. -/
def CreatedJoined (c : DriverSettings) : Prop :=
  ∃ t, Ends (startDriver cInt c) (.ok t) ∧ t.created = t.joined ∧
    (∀ p ∈ t.created, (0 ≤ p.1 ∧ p.1 < c.wIdMax + 1) ∧ p.1 ∈ t.rows ∧
      0 ≤ p.2 ∧ p.2 < c.terminalsPerWarehouse) ∧
    (t.created.length : Int) =
      let pairs := ((c.wIdMax - c.wIdMin) / c.spread + 1) * c.terminalsPerWarehouse
      if c.terminalsLimit = 0 then pairs else min c.terminalsLimit pairs

theorem fits_of_kept {c : DriverSettings} (accepted : Accepted c) (low : 0 ≤ c.wIdMin)
    (pos : 1 ≤ c.spread) (some : 0 ≤ c.terminalsPerWarehouse) (kept : Kept (startDriver cInt c)) :
    Fits c := by
  have le := accepted.le
  obtain ⟨bound, neg | ⟨-, none | reaches⟩⟩ := (kept_iff accepted).mp kept
  · omega
  · omega
  · cases reaches with
    | forward _ stays counted => exact ⟨bound, stays, counted⟩
    | backward neg => omega

theorem Fits.createdJoined {c : DriverSettings} (fits : Fits c) (accepted : Accepted c)
    (low : 0 ≤ c.wIdMin) (pos : 1 ≤ c.spread) (some : 0 ≤ c.terminalsPerWarehouse)
    (limit : 0 ≤ c.terminalsLimit) : CreatedJoined c := by
  have le := accepted.le
  have spans := spans_steps low le pos
  refine ⟨threads c (steps c.wIdMin c.wIdMax c.spread),
    ends_forward accepted fits.bound low some pos fits.stays fits.counted, rfl, ?_, ?_⟩
  · intro p mem
    obtain ⟨m, inside, rfl⟩ := List.mem_map.mp mem
    have there := allocated_position spans (List.mem_range.mp inside)
    simp only [allocated, decide_eq_true_eq] at there
    exact there
  · have pairs : ((steps c.wIdMin c.wIdMax c.spread * c.terminalsPerWarehouse.toNat : Nat) : Int) =
        ((c.wIdMax - c.wIdMin) / c.spread + 1) * c.terminalsPerWarehouse := by
      rw [Nat.cast_mul, steps_cast le pos, Int.toNat_of_nonneg some]
    simp only [threads, grid, List.length_map, List.length_range, ← pairs]
    unfold quota
    split
    · rfl
    · omega

end Driver1

/-! ## driver2.c and driver3.c -/

namespace Forks

variable {c : DriverSettings} {p : Part} {nprocs : Int}

/-- No `int` overflows that has to do with the parts, of which there are `m`, or with the
terminals on them. -/
structure Fits (c : DriverSettings) (nprocs m : Int) : Prop where
  range : number c < 2 ^ 31
  product : nprocs * c.forkPerProcessor < 2 ^ 31
  walks : 1 ≤ c.spread → 0 < c.terminalsPerWarehouse → ∀ l : Nat, l < m →
    Walk c (boundary c (number c) (forks c nprocs) m l)
      (boundary c (number c) (forks c nprocs) m (l + 1))

/-- The parts cover the range, and no process starts more terminals than it made room for. -/
def Partitioned (c : DriverSettings) (processes : Except (Halt Int) (List Part))
    (startProcess : Part → Nat → Except (Halt Int) Terminals) : Prop :=
  ∃ ps, processes = .ok ps ∧ Partitions ps c.wIdMin c.wIdMax ∧
    (1 ≤ c.spread → ∀ p ∈ ps, ∃ s, Ends (startProcess p) (.ok s) ∧
      (s.rte.length : Int) ≤ room c p)

theorem created_le_room (ints : IntSettings c) (le : p.mymin ≤ p.mymax) (low : -2 ^ 31 ≤ p.mymin)
    (pos : 1 ≤ c.spread) (nonneg : 0 ≤ c.terminalsPerWarehouse)
    (kept : Kept (createTerminals cInt c p)) (wide : p.mymax - p.mymin + 1 < 2 ^ 31) :
    ∃ s, Ends (createTerminals cInt c p) (.ok s) ∧ (s.rte.length : Int) ≤ room c p := by
  by_cases some : 0 < c.terminalsPerWarehouse
  · obtain ⟨-, walk⟩ := (kept_iff ints le low wide).mp kept some
    refine ⟨_, ends_of_walk ints le low some pos walk, ?_⟩
    simp only [terminalsAfter, grid, List.length_map, List.length_range]
    exact size_le_room le pos nonneg
  · exact ⟨_, ends_of_none (by omega), room_nonneg le nonneg⟩

theorem partitioned_iff {reduce : Int → Int}
    {startProcess : Part → Nat → Except (Halt Int) Terminals} (ints : IntSettings c)
    (product : 1 ≤ nprocs * c.forkPerProcessor) (nonneg : 0 ≤ c.terminalsPerWarehouse)
    (reduced : ∀ forks, 1 ≤ forks → 1 ≤ reduce forks ∧ reduce forks ≤ forks)
    (creates : ∀ p, 0 ≤ room c p → startProcess p = createTerminals cInt c p) :
    Partitioned c (processes cInt c reduce nprocs) startProcess ↔
      Fits c nprocs (reduce (forks c nprocs)) := by
  have le := ints.le
  have first := ints.first
  have whole : number c = c.wIdMax - c.wIdMin + 1 := rfl
  have some : nprocs ≠ 0 := by
    rintro rfl
    omega
  have forked : c.forkPerProcessor ≠ 0 := by
    intro none
    rw [none, mul_zero] at product
    omega
  obtain ⟨many, few⟩ := forks_bounds le product
  obtain ⟨positive, fewer⟩ := reduced _ many
  have partition := parts_partition whole few positive fewer
  have inside {p : Part} (mem : p ∈ parts c (number c / forks c nprocs) (reduce (forks c nprocs))) :
      (p.mymin ≤ p.mymax ∧ -2 ^ 31 ≤ p.mymin) ∧ p.mymax - p.mymin + 1 ≤ number c := by
    have nonempty := partition.nonempty p mem
    have low := (partition.covers p.mymin).mp ⟨p, mem, le_rfl, nonempty⟩
    have high := (partition.covers p.mymax).mp ⟨p, mem, nonempty, le_rfl⟩
    rw [Set.mem_Icc] at low high
    omega
  have listed {l : Nat} (lt : l < reduce (forks c nprocs)) :
      part c (number c / forks c nprocs) (reduce (forks c nprocs)) l ∈
        parts c (number c / forks c nprocs) (reduce (forks c nprocs)) := by
    rw [parts, if_neg (by omega)]
    exact List.mem_map.mpr ⟨l, List.mem_range.mpr (by omega), rfl⟩
  constructor
  · rintro ⟨ps, computed, -, created⟩
    obtain ⟨range, fits, -⟩ := bounded_of_processes ints computed
    have same := processes_eq reduce ints some range fits forked
    obtain rfl := Except.ok.inj (computed.symm.trans same)
    refine ⟨range, fits.2, fun pos terminals l lt => ?_⟩
    obtain ⟨s, ended, -⟩ := created pos _ (listed lt)
    rw [creates _ (room_nonneg (inside (listed lt)).1.1 nonneg)] at ended
    exact ((part_kept_iff ints range few (by omega) fewer lt).mp (ended.kept not_fails_ok)
      terminals).2
  · intro fits
    have same := processes_eq reduce ints some fits.range ⟨by omega, fits.product⟩ forked
    refine ⟨_, same, partition, fun pos p mem => ?_⟩
    obtain ⟨⟨nonempty, low⟩, wide⟩ := inside mem
    rw [creates p (room_nonneg nonempty nonneg)]
    refine created_le_room ints nonempty low pos nonneg ?_ (by have := fits.range; omega)
    rw [parts, if_neg (by omega)] at mem
    obtain ⟨l, within, rfl⟩ := List.mem_map.mp mem
    have lt : (l : Int) < reduce (forks c nprocs) := Int.lt_toNat.mp (List.mem_range.mp within)
    exact (part_kept_iff ints fits.range few (by omega) fewer lt).mpr fun terminals =>
      ⟨pos, fits.walks pos terminals l lt⟩

/-- Each process of `driver2` and of `driver3` has warehouses of its own, together they have the
range, and no process starts more terminals than it made room for, exactly if nothing overflows. -/
theorem warehouses_partitioned_iff (c : DriverSettings) (nprocs : Int) (ints : IntSettings c)
    (product : 1 ≤ nprocs * c.forkPerProcessor) (nonneg : 0 ≤ c.terminalsPerWarehouse) :
    (Partitioned c (Driver2.processes cInt c nprocs) (Driver2.startProcess cInt c) ↔
      Fits c nprocs (forks c nprocs)) ∧
    (Partitioned c (Driver3.processes cInt c nprocs) (Driver3.startProcess cInt c) ↔
      Fits c nprocs (Driver3.limitForks c (forks c nprocs))) := by
  constructor
  · exact partitioned_iff ints product nonneg (fun _ many => ⟨many, le_rfl⟩) fun _ _ => rfl
  · exact partitioned_iff ints product nonneg (Driver3.limitForks_bounds c) fun _ space =>
      funext fun _ => if_neg (not_lt.mpr space)

/-- Seven warehouses on two processors, in two processes by the limit of `driver3`. -/
theorem warehouses_partitioned_iff_seven :
    (IntSettings ⟨1, 7, 1, 10, 2, 2⟩ ∧ (1 : Int) ≤ 2 * 2 ∧ (0 : Int) ≤ 10) ∧
      (∃ ps, Driver2.processes cInt ⟨1, 7, 1, 10, 2, 2⟩ 2 = .ok ps ∧ Partitions ps 1 7) ∧
      ∃ ps, Driver3.processes cInt ⟨1, 7, 1, 10, 2, 2⟩ 2 = .ok ps ∧ Partitions ps 1 7 := by
  have ints : IntSettings ⟨1, 7, 1, 10, 2, 2⟩ := by constructor <;> decide
  have fits (m : Int) (few : m = 2 ∨ m = 4) : Fits ⟨1, 7, 1, 10, 2, 2⟩ 2 m := by
    refine ⟨by decide, by decide, fun _ _ l lt => ?_⟩
    have lt4 : l < 4 := by omega
    obtain rfl | rfl := few
    · interval_cases l <;> constructor <;> decide
    · interval_cases l <;> constructor <;> decide
  obtain ⟨two, three⟩ := warehouses_partitioned_iff ⟨1, 7, 1, 10, 2, 2⟩ 2 ints (by decide)
    (by decide)
  obtain ⟨ps, computed, partition, -⟩ := two.mpr (fits _ (.inr rfl))
  obtain ⟨ps', computed', partition', -⟩ := three.mpr (fits _ (.inl rfl))
  exact ⟨⟨ints, by decide⟩, ⟨ps, computed, partition⟩, ps', computed', partition'⟩

/-- With two processors the product overflows, and no part is computed. -/
theorem warehouses_not_partitioned : ¬ ∀ (c : DriverSettings) (nprocs : Int), IntSettings c →
    1 ≤ nprocs * c.forkPerProcessor → 0 ≤ c.terminalsPerWarehouse →
      Partitioned c (Driver2.processes cInt c nprocs) (Driver2.startProcess cInt c) ∧
      Partitioned c (Driver3.processes cInt c nprocs) (Driver3.startProcess cInt c) := by
  intro always
  have ints : IntSettings ⟨1, 7, 1, 10, 0, 2 ^ 31 - 1⟩ := by constructor <;> decide
  obtain ⟨⟨ps, computed, -⟩, -⟩ :=
    always ⟨1, 7, 1, 10, 0, 2 ^ 31 - 1⟩ 2 ints (by decide) (by decide)
  obtain ⟨-, fits, -⟩ := bounded_of_processes ints computed
  exact absurd fits.2 (by decide)

end Forks

end Dbt2
