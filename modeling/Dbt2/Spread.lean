import Dbt2.Startup

/-!
# The terminals of the three drivers

`driver.c` steps through the whole range of warehouses, the processes of the other drivers each
step through their own part. The terminals are the same where the start-ups are kept and every part
starts on a step of the range.
-/

namespace Dbt2

open Stepping Fallible

/-- The terminals, by warehouse and district, for which a driver starts a thread. -/
def Driver1.started (c : DriverSettings) : Set (Int × Int) :=
  {t | ∃ r, Ends (Driver1.startDriver cInt c) (.ok r) ∧ (t.1, t.2 - 1) ∈ r.created}

def Driver2.started (c : DriverSettings) (nprocs : Int) : Set (Int × Int) :=
  {t | ∃ ps, Driver2.processes cInt c nprocs = .ok ps ∧
    ∃ p ∈ ps, ∃ s, Ends (Driver2.startProcess cInt c p) (.ok s) ∧ t ∈ s.rte}

def Driver3.started (c : DriverSettings) (nprocs : Int) : Set (Int × Int) :=
  {t | ∃ ps, Driver3.processes cInt c nprocs = .ok ps ∧
    ∃ p ∈ ps, ∃ s, Ends (Driver3.startProcess cInt c p) (.ok s) ∧ t ∈ s.rte}

/-- The terminals of the warehouses that steps of `spread` from `lo` meet. -/
def stepped (c : DriverSettings) (lo hi : Int) : Set (Int × Int) :=
  {t | ((lo ≤ t.1 ∧ t.1 ≤ hi) ∧ c.spread ∣ t.1 - lo) ∧ 1 ≤ t.2 ∧ t.2 ≤ c.terminalsPerWarehouse}

section

variable {c : DriverSettings} {nprocs : Int} {p : Part}

/-! ## What is started -/

theorem mem_created_iff (le : c.wIdMin ≤ c.wIdMax) (pos : 1 ≤ c.spread)
    (unlimited : c.terminalsLimit = 0) (some : 1 ≤ c.terminalsPerWarehouse) (t : Int × Int) :
    (t.1, t.2 - 1) ∈ (Driver1.threads c (steps c.wIdMin c.wIdMax c.spread)).created ↔
      t ∈ stepped c c.wIdMin c.wIdMax := by
  have all (n : Nat) : Driver1.quota c n = n := if_pos unlimited
  have range := exists_step_iff le pos t.1
  rw [Driver1.threads, all, mem_grid_iff (steps_pos le pos)]
  simp only [Driver1.row]
  have districts : 0 ≤ t.2 - 1 ∧ t.2 - 1 < (c.terminalsPerWarehouse.toNat : Int) ↔
      1 ≤ t.2 ∧ t.2 ≤ c.terminalsPerWarehouse := by omega
  rw [range, districts]
  exact Iff.rfl

theorem mem_rte_iff (le : p.mymin ≤ p.mymax) (pos : 1 ≤ c.spread)
    (some : 1 ≤ c.terminalsPerWarehouse) (t : Int × Int) :
    t ∈ (Forks.terminalsAfter c p (steps p.mymin p.mymax c.spread) (Forks.size c p)).rte ↔
      t ∈ stepped c p.mymin p.mymax := by
  have range := exists_step_iff le pos t.1
  have shifted : t ∈ (Forks.terminalsAfter c p (steps p.mymin p.mymax c.spread)
      (Forks.size c p)).rte ↔ (t.1, t.2 - 1) ∈ grid (fun k => p.mymin + k * c.spread)
        (steps p.mymin p.mymax c.spread) (Forks.size c p) := by
    constructor
    · intro mem
      obtain ⟨u, inside, rfl⟩ := List.mem_map.mp mem
      rw [Int.add_sub_cancel]
      exact inside
    · intro mem
      exact List.mem_map.mpr ⟨_, mem, by rw [Int.sub_add_cancel]⟩
  rw [shifted, Forks.size, mem_grid_iff (steps_pos le pos), range]
  have districts : 0 ≤ t.2 - 1 ∧ t.2 - 1 < (c.terminalsPerWarehouse.toNat : Int) ↔
      1 ≤ t.2 ∧ t.2 ≤ c.terminalsPerWarehouse := by omega
  rw [districts]
  exact Iff.rfl

/-- What `driver` starts when it gets through its loops. -/
theorem started1_eq {r : Driver1.Threads} (ended : Ends (Driver1.startDriver cInt c) (.ok r)) :
    Driver1.started c = {t | (t.1, t.2 - 1) ∈ r.created} := by
  ext t
  constructor
  · rintro ⟨r', ended', mem⟩
    obtain rfl := Except.ok.inj (ended'.unique ended)
    exact mem
  · exact fun mem => ⟨r, ended, mem⟩

theorem started1_halted {halt : Halt Int}
    (ended : Ends (Driver1.startDriver cInt c) (.error halt)) : Driver1.started c = ∅ := by
  rw [Set.eq_empty_iff_forall_notMem]
  rintro t ⟨r, ended', -⟩
  cases ended'.unique ended

/-- With a first warehouse that indexes `g_tid`, `driver` starts the steps of the range. -/
theorem started1_stepped (accepted : Accepted c) (bounded : Driver1.Bounded c)
    (low : 0 ≤ c.wIdMin) (pos : 1 ≤ c.spread) (unlimited : c.terminalsLimit = 0)
    (some : 1 ≤ c.terminalsPerWarehouse) :
    Driver1.started c = stepped c c.wIdMin c.wIdMax := by
  have le := accepted.le
  obtain ⟨fits, neg | ⟨-, none | reaches⟩⟩ := bounded
  · omega
  · omega
  · cases reaches with
    | forward _ stays counted =>
      rw [started1_eq (Driver1.ends_forward accepted fits low (by omega) pos stays counted)]
      ext t
      exact mem_created_iff le pos unlimited some t
    | backward neg => omega

/-- A negative first warehouse is no index into `g_tid`, so a start-up that is kept has a negative
bound and returns. -/
theorem started1_negative (accepted : Accepted c) (bounded : Driver1.Bounded c)
    (neg : c.wIdMin < 0) : Driver1.started c = ∅ := by
  obtain ⟨fits, size | ⟨low, -⟩⟩ := bounded
  · have ended : Ends (Driver1.startDriver cInt c) (.error (.returned ERROR)) := by
      unfold Driver1.startDriver
      rw [Driver1.bound_ok accepted fits]
      change Ends (fun fuel => if c.wIdMax + 1 < 0 then _ else _) _
      simp only [if_pos size]
      exact .const _
    exact started1_halted ended
  · omega

/-- What a run of `driver` has created when it ends well. -/
theorem ran_cases {fuel : Nat} {r : Driver1.Threads}
    (ran : Driver1.startDriver cInt c fuel = .ok r) :
    ∃ slots allocation created,
      Driver1.eachTerminal cInt c (Driver1.createThread cInt c slots allocation) fuel =
        .ok created ∧
      r.created = created.positions := by
  obtain ⟨slots, -, rest⟩ := bind_eq_ok.mp ran
  split at rest
  · cases rest
  · obtain ⟨allocation, -, rest⟩ := bind_eq_ok.mp rest
    obtain ⟨created, visited, rest⟩ := bind_eq_ok.mp rest
    obtain ⟨joined, -, last⟩ := bind_eq_ok.mp rest
    obtain rfl := Except.ok.inj last
    exact ⟨slots, allocation.rows, created, visited, rfl⟩

/-- Without terminals per warehouse nothing is created, however the run ends. -/
theorem started1_none (none : c.terminalsPerWarehouse ≤ 0) : Driver1.started c = ∅ := by
  rw [Set.eq_empty_iff_forall_notMem]
  rintro t ⟨r, ⟨n, enough⟩, mem⟩
  obtain ⟨slots, allocation, created, visited, same⟩ := ran_cases (enough (n + 1) (Nat.le_succ n))
  have nothing : Driver1.eachTerminal cInt c (Driver1.createThread cInt c slots allocation)
      (n + 1) = .ok { count := 1, positions := [] } := by
    rw [Driver1.eachTerminal, sweep, forLoop, if_neg (by omega)]
  obtain rfl := Except.ok.inj (nothing.symm.trans visited)
  rw [same] at mem
  exact List.not_mem_nil mem

/-- What the processes of a list of parts start. -/
theorem started_parts (start : Part → Nat → Except (Halt Int) Forks.Terminals) {ps : List Part}
    (ints : IntSettings c) (partition : Forks.Partitions ps c.wIdMin c.wIdMax)
    (range : Forks.number c < 2 ^ 31) (pos : 1 ≤ c.spread) (some : 1 ≤ c.terminalsPerWarehouse)
    (kept : ∀ p ∈ ps, Kept (start p))
    (creates : ∀ p, 0 ≤ Forks.room c p → start p = Forks.createTerminals cInt c p) :
    {t | ∃ p ∈ ps, ∃ s, Ends (start p) (.ok s) ∧ t ∈ s.rte} =
      {t | ∃ p ∈ ps, t ∈ stepped c p.mymin p.mymax} := by
  have first := ints.first
  ext t
  apply exists_congr
  intro p
  apply and_congr_right
  intro mem
  have le := partition.nonempty p mem
  have low := (partition.covers p.mymin).mp ⟨p, mem, le_rfl, le⟩
  have high := (partition.covers p.mymax).mp ⟨p, mem, le, le_rfl⟩
  rw [Set.mem_Icc] at low high
  have whole : Forks.number c = c.wIdMax - c.wIdMin + 1 := rfl
  have creates := creates p (Forks.room_nonneg le (by omega))
  have walk := ((Forks.kept_iff ints le (by omega) (by omega)).mp (creates ▸ kept p mem)
    (by omega)).2
  have ended := Forks.ends_of_walk ints le (by omega) (by omega) pos walk
  rw [creates]
  constructor
  · rintro ⟨s, ended', inside⟩
    obtain rfl := Except.ok.inj (ended'.unique ended)
    exact (mem_rte_iff le pos some t).mp inside
  · exact fun inside => ⟨_, ended, (mem_rte_iff le pos some t).mpr inside⟩

theorem started_parts_none (start : Part → Nat → Except (Halt Int) Forks.Terminals)
    {ps : List Part} (none : c.terminalsPerWarehouse ≤ 0)
    (creates : ∀ p fuel s, start p fuel = .ok s → Forks.createTerminals cInt c p fuel = .ok s) :
    {t | ∃ p ∈ ps, ∃ s, Ends (start p) (.ok s) ∧ t ∈ s.rte} = ∅ := by
  rw [Set.eq_empty_iff_forall_notMem]
  rintro t ⟨p, -, s, ⟨n, enough⟩, mem⟩
  have created := creates p (n + 1) s (enough (n + 1) (Nat.le_succ n))
  rw [Forks.createTerminals, sweep, forLoop, if_neg (by omega)] at created
  obtain rfl := Except.ok.inj created
  exact List.not_mem_nil mem

theorem startProcess3_eq {fuel : Nat} {s : Forks.Terminals}
    (started : Driver3.startProcess cInt c p fuel = .ok s) :
    Forks.createTerminals cInt c p fuel = .ok s := by
  unfold Driver3.startProcess at started
  split at started
  · cases started
  · exact started

/-! ## Parts that start on a step -/

/-- The warehouses before each part are a multiple of the spread. -/
def Aligned (c : DriverSettings) (nprocs : Int) : Prop :=
  ∀ l : Nat, l < Forks.forks c nprocs →
    c.spread ∣ l * Forks.number c / Forks.forks c nprocs

/-- The parts, without a limit on processes. -/
def ranges (c : DriverSettings) (nprocs : Int) : List Part :=
  Forks.parts c (Forks.number c / Forks.forks c nprocs) (Forks.forks c nprocs)

theorem ranges_partition (le : c.wIdMin ≤ c.wIdMax) (product : 1 ≤ nprocs * c.forkPerProcessor) :
    Forks.Partitions (ranges c nprocs) c.wIdMin c.wIdMax := by
  obtain ⟨some, many⟩ := Forks.forks_bounds le product
  have whole : Forks.number c = c.wIdMax - c.wIdMin + 1 := rfl
  exact Forks.parts_partition whole many (by omega) le_rfl

theorem mymin_part (le : c.wIdMin ≤ c.wIdMax) (product : 1 ≤ nprocs * c.forkPerProcessor) {l : Nat}
    (lt : l < Forks.forks c nprocs) :
    (Forks.part c (Forks.number c / Forks.forks c nprocs) (Forks.forks c nprocs) l).mymin =
      c.wIdMin + l * Forks.number c / Forks.forks c nprocs := by
  obtain ⟨some, many⟩ := Forks.forks_bounds le product
  have whole : Forks.number c = c.wIdMax - c.wIdMin + 1 := rfl
  rw [Forks.part_eq whole many (by omega) le_rfl lt, Forks.boundary, if_pos lt]
  rfl

theorem mem_parts_iff (le : c.wIdMin ≤ c.wIdMax) (product : 1 ≤ nprocs * c.forkPerProcessor) :
    p ∈ ranges c nprocs ↔
      ∃ l : Nat, l < Forks.forks c nprocs ∧
        Forks.part c (Forks.number c / Forks.forks c nprocs) (Forks.forks c nprocs) l = p := by
  have some := (Forks.forks_bounds le product).1
  rw [ranges, Forks.parts, if_neg (by omega)]
  simp only [List.mem_map, List.mem_range, Int.lt_toNat]

theorem stepped_eq_iff (le : c.wIdMin ≤ c.wIdMax)
    (some : 1 ≤ c.terminalsPerWarehouse) (product : 1 ≤ nprocs * c.forkPerProcessor) :
    stepped c c.wIdMin c.wIdMax = {t | ∃ p ∈ ranges c nprocs, t ∈ stepped c p.mymin p.mymax} ↔
      Aligned c nprocs := by
  have partition := ranges_partition le product
  constructor
  · intro same l lt
    -- The first warehouse of a part is started there, so it must be a step of the range.
    obtain ⟨p, eq⟩ : ∃ p, p = Forks.part c (Forks.number c / Forks.forks c nprocs)
        (Forks.forks c nprocs) l := ⟨_, rfl⟩
    have mem : p ∈ ranges c nprocs := by
      rw [mem_parts_iff le product]
      exact ⟨l, lt, eq.symm⟩
    have here : (p.mymin, (1 : Int)) ∈ stepped c p.mymin p.mymax :=
      ⟨⟨⟨le_rfl, partition.nonempty p mem⟩, by simp⟩, le_rfl, some⟩
    have there : (p.mymin, (1 : Int)) ∈ stepped c c.wIdMin c.wIdMax := by
      rw [same]
      exact ⟨p, mem, here⟩
    have divides := there.1.2
    rw [eq] at divides
    simpa [mymin_part le product lt] using divides
  · intro aligned
    have offset (p : Part) (mem : p ∈ ranges c nprocs) : c.spread ∣ p.mymin - c.wIdMin := by
      rw [mem_parts_iff le product] at mem
      obtain ⟨l, lt, rfl⟩ := mem
      rw [mymin_part le product lt, add_sub_cancel_left]
      exact aligned l lt
    ext t
    constructor
    · rintro ⟨⟨inside, divides⟩, district⟩
      obtain ⟨p, mem, within⟩ := (partition.covers t.1).mpr inside
      refine ⟨p, mem, ⟨within, ?_⟩, district⟩
      have := dvd_sub divides (offset p mem)
      rwa [sub_sub_sub_cancel_right] at this
    · rintro ⟨p, mem, ⟨within, divides⟩, district⟩
      refine ⟨⟨(partition.covers t.1).mp ⟨p, mem, within⟩, ?_⟩, district⟩
      have := dvd_add divides (offset p mem)
      rwa [sub_add_sub_cancel] at this

/-- What the processes of computed parts start. -/
theorem started2_eq {ps : List Part} (computed : Driver2.processes cInt c nprocs = .ok ps) :
    Driver2.started c nprocs =
      {t | ∃ p ∈ ps, ∃ s, Ends (Driver2.startProcess cInt c p) (.ok s) ∧ t ∈ s.rte} := by
  ext t
  constructor
  · rintro ⟨ps', computed', rest⟩
    obtain rfl := Except.ok.inj (computed'.symm.trans computed)
    exact rest
  · exact fun rest => ⟨ps, computed, rest⟩

theorem started3_eq {ps : List Part} (computed : Driver3.processes cInt c nprocs = .ok ps) :
    Driver3.started c nprocs =
      {t | ∃ p ∈ ps, ∃ s, Ends (Driver3.startProcess cInt c p) (.ok s) ∧ t ∈ s.rte} := by
  ext t
  constructor
  · rintro ⟨ps', computed', rest⟩
    obtain rfl := Except.ok.inj (computed'.symm.trans computed)
    exact rest
  · exact fun rest => ⟨ps, computed, rest⟩

end

/-- The three start-ups are kept, and start the same terminals. -/
structure TerminalsAgree (c : DriverSettings) (nprocs : Int) : Prop where
  kept1 : Kept (Driver1.startDriver cInt c)
  kept2 : ∃ ps, Driver2.processes cInt c nprocs = .ok ps ∧
    ∀ p ∈ ps, Kept (Driver2.startProcess cInt c p)
  kept3 : ∃ ps, Driver3.processes cInt c nprocs = .ok ps ∧
    ∀ p ∈ ps, Kept (Driver3.startProcess cInt c p)
  same2 : Driver1.started c = Driver2.started c nprocs
  same3 : Driver1.started c = Driver3.started c nprocs

section

variable {c : DriverSettings} {nprocs : Int}

/-- With terminals per warehouse, kept start-ups start the steps of their ranges. -/
theorem started_of_kept (accepted : Accepted c) (product : 1 ≤ nprocs * c.forkPerProcessor)
    (unlimited : c.terminalsLimit = 0) (some : 1 ≤ c.terminalsPerWarehouse)
    (bounded : Forks.Bounded c nprocs (Forks.forks c nprocs))
    (kept2 : ∃ ps, Driver2.processes cInt c nprocs = .ok ps ∧
      ∀ p ∈ ps, Kept (Driver2.startProcess cInt c p))
    (kept3 : ∃ ps, Driver3.processes cInt c nprocs = .ok ps ∧
      ∀ p ∈ ps, Kept (Driver3.startProcess cInt c p)) :
    Driver2.started c nprocs = {t | ∃ p ∈ ranges c nprocs, t ∈ stepped c p.mymin p.mymax} ∧
    Driver3.started c nprocs = {t | ∃ p ∈ ranges c nprocs, t ∈ stepped c p.mymin p.mymax} := by
  have pos := (bounded.terminals (by omega)).1
  have partition := ranges_partition accepted.le product
  have processors : nprocs ≠ 0 := by
    rintro rfl
    omega
  have computed (reduce : Int → Int) := Forks.processes_eq reduce accepted.toIntSettings processors
    bounded.range bounded.product bounded.forked
  have same : Driver3.limitForks c (Forks.forks c nprocs) = Forks.forks c nprocs := by
    rw [Driver3.limitForks, unlimited, if_neg (by omega)]
  obtain ⟨ps, computed2, kept2⟩ := kept2
  obtain ⟨ps', computed3, kept3⟩ := kept3
  obtain rfl : ps = ranges c nprocs := Except.ok.inj (computed2.symm.trans (computed id))
  obtain rfl : ps' = ranges c nprocs := by
    have := computed (Driver3.limitForks c)
    rw [same] at this
    exact Except.ok.inj (computed3.symm.trans this)
  constructor
  · rw [started2_eq computed2]
    exact started_parts (Driver2.startProcess cInt c) accepted.toIntSettings partition
      bounded.range pos some kept2 fun _ _ => rfl
  · rw [started3_eq computed3]
    exact started_parts (Driver3.startProcess cInt c) accepted.toIntSettings partition
      bounded.range pos some kept3 fun p space => funext fun _ => if_neg (not_lt.mpr space)

theorem started_none (none : c.terminalsPerWarehouse ≤ 0)
    (kept2 : ∃ ps, Driver2.processes cInt c nprocs = .ok ps ∧
      ∀ p ∈ ps, Kept (Driver2.startProcess cInt c p))
    (kept3 : ∃ ps, Driver3.processes cInt c nprocs = .ok ps ∧
      ∀ p ∈ ps, Kept (Driver3.startProcess cInt c p)) :
    Driver2.started c nprocs = ∅ ∧ Driver3.started c nprocs = ∅ := by
  obtain ⟨ps, computed2, -⟩ := kept2
  obtain ⟨ps', computed3, -⟩ := kept3
  rw [started2_eq computed2, started3_eq computed3]
  exact ⟨started_parts_none _ none fun _ _ _ started => started,
    started_parts_none _ none fun _ _ _ => startProcess3_eq⟩

end

end Dbt2
