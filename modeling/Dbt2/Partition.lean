import Dbt2.Datagen

/-!
# The partition law

The parts of a table, generated separately and put together, are the table generated at once.
Each generator skips what its rounds draw: `generate_partition` needs no more than that, and the
lemmas before the main theorem count the draws of each kind of row.
-/

namespace Dbt2

open Draws

/-! ## Draws per row -/

namespace Datagen

theorem customerLast_takes (k : Int) :
    Takes pcg64fStepR (if k < 1000 then 0 else 2) (customerLast k) := by
  unfold customerLast
  split
  · exact Takes.pure _
  · exact (getNurand_takes 255 0 999).map getCLast

theorem customerRow_takes (i j k : Int) :
    Takes pcg64fStepR (if k < 1000 then 10 else 12) (customerRow i j k) := by
  refine Takes.cast ((getString_takes _ 8 16).bind fun _ => (customerLast_takes k).bind fun _ =>
    (getString_takes _ 10 20).bind fun _ => (getString_takes _ 10 20).bind fun _ =>
    (getString_takes _ 10 20).bind fun _ => (getString_takes _ 2 2).bind fun _ =>
    (getString_takes _ 4 4).bind fun _ => (getString_takes _ 16 16).bind fun _ =>
    getPercentage_takes.bind fun _ => (getRandom_takes 5001).bind fun _ =>
    (getString_takes _ 300 500).map _) ?_
  split <;> rfl

theorem districtRow_takes (i j : Int) : Takes pcg64fStepR 7 (districtRow i j) :=
  (getString_takes _ 6 10).bind fun _ => (getString_takes _ 10 20).bind fun _ =>
    (getString_takes _ 10 20).bind fun _ => (getString_takes _ 10 20).bind fun _ =>
    (getString_takes _ 2 2).bind fun _ => (getString_takes _ 4 4).bind fun _ =>
    (getRandom_takes 2001).map _

theorem warehouseRow_takes (i : Int) : Takes pcg64fStepR 7 (warehouseRow i) :=
  (getString_takes _ 6 10).bind fun _ => (getString_takes _ 10 20).bind fun _ =>
    (getString_takes _ 10 20).bind fun _ => (getString_takes _ 10 20).bind fun _ =>
    (getString_takes _ 2 2).bind fun _ => (getString_takes _ 4 4).bind fun _ =>
    (getRandom_takes 2001).map _

theorem historyRow_takes (i j k : Int) : Takes pcg64fStepR 1 (historyRow i j k) :=
  (getString_takes _ 12 24).map _

/-- Whether or not the word is placed, only the seed of its generator is drawn. -/
theorem originalData_takes : Takes pcg64fStepR 2 originalData := by
  refine (getString_takes _ 26 50).bind fun data => pcg64fRandomR_takes.bind fun seed =>
    Returns.aside (getPercentage_takes.returns.bind fun percentage => ?_) _
  split
  · exact (getRandom_takes _).returns.bind fun j => Returns.pure _
  · exact Returns.pure data

theorem itemRow_takes (i : Int) : Takes pcg64fStepR 5 (itemRow i) :=
  (getRandom_takes 10000).bind fun _ => (getString_takes _ 14 24).bind fun _ =>
    (getRandom_takes 9901).bind fun _ => originalData_takes.map _

theorem stockRow_takes (i j : Int) : Takes pcg64fStepR 13 (stockRow i j) :=
  (getRandom_takes 91).bind fun _ => (getString_takes _ 24 24).bind fun _ =>
    (getString_takes _ 24 24).bind fun _ => (getString_takes _ 24 24).bind fun _ =>
    (getString_takes _ 24 24).bind fun _ => (getString_takes _ 24 24).bind fun _ =>
    (getString_takes _ 24 24).bind fun _ => (getString_takes _ 24 24).bind fun _ =>
    (getString_takes _ 24 24).bind fun _ => (getString_takes _ 24 24).bind fun _ =>
    (getString_takes _ 24 24).bind fun _ => originalData_takes.map _

theorem lineAmount_returns (k : Int) : Returns (lineAmount k) := by
  unfold lineAmount
  split
  · exact Returns.pure 0
  · exact ((getRandom_takes 999999).map _).returns

theorem orderLineRow_returns (items i j k l : Int) : Returns (orderLineRow items i j k l) :=
  (getRandom_takes items).returns.bind fun _ => (lineAmount_returns k).bind fun _ =>
    (getString_takes _ 24 24).returns.bind fun _ => Returns.pure _

theorem carrier_takes (k : Int) : Takes pcg64fStepR (if k < 2101 then 1 else 0) (carrier k) := by
  unfold carrier
  split
  · exact (getRandom_takes 10).map _
  · exact Takes.pure none

/-- The lines, few or many, draw from the order's own generator. -/
theorem orderRow_takes (items i j k cId : Int) :
    Takes pcg64fStepR (if k < 2101 then 2 else 1) (orderRow items i j k cId) := by
  refine Takes.cast ((carrier_takes k).bind fun carrierId => pcg64fRandomR_takes.bind fun seed =>
    Returns.aside ((getRandom_takes 11).returns.bind fun r => (forRange_returns (fun l =>
      (orderLineRow_returns items i j k l).bind fun line => Returns.pure [line]) 0 (r + 5)).bind
      fun lines => Returns.pure _) _) ?_
  split <;> rfl

theorem insertAt_length {α : Type} (value : α) (iter : Nat) (list : List α) :
    (insertAt value iter list).length = list.length + 1 := by
  unfold insertAt
  split
  · rfl
  · simp only [List.length_append, List.length_take, List.length_cons, List.length_drop]
    omega

theorem permutation_takes (n : Nat) : ∀ s, ∃ list : List Int,
    permutation n s = some (list, pcg64fStepR^[n] s) ∧ list.length = n + 1 := by
  induction n with
  | zero => exact fun s => ⟨[1], rfl, rfl⟩
  | succ n ih =>
    intro s
    obtain ⟨list, drawn, length⟩ := ih s
    obtain ⟨iter, inserted⟩ := getRandom_takes (n + 2) (pcg64fStepR^[n] s)
    refine ⟨insertAt (n + 2 : Int) iter.toNat list, ?_, by rw [insertAt_length, length]⟩
    rw [permutation, bind_apply drawn, bind_apply inserted, ← Function.iterate_add_apply,
      Nat.add_comm]
    rfl

/-! ## Draws per round -/

section

variable (d : Datagen)

theorem customers_takes (i : Int) (nonneg : 0 ≤ d.customers) :
    Takes pcg64fStepR (10 * (min d.customers.toNat 1000 * 10 + (d.customers.toNat - 1000) * 12))
      (forDistricts (fun i j => forRange 0 d.customers fun k => do
        let row ← customerRow i j k
        pure [row]) i) := by
  have count : d.customers = (d.customers.toNat : Int) := by omega
  refine forRange_takes 0 10 fun j _ _ => ?_
  rw [count]
  exact forRange_takes_from _ 1000 fun k _ _ => (customerRow_takes i j k).map _

theorem history_takes (i : Int) :
    Takes pcg64fStepR (10 * d.customers.toNat)
      (forDistricts (fun i j => forRange 0 d.customers fun k => do
        let row ← historyRow i j k
        pure [row]) i) := by
  refine forRange_takes 0 10 fun j _ _ => Takes.cast (forRange_takes 0 d.customers fun k _ _ =>
    (historyRow_takes i j k).map _) ?_
  rw [mul_one, sub_zero]

theorem stock_takes (i : Int) :
    Takes pcg64fStepR (d.items.toNat * 13)
      (forRange 0 d.items fun j => do
        let row ← stockRow i j
        pure [row]) := by
  refine Takes.cast (forRange_takes 0 d.items fun j _ _ => (stockRow_takes i j).map _) ?_
  rw [sub_zero]

theorem nextOrder_takes (items i j k : Int) {list : List Int} (listed : k.toNat < list.length) :
    Takes pcg64fStepR (if k < 2101 then 2 else 1) (nextOrder items i j list k) := by
  rw [nextOrder, List.getElem?_eq_getElem listed]
  exact (orderRow_takes items i j k _).map _

/-- While the list lasts, a district draws once for each insertion, once for each order and once
for each carrier. -/
theorem districtOrders_takes (i j : Int) (enough : d.orders ≤ max d.customers 1) :
    Takes pcg64fStepR ((d.customers - 1).toNat +
      (min d.orders.toNat 2101 * 2 + (d.orders.toNat - 2101) * 1)) (d.districtOrders i j) := by
  intro s
  obtain ⟨list, drawn, length⟩ := permutation_takes (d.customers - 1).toNat s
  have rounds : Takes pcg64fStepR (min d.orders.toNat 2101 * 2 + (d.orders.toNat - 2101) * 1)
      (forRange 0 d.orders.toNat (nextOrder d.items i j list)) :=
    forRange_takes_from _ 2101 fun k _ _ => nextOrder_takes d.items i j k (by omega)
  have count : forRange 0 d.orders.toNat (nextOrder d.items i j list) =
      forRange 0 d.orders (nextOrder d.items i j list) := by
    simp only [forRange, sub_zero, Int.toNat_natCast]
  rw [count] at rounds
  obtain ⟨rows, emitted⟩ := rounds (pcg64fStepR^[(d.customers - 1).toNat] s)
  refine ⟨rows, ?_⟩
  rw [districtOrders, bind_apply drawn, emitted, ← Function.iterate_add_apply, Nat.add_comm]

/-! ## Bounds of the parts -/

theorem round_mono : Monotone round := by
  intro p q le
  unfold round
  split <;> split
  · exact Int.floor_mono (by linarith)
  · linarith
  · exact Int.ceil_le.mpr (by have := Int.floor_nonneg.mpr (show 0 ≤ q + 1 / 2 by linarith)
                              have : (0 : ℚ) ≤ (⌊q + 1 / 2⌋ : Int) := by exact_mod_cast this
                              linarith)
  · exact Int.ceil_mono (by linarith)

/-- The run for part `p + 1` of `P`. -/
def withPart (p P : Nat) : Datagen := { d with part := p + 1, partitions := P }

/-- Where part `p + 1` of `P` starts, and the part before it ends. -/
def bound (n : Int) (P p : Nat) : Int := round ((n : ℚ) / P * p)

theorem bound_mono {n : Int} (nonneg : 0 ≤ n) (P : Nat) : Monotone (bound n P) := by
  intro p q le
  have ratio : (0 : ℚ) ≤ n / P := by positivity
  exact round_mono (mul_le_mul_of_nonneg_left (by exact_mod_cast le) ratio)

theorem bound_anti {n : Int} (neg : n ≤ 0) (P : Nat) : Antitone (bound n P) := by
  intro p q le
  have ratio : (n : ℚ) / P ≤ 0 :=
    div_nonpos_of_nonpos_of_nonneg (by exact_mod_cast neg) (Nat.cast_nonneg P)
  exact round_mono (mul_le_mul_of_nonpos_left (by exact_mod_cast le) ratio)

theorem bound_first (n : Int) (P : Nat) : bound n P 0 = 0 := by
  rw [bound, Nat.cast_zero, mul_zero]
  exact round_intCast 0

theorem bound_last (n : Int) {P : Nat} (parts : 1 ≤ P) : bound n P P = n := by
  have nonzero : (P : ℚ) ≠ 0 := by positivity
  rw [bound, div_mul_cancel₀ _ nonzero, round_intCast]

theorem start_withPart (n : Int) (p P : Nat) : (d.withPart p P).start n = bound n P p := by
  simp [start, withPart, bound]

theorem stop_withPart {n : Int} {p P : Nat} (nonneg : 0 ≤ n) (part : p < P) :
    (d.withPart p P).stop n = bound n P (p + 1) := by
  have below : bound n P (p + 1) ≤ n :=
    (bound_mono nonneg P part).trans_eq (bound_last n (by omega))
  simpa [stop, withPart, bound] using below

end

/-! ## Parts of a table -/

/-- The parts `1, …, P` put together are the whole table, which does not make the run exit. -/
def Partitions {α : Type} (gen : Datagen → Option (List α)) (d : Datagen) (P : Nat) : Prop :=
  ∃ rows, gen (d.withPart 0 1) = some rows ∧ joinParts (fun p => gen (d.withPart p P)) P = some rows

section

variable (d : Datagen) {α : Type} {n : Int} {skip : BitVec 128 → BitVec 128}
  {body : Int → Gen (List α)} {P : Nat}

/-- A part runs its rounds from the state `c` draws a round further on. -/
theorem generate_withPart {c p : Nat} (nonneg : 0 ≤ n) (part : p < P)
    (skips : ∀ s : Nat, skip (BitVec.ofNat 128 s) = BitVec.ofNat 128 (s * c)) :
    (d.withPart p P).generate n skip body =
      output (forRange (bound n P p) (bound n P (p + 1)) body)
        (pcg64fStepR^[(bound n P p - bound n P 0).toNat * c] (pcg64fSrandomR d.seed)) := by
  have first := bound_first n P
  have above : bound n P 0 ≤ bound n P p := bound_mono nonneg P (Nat.zero_le p)
  have start : BitVec.ofInt 128 (bound n P p) = BitVec.ofNat 128 (bound n P p).toNat := by
    conv_lhs => rw [show bound n P p = ((bound n P p).toNat : Int) by omega]
    exact BitVec.ofInt_natCast _ _
  rw [generate, d.start_withPart, d.stop_withPart nonneg part, start, skips,
    pcg64fAdvanceR_ofNat, first, sub_zero]
  by_cases later : 0 < p
  · have advanced : 1 < (d.withPart p P).part := by simp only [withPart]; omega
    rw [if_pos advanced]
    rfl
  · have fresh : ¬ 1 < (d.withPart p P).part := by simp only [withPart]; omega
    obtain rfl : p = 0 := by omega
    rw [if_neg fresh, first]
    simp [withPart]

/-- A single run generates all rounds. -/
theorem generate_whole : (d.withPart 0 1).generate n skip body =
    output (forRange 0 n body) (pcg64fSrandomR d.seed) := by
  have start : (d.withPart 0 1).start n = 0 := by rw [d.start_withPart, bound_first]
  have stop : (d.withPart 0 1).stop n = n := by
    have last := bound_last n le_rfl
    simp only [bound, Nat.cast_one, div_one, mul_one] at last
    simp [Datagen.stop, withPart, last]
  have fresh : ¬ 1 < (d.withPart 0 1).part := by simp only [withPart]; omega
  rw [generate, start, stop, if_neg fresh]
  rfl

theorem generate_partitions {c : Nat} (nonneg : 0 ≤ n) (parts : 1 ≤ P)
    (skips : ∀ s : Nat, skip (BitVec.ofNat 128 s) = BitVec.ofNat 128 (s * c))
    (takes : ∀ j, 0 ≤ j → Takes pcg64fStepR c (body j)) :
    ∃ rows, (d.withPart 0 1).generate n skip body = some rows ∧
      joinParts (fun p => (d.withPart p P).generate n skip body) P = some rows := by
  obtain ⟨rows, whole⟩ := forRange_takes 0 n (fun j low _ => takes j low)
    (pcg64fSrandomR d.seed)
  have emitted : output (forRange 0 n body) (pcg64fSrandomR d.seed) = some rows := by
    rw [output, whole]
    rfl
  refine ⟨rows, ?_, ?_⟩
  · rw [generate_whole, emitted]
  · rw [joinParts_congr P fun p part => d.generate_withPart nonneg part skips,
      joinParts_takes (bound_mono nonneg P) (fun j low => takes j (bound_first n P ▸ low)),
      bound_first, bound_last n parts, emitted]

/-- A table without rows is cut into parts without rows, wherever the generator was moved to. -/
theorem silent_partitions (silent : ∀ j, Silent (body j)) :
    ∃ rows, (d.withPart 0 1).generate n skip body = some rows ∧
      joinParts (fun p => (d.withPart p P).generate n skip body) P = some rows :=
  ⟨[], (forRange_silent silent _ _).output _,
    joinParts_nil P fun _ _ => (forRange_silent silent _ _).output _⟩

theorem negative_partitions (neg : n ≤ 0) :
    ∃ rows, (d.withPart 0 1).generate n skip body = some rows ∧
      joinParts (fun p => (d.withPart p P).generate n skip body) P = some rows := by
  have none (p Q : Nat) : (d.withPart p Q).generate n skip body = some [] := by
    have down : bound n Q (p + 1) ≤ bound n Q p := bound_anti neg Q (Nat.le_succ p)
    have ends : (d.withPart p Q).stop n ≤ (d.withPart p Q).start n := by
      rw [d.start_withPart]
      refine le_trans (min_le_left _ _) ?_
      simpa [withPart, bound] using down
    rw [generate, forRange_empty ends]
    rfl
  exact ⟨[], none 0 1, joinParts_nil P fun p _ => none p P⟩

end

/-! ## The tables -/

section

variable (d : Datagen) {P : Nat}

theorem skip_districts (s : Nat) {e : Int} {c : Nat} (size : e = c) :
    BitVec.ofNat 128 s * BitVec.ofInt 128 DISTRICT_CARDINALITY * BitVec.ofInt 128 e =
      BitVec.ofNat 128 (s * (10 * c)) := by
  rw [size, BitVec.ofInt_natCast, ← mul_assoc, BitVec.ofNat_mul, BitVec.ofNat_mul]
  rfl

theorem genWarehouses_partitions (some : 1 ≤ d.warehouses) (parts : 1 ≤ P) :
    Partitions genWarehouses d P :=
  generate_partitions d (n := d.warehouses) (c := 7) (by omega) parts
    (fun s => (BitVec.ofNat_mul s 7).symm) fun i _ => (warehouseRow_takes i).map _

theorem genDistricts_partitions (some : 1 ≤ d.warehouses) (parts : 1 ≤ P) :
    Partitions genDistricts d P :=
  generate_partitions d (n := d.warehouses) (c := 10 * 7) (by omega) parts
    (fun s => skip_districts s (e := 7) (c := 7) rfl)
    fun i _ => forRange_takes 0 10 fun j _ _ => (districtRow_takes i j).map _

theorem genNewOrders_partitions (some : 1 ≤ d.warehouses) (parts : 1 ≤ P) :
    Partitions genNewOrders d P :=
  generate_partitions d (n := d.warehouses) (c := 0) (by omega) parts (fun _ => rfl)
    fun i _ => (forRange_takes (c := 0) 0 10 fun j _ _ => (forRange_takes (c := 0) _ _
      fun k _ _ => Takes.pure _).cast (Nat.mul_zero _)).cast (Nat.mul_zero _)

theorem genItems_partitions (parts : 1 ≤ P) : Partitions genItems d P := by
  obtain neg | nonneg := le_total d.items 0
  · exact negative_partitions d neg
  · exact generate_partitions d (c := 5) nonneg parts (fun s => (BitVec.ofNat_mul s 5).symm)
      fun i _ => (itemRow_takes i).map _

theorem genCustomers_partitions (some : 1 ≤ d.warehouses) (parts : 1 ≤ P) :
    Partitions genCustomers d P := by
  obtain neg | nonneg := le_total d.customers 0
  · exact silent_partitions d fun i => forRange_silent
      (fun j => forRange_silent_of_le neg _) _ _
  · refine generate_partitions d (by show 0 ≤ d.warehouses; omega) parts
      (fun s => skip_districts s ?_) fun i _ => d.customers_takes i nonneg
    show d.customers * 10 + (if 1000 < d.customers then 2 * (d.customers - 1000) else 0) = _
    split <;> omega

theorem genHistory_partitions (some : 1 ≤ d.warehouses) (parts : 1 ≤ P) :
    Partitions genHistory d P := by
  obtain neg | nonneg := le_total d.customers 0
  · exact silent_partitions d fun i => forRange_silent
      (fun j => forRange_silent_of_le neg _) _ _
  · exact generate_partitions d (by show 0 ≤ d.warehouses; omega) parts
      (fun s => skip_districts s (Int.toNat_of_nonneg nonneg).symm) fun i _ => d.history_takes i

theorem genStock_partitions (some : 1 ≤ d.warehouses) (parts : 1 ≤ P) :
    Partitions genStock d P := by
  obtain neg | nonneg := le_total d.items 0
  · exact silent_partitions d fun i => forRange_silent_of_le neg _
  · refine generate_partitions d (by show 0 ≤ d.warehouses; omega) parts (fun s => ?_)
      fun i _ => d.stock_takes i
    have size : BitVec.ofInt 128 d.items = BitVec.ofNat 128 d.items.toNat := by
      conv_lhs => rw [← Int.toNat_of_nonneg nonneg]
      exact BitVec.ofInt_natCast _ _
    show BitVec.ofNat 128 s * BitVec.ofInt 128 d.items * 13 = _
    rw [size, ← mul_assoc, BitVec.ofNat_mul, BitVec.ofNat_mul]
    rfl

/-- Without orders only the lists of customers are drawn, and nothing depends on them. -/
theorem districtOrders_silent (none : d.orders ≤ 0) (i j : Int) : Silent (d.districtOrders i j) := by
  intro s
  obtain ⟨list, drawn, -⟩ := permutation_takes (d.customers - 1).toNat s
  refine ⟨pcg64fStepR^[(d.customers - 1).toNat] s, ?_⟩
  rw [districtOrders, bind_apply drawn, forRange_empty none]
  rfl

theorem genOrders_partitions (some : 1 ≤ d.warehouses) (enough : d.orders ≤ d.customers)
    (parts : 1 ≤ P) : Partitions genOrders d P := by
  by_cases none : d.orders ≤ 0
  · exact silent_partitions d fun i => forRange_silent (d.districtOrders_silent none i) _ _
  · refine generate_partitions d (by show 0 ≤ d.warehouses; omega) parts
      (fun s => skip_districts s ?_) fun i _ => forRange_takes 0 10 fun j _ _ =>
        d.districtOrders_takes i j (by omega)
    show d.customers - 1 + (if d.orders < 2101 then d.orders else 2101) + d.orders = _
    split <;> omega

/-- The law carries over to a file that holds some columns of each row. -/
theorem Partitions.map {α β : Type} {gen : Datagen → Option (List α)} {d : Datagen} {P : Nat}
    (h : Partitions gen d P) {f : List α → List β} (nil : f [] = [])
    (append : ∀ a b, f (a ++ b) = f a ++ f b) : Partitions (fun d => (gen d).map f) d P := by
  obtain ⟨rows, whole, parts⟩ := h
  refine ⟨f rows, congrArg (Option.map f) whole, ?_⟩
  rw [joinParts_map nil append, parts]
  rfl

/-- Every table, cut into any number of parts, is the table generated at once. -/
theorem partition_law (some : 1 ≤ d.warehouses) (enough : d.orders ≤ d.customers)
    (parts : 1 ≤ P) :
    Partitions genWarehouses d P ∧ Partitions genDistricts d P ∧ Partitions genCustomers d P ∧
      Partitions genHistory d P ∧ Partitions genItems d P ∧ Partitions genStock d P ∧
      Partitions orderData d P ∧ Partitions orderLineData d P ∧ Partitions genNewOrders d P := by
  have orders := d.genOrders_partitions some enough parts
  exact ⟨d.genWarehouses_partitions some parts, d.genDistricts_partitions some parts,
    d.genCustomers_partitions some parts, d.genHistory_partitions some parts,
    d.genItems_partitions parts, d.genStock_partitions some parts,
    orders.map rfl fun _ _ => List.map_append, orders.map rfl fun _ _ => List.flatMap_append,
    d.genNewOrders_partitions some parts⟩

theorem partition_law_default :
    (1 : Int) ≤ 5 ∧ (3000 : Int) ≤ 3000 ∧ 1 ≤ 3 ∧
      Partitions orderLineData { warehouses := 5, seed := 1 } 3 :=
  ⟨by decide, by decide, by decide,
    (partition_law { warehouses := 5, seed := 1 } (by decide) (by decide)
      (by decide : 1 ≤ 3)).2.2.2.2.2.2.2.1⟩

end

end Datagen

end Dbt2
