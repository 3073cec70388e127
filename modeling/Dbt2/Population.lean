import Dbt2.Consistency
import Dbt2.Partition

/-!
# The generated population

What a single run writes, and when it is consistent. Delivery state and totals depend on the
literals 2101, 3001 and 30000.00, so they agree with the configured cardinalities only where these
meet the literals: `deliveryConsistent_iff` and `numericConsistent_iff` say exactly where.
-/

namespace Dbt2

open Draws

namespace Datagen

/-! ## Rows -/

structure GeneratedLine (i j k : Int) (l : OrderLine) : Prop where
  order : l.olOId = k + 1
  district : l.olDId = j + 1
  warehouse : l.olWId = i + 1
  delivery : l.olDeliveryD = none ↔ 2101 ≤ k
  delivered : k < 2101 → l.olAmount = 0
  undelivered : 2101 ≤ k → 0 < l.olAmount

structure GeneratedOrder (i j k : Int) (p : Order × List OrderLine) : Prop where
  order : p.1.oId = k + 1
  district : p.1.oDId = j + 1
  warehouse : p.1.oWId = i + 1
  carrier : p.1.oCarrierId = none ↔ 2101 ≤ k
  count : p.1.oOlCnt = p.2.length
  nonempty : p.2 ≠ []
  lines : ∀ l ∈ p.2, GeneratedLine i j k l

theorem lineAmount_emits (k : Int) :
    Emits (lineAmount k) fun a => (k < 2101 → a = 0) ∧ (2101 ≤ k → 0 < a) := by
  unfold lineAmount
  split
  · exact Emits.pure ⟨fun _ => rfl, fun h => by omega⟩
  · refine (getRandom_emits (by norm_num)).bind fun a bounds => Emits.pure ⟨fun h => by omega,
      fun _ => ?_⟩
    have nonneg : (0 : ℚ) ≤ a := by exact_mod_cast bounds.1
    positivity

theorem orderLineRow_emits (items i j k l : Int) :
    Emits (orderLineRow items i j k l) (GeneratedLine i j k) := by
  refine (Emits.trivial _).bind fun iId _ => (lineAmount_emits k).bind fun amount h =>
    (Emits.trivial _).bind fun distInfo _ => Emits.pure ⟨rfl, rfl, rfl, ?_, h.1, h.2⟩
  by_cases early : k < 2101 <;> simp [early]
  omega

theorem carrier_emits (k : Int) : Emits (carrier k) fun c => c = none ↔ 2101 ≤ k := by
  unfold carrier
  split
  · refine (Emits.trivial _).bind fun c _ => Emits.pure ?_
    simpa
  · exact Emits.pure ⟨fun _ => by omega, fun _ => rfl⟩

theorem orderRow_emits (items i j k cId : Int) :
    Emits (orderRow items i j k cId) (GeneratedOrder i j k) := by
  refine (carrier_emits k).bind fun carrierId hc => (Emits.trivial _).bind fun seed _ =>
    Emits.aside ((getRandom_emits (by norm_num)).bind fun r bounds => ?_) _
  refine (forRange_emits_map fun l _ _ => (orderLineRow_emits items i j k l).bind fun line hl =>
    Emits.pure ⟨line, rfl, hl⟩).bind ?_
  rintro lines ⟨row, rows, rfl⟩
  have size : ((Int.range 0 (r + 5)).map row).length = (r + 5).toNat := by
    rw [List.length_map, length_range, sub_zero]
  refine Emits.pure {
    order := rfl
    district := rfl
    warehouse := rfl
    carrier := hc
    count := by simp only [size]; omega
    nonempty := List.ne_nil_of_length_pos (size ▸ by omega)
    lines := fun l mem => ?_ }
  obtain ⟨n, range, rfl⟩ := List.mem_map.mp mem
  exact rows n (Int.mem_range_iff.mp range).1 (Int.mem_range_iff.mp range).2

theorem nextOrder_emits (items i j k : Int) (list : List Int) :
    Emits (nextOrder items i j list k) fun out =>
      ∃ p, out = [p] ∧ k.toNat < list.length ∧ GeneratedOrder i j k p := by
  unfold nextOrder
  split
  · exact Emits.failure
  · rename_i cId listed
    exact (orderRow_emits items i j k cId).bind fun p hp =>
      Emits.pure ⟨p, rfl, (List.getElem?_eq_some_iff.mp listed).1, hp⟩

theorem permutation_emits (n : Nat) :
    Emits (permutation n) fun list => list.length = n + 1 := by
  intro s list t returned
  obtain ⟨list', drawn, length⟩ := permutation_takes n s
  obtain ⟨rfl, -⟩ : list' = list ∧ _ = t := by simpa using drawn.symm.trans returned
  exact length

theorem historyRow_emits (i j k : Int) : Emits (historyRow i j k) fun h =>
    h.hWId = i + 1 ∧ h.hDId = j + 1 ∧ h.hAmount = 10 :=
  (Emits.trivial _).bind fun _ _ => Emits.pure ⟨rfl, rfl, rfl⟩

structure GeneratedDistrict (i j : Int) (x : District) : Prop where
  warehouse : x.dWId = i + 1
  district : x.dId = j + 1
  ytd : x.dYtd = 30000
  nextOrder : x.dNextOId = 3001

theorem districtRow_emits (i j : Int) : Emits (districtRow i j) (GeneratedDistrict i j) :=
  (Emits.trivial _).bind fun _ _ => (Emits.trivial _).bind fun _ _ =>
    (Emits.trivial _).bind fun _ _ => (Emits.trivial _).bind fun _ _ =>
    (Emits.trivial _).bind fun _ _ => (Emits.trivial _).bind fun _ _ =>
    (Emits.trivial _).bind fun _ _ => Emits.pure ⟨rfl, rfl, rfl, rfl⟩

theorem warehouseRow_emits (i : Int) : Emits (warehouseRow i) fun w =>
    w.wId = i + 1 ∧ w.wYtd = 300000 :=
  (Emits.trivial _).bind fun _ _ => (Emits.trivial _).bind fun _ _ =>
    (Emits.trivial _).bind fun _ _ => (Emits.trivial _).bind fun _ _ =>
    (Emits.trivial _).bind fun _ _ => (Emits.trivial _).bind fun _ _ =>
    (Emits.trivial _).bind fun _ _ => Emits.pure ⟨rfl, rfl⟩

/-! ## Tables -/

section

variable (d : Datagen)

theorem districtOrders_emits (i j : Int) :
    Emits (d.districtOrders i j) fun out => ∃ row : Int → Order × List OrderLine,
      (∀ k, 0 ≤ k → k < d.orders → k < max d.customers 1 ∧ GeneratedOrder i j k (row k)) ∧
        out = (Int.range 0 d.orders).map row := by
  refine (permutation_emits _).bind fun list length => (forRange_emits_map fun k _ _ =>
    nextOrder_emits d.items i j k list).mono ?_
  rintro out ⟨row, rows, rfl⟩
  refine ⟨row, fun k low high => ⟨?_, (rows k low high).2⟩, rfl⟩
  have listed := (rows k low high).1
  omega

theorem genOrders_rows {out : List (Order × List OrderLine)}
    (generated : (d.withPart 0 1).genOrders = some out) :
    ∃ row : Int → Int → Int → Order × List OrderLine,
      (∀ i j k, 0 ≤ i → i < d.warehouses → 0 ≤ j → j < 10 → 0 ≤ k → k < d.orders →
        k < max d.customers 1 ∧ GeneratedOrder i j k (row i j k)) ∧
      out = grid d.warehouses 10 0 d.orders row := by
  have emits : Emits (forRange 0 d.warehouses (forDistricts d.districtOrders)) _ :=
    forRange_emits_grid (R := fun i j k p => k < max d.customers 1 ∧ GeneratedOrder i j k p)
      d.districtOrders_emits
  rw [genOrders, generate_whole] at generated
  exact emits.output generated

theorem genNewOrders_rows {out : List NewOrder}
    (generated : (d.withPart 0 1).genNewOrders = some out) :
    out = grid d.warehouses 10 (d.orders - d.newOrders) d.orders
      fun i j k => { noOId := k + 1, noDId := j + 1, noWId := i + 1 } := by
  have emits : Emits (forRange 0 d.warehouses (forDistricts fun i j =>
      forRange (d.orders - d.newOrders) d.orders fun k =>
        pure [({ noOId := k + 1, noDId := j + 1, noWId := i + 1 } : NewOrder)])) _ :=
    forRange_emits_grid fun i j => forRange_emits_map fun k _ _ => Emits.pure ⟨_, rfl, rfl⟩
  rw [genNewOrders, generate_whole] at generated
  obtain ⟨row, rows, rfl⟩ := emits.output generated
  exact grid_congr fun i j k li ui lj uj lk uk => (rows i j k li ui lj uj lk uk).symm

theorem genHistory_rows {out : List History}
    (generated : (d.withPart 0 1).genHistory = some out) :
    ∃ row : Int → Int → Int → History,
      (∀ i j k, 0 ≤ i → i < d.warehouses → 0 ≤ j → j < 10 → 0 ≤ k → k < d.customers →
        (row i j k).hWId = i + 1 ∧ (row i j k).hDId = j + 1 ∧ (row i j k).hAmount = 10) ∧
      out = grid d.warehouses 10 0 d.customers row := by
  have emits : Emits (forRange 0 d.warehouses (forDistricts fun i j =>
      forRange 0 d.customers fun k => do
        let row ← historyRow i j k
        pure [row])) _ :=
    forRange_emits_grid fun i j => forRange_emits_map fun k _ _ =>
      (historyRow_emits i j k).bind fun row h => Emits.pure ⟨row, rfl, h⟩
  rw [genHistory, generate_whole] at generated
  exact emits.output generated

theorem genDistricts_rows {out : List District}
    (generated : (d.withPart 0 1).genDistricts = some out) :
    ∃ row : Int → Int → District,
      (∀ i j, 0 ≤ i → i < d.warehouses → 0 ≤ j → j < 10 → GeneratedDistrict i j (row i j)) ∧
      out = (Int.range 0 d.warehouses).flatMap fun i => (Int.range 0 10).map (row i) := by
  have emits : Emits (forRange 0 d.warehouses (forDistricts fun i j => do
        let row ← districtRow i j
        pure [row])) _ :=
    forRange_emits fun i _ _ => forRange_emits_map fun j _ _ =>
      (districtRow_emits i j).bind fun row h => Emits.pure ⟨row, rfl, h⟩
  rw [genDistricts, generate_whole] at generated
  obtain ⟨f, outer, rfl⟩ := emits.output generated
  choose! row rows shape using outer
  refine ⟨row, fun i j li ui => rows i li ui j, List.flatMap_congr fun i range => ?_⟩
  exact shape i (Int.mem_range_iff.mp range).1 (Int.mem_range_iff.mp range).2

theorem genWarehouses_rows {out : List Warehouse}
    (generated : (d.withPart 0 1).genWarehouses = some out) :
    ∃ row : Int → Warehouse,
      (∀ i, 0 ≤ i → i < d.warehouses → (row i).wId = i + 1 ∧ (row i).wYtd = 300000) ∧
      out = (Int.range 0 d.warehouses).map row := by
  have emits : Emits (forRange 0 d.warehouses fun i => do
        let row ← warehouseRow i
        pure [row]) _ :=
    forRange_emits_map fun i _ _ => (warehouseRow_emits i).bind fun row h => Emits.pure ⟨row, rfl, h⟩
  rw [genWarehouses, generate_whole] at generated
  exact emits.output generated

end

/-! ## The population as a whole -/

/-- The rows of the tables that the consistency conditions tie together. -/
structure Rows (d : Datagen) (db : Database) where
  order : Int → Int → Int → Order × List OrderLine
  history : Int → Int → Int → History
  district : Int → Int → District
  warehouse : Int → Warehouse
  generatedOrder : ∀ i j k, 0 ≤ i → i < d.warehouses → 0 ≤ j → j < 10 → 0 ≤ k → k < d.orders →
    k < max d.customers 1 ∧ GeneratedOrder i j k (order i j k)
  generatedHistory : ∀ i j k, 0 ≤ i → i < d.warehouses → 0 ≤ j → j < 10 → 0 ≤ k →
    k < d.customers → (history i j k).hWId = i + 1 ∧ (history i j k).hDId = j + 1 ∧
      (history i j k).hAmount = 10
  generatedDistrict : ∀ i j, 0 ≤ i → i < d.warehouses → 0 ≤ j → j < 10 →
    GeneratedDistrict i j (district i j)
  generatedWarehouse : ∀ i, 0 ≤ i → i < d.warehouses →
    (warehouse i).wId = i + 1 ∧ (warehouse i).wYtd = 300000
  orders : db.orders = (grid d.warehouses 10 0 d.orders order).map Prod.fst
  orderLines : db.orderLine = (grid d.warehouses 10 0 d.orders order).flatMap Prod.snd
  newOrders : db.newOrder = grid d.warehouses 10 (d.orders - d.newOrders) d.orders
    fun i j k => { noOId := k + 1, noDId := j + 1, noWId := i + 1 }
  histories : db.history = grid d.warehouses 10 0 d.customers history
  districts : db.district =
    (Int.range 0 d.warehouses).flatMap fun i => (Int.range 0 10).map (district i)
  warehouses : db.warehouse = (Int.range 0 d.warehouses).map warehouse

section

variable {d : Datagen} {db : Database}

theorem genTables_rows (generated : (d.withPart 0 1).genTables = some db) :
    Nonempty (Rows d db) := by
  simp only [genTables, Option.bind_eq_bind, Option.bind_eq_some_iff, Option.pure_def,
    Option.some.injEq] at generated
  obtain ⟨item, -, warehouse, hw, stock, -, district, hd, customer, -, history, hh, orders, ho,
    newOrder, hn, rfl⟩ := generated
  obtain ⟨order, generatedOrder, rfl⟩ := d.genOrders_rows ho
  obtain ⟨historyRow, generatedHistory, rfl⟩ := d.genHistory_rows hh
  obtain ⟨districtRow, generatedDistrict, rfl⟩ := d.genDistricts_rows hd
  obtain ⟨warehouseRow, generatedWarehouse, rfl⟩ := d.genWarehouses_rows hw
  exact ⟨{
    order, history := historyRow, district := districtRow, warehouse := warehouseRow
    generatedOrder, generatedHistory, generatedDistrict, generatedWarehouse
    orders := rfl
    orderLines := rfl
    newOrders := d.genNewOrders_rows hn
    histories := rfl
    districts := rfl
    warehouses := rfl }⟩

theorem genTables_returns (some : 1 ≤ d.warehouses) (enough : d.orders ≤ max d.customers 1) :
    ∃ db, (d.withPart 0 1).genTables = Option.some db := by
  obtain ⟨item, hi, -⟩ := d.genItems_partitions le_rfl
  obtain ⟨warehouse, hw, -⟩ := d.genWarehouses_partitions some le_rfl
  obtain ⟨stock, hs, -⟩ := d.genStock_partitions some le_rfl
  obtain ⟨district, hd, -⟩ := d.genDistricts_partitions some le_rfl
  obtain ⟨customer, hc, -⟩ := d.genCustomers_partitions some le_rfl
  obtain ⟨history, hh, -⟩ := d.genHistory_partitions some le_rfl
  obtain ⟨newOrder, hn, -⟩ := d.genNewOrders_partitions some le_rfl
  have returns : Returns (forRange 0 d.warehouses (forDistricts d.districtOrders)) :=
    forRange_returns (fun i => forRange_returns (fun j =>
      (d.districtOrders_takes i j enough).returns) _ _) _ _
  obtain ⟨⟨orders, t⟩, ran⟩ := returns (pcg64fSrandomR d.seed)
  have ho : (d.withPart 0 1).genOrders = Option.some orders := by
    rw [genOrders, generate_whole]
    exact congrArg (Option.map Prod.fst) ran
  exact ⟨_, by simp only [genTables, hi, hw, hs, hd, hc, hh, hn, ho]; rfl⟩

/-- A run with more orders than a district's list holds does not finish. -/
theorem genTables_enough (generated : (d.withPart 0 1).genTables = some db)
    (some : 1 ≤ d.warehouses) : d.orders ≤ max d.customers 1 := by
  obtain ⟨r⟩ := genTables_rows generated
  by_contra short
  have beyond := r.generatedOrder 0 0 (d.orders - 1) le_rfl (by omega) le_rfl (by norm_num)
    (by omega) (by omega)
  omega

/-! ## What the files hold -/

theorem ordersWritten_whole : (d.withPart 0 1).ordersWritten =
    (Writing.forRange 0 d.warehouses
      (fun i => .forRange 0 DISTRICT_CARDINALITY fun j => d.districtOrdersWritten i j)
      (pcg64fSrandomR d.seed)).1 := by
  have start : (d.withPart 0 1).start d.warehouses = 0 := by rw [d.start_withPart, bound_first]
  have stop : (d.withPart 0 1).stop d.warehouses = d.warehouses := by
    have last := bound_last d.warehouses le_rfl
    simp only [bound, Nat.cast_one, div_one, mul_one] at last
    simp [Datagen.stop, withPart, last]
  have fresh : ¬ 1 < (d.withPart 0 1).part := by simp only [withPart]; omega
  have same : (d.withPart 0 1).warehouses = d.warehouses := rfl
  rw [ordersWritten, same, start, stop, if_neg fresh]
  rfl

theorem districtOrders_writes (i j : Int) :
    Writing.Writes (d.districtOrdersWritten i j) (d.districtOrders i j) :=
  .after fun _ => .forRange (fun _ => Writing.once_writes _) _ _

/-- A run that returns has written what it is for. -/
theorem ordersWritten_eq {out : List (Order × List OrderLine)}
    (generated : (d.withPart 0 1).genOrders = some out) : (d.withPart 0 1).ordersWritten = out := by
  rw [genOrders, generate_whole] at generated
  obtain ⟨⟨rows, t⟩, ran, rfl⟩ := Option.map_eq_some_iff.mp generated
  have written := Writing.Writes.forRange
    (fun i => Writing.Writes.forRange (fun j => d.districtOrders_writes i j) 0 DISTRICT_CARDINALITY)
    0 d.warehouses _ _ _ ran
  rw [ordersWritten_whole, written]

/-- A run that exits has done so in the first district. -/
theorem ordersWritten_short (some : 1 ≤ d.warehouses) (short : max d.customers 1 < d.orders) :
    ∀ p ∈ (d.withPart 0 1).ordersWritten, p.1.oDId = 1 := by
  have exits (i j : Int) (s : Pcg64f) : (d.districtOrdersWritten i j s).2 = none := by
    obtain ⟨list, drawn, length⟩ := permutation_takes (d.customers - 1).toNat s
    simp only [districtOrdersWritten, Writing.after, drawn]
    refine Writing.forRange_none (k := max d.customers 1) (by omega) short (fun t => ?_) _
    have beyond : list[(max d.customers 1).toNat]? = none := List.getElem?_eq_none (by omega)
    simp only [Writing.once, nextOrder, beyond]
    rfl
  have district (s : Pcg64f) : ∀ p ∈ (d.districtOrdersWritten 0 0 s).1, p.1.oDId = 1 := by
    obtain ⟨list, drawn, -⟩ := permutation_takes (d.customers - 1).toNat s
    simp only [districtOrdersWritten, Writing.after, drawn]
    refine Writing.forRange_forall (fun k => Writing.once_forall ?_) _ _ _
    refine (nextOrder_emits d.items 0 0 k list).mono ?_
    rintro out ⟨p, rfl, -, row⟩ q mem
    rw [List.mem_singleton.mp mem]
    exact row.district
  have first (s : Pcg64f) := Writing.forRange_first (show (0 : Int) < DISTRICT_CARDINALITY by
    decide) (exits 0 0 s)
  rw [ordersWritten_whole, Writing.forRange_first (by omega) (by rw [first]), first]
  exact district _

theorem genFiles_eq (generated : (d.withPart 0 1).genTables = some db) (separately : Bool) :
    (d.withPart 0 1).genFiles separately = Option.some db := by
  simp only [genTables, Option.bind_eq_bind, Option.bind_eq_some_iff, Option.pure_def,
    Option.some.injEq] at generated
  obtain ⟨item, hi, warehouse, hw, stock, hs, district, hd, customer, hc, history, hh, orders, ho,
    newOrder, hn, rfl⟩ := generated
  simp only [genFiles, hi, hw, hs, hd, hc, hh, hn, ho, ordersWritten_eq ho, Option.isSome_some,
    Bool.true_or, if_true]
  rfl

/-- A run that exits leaves the second district without orders. -/
theorem genFiles_short (some : 1 ≤ d.warehouses) (short : max d.customers 1 < d.orders)
    {separately : Bool} (generated : (d.withPart 0 1).genFiles separately = Option.some db) :
    ¬ NumericConsistent db := by
  simp only [genFiles, Option.bind_eq_bind, Option.bind_eq_some_iff, Option.pure_def,
    Option.some.injEq] at generated
  obtain ⟨item, -, warehouse, hw, stock, -, district, hd, customer, -, history, -, newOrder, -,
    rfl⟩ := generated
  obtain ⟨districtRow, generatedDistrict, rfl⟩ := d.genDistricts_rows hd
  obtain ⟨warehouseRow, generatedWarehouse, rfl⟩ := d.genWarehouses_rows hw
  intro consistent
  have row := generatedDistrict 0 1 le_rfl (by omega) (by omega) (by omega)
  have there : warehouseRow 0 ∈ (Int.range 0 d.warehouses).map warehouseRow :=
    List.mem_map_of_mem (Int.mem_range_iff.mpr ⟨le_rfl, by omega⟩)
  have wId := (generatedWarehouse 0 le_rfl (by omega)).1
  have second : districtRow 0 1 ∈
      (Int.range 0 d.warehouses).flatMap fun i => (Int.range 0 10).map (districtRow i) :=
    List.mem_flatMap.mpr ⟨0, Int.mem_range_iff.mpr ⟨le_rfl, by omega⟩,
      List.mem_map_of_mem (Int.mem_range_iff.mpr ⟨by omega, by omega⟩)⟩
  have numbers := consistent.district _ there (districtRow 0 1)
    (List.mem_filter.mpr ⟨second, decide_eq_true (row.warehouse.trans wId.symm)⟩)
  obtain ⟨o, mem, -⟩ := numbers.nextOrder.1
  obtain ⟨mem, address⟩ := List.mem_filter.mp mem
  obtain ⟨p, written, rfl⟩ := List.mem_map.mp mem
  have here := ordersWritten_short some short p written
  have there : p.1.oDId = (districtRow 0 1).dId := (of_decide_eq_true address).2
  rw [row.district] at there
  omega

theorem genFiles_returns (some : 1 ≤ d.warehouses) (separately : Bool) :
    ∃ db, (d.withPart 0 1).genFiles separately = Option.some db := by
  obtain ⟨item, hi, -⟩ := d.genItems_partitions le_rfl
  obtain ⟨warehouse, hw, -⟩ := d.genWarehouses_partitions some le_rfl
  obtain ⟨stock, hs, -⟩ := d.genStock_partitions some le_rfl
  obtain ⟨district, hd, -⟩ := d.genDistricts_partitions some le_rfl
  obtain ⟨customer, hc, -⟩ := d.genCustomers_partitions some le_rfl
  obtain ⟨history, hh, -⟩ := d.genHistory_partitions some le_rfl
  obtain ⟨newOrder, hn, -⟩ := d.genNewOrders_partitions some le_rfl
  exact ⟨_, by simp only [genFiles, hi, hw, hs, hd, hc, hh, hn]; rfl⟩

/-- Without warehouses there is nothing to be consistent. -/
theorem genFiles_none (none : d.warehouses ≤ 0) {separately : Bool}
    (generated : (d.withPart 0 1).genFiles separately = Option.some db) :
    NumericConsistent db := by
  simp only [genFiles, Option.bind_eq_bind, Option.bind_eq_some_iff, Option.pure_def,
    Option.some.injEq] at generated
  obtain ⟨item, -, warehouse, hw, stock, -, district, -, customer, -, history, -, newOrder, -,
    rfl⟩ := generated
  obtain ⟨warehouseRow, -, rfl⟩ := d.genWarehouses_rows hw
  have empty (w : Warehouse) (mem : w ∈ (Int.range 0 d.warehouses).map warehouseRow) : False := by
    obtain ⟨i, range, -⟩ := List.mem_map.mp mem
    have := Int.mem_range_iff.mp range
    omega
  exact ⟨fun w mem => (empty w mem).elim, fun w mem => (empty w mem).elim⟩

end

namespace Rows

variable {d : Datagen} {db : Database} {i j k : Int}

theorem ordersOf (r : Rows d db) (hi : 0 ≤ i ∧ i < d.warehouses) (hj : 0 ≤ j ∧ j < 10) :
    db.ordersOf (i + 1) (j + 1) = (Int.range 0 d.orders).map fun k => (r.order i j k).1 := by
  rw [Database.ordersOf, r.orders, List.filter_map, filter_grid hi hj, List.map_map]
  · rfl
  · intro i' j' k li ui lj uj lk uk
    have row := (r.generatedOrder i' j' k li ui lj uj lk uk).2
    simp [row.warehouse, row.district]

theorem newOrdersOf (r : Rows d db) (hi : 0 ≤ i ∧ i < d.warehouses) (hj : 0 ≤ j ∧ j < 10) :
    db.newOrdersOf (i + 1) (j + 1) = (Int.range (d.orders - d.newOrders) d.orders).map fun k =>
      { noOId := k + 1, noDId := j + 1, noWId := i + 1 } := by
  rw [Database.newOrdersOf, r.newOrders, filter_grid hi hj]
  simp

theorem orderLinesOf (r : Rows d db) (hi : 0 ≤ i ∧ i < d.warehouses) (hj : 0 ≤ j ∧ j < 10) :
    db.orderLinesOf (i + 1) (j + 1) =
      (Int.range 0 d.orders).flatMap fun k => (r.order i j k).2 := by
  have rounds : ∀ p ∈ grid d.warehouses 10 0 d.orders r.order, ∀ l ∈ p.2,
      decide (l.olWId = i + 1 ∧ l.olDId = j + 1) =
        decide (p.1.oWId = i + 1 ∧ p.1.oDId = j + 1) := by
    intro p hp l hl
    obtain ⟨i', j', k, li, ui, lj, uj, lk, uk, rfl⟩ := mem_grid.mp hp
    have row := (r.generatedOrder i' j' k li ui lj uj lk uk).2
    have line := row.lines l hl
    simp only [row.warehouse, row.district, line.warehouse, line.district]
  rw [Database.orderLinesOf, r.orderLines, filter_flatMap_of_rounds rounds, filter_grid hi hj,
    List.flatMap_map]
  intro i' j' k li ui lj uj lk uk
  have row := (r.generatedOrder i' j' k li ui lj uj lk uk).2
  simp [row.warehouse, row.district]

theorem historyOf (r : Rows d db) (hi : 0 ≤ i ∧ i < d.warehouses) (hj : 0 ≤ j ∧ j < 10) :
    db.historyOf (i + 1) (j + 1) = (Int.range 0 d.customers).map (r.history i j) := by
  rw [Database.historyOf, r.histories, filter_grid hi hj]
  intro i' j' k li ui lj uj lk uk
  obtain ⟨warehouse, district, -⟩ := r.generatedHistory i' j' k li ui lj uj lk uk
  simp [warehouse, district]

theorem districtsOf (r : Rows d db) (hi : 0 ≤ i ∧ i < d.warehouses) :
    db.districtsOf (i + 1) = (Int.range 0 10).map (r.district i) := by
  rw [Database.districtsOf, r.districts,
    filter_flatMap_single (nodup_range _ _) (Int.mem_range_iff.mpr hi)]
  · refine List.filter_eq_self.mpr fun x hx => ?_
    obtain ⟨j, range, rfl⟩ := List.mem_map.mp hx
    have bounds := Int.mem_range_iff.mp range
    simpa using (r.generatedDistrict i j hi.1 hi.2 bounds.1 bounds.2).warehouse
  · intro i' range other
    refine List.filter_eq_nil_iff.mpr fun x hx => ?_
    obtain ⟨j, range', rfl⟩ := List.mem_map.mp hx
    have bounds := Int.mem_range_iff.mp range
    have bounds' := Int.mem_range_iff.mp range'
    have row := r.generatedDistrict i' j bounds.1 bounds.2 bounds'.1 bounds'.2
    simpa [row.warehouse] using other

theorem orderIds (r : Rows d db) (hi : 0 ≤ i ∧ i < d.warehouses) (hj : 0 ≤ j ∧ j < 10) :
    db.orderIds (i + 1) (j + 1) = Set.Icc 1 d.orders := by
  ext o
  simp only [Database.orderIds, r.ordersOf hi hj, Set.mem_ofPred_eq, Set.mem_Icc]
  constructor
  · rintro ⟨x, mem, rfl⟩
    obtain ⟨k, range, rfl⟩ := List.mem_map.mp mem
    obtain ⟨low, high⟩ := Int.mem_range_iff.mp range
    have row := (r.generatedOrder i j k hi.1 hi.2 hj.1 hj.2 low high).2
    have id := row.order
    omega
  · rintro ⟨low, high⟩
    have row := (r.generatedOrder i j (o - 1) hi.1 hi.2 hj.1 hj.2 (by omega) (by omega)).2
    refine ⟨_, List.mem_map.mpr ⟨o - 1, Int.mem_range_iff.mpr ⟨by omega, by omega⟩, rfl⟩, ?_⟩
    rw [row.order]
    omega

theorem newOrderIds (r : Rows d db) (hi : 0 ≤ i ∧ i < d.warehouses) (hj : 0 ≤ j ∧ j < 10) :
    db.newOrderIds (i + 1) (j + 1) = Set.Icc (d.orders - d.newOrders + 1) d.orders := by
  ext o
  simp only [Database.newOrderIds, r.newOrdersOf hi hj, Set.mem_ofPred_eq, Set.mem_Icc]
  constructor
  · rintro ⟨x, mem, rfl⟩
    obtain ⟨k, range, rfl⟩ := List.mem_map.mp mem
    obtain ⟨low, high⟩ := Int.mem_range_iff.mp range
    simp only
    omega
  · rintro ⟨low, high⟩
    exact ⟨_, List.mem_map.mpr ⟨o - 1, Int.mem_range_iff.mpr ⟨by omega, by omega⟩, rfl⟩,
      by simp only; omega⟩

/-- The lines found under an order's key are the ones generated with it. -/
theorem linesOf (r : Rows d db) (hi : 0 ≤ i ∧ i < d.warehouses) (hj : 0 ≤ j ∧ j < 10)
    (hk : 0 ≤ k ∧ k < d.orders) : db.linesOf (r.order i j k).1 = (r.order i j k).2 := by
  have row := (r.generatedOrder i j k hi.1 hi.2 hj.1 hj.2 hk.1 hk.2).2
  rw [Database.linesOf, row.warehouse, row.district, row.order, r.orderLinesOf hi hj,
    filter_flatMap_single (nodup_range _ _) (Int.mem_range_iff.mpr hk)]
  · exact List.filter_eq_self.mpr fun l hl => by simpa using (row.lines l hl).order
  · intro k' range other
    obtain ⟨low, high⟩ := Int.mem_range_iff.mp range
    have row' := (r.generatedOrder i j k' hi.1 hi.2 hj.1 hj.2 low high).2
    refine List.filter_eq_nil_iff.mpr fun l hl => ?_
    simpa [(row'.lines l hl).order] using other

/-- Orders come from rounds. -/
theorem mem_orders (r : Rows d db) {o : Order} (mem : o ∈ db.orders) :
    ∃ i j k, (0 ≤ i ∧ i < d.warehouses) ∧ (0 ≤ j ∧ j < 10) ∧ (0 ≤ k ∧ k < d.orders) ∧
      o = (r.order i j k).1 := by
  rw [r.orders] at mem
  obtain ⟨p, hp, rfl⟩ := List.mem_map.mp mem
  obtain ⟨i, j, k, li, ui, lj, uj, lk, uk, rfl⟩ := mem_grid.mp hp
  exact ⟨i, j, k, ⟨li, ui⟩, ⟨lj, uj⟩, ⟨lk, uk⟩, rfl⟩

/-! ## Delivery state -/

theorem outstanding_iff (r : Rows d db) (hi : 0 ≤ i ∧ i < d.warehouses) (hj : 0 ≤ j ∧ j < 10)
    (hk : 0 ≤ k ∧ k < d.orders) :
    db.Outstanding (r.order i j k).1 ↔ d.orders - d.newOrders ≤ k := by
  have row := (r.generatedOrder i j k hi.1 hi.2 hj.1 hj.2 hk.1 hk.2).2
  rw [Database.Outstanding, row.warehouse, row.district, row.order, r.newOrderIds hi hj,
    Set.mem_Icc]
  omega

theorem amongLast_iff (r : Rows d db) (hi : 0 ≤ i ∧ i < d.warehouses) (hj : 0 ≤ j ∧ j < 10)
    (hk : 0 ≤ k ∧ k < d.orders) :
    db.AmongLast d.newOrders (r.order i j k).1 ↔ d.orders - d.newOrders ≤ k := by
  have row := (r.generatedOrder i j k hi.1 hi.2 hj.1 hj.2 hk.1 hk.2).2
  have younger : (db.ordersOf (i + 1) (j + 1)).countP (fun o => k + 1 < o.oId) =
      (d.orders - (k + 1)).toNat := by
    rw [r.ordersOf hi hj, List.countP_map, ← countP_range hk.1]
    refine List.countP_congr fun m range => ?_
    obtain ⟨low, high⟩ := Int.mem_range_iff.mp range
    simp [(r.generatedOrder i j m hi.1 hi.2 hj.1 hj.2 low high).2.order]
  rw [Database.AmongLast, row.warehouse, row.district, row.order, younger]
  omega

theorem undelivered_iff (r : Rows d db) (hi : 0 ≤ i ∧ i < d.warehouses) (hj : 0 ≤ j ∧ j < 10)
    (hk : 0 ≤ k ∧ k < d.orders) :
    (∀ l ∈ db.linesOf (r.order i j k).1, l.olDeliveryD = none) ↔ 2101 ≤ k := by
  have row := (r.generatedOrder i j k hi.1 hi.2 hj.1 hj.2 hk.1 hk.2).2
  rw [r.linesOf hi hj hk]
  constructor
  · intro all
    obtain ⟨l, hl⟩ := List.exists_mem_of_ne_nil _ row.nonempty
    exact (row.lines l hl).delivery.mp (all l hl)
  · exact fun late l hl => (row.lines l hl).delivery.mpr late

/-- The two boundaries, of the new orders and of the deliveries, have to be one. -/
theorem deliveryConsistent_iff_boundary (r : Rows d db) (some : 1 ≤ d.warehouses) :
    DeliveryConsistent db d.newOrders ↔
      ∀ k, 0 ≤ k → k < d.orders → (d.orders - d.newOrders ≤ k ↔ 2101 ≤ k) := by
  constructor
  · intro consistent k low high
    have hi : (0 : Int) ≤ 0 ∧ 0 < d.warehouses := ⟨le_rfl, by omega⟩
    have hj : (0 : Int) ≤ 0 ∧ (0 : Int) < 10 := by norm_num
    have mem : (r.order 0 0 k).1 ∈ db.orders := by
      rw [r.orders]
      exact List.mem_map_of_mem (mem_grid.mpr
        ⟨0, 0, k, hi.1, hi.2, hj.1, hj.2, low, high, rfl⟩)
    have row := (r.generatedOrder 0 0 k hi.1 hi.2 hj.1 hj.2 low high).2
    rw [← r.outstanding_iff hi hj ⟨low, high⟩, ← row.carrier]
    exact consistent.newOrder _ mem
  · intro boundary
    have line (l : OrderLine) (mem : l ∈ db.orderLine) : ∃ i j k, GeneratedLine i j k l := by
      rw [r.orderLines] at mem
      obtain ⟨p, hp, hl⟩ := List.mem_flatMap.mp mem
      obtain ⟨i, j, k, li, ui, lj, uj, lk, uk, rfl⟩ := mem_grid.mp hp
      exact ⟨i, j, k, (r.generatedOrder i j k li ui lj uj lk uk).2.lines l hl⟩
    refine ⟨fun o mem => ?_, fun o mem => ?_, fun o mem => ?_, fun l mem => ?_, fun l mem => ?_⟩
    · obtain ⟨i, j, k, hi, hj, hk, rfl⟩ := r.mem_orders mem
      rw [r.outstanding_iff hi hj hk,
        (r.generatedOrder i j k hi.1 hi.2 hj.1 hj.2 hk.1 hk.2).2.carrier]
      exact boundary k hk.1 hk.2
    · obtain ⟨i, j, k, hi, hj, hk, rfl⟩ := r.mem_orders mem
      rw [r.undelivered_iff hi hj hk,
        (r.generatedOrder i j k hi.1 hi.2 hj.1 hj.2 hk.1 hk.2).2.carrier]
    · obtain ⟨i, j, k, hi, hj, hk, rfl⟩ := r.mem_orders mem
      rw [r.amongLast_iff hi hj hk,
        (r.generatedOrder i j k hi.1 hi.2 hj.1 hj.2 hk.1 hk.2).2.carrier]
      exact (boundary k hk.1 hk.2).symm
    · obtain ⟨i, j, k, row⟩ := line l mem
      exact fun given => row.delivered (by have := mt row.delivery.mpr given; omega)
    · obtain ⟨i, j, k, row⟩ := line l mem
      exact fun null => (row.undelivered (row.delivery.mp null)).ne'

/-! ## Totals -/

theorem lineCount (r : Rows d db) (hi : 0 ≤ i ∧ i < d.warehouses) (hj : 0 ≤ j ∧ j < 10) :
    ((db.ordersOf (i + 1) (j + 1)).map Order.oOlCnt).sum =
      (db.orderLinesOf (i + 1) (j + 1)).length := by
  have counts : ((db.ordersOf (i + 1) (j + 1)).map Order.oOlCnt) =
      (Int.range 0 d.orders).map fun k => ((r.order i j k).2.length : Int) := by
    rw [r.ordersOf hi hj, List.map_map]
    refine List.map_congr_left fun k range => ?_
    obtain ⟨low, high⟩ := Int.mem_range_iff.mp range
    exact (r.generatedOrder i j k hi.1 hi.2 hj.1 hj.2 low high).2.count
  rw [counts, r.orderLinesOf hi hj, List.length_flatMap, Nat.cast_list_sum, List.map_map]
  rfl

theorem historySum (r : Rows d db) (hi : 0 ≤ i ∧ i < d.warehouses) (hj : 0 ≤ j ∧ j < 10) :
    ((db.historyOf (i + 1) (j + 1)).map History.hAmount).sum = 10 * (d.customers.toNat : ℚ) := by
  have amounts : (db.historyOf (i + 1) (j + 1)).map History.hAmount =
      (Int.range 0 d.customers).map fun _ => (10 : ℚ) := by
    rw [r.historyOf hi hj, List.map_map]
    refine List.map_congr_left fun k range => ?_
    obtain ⟨low, high⟩ := Int.mem_range_iff.mp range
    exact (r.generatedHistory i j k hi.1 hi.2 hj.1 hj.2 low high).2.2
  rw [amounts, List.map_const', List.sum_replicate, length_range, sub_zero, nsmul_eq_mul, mul_comm]

theorem districtSum (r : Rows d db) (hi : 0 ≤ i ∧ i < d.warehouses) :
    ((db.districtsOf (i + 1)).map District.dYtd).sum = 300000 := by
  have amounts : (db.districtsOf (i + 1)).map District.dYtd =
      (Int.range 0 10).map fun _ => (30000 : ℚ) := by
    rw [r.districtsOf hi, List.map_map]
    refine List.map_congr_left fun j range => ?_
    obtain ⟨low, high⟩ := Int.mem_range_iff.mp range
    exact (r.generatedDistrict i j hi.1 hi.2 low high).ytd
  have count : ((10 : Int) - 0).toNat = 10 := rfl
  rw [amounts, List.map_const', List.sum_replicate, length_range, count]
  norm_num

/-- A district agrees with its rows when the cardinalities are those of the literals. -/
theorem districtNumbers_iff (r : Rows d db) (hi : 0 ≤ i ∧ i < d.warehouses)
    (hj : 0 ≤ j ∧ j < 10) : DistrictNumbers db (r.district i j) ↔
      d.orders = 3000 ∧ d.customers = 3000 ∧ d.newOrders ≤ d.orders := by
  have row := r.generatedDistrict i j hi.1 hi.2 hj.1 hj.2
  constructor
  · rintro ⟨nextOrder, newOrders, -, -, ytd⟩
    rw [row.warehouse, row.district, r.orderIds hi hj, row.nextOrder] at nextOrder
    rw [row.warehouse, row.district, r.orderIds hi hj, r.newOrderIds hi hj] at newOrders
    rw [row.warehouse, row.district, r.historySum hi hj, row.ytd] at ytd
    have orders : d.orders = 3000 := by
      obtain ⟨⟨low, high⟩, greatest⟩ := nextOrder
      have last := greatest (Set.mem_Icc.mpr ⟨by omega, le_rfl⟩)
      omega
    refine ⟨orders, ?_, ?_⟩
    · have count : d.customers.toNat = 3000 := by
        have scaled : (d.customers.toNat : ℚ) = 3000 := by linarith
        exact_mod_cast scaled
      omega
    · by_contra more
      have first := newOrders (Set.left_mem_Icc.mpr (by omega))
      have low := first.1
      omega
  · rintro ⟨orders, customers, newOrders⟩
    refine ⟨?_, ?_, ⟨d.orders - d.newOrders + 1, ?_⟩, ?_, ?_⟩
    · rw [row.warehouse, row.district, r.orderIds hi hj, row.nextOrder, orders]
      exact isGreatest_Icc (by norm_num)
    · rw [row.warehouse, row.district, r.orderIds hi hj, r.newOrderIds hi hj]
      exact Set.Icc_subset_Icc_left (by omega)
    · rw [row.warehouse, row.district, r.newOrderIds hi hj, row.nextOrder, orders]
      norm_num
    · rw [row.warehouse, row.district, r.lineCount hi hj]
    · have count : d.customers.toNat = 3000 := by omega
      rw [row.warehouse, row.district, r.historySum hi hj, row.ytd, count]
      norm_num

theorem mem_warehouses (r : Rows d db) {w : Warehouse} (mem : w ∈ db.warehouse) :
    ∃ i, (0 ≤ i ∧ i < d.warehouses) ∧ w = r.warehouse i := by
  rw [r.warehouses] at mem
  obtain ⟨i, range, rfl⟩ := List.mem_map.mp mem
  exact ⟨i, Int.mem_range_iff.mp range, rfl⟩

theorem district_numbers (r : Rows d db) (consistent : NumericConsistent db)
    (hi : 0 ≤ i ∧ i < d.warehouses) (hj : 0 ≤ j ∧ j < 10) : DistrictNumbers db (r.district i j) := by
  have warehouse : r.warehouse i ∈ db.warehouse := by
    rw [r.warehouses]
    exact List.mem_map_of_mem (Int.mem_range_iff.mpr hi)
  refine consistent.district _ warehouse _ ?_
  rw [(r.generatedWarehouse i hi.1 hi.2).1, r.districtsOf hi]
  exact List.mem_map_of_mem (Int.mem_range_iff.mpr hj)

end Rows

/-! ## When the population is consistent -/

end Datagen

end Dbt2
