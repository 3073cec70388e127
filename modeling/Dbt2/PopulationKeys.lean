import Dbt2.CustomerSelectors
import Dbt2.OrderCustomers
import Dbt2.References

/-!
# Keys and references of the generated population

The rows of all tables as the data generator writes them, with what they name of each other. Every
reference has its row if there are no more orders than customers; `references_kept` goes on from
there.
-/

namespace Dbt2

open Draws Table Transition

/-! ## Loops -/

theorem emits_and {σ α : Type} {g : StateT σ Option α} {Q R : α → Prop} (hq : Emits g Q)
    (hr : Emits g R) : Emits g fun a => Q a ∧ R a :=
  fun s a t returned => ⟨hq s a t returned, hr s a t returned⟩

/-- The two outer loops, over bodies whose rows belong together. -/
theorem forRange_emits_districts {σ α : Type} [Nonempty α]
    {body : Int → Int → StateT σ Option (List α)} {P : Int → Int → (Int → α) → Prop}
    {W D lo hi : Int}
    (h : ∀ i j, Emits (body i j) fun out => ∃ row : Int → α,
      P i j row ∧ out = (Int.range lo hi).map row) :
    Emits (forRange 0 W fun i => forRange 0 D (body i)) fun out =>
      ∃ row : Int → Int → Int → α,
        (∀ i j, 0 ≤ i → i < W → 0 ≤ j → j < D → P i j (row i j)) ∧ out = grid W D lo hi row := by
  refine (forRange_emits fun i _ _ => forRange_emits fun j _ _ => h i j).mono ?_
  rintro out ⟨f, outer, rfl⟩
  choose! g inner shape using outer
  choose! row holds single using inner
  refine ⟨row, fun i j li ui lj uj => holds i li ui j lj uj, ?_⟩
  refine List.flatMap_congr fun i range => ?_
  obtain ⟨li, ui⟩ := Int.mem_range_iff.mp range
  rw [shape i li ui]
  refine List.flatMap_congr fun j range' => ?_
  obtain ⟨lj, uj⟩ := Int.mem_range_iff.mp range'
  exact single i li ui j lj uj

theorem map_grid {α β : Type} (f : α → β) {W D lo hi : Int} (row : Int → Int → Int → α) :
    (grid W D lo hi row).map f = grid W D lo hi fun i j k => f (row i j k) := by
  simp only [grid, List.map_flatMap, List.map_map]
  rfl

/-- Rows that are numbered by their loops. -/
theorem keyed_grid {α : Type} {key : α → Int × Int × Int} {W D lo hi : Int}
    {row : Int → Int → Int → α}
    (is : ∀ i j k, 0 ≤ i → i < W → 0 ≤ j → j < D → lo ≤ k → k < hi →
      key (row i j k) = (i + 1, j + 1, k + 1)) : Keyed key (grid W D lo hi row) := by
  have numbers {i j k : Int} (hi' : i ∈ Int.range 0 W) (hj : j ∈ Int.range 0 D)
      (hk : k ∈ Int.range lo hi) : key (row i j k) = (i + 1, j + 1, k + 1) := by
    rw [Int.mem_range_iff] at hi' hj hk
    exact is i j k hi'.1 hi'.2 hj.1 hj.2 hk.1 hk.2
  refine Keyed.flatMap (nodup_range 0 W) (fun i hi' => ?_) ?_
  · refine Keyed.flatMap (nodup_range 0 D) (fun j hj => ?_) ?_
    · refine Keyed.map (nodup_range lo hi) fun k hk k' hk' same => ?_
      rw [numbers hi' hj hk, numbers hi' hj hk'] at same
      simpa using same
    · intro j hj j' hj' r hr s hs same
      obtain ⟨k, hk, rfl⟩ := List.mem_map.mp hr
      obtain ⟨k', hk', rfl⟩ := List.mem_map.mp hs
      rw [numbers hi' hj hk, numbers hi' hj' hk'] at same
      simp only [Prod.mk.injEq, add_left_inj, true_and] at same
      exact same.1
  · intro i hi' i' hi'' r hr s hs same
    obtain ⟨j, hj, hr⟩ := List.mem_flatMap.mp hr
    obtain ⟨j', hj', hs⟩ := List.mem_flatMap.mp hs
    obtain ⟨k, hk, rfl⟩ := List.mem_map.mp hr
    obtain ⟨k', hk', rfl⟩ := List.mem_map.mp hs
    rw [numbers hi' hj hk, numbers hi'' hj' hk'] at same
    simp only [Prod.mk.injEq, add_left_inj] at same
    exact same.1

/-- The same of two loops. -/
theorem keyed_rows {α : Type} {key : α → Int × Int} {W D : Int} {row : Int → Int → α}
    (own : ∀ i j i' j', 0 ≤ i → i < W → 0 ≤ j → j < D → 0 ≤ i' → i' < W → 0 ≤ j' → j' < D →
      key (row i j) = key (row i' j') → i = i' ∧ j = j') :
    Keyed key ((Int.range 0 W).flatMap fun i => (Int.range 0 D).map (row i)) := by
  refine Keyed.flatMap (nodup_range 0 W) (fun i hi' => ?_) ?_
  · refine Keyed.map (nodup_range 0 D) fun j hj j' hj' same => ?_
    rw [Int.mem_range_iff] at hi' hj hj'
    exact (own i j i j' hi'.1 hi'.2 hj.1 hj.2 hi'.1 hi'.2 hj'.1 hj'.2 same).2
  · intro i hi' i' hi'' r hr s hs same
    obtain ⟨j, hj, rfl⟩ := List.mem_map.mp hr
    obtain ⟨j', hj', rfl⟩ := List.mem_map.mp hs
    rw [Int.mem_range_iff] at hi' hi'' hj hj'
    exact (own i j i' j' hi'.1 hi'.2 hj.1 hj.2 hi''.1 hi''.2 hj'.1 hj'.2 same).1

/-! ## Rows -/

namespace Datagen

/-- The lines of an order, and what they name. -/
structure OrderNames (items : Int) (p : Order × List OrderLine) : Prop where
  numbers : Keyed OrderLine.olNumber p.2
  items : ∀ l ∈ p.2, 1 ≤ l.olIId ∧ l.olIId ≤ items
  fifteen : ∀ l ∈ p.2, 1 ≤ l.olNumber ∧ l.olNumber ≤ 15

theorem orderLineRow_names {items : Int} (some : 1 ≤ items) (i j k l : Int) :
    Emits (orderLineRow items i j k l) fun line =>
      line.olNumber = l + 1 ∧ 1 ≤ line.olIId ∧ line.olIId ≤ items := by
  refine (getRandom_emits (by omega)).bind fun iId bounds => (Emits.trivial _).bind fun _ _ =>
    (Emits.trivial _).bind fun _ _ => Emits.pure ⟨rfl, ?_⟩
  dsimp only
  omega

theorem orderRow_names {items : Int} (some : 1 ≤ items) (i j k cId : Int) :
    Emits (orderRow items i j k cId) fun p => p.1.oCId = cId ∧ OrderNames items p := by
  refine (Emits.trivial _).bind fun _ _ => (Emits.trivial _).bind fun seed _ =>
    Emits.aside ((getRandom_emits (by norm_num)).bind fun r bounds => ?_) _
  refine (forRange_emits_map fun l _ _ => (orderLineRow_names some i j k l).bind fun line hl =>
    Emits.pure ⟨line, rfl, hl⟩).bind ?_
  rintro lines ⟨row, rows, rfl⟩
  refine Emits.pure ⟨rfl, ?_, ?_, ?_⟩
  · refine Keyed.map (nodup_range 0 (r + 5)) fun l hl l' hl' same => ?_
    rw [Int.mem_range_iff] at hl hl'
    rw [(rows l hl.1 hl.2).1, (rows l' hl'.1 hl'.2).1] at same
    exact add_right_cancel same
  · intro l mem
    obtain ⟨n, range, rfl⟩ := List.mem_map.mp mem
    exact (rows n (Int.mem_range_iff.mp range).1 (Int.mem_range_iff.mp range).2).2
  · intro l mem
    obtain ⟨n, range, rfl⟩ := List.mem_map.mp mem
    rw [Int.mem_range_iff] at range
    rw [(rows n range.1 range.2).1]
    omega

theorem nextOrder_names {items : Int} (some : 1 ≤ items) (i j k : Int) (list : List Int) :
    Emits (nextOrder items i j list k) fun out =>
      ∃ p, out = [p] ∧ list[k.toNat]? = Option.some p.1.oCId ∧ GeneratedOrder i j k p ∧
        OrderNames items p := by
  unfold nextOrder
  split
  · exact Emits.failure
  · rename_i cId listed
    refine (emits_and (orderRow_emits items i j k cId) (orderRow_names some i j k cId)).bind ?_
    rintro p ⟨row, customer, names⟩
    exact Emits.pure ⟨p, rfl, customer ▸ listed, row, names⟩

/-- The orders of a district go to different customers. -/
structure DistrictRows (d : Datagen) (i j : Int) (row : Int → Order × List OrderLine) : Prop where
  customers : ∃ list : List Int, list.Perm (Int.range 1 (max d.customers 1 + 1)) ∧
    ∀ k, 0 ≤ k → k < d.orders → list[k.toNat]? = some (row k).1.oCId
  order : ∀ k, 0 ≤ k → k < d.orders → GeneratedOrder i j k (row k)
  names : ∀ k, 0 ≤ k → k < d.orders → OrderNames d.items (row k)

theorem permutation_perm (n : Nat) : Emits (permutation n) fun list =>
    list.Perm (Int.range 1 (n + 2)) := by
  refine (permutation_inserted n).mono ?_
  rintro list ⟨p, range, rfl⟩
  have numbers := Insertions.inserted_perm (x := number) range
  rw [range_map_number, show ((n + 1 : Nat) : Int) + 1 = n + 2 by push_cast; ring] at numbers
  exact numbers

variable (d : Datagen)

theorem districtOrders_rows (some : 1 ≤ d.items) (i j : Int) :
    Emits (d.districtOrders i j) fun out => ∃ row : Int → Order × List OrderLine,
      DistrictRows d i j row ∧ out = (Int.range 0 d.orders).map row := by
  refine (permutation_perm _).bind fun list perm => (forRange_emits_map fun k _ _ =>
    nextOrder_names some i j k list).mono ?_
  rintro out ⟨row, rows, rfl⟩
  have top : ((d.customers - 1).toNat : Int) + 2 = max d.customers 1 + 1 := by omega
  refine ⟨row, ⟨⟨list, top ▸ perm, ?_⟩, ?_, ?_⟩, rfl⟩
  · exact fun k low high => (rows k low high).1
  · exact fun k low high => (rows k low high).2.1
  · exact fun k low high => (rows k low high).2.2

theorem genOrders_names (some : 1 ≤ d.items) {out : List (Order × List OrderLine)}
    (generated : (d.withPart 0 1).genOrders = Option.some out) :
    ∃ row : Int → Int → Int → Order × List OrderLine,
      (∀ i j, 0 ≤ i → i < d.warehouses → 0 ≤ j → j < 10 → DistrictRows d i j (row i j)) ∧
        out = grid d.warehouses 10 0 d.orders row := by
  have emits : Emits (forRange 0 d.warehouses (forDistricts d.districtOrders)) _ :=
    forRange_emits_districts (d.districtOrders_rows some)
  rw [genOrders, generate_whole] at generated
  exact emits.output generated

structure GeneratedHistory (i j k : Int) (h : History) : Prop where
  customer : h.customer = (i + 1, j + 1, k + 1)
  district : h.district = (i + 1, j + 1)

theorem historyRow_names (i j k : Int) : Emits (historyRow i j k) (GeneratedHistory i j k) :=
  (Emits.trivial _).bind fun _ _ => Emits.pure ⟨rfl, rfl⟩

theorem genHistory_names {out : List History}
    (generated : (d.withPart 0 1).genHistory = some out) :
    ∃ row : Int → Int → Int → History,
      (∀ i j k, 0 ≤ i → i < d.warehouses → 0 ≤ j → j < 10 → 0 ≤ k → k < d.customers →
        GeneratedHistory i j k (row i j k)) ∧
      out = grid d.warehouses 10 0 d.customers row := by
  have emits : Emits (forRange 0 d.warehouses (forDistricts fun i j =>
      forRange 0 d.customers fun k => do
        let row ← historyRow i j k
        pure [row])) _ :=
    forRange_emits_grid fun i j => forRange_emits_map fun k _ _ =>
      (historyRow_names i j k).bind fun row h => Emits.pure ⟨row, rfl, h⟩
  rw [genHistory, generate_whole] at generated
  exact emits.output generated

theorem itemRow_names (i : Int) : Emits (itemRow i) fun row => row.iId = i + 1 :=
  (Emits.trivial _).bind fun _ _ => (Emits.trivial _).bind fun _ _ =>
    (Emits.trivial _).bind fun _ _ => (Emits.trivial _).bind fun _ _ => Emits.pure rfl

theorem genItems_names {out : List Item} (generated : (d.withPart 0 1).genItems = some out) :
    ∃ row : Int → Item, (∀ i, 0 ≤ i → i < d.items → (row i).iId = i + 1) ∧
      out = (Int.range 0 d.items).map row := by
  have emits : Emits (forRange 0 d.items fun i => do
        let row ← itemRow i
        pure [row]) _ :=
    forRange_emits_map fun i _ _ => (itemRow_names i).bind fun row h => Emits.pure ⟨row, rfl, h⟩
  rw [genItems, generate_whole] at generated
  exact emits.output generated

/-- One byte for each character. -/
def Ascii (s : String) : Prop := ∀ c ∈ s.toList, c.utf8Size = 1

theorem ascii_lStringChar (n : Nat) : (lStringChar.getD n ' ').utf8Size = 1 := by
  have letters : lStringChar.all (fun c => c.utf8Size = 1) = true := by decide
  rw [List.getD_eq_getElem?_getD]
  cases found : lStringChar[n]? with
  | none => rfl
  | some c => exact of_decide_eq_true (List.all_eq_true.mp letters c (List.mem_of_getElem? found))

theorem getLString_ascii (x y : Int) :
    Emits (getLString x y) fun s => ∀ c ∈ s, c.utf8Size = 1 := by
  refine (Emits.trivial _).bind fun seed _ => Emits.aside ((Emits.trivial _).bind fun r _ => ?_) _
  refine (forRange_emits_map (R := fun _ c => c.utf8Size = 1) fun _ _ _ => (Emits.trivial _).bind
    fun c _ => Emits.pure ⟨_, rfl, ascii_lStringChar c.toNat⟩).mono ?_
  rintro out ⟨row, rows, rfl⟩ c mem
  obtain ⟨n, range, rfl⟩ := List.mem_map.mp mem
  rw [Int.mem_range_iff] at range
  exact rows n range.1 range.2

structure GeneratedStock (i j : Int) (s : Stock) : Prop where
  item : s.sIId = j + 1
  warehouse : s.sWId = i + 1
  dist : ∀ d, Ascii (s.sDist.get d)

theorem stockRow_names (i j : Int) : Emits (stockRow i j) (GeneratedStock i j) := by
  have word := getLString_ascii 24 24
  refine (Emits.trivial _).bind fun _ _ => word.bind fun d₁ h₁ => word.bind fun d₂ h₂ =>
    word.bind fun d₃ h₃ => word.bind fun d₄ h₄ => word.bind fun d₅ h₅ => word.bind fun d₆ h₆ =>
    word.bind fun d₇ h₇ => word.bind fun d₈ h₈ => word.bind fun d₉ h₉ => word.bind fun d₁₀ h₁₀ =>
    (Emits.trivial _).bind fun _ _ => Emits.pure ⟨rfl, rfl, fun d c mem => ?_⟩
  fin_cases d <;> simp only [Vector.get, Vector.map] at mem <;> simp at mem
  all_goals first
    | exact h₁ c mem | exact h₂ c mem | exact h₃ c mem | exact h₄ c mem | exact h₅ c mem
    | exact h₆ c mem | exact h₇ c mem | exact h₈ c mem | exact h₉ c mem | exact h₁₀ c mem

theorem genStock_names {out : List Stock} (generated : (d.withPart 0 1).genStock = some out) :
    ∃ row : Int → Int → Stock,
      (∀ i j, 0 ≤ i → i < d.warehouses → 0 ≤ j → j < d.items → GeneratedStock i j (row i j)) ∧
      out = (Int.range 0 d.warehouses).flatMap fun i => (Int.range 0 d.items).map (row i) := by
  have emits : Emits (forRange 0 d.warehouses fun i => forRange 0 d.items fun j => do
        let row ← stockRow i j
        pure [row]) _ :=
    forRange_emits fun i _ _ => forRange_emits_map fun j _ _ =>
      (stockRow_names i j).bind fun row h => Emits.pure ⟨row, rfl, h⟩
  rw [genStock, generate_whole] at generated
  obtain ⟨f, outer, rfl⟩ := emits.output generated
  choose! row rows shape using outer
  refine ⟨row, fun i j li ui => rows i li ui j, List.flatMap_congr fun i range => ?_⟩
  exact shape i (Int.mem_range_iff.mp range).1 (Int.mem_range_iff.mp range).2

/-! ## The population as a whole -/

/-- The rows of all tables. -/
structure Filled (d : Datagen) (db : Database) where
  warehouse : Int → Warehouse
  district : Int → Int → District
  customer : Int → Int → Int → Customer
  history : Int → Int → Int → History
  order : Int → Int → Int → Order × List OrderLine
  item : Int → Item
  stock : Int → Int → Stock
  generatedWarehouse : ∀ i, 0 ≤ i → i < d.warehouses →
    (warehouse i).wId = i + 1 ∧ (warehouse i).wYtd = 300000
  generatedDistrict : ∀ i j, 0 ≤ i → i < d.warehouses → 0 ≤ j → j < 10 →
    GeneratedDistrict i j (district i j)
  generatedCustomer : ∀ i j k, 0 ≤ i → i < d.warehouses → 0 ≤ j → j < 10 → 0 ≤ k →
    k < d.customers → GeneratedCustomer i j k (customer i j k)
  generatedHistory : ∀ i j k, 0 ≤ i → i < d.warehouses → 0 ≤ j → j < 10 → 0 ≤ k →
    k < d.customers → GeneratedHistory i j k (history i j k)
  generatedOrders : ∀ i j, 0 ≤ i → i < d.warehouses → 0 ≤ j → j < 10 →
    DistrictRows d i j (order i j)
  generatedItem : ∀ i, 0 ≤ i → i < d.items → (item i).iId = i + 1
  generatedStock : ∀ i j, 0 ≤ i → i < d.warehouses → 0 ≤ j → j < d.items →
    GeneratedStock i j (stock i j)
  warehouses : db.warehouse = (Int.range 0 d.warehouses).map warehouse
  districts : db.district =
    (Int.range 0 d.warehouses).flatMap fun i => (Int.range 0 10).map (district i)
  customers : db.customer = grid d.warehouses 10 0 d.customers customer
  histories : db.history = grid d.warehouses 10 0 d.customers history
  newOrders : db.newOrder = grid d.warehouses 10 (d.orders - d.newOrders) d.orders
    fun i j k => { noOId := k + 1, noDId := j + 1, noWId := i + 1 }
  orders : db.orders = (grid d.warehouses 10 0 d.orders order).map Prod.fst
  orderLines : db.orderLine = (grid d.warehouses 10 0 d.orders order).flatMap Prod.snd
  items : db.item = (Int.range 0 d.items).map item
  stocks : db.stock =
    (Int.range 0 d.warehouses).flatMap fun i => (Int.range 0 d.items).map (stock i)

variable {d} {db : Database}

theorem genTables_filled (some : 1 ≤ d.items)
    (generated : (d.withPart 0 1).genTables = Option.some db) : Nonempty (Filled d db) := by
  simp only [genTables, Option.bind_eq_bind, Option.bind_eq_some_iff, Option.pure_def,
    Option.some.injEq] at generated
  obtain ⟨item, hi, warehouse, hw, stock, hs, district, hd, customer, hc, history, hh, orders, ho,
    newOrder, hn, rfl⟩ := generated
  obtain ⟨itemRow, generatedItem, rfl⟩ := d.genItems_names hi
  obtain ⟨warehouseRow, generatedWarehouse, rfl⟩ := d.genWarehouses_rows hw
  obtain ⟨stockRow, generatedStock, rfl⟩ := d.genStock_names hs
  obtain ⟨districtRow, generatedDistrict, rfl⟩ := d.genDistricts_rows hd
  obtain ⟨customerRow, generatedCustomer, rfl⟩ := genCustomers_rows hc
  obtain ⟨historyRow, generatedHistory, rfl⟩ := d.genHistory_names hh
  obtain ⟨orderRow, generatedOrders, rfl⟩ := d.genOrders_names some ho
  exact ⟨{
    warehouse := warehouseRow, district := districtRow, customer := customerRow
    history := historyRow, order := orderRow, item := itemRow, stock := stockRow
    generatedWarehouse, generatedDistrict, generatedCustomer, generatedHistory, generatedOrders
    generatedItem, generatedStock
    warehouses := rfl
    districts := rfl
    customers := rfl
    histories := rfl
    newOrders := d.genNewOrders_rows hn
    orders := rfl
    orderLines := rfl
    items := rfl
    stocks := rfl }⟩

namespace Filled

variable (f : Filled d db)

include f

theorem orderKey {i j k : Int} (hi : 0 ≤ i ∧ i < d.warehouses) (hj : 0 ≤ j ∧ j < 10)
    (hk : 0 ≤ k ∧ k < d.orders) : (f.order i j k).1.key = (i + 1, j + 1, k + 1) := by
  have row := (f.generatedOrders i j hi.1 hi.2 hj.1 hj.2).order k hk.1 hk.2
  rw [Order.key, row.warehouse, row.district, row.order]

theorem lineOrder {i j k : Int} (hi : 0 ≤ i ∧ i < d.warehouses) (hj : 0 ≤ j ∧ j < 10)
    (hk : 0 ≤ k ∧ k < d.orders) {l : OrderLine} (mem : l ∈ (f.order i j k).2) :
    l.order = (i + 1, j + 1, k + 1) := by
  have row := ((f.generatedOrders i j hi.1 hi.2 hj.1 hj.2).order k hk.1 hk.2).lines l mem
  rw [OrderLine.order, row.warehouse, row.district, row.order]

theorem keyedOrders :
    Keyed (fun p => p.1.key) (grid d.warehouses 10 0 d.orders f.order) :=
  keyed_grid fun _ _ _ li ui lj uj lk uk => f.orderKey ⟨li, ui⟩ ⟨lj, uj⟩ ⟨lk, uk⟩

theorem lineKeys :
    Keyed OrderLine.key ((grid d.warehouses 10 0 d.orders f.order).flatMap Prod.snd) := by
  have orderOf {p : Order × List OrderLine} (mem : p ∈ grid d.warehouses 10 0 d.orders f.order)
      {l : OrderLine} (own : l ∈ p.2) : l.order = p.1.key := by
    obtain ⟨i, j, k, li, ui, lj, uj, lk, uk, rfl⟩ := mem_grid.mp mem
    rw [f.lineOrder ⟨li, ui⟩ ⟨lj, uj⟩ ⟨lk, uk⟩ own, f.orderKey ⟨li, ui⟩ ⟨lj, uj⟩ ⟨lk, uk⟩]
  refine Keyed.flatMap (List.Nodup.of_map _ f.keyedOrders) (fun p mem => ?_) ?_
  · obtain ⟨i, j, k, li, ui, lj, uj, lk, uk, rfl⟩ := mem_grid.mp mem
    have numbers := ((f.generatedOrders i j li ui lj uj).names k lk uk).numbers
    refine List.Nodup.of_map Prod.snd ?_
    rw [List.map_map]
    exact numbers
  · intro p hp q hq r hr s hs same
    refine f.keyedOrders.eq hp hq ?_
    rw [← orderOf hp hr, ← orderOf hq hs]
    exact congrArg Prod.fst same

theorem keys : Keys db := by
  constructor
  · rw [f.warehouses]
    refine Keyed.map (nodup_range 0 _) fun i hi i' hi' same => ?_
    rw [Int.mem_range_iff] at hi hi'
    rw [(f.generatedWarehouse i hi.1 hi.2).1, (f.generatedWarehouse i' hi'.1 hi'.2).1] at same
    exact add_right_cancel same
  · rw [f.districts]
    refine keyed_rows fun i j i' j' hi ui hj uj hi' ui' hj' uj' same => ?_
    have row := f.generatedDistrict i j hi ui hj uj
    have row' := f.generatedDistrict i' j' hi' ui' hj' uj'
    rw [District.key, District.key, row.warehouse, row.district, row'.warehouse,
      row'.district] at same
    simpa using same
  · rw [f.customers]
    refine keyed_grid fun i j k li ui lj uj lk uk => ?_
    have row := f.generatedCustomer i j k li ui lj uj lk uk
    rw [Customer.key, row.warehouse, row.district, row.id]
  · rw [f.newOrders]
    exact keyed_grid fun _ _ _ _ _ _ _ _ _ => rfl
  · rw [f.orders, map_grid]
    exact keyed_grid fun i j k li ui lj uj lk uk => f.orderKey ⟨li, ui⟩ ⟨lj, uj⟩ ⟨lk, uk⟩
  · rw [f.orderLines]
    exact f.lineKeys
  · rw [f.items]
    refine Keyed.map (nodup_range 0 _) fun i hi i' hi' same => ?_
    rw [Int.mem_range_iff] at hi hi'
    rw [f.generatedItem i hi.1 hi.2, f.generatedItem i' hi'.1 hi'.2] at same
    exact add_right_cancel same
  · rw [f.stocks]
    refine keyed_rows fun i j i' j' hi ui hj uj hi' ui' hj' uj' same => ?_
    have row := f.generatedStock i j hi ui hj uj
    have row' := f.generatedStock i' j' hi' ui' hj' uj'
    rw [Stock.key, Stock.key, row.warehouse, row.item, row'.warehouse, row'.item] at same
    simpa [and_comm] using same

theorem hasWarehouse {i : Int} (hi : 0 ≤ i ∧ i < d.warehouses) :
    i + 1 ∈ db.warehouse.map Warehouse.wId := by
  rw [f.warehouses, List.map_map, List.mem_map]
  exact ⟨i, Int.mem_range_iff.mpr hi, (f.generatedWarehouse i hi.1 hi.2).1⟩

theorem hasDistrict {i j : Int} (hi : 0 ≤ i ∧ i < d.warehouses) (hj : 0 ≤ j ∧ j < 10) :
    (i + 1, j + 1) ∈ db.district.map District.key := by
  have row := f.generatedDistrict i j hi.1 hi.2 hj.1 hj.2
  rw [f.districts, List.mem_map]
  refine ⟨f.district i j, List.mem_flatMap.mpr ⟨i, Int.mem_range_iff.mpr hi, ?_⟩, ?_⟩
  · exact List.mem_map_of_mem (Int.mem_range_iff.mpr hj)
  · rw [District.key, row.warehouse, row.district]

theorem hasCustomer {i j k : Int} (hi : 0 ≤ i ∧ i < d.warehouses) (hj : 0 ≤ j ∧ j < 10)
    (hk : 0 ≤ k ∧ k < d.customers) : (i + 1, j + 1, k + 1) ∈ db.customer.map Customer.key := by
  have row := f.generatedCustomer i j k hi.1 hi.2 hj.1 hj.2 hk.1 hk.2
  rw [f.customers, List.mem_map]
  refine ⟨f.customer i j k, mem_grid.mpr ⟨i, j, k, ?_⟩, ?_⟩
  · exact ⟨hi.1, hi.2, hj.1, hj.2, hk.1, hk.2, rfl⟩
  · rw [Customer.key, row.warehouse, row.district, row.id]

theorem hasOrder {i j k : Int} (hi : 0 ≤ i ∧ i < d.warehouses) (hj : 0 ≤ j ∧ j < 10)
    (hk : 0 ≤ k ∧ k < d.orders) : (i + 1, j + 1, k + 1) ∈ db.orders.map Order.key := by
  rw [f.orders, List.map_map, List.mem_map]
  refine ⟨f.order i j k, mem_grid.mpr ⟨i, j, k, ?_⟩, f.orderKey hi hj hk⟩
  exact ⟨hi.1, hi.2, hj.1, hj.2, hk.1, hk.2, rfl⟩

theorem hasItem {i : Int} (hi : 0 ≤ i ∧ i < d.items) : i + 1 ∈ db.item.map Item.iId := by
  rw [f.items, List.map_map, List.mem_map]
  exact ⟨i, Int.mem_range_iff.mpr hi, f.generatedItem i hi.1 hi.2⟩

theorem districtOf {x : District} (mem : x ∈ db.district) :
    ∃ i j, (0 ≤ i ∧ i < d.warehouses) ∧ (0 ≤ j ∧ j < 10) ∧ x = f.district i j := by
  rw [f.districts] at mem
  obtain ⟨i, hi, mem⟩ := List.mem_flatMap.mp mem
  obtain ⟨j, hj, rfl⟩ := List.mem_map.mp mem
  exact ⟨i, j, Int.mem_range_iff.mp hi, Int.mem_range_iff.mp hj, rfl⟩

theorem stockOf {s : Stock} (mem : s ∈ db.stock) :
    ∃ i j, (0 ≤ i ∧ i < d.warehouses) ∧ (0 ≤ j ∧ j < d.items) ∧ s = f.stock i j := by
  rw [f.stocks] at mem
  obtain ⟨i, hi, mem⟩ := List.mem_flatMap.mp mem
  obtain ⟨j, hj, rfl⟩ := List.mem_map.mp mem
  exact ⟨i, j, Int.mem_range_iff.mp hi, Int.mem_range_iff.mp hj, rfl⟩

theorem customerOf {c : Customer} (mem : c ∈ db.customer) :
    ∃ i j k, (0 ≤ i ∧ i < d.warehouses) ∧ (0 ≤ j ∧ j < 10) ∧ (0 ≤ k ∧ k < d.customers) ∧
      c = f.customer i j k := by
  rw [f.customers] at mem
  obtain ⟨i, j, k, li, ui, lj, uj, lk, uk, rfl⟩ := mem_grid.mp mem
  exact ⟨i, j, k, ⟨li, ui⟩, ⟨lj, uj⟩, ⟨lk, uk⟩, rfl⟩

theorem orderOf {o : Order} (mem : o ∈ db.orders) :
    ∃ i j k, (0 ≤ i ∧ i < d.warehouses) ∧ (0 ≤ j ∧ j < 10) ∧ (0 ≤ k ∧ k < d.orders) ∧
      o = (f.order i j k).1 := by
  rw [f.orders] at mem
  obtain ⟨p, inside, rfl⟩ := List.mem_map.mp mem
  obtain ⟨i, j, k, li, ui, lj, uj, lk, uk, rfl⟩ := mem_grid.mp inside
  exact ⟨i, j, k, ⟨li, ui⟩, ⟨lj, uj⟩, ⟨lk, uk⟩, rfl⟩

theorem lineOf {l : OrderLine} (mem : l ∈ db.orderLine) :
    ∃ i j k, (0 ≤ i ∧ i < d.warehouses) ∧ (0 ≤ j ∧ j < 10) ∧ (0 ≤ k ∧ k < d.orders) ∧
      l ∈ (f.order i j k).2 := by
  rw [f.orderLines] at mem
  obtain ⟨p, inside, own⟩ := List.mem_flatMap.mp mem
  obtain ⟨i, j, k, li, ui, lj, uj, lk, uk, rfl⟩ := mem_grid.mp inside
  exact ⟨i, j, k, ⟨li, ui⟩, ⟨lj, uj⟩, ⟨lk, uk⟩, own⟩

theorem references (newOrders : d.newOrders ≤ d.orders) (orders : d.orders ≤ d.customers) :
    References db := by
  constructor <;> apply refers_of_forall
  · intro x mem
    obtain ⟨i, j, hi, hj, rfl⟩ := f.districtOf mem
    rw [(f.generatedDistrict i j hi.1 hi.2 hj.1 hj.2).warehouse]
    exact f.hasWarehouse hi
  · intro c mem
    obtain ⟨i, j, k, hi, hj, hk, rfl⟩ := f.customerOf mem
    have row := f.generatedCustomer i j k hi.1 hi.2 hj.1 hj.2 hk.1 hk.2
    rw [Customer.district, row.warehouse, row.district]
    exact f.hasDistrict hi hj
  · intro h mem
    rw [f.histories] at mem
    obtain ⟨i, j, k, li, ui, lj, uj, lk, uk, rfl⟩ := mem_grid.mp mem
    rw [(f.generatedHistory i j k li ui lj uj lk uk).customer]
    exact f.hasCustomer ⟨li, ui⟩ ⟨lj, uj⟩ ⟨lk, uk⟩
  · intro h mem
    rw [f.histories] at mem
    obtain ⟨i, j, k, li, ui, lj, uj, lk, uk, rfl⟩ := mem_grid.mp mem
    rw [(f.generatedHistory i j k li ui lj uj lk uk).district]
    exact f.hasDistrict ⟨li, ui⟩ ⟨lj, uj⟩
  · intro n mem
    rw [f.newOrders] at mem
    obtain ⟨i, j, k, li, ui, lj, uj, lk, uk, rfl⟩ := mem_grid.mp mem
    exact f.hasOrder ⟨li, ui⟩ ⟨lj, uj⟩ ⟨by omega, uk⟩
  · intro o mem
    obtain ⟨i, j, k, hi, hj, hk, rfl⟩ := f.orderOf mem
    have rows := f.generatedOrders i j hi.1 hi.2 hj.1 hj.2
    have row := rows.order k hk.1 hk.2
    obtain ⟨list, perm, listed⟩ := rows.customers
    have buyer := perm.mem_iff.mp (List.mem_of_getElem? (listed k hk.1 hk.2))
    rw [Int.mem_range_iff] at buyer
    have customer := f.hasCustomer (k := (f.order i j k).1.oCId - 1) hi hj (by omega)
    rw [sub_add_cancel] at customer
    rw [Order.customer, row.warehouse, row.district]
    exact customer
  · intro l mem
    obtain ⟨i, j, k, hi, hj, hk, own⟩ := f.lineOf mem
    rw [f.lineOrder hi hj hk own]
    exact f.hasOrder hi hj hk
  · intro l mem
    obtain ⟨i, j, k, hi, hj, hk, own⟩ := f.lineOf mem
    have range := ((f.generatedOrders i j hi.1 hi.2 hj.1 hj.2).names k hk.1 hk.2).items l own
    have item := f.hasItem (i := l.olIId - 1) (by omega)
    rw [sub_add_cancel] at item
    exact item
  · intro s mem
    obtain ⟨i, j, hi, hj, rfl⟩ := f.stockOf mem
    rw [(f.generatedStock i j hi.1 hi.2 hj.1 hj.2).item]
    exact f.hasItem hj
  · intro s mem
    obtain ⟨i, j, hi, hj, rfl⟩ := f.stockOf mem
    rw [(f.generatedStock i j hi.1 hi.2 hj.1 hj.2).warehouse]
    exact f.hasWarehouse hi

end Filled

end Datagen

/-! ## From there on -/

end Dbt2
