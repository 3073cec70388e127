import Dbt2.InputsServed
import Dbt2.OrderStatus

/-!
# Order-Status inputs that are served

Every customer of a generated population has ordered once, if there are as many orders as customers,
so that an Order-Status finds an order of whichever customer it selects.

* `Bought`: every customer has ordered, and orders have no more than fifteen lines;
* `status_served`: after every run nonsp and pgsql answer, from the most recent order.
-/

namespace Dbt2

open Draws Table Fallible Transition

structure Bought (db : Database) : Prop where
  bought : Refers Customer.key db.customer Order.customer db.orders
  numbers : ∀ k ∈ db.orderLine.map OrderLine.key, 1 ≤ k.2 ∧ k.2 ≤ 15

/-! ## Runs -/

section Kept

variable {b : Backend} {db db' : Database}

theorem execute_bought {data : NonspData} (done : b.execute data db = some db')
    (before : Bought db) : Bought db' := by
  cases data with
  | newOrder data =>
    obtain ⟨E, code, r, -, ran⟩ := newOrder_sound done
    obtain ⟨district, -, ls, lines, same⟩ := newOrder_effect ran
    rw [same]
    constructor
    · exact before.bought.grow _
    · intro k mem
      obtain old | new := List.mem_append.mp (List.map_append ▸ mem)
      · exact before.numbers k old
      · obtain ⟨l, own, rfl⟩ := List.mem_map.mp new
        have number := (lines.numbers.mem l.olNumber).mp (List.mem_map_of_mem own)
        have most := data.oOlCnt_le
        change 1 ≤ l.olNumber ∧ l.olNumber ≤ 15
        omega
  | payment data =>
    obtain ⟨E, code, r, posts, ran⟩ := payment_committed done
    obtain ⟨warehouse, district, customer, hData, -, -, -, rfl⟩ := payment_effect ran
    constructor
    · exact before.bought.congr (paid_customer _ fun c => (posts.update data _ _ c).key) rfl
    · exact before.numbers
  | delivery data =>
    obtain ⟨E, code, rs, -, ran⟩ := delivery_committed done
    obtain ⟨rfl, -⟩ := delivery_effect ran
    constructor
    · exact before.bought.congr (deliver_customer _ fun _ _ => rfl)
        (deliver_orders _ fun _ _ => rfl)
    · rw [deliver_orderLine OrderLine.key fun _ _ => rfl]
      exact before.numbers
  | integrity | orderStatus | stockLevel =>
    obtain rfl := Option.some.inj done
    exact before

theorem run_bought {es : List (NonspData × Bool)} (ran : run b.attempt db es = some db')
    (before : Bought db) : Bought db' := by
  refine run_invariant (fun s e t stepped before => ?_) ran before
  obtain rfl | done := attempt_cases stepped
  · exact before
  · exact execute_bought done before

end Kept

/-! ## Answers -/

section Answers

variable {db : Database} (answers : StatusAnswers db) {data : OrderStatusData}
  {card : TableCardinality} {wId : Int}

/-- The customer whose id is given, or one who has the name. -/
structure Requested (data : OrderStatusData) (c : Customer) : Prop where
  district : c.district = (data.cWId, data.cDId)
  selected : if data.cId = 0 then c.cLast = data.cLast else c.cId = data.cId

theorem Requested.key {c : Customer} (h : Requested data c) :
    c.key = (data.cWId, data.cDId, c.cId) := by
  have warehouse : c.cWId = data.cWId := congrArg Prod.fst h.district
  have district : c.cDId = data.cDId := congrArg Prod.snd h.district
  rw [Customer.key, warehouse, district]

theorem StatusAnswers.latest {wId dId cId : Int}
    (bought : (wId, dId, cId) ∈ db.orders.map Order.customer) :
    ∃ o, (answers.selectOrders wId dId cId).head? = some o ∧ MostRecent db (wId, dId, cId) o := by
  have perm := answers.orders wId dId cId
  have descending := answers.descending wId dId cId
  have rows (o : Order) : o ∈ answers.selectOrders wId dId cId ↔
      o ∈ db.orders ∧ o.customer = (wId, dId, cId) := by
    rw [perm.mem_iff, List.mem_filter, decide_eq_true_eq]
  obtain ⟨own, mem, customer⟩ := List.mem_map.mp bought
  have listed := (rows own).mpr ⟨mem, customer⟩
  cases selected : answers.selectOrders wId dId cId with
  | nil =>
    rw [selected] at listed
    cases listed
  | cons first rest =>
    rw [selected] at rows descending
    obtain ⟨there, its⟩ := (rows first).mp List.mem_cons_self
    refine ⟨first, rfl, there, its, fun o mem customer => ?_⟩
    obtain rfl | later := List.mem_cons.mp ((rows o).mpr ⟨mem, customer⟩)
    · exact le_rfl
    · exact List.rel_of_pairwise_cons descending later

theorem StatusAnswers.fifteen (keys : Keys db) (before : Bought db) {wId dId oId : Int}
    (some' : (wId, dId, oId) ∈ db.orderLine.map OrderLine.order) :
    answers.selectLines wId dId oId ≠ [] ∧ (answers.selectLines wId dId oId).length ≤ 15 := by
  have perm := answers.lines wId dId oId
  have rows (l : OrderLine) : l ∈ db.selectLines wId dId oId ↔
      l ∈ db.orderLine ∧ l.order = (wId, dId, oId) := by
    simp [Database.selectLines]
  constructor
  · obtain ⟨l, mem, order⟩ := List.mem_map.mp some'
    exact List.ne_nil_of_mem (perm.mem_iff.mpr ((rows l).mpr ⟨mem, order⟩))
  · have once : (db.selectLines wId dId oId).Nodup :=
      (List.Nodup.of_map OrderLine.key keys.orderLine).filter _
    have distinct : ((db.selectLines wId dId oId).map OrderLine.olNumber).Nodup := by
      refine List.Nodup.map_on (fun l own l' own' same => ?_) once
      obtain ⟨mem, order⟩ := (rows l).mp own
      obtain ⟨mem', order'⟩ := (rows l').mp own'
      refine keys.orderLine.eq mem mem' ?_
      rw [OrderLine.key, OrderLine.key, order, order', same]
    have within : (db.selectLines wId dId oId).map OrderLine.olNumber ⊆ Int.range 1 16 := by
      intro n mem
      obtain ⟨l, own, rfl⟩ := List.mem_map.mp mem
      have number := before.numbers _ (List.mem_map_of_mem ((rows l).mp own).1)
      exact Int.mem_range_iff.mpr ⟨number.1, Int.lt_add_one_of_le number.2⟩
    have fewer := (List.subperm_of_subset distinct within).length_le
    rw [List.length_map, length_range] at fewer
    rw [perm.length_eq]
    exact fewer

/-- Both find the same customer, and one is there. -/
theorem Ready.requested (ready : Ready card db) (home : 1 ≤ wId ∧ wId ≤ card.warehouses)
    (inRange : data.InRange wId) : ∃ c, Requested data c ∧
      db.selectCustomer data.cWId data.cDId c.cId = some c ∧
      Nonsp.orderStatusCustomer answers data = .ok c.cId ∧
      Pgsql.orderStatusCustomer answers data = .ok c.cId := by
  have here : 1 ≤ data.cWId ∧ data.cWId ≤ card.warehouses := inRange.home ▸ home
  obtain ⟨unknown, k, range, last⟩ | ⟨range, -⟩ := inRange.customer
  · let rows := answers.selectByName data.cWId data.cDId data.cLast
    have listed (c : Customer) : c ∈ rows ↔ c ∈ db.customer ∧ c.cWId = data.cWId ∧
        c.cDId = data.cDId ∧ c.cLast = data.cLast := by
      rw [(answers.byName data.cWId data.cDId data.cLast).perm.mem_iff, List.mem_filter,
        decide_eq_true_eq]
    have some' : rows ≠ [] := by
      obtain ⟨row, inside, fields⟩ := ready.standing.named here inRange.district range last
      exact List.ne_nil_of_mem ((listed row).mpr ⟨inside, fields⟩)
    obtain ⟨c, middle, -⟩ := middle_getElem some'
    obtain ⟨mem, warehouse, district, name⟩ := (listed c).mp (List.mem_of_getElem? middle)
    have key : c.key = (data.cWId, data.cDId, c.cId) := by
      rw [Customer.key, warehouse, district]
    have positive : 1 ≤ c.cId := ready.standing.numbered _ (List.mem_map_of_mem mem)
    have byName : data.cId = 0 := unknown
    refine ⟨c, ⟨?_, ?_⟩, ?_, ?_, ?_⟩
    · rw [Customer.district, warehouse, district]
    · rw [if_pos byName]
      exact name
    · obtain ⟨found, is⟩ := Option.isSome_iff_exists.mp
        (selectCustomer_isSome.mpr (key ▸ List.mem_map_of_mem (f := Customer.key) mem))
      have same : found.key = (data.cWId, data.cDId, c.cId) := by simpa using List.find?_some is
      rw [is, ready.keys.customer.eq (List.mem_of_find?_eq_some is) mem (same.trans key.symm)]
    · have myCId : Nonsp.orderStatusMyCId (rows.map fun c => some c.cId) = some c.cId :=
        (Nonsp.paymentMyCId_eq some').trans (by rw [middle, Option.map_some])
      rw [Nonsp.orderStatusCustomer, if_pos byName, Nonsp.accept, if_neg (by simpa using some'),
        myCId, orFail_some_bind, if_neg (by omega)]
    · rw [Pgsql.orderStatusCustomer, if_pos byName]
      simp only [rows] at middle
      simp only [middle, Option.map_some]
      rfl
  · obtain ⟨c, found⟩ := Option.isSome_iff_exists.mp
      (ready.standing.hasCustomer here inRange.district range)
    have key : c.key = (data.cWId, data.cDId, data.cId) := by simpa using List.find?_some found
    have id : c.cId = data.cId := congrArg (fun key => key.2.2) key
    have known : data.cId ≠ 0 := by omega
    refine ⟨c, ⟨?_, ?_⟩, id ▸ found, ?_, ?_⟩
    · exact congrArg (fun key => (key.1, key.2.1)) key
    · rw [if_neg known]
      exact id
    · rw [Nonsp.orderStatusCustomer, if_neg known, id]
    · rw [Pgsql.orderStatusCustomer, if_neg known, id]

/-- What nonsp and pgsql tell of a customer's most recent order. -/
theorem Ready.answered (ready : Ready card db) (before : Bought db)
    (home : 1 ≤ wId ∧ wId ≤ card.warehouses) (inRange : data.InRange wId) :
    ∃ c o, c ∈ db.customer ∧ Requested data c ∧ MostRecent db c.key o ∧
      Nonsp.executeOrderStatusNonsp answers data = .ok
        (orderStatusResult c.cId c o (answers.selectLines data.cWId data.cDId o.oId)) ∧
      Pgsql.orderStatus answers data = .ok
        ((answers.selectLines data.cWId data.cDId o.oId).map (Pgsql.orderStatusRow c.cId c o)) := by
  obtain ⟨c, requested, found, nonsp, pgsql⟩ := ready.requested answers home inRange
  have mem : c ∈ db.customer := List.mem_of_find?_eq_some found
  obtain ⟨o, first, latest⟩ := answers.latest (requested.key ▸ before.bought.mem mem)
  have key : o.key = (data.cWId, data.cDId, o.oId) := by
    rw [Order.key, show o.oWId = data.cWId from congrArg Prod.fst latest.customer,
      show o.oDId = data.cDId from congrArg (fun key => key.2.1) latest.customer]
  obtain ⟨some', fits⟩ := answers.fifteen ready.keys before
    (key ▸ ready.numbers.lines.mem latest.mem)
  refine ⟨c, o, mem, requested, requested.key ▸ latest, ?_, ?_⟩
  · unfold Nonsp.executeOrderStatusNonsp Nonsp.orderStatusNonsp
    simp only [nonsp, ok_bind, found, first, orFail_some_bind, some', not_lt.mpr fits, or_self,
      if_false]
    rfl
  · unfold Pgsql.orderStatus
    simp only [pgsql, ok_bind, found, first, orFail_some_bind, some', if_false]
    rfl

end Answers

/-! ## The generated population -/

theorem Datagen.Filled.bought {d : Datagen} {db : Database} (f : Filled d db)
    (all : d.orders = d.customers) : Bought db := by
  constructor
  · refine refers_of_forall fun c mem => ?_
    obtain ⟨i, j, k, ⟨li, ui⟩, ⟨lj, uj⟩, ⟨lk, uk⟩, rfl⟩ := f.customerOf mem
    have rows := f.generatedOrders i j li ui lj uj
    have buyer := f.generatedCustomer i j k li ui lj uj lk uk
    obtain ⟨list, perm, listed⟩ := rows.customers
    have own : k + 1 ∈ list := perm.mem_iff.mpr (Int.mem_range_iff.mpr ⟨by omega, by omega⟩)
    obtain ⟨n, at'⟩ := List.mem_iff_getElem?.mp own
    have inside : n < list.length := (List.getElem?_eq_some_iff.mp at').1
    rw [perm.length_eq, length_range] at inside
    have order := rows.order n (by omega) (by omega)
    have its := listed n (by omega) (by omega)
    rw [Int.toNat_natCast, at'] at its
    rw [f.orders, List.map_map, List.mem_map]
    refine ⟨f.order i j n, mem_grid.mpr ⟨i, j, n, ?_⟩, ?_⟩
    · exact ⟨li, ui, lj, uj, by omega, by omega, rfl⟩
    · rw [Function.comp_apply, Order.customer, order.warehouse, order.district,
        ← Option.some.inj its, Customer.key, buyer.warehouse, buyer.district, buyer.id]
  · intro key mem
    obtain ⟨l, inside, rfl⟩ := List.mem_map.mp mem
    obtain ⟨i, j, k, hi, hj, hk, own⟩ := f.lineOf inside
    exact ((f.generatedOrders i j hi.1 hi.2 hj.1 hj.2).names k hk.1 hk.2).fifteen l own

end Dbt2
