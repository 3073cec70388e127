import Dbt2.Schema

/-!
# Consistency conditions

What the tables of a database are to say together.

* `DeliveryConsistent`: carrier, order lines and `NEW_ORDER` rows record the same orders as
  outstanding;
* `DistrictNumbers`, `WarehouseNumbers`: the counters and totals of a district and a warehouse
  agree with the rows they summarise.
-/

namespace Dbt2

namespace Database

variable (db : Database)

def ordersOf (w d : Int) : List Order := db.orders.filter fun o => o.oWId = w ∧ o.oDId = d

def newOrdersOf (w d : Int) : List NewOrder :=
  db.newOrder.filter fun n => n.noWId = w ∧ n.noDId = d

def orderLinesOf (w d : Int) : List OrderLine :=
  db.orderLine.filter fun l => l.olWId = w ∧ l.olDId = d

def historyOf (w d : Int) : List History := db.history.filter fun h => h.hWId = w ∧ h.hDId = d

def districtsOf (w : Int) : List District := db.district.filter fun x => x.dWId = w

def linesOf (o : Order) : List OrderLine :=
  (db.orderLinesOf o.oWId o.oDId).filter fun l => l.olOId = o.oId

def orderIds (w d : Int) : Set Int := {i | ∃ o ∈ db.ordersOf w d, o.oId = i}

def newOrderIds (w d : Int) : Set Int := {i | ∃ n ∈ db.newOrdersOf w d, n.noOId = i}

/-- The order has a `NEW_ORDER` row. -/
def Outstanding (o : Order) : Prop := o.oId ∈ db.newOrderIds o.oWId o.oDId

/-- Fewer than `n` orders of the district are younger. -/
def AmongLast (n : Int) (o : Order) : Prop :=
  ((db.ordersOf o.oWId o.oDId).countP fun o' => o.oId < o'.oId : Int) < n

end Database

/-- The four records of an order's delivery state agree, and so do the amounts of its lines. -/
structure DeliveryConsistent (db : Database) (newOrders : Int) : Prop where
  newOrder : ∀ o ∈ db.orders, db.Outstanding o ↔ o.oCarrierId = none
  lines : ∀ o ∈ db.orders, o.oCarrierId = none ↔ ∀ l ∈ db.linesOf o, l.olDeliveryD = none
  last : ∀ o ∈ db.orders, o.oCarrierId = none ↔ db.AmongLast newOrders o
  delivered : ∀ l ∈ db.orderLine, l.olDeliveryD ≠ none → l.olAmount = 0
  undelivered : ∀ l ∈ db.orderLine, l.olDeliveryD = none → l.olAmount ≠ 0

structure DistrictNumbers (db : Database) (x : District) : Prop where
  nextOrder : IsGreatest (db.orderIds x.dWId x.dId) (x.dNextOId - 1)
  newOrders : db.newOrderIds x.dWId x.dId ⊆ db.orderIds x.dWId x.dId
  suffix : ∃ first, db.newOrderIds x.dWId x.dId = Set.Icc first (x.dNextOId - 1)
  lineCount : ((db.ordersOf x.dWId x.dId).map Order.oOlCnt).sum =
    (db.orderLinesOf x.dWId x.dId).length
  ytd : x.dYtd = ((db.historyOf x.dWId x.dId).map History.hAmount).sum

def WarehouseNumbers (db : Database) (w : Warehouse) : Prop :=
  w.wYtd = ((db.districtsOf w.wId).map District.dYtd).sum

structure NumericConsistent (db : Database) : Prop where
  district : ∀ w ∈ db.warehouse, ∀ x ∈ db.districtsOf w.wId, DistrictNumbers db x
  warehouse : ∀ w ∈ db.warehouse, WarehouseNumbers db w

end Dbt2
