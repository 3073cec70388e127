import Dbt2.Schema
import Dbt2.Lib.Table

/-!
# SQL statements

The queries of New-Order, Payment and Delivery. A `SELECT` of a row finds the first that matches,
an `INSERT` fails if the primary key is in use, and a `SUM` over no rows is null.
-/

namespace Dbt2

open Table

def District.key (x : District) : Int × Int := (x.dWId, x.dId)
def Customer.key (c : Customer) : Int × Int × Int := (c.cWId, c.cDId, c.cId)
def NewOrder.key (n : NewOrder) : Int × Int × Int := (n.noWId, n.noDId, n.noOId)
def Order.key (o : Order) : Int × Int × Int := (o.oWId, o.oDId, o.oId)
def Order.customer (o : Order) : Int × Int × Int := (o.oWId, o.oDId, o.oCId)
def OrderLine.order (l : OrderLine) : Int × Int × Int := (l.olWId, l.olDId, l.olOId)
def OrderLine.key (l : OrderLine) : (Int × Int × Int) × Int := (l.order, l.olNumber)
def Stock.key (s : Stock) : Int × Int := (s.sIId, s.sWId)

/-- The customer that a payment is recorded for. -/
def History.customer (h : History) : Int × Int × Int := (h.hCWId, h.hCDId, h.hCId)

namespace Database

variable (db : Database)

/-! ## Selections -/

def selectWarehouse (wId : Int) : Option Warehouse := db.warehouse.find? fun w => w.wId = wId

def selectDistrict (wId dId : Int) : Option District :=
  db.district.find? fun x => x.key = (wId, dId)

def selectCustomer (wId dId cId : Int) : Option Customer :=
  db.customer.find? fun c => c.key = (wId, dId, cId)

/-- `ORDER BY c_first ASC`. -/
def selectByName (wId dId : Int) (cLast : String) : List Customer :=
  (db.customer.filter fun c => c.cWId = wId ∧ c.cDId = dId ∧ c.cLast = cLast).insertionSort
    fun c c' => c.cFirst ≤ c'.cFirst

def selectItem (iId : Int) : Option Item := db.item.find? fun i => i.iId = iId

def selectStock (iId wId : Int) : Option Stock := db.stock.find? fun s => s.key = (iId, wId)

/-- `ORDER BY no_o_id ASC LIMIT 1`. -/
def selectOldest (wId dId : Int) : Option Int :=
  ((db.newOrder.filter fun n => n.noWId = wId ∧ n.noDId = dId).map NewOrder.noOId).min?

def selectOrders (wId dId oId : Int) : List Order :=
  db.orders.filter fun o => o.key = (wId, dId, oId)

def selectLines (wId dId oId : Int) : List OrderLine :=
  db.orderLine.filter fun l => l.order = (wId, dId, oId)

def sumAmount (wId dId oId : Int) : Option ℚ :=
  match db.selectLines wId dId oId with
  | [] => none
  | ls => some (ls.map OrderLine.olAmount).sum

/-! ## Changes -/

def incrementNextOId (wId dId : Int) : Database :=
  { db with
    district := update (fun x => x.key = (wId, dId))
      (fun x => { x with dNextOId := x.dNextOId + 1 }) db.district }

def insertNewOrder (n : NewOrder) : Option Database :=
  (insert NewOrder.key db.newOrder n).map fun t => { db with newOrder := t }

def insertOrder (o : Order) : Option Database :=
  (insert Order.key db.orders o).map fun t => { db with orders := t }

def insertOrderLine (l : OrderLine) : Option Database :=
  (insert OrderLine.key db.orderLine l).map fun t => { db with orderLine := t }

def updateStock (iId wId : Int) (f : Stock → Stock) : Database :=
  { db with stock := update (fun s => s.key = (iId, wId)) f db.stock }

def deleteNewOrder (wId dId oId : Int) : Database :=
  { db with newOrder := delete (fun n => n.key = (wId, dId, oId)) db.newOrder }

def setCarrier (wId dId oId oCarrierId : Int) : Database :=
  { db with
    orders := update (fun o => o.key = (wId, dId, oId))
      (fun o => { o with oCarrierId := some oCarrierId }) db.orders }

def setDeliveryD (wId dId oId : Int) : Database :=
  { db with
    orderLine := update (fun l => l.order = (wId, dId, oId))
      (fun l => { l with olDeliveryD := some .currentTimestamp }) db.orderLine }

def updateCustomer (wId dId cId : Int) (f : Customer → Customer) : Database :=
  { db with customer := update (fun c => c.key = (wId, dId, cId)) f db.customer }

def payWarehouse (wId : Int) (hAmount : ℚ) : Database :=
  { db with
    warehouse := update (fun w => w.wId = wId) (fun w => { w with wYtd := w.wYtd + hAmount })
      db.warehouse }

def payDistrict (wId dId : Int) (hAmount : ℚ) : Database :=
  { db with
    district := update (fun x => x.key = (wId, dId))
      (fun x => { x with dYtd := x.dYtd + hAmount }) db.district }

/-- The table has no key. -/
def insertHistory (h : History) : Database := { db with history := db.history ++ [h] }

end Database

/-- The delivery's credit to a customer. -/
def Customer.credit (olAmount : ℚ) (c : Customer) : Customer :=
  { c with cDeliveryCnt := c.cDeliveryCnt + 1, cBalance := c.cBalance + olAmount }

end Dbt2
