import Dbt2.Transactions
import Dbt2.Lib.Locking

/-!
# Rows and SQL statements

The tables as rows under their primary keys, for procedures whose statements may be interleaved
with those of others or cut off by an error. The lines of an order are one row here: a New-Order
adds to them and a Delivery updates them all.

A statement is one `read`, `lock` or `write` of a row. A query for the oldest outstanding order of
a district looks through the ids that its rows in `NEW_ORDER` may have.
-/

namespace Dbt2

open Locking Prog

inductive Key where
  | warehouse (wId : Int)
  | district (wId dId : Int)
  | customer (wId dId cId : Int)
  | newOrder (wId dId oId : Int)
  | orders (wId dId oId : Int)
  | lines (wId dId oId : Int)
  | item (iId : Int)
  | stock (iId wId : Int)
  deriving DecidableEq

/-- A customer's row, whose balance a sum over no lines makes null. -/
structure CustomerRow extends Customer where
  balanceNull : Bool := false
  deriving DecidableEq

abbrev Row : Key → Type
  | .warehouse _ => Warehouse
  | .district _ _ => District
  | .customer _ _ _ => CustomerRow
  | .newOrder _ _ _ => NewOrder
  | .orders _ _ _ => Order
  | .lines _ _ _ => List OrderLine
  | .item _ => Item
  | .stock _ _ => Stock

abbrev Rows := Store Key Row

/-- The rows of a database. -/
def Database.rows (db : Database) : Rows
  | .warehouse wId => db.selectWarehouse wId
  | .district wId dId => db.selectDistrict wId dId
  | .customer wId dId cId => (db.selectCustomer wId dId cId).map fun c => { c with }
  | .newOrder wId dId oId => db.newOrder.find? fun n => n.key = (wId, dId, oId)
  | .orders wId dId oId => db.orders.find? fun o => o.key = (wId, dId, oId)
  | .lines wId dId oId =>
    match db.selectLines wId dId oId with
    | [] => none
    | ls => some ls
  | .item iId => db.selectItem iId
  | .stock iId wId => db.selectStock iId wId

/-! ## Statements -/

section Statements

variable {O E : Type}

def selectWarehouse (mode : Mode) (wId : Int) : Procedure Key Row O E (Option Warehouse) :=
  read mode (Key.warehouse wId)

def selectDistrictForUpdate (wId dId : Int) : Procedure Key Row O E (Option District) :=
  lock (Key.district wId dId)

def selectCustomer (mode : Mode) (wId dId cId : Int) : Procedure Key Row O E (Option CustomerRow) :=
  read mode (Key.customer wId dId cId)

def selectItem (mode : Mode) (iId : Int) : Procedure Key Row O E (Option Item) :=
  read mode (Key.item iId)

def selectStock (mode : Mode) (iId wId : Int) : Procedure Key Row O E (Option Stock) :=
  read mode (Key.stock iId wId)

def selectStockForUpdate (iId wId : Int) : Procedure Key Row O E (Option Stock) :=
  lock (Key.stock iId wId)

def selectOrdersForUpdate (wId dId oId : Int) : Procedure Key Row O E (Option Order) :=
  lock (Key.orders wId dId oId)

def selectLines (mode : Mode) (wId dId oId : Int) :
    Procedure Key Row O E (Option (List OrderLine)) := read mode (Key.lines wId dId oId)

/-- `SELECT … INTO`, where no row is an error. -/
def into {A : Type} (query : Procedure Key Row O E (Option A)) (noData : E) :
    Procedure Key Row O E A := do
  let row ← query
  orRaise row noData

/-- The reply is the row before the update. -/
def update (k : Key) (f : Row k → Row k) : Procedure Key Row O E (Option (Row k)) :=
  write k (Option.map f)

def delete (k : Key) : Procedure Key Row O E (Option (Row k)) := write k fun _ => none

/-- An insertion fails if the key is in use. -/
def insert (k : Key) (row : Row k) (duplicate : E) : Procedure Key Row O E Unit := do
  let old ← write k fun old => old <|> some row
  if old.isSome then raise duplicate else pure ()

def numberUsed (l : OrderLine) (ls : Option (List OrderLine)) : Bool :=
  (ls.getD []).any fun l' => l'.olNumber = l.olNumber

def addLine (l : OrderLine) (ls : Option (List OrderLine)) : Option (List OrderLine) :=
  if numberUsed l ls then ls else some (ls.getD [] ++ [l])

def insertLine (l : OrderLine) (duplicate : E) : Procedure Key Row O E Unit := do
  let old ← write (.lines l.olWId l.olDId l.olOId) (addLine l)
  if numberUsed l old then raise duplicate else pure ()

section Alone

variable {called : Rows} {s : Rows × List O} {duplicate : E}

theorem insert_fresh {k : Key} {row : Row k} (fresh : s.1 k = none) :
    exec (alone called) (insert k row duplicate) s =
      (.ok (), Function.update s.1 k (some row), s.2) := by
  unfold insert
  simp only [send_bind, exec_issue, alone, fresh]
  rfl

theorem insert_used {k : Key} {row : Row k} (used : (s.1 k).isSome) :
    exec (alone called) (insert k row duplicate) s = (.error duplicate, s) := by
  obtain ⟨old, there⟩ := Option.isSome_iff_exists.mp used
  unfold insert
  simp only [send_bind, exec_issue, alone, there, Option.isSome_some, if_true, exec_raise]
  have same : Function.update s.1 k (some old) = s.1 := by
    rw [← there]
    exact Function.update_eq_self k s.1
  exact congrArg (fun rows => (Except.error duplicate, rows, s.2)) same

theorem insertLine_fresh {l : OrderLine}
    (fresh : numberUsed l (s.1 (.lines l.olWId l.olDId l.olOId)) = false) :
    exec (alone called) (insertLine l duplicate) s =
      (.ok (), Function.update s.1 (.lines l.olWId l.olDId l.olOId)
        (some ((s.1 (.lines l.olWId l.olDId l.olOId)).getD [] ++ [l])), s.2) := by
  unfold insertLine
  simp only [send_bind, exec_issue, alone, fresh, Bool.false_eq_true, if_false, exec_pure, addLine]

theorem insertLine_used {l : OrderLine}
    (used : numberUsed l (s.1 (.lines l.olWId l.olDId l.olOId))) :
    exec (alone called) (insertLine l duplicate) s = (.error duplicate, s) := by
  unfold insertLine
  simp only [send_bind, exec_issue, alone, used, if_true, exec_raise, addLine]
  exact congrArg (fun rows => (Except.error duplicate, rows, s.2)) (Function.update_eq_self _ s.1)

end Alone

end Statements

/-! ## Rows that a New-Order writes -/

def District.advance (x : District) : District := { x with dNextOId := x.dNextOId + 1 }

/-- What a line adds to the counters of its stock row, which it leaves with `sQuantity`. -/
def leaveStock (data : NewOrderData) (l : NoOrderLine) (sQuantity : Int) (s : Stock) : Stock :=
  { s with
    sQuantity
    sYtd := s.sYtd + l.olQuantity
    sOrderCnt := s.sOrderCnt + 1
    sRemoteCnt := s.sRemoteCnt + if l.olSupplyWId ≠ data.wId then 1 else 0 }

/-! ## Rows that a Delivery reads and writes -/

/-- The district's row in `NEW_ORDER` with the lowest id, of the ids that there may be. -/
def oldest (ids : List Int) (wId dId : Int) (rows : Rows) : Option Key :=
  ((ids.filter fun o => (rows (.newOrder wId dId o)).isSome).min?).map (.newOrder wId dId)

def noOId : Option Key → Option Int
  | some (.newOrder _ _ oId) => some oId
  | _ => none

def Order.carry (oCarrierId : Int) (o : Order) : Order := { o with oCarrierId := some oCarrierId }

def deliverLines (ls : List OrderLine) : List OrderLine :=
  ls.map fun l => { l with olDeliveryD := some .currentTimestamp }

/-- `SUM(ol_amount)`, null if there are no lines. -/
def sumAmount : Option (List OrderLine) → Option ℚ
  | none | some [] => none
  | some ls => some (ls.map OrderLine.olAmount).sum

/-- Adding null makes the balance null. -/
def CustomerRow.credit (olAmount : Option ℚ) (c : CustomerRow) : CustomerRow :=
  match olAmount with
  | some olAmount => { c with toCustomer := c.toCustomer.credit olAmount }
  | none => { c with cDeliveryCnt := c.cDeliveryCnt + 1, balanceNull := true }

end Dbt2
