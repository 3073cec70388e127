import Dbt2.Backends
import Dbt2.Sqlite
import Dbt2.StockLevel
import Dbt2.Lib.Program

/-!
# The nonsp functions, statement by statement

The functions of the `nonsp` backend on SQLite, any of whose statements may fail: when it is
prepared, in its first step, or in a later step that should give the next row. Of a row there are
the columns that decide what is done next. `sql_getvalue_sqlite` copies no bytes of a null column,
so a null is the empty text to whoever looks at it.

* `NonspQuery`: the statements with their parameters;
* `Answer`: what `sql_execute_sqlite` and `sql_fetchrow_sqlite` make of one;
* `NonspData.nonsp`: the transactions;
* `Service`: a database that answers, with the failures that there are.
-/

namespace Dbt2

open Prog

/-! ## Statements -/

inductive NonspQuery where
  | integrity1
  | delivery1 (wId dId : Int)
  | delivery2 (noOId wId dId : Int)
  | delivery3 (noOId wId dId : Int)
  | delivery4 (oCarrierId noOId wId dId : Int)
  | delivery5 (noOId wId dId : Int)
  | delivery6 (noOId wId dId : Int)
  | delivery7 (olAmount : Option ℚ) (oCId : Option Int) (wId dId : Int)
  | newOrder1 (wId : Int)
  | newOrder2 (wId dId : Int)
  | newOrder3 (wId dId : Int)
  | newOrder4 (wId dId cId : Int)
  | newOrder5 (dNextOId : Option Int) (wId dId : Int)
  | newOrder6 (dNextOId : Option Int) (dId wId cId : Int) (oOlCnt : Nat) (oAllLocal : Int)
  | newOrder7 (olIId : Int)
  | newOrder8 (sDist : Fin 10) (olIId wId : Int)
  | newOrder9 (decrQuantity olIId wId : Int)
  | newOrder10 (dNextOId : Option Int) (dId wId : Int) (olNumber : Nat) (l : NoOrderLine)
      (olAmount : ℚ) (mySDist : String)
  | orderStatus1 (cWId cDId : Int) (cLast : String)
  | orderStatus2 (cWId cDId cId : Int)
  | orderStatus3 (cWId cDId cId : Int)
  | orderStatus4 (cWId cDId oId : Int)
  | payment1 (wId : Int)
  | payment2 (hAmount : ℚ) (wId : Int)
  | payment3 (dId wId : Int)
  | payment4 (hAmount : ℚ) (dId wId : Int)
  | payment5 (cWId cDId : Int) (cLast : String)
  | payment6 (cWId cDId cId : Int)
  | payment7Gc (hAmount : ℚ) (cId cWId cDId : Int)
  | payment7Bc (hAmount : ℚ) (cData : String) (cId cWId cDId : Int)
  | payment8 (cId cDId cWId dId wId : Int) (hAmount : ℚ) (wName dName : String)
  | stockLevel1 (wId dId : Int)
  | stockLevel2 (dId wId threshold low high : Int)

namespace NonspQuery

/-- The columns that are used, where a null makes a difference as such. A statement that changes
rows returns none. -/
abbrev Row : NonspQuery → Type
  | delivery1 .. | delivery3 .. | newOrder2 .. | orderStatus1 .. | payment5 .. | stockLevel1 ..
  | stockLevel2 .. | integrity1 => Option Int
  | delivery6 .. | newOrder7 .. => Option ℚ
  | orderStatus3 .. => Int
  | newOrder8 .. => Option Int × String
  | payment1 .. | payment3 .. => String
  | payment6 .. => Option String
  | newOrder1 .. | newOrder4 .. | orderStatus2 .. | orderStatus4 ..
  | delivery2 .. | delivery4 .. | delivery5 .. | delivery7 .. | newOrder3 .. | newOrder5 ..
  | newOrder6 .. | newOrder9 .. | newOrder10 .. | payment2 .. | payment4 .. | payment7Gc ..
  | payment7Bc .. | payment8 .. => Unit

/-- With the empty text for a value, an operand is missing. -/
def parses : NonspQuery → Bool
  | delivery7 olAmount oCId .. => olAmount.isSome && oCId.isSome
  | newOrder5 dNextOId .. | newOrder6 dNextOId .. | newOrder10 dNextOId .. => dNextOId.isSome
  | _ => true

end NonspQuery

/-- `atoi` of a column; of the empty text it is 0. -/
def atoiColumn (column : Option Int) : Int := column.getD 0

def atofColumn (column : Option ℚ) : ℚ := column.getD 0

/-- `sql_execute_sqlite` takes the first step. `broken` is whether the step after the rows fails,
for which `sql_fetchrow_sqlite` returns what it returns at their end. -/
inductive Answer (R : Type) where
  | failed
  | noRow
  | row (first : R) (rest : List R) (broken : Bool)

/-- A function ends early with the code that it returns, or by writing outside an array, after
which nothing is known of it. -/
inductive NonspStop where
  | rc (rc : Int)
  | overrun
  deriving DecidableEq

abbrev NonspProc (A : Type) := Prog NonspQuery (fun q => Answer q.Row) NonspStop A

/-- A statement that must not fail. -/
def change (q : NonspQuery) (rc : Int) : NonspProc Unit := do
  let answer ← send q
  match answer with
  | .failed => raise (.rc rc)
  | .noRow | .row _ _ _ => pure ()

/-- A query that must have a row, and what is read of its rows. -/
def select {A : Type} (q : NonspQuery) (rc : Int) (read : q.Row → List q.Row → Option A) :
    NonspProc A := do
  let answer ← send q
  match answer with
  | .failed | .noRow => raise (.rc rc)
  | .row first rest _ => orRaise (read first rest) (.rc (-1))

/-- A query that may fail as well as have no row. -/
def selectIfAny (q : NonspQuery) : NonspProc (Option q.Row) := do
  let answer ← send q
  match answer with
  | .failed | .noRow => pure none
  | .row first _ _ => pure (some first)

/-- The middle one of the ids; none if that is -1. -/
def middleId (first : Option Int) (rest : List (Option Int)) : Option Int :=
  let cIds := (first :: rest).map atoiColumn
  (cIds[(cIds.length - 1) / 2]?).filter (· ≠ -1)

structure OrderStatusData where
  cId : Int
  cWId : Int
  cDId : Int
  cLast : String
  deriving DecidableEq

namespace NonspClient

/-! ## The transactions -/

def integrityNonsp (wId : Int) : NonspProc Unit := do
  let _ ← select .integrity1 (-1) fun count _ => (some (atoiColumn count)).filter (· = wId)
  pure ()

/-- The `i`-th round is for district `i + 1`, which is passed over if DELIVERY_1 fails. -/
def deliveryDistrict (data : DeliveryData) (i : Nat) : NonspProc Unit := do
  let found ← selectIfAny (.delivery1 data.wId (i + 1))
  match found with
  | none => pure ()
  | some noOId =>
    let noOId := atoiColumn noOId
    if 0 < noOId then do
      change (.delivery2 noOId data.wId (i + 1)) (-1)
      let oCId ← select (.delivery3 noOId data.wId (i + 1)) (-1) fun oCId _ => some oCId
      change (.delivery4 data.oCarrierId noOId data.wId (i + 1)) (-1)
      change (.delivery5 noOId data.wId (i + 1)) (-1)
      let olAmount ← select (.delivery6 noOId data.wId (i + 1)) (-1) fun olAmount _ => some olAmount
      change (.delivery7 olAmount oCId data.wId (i + 1)) (-1)
    else pure ()

def deliveryNonsp (data : DeliveryData) : NonspProc Unit := do
  let _ ← loop (deliveryDistrict data) 10
  pure ()

def newOrderLine (data : NewOrderData) (dNextOId : Option Int) (i : Nat) : NonspProc Unit :=
  if (data.line i).olIId ≠ 0 then do
    let iPrice ← select (.newOrder7 (data.line i).olIId) (-1) fun iPrice _ => some iPrice
    let (sQuantity, mySDist) ← select (.newOrder8 data.dist (data.line i).olIId data.wId) 16
      fun stock _ => some stock
    change (.newOrder9 (decrQuantity (atoiColumn sQuantity) (data.line i).olQuantity)
      (data.line i).olIId data.wId) 17
    change (.newOrder10 dNextOId data.dId data.wId (i + 1) (data.line i)
      (atofColumn iPrice * (data.line i).olQuantity) mySDist) 18
  else raise (.rc 2)

def newOrderNonsp (data : NewOrderData) : NonspProc Unit := do
  let _ ← select (.newOrder1 data.wId) 10 fun wTax _ => some wTax
  let dNextOId ← select (.newOrder2 data.wId data.dId) 11 fun dNextOId _ => some dNextOId
  change (.newOrder3 data.wId data.dId) 12
  let _ ← select (.newOrder4 data.wId data.dId data.cId) 13 fun customer _ => some customer
  change (.newOrder5 dNextOId data.wId data.dId) 14
  change (.newOrder6 dNextOId data.dId data.wId data.cId data.oOlCnt data.oAllLocal) 15
  let _ ← loop (newOrderLine data dNextOId) data.oOlCnt
  pure ()

def orderStatusCustomer (data : OrderStatusData) : NonspProc Int :=
  if data.cId = 0 then select (.orderStatus1 data.cWId data.cDId data.cLast) (-1) middleId
  else pure data.cId

def orderStatusNonsp (data : OrderStatusData) : NonspProc Unit := do
  let myCId ← orderStatusCustomer data
  let _ ← select (.orderStatus2 data.cWId data.cDId myCId) (-1) fun customer _ => some customer
  let oId ← select (.orderStatus3 data.cWId data.cDId myCId) (-1) fun oId _ => some oId
  let lines ← select (.orderStatus4 data.cWId data.cDId oId) (-1)
    fun first rest => some (first :: rest)
  -- The arrays for the lines have 15 entries, and nothing bounds the loop over the rows.
  if 15 < lines.length then raise .overrun else pure ()

def paymentCustomer (data : PaymentData) : NonspProc Int :=
  if data.cId = 0 then select (.payment5 data.cWId data.cDId data.cLast) (-1) middleId
  else pure data.cId

/-- Only the first character of the credit is looked at. -/
def payment7 (data : PaymentData) (myCId : Int) (cCredit : String) : NonspProc Unit :=
  if cCredit.toList.head? = some 'G' then
    change (.payment7Gc data.hAmount myCId data.cWId data.cDId) (-1)
  else
    change (.payment7Bc data.hAmount (paymentText Nonsp.paymentCode data myCId) myCId data.cWId
      data.cDId) (-1)

def paymentNonsp (data : PaymentData) : NonspProc Unit := do
  let wName ← select (.payment1 data.wId) (-1) fun wName _ => some wName
  change (.payment2 data.hAmount data.wId) (-1)
  let dName ← select (.payment3 data.dId data.wId) (-1) fun dName _ => some dName
  change (.payment4 data.hAmount data.dId data.wId) (-1)
  let myCId ← paymentCustomer data
  let cCredit ← select (.payment6 data.cWId data.cDId myCId) (-1) fun cCredit _ => some cCredit
  payment7 data myCId (cCredit.getD "")
  change (.payment8 myCId data.cDId data.cWId data.dId data.wId data.hAmount wName dName) (-1)

/-- The count is what the function returns, and -1 would be an error. -/
def stockLevelNonsp (data : StockLevelData) : NonspProc Unit := do
  let dNextOId ← select (.stockLevel1 data.wId data.dId) (-1)
    fun dNextOId _ => some (atoiColumn dNextOId)
  let _ ← select (.stockLevel2 data.dId data.wId data.threshold (dNextOId - 20) (dNextOId - 1)) (-1)
    fun lowStock _ => (some (atoiColumn lowStock)).filter (· ≠ -1)
  pure ()

end NonspClient

inductive NonspData where
  | integrity (wId : Int)
  | delivery (data : DeliveryData)
  | newOrder (data : NewOrderData)
  | orderStatus (data : OrderStatusData)
  | payment (data : PaymentData)
  | stockLevel (data : StockLevelData)

namespace NonspData

def transaction : NonspData → Int
  | integrity _ => INTEGRITY
  | delivery _ => DELIVERY
  | newOrder _ => NEW_ORDER
  | orderStatus _ => ORDER_STATUS
  | payment _ => PAYMENT
  | stockLevel _ => STOCK_LEVEL

def nonsp : NonspData → NonspProc Unit
  | integrity wId => NonspClient.integrityNonsp wId
  | delivery data => NonspClient.deliveryNonsp data
  | newOrder data => NonspClient.newOrderNonsp data
  | orderStatus data => NonspClient.orderStatusNonsp data
  | payment data => NonspClient.paymentNonsp data
  | stockLevel data => NonspClient.stockLevelNonsp data

end NonspData

/-! ## A database that answers -/

/-- What a function does with the result of a statement. -/
inductive NonspKind where
  | change
  | one
  | all
  | ifAny
  deriving DecidableEq

namespace NonspQuery

def kind : NonspQuery → NonspKind
  | delivery1 .. => .ifAny
  | orderStatus1 .. | orderStatus4 .. | payment5 .. => .all
  | integrity1 | delivery3 .. | delivery6 .. | newOrder1 .. | newOrder2 .. | newOrder4 ..
  | newOrder7 .. | newOrder8 .. | orderStatus2 .. | orderStatus3 .. | payment1 .. | payment3 ..
  | payment6 .. | stockLevel1 .. | stockLevel2 .. => .one
  | delivery2 .. | delivery4 .. | delivery5 .. | delivery7 .. | newOrder3 .. | newOrder5 ..
  | newOrder6 .. | newOrder9 .. | newOrder10 .. | payment2 .. | payment4 .. | payment7Gc ..
  | payment7Bc .. | payment8 .. => .change

end NonspQuery

/-- Which statement fails: where its transaction begins, when it is prepared, or in a step. Some
errors of a step make SQLite roll the transaction back by itself. -/
inductive Fault where
  | begin
  | prepare
  | step (k : Nat) (rollsBack : Bool)
  deriving DecidableEq

/-- The rows that statements return, and the database that they leave. -/
structure Service (S : Type) where
  perform : (q : NonspQuery) → S → List q.Row × S

abbrev NonspExchange : Type := (q : NonspQuery) × Answer q.Row

/-- What is committed and what is seen on the connection, the flag of the client, and whether
SQLite has a transaction open. -/
structure NonspConnection (S : Type) where
  committed : S
  working : S
  inTransaction : Bool
  active : Bool

namespace NonspConnection

variable {S : Type}

def opened (db : S) : NonspConnection S :=
  { committed := db, working := db, inTransaction := false, active := false }

def begun (c : NonspConnection S) : NonspConnection S :=
  if c.inTransaction then c else { c with inTransaction := true, active := true }

/-- Without a transaction a statement is committed by itself. -/
def perform (c : NonspConnection S) (db : S) : NonspConnection S :=
  { c with working := db, committed := if c.active then c.committed else db }

def rolledBack (c : NonspConnection S) : NonspConnection S :=
  { c with working := c.committed, active := false }

end NonspConnection

/-- The connection, the failures of the statements to come, and the statements so far. -/
structure NonspRun (S : Type) where
  connection : NonspConnection S
  faults : List (Option Fault)
  log : List NonspExchange

namespace Service

variable {S : Type} (service : Service S)

/-- A statement that fails leaves no changes of its own. A step after the last does not happen, and
a second step only where all rows are asked for. -/
def answer (fault : Option Fault) (q : NonspQuery) (c : NonspConnection S) :
    Answer q.Row × NonspConnection S :=
  if fault = some .begin ∧ c.inTransaction = false then (.failed, c)
  else if fault = some .prepare ∨ q.parses = false then (.failed, c.begun)
  else
    let c := c.begun
    match fault, q.kind, service.perform q c.working with
    | some (.step 0 rollsBack), _, _ => (.failed, if rollsBack then c.rolledBack else c)
    | some (.step (k + 1) rollsBack), .all, (first :: rest, db') =>
      if k ≤ rest.length then
        (.row first (rest.take k) true, if rollsBack then c.rolledBack else c)
      else (.row first rest false, c.perform db')
    | _, _, (first :: rest, db') => (.row first rest false, c.perform db')
    | _, _, ([], db') => (.noRow, c.perform db')

def on (q : NonspQuery) (s : NonspRun S) : Answer q.Row × NonspRun S :=
  let result := service.answer s.faults.head?.join q s.connection
  (result.1,
    { connection := result.2, faults := s.faults.tail, log := s.log ++ [⟨q, result.1⟩] })

/-- What the `execute_` functions of nonsp return, unless they write outside an array, and how they
leave the connection. -/
def executeNonsp (data : NonspData) (faults : List (Option Fault)) (db : S) :
    Option Int × NonspRun S :=
  match exec service.on data.nonsp { connection := .opened db, faults, log := [] } with
  | (.ok _, s) => (some OK, s)
  | (.error (.rc _), s) => (some ERROR, s)
  | (.error .overrun, s) => (none, s)

end Service

end Dbt2
