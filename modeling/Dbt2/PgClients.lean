import Dbt2.Backends
import Dbt2.ProcessTransaction
import Dbt2.Lib.Program

/-!
# Clients of PostgreSQL and CockroachDB

The `execute_` functions of the libpq and the cockroach backend, query by query, on a connection
that may be lost at each of them. What a query asks for is left out, since its result may be
anything.

* `PGresult`, `Conn`: results, and the connections they come from;
* `Libpq.execute`: a transaction block with one function call;
* `Cockroach.execute`: a transaction block with one query after the other;
* `converse`: a function's queries with the answers that they get.
-/

namespace Dbt2

open Prog

inductive PgQuery where
  | begin
  | commit
  | rollback
  | udf (transaction : Int)
  | numbered (transaction : Int) (n : Nat)
  | payment5 (gc : Bool)
  deriving DecidableEq

/-- A result, and the message that `PQerrorMessage` has if it is an error. -/
inductive PGresult where
  | commandOk
  | tuplesOk (tuples : List (List String))
  | error (sqlstate : Option String) (message : String)
  deriving DecidableEq

def NO_CONNECTION : String := "no connection to the server\n"

namespace PGresult

def isError : PGresult → Bool
  | error _ _ => true
  | commandOk | tuplesOk _ => false

def noConnection : PGresult → Bool
  | error _ message => message = NO_CONNECTION
  | commandOk | tuplesOk _ => false

end PGresult

/-- What the functions read of their data to decide which query comes next. -/
inductive TransactionData where
  | integrity
  | delivery
  | newOrder (oOlCnt : Nat)
  | orderStatus (cId : Int)
  | payment (cId : Int)
  | stockLevel
  deriving DecidableEq

def TransactionData.transaction : TransactionData → Int
  | integrity => INTEGRITY
  | delivery => DELIVERY
  | newOrder _ => NEW_ORDER
  | orderStatus _ => ORDER_STATUS
  | payment _ => PAYMENT
  | stockLevel => STOCK_LEVEL

abbrev PgProc (A : Type) := Prog PgQuery (fun _ => PGresult) Failure A

/-- A query whose result must have no tuples. -/
def command (failed : PGresult → Failure) (q : PgQuery) : PgProc Unit := do
  let res ← send q
  match res with
  | .commandOk => pure ()
  | .tuplesOk _ | .error _ _ => raise (failed res)

def tuples (failed : PGresult → Failure) (q : PgQuery) : PgProc (List (List String)) := do
  let res ← send q
  match res with
  | .tuplesOk tuples => pure tuples
  | .commandOk | .error _ _ => raise (failed res)

def commitTransaction (res : PGresult) (bad : Bool) : Int :=
  match res with
  | .commandOk => OK
  | .tuplesOk _ | .error _ _ => if bad then RECONNECT else ERROR

/-! ## libpq -/

namespace Libpq

/-- `rollback` is the flag of a New-Order as it was before the call. -/
def failed (rollback : Int) (res : PGresult) : Failure where
  rc := if res.noConnection then RECONNECT else ERROR
  rollback

/-- The intentional rollback of a New-Order has an SQL state of its own. -/
def newOrderFailed (rollback : Int) : PGresult → Failure
  | .error (some "DBT2R") _ => { rc := ERROR, rollback := 1 }
  | res => if res.noConnection then { rc := RECONNECT, rollback } else { rc := ERROR, rollback := 0 }

/-- The value is the flag after the call. -/
def execute (rollback : Int) : TransactionData → PgProc Int
  | .integrity => pure rollback
  | .newOrder _ => do
    command (failed rollback) .begin
    let _ ← tuples (newOrderFailed rollback) (.udf NEW_ORDER)
    pure 0
  | data => do
    command (failed rollback) .begin
    let _ ← tuples (failed rollback) (.udf data.transaction)
    pure rollback

def rollbackTransactionLibpq (res : PGresult) (bad : Bool) : Int :=
  match res with
  | .commandOk => STATUS_ROLLBACK
  | .tuplesOk _ | .error _ _ => if bad then RECONNECT else STATUS_ROLLBACK

end Libpq

/-! ## cockroach -/

namespace Cockroach

section Execute

variable (rollback : Int)

def failed (_ : PGresult) : Failure := { rc := ERROR, rollback }

/-- A query that must have some tuples. -/
def someTuples (q : PgQuery) : PgProc (List (List String)) := do
  let res ← tuples (failed rollback) q
  if res = [] then raise { rc := ERROR, rollback } else pure res

def deliveryDistrict (_ : Nat) : PgProc Unit := do
  let oldest ← tuples (failed rollback) (.numbered DELIVERY 1)
  if oldest = [] then pure () else
    command (failed rollback) (.numbered DELIVERY 2)
    let orders ← tuples (failed rollback) (.numbered DELIVERY 3)
    if orders.length = 1 then
      command (failed rollback) (.numbered DELIVERY 4)
      let _ ← tuples (failed rollback) (.numbered DELIVERY 5)
      command (failed rollback) (.numbered DELIVERY 6)
    else raise { rc := ERROR, rollback }

def executeDelivery : PgProc Unit := do
  command (failed rollback) .begin
  let _ ← loop (deliveryDistrict rollback) 10
  pure ()

def newOrderLineQueries (_ : Nat) : PgProc Unit := do
  let item ← tuples (failed 0) (.numbered NEW_ORDER 6)
  if item = [] then raise { rc := ERROR, rollback := 1 } else
    let _ ← someTuples 0 (.numbered NEW_ORDER 7)
    command (failed 0) (.numbered NEW_ORDER 8)
    command (failed 0) (.numbered NEW_ORDER 9)

def executeNewOrder (oOlCnt : Nat) : PgProc Unit := do
  command (failed 0) .begin
  let _ ← someTuples 0 (.numbered NEW_ORDER 1)
  let _ ← someTuples 0 (.numbered NEW_ORDER 2)
  let _ ← someTuples 0 (.numbered NEW_ORDER 3)
  command (failed 0) (.numbered NEW_ORDER 4)
  command (failed 0) (.numbered NEW_ORDER 5)
  let _ ← loop newOrderLineQueries oOlCnt
  pure ()

/-- Without an id the customer is looked up by name. -/
def selectByName (q : PgQuery) (cId : Int) : PgProc Unit :=
  if cId = 0 then do
    let _ ← someTuples rollback q
    pure ()
  else pure ()

def executeOrderStatus (cId : Int) : PgProc Unit := do
  command (failed rollback) .begin
  selectByName rollback (.numbered ORDER_STATUS 1) cId
  let _ ← someTuples rollback (.numbered ORDER_STATUS 2)
  let _ ← someTuples rollback (.numbered ORDER_STATUS 3)
  let _ ← someTuples rollback (.numbered ORDER_STATUS 4)
  pure ()

/-- `c_credit` is the eleventh column. -/
def goodCredit (customer : List (List String)) : Bool :=
  ((customer.headD []).getD 10 "").toList.head? = some 'G'

def payment5 (gc : Bool) : PgProc Unit :=
  if gc then command (failed rollback) (.payment5 true)
  else do
    let _ ← someTuples rollback (.payment5 false)
    pure ()

def executePayment (cId : Int) : PgProc Unit := do
  command (failed rollback) .begin
  let _ ← someTuples rollback (.numbered PAYMENT 1)
  let _ ← someTuples rollback (.numbered PAYMENT 2)
  selectByName rollback (.numbered PAYMENT 3) cId
  let customer ← someTuples rollback (.numbered PAYMENT 4)
  payment5 rollback (goodCredit customer)
  let _ ← someTuples rollback (.numbered PAYMENT 6)
  pure ()

def executeStockLevel : PgProc Unit := do
  command (failed rollback) .begin
  let _ ← someTuples rollback (.numbered STOCK_LEVEL 1)
  let _ ← someTuples rollback (.numbered STOCK_LEVEL 2)
  pure ()

/-- The value is the flag after the call. -/
def execute : TransactionData → PgProc Int
  | .integrity => pure rollback
  | .delivery => do executeDelivery rollback; pure rollback
  | .newOrder oOlCnt => do executeNewOrder oOlCnt; pure 0
  | .orderStatus cId => do executeOrderStatus rollback cId; pure rollback
  | .payment cId => do executePayment rollback cId; pure rollback
  | .stockLevel => do executeStockLevel rollback; pure rollback

end Execute

/-- Whatever the result is. -/
def rollbackTransactionCockroach (_ : PGresult) (_ : Bool) : Int := STATUS_ROLLBACK

end Cockroach

/-! ## Connections -/

/-- `bad` is `CONNECTION_BAD`; nothing may be asked of a connection that has been freed. -/
inductive Conn where
  | opened
  | bad
  | closed
  deriving DecidableEq

/-- What becomes of a query: the server answers, or the connection is lost. -/
inductive Exchange where
  | answered (res : PGresult)
  | lost (message : String)
  deriving DecidableEq

def Exchange.isLost : Exchange → Bool
  | answered _ => false
  | lost _ => true

def Conn.exchange : Conn → Exchange → Option (PGresult × Conn)
  | .opened, .answered res => some (res, .opened)
  | .opened, .lost message => some (.error none message, .bad)
  | .bad, _ => some (.error none NO_CONNECTION, .bad)
  | .closed, _ => none

/-- A function's queries with their answers, of which there are as many: what it returns, and the
connection then. -/
def converse : PgProc Int → Conn → List Exchange → Option (Failure × Conn)
  | .done rollback, conn, [] => some ({ rc := OK, rollback }, conn)
  | .raise e, conn, [] => some (e, conn)
  | .issue _ next, conn, a :: as => do
    let (res, conn) ← conn.exchange a
    converse (next res) conn as
  | _, _, _ => none

inductive PgBackend where
  | libpq
  | cockroach
  deriving DecidableEq

namespace PgBackend

def execute : PgBackend → Int → TransactionData → PgProc Int
  | libpq => Libpq.execute
  | cockroach => Cockroach.execute

def rollbackTransaction : PgBackend → PGresult → Bool → Int
  | libpq => Libpq.rollbackTransactionLibpq
  | cockroach => Cockroach.rollbackTransactionCockroach

end PgBackend

end Dbt2
