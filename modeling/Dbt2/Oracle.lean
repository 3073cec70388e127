import Dbt2.Plpgsql
import Dbt2.Rows

/-!
# Oracle

The procedures `neworder` and `delivery`, and the client that calls a procedure and retries. A
procedure raises Oracle's error numbers.

* `Oracle.neworder`, `Oracle.delivery`: the procedures;
* `Oracle.call`: what calling one does;
* `Oracle.verdict`: what the client makes of the status that an execution returns.
-/

namespace Dbt2.Oracle

open Locking Prog

def DUP_VAL_ON_INDEX : Int := 1
def NO_DATA_FOUND : Int := 1403
def COLUMN_VALUE_NULL : Int := 1405
def SNAPSHOT_TOO_OLD : Int := 1555
def NOT_SERIALIZABLE : Int := 8177
def ITEM_NOT_VALID : Int := 20001
def NOT_SAFE_REPLAY : Int := 25408
def RECOVERR : Int := -10
def IRRECERR : Int := -20

abbrev Proc (A : Type) := Procedure Key Row Empty Int A

/-! ## New-Order -/

section NewOrder

variable (data : NewOrderData)

def newOrder2 (oId : Int) (i : Nat) (item : Item) (olAmount : ℚ) : Proc OrderLineResult := do
  let l := data.line i
  let stock ← into (selectStockForUpdate l.olIId l.olSupplyWId) NO_DATA_FOUND
  let brandGeneric :=
    if strstr item.iData "ORIGINAL" && strstr stock.sData "ORIGINAL" then 'B' else 'G'
  if stock.sQuantity ≥ l.olQuantity + 10 then
    let _ ← update (.stock l.olIId l.olSupplyWId) fun s =>
      leaveStock data l (s.sQuantity - l.olQuantity) s
  else
    let _ ← update (.stock l.olIId l.olSupplyWId) fun s =>
      leaveStock data l (s.sQuantity - l.olQuantity + 91) s
  insertLine (Plpgsql.orderLineRow data oId i olAmount (some (stock.sDist.get data.dist)))
    DUP_VAL_ON_INDEX
  pure { iPrice := item.iPrice, iName := item.iName, sQuantity := stock.sQuantity, olAmount
         brandGeneric }

/-- The only `NO_DATA_FOUND` that the procedure handles. -/
def selectItemInto (olIId : Int) : Proc Item :=
  handle (into (selectItem .latest olIId) NO_DATA_FOUND) fun e =>
    raise (if e = NO_DATA_FOUND then ITEM_NOT_VALID else e)

def newOrderLine (oId : Int) (i : Nat) : Proc OrderLineResult := do
  let item ← selectItemInto (data.line i).olIId
  newOrder2 data oId i item (item.iPrice * (data.line i).olQuantity)

def neworder : Proc NewOrderResult := do
  let warehouse ← into (selectWarehouse .latest data.wId) NO_DATA_FOUND
  let district ← into (selectDistrictForUpdate data.wId data.dId) NO_DATA_FOUND
  let oId := district.dNextOId
  let _ ← update (.district data.wId data.dId) District.advance
  let customer ← into (selectCustomer .latest data.wId data.dId data.cId) NO_DATA_FOUND
  insert (.newOrder data.wId data.dId oId) { noOId := oId, noDId := data.dId, noWId := data.wId }
    DUP_VAL_ON_INDEX
  insert (.orders data.wId data.dId oId) (orderRow data oId) DUP_VAL_ON_INDEX
  let lines ← loop (newOrderLine data oId) data.oOlCnt
  pure
    { oId, wTax := warehouse.wTax, dTax := district.dTax, cDiscount := customer.cDiscount
      cLast := customer.cLast, cCredit := customer.cCredit
      totalAmount := (lines.map OrderLineResult.olAmount).sum, orderLine := lines }

end NewOrder

/-! ## Delivery -/

section Delivery

variable (ids : Int → Int → List Int) (data : DeliveryData)

/-- The `i`-th round is for district `i + 1`. The order is not locked before it is deleted. -/
def deliveryDistrict (i : Nat) : Proc Unit := do
  let dId : Int := i + 1
  let found ← find .latest (oldest (ids data.wId dId) data.wId dId)
  match noOId found with
  | some tmpOId =>
    let _ ← delete (.newOrder data.wId dId tmpOId)
    let order ← into (selectOrdersForUpdate data.wId dId tmpOId) NO_DATA_FOUND
    let _ ← update (.orders data.wId dId tmpOId) (Order.carry data.oCarrierId)
    let _ ← update (.lines data.wId dId tmpOId) deliverLines
    let lines ← selectLines .latest data.wId dId tmpOId
    let _ ← update (.customer data.wId dId order.oCId) (CustomerRow.credit (sumAmount lines))
    pure ()
  | none => pure ()

def delivery : Proc Unit := do
  let _ ← loop (deliveryDistrict ids data) 10
  pure ()

end Delivery

/-! ## The client -/

/-- The status that an OCI call returns. An error may have several records, of which the
classifier looks at the first and the last. -/
inductive OciStatus where
  | success
  | successWithInfo
  | needData
  | noData
  | error (first last : Int)
  | invalidHandle
  | stillExecuting
  | continue
  | other
  deriving DecidableEq

/-- None if the program exits. -/
def ocierror : OciStatus → Option Int
  | .success | .successWithInfo => some RECOVERR
  | .needData | .noData | .stillExecuting | .continue | .other => some IRRECERR
  | .error first last =>
    some (if first ∈ [NOT_SERIALIZABLE, SNAPSHOT_TOO_OLD, NOT_SAFE_REPLAY, COLUMN_VALUE_NULL,
      NO_DATA_FOUND, ITEM_NOT_VALID] then first else last)
  | .invalidHandle => none

inductive Verdict where
  | again
  | returned (rc rollback : Int)
  | exit
  deriving DecidableEq

/-- Whether an error code is taken for one that the call may be repeated after. -/
def retried (errcode : Int) : Bool :=
  errcode ∈ [NOT_SERIALIZABLE, RECOVERR, SNAPSHOT_TOO_OLD, NOT_SAFE_REPLAY, COLUMN_VALUE_NULL]

/-- `rollback` is the flag that an error code sets. -/
def verdict (rollback : Int → Int) (execstatus : OciStatus) : Verdict :=
  if execstatus ≠ .noData ∧ execstatus ≠ .success then
    match ocierror execstatus with
    | none => .exit
    | some errcode => if retried errcode then .again else .returned ERROR (rollback errcode)
  else if execstatus = .noData then .returned ERROR 0
  else .returned OK 0

def executeNewOrderOracle : OciStatus → Verdict :=
  verdict fun errcode => if errcode = ITEM_NOT_VALID then 1 else 0

def executePaymentOracle : OciStatus → Verdict := verdict fun _ => 0

/-- Whether `CALL` reports a success, with which the call is committed. -/
def commits {A : Type} : Except Int A → Bool
  | .ok _ => true
  | .error e => e = NO_DATA_FOUND

/-- `CALL` reports an unhandled `NO_DATA_FOUND` as a success and undoes nothing; any other error it
reports, and undoes the whole call. -/
def call {A : Type} (procedure : Proc A) (rows : Rows) : OciStatus × Rows :=
  match exec (alone rows) procedure (rows, []) with
  | (.ok _, left, _) => (.success, left)
  | (.error e, left, _) => if e = NO_DATA_FOUND then (.success, left) else (.error e e, rows)

/-- The retry loop over the calls that it may make; none if it would make another. -/
def attempts {S : Type} (verdict : OciStatus → Verdict) :
    List (S → OciStatus × S) → S → Option (Verdict × S)
  | [], _ => none
  | call :: calls, s =>
    if verdict (call s).1 = .again then attempts verdict calls (call s).2
    else some (verdict (call s).1, (call s).2)

end Dbt2.Oracle
