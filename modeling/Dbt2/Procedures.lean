import Dbt2.MySql
import Dbt2.Oracle

/-!
# The procedures, statement by statement

`new_order` and `delivery` of PostgreSQL, in PL/pgSQL and in C, for executions whose statements are
interleaved. Under read committed a query of a PL/pgSQL procedure sees what was committed last; a
read-only query of a C procedure sees what was committed when the procedure was called.

* `Dialect.newOrder`, `Dialect.delivery`: these and the procedures of MySQL and Oracle, each with
  what its client commits.
-/

namespace Dbt2

open Locking Prog Pgsql

/-- A row that a delivery procedure returns. -/
structure DeliveryRow where
  dId : Int
  oId : Int
  deriving DecidableEq

namespace Plpgsql

abbrev Proc (O A : Type) := Procedure Key Row O PgError A

section NewOrder

variable (data : NewOrderData)

def newOrderLineStatements (header : Header) (i : Nat) : Proc NewOrderRow Unit := do
  let l := data.line i
  let item ← into (selectItem .latest l.olIId) itemNotFound
  let olAmount := item.iPrice * l.olQuantity
  let stock ← selectStock .latest l.olIId l.olSupplyWId
  -- without a row there is nothing to update, whatever a comparison with null decides
  match stock with
  | some s =>
    let _ ← update (.stock l.olIId l.olSupplyWId)
      (updateStock data s.sQuantity (decrQuantity s.sQuantity l.olQuantity) l)
  | none => pure ()
  insertLine (orderLineRow data header.oId i olAmount (stock.map fun s => s.sDist.get data.dist))
    uniqueViolation
  emit
    { header with
      olSupplyWId := l.olSupplyWId, olIId := l.olIId, iName := item.iName
      olQuantity := l.olQuantity, sQuantity := stock.map Stock.sQuantity, iPrice := item.iPrice
      olAmount
      brandGeneric := if strstr item.iData "ORIGINAL" &&
        stock.any (fun s => strstr s.sData "ORIGINAL") then 'B' else 'G' }

def newOrderStatements : Proc NewOrderRow Unit := do
  let warehouse ← selectWarehouse .latest data.wId
  let district ← update (.district data.wId data.dId) District.advance
  let customer ← selectCustomer .latest data.wId data.dId data.cId
  let district ← orRaise district notNullViolation
  let oId := district.dNextOId
  insert (.newOrder data.wId data.dId oId) { noOId := oId, noDId := data.dId, noWId := data.wId }
    uniqueViolation
  insert (.orders data.wId data.dId oId) (orderRow data oId) uniqueViolation
  let _ ← loop (newOrderLineStatements data
    { wTax := warehouse.map Warehouse.wTax, dTax := district.dTax, oId
      cLast := customer.map fun c => c.cLast, cCredit := customer.map fun c => c.cCredit
      cDiscount := customer.map fun c => c.cDiscount }) data.oOlCnt
  pure ()

end NewOrder

section Delivery

variable (ids : Int → Int → List Int) (data : DeliveryData)

/-- The `i`-th round is for district `i + 1`. -/
def deliveryDistrictStatements (i : Nat) : Proc DeliveryRow Unit := do
  let dId : Int := i + 1
  let found ← lockFound (oldest (ids data.wId dId) data.wId dId)
  match noOId found with
  | some oId =>
    let _ ← delete (.newOrder data.wId dId oId)
    let order ← update (.orders data.wId dId oId) (Order.carry data.oCarrierId)
    let _ ← update (.lines data.wId dId oId) deliverLines
    let lines ← selectLines .latest data.wId dId oId
    -- a null customer id matches no row
    match order with
    | some order =>
      let _ ← update (.customer data.wId dId order.oCId) (CustomerRow.credit (sumAmount lines))
    | none => pure ()
    emit { dId, oId }
  | none => pure ()

def deliveryStatements : Proc DeliveryRow Unit := do
  let _ ← loop (deliveryDistrictStatements ids data) 10
  pure ()

end Delivery

end Plpgsql

namespace Pgsql

abbrev Proc (A : Type) := Procedure Key Row Empty PgError A

section NewOrder

variable (data : NewOrderData)

def newOrderLineStatements (oId : Int) (i : Nat) : Proc OrderLineResult := do
  let l := data.line i
  let found ← selectItem .call l.olIId
  let item ← orRaise (if l.olIId = 0 then none else found) (newOrderCode.itemMissing l.olIId)
  let olAmount := item.iPrice * l.olQuantity
  let stock ← into (selectStock .call l.olIId l.olSupplyWId) (newOrderFailed .stock)
  let _ ← update (.stock l.olIId l.olSupplyWId) (takeStock newOrderCode data l stock.sQuantity)
  insertLine (Dbt2.orderLineRow newOrderCode data oId i olAmount (stock.sDist.get data.dist))
    uniqueViolation
  pure
    { iPrice := item.iPrice, iName := item.iName, sQuantity := stock.sQuantity, olAmount
      brandGeneric := if strstr item.iData "ORIGINAL" && strstr stock.sData "ORIGINAL"
        then 'B' else 'G' }

def newOrderStatements : Proc NewOrderResult := do
  if data.oOlCnt < 1 then
    raise { sqlstate := "22023", errmsg := "o_ol_cnt must be between 1 and 15" }
  else
    let warehouse ← into (selectWarehouse .call data.wId) (newOrderFailed .warehouse)
    let before ← update (.district data.wId data.dId) District.advance
    let district ← orRaise before (newOrderFailed .district)
    let oId := district.dNextOId
    let customer ← into (selectCustomer .latest data.wId data.dId data.cId)
      (newOrderFailed .customer)
    insert (.newOrder data.wId data.dId oId) { noOId := oId, noDId := data.dId, noWId := data.wId }
      uniqueViolation
    insert (.orders data.wId data.dId oId) (orderRow data oId) uniqueViolation
    let lines ← loop (newOrderLineStatements data oId) data.oOlCnt
    pure
      { oId, wTax := warehouse.wTax, dTax := district.dTax, cDiscount := customer.cDiscount
        cLast := customer.cLast, cCredit := customer.cCredit
        totalAmount := (lines.map OrderLineResult.olAmount).sum, orderLine := lines }

end NewOrder

section Delivery

variable (ids : Int → Int → List Int) (data : DeliveryData)

/-- The `i`-th round is for district `i + 1`; it yields the order delivered there. -/
def deliveryDistrictStatements (i : Nat) : Proc (Option DeliveryRow) := do
  let dId : Int := i + 1
  let found ← lockFound (oldest (ids data.wId dId) data.wId dId)
  match noOId found with
  | some oId =>
    let deleted ← delete (.newOrder data.wId dId oId)
    let _ ← orRaise deleted (internalError "DELIVERY_2 failed")
    let updated ← update (.orders data.wId dId oId) (Order.carry data.oCarrierId)
    let order ← orRaise updated (deliveryFailed .orders)
    let _ ← update (.lines data.wId dId oId) deliverLines
    let lines ← selectLines .call data.wId dId oId
    let olAmount ← orRaise (sumAmount lines) (deliveryFailed .amount)
    let _ ← update (.customer data.wId dId order.oCId) (CustomerRow.credit (some olAmount))
    pure (some { dId, oId })
  | none => pure none

def deliveryStatements : Proc (List DeliveryRow) := do
  let delivered ← loop (deliveryDistrictStatements ids data) 10
  pure (delivered.filterMap id)

end Delivery

end Pgsql

/-! ## All four -/

inductive Dialect where
  | plpgsql
  | c
  | mysql
  | oracle
  deriving DecidableEq

/-- A procedure for every call, and what its client commits. -/
structure Implementation (X : Type) where
  Output : Type
  Error : Type
  Value : Type
  program : X → Procedure Key Row Output Error Value
  commits : Except Error Value → Bool

namespace Implementation

variable {X : Type} (implementation : Implementation X)

abbrev System : Type :=
  Locking.System Key Row implementation.Output implementation.Error implementation.Value X

abbrev step : implementation.System → Locking.Event X → Option implementation.System :=
  Locking.step implementation.program implementation.commits

end Implementation

namespace Dialect

def newOrder : Dialect → Implementation NewOrderData
  | plpgsql => ⟨_, _, _, Plpgsql.newOrderStatements, Except.isOk⟩
  | c => ⟨_, _, _, Pgsql.newOrderStatements, Except.isOk⟩
  | mysql => ⟨_, _, _, MySql.newOrder, fun rc => rc.toOption = some 0⟩
  | oracle => ⟨_, _, _, Oracle.neworder, Oracle.commits⟩

def delivery (ids : Int → Int → List Int) : Dialect → Implementation DeliveryData
  | plpgsql => ⟨_, _, _, Plpgsql.deliveryStatements ids, Except.isOk⟩
  | c => ⟨_, _, _, Pgsql.deliveryStatements ids, Except.isOk⟩
  | mysql => ⟨_, _, _, MySql.delivery ids, Except.isOk⟩
  | oracle => ⟨_, _, _, Oracle.delivery ids, Oracle.commits⟩

end Dialect

end Dbt2
