import Dbt2.Plpgsql
import Dbt2.Rows

/-!
# MySQL

The procedures `new_order` and `delivery`. A plain `SELECT` reads the transaction's snapshot,
`FOR UPDATE` and the changes the current rows. A procedure raises SQL states. A `SELECT … INTO`
that finds no row stops a procedure only if that has an exit handler for it.

* `MySql.newOrder`: a New-Order, whose value is `rc` and whose result sets are emitted;
* `MySql.delivery`: a Delivery, whose variables keep their values from district to district.
-/

namespace Dbt2.MySql

open Locking Prog

def NO_DATA : String := "02000"
def DUPLICATE_ENTRY : String := "23000"

/-- The 5 columns of an order line. -/
structure LineSet where
  iPrice : ℚ
  iName : String
  sQuantity : Option Int
  olAmount : ℚ
  brandGeneric : Char
  deriving DecidableEq

/-- The 7 columns of an order. -/
structure OrderSet where
  wTax : ℚ
  dTax : ℚ
  oId : Int
  cLast : String
  cCredit : String
  cDiscount : ℚ
  totalAmount : ℚ
  deriving DecidableEq

inductive ResultSet where
  | line (row : LineSet)
  | order (row : OrderSet)
  deriving DecidableEq

abbrev Proc (A : Type) := Procedure Key Row ResultSet String A

/-! ## New-Order -/

section NewOrder

variable (data : NewOrderData)

/-- Without a handler the procedure goes on with nulls when there is no stock row. -/
def newOrder2 (oId : Int) (i : Nat) (item : Item) (olAmount : ℚ) : Proc Unit := do
  let l := data.line i
  let stock ← selectStock .repeatable l.olIId l.olSupplyWId
  let brandGeneric :=
    if strstr item.iData "ORIGINAL" && stock.any (fun s => strstr s.sData "ORIGINAL") then 'B'
    else 'G'
  if stock.any fun s => s.sQuantity ≥ l.olQuantity + 10 then
    let _ ← update (.stock l.olIId l.olSupplyWId) fun s =>
      leaveStock data l (s.sQuantity - l.olQuantity) s
  else
    let _ ← update (.stock l.olIId l.olSupplyWId) fun s =>
      leaveStock data l (s.sQuantity - l.olQuantity + 91) s
  insertLine (Plpgsql.orderLineRow data oId i olAmount (stock.map fun s => s.sDist.get data.dist))
    DUPLICATE_ENTRY
  emit (.line
    { iPrice := item.iPrice, iName := item.iName, sQuantity := stock.map Stock.sQuantity, olAmount
      brandGeneric })

/-- The amount of a line, none if it is passed over. -/
def newOrderLine (oId : Int) (i : Nat) : Proc (Option ℚ) := do
  let item ← into (selectItem .repeatable (data.line i).olIId) NO_DATA
  if item.iPrice > 0 then
    let olAmount := item.iPrice * (data.line i).olQuantity
    newOrder2 data oId i item olAmount
    pure (some olAmount)
  else pure none

def newOrderBody : Proc Int := do
  let warehouse ← into (selectWarehouse .repeatable data.wId) NO_DATA
  let district ← into (selectDistrictForUpdate data.wId data.dId) NO_DATA
  let oId := district.dNextOId
  let _ ← update (.district data.wId data.dId) District.advance
  let customer ← into (selectCustomer .repeatable data.wId data.dId data.cId) NO_DATA
  insert (.newOrder data.wId data.dId oId) { noOId := oId, noDId := data.dId, noWId := data.wId }
    DUPLICATE_ENTRY
  insert (.orders data.wId data.dId oId) (orderRow data oId) DUPLICATE_ENTRY
  let amounts ← loop (newOrderLine data oId) data.oOlCnt
  emit (.order
    { wTax := warehouse.wTax, dTax := district.dTax, oId, cLast := customer.cLast
      cCredit := customer.cCredit, cDiscount := customer.cDiscount
      totalAmount := (amounts.filterMap id).sum })
  pure 0

/-- `rc`, which the exit handler sets to 1. -/
def newOrder : Proc Int :=
  handle (newOrderBody data) fun e => if e = NO_DATA then pure 1 else raise e

end NewOrder

/-! ## Delivery -/

section Delivery

variable (ids : Int → Int → List Int) (data : DeliveryData)

/-- The `i`-th round is for district `i + 1`. It has `out_c_id` from the round before, and without
an order leaves it as it is. -/
def deliveryDistrict (i : Nat) (outCId : Option Int) : Proc (Option Int) := do
  let dId : Int := i + 1
  let found ← lockFound (oldest (ids data.wId dId) data.wId dId)
  let tmpOId := (noOId found).getD 0
  if tmpOId > 0 then
    let _ ← delete (.newOrder data.wId dId tmpOId)
    let order ← selectOrdersForUpdate data.wId dId tmpOId
    let outCId := (order.map Order.oCId).or outCId
    let _ ← update (.orders data.wId dId tmpOId) (Order.carry data.oCarrierId)
    let _ ← update (.lines data.wId dId tmpOId) deliverLines
    let lines ← selectLines .repeatable data.wId dId tmpOId
    match outCId with
    | some cId =>
      let _ ← update (.customer data.wId dId cId) (CustomerRow.credit (sumAmount lines))
    | none => pure ()
    pure outCId
  else pure outCId

def delivery : Proc Unit := do
  let _ ← rounds (deliveryDistrict ids data) 10 none
  pure ()

end Delivery

end Dbt2.MySql
