import Dbt2.ColumnTypes

/-!
# New-Order in PL/pgSQL

The procedure in the database's own language. Each of its queries sees what the procedure has
changed, a row that is not found leaves nulls behind, and the new stock quantity is computed from
the one that was read, in the types of the columns and variables.
-/

namespace Dbt2.Plpgsql

open Fallible Pgsql

def itemNotFound : PgError := { sqlstate := "DBT2R", errmsg := "item not found" }

def notNullViolation : PgError where
  sqlstate := "23502"
  errmsg := "null value in column violates not-null constraint"

/-- What the rows of one call have in common. -/
structure Header where
  wTax : Option ℚ
  dTax : ℚ
  oId : Int
  cLast : Option String
  cCredit : Option String
  cDiscount : Option ℚ
  deriving DecidableEq

/-- A row that the procedure returns. -/
structure NewOrderRow extends Header where
  olSupplyWId : Int
  olIId : Int
  iName : String
  olQuantity : Int
  sQuantity : Option Int
  iPrice : ℚ
  olAmount : ℚ
  brandGeneric : Char
  deriving DecidableEq

section NewOrder

variable (data : NewOrderData)

def orderLineRow (oId : Int) (i : Nat) (olAmount : ℚ) (sDist : Option String) : OrderLine where
  olOId := oId
  olDId := data.dId
  olWId := data.wId
  olNumber := i + 1
  olIId := (data.line i).olIId
  olSupplyWId := (data.line i).olSupplyWId
  olDeliveryD := none
  olQuantity := (data.line i).olQuantity
  olAmount
  olDistInfo := sDist

def updateStock (sQuantity decr : Int) (l : NoOrderLine) (s : Stock) : Stock :=
  { s with
    sQuantity := sQuantity - decr
    sYtd := s.sYtd + l.olQuantity
    sOrderCnt := s.sOrderCnt + 1
    sRemoteCnt := s.sRemoteCnt + if l.olSupplyWId ≠ data.wId then 1 else 0 }

/-- The price as the column keeps it, times an `INTEGER`. -/
def olAmount (iPrice : ℚ) (olQuantity : Int) : ℚ := float4 (float8 (float4 iPrice * olQuantity))

def newOrderLine (header : Header) (i : Nat) (db : Database) :
    Except PgError (Database × NewOrderRow) := do
  let l := data.line i
  let item ← orFail (db.selectItem l.olIId) itemNotFound
  let olAmount := olAmount item.iPrice l.olQuantity
  let stock := db.selectStock l.olIId l.olSupplyWId
  -- without a row there is nothing to update, whatever a comparison with null decides
  let updated := match stock with
    | some s => db.updateStock l.olIId l.olSupplyWId fun t =>
        -- `decr_quantity` is a `REAL`
        (updateStock data s.sQuantity (inReal (decrQuantity s.sQuantity l.olQuantity)) l t).stored
    | none => db
  let inserted ← orFail (updated.insertOrderLine (orderLineRow data header.oId i olAmount
    (stock.map fun s => s.sDist.get data.dist))) uniqueViolation
  pure (inserted,
    { header with
      olSupplyWId := l.olSupplyWId, olIId := l.olIId, iName := item.iName
      olQuantity := l.olQuantity, sQuantity := stock.map Stock.sQuantity, iPrice := item.iPrice
      olAmount
      brandGeneric := if strstr item.iData "ORIGINAL" &&
        stock.any (fun s => strstr s.sData "ORIGINAL") then 'B' else 'G' })

def newOrder (db : Database) : Except PgError (Database × List NewOrderRow) := do
  let warehouse := db.selectWarehouse data.wId
  let district := db.selectDistrict data.wId data.dId
  let advanced := db.incrementNextOId data.wId data.dId
  let customer := advanced.selectCustomer data.wId data.dId data.cId
  -- the first to find that there is no district is the insertion of a null key
  let district ← orFail district notNullViolation
  let oId := district.dNextOId
  let opened ← orFail (advanced.insertNewOrder
    { noOId := oId, noDId := data.dId, noWId := data.wId }) uniqueViolation
  let ordered ← orFail (opened.insertOrder (orderRow data oId)) uniqueViolation
  rounds (newOrderLine data
    { wTax := warehouse.map Warehouse.wTax, dTax := district.dTax, oId
      cLast := customer.map Customer.cLast, cCredit := customer.map Customer.cCredit
      cDiscount := customer.map Customer.cDiscount }) data.oOlCnt ordered

end NewOrder

end Dbt2.Plpgsql
