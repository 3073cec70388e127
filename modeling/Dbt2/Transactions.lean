import Dbt2.Statements
import Dbt2.Lib.Fallible

/-!
# New-Order, Payment and Delivery

The three transactions that write, as the backends have in common. What differs between backends
is in a record for each transaction: which error ends it, which row a statement is keyed by, which
columns it sets. `start` is the database as the transaction found it, and a backend may read from
that snapshot. An execution that fails is rolled back, so only its error is kept.
-/

namespace Dbt2

open Fallible

/-! ## Values as text -/

def padLeft (width : Nat) (digits : String) : String :=
  String.ofList (List.replicate (width - digits.length) '0') ++ digits

/-- `%.nf`. -/
def fixed (n : Nat) (q : ℚ) : String :=
  let scaled := (round (|q| * 10 ^ n)).toNat
  (if q < 0 then "-" else "") ++ toString (scaled / 10 ^ n) ++ "." ++
    padLeft n (toString (scaled % 10 ^ n))

def strstr (haystack needle : String) : Bool := needle.toList <:+: haystack.toList

/-! ## New-Order -/

structure NoOrderLine where
  olIId : Int
  olSupplyWId : Int
  olQuantity : Int
  deriving DecidableEq, Inhabited

/-- `new_order_t` as the drivers fill it in, its district and number of lines within bounds. -/
structure NewOrderData where
  wId : Int
  dId : Int
  cId : Int
  oOlCnt : Nat
  orderLine : Vector NoOrderLine 15
  dId_bounds : 1 ≤ dId ∧ dId ≤ 10
  oOlCnt_le : oOlCnt ≤ 15
  deriving DecidableEq

namespace NewOrderData

variable (data : NewOrderData)

def line (i : Nat) : NoOrderLine := data.orderLine.getD i default

/-- The lines of the order are the first `o_ol_cnt`. -/
def lines : List NoOrderLine := (List.range data.oOlCnt).map data.line

/-- Set by `process_transaction`. -/
def oAllLocal : Int := if ∀ l ∈ data.lines, l.olSupplyWId = data.wId then 1 else 0

/-- The index of `s_dist[d_id - 1]`. -/
def dist : Fin 10 := ⟨(data.dId - 1).toNat, by have := data.dId_bounds; omega⟩

end NewOrderData

structure OrderLineResult where
  iPrice : ℚ
  iName : String
  sQuantity : Int
  olAmount : ℚ
  brandGeneric : Char
  deriving DecidableEq

structure NewOrderResult where
  oId : Int
  wTax : ℚ
  dTax : ℚ
  cDiscount : ℚ
  cLast : String
  cCredit : String
  totalAmount : ℚ
  orderLine : List OrderLineResult
  deriving DecidableEq

inductive NewOrderQuery where
  | warehouse
  | district
  | customer
  | newOrder
  | orders
  | stock
  | orderLine

/-- What an implementation of New-Order decides, with errors `E`. -/
structure NewOrderCode (E : Type) where
  failed : NewOrderQuery → E
  itemMissing : Int → E
  /-- Whether an item id is given up without a look at what was found. -/
  unused : Int → Bool
  /-- Whether items and stock are read from the snapshot. -/
  snapshot : Bool
  /-- The warehouse of the stock row. -/
  stockWarehouse (wId olSupplyWId : Int) : Int
  /-- What is read of `s_quantity`. -/
  quantity : Int → Int
  updateStock (decrQuantity olQuantity remoteCnt : Int) : Stock → Stock
  olAmount (iPrice : ℚ) (olQuantity : Int) : ℚ
  olDeliveryD : Option Timestamp
  iData : String → String
  /-- None if what is left of the text is not a text. -/
  olDistInfo : String → Option String

section NewOrder

variable {E : Type} (code : NewOrderCode E) (data : NewOrderData)

/-- A quantity below ten is filled up by 91. -/
def decrQuantity (sQuantity olQuantity : Int) : Int :=
  if sQuantity ≥ olQuantity + 10 then olQuantity else olQuantity - 91

/-- The stock of a line, which takes `decr_quantity` off. -/
def takeStock (l : NoOrderLine) (sQuantity : Int) : Stock → Stock :=
  code.updateStock (decrQuantity sQuantity l.olQuantity) l.olQuantity
    (if l.olSupplyWId ≠ data.wId then 1 else 0)

def orderLineRow (oId : Int) (i : Nat) (olAmount : ℚ) (olDistInfo : String) : OrderLine where
  olOId := oId
  olDId := data.dId
  olWId := data.wId
  olNumber := i + 1
  olIId := (data.line i).olIId
  olSupplyWId := (data.line i).olSupplyWId
  olDeliveryD := code.olDeliveryD
  olQuantity := (data.line i).olQuantity
  olAmount
  olDistInfo := some olDistInfo

def orderRow (oId : Int) : Order where
  oId
  oDId := data.dId
  oWId := data.wId
  oCId := data.cId
  oEntryD := .currentTimestamp
  oCarrierId := none
  oOlCnt := data.oOlCnt
  oAllLocal := data.oAllLocal

def newOrderLine (start : Database) (oId : Int) (i : Nat) (db : Database) :
    Except E (Database × OrderLineResult) := do
  let l := data.line i
  let reads := if code.snapshot then start else db
  let item ← orFail (if code.unused l.olIId then none else reads.selectItem l.olIId)
    (code.itemMissing l.olIId)
  let sWId := code.stockWarehouse data.wId l.olSupplyWId
  let stock ← orFail (reads.selectStock l.olIId sWId) (code.failed .stock)
  let sQuantity := code.quantity stock.sQuantity
  let olAmount := code.olAmount item.iPrice l.olQuantity
  let olDistInfo ← orFail (code.olDistInfo (stock.sDist.get data.dist)) (code.failed .orderLine)
  let updated := db.updateStock l.olIId sWId (takeStock code data l sQuantity)
  let inserted ← orFail (updated.insertOrderLine
    (orderLineRow code data oId i olAmount olDistInfo)) (code.failed .orderLine)
  pure (inserted,
    { iPrice := item.iPrice, iName := item.iName, sQuantity, olAmount
      brandGeneric := if strstr (code.iData item.iData) "ORIGINAL" && strstr stock.sData "ORIGINAL"
        then 'B' else 'G' })

def newOrder (start : Database) : Except E (Database × NewOrderResult) := do
  let warehouse ← orFail (start.selectWarehouse data.wId) (code.failed .warehouse)
  let district ← orFail (start.selectDistrict data.wId data.dId) (code.failed .district)
  let oId := district.dNextOId
  let advanced := start.incrementNextOId data.wId data.dId
  let customer ← orFail (advanced.selectCustomer data.wId data.dId data.cId)
    (code.failed .customer)
  let opened ← orFail (advanced.insertNewOrder
    { noOId := oId, noDId := data.dId, noWId := data.wId }) (code.failed .newOrder)
  let ordered ← orFail (opened.insertOrder (orderRow data oId)) (code.failed .orders)
  let placed ← rounds (newOrderLine code data start oId) data.oOlCnt ordered
  pure (placed.1,
    { oId, wTax := warehouse.wTax, dTax := district.dTax, cDiscount := customer.cDiscount
      cLast := customer.cLast, cCredit := customer.cCredit
      totalAmount := (placed.2.map OrderLineResult.olAmount).sum, orderLine := placed.2 })

end NewOrder

/-! ## Payment -/

structure PaymentData where
  wId : Int
  dId : Int
  cId : Int
  cWId : Int
  cDId : Int
  cLast : String
  hAmount : ℚ
  deriving DecidableEq

/-- The rows whose columns are shown, as they were before the payment. -/
structure PaymentResult where
  cId : Int
  warehouse : Warehouse
  district : District
  customer : Customer
  cBalance : ℚ
  cData : String
  deriving DecidableEq

inductive PaymentQuery where
  | warehouse
  | district
  | customerByName
  | customer

structure PaymentCode (E : Type) where
  failed : PaymentQuery → E
  /-- Whether a customer found by name is accepted. -/
  found : Int → Bool
  updateGoodCredit (hAmount : ℚ) : Customer → Customer
  updateBadCredit (hAmount : ℚ) (text : String) : Customer → Customer
  /-- The fraction digits of the amount in `c_data`. -/
  digits : Nat
  cData (good : Bool) (before after : Customer) : String

/-- The customer at position `(n - 1) / 2`. -/
def middle (cs : List Customer) : Option Customer := cs[(cs.length - 1) / 2]?

def Customer.goodCredit (c : Customer) : Bool := c.cCredit.toList.head? = some 'G'

section Payment

variable {E : Type} (code : PaymentCode E) (data : PaymentData)

def paymentText (cId : Int) : String :=
  toString cId ++ " " ++ toString data.cDId ++ " " ++ toString data.cWId ++ " " ++
    toString data.dId ++ " " ++ toString data.wId ++ " " ++ fixed code.digits data.hAmount ++ " "

def historyRow (cId : Int) (hData : String) : History where
  hCId := cId
  hCDId := data.cDId
  hCWId := data.cWId
  hDId := data.dId
  hWId := data.wId
  hDate := .currentTimestamp
  hAmount := data.hAmount
  hData

def paymentUpdate (cId : Int) (good : Bool) : Customer → Customer :=
  if good then code.updateGoodCredit data.hAmount
  else code.updateBadCredit data.hAmount (paymentText code data cId)

def paymentCustomer (db : Database) : Option Int :=
  if data.cId = 0 then
    ((middle (db.selectByName data.cWId data.cDId data.cLast)).map Customer.cId).filter code.found
  else some data.cId

def payment (start : Database) : Except E (Database × PaymentResult) := do
  let warehouse ← orFail (start.selectWarehouse data.wId) (code.failed .warehouse)
  let warehousePaid := start.payWarehouse data.wId data.hAmount
  let district ← orFail (warehousePaid.selectDistrict data.wId data.dId) (code.failed .district)
  let districtPaid := warehousePaid.payDistrict data.wId data.dId data.hAmount
  let cId ← orFail (paymentCustomer code data districtPaid) (code.failed .customerByName)
  let customer ← orFail (districtPaid.selectCustomer data.cWId data.cDId cId)
    (code.failed .customer)
  let update := paymentUpdate code data cId customer.goodCredit
  let customerPaid := districtPaid.updateCustomer data.cWId data.cDId cId update
  let recorded := customerPaid.insertHistory
    (historyRow data cId (warehouse.wName ++ "    " ++ district.dName))
  pure (recorded,
    { cId, warehouse, district, customer, cBalance := customer.cBalance - data.hAmount
      cData := code.cData customer.goodCredit customer (update customer) })

end Payment

/-! ## Delivery -/

structure DeliveryData where
  wId : Int
  oCarrierId : Int
  deriving DecidableEq

inductive DeliveryQuery where
  | orders
  | amount

structure DeliveryCode (E : Type) where
  failed : DeliveryQuery → E
  /-- Whether the oldest order is delivered at all. -/
  deliverable : Int → Bool
  /-- The order whose customer is credited, of those updated. -/
  order : List Order → Option Order
  /-- Whether amounts are read from the snapshot. -/
  snapshot : Bool

section Delivery

variable {E : Type} (code : DeliveryCode E) (data : DeliveryData)

/-- The `i`-th round is for district `i + 1`; it yields the order delivered there. -/
def deliveryDistrict (start : Database) (i : Nat) (db : Database) :
    Except E (Database × Option Int) :=
  let dId : Int := i + 1
  match (db.selectOldest data.wId dId).filter code.deliverable with
  | none => .ok (db, none)
  | some oId => do
    let opened := db.deleteNewOrder data.wId dId oId
    let order ← orFail (code.order (opened.selectOrders data.wId dId oId)) (code.failed .orders)
    let carried := opened.setCarrier data.wId dId oId data.oCarrierId
    let delivered := carried.setDeliveryD data.wId dId oId
    let olAmount ← orFail ((if code.snapshot then start else delivered).sumAmount data.wId dId oId)
      (code.failed .amount)
    let credited := delivered.updateCustomer data.wId dId order.oCId (Customer.credit olAmount)
    pure (credited, some oId)

def delivery (start : Database) : Except E (Database × List (Option Int)) :=
  rounds (deliveryDistrict code data start) 10 start

end Delivery

end Dbt2
