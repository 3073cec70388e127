import Mathlib

/-!
# Tables

The rows of the nine tables, column by column. The generator emits them and the transactions
query and change them. Amounts are exact, clock readings are one value, and a nullable column is
an `Option`.
-/

namespace Dbt2

/-- A reading of the wall clock, whose value nothing here depends on. -/
inductive Timestamp where
  | currentTimestamp
  deriving DecidableEq, Inhabited

structure Warehouse where
  wId : Int
  wName : String
  wStreet1 : String
  wStreet2 : String
  wCity : String
  wState : String
  wZip : String
  wTax : ℚ
  wYtd : ℚ
  deriving DecidableEq, Inhabited

structure District where
  dId : Int
  dWId : Int
  dName : String
  dStreet1 : String
  dStreet2 : String
  dCity : String
  dState : String
  dZip : String
  dTax : ℚ
  dYtd : ℚ
  dNextOId : Int
  deriving DecidableEq, Inhabited

structure Customer where
  cId : Int
  cDId : Int
  cWId : Int
  cFirst : String
  cMiddle : String
  cLast : String
  cStreet1 : String
  cStreet2 : String
  cCity : String
  cState : String
  cZip : String
  cPhone : String
  cSince : Timestamp
  cCredit : String
  cCreditLim : ℚ
  cDiscount : ℚ
  cBalance : ℚ
  cYtdPayment : ℚ
  cPaymentCnt : Int
  cDeliveryCnt : Int
  cData : String
  deriving DecidableEq, Inhabited

structure History where
  hCId : Int
  hCDId : Int
  hCWId : Int
  hDId : Int
  hWId : Int
  hDate : Timestamp
  hAmount : ℚ
  hData : String
  deriving DecidableEq, Inhabited

structure NewOrder where
  noOId : Int
  noDId : Int
  noWId : Int
  deriving DecidableEq, Inhabited

structure Order where
  oId : Int
  oDId : Int
  oWId : Int
  oCId : Int
  oEntryD : Timestamp
  oCarrierId : Option Int
  oOlCnt : Int
  oAllLocal : Int
  deriving DecidableEq, Inhabited

structure OrderLine where
  olOId : Int
  olDId : Int
  olWId : Int
  olNumber : Int
  olIId : Int
  olSupplyWId : Int
  olDeliveryD : Option Timestamp
  olQuantity : Int
  olAmount : ℚ
  olDistInfo : Option String
  deriving DecidableEq, Inhabited

structure Item where
  iId : Int
  iImId : Int
  iName : String
  iPrice : ℚ
  iData : String
  deriving DecidableEq, Inhabited

/-- `sDist` holds the columns `s_dist_01` to `s_dist_10`. -/
structure Stock where
  sIId : Int
  sWId : Int
  sQuantity : Int
  sDist : Vector String 10
  sYtd : Int
  sOrderCnt : Int
  sRemoteCnt : Int
  sData : String
  deriving DecidableEq, Inhabited

structure Database where
  warehouse : List Warehouse
  district : List District
  customer : List Customer
  history : List History
  newOrder : List NewOrder
  orders : List Order
  orderLine : List OrderLine
  item : List Item
  stock : List Stock
  deriving DecidableEq, Inhabited

end Dbt2
