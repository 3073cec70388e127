import Dbt2.Procedures

/-!
# Payment, statement by statement

The procedure `payment` of each dialect. `HISTORY` has no key and nothing queries it, so that the
row that an execution inserts is a part of its value. The customers of a name are looked up among
the ids that there may be, in one query where MySQL and Oracle count them first.

PL/pgSQL and MySQL go on with nulls where there is no row; C and Oracle raise an error.
-/

namespace Dbt2

open Locking Prog Pgsql

/-- What is shown of a warehouse or a district. -/
structure Place where
  name : String
  street1 : String
  street2 : String
  city : String
  state : String
  zip : String
  deriving DecidableEq

/-- What is shown of a customer, and nothing changes. -/
structure Person where
  cFirst : String
  cMiddle : String
  cLast : String
  cStreet1 : String
  cStreet2 : String
  cCity : String
  cState : String
  cZip : String
  cPhone : String
  cSince : Timestamp
  cCredit : String
  cCreditLim : ℚ
  cDiscount : ℚ
  deriving DecidableEq

def Warehouse.place (w : Warehouse) : Place where
  name := w.wName
  street1 := w.wStreet1
  street2 := w.wStreet2
  city := w.wCity
  state := w.wState
  zip := w.wZip

def District.place (d : District) : Place where
  name := d.dName
  street1 := d.dStreet1
  street2 := d.dStreet2
  city := d.dCity
  state := d.dState
  zip := d.dZip

def Customer.person (c : Customer) : Person where
  cFirst := c.cFirst
  cMiddle := c.cMiddle
  cLast := c.cLast
  cStreet1 := c.cStreet1
  cStreet2 := c.cStreet2
  cCity := c.cCity
  cState := c.cState
  cZip := c.cZip
  cPhone := c.cPhone
  cSince := c.cSince
  cCredit := c.cCredit
  cCreditLim := c.cCreditLim
  cDiscount := c.cDiscount

/-- The row that a procedure returns. -/
structure PaymentRow where
  warehouse : Option Place
  district : Option Place
  cId : Option Int
  customer : Option Person
  cBalance : Option ℚ
  cData : Option String
  deriving DecidableEq

structure HistoryRow where
  hCId : Option Int
  hCDId : Int
  hCWId : Int
  hDId : Int
  hWId : Int
  hDate : Timestamp
  hAmount : ℚ
  hData : Option String
  deriving DecidableEq

structure Payment where
  history : HistoryRow
  row : PaymentRow
  deriving DecidableEq

/-! ## Rows that a Payment reads and writes -/

def Warehouse.pay (hAmount : ℚ) (w : Warehouse) : Warehouse := { w with wYtd := w.wYtd + hAmount }

def District.pay (hAmount : ℚ) (d : District) : District := { d with dYtd := d.dYtd + hAmount }

def CustomerRow.pay (hAmount : ℚ) (c : CustomerRow) : CustomerRow :=
  { c with
    cBalance := c.cBalance - hAmount
    cYtdPayment := c.cYtdPayment + hAmount
    cPaymentCnt := c.cPaymentCnt + 1 }

def CustomerRow.payBad (hAmount : ℚ) (text : String) (c : CustomerRow) : CustomerRow :=
  { c with
    cBalance := c.cBalance - hAmount
    cYtdPayment := c.cYtdPayment + hAmount
    cPaymentCnt := c.cPaymentCnt + 1
    cData := substr (text ++ c.cData) 500 }

/-- `c_balance`, which may be null. -/
def CustomerRow.balance (c : CustomerRow) : Option ℚ :=
  if c.balanceNull then none else some c.cBalance

/-- First names and ids of the customers of a name, in the order of the first names. -/
def named (cIds : List Int) (wId dId : Int) (cLast : String) (rows : Rows) : List (String × Int) :=
  (cIds.filterMap fun cId => ((rows (.customer wId dId cId)).map CustomerRow.toCustomer).bind fun c =>
    if c.cLast = cLast then some (c.cFirst, cId) else none).insertionSort fun c c' => c.1 ≤ c'.1

/-- The customer at position `(n - 1) / 2`. -/
def middleNamed (cIds : List Int) (wId dId : Int) (cLast : String) (rows : Rows) : Option Key :=
  let cs := named cIds wId dId cLast rows
  (cs[(cs.length - 1) / 2]?).map fun c => .customer wId dId c.2

def foundCId : Option Key → Option Int
  | some (.customer _ _ cId) => some cId
  | _ => none

section Payment

variable {O E : Type} (cIds : Int → Int → List Int) (data : PaymentData)

def selectMiddle (mode : Mode) : Procedure Key Row O E (Option Int) := do
  let found ← find mode (middleNamed (cIds data.cWId data.cDId) data.cWId data.cDId data.cLast)
  pure (foundCId found)

/-- A balance that is read here is not used: the update returns the next one. -/
def selectPerson (mode : Mode) (cId : Int) : Procedure Key Row O E (Option Person) := do
  let found ← selectCustomer mode data.cWId data.cDId cId
  pure (found.map fun c => c.person)

/-- What goes before `c_data`. -/
def paymentNote (cId : Int) : String :=
  toString cId ++ " " ++ toString data.cDId ++ " " ++ toString data.cWId ++ " " ++
    toString data.dId ++ " " ++ toString data.wId ++ " " ++ fixed 2 data.hAmount ++ " "

def paymentHistory (cId : Option Int) (hData : Option String) : HistoryRow where
  hCId := cId
  hCDId := data.cDId
  hCWId := data.cWId
  hDId := data.dId
  hWId := data.wId
  hDate := .currentTimestamp
  hAmount := data.hAmount
  hData

/-- `w_name || '    ' || d_name`. -/
def hData (warehouse district : Option Place) : Option String := do
  let w ← warehouse
  let d ← district
  some (w.name ++ "    " ++ d.name)

end Payment

namespace Plpgsql

variable {O : Type} (cIds : Int → Int → List Int) (data : PaymentData)

/-- Under a null id there is no row to be found. -/
def paymentCustomer (cId : Int) :
    Procedure Key Row O PgError (Option Person × Option CustomerRow) := do
  let person ← selectPerson data .latest cId
  let pay := if person.any fun p => p.cCredit = "BC" then
      CustomerRow.payBad data.hAmount (paymentNote data cId)
    else CustomerRow.pay data.hAmount
  let before ← update (.customer data.cWId data.cDId cId) pay
  pure (person, before.map pay)

def paymentStatements : Procedure Key Row O PgError Payment := do
  let before ← update (.warehouse data.wId) (Warehouse.pay data.hAmount)
  let warehouse := before.map Warehouse.place
  let before ← update (.district data.wId data.dId) (District.pay data.hAmount)
  let district := before.map District.place
  let cId ← (if data.cId = 0 then selectMiddle cIds data .latest else pure (some data.cId))
  let (customer, after) ← (match cId with
    | some cId => paymentCustomer data cId
    | none => pure (none, none))
  pure
    { history := paymentHistory data cId ((hData warehouse district).map (substr · 24))
      row :=
        { warehouse, district, cId, customer, cBalance := after.bind CustomerRow.balance
          cData := if customer.any fun p => p.cCredit = "BC" then
              after.map fun c => substr c.cData 200
            else none } }

end Plpgsql

namespace Pgsql

variable {O : Type} (cIds : Int → Int → List Int) (data : PaymentData)

def paymentStatements : Procedure Key Row O PgError Payment := do
  let before ← update (.warehouse data.wId) (Warehouse.pay data.hAmount)
  let warehouse ← orRaise (before.map Warehouse.place) (paymentFailed .warehouse)
  let before ← update (.district data.wId data.dId) (District.pay data.hAmount)
  let district ← orRaise (before.map District.place) (paymentFailed .district)
  let cId ← (if data.cId = 0 then into (selectMiddle cIds data .call) (paymentFailed .customerByName)
    else pure data.cId)
  let customer ← into (selectPerson data .call cId) (paymentFailed .customer)
  let history := paymentHistory data (some cId) (hData (some warehouse) (some district))
  -- either "BC" or "GC"
  if customer.cCredit.toList.head? = some 'G' then
    let pay := CustomerRow.pay data.hAmount
    let before ← update (.customer data.cWId data.cDId cId) pay
    let after ← orRaise (before.map pay) (internalError "PAYMENT_7_GC failed")
    pure
      { history
        row :=
          { warehouse := some warehouse, district := some district, cId := some cId
            customer := some customer, cBalance := after.balance, cData := some "" } }
  else
    let pay := CustomerRow.payBad data.hAmount (paymentNote data cId)
    let before ← update (.customer data.cWId data.cDId cId) pay
    let after ← orRaise (before.map pay) (internalError "PAYMENT_7_BC failed")
    pure
      { history
        row :=
          { warehouse := some warehouse, district := some district, cId := some cId
            customer := some customer, cBalance := after.balance
            cData := some (substr after.cData 200) } }

end Pgsql

namespace MySql

variable (cIds : Int → Int → List Int) (data : PaymentData)

/-- The customer's row as it was, and the `c_data` that is returned. -/
def paymentCustomer (cId : Int) : Proc (Option CustomerRow × Option String) := do
  let found ← lock (Key.customer data.cWId data.cDId cId)
  if found.any fun c => c.cCredit = "BC" then
    let _ ← update (.customer data.cWId data.cDId cId)
      (CustomerRow.payBad data.hAmount (paymentNote data cId))
    let after ← selectCustomer .repeatable data.cWId data.cDId cId
    pure (found, after.map fun c => substr c.cData 200)
  else
    let _ ← update (.customer data.cWId data.cDId cId) (CustomerRow.pay data.hAmount)
    pure (found, found.map fun c => c.cData)

def payment : Proc Payment := do
  let found ← lock (Key.warehouse data.wId)
  let warehouse := Option.map Warehouse.place found
  let _ ← update (.warehouse data.wId) (Warehouse.pay data.hAmount)
  let found ← selectDistrictForUpdate data.wId data.dId
  let district := found.map District.place
  let _ ← update (.district data.wId data.dId) (District.pay data.hAmount)
  let outCId ← (if data.cId = 0 then selectMiddle cIds data .repeatable else pure (some data.cId))
  -- a null id matches no row
  let (customer, outCData) ← (match outCId with
    | some cId => paymentCustomer data cId
    | none => pure (none, none))
  pure
    { history := paymentHistory data outCId (hData warehouse district)
      row :=
        { warehouse, district, cId := outCId, customer := customer.map fun c => c.person
          cBalance := (customer.bind CustomerRow.balance).map fun cBalance =>
            cBalance - data.hAmount
          cData := outCData } }

end MySql

namespace Oracle

variable (cIds : Int → Int → List Int) (data : PaymentData)

/-- The customer's row as it was, and the `c_data` that is returned. -/
def paymentCustomer (cId : Int) : Proc (CustomerRow × String) := do
  let customer ← into (lock (Key.customer data.cWId data.cDId cId)) NO_DATA_FOUND
  if customer.cCredit = "BC" then
    let _ ← update (.customer data.cWId data.cDId cId)
      (CustomerRow.payBad data.hAmount (paymentNote data cId))
    let after ← into (selectCustomer .latest data.cWId data.cDId cId) NO_DATA_FOUND
    pure (customer, substr after.cData 200)
  else
    let _ ← update (.customer data.cWId data.cDId cId) (CustomerRow.pay data.hAmount)
    pure (customer, customer.cData)

def payment : Proc Payment := do
  let warehouse ← into (lock (Key.warehouse data.wId)) NO_DATA_FOUND
  let _ ← update (.warehouse data.wId) (Warehouse.pay data.hAmount)
  let district ← into (selectDistrictForUpdate data.wId data.dId) NO_DATA_FOUND
  let _ ← update (.district data.wId data.dId) (District.pay data.hAmount)
  let cId ← (if data.cId = 0 then into (selectMiddle cIds data .latest) NO_DATA_FOUND
    else pure data.cId)
  let (customer, outCData) ← paymentCustomer data cId
  pure
    { history := paymentHistory data (some cId) (hData (some warehouse.place) (some district.place))
      row :=
        { warehouse := some warehouse.place, district := some district.place, cId := some cId
          customer := some customer.person
          cBalance := customer.balance.map fun cBalance => cBalance - data.hAmount
          cData := some outCData } }

end Oracle

end Dbt2
