import Dbt2.Transactions
import Dbt2.Common

/-!
# The backends

New-Order, Payment and Delivery as three backends implement them. Numbers are exact here, and the
buffers of the cockroach client hold all their digits.

* `Nonsp`: SQL text built by the client, for SQLite;
* `Cockroach`: statements with parameters, sent one by one;
* `Pgsql`: stored procedures in C, whose read-only queries see the database as it was when the
  procedure was called.
-/

namespace Dbt2

/-- The code an `execute_` function returns, and the rollback flag of a New-Order. -/
structure Failure where
  rc : Int
  rollback : Int
  deriving DecidableEq

/-- The first characters of a text that fit in `n` bytes. -/
def takeBytes : Nat → List Char → List Char
  | n, c :: cs => if c.utf8Size ≤ n then c :: takeBytes (n - c.utf8Size) cs else []
  | _, [] => []

theorem takeBytes_initial (n : Nat) (cs : List Char) : takeBytes n cs <+: cs := by
  induction cs generalizing n with
  | nil => exact List.nil_prefix
  | cons c cs ih =>
    unfold takeBytes
    split
    · exact (List.prefix_cons_inj c).mpr (ih _)
    · exact List.nil_prefix

theorem takeBytes_size (n : Nat) (cs : List Char) :
    ((takeBytes n cs).map Char.utf8Size).sum ≤ n := by
  induction cs generalizing n with
  | nil => simp [takeBytes]
  | cons c cs ih =>
    unfold takeBytes
    split
    · have rest := ih (n - c.utf8Size)
      simp only [List.map_cons, List.sum_cons]
      omega
    · simp

theorem takeBytes_all {n : Nat} {cs : List Char} (fits : (cs.map Char.utf8Size).sum ≤ n) :
    takeBytes n cs = cs := by
  induction cs generalizing n with
  | nil => rfl
  | cons c cs ih =>
    simp only [List.map_cons, List.sum_cons] at fits
    rw [takeBytes, if_pos (by omega), ih (by omega)]

/-- What `snprintf` leaves of a text in a buffer of `n` bytes and a terminator, if it did not cut
through a character. -/
def snprintf (n : Nat) (s : String) : Option String :=
  let kept := takeBytes n s.toList
  if (kept.map Char.utf8Size).sum = min n s.utf8ByteSize then some (String.ofList kept) else none

def substr (s : String) (n : Nat) : String := String.ofList (s.toList.take n)

/-! ## nonsp -/

namespace Nonsp

def newOrderFailed : NewOrderQuery → Int
  | .warehouse => 10
  | .district => 11
  | .customer => 13
  | .newOrder => 14
  | .orders => 15
  | .stock => 16
  | .orderLine => 18

def newOrderCode : NewOrderCode Failure where
  failed query := { rc := newOrderFailed query, rollback := 0 }
  itemMissing olIId :=
    if olIId = 0 then { rc := 2, rollback := 1 } else { rc := -1, rollback := 0 }
  unused olIId := olIId = 0
  snapshot := false
  stockWarehouse wId _ := wId
  quantity := id
  updateStock decrQuantity _ _ s := { s with sQuantity := s.sQuantity - decrQuantity }
  olAmount iPrice olQuantity := iPrice * olQuantity
  olDeliveryD := some .currentTimestamp
  iData := id
  olDistInfo := some

def newOrderNonsp (data : NewOrderData) (db : Database) :
    Except Failure (Database × NewOrderResult) :=
  newOrder newOrderCode data db

def executeNewOrderNonsp (data : NewOrderData) (db : Database) :
    Except Failure (Database × NewOrderResult) :=
  (newOrderNonsp data db).mapError fun e => { e with rc := ERROR }

def paymentCode : PaymentCode Failure where
  failed _ := { rc := -1, rollback := 0 }
  found cId := cId ≠ -1
  updateGoodCredit hAmount c :=
    { c with cBalance := c.cBalance - hAmount, cYtdPayment := c.cYtdPayment + 1 }
  updateBadCredit hAmount text c :=
    { c with
      cBalance := c.cBalance - hAmount
      cYtdPayment := c.cYtdPayment + 1
      cData := substr (text ++ c.cData) 500 }
  digits := 6
  cData _ before _ := before.cData

def paymentNonsp (data : PaymentData) (db : Database) :
    Except Failure (Database × PaymentResult) :=
  payment paymentCode data db

def executePaymentNonsp (data : PaymentData) (db : Database) :
    Except Failure (Database × PaymentResult) :=
  (paymentNonsp data db).mapError fun e => { e with rc := ERROR }

def deliveryCode : DeliveryCode Failure where
  failed _ := { rc := -1, rollback := 0 }
  deliverable noOId := 0 < noOId
  order := List.head?
  snapshot := false

def deliveryNonsp (data : DeliveryData) (db : Database) :
    Except Failure (Database × List (Option Int)) :=
  delivery deliveryCode data db

def executeDeliveryNonsp (data : DeliveryData) (db : Database) :
    Except Failure (Database × List (Option Int)) :=
  (deliveryNonsp data db).mapError fun e => { e with rc := ERROR }

end Nonsp

/-! ## cockroach -/

namespace Cockroach

def I_DATA_LEN : Nat := 50
def S_DIST_LEN : Nat := 15
def ID_LEN : Nat := 10

/-- An id that is written to a buffer of `ID_LEN` characters and read from it again. -/
def printed (id : Int) : Int := id.tdiv (10 ^ ((toString id).length - ID_LEN))

theorem printed_eq {id : Int} (fits : (toString id).length ≤ ID_LEN) : printed id = id := by
  rw [printed, Nat.sub_eq_zero_of_le fits, Nat.cast_ofNat.symm]
  simp

def newOrderCode : NewOrderCode Failure where
  failed _ := { rc := ERROR, rollback := 0 }
  itemMissing _ := { rc := ERROR, rollback := 1 }
  unused _ := false
  snapshot := false
  stockWarehouse wId _ := wId
  quantity := id
  updateStock decrQuantity olQuantity remoteCnt s :=
    { s with
      sQuantity := s.sQuantity - decrQuantity
      sYtd := s.sYtd + olQuantity
      sOrderCnt := s.sOrderCnt + 1
      sRemoteCnt := s.sRemoteCnt + remoteCnt }
  olAmount iPrice olQuantity := iPrice * olQuantity
  olDeliveryD := none
  iData s := String.ofList (takeBytes I_DATA_LEN s.toList)
  olDistInfo := snprintf S_DIST_LEN

def executeNewOrderCockroach (data : NewOrderData) (db : Database) :
    Except Failure (Database × NewOrderResult) :=
  newOrder newOrderCode data db

def paymentCode : PaymentCode Failure where
  failed _ := { rc := ERROR, rollback := 0 }
  found _ := true
  updateGoodCredit hAmount c :=
    { c with cBalance := c.cBalance - hAmount, cYtdPayment := c.cYtdPayment + 1 }
  updateBadCredit hAmount text c :=
    { c with
      cBalance := c.cBalance - hAmount
      cYtdPayment := c.cYtdPayment + 1
      cData := substr (text ++ c.cData) 500 }
  digits := 6
  cData good _ after := if good then "" else substr after.cData 200

def executePaymentCockroach (data : PaymentData) (db : Database) :
    Except Failure (Database × PaymentResult) :=
  payment paymentCode data db

/-- The update of the order must return one row. -/
def deliveryCode : DeliveryCode Failure where
  failed _ := { rc := ERROR, rollback := 0 }
  deliverable _ := true
  order
    | [o] => some o
    | _ => none
  snapshot := false

def executeDeliveryCockroach (data : DeliveryData) (db : Database) :
    Except Failure (Database × List (Option Int)) :=
  delivery deliveryCode data db

end Cockroach

/-! ## pgsql -/

namespace Pgsql

/-- What a procedure reports with `ereport`. -/
structure PgError where
  sqlstate : String
  errmsg : String
  deriving DecidableEq

def internalError (errmsg : String) : PgError := { sqlstate := "XX000", errmsg }

/-- What an insertion itself reports, before its result is looked at. -/
def uniqueViolation : PgError where
  sqlstate := "23505"
  errmsg := "duplicate key value violates unique constraint"

def newOrderFailed : NewOrderQuery → PgError
  | .warehouse => internalError "NEW_ORDER_1 failed"
  | .district => internalError "NEW_ORDER_2 failed"
  | .customer => internalError "NEW_ORDER_4 failed"
  | .newOrder | .orders | .orderLine => uniqueViolation
  | .stock => internalError "NEW_ORDER_8 failed"

def newOrderCode : NewOrderCode PgError where
  failed := newOrderFailed
  itemMissing _ := { sqlstate := "DBT2R", errmsg := "NEW_ORDER_7 failed: item not found" }
  unused olIId := olIId = 0
  snapshot := true
  stockWarehouse _ olSupplyWId := olSupplyWId
  quantity := id
  updateStock decrQuantity olQuantity remoteCnt s :=
    { s with
      sQuantity := s.sQuantity - decrQuantity
      sYtd := s.sYtd + olQuantity
      sOrderCnt := s.sOrderCnt + 1
      sRemoteCnt := s.sRemoteCnt + remoteCnt }
  olAmount iPrice olQuantity := iPrice * olQuantity
  olDeliveryD := none
  iData := id
  olDistInfo := some

def newOrder (data : NewOrderData) (db : Database) : Except PgError (Database × NewOrderResult) :=
  if data.oOlCnt < 1 then
    .error { sqlstate := "22023", errmsg := "o_ol_cnt must be between 1 and 15" }
  else Dbt2.newOrder newOrderCode data db

def paymentFailed : PaymentQuery → PgError
  | .warehouse => internalError "PAYMENT_1 failed"
  | .district => internalError "PAYMENT_3 failed"
  | .customerByName => internalError "PAYMENT_5 failed"
  | .customer => internalError "PAYMENT_6 failed"

def paymentCode : PaymentCode PgError where
  failed := paymentFailed
  found _ := true
  updateGoodCredit hAmount c :=
    { c with
      cBalance := c.cBalance - hAmount
      cYtdPayment := c.cYtdPayment + hAmount
      cPaymentCnt := c.cPaymentCnt + 1 }
  updateBadCredit hAmount text c :=
    { c with
      cBalance := c.cBalance - hAmount
      cYtdPayment := c.cYtdPayment + hAmount
      cPaymentCnt := c.cPaymentCnt + 1
      cData := substr (text ++ c.cData) 500 }
  digits := 2
  cData good _ after := if good then "" else substr after.cData 200

def payment (data : PaymentData) (db : Database) : Except PgError (Database × PaymentResult) :=
  Dbt2.payment paymentCode data db

def deliveryFailed : DeliveryQuery → PgError
  | .orders => internalError "DELIVERY_3 failed"
  | .amount => internalError "DELIVERY_6 returned no amount"

def deliveryCode : DeliveryCode PgError where
  failed := deliveryFailed
  deliverable _ := true
  order := List.head?
  snapshot := true

def delivery (data : DeliveryData) (db : Database) :
    Except PgError (Database × List (Option Int)) :=
  Dbt2.delivery deliveryCode data db

end Pgsql

/-! ## What each commits -/

inductive Backend where
  | nonsp
  | cockroach
  | pgsql
  deriving DecidableEq

/-- The database that an execution commits if it succeeds. -/
def committed {E R : Type} (execution : Except E (Database × R)) : Option Database :=
  execution.toOption.map Prod.fst

namespace Backend

def newOrder : Backend → NewOrderData → Database → Option Database
  | nonsp, data, db => committed (Nonsp.executeNewOrderNonsp data db)
  | cockroach, data, db => committed (Cockroach.executeNewOrderCockroach data db)
  | pgsql, data, db => committed (Pgsql.newOrder data db)

def payment : Backend → PaymentData → Database → Option Database
  | nonsp, data, db => committed (Nonsp.executePaymentNonsp data db)
  | cockroach, data, db => committed (Cockroach.executePaymentCockroach data db)
  | pgsql, data, db => committed (Pgsql.payment data db)

def delivery : Backend → DeliveryData → Database → Option Database
  | nonsp, data, db => committed (Nonsp.executeDeliveryNonsp data db)
  | cockroach, data, db => committed (Cockroach.executeDeliveryCockroach data db)
  | pgsql, data, db => committed (Pgsql.delivery data db)

end Backend

theorem committed_eq_some {E R : Type} {execution : Except E (Database × R)} {db' : Database} :
    committed execution = some db' ↔ ∃ r, execution = .ok (db', r) := by
  cases execution with
  | ok result =>
    obtain ⟨db'', r⟩ := result
    simp [committed, Except.toOption, Prod.ext_iff]
  | error e => simp [committed, Except.toOption]

end Dbt2
