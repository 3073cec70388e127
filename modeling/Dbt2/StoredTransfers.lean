import Dbt2.ColumnTypes
import Dbt2.Effects

/-!
# Payment and Delivery in the types of their columns

What a Payment of the stored procedure and a Delivery leave in the columns of money, in the
arithmetic of a database. Where this is exact on the numbers that they find, it is what they leave
with exact numbers. The number of a customer's deliveries is exact in any case.

* `Pgsql.storedPayment`, `storedDelivery`: the transactions in an arithmetic;
* `storedPayment_exact`, `storedDelivery_exact`: on numbers on which it is exact;
* `Pgsql.paymentExact_whole`: whole amounts are such numbers for a Payment.
-/

namespace Dbt2

open Table Fallible

/-! ## Payment -/

namespace Pgsql

section Payment

variable (a : Arithmetic) (data : PaymentData)

def storedPaymentCode : PaymentCode PgError :=
  { paymentCode with
    updateGoodCredit := fun hAmount c =>
      { c with
        cBalance := a.minus c.cBalance hAmount
        cYtdPayment := a.plus c.cYtdPayment hAmount
        cPaymentCnt := a.next c.cPaymentCnt }
    updateBadCredit := fun hAmount text c =>
      { c with
        cBalance := a.minus c.cBalance hAmount
        cYtdPayment := a.plus c.cYtdPayment hAmount
        cPaymentCnt := a.next c.cPaymentCnt
        cData := substr (text ++ c.cData) 500 } }

def storedWarehouse (db : Database) : Database :=
  { db with
    warehouse := Table.update (fun w => w.wId = data.wId)
      (fun w => { w with wYtd := a.plus w.wYtd data.hAmount }) db.warehouse }

def storedDistrict (db : Database) : Database :=
  { db with
    district := Table.update (fun x => x.key = (data.wId, data.dId))
      (fun x => { x with dYtd := a.plus x.dYtd data.hAmount }) db.district }

def storedPayment (start : Database) : Except PgError (Database × PaymentResult) := do
  let warehouse ← orFail (start.selectWarehouse data.wId) (paymentFailed .warehouse)
  let warehousePaid := storedWarehouse a data start
  let district ← orFail (warehousePaid.selectDistrict data.wId data.dId) (paymentFailed .district)
  let districtPaid := storedDistrict a data warehousePaid
  let cId ← orFail (paymentCustomer (storedPaymentCode a) data districtPaid)
    (paymentFailed .customerByName)
  let customer ← orFail (districtPaid.selectCustomer data.cWId data.cDId cId)
    (paymentFailed .customer)
  let update := paymentUpdate (storedPaymentCode a) data cId customer.goodCredit
  let customerPaid := districtPaid.updateCustomer data.cWId data.cDId cId update
  let recorded := customerPaid.insertHistory
    { historyRow data cId (warehouse.wName ++ "    " ++ district.dName) with
      hAmount := a.amount data.hAmount }
  pure (recorded,
    { cId, warehouse, district, customer, cBalance := a.minus customer.cBalance data.hAmount
      cData := (storedPaymentCode a).cData customer.goodCredit customer (update customer) })

/-- The sums that a Payment forms with what it finds are exact. -/
structure PaymentExact (db : Database) : Prop where
  amount : a.amount data.hAmount = data.hAmount
  warehouse : ∀ w ∈ db.warehouse, w.wId = data.wId →
    a.plus w.wYtd data.hAmount = w.wYtd + data.hAmount
  district : ∀ x ∈ db.district, x.key = (data.wId, data.dId) →
    a.plus x.dYtd data.hAmount = x.dYtd + data.hAmount
  customer : ∀ cId ∈ paymentCustomer paymentCode data db, ∀ c ∈ db.customer,
    c.key = (data.cWId, data.cDId, cId) →
      a.minus c.cBalance data.hAmount = c.cBalance - data.hAmount ∧
        a.plus c.cYtdPayment data.hAmount = c.cYtdPayment + data.hAmount ∧
        a.next c.cPaymentCnt = c.cPaymentCnt + 1

theorem paymentExact_iff (db : Database) : PaymentExact a data db ↔
    a.amount data.hAmount = data.hAmount ∧
      (∀ w ∈ db.warehouse, w.wId = data.wId →
        a.plus w.wYtd data.hAmount = w.wYtd + data.hAmount) ∧
      (∀ x ∈ db.district, x.key = (data.wId, data.dId) →
        a.plus x.dYtd data.hAmount = x.dYtd + data.hAmount) ∧
      ∀ cId ∈ paymentCustomer paymentCode data db, ∀ c ∈ db.customer,
        c.key = (data.cWId, data.cDId, cId) →
          a.minus c.cBalance data.hAmount = c.cBalance - data.hAmount ∧
            a.plus c.cYtdPayment data.hAmount = c.cYtdPayment + data.hAmount ∧
            a.next c.cPaymentCnt = c.cPaymentCnt + 1 :=
  ⟨fun ⟨h1, h2, h3, h4⟩ => ⟨h1, h2, h3, h4⟩, fun ⟨h1, h2, h3, h4⟩ => ⟨h1, h2, h3, h4⟩⟩

instance (db : Database) : Decidable (PaymentExact a data db) :=
  decidable_of_iff' _ (paymentExact_iff a data db)

end Payment

section Exact

variable {a : Arithmetic} {data : PaymentData} {db : Database}

theorem storedWarehouse_exact (exact : PaymentExact a data db) :
    storedWarehouse a data db = db.payWarehouse data.wId data.hAmount := by
  unfold storedWarehouse Database.payWarehouse
  congr 1
  apply update_same
  intro w mem own
  rw [exact.warehouse w mem (of_decide_eq_true own)]

theorem storedDistrict_exact (exact : PaymentExact a data db) {paid : Database}
    (same : paid.district = db.district) :
    storedDistrict a data paid = paid.payDistrict data.wId data.dId data.hAmount := by
  unfold storedDistrict Database.payDistrict
  congr 1
  apply update_same
  intro x mem own
  rw [exact.district x (same ▸ mem) (of_decide_eq_true own)]

theorem storedCustomer_exact (exact : PaymentExact a data db) {paid : Database}
    (same : paid.customer = db.customer) {cId : Int}
    (is : paymentCustomer paymentCode data db = some cId) {c : Customer} (mem : c ∈ paid.customer)
    (key : c.key = (data.cWId, data.cDId, cId)) (good : Bool) :
    paymentUpdate (storedPaymentCode a) data cId good c = paymentUpdate paymentCode data cId good c
      := by
  obtain ⟨balance, ytdPayment, paymentCnt⟩ := exact.customer cId is c (same ▸ mem) key
  unfold paymentUpdate
  cases good with
  | true => simp [storedPaymentCode, paymentCode, balance, ytdPayment, paymentCnt]
  | false =>
    simp [storedPaymentCode, paymentCode, balance, ytdPayment, paymentCnt, paymentText]

/-- With exact sums, the columns keep what the payment on exact numbers leaves. -/
theorem storedPayment_exact (exact : PaymentExact a data db) :
    storedPayment a data db = payment data db := by
  have district : storedDistrict a data (db.payWarehouse data.wId data.hAmount) = _ :=
    storedDistrict_exact exact rfl
  unfold storedPayment payment Dbt2.payment
  dsimp only
  rw [storedWarehouse_exact exact, district]
  generalize paying : (db.payWarehouse data.wId data.hAmount).payDistrict data.wId data.dId
    data.hAmount = paid
  have customers : paid.customer = db.customer := by rw [← paying]; rfl
  have payer (code : PaymentCode PgError) (found : code.found = paymentCode.found) :
      paymentCustomer code data paid = paymentCustomer paymentCode data db := by
    simp [paymentCustomer, Database.selectByName, customers, found]
  rw [payer paymentCode rfl, payer (storedPaymentCode a) rfl]
  cases known : paymentCustomer paymentCode data db with
  | none => rfl
  | some cId =>
    simp only [orFail_some_bind]
    cases found : paid.selectCustomer data.cWId data.cDId cId with
    | none => rfl
    | some customer =>
      have mem : customer ∈ paid.customer := List.mem_of_find?_eq_some found
      have key : customer.key = (data.cWId, data.cDId, cId) := by
        simpa using List.find?_some found
      have stored {c : Customer} (there : c ∈ paid.customer)
          (own : c.key = (data.cWId, data.cDId, cId)) :=
        storedCustomer_exact exact customers known there own customer.goodCredit
      have rows : paid.updateCustomer data.cWId data.cDId cId
            (paymentUpdate (storedPaymentCode a) data cId customer.goodCredit) =
          paid.updateCustomer data.cWId data.cDId cId
            (paymentUpdate paymentCode data cId customer.goodCredit) :=
        congrArg (fun customer => { paid with customer })
          (update_same fun c there own => stored there (of_decide_eq_true own))
      have balance := (exact.customer cId known customer (customers ▸ mem) key).1
      simp only [orFail_some_bind, rows, stored mem key, balance, exact.amount]
      rfl

/-- A whole number that leaves room for an amount. -/
def Whole (q : ℚ) : Prop := ∃ n : Int, q = n ∧ n.natAbs < 10 ^ 14

theorem Whole.plus {column : ℚ} (whole : Whole column) {hAmount : Int}
    (small : hAmount.natAbs < 2 ^ 23) : arithmetic.plus column hAmount = column + hAmount := by
  obtain ⟨n, rfl, fits⟩ := whole
  exact plus_intCast (small.trans (by decide)) (fits.trans (by decide)) (by omega)

theorem Whole.minus {column : ℚ} (whole : Whole column) {hAmount : Int}
    (small : hAmount.natAbs < 2 ^ 23) : arithmetic.minus column hAmount = column - hAmount := by
  obtain ⟨n, rfl, fits⟩ := whole
  exact minus_intCast (small.trans (by decide)) (fits.trans (by decide)) (by omega)

/-- A payment of a whole amount is exact on whole columns. -/
theorem paymentExact_whole {hAmount : Int} (amount : data.hAmount = hAmount)
    (small : hAmount.natAbs < 2 ^ 23) (warehouses : ∀ w ∈ db.warehouse, Whole w.wYtd)
    (districts : ∀ x ∈ db.district, Whole x.dYtd)
    (customers : ∀ c ∈ db.customer, Whole c.cBalance ∧ Whole c.cYtdPayment ∧
      (c.cPaymentCnt + 1).natAbs < 2 ^ 24) : PaymentExact arithmetic data db := by
  constructor
  · rw [amount]
    exact amount_intCast small
  · intro w mem _
    rw [amount]
    exact (warehouses w mem).plus small
  · intro x mem _
    rw [amount]
    exact (districts x mem).plus small
  · intro cId _ c mem _
    obtain ⟨balance, ytdPayment, counted⟩ := customers c mem
    rw [amount]
    exact ⟨balance.minus small, ytdPayment.plus small, real_eq counted⟩

end Exact

end Pgsql

/-! ## Delivery -/

section Delivery

variable {E : Type} (a : Arithmetic) (code : DeliveryCode E) (data : DeliveryData)

/-- The amounts of the lines of an order, if it has any. -/
def Database.amounts (db : Database) (wId dId oId : Int) : Option (List ℚ) :=
  match db.selectLines wId dId oId with
  | [] => none
  | ls => some (ls.map OrderLine.olAmount)

theorem sumAmount_eq_map (db : Database) (wId dId oId : Int) :
    db.sumAmount wId dId oId = (db.amounts wId dId oId).map List.sum := by
  unfold Database.sumAmount Database.amounts
  cases db.selectLines wId dId oId <;> rfl

/-- An order is no longer outstanding. -/
def delivering (dId oId : Int) (db : Database) : Database :=
  ((db.deleteNewOrder data.wId dId oId).setCarrier data.wId dId oId data.oCarrierId).setDeliveryD
    data.wId dId oId

/-- The lines whose amounts are summed. -/
def amountsSeen (start : Database) (dId oId : Int) (db : Database) : Option (List ℚ) :=
  (if code.snapshot then start else delivering data dId oId db).amounts data.wId dId oId

def storedDeliveryDistrict (start : Database) (i : Nat) (db : Database) :
    Except E (Database × Option Int) :=
  let dId : Int := i + 1
  match (db.selectOldest data.wId dId).filter code.deliverable with
  | none => .ok (db, none)
  | some oId => do
    let opened := db.deleteNewOrder data.wId dId oId
    let order ← orFail (code.order (opened.selectOrders data.wId dId oId)) (code.failed .orders)
    let olAmounts ← orFail (amountsSeen code data start dId oId db) (code.failed .amount)
    let credited := (delivering data dId oId db).updateCustomer data.wId dId order.oCId fun c =>
      { c with
        cDeliveryCnt := c.cDeliveryCnt + 1
        cBalance := a.credit c.cBalance olAmounts }
    pure (credited, some oId)

def storedDelivery (start : Database) : Except E (Database × List (Option Int)) :=
  rounds (storedDeliveryDistrict a code data start) 10 start

/-- The credit of the order delivered in a district is exact. -/
def districtExact (start : Database) (i : Nat) (db : Database) : Bool :=
  let dId : Int := i + 1
  ((db.selectOldest data.wId dId).filter code.deliverable).all fun oId =>
    (code.order (db.selectOrders data.wId dId oId)).all fun order =>
      (amountsSeen code data start dId oId db).all fun olAmounts =>
        ∀ c ∈ db.customer, c.key = (data.wId, dId, order.oCId) →
          a.credit c.cBalance olAmounts = c.cBalance + olAmounts.sum

/-- The credits of a Delivery are exact, district after district. -/
def deliveryExact (start : Database) : Bool :=
  roundsMeet (deliveryDistrict code data start) (districtExact a code data start) 10 start

variable {a code data}

theorem storedDeliveryDistrict_exact {start db : Database} {i : Nat}
    (exact : districtExact a code data start i db) :
    storedDeliveryDistrict a code data start i db = deliveryDistrict code data start i db := by
  unfold storedDeliveryDistrict deliveryDistrict
  dsimp only
  unfold districtExact at exact
  cases oldest : (db.selectOldest data.wId (i + 1)).filter code.deliverable with
  | none => rfl
  | some oId =>
    have orders : (db.deleteNewOrder data.wId (i + 1) oId).selectOrders data.wId (i + 1) oId =
        db.selectOrders data.wId (i + 1) oId := rfl
    simp only [oldest, Option.all_some] at exact
    dsimp only
    rw [orders]
    cases picked : code.order (db.selectOrders data.wId (i + 1) oId) with
    | none => rfl
    | some order =>
      simp only [picked, Option.all_some] at exact
      have seen : (if code.snapshot then start else
          ((db.deleteNewOrder data.wId (i + 1) oId).setCarrier data.wId (i + 1) oId
            data.oCarrierId).setDeliveryD data.wId (i + 1) oId).sumAmount data.wId (i + 1) oId =
          (amountsSeen code data start (i + 1) oId db).map List.sum := sumAmount_eq_map ..
      simp only [orFail_some_bind]
      rw [seen]
      cases amounts : amountsSeen code data start (i + 1) oId db with
      | none => rfl
      | some olAmounts =>
        simp only [amounts, Option.all_some] at exact
        have credits := of_decide_eq_true exact
        simp only [Option.map_some, orFail_some_bind]
        have rows : (delivering data (i + 1) oId db).updateCustomer data.wId (i + 1) order.oCId
              (fun c => { c with
                cDeliveryCnt := c.cDeliveryCnt + 1
                cBalance := a.credit c.cBalance olAmounts }) =
            (delivering data (i + 1) oId db).updateCustomer data.wId (i + 1) order.oCId
              (Customer.credit olAmounts.sum) := by
          refine congrArg (fun customer => { delivering data (i + 1) oId db with customer })
            (update_same fun c there own => ?_)
          rw [credits c there (of_decide_eq_true own)]
          rfl
        rw [rows]
        rfl

/-- With exact credits, the columns keep what the delivery on exact numbers leaves. -/
theorem storedDelivery_exact {start : Database} (exact : deliveryExact a code data start) :
    storedDelivery a code data start = delivery code data start :=
  rounds_congr (fun _ _ _ fits => storedDeliveryDistrict_exact fits) exact

end Delivery

/-! ## What each commits -/

namespace Backend

variable (a : Arithmetic)

/-- The other two add one to `c_ytd_payment` and count nothing, in any arithmetic. -/
def storedPayment : Backend → PaymentData → Database → Option Database
  | pgsql, data, db => committed (Pgsql.storedPayment a data db)
  | b, data, db => b.payment data db

def storedDelivery : Backend → DeliveryData → Database → Option Database
  | nonsp, data, db =>
    committed ((Dbt2.storedDelivery a Nonsp.deliveryCode data db).mapError fun e =>
      { e with rc := ERROR })
  | cockroach, data, db => committed (Dbt2.storedDelivery a Cockroach.deliveryCode data db)
  | pgsql, data, db => committed (Dbt2.storedDelivery a Pgsql.deliveryCode data db)

def paymentExact : Backend → PaymentData → Database → Bool
  | pgsql, data, db => Pgsql.PaymentExact a data db
  | _, _, _ => true

def deliveryExact : Backend → DeliveryData → Database → Bool
  | nonsp, data, db => Dbt2.deliveryExact a Nonsp.deliveryCode data db
  | cockroach, data, db => Dbt2.deliveryExact a Cockroach.deliveryCode data db
  | pgsql, data, db => Dbt2.deliveryExact a Pgsql.deliveryCode data db

variable {a}

theorem storedPayment_exact {b : Backend} {data : PaymentData} {db : Database}
    (exact : b.paymentExact a data db) : b.storedPayment a data db = b.payment data db := by
  cases b with
  | nonsp => rfl
  | cockroach => rfl
  | pgsql => exact congrArg committed (Pgsql.storedPayment_exact (of_decide_eq_true exact))

theorem storedDelivery_exact {b : Backend} {data : DeliveryData} {db : Database}
    (exact : b.deliveryExact a data db) : b.storedDelivery a data db = b.delivery data db := by
  cases b with
  | nonsp =>
    exact congrArg (fun execution => committed (execution.mapError fun e : Failure =>
      { e with rc := ERROR })) (Dbt2.storedDelivery_exact exact)
  | cockroach => exact congrArg committed (Dbt2.storedDelivery_exact exact)
  | pgsql => exact congrArg committed (Dbt2.storedDelivery_exact exact)

end Backend

end Dbt2
