import Dbt2.CustomerByName
import Dbt2.Datagen

/-!
# Order-Status

The transaction as four backends implement it: the nonsp client, the cockroach client, the stored
procedure in C and the one for MySQL. A query leaves the order of its rows open as far as it has no
`ORDER BY`, so each backend has its own answers.

* `StatusAnswers`: rows in an order that the queries allow;
* `OrderStatusReport`: what an execution tells of a customer and of an order;
* `order_status_iff`: when all four tell the same.
-/

namespace Dbt2

open Fallible

/-! ## Queries -/

/-- What the queries for several rows return. -/
structure StatusAnswers (db : Database) where
  selectByName (wId dId : Int) (cLast : String) : List Customer
  /-- `ORDER BY o_id DESC`. -/
  selectOrders (wId dId cId : Int) : List Order
  selectLines (wId dId oId : Int) : List OrderLine
  byName : ∀ wId dId cLast, ByName db wId dId cLast (selectByName wId dId cLast)
  orders : ∀ wId dId cId, (selectOrders wId dId cId).Perm
    (db.orders.filter fun o => o.customer = (wId, dId, cId))
  descending : ∀ wId dId cId, (selectOrders wId dId cId).Pairwise fun o o' => o'.oId ≤ o.oId
  lines : ∀ wId dId oId, (selectLines wId dId oId).Perm (db.selectLines wId dId oId)

/-- `os_order_line_t`. -/
structure OrderStatusLine where
  olIId : Int
  olSupplyWId : Int
  olQuantity : Int
  olAmount : ℚ
  olDeliveryD : Option Timestamp
  deriving DecidableEq

def OrderLine.status (l : OrderLine) : OrderStatusLine where
  olIId := l.olIId
  olSupplyWId := l.olSupplyWId
  olQuantity := l.olQuantity
  olAmount := l.olAmount
  olDeliveryD := l.olDeliveryD

/-- The output of `order_status_t`. A carrier that is null is 0. -/
structure OrderStatusResult where
  cId : Int
  cFirst : String
  cMiddle : String
  cLast : String
  cBalance : ℚ
  oId : Int
  oCarrierId : Int
  oEntryD : Timestamp
  orderLine : List OrderStatusLine
  deriving DecidableEq

def orderStatusResult (cId : Int) (c : Customer) (o : Order) (ls : List OrderLine) :
    OrderStatusResult where
  cId
  cFirst := c.cFirst
  cMiddle := c.cMiddle
  cLast := c.cLast
  cBalance := c.cBalance
  oId := o.oId
  oCarrierId := o.oCarrierId.getD 0
  oEntryD := o.oEntryD
  orderLine := ls.map OrderLine.status

section

variable {db : Database} (answers : StatusAnswers db) (data : OrderStatusData)

/-! ## nonsp -/

namespace Nonsp

/-- Names have no apostrophes, so they are the same in the text of ORDER_STATUS_1. -/
def orderStatusCustomer : Except Int Int :=
  if data.cId = 0 then
    let cIds := (answers.selectByName data.cWId data.cDId data.cLast).map fun c => some c.cId
    accept cIds (orderStatusMyCId cIds)
  else .ok data.cId

/-- A row outside the arrays of 15 has no result. -/
def orderStatusNonsp : Except Int OrderStatusResult := do
  let myCId ← orderStatusCustomer answers data
  let customer ← orFail (db.selectCustomer data.cWId data.cDId myCId) (-1)
  let order ← orFail (answers.selectOrders data.cWId data.cDId myCId).head? (-1)
  let lines := answers.selectLines data.cWId data.cDId order.oId
  if lines = [] ∨ 15 < lines.length then .error (-1)
  else pure (orderStatusResult myCId customer order lines)

def executeOrderStatusNonsp : Except Int OrderStatusResult :=
  (orderStatusNonsp answers data).mapError fun _ => ERROR

end Nonsp

/-! ## cockroach -/

namespace Cockroach

def O_OL_CNT_MAX : Nat := 15

def orderStatusCustomer : Except Int Int :=
  if data.cId = 0 then
    customerByName ((answers.selectByName (printed data.cWId) (printed data.cDId) data.cLast).map
      Customer.cId)
  else .ok data.cId

/-- A quantity is read with `atoi` from the text of a REAL, which below a million is the number. -/
def executeOrderStatusCockroach : Except Int OrderStatusResult := do
  let cWId := printed data.cWId
  let cDId := printed data.cDId
  let cId ← orderStatusCustomer answers data
  let customer ← orFail (db.selectCustomer cWId cDId (printed cId)) ERROR
  let order ← orFail (answers.selectOrders cWId cDId (printed cId)).head? ERROR
  let lines := answers.selectLines cWId cDId (printed order.oId)
  if lines = [] then .error ERROR
  else pure (orderStatusResult (printed cId) customer order (lines.take O_OL_CNT_MAX))

end Cockroach

/-! ## pgsql -/

namespace Pgsql

/-- A row that the procedure returns: a line, and the customer and the order with each. -/
structure OrderStatusRow where
  line : OrderStatusLine
  cId : Int
  cFirst : String
  cMiddle : String
  cLast : String
  cBalance : ℚ
  oId : Int
  oCarrierId : Option Int
  oEntryD : Timestamp
  deriving DecidableEq

def orderStatusRow (myCId : Int) (c : Customer) (o : Order) (l : OrderLine) : OrderStatusRow where
  line := l.status
  cId := myCId
  cFirst := c.cFirst
  cMiddle := c.cMiddle
  cLast := c.cLast
  cBalance := c.cBalance
  oId := o.oId
  oCarrierId := o.oCarrierId
  oEntryD := o.oEntryD

def orderStatusCustomer : Except PgError Int :=
  if data.cId = 0 then
    let rows := answers.selectByName data.cWId data.cDId data.cLast
    orFail (rows[(rows.length - 1) / 2]?.map Customer.cId) (internalError "ORDER_STATUS_1 failed")
  else .ok data.cId

def orderStatus : Except PgError (List OrderStatusRow) := do
  let myCId ← orderStatusCustomer answers data
  let customer ← orFail (db.selectCustomer data.cWId data.cDId myCId)
    (internalError "ORDER_STATUS_2 failed")
  let order ← orFail (answers.selectOrders data.cWId data.cDId myCId).head?
    (internalError "ORDER_STATUS_3 failed")
  let lines := answers.selectLines data.cWId data.cDId order.oId
  if lines = [] then .error (internalError "ORDER_STATUS_4 failed")
  else pure (lines.map (orderStatusRow myCId customer order))

end Pgsql

/-! ## MySQL -/

namespace MySql

/-- A value that is not in the range of a variable. -/
def OUT_OF_RANGE : String := "22003"

/-- An assignment to a variable declared `NUMERIC`, which is `DECIMAL(10,0)`. -/
def numeric (q : ℚ) : Except String Int :=
  let rounded := Datagen.round q
  if rounded.natAbs < 10 ^ 10 then .ok rounded else .error OUT_OF_RANGE

structure CustomerVars where
  outCFirst : String
  outCMiddle : String
  outCLast : String
  outCBalance : Int
  deriving DecidableEq

structure LineVars where
  outOlIId : Int
  outOlSupplyWId : Int
  outOlQuantity : Int
  outOlAmount : Int
  outOlDeliveryD : Option Timestamp
  deriving DecidableEq

structure OrderVars where
  outOId : Int
  outOCarrierId : Option Int
  outOEntryD : Timestamp
  outOOlCnt : Int
  deriving DecidableEq

/-- The result sets: the customer and the order, null where nothing was found, and the variables of
a line, null if nothing was fetched into them. -/
inductive OrderStatusSet where
  | order (outCId : Option Int) (customer : Option CustomerVars) (order : Option OrderVars)
  | line (vars : Option LineVars)
  deriving DecidableEq

def customerVars (c : Customer) : Except String CustomerVars := do
  let outCBalance ← numeric c.cBalance
  pure { outCFirst := c.cFirst, outCMiddle := c.cMiddle, outCLast := c.cLast, outCBalance }

def lineVars (l : OrderLine) : Except String LineVars := do
  let outOlAmount ← numeric l.olAmount
  pure
    { outOlIId := l.olIId, outOlSupplyWId := l.olSupplyWId, outOlQuantity := l.olQuantity
      outOlAmount, outOlDeliveryD := l.olDeliveryD }

def orderVars (o : Order) : OrderVars where
  outOId := o.oId
  outOCarrierId := o.oCarrierId
  outOEntryD := o.oEntryD
  outOOlCnt := o.oOlCnt

/-- `SELECT … INTO` of a row that need not be there. -/
def intoVars {A B : Type} (vars : A → Except String B) : Option A → Except String (Option B)
  | some a => do
    let b ← vars a
    pure (some b)
  | none => pure none

/-- Up to `n` fetches from the cursor, left when the handler has set `rc`. -/
def fetchBlock (rc : Bool) : Nat → List OrderLine → Except String (List LineVars)
  | 0, _ => pure []
  | _, [] => pure []
  | n + 1, l :: ls => do
    let vars ← lineVars l
    let rest ← if rc then pure [] else fetchBlock rc n ls
    pure (vars :: rest)

def outCId : Option Int :=
  if data.cId = 0 then
    let rows := answers.selectByName data.cWId data.cDId data.cLast
    let tmpOffset := ((rows.length : Int) - 1).tdiv 2
    rows[tmpOffset.toNat]?.map Customer.cId
  else some data.cId

def orderStatus : Except String (List OrderStatusSet) := do
  let outCId := outCId answers data
  let customer ← intoVars customerVars
    (outCId.bind fun cId => db.selectCustomer data.cWId data.cDId cId)
  let order := (outCId.bind fun cId => (answers.selectOrders data.cWId data.cDId cId).head?).map
    orderVars
  let rc := outCId.isNone || customer.isNone || order.isNone
  let cursor := order.elim [] fun o => answers.selectLines data.cWId data.cDId o.outOId
  let vars ← fetchBlock rc 15 cursor
  let shown := (List.range 15).filter fun i : Nat => order.any fun o => o.outOOlCnt ≥ (i : Int) + 1
  pure (.order outCId customer order :: shown.map fun i => .line vars[i]?)

end MySql

end

/-! ## Reports -/

/-- What is told of the customer and of the most recent order. -/
structure OrderStatusReport where
  cId : Int
  cBalance : ℚ
  oId : Int
  oCarrierId : Int
  lines : Multiset (Int × Int × Int × ℚ)
  deriving DecidableEq

def OrderStatusLine.told (l : OrderStatusLine) : Int × Int × Int × ℚ :=
  (l.olIId, l.olSupplyWId, l.olQuantity, l.olAmount)

def OrderStatusResult.report (r : OrderStatusResult) : OrderStatusReport where
  cId := r.cId
  cBalance := r.cBalance
  oId := r.oId
  oCarrierId := r.oCarrierId
  lines := r.orderLine.map OrderStatusLine.told

/-- All rows have the same customer and order. -/
def Pgsql.report : List Pgsql.OrderStatusRow → Option OrderStatusReport
  | [] => none
  | row :: rows => some
    { cId := row.cId, cBalance := row.cBalance, oId := row.oId
      oCarrierId := row.oCarrierId.getD 0
      lines := (row :: rows).map fun row => row.line.told }

def MySql.LineVars.told (l : MySql.LineVars) : Int × Int × Int × ℚ :=
  (l.outOlIId, l.outOlSupplyWId, l.outOlQuantity, l.outOlAmount)

def MySql.OrderStatusSet.line? : MySql.OrderStatusSet → Option MySql.LineVars
  | .line vars => vars
  | .order _ _ _ => none

/-- None if a result set that should tell something is null. -/
def MySql.report : List MySql.OrderStatusSet → Option OrderStatusReport
  | .order (some cId) (some c) (some o) :: sets => do
    let vars ← sets.mapM MySql.OrderStatusSet.line?
    some
      { cId, cBalance := c.outCBalance, oId := o.outOId, oCarrierId := o.outOCarrierId.getD 0
        lines := vars.map MySql.LineVars.told }
  | _ => none

section

variable {db : Database} (data : OrderStatusData)

/-- The four executions, each with its own answers. -/
structure FourAnswers (db : Database) where
  nonsp : StatusAnswers db
  cockroach : StatusAnswers db
  pgsql : StatusAnswers db
  mysql : StatusAnswers db

variable (answers : FourAnswers db)

def Nonsp.told : Option OrderStatusReport :=
  (executeOrderStatusNonsp answers.nonsp data).toOption.map OrderStatusResult.report

def Cockroach.told : Option OrderStatusReport :=
  (executeOrderStatusCockroach answers.cockroach data).toOption.map OrderStatusResult.report

def Pgsql.told : Option OrderStatusReport :=
  (orderStatus answers.pgsql data).toOption.bind report

def MySql.told : Option OrderStatusReport :=
  (orderStatus answers.mysql data).toOption.bind report

/-- An order that no order of the customer is more recent than. -/
structure MostRecent (db : Database) (key : Int × Int × Int) (o : Order) : Prop where
  mem : o ∈ db.orders
  customer : o.customer = key
  latest : ∀ o' ∈ db.orders, o'.customer = key → o'.oId ≤ o.oId

/-- All four tell the same, which is of the customer's most recent order. -/
def SameStatus : Prop :=
  ∃ r, Nonsp.told data answers = some r ∧ Cockroach.told data answers = some r ∧
    Pgsql.told data answers = some r ∧ MySql.told data answers = some r ∧
    ∃ o, MostRecent db (data.cWId, data.cDId, r.cId) o ∧
      r.oId = o.oId ∧ r.oCarrierId = o.oCarrierId.getD 0

/-- The customer that is asked for, and the customer's most recent order with all its lines. -/
structure Asked (db : Database) (c : Customer) (o : Order) : Prop where
  customer : db.selectCustomer data.cWId data.cDId c.cId = some c
  selected : if data.cId = 0 then middle (db.selectByName data.cWId data.cDId data.cLast) = some c
    else c.cId = data.cId
  firsts : data.cId = 0 →
    ((db.selectByName data.cWId data.cDId data.cLast).map Customer.cFirst).Nodup
  order : MostRecent db (data.cWId, data.cDId, c.cId) o
  keys : (db.orders.map Order.key).Nodup
  lines : o.oOlCnt = (db.selectLines data.cWId data.cDId o.oId).length
  some' : 1 ≤ o.oOlCnt
  fits : o.oOlCnt ≤ 15

/-- What is put into a query as text stays what it is: no id is cut, and no apostrophe ends the
name, if the request is by name. -/
structure Printable (c : Customer) (o : Order) : Prop where
  warehouse : (toString data.cWId).length ≤ Cockroach.ID_LEN
  district : (toString data.cDId).length ≤ Cockroach.ID_LEN
  customer : (toString c.cId).length ≤ Cockroach.ID_LEN
  order : (toString o.oId).length ≤ Cockroach.ID_LEN
  name : data.cId = 0 → Char.ofNat 39 ∉ data.cLast.toList

/-- What there is to tell. -/
def statusReport (db : Database) (c : Customer) (o : Order) : OrderStatusReport where
  cId := c.cId
  cBalance := c.cBalance
  oId := o.oId
  oCarrierId := o.oCarrierId.getD 0
  lines := (db.selectLines data.cWId data.cDId o.oId).map fun l => l.status.told

/-! ## What is selected -/

variable {data} {c : Customer} {o : Order}

/-- With distinct first names there is one order of the rows. -/
theorem ByName.unique {wId dId : Int} {cLast : String} {rows rows' : List Customer}
    (h : ByName db wId dId cLast rows) (h' : ByName db wId dId cLast rows')
    (firsts : (rows.map Customer.cFirst).Nodup) : rows = rows' := by
  have perm : rows.Perm rows' := h.perm.trans h'.perm.symm
  apply List.Perm.eq_of_pairwise _ h.sorted h'.sorted perm
  intro a b mem mem' le ge
  exact List.inj_on_of_nodup_map firsts mem (perm.mem_iff.mpr mem') (le_antisymm le ge)

theorem Asked.byName (h : Asked data db c o) (byName : data.cId = 0) (answers : StatusAnswers db) :
    let rows := answers.selectByName data.cWId data.cDId data.cLast
    rows ≠ [] ∧ rows[(rows.length - 1) / 2]? = some c := by
  have same := (selectByName_byName db _ _ _).unique
    (answers.byName data.cWId data.cDId data.cLast) (h.firsts byName)
  have selected := h.selected
  rw [if_pos byName, middle, same] at selected
  refine ⟨?_, selected⟩
  intro empty
  rw [empty] at selected
  cases selected

theorem Asked.byId (h : Asked data db c o) (byId : data.cId ≠ 0) : data.cId = c.cId := by
  have selected := h.selected
  rw [if_neg byId] at selected
  exact selected.symm

/-- The first of the orders, in descending order, is the most recent. -/
theorem Asked.first (h : Asked data db c o) (answers : StatusAnswers db) :
    (answers.selectOrders data.cWId data.cDId c.cId).head? = some o := by
  have perm := answers.orders data.cWId data.cDId c.cId
  have descending := answers.descending data.cWId data.cDId c.cId
  have mem : o ∈ answers.selectOrders data.cWId data.cDId c.cId :=
    perm.mem_iff.mpr (List.mem_filter.mpr ⟨h.order.mem, decide_eq_true h.order.customer⟩)
  cases rows : answers.selectOrders data.cWId data.cDId c.cId with
  | nil =>
    rw [rows] at mem
    cases mem
  | cons first rest =>
    rw [rows] at mem descending perm
    obtain ⟨there, customer⟩ := List.mem_filter.mp (perm.subset List.mem_cons_self)
    have customer : first.customer = _ := of_decide_eq_true customer
    have newer : o.oId ≤ first.oId := by
      obtain rfl | later := List.mem_cons.mp mem
      · exact le_rfl
      · exact List.rel_of_pairwise_cons descending later
    have older := h.order.latest first there customer
    have key : first.key = o.key := by
      have address := customer.trans h.order.customer.symm
      simp only [Order.customer, Prod.mk.injEq] at address
      simp only [Order.key, Prod.mk.injEq]
      exact ⟨address.1, address.2.1, le_antisymm older newer⟩
    rw [List.head?_cons, List.inj_on_of_nodup_map h.keys there h.order.mem key]

theorem Asked.lines_length (h : Asked data db c o) (answers : StatusAnswers db) :
    let ls := answers.selectLines data.cWId data.cDId o.oId
    ls ≠ [] ∧ ls.length ≤ 15 ∧ (ls.length : Int) = o.oOlCnt := by
  have count : (answers.selectLines data.cWId data.cDId o.oId).length =
      (db.selectLines data.cWId data.cDId o.oId).length := (answers.lines _ _ _).length_eq
  have lines := h.lines
  have some' := h.some'
  have fits := h.fits
  refine ⟨?_, by omega, by omega⟩
  intro empty
  rw [empty, List.length_nil] at count
  omega

theorem told_lines (answers : StatusAnswers db) (oId : Int) :
    ((answers.selectLines data.cWId data.cDId oId).map fun l => l.status.told).Perm
      ((db.selectLines data.cWId data.cDId oId).map fun l => l.status.told) :=
  (answers.lines _ _ _).map _

theorem orderStatusResult_report (answers : StatusAnswers db) :
    (orderStatusResult c.cId c o (answers.selectLines data.cWId data.cDId o.oId)).report =
      statusReport data db c o := by
  unfold OrderStatusResult.report orderStatusResult statusReport
  rw [List.map_map, OrderStatusReport.mk.injEq]
  exact ⟨rfl, rfl, rfl, rfl, Multiset.coe_eq_coe.mpr (told_lines answers o.oId)⟩

/-! ## What each tells -/

/-- A customer with id -1 that is found by name is taken for none. -/
theorem Nonsp.orderStatusCustomer_eq (h : Asked data db c o) (answers : StatusAnswers db) :
    Nonsp.orderStatusCustomer answers data =
      if data.cId = 0 ∧ c.cId = -1 then .error (-1) else .ok c.cId := by
  unfold Nonsp.orderStatusCustomer
  by_cases byName : data.cId = 0
  · obtain ⟨found, middle⟩ := h.byName byName answers
    have myCId := Nonsp.paymentMyCId_eq found
    rw [middle] at myCId
    rw [if_pos byName, Nonsp.accept, if_neg (by simpa using found)]
    have selected : Nonsp.orderStatusMyCId ((answers.selectByName data.cWId data.cDId
        data.cLast).map fun c => some c.cId) = some c.cId := myCId
    rw [selected, orFail_some_bind]
    simp only [byName, true_and]
  · rw [if_neg byName, if_neg (fun null => byName null.1), h.byId byName]

theorem Cockroach.orderStatusCustomer_eq (h : Asked data db c o) (printable : Printable data c o)
    (answers : StatusAnswers db) : Cockroach.orderStatusCustomer answers data = .ok c.cId := by
  unfold Cockroach.orderStatusCustomer
  rw [Cockroach.printed_eq printable.warehouse, Cockroach.printed_eq printable.district]
  by_cases byName : data.cId = 0
  · obtain ⟨found, middle⟩ := h.byName byName answers
    rw [if_pos byName, Cockroach.customerByName_eq found middle]
  · rw [if_neg byName, h.byId byName]

theorem Pgsql.orderStatusCustomer_eq (h : Asked data db c o) (answers : StatusAnswers db) :
    Pgsql.orderStatusCustomer answers data = .ok c.cId := by
  unfold Pgsql.orderStatusCustomer
  by_cases byName : data.cId = 0
  · obtain ⟨-, middle⟩ := h.byName byName answers
    rw [if_pos byName]
    simp only [middle, Option.map_some]
    rfl
  · rw [if_neg byName, h.byId byName]

theorem MySql.outCId_eq (h : Asked data db c o) (answers : StatusAnswers db) :
    MySql.outCId answers data = some c.cId := by
  unfold MySql.outCId
  by_cases byName : data.cId = 0
  · obtain ⟨found, middle⟩ := h.byName byName answers
    have pos := List.length_pos_iff.mpr found
    have offset : (((answers.selectByName data.cWId data.cDId data.cLast).length : Int) - 1).tdiv 2 =
        (((answers.selectByName data.cWId data.cDId data.cLast).length - 1) / 2 : Nat) := by
      rw [Int.tdiv_eq_ediv_of_nonneg (by omega)]
      omega
    simp only [byName, if_true, offset, Int.toNat_natCast, middle, Option.map_some]
  · rw [if_neg byName, h.byId byName]

variable (answers : FourAnswers db)

theorem Nonsp.told_eq (h : Asked data db c o) : Nonsp.told data answers =
    if data.cId = 0 ∧ c.cId = -1 then none else some (statusReport data db c o) := by
  obtain ⟨lines, fits, -⟩ := h.lines_length answers.nonsp
  unfold Nonsp.told Nonsp.executeOrderStatusNonsp Nonsp.orderStatusNonsp
  rw [Nonsp.orderStatusCustomer_eq h]
  by_cases null : data.cId = 0 ∧ c.cId = -1
  · rw [if_pos null, if_pos null]
    rfl
  · rw [if_neg null, if_neg null]
    simp only [ok_bind, h.customer, h.first, orFail_some_bind, lines, not_lt.mpr fits,
      or_self, if_false]
    exact congrArg some (orderStatusResult_report answers.nonsp)

theorem Cockroach.told_eq (h : Asked data db c o) (printable : Printable data c o) :
    Cockroach.told data answers = some (statusReport data db c o) := by
  obtain ⟨lines, fits, -⟩ := h.lines_length answers.cockroach
  unfold Cockroach.told Cockroach.executeOrderStatusCockroach
  simp only [Cockroach.orderStatusCustomer_eq h printable, ok_bind,
    Cockroach.printed_eq printable.warehouse, Cockroach.printed_eq printable.district,
    Cockroach.printed_eq printable.customer, Cockroach.printed_eq printable.order,
    h.customer, h.first, orFail_some_bind, lines, if_false]
  have all := List.take_of_length_le (i := Cockroach.O_OL_CNT_MAX) fits
  rw [all]
  exact congrArg some (orderStatusResult_report answers.cockroach)

theorem Pgsql.report_rows {ls : List OrderLine} (some' : ls ≠ []) :
    Pgsql.report (ls.map (Pgsql.orderStatusRow c.cId c o)) = some
      { cId := c.cId, cBalance := c.cBalance, oId := o.oId, oCarrierId := o.oCarrierId.getD 0
        lines := ls.map fun l => l.status.told } := by
  cases ls with
  | nil => contradiction
  | cons l ls => simp [Pgsql.report, Pgsql.orderStatusRow, Function.comp_def]

theorem Pgsql.told_eq (h : Asked data db c o) :
    Pgsql.told data answers = some (statusReport data db c o) := by
  obtain ⟨lines, -, -⟩ := h.lines_length answers.pgsql
  unfold Pgsql.told Pgsql.orderStatus
  simp only [Pgsql.orderStatusCustomer_eq h, ok_bind, h.customer, h.first, orFail_some_bind,
    lines, if_false]
  refine (Pgsql.report_rows lines).trans ?_
  rw [statusReport, Multiset.coe_eq_coe.mpr (told_lines answers.pgsql o.oId)]

/-! ## What MySQL tells -/

/-- A value that a variable declared `NUMERIC` can have. -/
def WholeNumber (q : ℚ) : Prop := ∃ n : Int, (n : ℚ) = q ∧ n.natAbs < 10 ^ 10

theorem MySql.numeric_ok {q : ℚ} {n : Int} (assigned : MySql.numeric q = .ok n) :
    n.natAbs < 10 ^ 10 := by
  unfold MySql.numeric at assigned
  dsimp only at assigned
  split at assigned
  · next bound =>
    cases assigned
    exact bound
  · cases assigned

theorem MySql.numeric_whole {n : Int} (bound : n.natAbs < 10 ^ 10) : MySql.numeric n = .ok n := by
  unfold MySql.numeric
  rw [Datagen.round_intCast]
  exact if_pos bound

/-- All lines are fetched, if there are no more than variables. -/
theorem MySql.fetchBlock_eq {n : Nat} {ls : List OrderLine} (fits : ls.length ≤ n) :
    MySql.fetchBlock false n ls = ls.mapM MySql.lineVars := by
  induction n generalizing ls with
  | zero =>
    rw [List.length_eq_zero_iff.mp (Nat.le_zero.mp fits)]
    rfl
  | succ n ih =>
    cases ls with
    | nil => rfl
    | cons l ls =>
      rw [List.mapM_cons, ← ih (Nat.le_of_succ_le_succ fits)]
      rfl

theorem range_filter {n m : Nat} {cnt : Int} (fits : n ≤ m) (count : (n : Int) = cnt) :
    (List.range m).filter (fun i : Nat => decide (cnt ≥ (i : Int) + 1)) = List.range n := by
  obtain ⟨rest, rfl⟩ := Nat.exists_eq_add_of_le fits
  rw [List.range_add, List.filter_append, List.filter_eq_self.mpr, List.filter_eq_nil_iff.mpr,
    List.append_nil]
  · intro i mem
    obtain ⟨j, -, rfl⟩ := List.mem_map.mp mem
    rw [decide_eq_true_eq]
    push_cast
    omega
  · intro i mem
    have := List.mem_range.mp mem
    exact decide_eq_true (by omega)

/-- The result sets of the lines are those of the variables that were fetched into. -/
theorem MySql.shown_eq {vars : List MySql.LineVars} {cnt : Int} (count : (vars.length : Int) = cnt)
    (fits : vars.length ≤ 15) :
    ((List.range 15).filter fun i : Nat => decide (cnt ≥ (i : Int) + 1)).map
      (fun i => MySql.OrderStatusSet.line vars[i]?) =
        vars.map fun v => MySql.OrderStatusSet.line (some v) := by
  rw [range_filter fits count]
  apply List.ext_getElem
  · simp
  · intro i lt _
    have inside : i < vars.length := by simpa using lt
    simp [inside]

theorem MySql.lines_eq (vars : List MySql.LineVars) :
    (vars.map fun v => MySql.OrderStatusSet.line (some v)).mapM MySql.OrderStatusSet.line? =
      some vars := by
  induction vars with
  | nil => rfl
  | cons v vars ih =>
    rw [List.map_cons, List.mapM_cons, ih]
    rfl

theorem MySql.orderStatus_eq (h : Asked data db c o) (answers : StatusAnswers db) :
    MySql.orderStatus answers data = (do
      let customer ← MySql.customerVars c
      let vars ← (answers.selectLines data.cWId data.cDId o.oId).mapM MySql.lineVars
      pure (.order (some c.cId) (some customer) (some (MySql.orderVars o)) ::
        vars.map fun v => .line (some v))) := by
  obtain ⟨-, fits, count⟩ := h.lines_length answers
  unfold MySql.orderStatus
  rw [MySql.outCId_eq h]
  simp only [Option.bind_some, h.customer, h.first, Option.map_some, Option.elim_some]
  unfold MySql.intoVars
  dsimp only
  cases MySql.customerVars c with
  | error e => rfl
  | ok customer =>
    change (do
      let vars ← MySql.fetchBlock false 15 (answers.selectLines data.cWId data.cDId o.oId)
      pure _) = _
    rw [MySql.fetchBlock_eq fits, ok_bind]
    cases fetched : (answers.selectLines data.cWId data.cDId o.oId).mapM MySql.lineVars with
    | error e => rfl
    | ok vars =>
      have same := (mapM_eq_ok.mp fetched).length_eq
      have shown : (vars.length : Int) = (MySql.orderVars o).outOOlCnt := same ▸ count
      exact congrArg (fun sets => Except.ok (_ :: sets)) (MySql.shown_eq shown (same ▸ fits))

theorem MySql.report_sets (customer : MySql.CustomerVars) (vars : List MySql.LineVars) :
    MySql.report (.order (some c.cId) (some customer) (some (MySql.orderVars o)) ::
      vars.map fun v => .line (some v)) = some
        { cId := c.cId, cBalance := customer.outCBalance, oId := o.oId
          oCarrierId := o.oCarrierId.getD 0
          lines := vars.map MySql.LineVars.told } := by
  unfold MySql.report
  simp only [MySql.lines_eq]
  rfl

theorem MySql.told_eq_some (h : Asked data db c o) {r : OrderStatusReport} :
    MySql.told data answers = some r ↔ ∃ customer vars, MySql.customerVars c = .ok customer ∧
      (answers.mysql.selectLines data.cWId data.cDId o.oId).mapM MySql.lineVars = .ok vars ∧
      r = { cId := c.cId, cBalance := customer.outCBalance, oId := o.oId
            oCarrierId := o.oCarrierId.getD 0
            lines := vars.map MySql.LineVars.told } := by
  have told : MySql.told data answers = some r ↔
      ∃ sets, MySql.orderStatus answers.mysql data = .ok sets ∧ MySql.report sets = some r := by
    unfold MySql.told
    cases MySql.orderStatus answers.mysql data <;> simp [Except.toOption]
  rw [told, MySql.orderStatus_eq h]
  constructor
  · rintro ⟨sets, done, reported⟩
    obtain ⟨customer, assigned, done⟩ := bind_eq_ok.mp done
    obtain ⟨vars, fetched, done⟩ := bind_eq_ok.mp done
    cases done
    rw [MySql.report_sets, Option.some_inj] at reported
    exact ⟨customer, vars, assigned, fetched, reported.symm⟩
  · rintro ⟨customer, vars, assigned, fetched, rfl⟩
    refine ⟨_, ?_, MySql.report_sets customer vars⟩
    rw [assigned, ok_bind, fetched]
    rfl

theorem MySql.customerVars_ok {customer : MySql.CustomerVars}
    (assigned : MySql.customerVars c = .ok customer) :
    MySql.numeric c.cBalance = .ok customer.outCBalance := by
  obtain ⟨n, numeric, rest⟩ := bind_eq_ok.mp assigned
  cases rest
  exact numeric

theorem MySql.lineVars_ok {l : OrderLine} {v : MySql.LineVars}
    (assigned : MySql.lineVars l = .ok v) : MySql.numeric l.olAmount = .ok v.outOlAmount := by
  obtain ⟨n, numeric, rest⟩ := bind_eq_ok.mp assigned
  cases rest
  exact numeric

theorem MySql.customerVars_whole (whole : WholeNumber c.cBalance) :
    ∃ customer, MySql.customerVars c = .ok customer ∧ (customer.outCBalance : ℚ) = c.cBalance := by
  obtain ⟨n, balance, bound⟩ := whole
  have numeric := MySql.numeric_whole bound
  rw [balance] at numeric
  unfold MySql.customerVars
  rw [numeric]
  exact ⟨_, rfl, balance⟩

theorem MySql.lineVars_whole {l : OrderLine} (whole : WholeNumber l.olAmount) :
    ∃ v, MySql.lineVars l = .ok v ∧ v.told = l.status.told := by
  obtain ⟨n, amount, bound⟩ := whole
  have numeric := MySql.numeric_whole bound
  rw [amount] at numeric
  unfold MySql.lineVars
  rw [numeric]
  refine ⟨_, rfl, ?_⟩
  simp [MySql.LineVars.told, OrderStatusLine.told, OrderLine.status, amount]

theorem MySql.lines_whole {ls : List OrderLine} (whole : ∀ l ∈ ls, WholeNumber l.olAmount) :
    ∃ vars, ls.mapM MySql.lineVars = .ok vars ∧
      vars.map MySql.LineVars.told = ls.map fun l => l.status.told := by
  induction ls with
  | nil => exact ⟨[], rfl, rfl⟩
  | cons l ls ih =>
    obtain ⟨v, assigned, told⟩ := MySql.lineVars_whole (whole l List.mem_cons_self)
    obtain ⟨vars, fetched, rest⟩ := ih fun l mem => whole l (List.mem_cons_of_mem _ mem)
    refine ⟨v :: vars, mapM_eq_ok.mpr (.cons assigned (mapM_eq_ok.mp fetched)), ?_⟩
    rw [List.map_cons, List.map_cons, told, rest]

/-- Rounded to whole numbers, the values are what they were just if they were whole. -/
theorem MySql.told_status_iff (h : Asked data db c o) :
    MySql.told data answers = some (statusReport data db c o) ↔ WholeNumber c.cBalance ∧
      ∀ l ∈ db.selectLines data.cWId data.cDId o.oId, WholeNumber l.olAmount := by
  have perm := answers.mysql.lines data.cWId data.cDId o.oId
  rw [MySql.told_eq_some answers h]
  constructor
  · rintro ⟨customer, vars, assigned, fetched, same⟩
    rw [statusReport, OrderStatusReport.mk.injEq] at same
    obtain ⟨-, balance, -, -, lines⟩ := same
    rw [Multiset.coe_eq_coe] at lines
    constructor
    · exact ⟨customer.outCBalance, balance.symm, MySql.numeric_ok (MySql.customerVars_ok assigned)⟩
    · -- Lines are told in any order, so it is some fetched line that has this amount.
      intro l mem
      obtain ⟨v, there, same⟩ := List.mem_map.mp (lines.subset (List.mem_map_of_mem mem))
      obtain ⟨l', -, assigned⟩ := exists_of_mem_mapM fetched there
      have amount : (v.outOlAmount : ℚ) = l.olAmount := congrArg (fun t => t.2.2.2) same
      exact ⟨v.outOlAmount, amount, MySql.numeric_ok (MySql.lineVars_ok assigned)⟩
  · rintro ⟨balance, amounts⟩
    obtain ⟨customer, assigned, balance⟩ := MySql.customerVars_whole balance
    have whole : ∀ l ∈ answers.mysql.selectLines data.cWId data.cDId o.oId,
        WholeNumber l.olAmount := fun l mem => amounts l (perm.mem_iff.mp mem)
    obtain ⟨vars, fetched, told⟩ := MySql.lines_whole whole
    refine ⟨customer, vars, assigned, fetched, ?_⟩
    rw [statusReport, OrderStatusReport.mk.injEq, told]
    exact ⟨rfl, balance.symm, rfl, rfl, Multiset.coe_eq_coe.mpr (told_lines answers.mysql _).symm⟩

/-! ## All four -/

theorem SameStatus.status (h : Asked data db c o) (printable : Printable data c o)
    (same : SameStatus data answers) : Nonsp.told data answers = some (statusReport data db c o) ∧
      MySql.told data answers = some (statusReport data db c o) := by
  obtain ⟨r, nonsp, cockroach, -, mysql, -⟩ := same
  have told := Cockroach.told_eq answers h printable
  obtain rfl := Option.some_inj.mp (told.symm.trans cockroach)
  exact ⟨nonsp, mysql⟩

end

/-! ## A balance -/

/-- Rows in the order of the tables where a query leaves it open. -/
def StatusAnswers.inOrder (db : Database) : StatusAnswers db where
  selectByName := db.selectByName
  selectOrders wId dId cId := (db.orders.filter fun o => o.customer = (wId, dId, cId)).insertionSort
    fun o o' => o'.oId ≤ o.oId
  selectLines := db.selectLines
  byName := selectByName_byName db
  orders _ _ _ := List.perm_insertionSort _ _
  descending _ _ _ := List.pairwise_insertionSort (fun o o' : Order => o'.oId ≤ o.oId) _
  lines _ _ _ := .refl _

def FourAnswers.inOrder (db : Database) : FourAnswers db := ⟨.inOrder db, .inOrder db, .inOrder db,
  .inOrder db⟩

def firstCustomer : OrderStatusData where
  cId := 1
  cWId := 1
  cDId := 1
  cLast := ""

/-- A customer with a balance, and one order. -/
def balanceOf (cBalance : ℚ) : Customer :=
  { (default : Customer) with cId := 1, cDId := 1, cWId := 1, cBalance }

def withBalance (cBalance : ℚ) : Database := { oneOrder with customer := [balanceOf cBalance] }

def firstOrder : Order := { (default : Order) with
  oId := 1, oDId := 1, oWId := 1, oCId := 1, oCarrierId := some 7, oOlCnt := 1 }

theorem withBalance_asked (cBalance : ℚ) :
    Asked firstCustomer (withBalance cBalance) (balanceOf cBalance) firstOrder := by
  refine ⟨rfl, rfl, ?_, ⟨List.mem_singleton_self _, rfl, ?_⟩, ?_, rfl, ?_, ?_⟩
  · intro byName
    cases byName
  · intro o mem _
    rw [List.mem_singleton.mp mem]
    exact le_rfl
  · exact List.nodup_singleton _
  · decide
  · decide

theorem withBalance_printable (cBalance : ℚ) :
    Printable firstCustomer (balanceOf cBalance) firstOrder := by
  have one : (toString (1 : Int)).length ≤ Cockroach.ID_LEN := by decide
  exact ⟨one, one, one, one, fun _ => List.not_mem_nil⟩

end Dbt2
