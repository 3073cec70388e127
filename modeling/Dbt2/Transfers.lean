import Dbt2.Serializability
import Dbt2.DeliveryProtocol

/-!
# Payments and Deliveries as single steps

What a Payment and a Delivery are for, as functions of the rows, and that the four procedures do
that if they run alone and find the rows they look for. Numbers are exact here: no column rounds.

* `payRows`, `deliverRows`: the rows after a Payment and after a Delivery;
* `Payable`, `Deliverable`: the rows that are looked for are there;
* `payment_agrees`, `delivery_agrees`: each procedure, alone, leaves these rows.
-/

namespace Dbt2

open Locking Prog Pgsql

/-- An update of a row, if there is one. -/
def Rows.modify (rows : Rows) (k : Key) (f : Row k → Row k) : Rows :=
  Function.update rows k ((rows k).map f)

theorem Rows.modify_self (rows : Rows) (k : Key) (f : Row k → Row k) :
    rows.modify k f k = (rows k).map f := Function.update_self _ _ _

theorem Rows.modify_ne (rows : Rows) {k k' : Key} (other : k' ≠ k) (f : Row k → Row k) :
    rows.modify k f k' = rows k' := Function.update_of_ne other _ _

/-! ## Payments -/

section Payment

variable (cIds : Int → Int → List Int) (data : PaymentData)

/-- Whose payment it is. -/
def payer (rows : Rows) : Option Int :=
  if data.cId = 0 then
    foundCId (middleNamed (cIds data.cWId data.cDId) data.cWId data.cDId data.cLast rows)
  else some data.cId

def CustomerRow.paid (cId : Int) (c : CustomerRow) : CustomerRow :=
  if c.cCredit = "BC" then c.payBad data.hAmount (paymentNote data cId) else c.pay data.hAmount

/-- The rows after the first two updates. -/
def paidYtd (rows : Rows) : Rows :=
  (rows.modify (.warehouse data.wId) (Warehouse.pay data.hAmount)).modify
    (.district data.wId data.dId) (District.pay data.hAmount)

def payRows (cId : Int) (rows : Rows) : Rows :=
  (paidYtd data rows).modify (.customer data.cWId data.cDId cId) (CustomerRow.paid data cId)

/-- A Payment finds its warehouse, its district and a customer. -/
structure Payable (rows : Rows) where
  w : Warehouse
  d : District
  cId : Int
  c : CustomerRow
  warehouse : rows (.warehouse data.wId) = some w
  district : rows (.district data.wId data.dId) = some d
  payer : payer cIds data rows = some cId
  customer : rows (.customer data.cWId data.cDId cId) = some c
  credit : c.cCredit = "GC" ∨ c.cCredit = "BC"
  names : (w.wName ++ "    " ++ d.dName).length ≤ 24

/-- The `c_data` shown of a customer with good credit. -/
def Dialect.goodData : Dialect → String → Option String
  | plpgsql, _ => none
  | c, _ => some ""
  | mysql, cData | oracle, cData => some cData

variable {cIds data} {rows : Rows}

/-- What an execution returns. -/
def Payable.payment (found : Payable cIds data rows) (dialect : Dialect) : Payment where
  history := paymentHistory data (some found.cId)
    (some (found.w.wName ++ "    " ++ found.d.dName))
  row :=
    { warehouse := some found.w.place, district := some found.d.place, cId := some found.cId
      customer := some found.c.person, cBalance := found.c.balance.map fun b => b - data.hAmount
      cData :=
        if found.c.cCredit = "BC" then
          some (substr (substr (paymentNote data found.cId ++ found.c.cData) 500) 200)
        else dialect.goodData found.c.cData }

/-! ### A statement alone -/

section Alone

variable {O E A : Type} {called left : Rows} {out : List O}

theorem exec_update {k : Key} {f : Row k → Row k} {next : Option (Row k) → Procedure Key Row O E A} :
    exec (alone called) (update k f >>= next) (left, out) =
      exec (alone called) (next (left k)) (left.modify k f, out) := rfl

theorem exec_lock {k : Key} {next : Option (Row k) → Procedure Key Row O E A} :
    exec (alone called) (lock k >>= next) (left, out) =
      exec (alone called) (next (left k)) (left, out) := rfl

/-- The rows that a plain query sees. -/
def seenAlone (called left : Rows) : Mode → Rows
  | .call => called
  | .latest | .repeatable => left

theorem exec_read {mode : Mode} {k : Key} {next : Option (Row k) → Procedure Key Row O E A} :
    exec (alone called) (read mode k >>= next) (left, out) =
      exec (alone called) (next (seenAlone called left mode k)) (left, out) := by
  cases mode <;> rfl

theorem exec_selectMiddle {cIds : Int → Int → List Int} {data : PaymentData} {mode : Mode} :
    exec (alone called) (selectMiddle cIds data mode : Procedure Key Row O E (Option Int))
        (left, out) =
      (.ok (foundCId (middleNamed (cIds data.cWId data.cDId) data.cWId data.cDId data.cLast
        (seenAlone called left mode))), left, out) := by
  cases mode <;> rfl

theorem exec_selectPerson {data : PaymentData} {mode : Mode} {cId : Int} :
    exec (alone called) (selectPerson data mode cId : Procedure Key Row O E (Option Person))
        (left, out) =
      (.ok ((seenAlone called left mode (.customer data.cWId data.cDId cId)).map fun c => c.person),
        left, out) := by
  cases mode <;> rfl

end Alone

theorem paidYtd_customer {wId dId cId : Int} :
    paidYtd data rows (.customer wId dId cId) = rows (.customer wId dId cId) := by
  unfold paidYtd
  rw [Rows.modify_ne _ (by simp), Rows.modify_ne _ (by simp)]

theorem named_congr {ids : List Int} {wId dId : Int} {cLast : String} {rows rows' : Rows}
    (same : ∀ cId, rows' (.customer wId dId cId) = rows (.customer wId dId cId)) :
    named ids wId dId cLast rows' = named ids wId dId cLast rows := by
  unfold named
  simp only [same]

theorem middleNamed_paidYtd {ids : List Int} {wId dId : Int} {cLast : String} :
    middleNamed ids wId dId cLast (paidYtd data rows) = middleNamed ids wId dId cLast rows := by
  unfold middleNamed
  rw [named_congr fun _ => paidYtd_customer]

theorem Payable.district_paid (found : Payable cIds data rows) :
    rows.modify (.warehouse data.wId) (Warehouse.pay data.hAmount) (.district data.wId data.dId) =
      some found.d := by
  rw [Rows.modify_ne _ (by simp), found.district]

theorem Payable.customer_paid (found : Payable cIds data rows) :
    paidYtd data rows (.customer data.cWId data.cDId found.cId) = some found.c := by
  rw [paidYtd_customer, found.customer]

/-- The customer of a name is looked up when the first two updates have been made, or as it was
when the procedure was called. -/
theorem Payable.payer_alone (found : Payable cIds data rows) {O E : Type} {out : List O}
    (mode : Mode) :
    exec (alone rows) (if data.cId = 0 then selectMiddle cIds data mode
        else pure (some data.cId) : Procedure Key Row O E (Option Int)) (paidYtd data rows, out) =
      (.ok (some found.cId), paidYtd data rows, out) := by
  have payer := found.payer
  unfold Dbt2.payer at payer
  split at payer
  · rename_i byName
    rw [if_pos byName]
    rw [exec_selectMiddle, ← payer]
    cases mode with
    | call => rfl
    | latest => rw [seenAlone, middleNamed_paidYtd]
    | repeatable => rw [seenAlone, middleNamed_paidYtd]
  · rename_i byId
    rw [if_neg byId, payer]
    rfl

theorem exec_into {O E A : Type} {called left : Rows} {out : List O} {e : E} {a : A}
    {query : Procedure Key Row O E (Option A)}
    (there : exec (alone called) query (left, out) = (.ok (some a), left, out)) :
    exec (alone called) (into query e) (left, out) = (.ok a, left, out) := by
  unfold into
  rw [exec_bind_ok there, orRaise_some, exec_pure]

theorem Payable.payerInto_alone (found : Payable cIds data rows) {O E : Type} {out : List O}
    (mode : Mode) (e : E) :
    exec (alone rows) (if data.cId = 0 then into (selectMiddle cIds data mode) e
        else pure data.cId : Procedure Key Row O E Int) (paidYtd data rows, out) =
      (.ok found.cId, paidYtd data rows, out) := by
  have payer := @Payable.payer_alone cIds data rows found O E out mode
  by_cases byName : data.cId = 0
  · rw [if_pos byName] at payer ⊢
    exact exec_into payer
  · rw [if_neg byName] at payer ⊢
    obtain same : data.cId = found.cId := by simpa using payer
    rw [same, exec_pure]

theorem CustomerRow.paid_balance (c : CustomerRow) (cId : Int) :
    (c.paid data cId).balance = c.balance.map fun b => b - data.hAmount := by
  unfold CustomerRow.paid CustomerRow.balance
  split <;> cases absent : c.balanceNull <;> simp [payBad, pay, absent]

theorem Payable.person_alone (found : Payable cIds data rows) {O E : Type} {out : List O}
    (mode : Mode) :
    exec (alone rows) (selectPerson data mode found.cId : Procedure Key Row O E (Option Person))
        (paidYtd data rows, out) = (.ok (some found.c.person), paidYtd data rows, out) := by
  rw [exec_selectPerson]
  cases mode with
  | call => rw [seenAlone, found.customer, Option.map_some]
  | latest => rw [seenAlone, found.customer_paid, Option.map_some]
  | repeatable => rw [seenAlone, found.customer_paid, Option.map_some]

/-- Which of the two updates of the customer is made depends on the row alone. -/
theorem Payable.modify_paid (found : Payable cIds data rows) {pay : CustomerRow → CustomerRow}
    (same : pay found.c = found.c.paid data found.cId) :
    (paidYtd data rows).modify (.customer data.cWId data.cDId found.cId) pay =
      payRows data found.cId rows := by
  unfold payRows Rows.modify
  simp only [found.customer_paid, Option.map_some, same]

theorem Payable.customer_after (found : Payable cIds data rows) :
    payRows data found.cId rows (.customer data.cWId data.cDId found.cId) =
      some (found.c.paid data found.cId) := by
  unfold payRows
  rw [Rows.modify_self, found.customer_paid, Option.map_some]

theorem Plpgsql.paymentCustomer_alone {O : Type} {out : List O} (found : Payable cIds data rows) :
    exec (alone rows) (Plpgsql.paymentCustomer data found.cId : Procedure Key Row O PgError _)
        (paidYtd data rows, out) =
      (.ok (some found.c.person, some (found.c.paid data found.cId)),
        payRows data found.cId rows, out) := by
  have same : (if (some found.c.person).any (fun p => p.cCredit = "BC") then
      CustomerRow.payBad data.hAmount (paymentNote data found.cId)
      else CustomerRow.pay data.hAmount) found.c = found.c.paid data found.cId := by
    unfold CustomerRow.paid
    by_cases bad : found.c.cCredit = "BC" <;> simp [Customer.person, bad]
  unfold Plpgsql.paymentCustomer
  rw [exec_bind_ok (found.person_alone .latest)]
  dsimp only
  rw [exec_update, found.customer_paid, found.modify_paid same, exec_pure, Option.map_some, same]

theorem substr_all {s : String} {n : Nat} (fits : s.length ≤ n) : substr s n = s := by
  unfold substr
  rw [List.take_of_length_le fits, String.ofList_toList]

theorem Plpgsql.payment_alone {O : Type} {out : List O} (found : Payable cIds data rows) :
    exec (alone rows) (Plpgsql.paymentStatements cIds data : Procedure Key Row O PgError Payment)
        (rows, out) =
      (.ok (found.payment .plpgsql), payRows data found.cId rows, out) := by
  unfold Plpgsql.paymentStatements
  rw [exec_update, exec_update]
  dsimp only
  rw [found.warehouse, found.district_paid]
  change exec _ (_ >>= _) (paidYtd data rows, out) = _
  rw [exec_bind_ok (found.payer_alone .latest)]
  dsimp only
  rw [exec_bind_ok (Plpgsql.paymentCustomer_alone found), exec_pure]
  have cut : (hData (some found.w.place) (some found.d.place)).map (substr · 24) =
      some (found.w.wName ++ "    " ++ found.d.dName) :=
    congrArg some (substr_all found.names)
  have shown : (if (some found.c.person).any fun p => p.cCredit = "BC" then
      (some (found.c.paid data found.cId)).map fun c => substr c.cData 200 else none) =
        (found.payment .plpgsql).row.cData := by
    unfold Payable.payment CustomerRow.paid
    by_cases bad : found.c.cCredit = "BC" <;>
      simp [Customer.person, CustomerRow.payBad, Dialect.goodData, bad]
  rw [Option.map_some, Option.map_some, cut, shown, Option.bind_some, CustomerRow.paid_balance]
  rfl

/-- The test of the first letter tells good credit from bad. -/
theorem Payable.good_iff (found : Payable cIds data rows) :
    found.c.person.cCredit.toList.head? = some 'G' ↔ ¬ found.c.cCredit = "BC" := by
  have credit : found.c.person.cCredit = found.c.cCredit := rfl
  rw [credit]
  obtain good | bad := found.credit
  · rw [good]
    decide
  · rw [bad]
    decide

theorem Pgsql.payment_alone {O : Type} {out : List O} (found : Payable cIds data rows) :
    exec (alone rows) (Pgsql.paymentStatements cIds data : Procedure Key Row O PgError Payment)
        (rows, out) =
      (.ok (found.payment .c), payRows data found.cId rows, out) := by
  unfold Pgsql.paymentStatements
  rw [exec_update, found.warehouse, Option.map_some, orRaise_some, pure_bind, exec_update,
    found.district_paid, Option.map_some, orRaise_some, pure_bind]
  change exec _ (_ >>= _) (paidYtd data rows, out) = _
  rw [exec_bind_ok (found.payerInto_alone .call _),
    exec_bind_ok (exec_into (found.person_alone .call))]
  dsimp only
  by_cases bad : found.c.cCredit = "BC"
  · have same : found.c.payBad data.hAmount (paymentNote data found.cId) =
        found.c.paid data found.cId := (if_pos bad).symm
    rw [if_neg (found.good_iff.not.mpr (not_not.mpr bad)), exec_update, found.customer_paid,
      found.modify_paid same, Option.map_some, same, orRaise_some, pure_bind, exec_pure,
      CustomerRow.paid_balance, ← same]
    unfold Payable.payment
    rw [if_pos bad]
    rfl
  · have same : found.c.pay data.hAmount = found.c.paid data found.cId := (if_neg bad).symm
    rw [if_pos (found.good_iff.mpr bad), exec_update, found.customer_paid, found.modify_paid same,
      Option.map_some, same, orRaise_some, pure_bind, exec_pure, CustomerRow.paid_balance]
    unfold Payable.payment
    rw [if_neg bad]
    rfl

theorem MySql.paymentCustomer_alone {out : List MySql.ResultSet} (found : Payable cIds data rows) :
    exec (alone rows) (MySql.paymentCustomer data found.cId) (paidYtd data rows, out) =
      (.ok (some found.c, (found.payment .mysql).row.cData), payRows data found.cId rows, out) := by
  unfold MySql.paymentCustomer
  rw [exec_lock, found.customer_paid]
  by_cases bad : found.c.cCredit = "BC"
  · have same : found.c.payBad data.hAmount (paymentNote data found.cId) =
        found.c.paid data found.cId := (if_pos bad).symm
    have there : (some found.c).any (fun c : CustomerRow => c.cCredit = "BC") := by simp [bad]
    rw [if_pos there, exec_update, found.modify_paid same]
    unfold selectCustomer
    rw [exec_read, seenAlone, found.customer_after, exec_pure, Option.map_some, ← same]
    unfold Payable.payment
    rw [if_pos bad]
    rfl
  · have same : found.c.pay data.hAmount = found.c.paid data found.cId := (if_neg bad).symm
    have there : ¬ (some found.c).any (fun c : CustomerRow => c.cCredit = "BC") := by simp [bad]
    rw [if_neg there, exec_update, found.modify_paid same, exec_pure]
    unfold Payable.payment
    rw [if_neg bad]
    rfl

theorem MySql.payment_alone {out : List MySql.ResultSet} (found : Payable cIds data rows) :
    exec (alone rows) (MySql.payment cIds data) (rows, out) =
      (.ok (found.payment .mysql), payRows data found.cId rows, out) := by
  unfold MySql.payment
  rw [exec_lock, exec_update]
  dsimp only
  unfold selectDistrictForUpdate
  rw [exec_lock, exec_update, found.warehouse, found.district_paid]
  change exec _ (_ >>= _) (paidYtd data rows, out) = _
  rw [exec_bind_ok (found.payer_alone .repeatable)]
  dsimp only
  rw [exec_bind_ok (MySql.paymentCustomer_alone found), exec_pure]
  rfl

theorem Oracle.paymentCustomer_alone {out : List Empty} (found : Payable cIds data rows) :
    ∃ cData, (found.payment .oracle).row.cData = some cData ∧
      exec (alone rows) (Oracle.paymentCustomer data found.cId) (paidYtd data rows, out) =
        (.ok (found.c, cData), payRows data found.cId rows, out) := by
  have there : exec (alone rows) (lock (.customer data.cWId data.cDId found.cId) : Oracle.Proc _)
      (paidYtd data rows, out) = (.ok (some found.c), paidYtd data rows, out) := by
    rw [← found.customer_paid]
    rfl
  unfold Oracle.paymentCustomer
  rw [exec_bind_ok (exec_into there)]
  by_cases bad : found.c.cCredit = "BC"
  · have same : found.c.payBad data.hAmount (paymentNote data found.cId) =
        found.c.paid data found.cId := (if_pos bad).symm
    have again : exec (alone rows)
        (selectCustomer .latest data.cWId data.cDId found.cId : Oracle.Proc _)
        (payRows data found.cId rows, out) =
          (.ok (some (found.c.paid data found.cId)), payRows data found.cId rows, out) := by
      rw [← found.customer_after]
      rfl
    refine ⟨_, if_pos bad, ?_⟩
    rw [if_pos bad, exec_update, found.modify_paid same, exec_bind_ok (exec_into again), exec_pure,
      ← same]
    rfl
  · have same : found.c.pay data.hAmount = found.c.paid data found.cId := (if_neg bad).symm
    refine ⟨_, if_neg bad, ?_⟩
    rw [if_neg bad, exec_update, found.modify_paid same, exec_pure]

theorem Oracle.payment_alone {out : List Empty} (found : Payable cIds data rows) :
    exec (alone rows) (Oracle.payment cIds data) (rows, out) =
      (.ok (found.payment .oracle), payRows data found.cId rows, out) := by
  have warehouse : exec (alone rows) (lock (.warehouse data.wId) : Oracle.Proc _) (rows, out) =
      (.ok (some found.w), rows, out) := by
    rw [← found.warehouse]
    rfl
  have district : exec (alone rows) (selectDistrictForUpdate data.wId data.dId : Oracle.Proc _)
      (rows.modify (.warehouse data.wId) (Warehouse.pay data.hAmount), out) =
        (.ok (some found.d), rows.modify (.warehouse data.wId) (Warehouse.pay data.hAmount),
          out) := by
    rw [← found.district_paid]
    rfl
  obtain ⟨cData, shown, customer⟩ := @Oracle.paymentCustomer_alone cIds data rows out found
  unfold Oracle.payment
  rw [exec_bind_ok (exec_into warehouse), exec_update, exec_bind_ok (exec_into district),
    exec_update]
  change exec _ (_ >>= _) (paidYtd data rows, out) = _
  rw [exec_bind_ok (found.payerInto_alone .latest _), exec_bind_ok customer, exec_pure, ← shown]
  rfl

end Payment

/-! ## Deliveries -/

section Delivery

variable (ids : Int → Int → List Int) (data : DeliveryData)

/-- The rows of an order when it has been taken from `NEW_ORDER`. -/
def takeOrder (dId oId : Int) (rows : Rows) : Rows :=
  (Rows.modify (Function.update rows (.newOrder data.wId dId oId) none)
    (.orders data.wId dId oId) (Order.carry data.oCarrierId)).modify
      (.lines data.wId dId oId) deliverLines

def deliverOrder (dId oId : Int) (rows : Rows) : Rows :=
  match rows (.orders data.wId dId oId) with
  | some o => (takeOrder data dId oId rows).modify (.customer data.wId dId o.oCId)
      (CustomerRow.credit (sumAmount (rows (.lines data.wId dId oId))))
  | none => takeOrder data dId oId rows

def deliverDistrict (dId : Int) (rows : Rows) : Rows :=
  match noOId (oldest (ids data.wId dId) data.wId dId rows) with
  | some oId => deliverOrder data dId oId rows
  | none => rows

/-- The rows after the first `n` districts. -/
def deliverBelow (rows : Rows) : Nat → Rows
  | 0 => rows
  | n + 1 => deliverDistrict ids data (n + 1) (deliverBelow rows n)

def deliverRows (rows : Rows) : Rows := deliverBelow ids data rows 10

/-- The order delivered in district `i + 1`. -/
def deliveredRow (rows : Rows) (i : Nat) : Option DeliveryRow :=
  (noOId (oldest (ids data.wId (i + 1)) data.wId (i + 1) (deliverBelow ids data rows i))).map
    fun oId => { dId := i + 1, oId }

def deliveredRows (rows : Rows) : List DeliveryRow :=
  (List.range 10).filterMap (deliveredRow ids data rows)

/-- Outstanding orders have rows, and lines with amounts. -/
structure Deliverable (rows : Rows) : Prop where
  positive : ∀ wId dId oId, (rows (.newOrder wId dId oId)).isSome → 0 < oId
  orders : ∀ wId dId oId, (rows (.newOrder wId dId oId)).isSome →
    (rows (.orders wId dId oId)).isSome
  amounts : ∀ wId dId oId, (rows (.newOrder wId dId oId)).isSome →
    (sumAmount (rows (.lines wId dId oId))).isSome

variable {ids data} {rows : Rows}

theorem modify_later {dialect : Dialect} {k : Key} {f : Row k → Row k}
    (keeps : ∀ r, lasting k (f r) = lasting k r) : dialect.evolution.Later rows (rows.modify k f) := by
  intro k'
  by_cases here : k' = k
  · subst here
    rw [Rows.modify_self]
    exact update_evolves keeps _
  · rw [Rows.modify_ne rows here]
    exact dialect.evolution.refl k' _

theorem takeOrder_later {dialect : Dialect} (dId oId : Int) :
    dialect.evolution.Later rows (takeOrder data dId oId rows) := by
  have gone : dialect.evolution.Later rows
      (Function.update rows (.newOrder data.wId dId oId) none) := by
    intro k
    by_cases here : k = .newOrder data.wId dId oId
    · subst here
      rw [Function.update_self]
      exact .inr (.inr rfl)
    · rw [Function.update_of_ne here]
      exact dialect.evolution.refl k _
  have carried := gone.trans (modify_later (k := .orders data.wId dId oId)
    (f := Order.carry data.oCarrierId) fun _ => rfl)
  exact carried.trans (modify_later (k := .lines data.wId dId oId) deliverLines_lasting)

theorem deliverOrder_later {dialect : Dialect} (dId oId : Int) :
    dialect.evolution.Later rows (deliverOrder data dId oId rows) := by
  unfold deliverOrder
  split
  · exact (takeOrder_later dId oId).trans (modify_later (credit_lasting _))
  · exact takeOrder_later dId oId

theorem deliverBelow_later {dialect : Dialect} (n : Nat) :
    dialect.evolution.Later rows (deliverBelow ids data rows n) := by
  induction n with
  | zero => exact .refl rows
  | succ n ih =>
    apply ih.trans
    rw [deliverBelow]
    unfold deliverDistrict
    split
    · exact deliverOrder_later _ _
    · exact .refl _

theorem Deliverable.later {rows' : Rows} (h : Deliverable rows) {dialect : Dialect}
    (locks : dialect ≠ .oracle) (later : dialect.evolution.Later rows rows') : Deliverable rows' := by
  have before {wId dId oId : Int} (there : (rows' (.newOrder wId dId oId)).isSome) :
      (rows (.newOrder wId dId oId)).isSome := by
    obtain oracle | same | gone := later (.newOrder wId dId oId)
    · exact absurd oracle locks
    · rwa [same] at there
    · rw [gone] at there
      cases there
  refine ⟨fun _ _ _ there => h.positive _ _ _ (before there), ?_, ?_⟩
  · intro wId dId oId there
    have same := (later (.orders wId dId oId)).resolve_left locks
    have isSome := congrArg Option.isSome same
    rw [Option.isSome_map, Option.isSome_map] at isSome
    exact isSome ▸ h.orders _ _ _ (before there)
  · intro wId dId oId there
    rw [← lines_amount locks (later (.lines wId dId oId))]
    exact h.amounts _ _ _ (before there)

/-! ### A district alone -/

theorem noOId_oldest {oIds : List Int} {wId dId oId : Int}
    (found : noOId (oldest oIds wId dId rows) = some oId) :
    oldest oIds wId dId rows = some (.newOrder wId dId oId) ∧
      (rows (.newOrder wId dId oId)).isSome := by
  cases least : oldest oIds wId dId rows with
  | none =>
    rw [least] at found
    cases found
  | some k =>
    obtain ⟨oId', rfl, there⟩ := oldest_eq_some least
    rw [least] at found
    obtain rfl : oId' = oId := Option.some.inj found
    exact ⟨rfl, there⟩

/-- The order that a round finds. -/
structure Outstanding (data : DeliveryData) (dId oId : Int) (left : Rows) where
  order : Order
  olAmount : ℚ
  positive : 0 < oId
  newOrder : (left (.newOrder data.wId dId oId)).isSome
  orders : left (.orders data.wId dId oId) = some order
  amount : sumAmount (left (.lines data.wId dId oId)) = some olAmount

theorem Deliverable.outstanding {left : Rows} (h : Deliverable left) {oIds : List Int} {dId oId : Int}
    (found : noOId (oldest oIds data.wId dId left) = some oId) :
    Nonempty (Outstanding data dId oId left) := by
  obtain ⟨-, there⟩ := noOId_oldest found
  obtain ⟨order, orders⟩ := Option.isSome_iff_exists.mp (h.orders _ _ _ there)
  obtain ⟨olAmount, amount⟩ := Option.isSome_iff_exists.mp (h.amounts _ _ _ there)
  exact ⟨order, olAmount, h.positive _ _ _ there, there, orders, amount⟩

variable {O E A : Type} {called left : Rows} {out : List O} {dId oId : Int}

theorem exec_lockFound {q : Rows → Option Key} {next : Option Key → Procedure Key Row O E A} :
    exec (alone called) (lockFound q >>= next) (left, out) =
      exec (alone called) (next (q left)) (left, out) := rfl

theorem exec_find {q : Rows → Option Key} {next : Option Key → Procedure Key Row O E A} :
    exec (alone called) (find .latest q >>= next) (left, out) =
      exec (alone called) (next (q left)) (left, out) := rfl

theorem exec_delete {k : Key} {next : Option (Row k) → Procedure Key Row O E A} :
    exec (alone called) (delete k >>= next) (left, out) =
      exec (alone called) (next (left k)) (Function.update left k none, out) := rfl

theorem taken_orders (left : Rows) (wId dId oId : Int) :
    Function.update left (.newOrder wId dId oId) none (.orders wId dId oId) =
      left (.orders wId dId oId) := Function.update_of_ne (by simp) _ _

theorem taken_amount : sumAmount (takeOrder data dId oId left (.lines data.wId dId oId)) =
    sumAmount (left (.lines data.wId dId oId)) :=
  (lines_amount (by decide : Dialect.c ≠ .oracle) (takeOrder_later dId oId _)).symm

theorem Outstanding.delivered (h : Outstanding data dId oId left) :
    (takeOrder data dId oId left).modify (.customer data.wId dId h.order.oCId)
      (CustomerRow.credit (some h.olAmount)) = deliverOrder data dId oId left := by
  unfold deliverOrder
  rw [h.orders, h.amount]

theorem deliverDistrict_found
    (found : noOId (oldest (ids data.wId dId) data.wId dId left) = some oId) :
    deliverDistrict ids data dId left = deliverOrder data dId oId left := by
  unfold deliverDistrict
  rw [found]

theorem deliverDistrict_none (found : noOId (oldest (ids data.wId dId) data.wId dId left) = none) :
    deliverDistrict ids data dId left = left := by
  unfold deliverDistrict
  rw [found]

theorem Plpgsql.district_alone {out : List DeliveryRow} (h : Deliverable left) (i : Nat) :
    exec (alone called) (Plpgsql.deliveryDistrictStatements ids data i) (left, out) =
      (.ok (), deliverDistrict ids data (i + 1) left,
        out ++ ((noOId (oldest (ids data.wId (i + 1)) data.wId (i + 1) left)).map fun oId =>
          ({ dId := i + 1, oId } : DeliveryRow)).toList) := by
  unfold Plpgsql.deliveryDistrictStatements
  dsimp only
  rw [exec_lockFound]
  cases found : noOId (oldest (ids data.wId (i + 1)) data.wId (i + 1) left) with
  | none =>
    rw [deliverDistrict_none found]
    simp
  | some oId =>
    obtain ⟨order⟩ := h.outstanding found
    rw [deliverDistrict_found found, ← order.delivered]
    dsimp only
    rw [exec_delete, exec_update, taken_orders, order.orders, exec_update]
    unfold selectLines
    change exec _ (_ >>= _) (takeOrder data (i + 1) oId left, out) = _
    rw [exec_read, seenAlone, taken_amount, order.amount]
    dsimp only
    rw [exec_update]
    rfl

theorem Pgsql.district_alone {out : List Empty} (h : Deliverable left) (i : Nat)
    (later : Dialect.c.evolution.Later called left) :
    exec (alone called) (Pgsql.deliveryDistrictStatements ids data i) (left, out) =
      (.ok ((noOId (oldest (ids data.wId (i + 1)) data.wId (i + 1) left)).map fun oId =>
          { dId := i + 1, oId }),
        deliverDistrict ids data (i + 1) left, out) := by
  unfold Pgsql.deliveryDistrictStatements
  dsimp only
  rw [exec_lockFound]
  cases found : noOId (oldest (ids data.wId (i + 1)) data.wId (i + 1) left) with
  | none =>
    rw [deliverDistrict_none found]
    rfl
  | some oId =>
    obtain ⟨order⟩ := h.outstanding found
    obtain ⟨n, newOrder⟩ := Option.isSome_iff_exists.mp order.newOrder
    have called_amount := lines_amount (by decide) (later (.lines data.wId (i + 1) oId))
    rw [deliverDistrict_found found, ← order.delivered]
    dsimp only
    rw [exec_delete, newOrder, orRaise_some, pure_bind, exec_update, taken_orders, order.orders,
      orRaise_some, pure_bind, exec_update]
    unfold selectLines
    change exec _ (_ >>= _) (takeOrder data (i + 1) oId left, out) = _
    rw [exec_read, seenAlone, called_amount, order.amount, orRaise_some, pure_bind, exec_update]
    rfl

theorem MySql.district_alone {out : List MySql.ResultSet} (h : Deliverable left) (i : Nat)
    (outCId : Option Int) : ∃ outCId',
    exec (alone called) (MySql.deliveryDistrict ids data i outCId) (left, out) =
      (.ok outCId', deliverDistrict ids data (i + 1) left, out) := by
  unfold MySql.deliveryDistrict
  dsimp only
  rw [exec_lockFound]
  cases found : noOId (oldest (ids data.wId (i + 1)) data.wId (i + 1) left) with
  | none =>
    refine ⟨outCId, ?_⟩
    rw [deliverDistrict_none found]
    rfl
  | some oId =>
    obtain ⟨order⟩ := h.outstanding found
    refine ⟨some order.order.oCId, ?_⟩
    rw [deliverDistrict_found found, ← order.delivered, Option.getD_some, if_pos order.positive]
    unfold selectOrdersForUpdate selectLines
    rw [exec_delete, exec_lock, taken_orders, order.orders, exec_update, exec_update]
    change exec _ (_ >>= _) (takeOrder data (i + 1) oId left, out) = _
    rw [exec_read, seenAlone, taken_amount, order.amount]
    rfl

theorem Oracle.district_alone {out : List Empty} (h : Deliverable left) (i : Nat) :
    exec (alone called) (Oracle.deliveryDistrict ids data i) (left, out) =
      (.ok (), deliverDistrict ids data (i + 1) left, out) := by
  unfold Oracle.deliveryDistrict
  dsimp only
  rw [exec_find]
  cases found : noOId (oldest (ids data.wId (i + 1)) data.wId (i + 1) left) with
  | none =>
    rw [deliverDistrict_none found]
    rfl
  | some oId =>
    obtain ⟨order⟩ := h.outstanding found
    have locked : exec (alone called) (selectOrdersForUpdate data.wId (i + 1) oId : Oracle.Proc _)
        (Function.update left (.newOrder data.wId (i + 1) oId) none, out) =
          (.ok (some order.order), Function.update left (.newOrder data.wId (i + 1) oId) none,
            out) := by
      rw [← order.orders, ← taken_orders left]
      rfl
    rw [deliverDistrict_found found, ← order.delivered]
    dsimp only
    rw [exec_delete, exec_bind_ok (exec_into locked), exec_update, exec_update]
    unfold selectLines
    change exec _ (_ >>= _) (takeOrder data (i + 1) oId left, out) = _
    rw [exec_read, seenAlone, taken_amount, order.amount]
    rfl

/-! ### All districts -/

theorem Deliverable.below (h : Deliverable rows) (ids : Int → Int → List Int) (data : DeliveryData)
    (n : Nat) : Deliverable (deliverBelow ids data rows n) :=
  h.later (by decide : Dialect.c ≠ .oracle) (deliverBelow_later n)

/-- What PL/pgSQL returns after `n` districts. -/
theorem deliveredRow_append (ids : Int → Int → List Int) (data : DeliveryData) (rows : Rows)
    (n : Nat) : (List.range (n + 1)).filterMap (deliveredRow ids data rows) =
      (List.range n).filterMap (deliveredRow ids data rows) ++
        (deliveredRow ids data rows n).toList := by
  rw [List.range_succ, List.filterMap_append]
  cases delivered : deliveredRow ids data rows n <;> simp [delivered]

theorem Plpgsql.delivery_alone (h : Deliverable rows) :
    exec (alone rows) (Plpgsql.deliveryStatements ids data) (rows, []) =
      (.ok (), deliverRows ids data rows, deliveredRows ids data rows) := by
  have rounds : exec (alone rows) (loop (Plpgsql.deliveryDistrictStatements ids data) 10)
      (rows, []) = (.ok ((List.range 10).map fun _ => ()), deliverRows ids data rows,
        deliveredRows ids data rows) := by
    apply exec_loop_eq (s := fun n => (deliverBelow ids data rows n,
      (List.range n).filterMap (deliveredRow ids data rows)))
    intro k _
    rw [Plpgsql.district_alone (h.below ids data k) k, deliveredRow_append]
    rfl
  unfold Plpgsql.deliveryStatements
  rw [exec_bind_ok rounds, exec_pure]

theorem Pgsql.delivery_alone (h : Deliverable rows) :
    exec (alone rows) (Pgsql.deliveryStatements ids data) (rows, []) =
      (.ok (deliveredRows ids data rows), deliverRows ids data rows, []) := by
  have rounds : exec (alone rows) (loop (Pgsql.deliveryDistrictStatements ids data) 10)
      (rows, []) = (.ok ((List.range 10).map (deliveredRow ids data rows)),
        deliverRows ids data rows, []) := by
    apply exec_loop_eq (s := fun n => (deliverBelow ids data rows n, []))
    intro k _
    rw [Pgsql.district_alone (h.below ids data k) k (deliverBelow_later k)]
    rfl
  unfold Pgsql.deliveryStatements
  rw [exec_bind_ok rounds, exec_pure, List.filterMap_map]
  rfl

theorem MySql.delivery_alone (h : Deliverable rows) :
    exec (alone rows) (MySql.delivery ids data) (rows, []) =
      (.ok (), deliverRows ids data rows, []) := by
  have rounds (n : Nat) : ∃ outCId, exec (alone rows)
      (Prog.rounds (MySql.deliveryDistrict ids data) n none) (rows, []) =
        (.ok outCId, deliverBelow ids data rows n, []) := by
    induction n with
    | zero => exact ⟨none, rfl⟩
    | succ n ih =>
      obtain ⟨outCId, before⟩ := ih
      obtain ⟨outCId', round⟩ : ∃ outCId', exec (alone rows)
          (MySql.deliveryDistrict ids data n outCId) (deliverBelow ids data rows n, []) =
            (.ok outCId', deliverBelow ids data rows (n + 1), []) :=
        MySql.district_alone (h.below ids data n) n outCId
      refine ⟨outCId', ?_⟩
      unfold Prog.rounds
      rw [exec_bind_ok before, round]
  obtain ⟨outCId, ran⟩ := rounds 10
  unfold MySql.delivery
  rw [exec_bind_ok ran, exec_pure]
  rfl

theorem Oracle.delivery_alone (h : Deliverable rows) :
    exec (alone rows) (Oracle.delivery ids data) (rows, []) =
      (.ok (), deliverRows ids data rows, []) := by
  have rounds : exec (alone rows) (loop (Oracle.deliveryDistrict ids data) 10) (rows, []) =
      (.ok ((List.range 10).map fun _ => ()), deliverRows ids data rows, []) := by
    apply exec_loop_eq (s := fun n => (deliverBelow ids data rows n, []))
    intro k _
    rw [Oracle.district_alone (h.below ids data k) k]
    rfl
  unfold Oracle.delivery
  rw [exec_bind_ok rounds, exec_pure]

/-- The four procedures do the same to the rows; PL/pgSQL and C return the same orders. -/
theorem delivery_agrees (ids : Int → Int → List Int) (data : DeliveryData) (h : Deliverable rows) :
    exec (alone rows) (Plpgsql.deliveryStatements ids data) (rows, []) =
        (.ok (), deliverRows ids data rows, deliveredRows ids data rows) ∧
      exec (alone rows) (Pgsql.deliveryStatements ids data) (rows, []) =
        (.ok (deliveredRows ids data rows), deliverRows ids data rows, []) ∧
      exec (alone rows) (MySql.delivery ids data) (rows, []) =
        (.ok (), deliverRows ids data rows, []) ∧
      exec (alone rows) (Oracle.delivery ids data) (rows, []) =
        (.ok (), deliverRows ids data rows, []) :=
  ⟨Plpgsql.delivery_alone h, Pgsql.delivery_alone h, MySql.delivery_alone h, Oracle.delivery_alone h⟩

end Delivery

theorem oneOutstanding_payable : Nonempty (Payable (fun _ _ => [1]) onePayment oneOutstanding.rows) :=
  ⟨⟨_, _, 1, _, rfl, rfl, rfl, rfl, .inl rfl, by decide⟩⟩

theorem oneOutstanding_deliverable : Deliverable oneOutstanding.rows := by
  have only {wId dId oId : Int} (there : (oneOutstanding.rows (.newOrder wId dId oId)).isSome) :
      1 = wId ∧ 1 = dId ∧ 1 = oId := by
    obtain ⟨n, found⟩ := Option.isSome_iff_exists.mp there
    have found : oneOutstanding.newOrder.find? (fun n => n.key = (wId, dId, oId)) = some n := found
    have key := List.find?_some found
    obtain rfl := List.mem_singleton.mp (List.mem_of_find?_eq_some found)
    simpa [NewOrder.key] using key
  refine ⟨?_, ?_, ?_⟩
  · intro wId dId oId there
    obtain ⟨rfl, rfl, rfl⟩ := only there
    decide
  · intro wId dId oId there
    obtain ⟨rfl, rfl, rfl⟩ := only there
    rfl
  · intro wId dId oId there
    obtain ⟨rfl, rfl, rfl⟩ := only there
    rfl

theorem delivery_agrees_one :
    exec (alone oneOutstanding.rows) (Pgsql.deliveryStatements (fun _ _ => [1]) ⟨1, 3⟩)
        (oneOutstanding.rows, []) =
      (.ok (deliveredRows (fun _ _ => [1]) ⟨1, 3⟩ oneOutstanding.rows),
        deliverRows (fun _ _ => [1]) ⟨1, 3⟩ oneOutstanding.rows, []) :=
  (delivery_agrees (fun _ _ => [1]) ⟨1, 3⟩ oneOutstanding_deliverable).2.1

end Dbt2
