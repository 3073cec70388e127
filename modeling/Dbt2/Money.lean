import Dbt2.Consistency
import Dbt2.Lib.Transition
import Dbt2.StoredTransfers

/-!
# Money

What Payments and Deliveries do to the columns of money, over a run of committed transactions.

* `Moves`: every column moves with the `HISTORY` rows added and the order lines delivered, at
  rates that each backend sets;
* `money_conserved`: as long as sums are exact in the types of the columns, these are the rates that
  the columns stand for under `Pgsql`, and otherwise only if nothing is paid.
-/

namespace Dbt2

open Table Transition

/-! ## Totals -/

/-- The amounts of the lines delivered to a customer. -/
def Database.deliveredTo (db : Database) (customer : Int × Int × Int) : ℚ :=
  ((db.orderLine.filter fun l => l.olDeliveryD.isSome && db.ordered customer l.order).map
    OrderLine.olAmount).sum

def Database.districtYtd (db : Database) (w : Int) : ℚ :=
  ((db.districtsOf w).map District.dYtd).sum

/-- The rows for a customer. -/
def historyFor (hs : List History) (customer : Int × Int × Int) : List History :=
  hs.filter fun h => h.customer = customer

/-- The amounts paid at a warehouse. -/
def paidAt (hs : List History) (w : Int) : ℚ :=
  ((hs.filter fun h => h.hWId = w).map History.hAmount).sum

/-- The amounts that a customer paid. -/
def paidBy (hs : List History) (customer : Int × Int × Int) : ℚ :=
  ((historyFor hs customer).map History.hAmount).sum

/-! ## The columns -/

/-- A customer's columns since `db`, as `added` and the deliveries account for them. -/
structure CustomerConserved (db db' : Database) (added : List History) (c c' : Customer) :
    Prop where
  key : c'.key = c.key
  delivered : c'.cBalance + c'.cYtdPayment - (c.cBalance + c.cYtdPayment) =
    db'.deliveredTo c.key - db.deliveredTo c.key
  ytdPayment : c'.cYtdPayment = c.cYtdPayment + paidBy added c.key
  paymentCnt : c'.cPaymentCnt = c.cPaymentCnt + (historyFor added c.key).length

structure WarehouseConserved (db db' : Database) (added : List History) (w w' : Warehouse) :
    Prop where
  wId : w'.wId = w.wId
  districts : w'.wYtd - w.wYtd = db'.districtYtd w.wId - db.districtYtd w.wId
  history : w'.wYtd - w.wYtd = paidAt added w.wId

def MoneyConserved (db db' : Database) : Prop :=
  ∃ added, db'.history = db.history ++ added ∧
    Rowwise (CustomerConserved db db' added) db.customer db'.customer ∧
    Rowwise (WarehouseConserved db db' added) db.warehouse db'.warehouse

/-- Keys are unique, and no line of an outstanding order is delivered. -/
structure MoneyConsistent (db : Database) : Prop where
  districts : (db.district.map District.key).Nodup
  orders : (db.orders.map Order.key).Nodup
  outstanding : ∀ n ∈ db.newOrder, ∀ l ∈ db.orderLine, l.order = n.key → l.olDeliveryD = none

/-! ## The rates -/

/-- What a payment adds to `c_ytd_payment` and to `c_payment_cnt`. -/
structure Rates where
  ytdPayment : ℚ → ℚ
  paymentCnt : Int

structure Posted (rates : Rates) (hAmount : ℚ) (c c' : Customer) : Prop where
  key : c'.key = c.key
  balance : c'.cBalance = c.cBalance - hAmount
  ytdPayment : c'.cYtdPayment = c.cYtdPayment + rates.ytdPayment hAmount
  paymentCnt : c'.cPaymentCnt = c.cPaymentCnt + rates.paymentCnt

/-- The customer's row is updated at the same rates for either credit. -/
structure Posts {E : Type} (rates : Rates) (code : PaymentCode E) : Prop where
  good : ∀ hAmount c, Posted rates hAmount c (code.updateGoodCredit hAmount c)
  bad : ∀ hAmount text c, Posted rates hAmount c (code.updateBadCredit hAmount text c)

/-- What the payments `hs` add to a customer's `c_ytd_payment`. -/
def Rates.sum (rates : Rates) (hs : List History) (customer : Int × Int × Int) : ℚ :=
  ((historyFor hs customer).map fun h => rates.ytdPayment h.hAmount).sum

structure CustomerMoves (rates : Rates) (db db' : Database) (added : List History)
    (c c' : Customer) : Prop where
  key : c'.key = c.key
  balance : c'.cBalance = c.cBalance - paidBy added c.key +
    (db'.deliveredTo c.key - db.deliveredTo c.key)
  ytdPayment : c'.cYtdPayment = c.cYtdPayment + rates.sum added c.key
  paymentCnt : c'.cPaymentCnt =
    c.cPaymentCnt + rates.paymentCnt * (historyFor added c.key).length

/-- What has moved between two databases. -/
structure Moves (rates : Rates) (db : Database) (added : List History) (db' : Database) :
    Prop where
  history : db'.history = db.history ++ added
  customers : Rowwise (CustomerMoves rates db db' added) db.customer db'.customer
  warehouses : Rowwise (fun w w' => w'.wId = w.wId ∧ w'.wYtd = w.wYtd + paidAt added w.wId)
    db.warehouse db'.warehouse
  districts : ∀ w, db'.districtYtd w = db.districtYtd w + paidAt added w
  /-- Nobody unknown has paid. -/
  payers : ∀ h ∈ added, h.customer ∈ db.customer.map Customer.key

section Moves

variable {rates : Rates} {db db' db'' : Database} {hs hs' : List History}

theorem historyFor_append (customer : Int × Int × Int) :
    historyFor (hs ++ hs') customer = historyFor hs customer ++ historyFor hs' customer :=
  List.filter_append ..

theorem paidBy_append (customer : Int × Int × Int) :
    paidBy (hs ++ hs') customer = paidBy hs customer + paidBy hs' customer := by
  unfold paidBy
  rw [historyFor_append, List.map_append, List.sum_append]

theorem paidAt_append (w : Int) : paidAt (hs ++ hs') w = paidAt hs w + paidAt hs' w := by
  unfold paidAt
  rw [List.filter_append, List.map_append, List.sum_append]

theorem Rates.sum_append (customer : Int × Int × Int) :
    rates.sum (hs ++ hs') customer = rates.sum hs customer + rates.sum hs' customer := by
  unfold Rates.sum
  rw [historyFor_append, List.map_append, List.sum_append]

theorem Moves.refl (rates : Rates) (db : Database) : Moves rates db [] db := by
  constructor
  · exact (List.append_nil _).symm
  · apply List.forall₂_same.mpr
    intro c _
    constructor
    · rfl
    · simp [paidBy, historyFor]
    · simp [Rates.sum, historyFor]
    · simp [historyFor]
  · apply List.forall₂_same.mpr
    intro w _
    exact ⟨rfl, (add_zero _).symm⟩
  · intro w
    exact (add_zero _).symm
  · intro h mem
    cases mem

theorem Moves.trans (first : Moves rates db hs db') (second : Moves rates db' hs' db'') :
    Moves rates db (hs ++ hs') db'' := by
  constructor
  · rw [second.history, first.history, List.append_assoc]
  · apply rowwise_trans first.customers second.customers
    intro c d e before after
    have key : e.key = c.key := after.key.trans before.key
    constructor
    · exact key
    · rw [after.balance, before.balance, before.key, paidBy_append]
      ring
    · rw [after.ytdPayment, before.ytdPayment, before.key, Rates.sum_append]
      ring
    · rw [after.paymentCnt, before.paymentCnt, before.key, historyFor_append,
        List.length_append]
      push_cast
      ring
  · apply rowwise_trans first.warehouses second.warehouses
    rintro w x y ⟨wId, wYtd⟩ ⟨xId, xYtd⟩
    constructor
    · exact xId.trans wId
    · rw [xYtd, wYtd, wId, paidAt_append]
      ring
  · intro w
    rw [second.districts, first.districts, paidAt_append]
    ring
  · intro h mem
    have keys : db'.customer.map Customer.key = db.customer.map Customer.key :=
      rowwise_keeps Customer.key (fun c c' moves => moves.key) first.customers
    obtain mem | mem := List.mem_append.mp mem
    · exact first.payers h mem
    · rw [← keys]
      exact second.payers h mem

end Moves

/-! ## Payment -/

section Payment

variable {E : Type} {rates : Rates} {code : PaymentCode E} {data : PaymentData}
  {db db' : Database}

theorem historyFor_singleton (h : History) (customer : Int × Int × Int) :
    historyFor [h] customer = if h.customer = customer then [h] else [] := by
  unfold historyFor
  by_cases mine : h.customer = customer
  · simp [mine]
  · simp [mine]

theorem paidAt_singleton (h : History) (w : Int) :
    paidAt [h] w = if h.hWId = w then h.hAmount else 0 := by
  unfold paidAt
  by_cases own : h.hWId = w
  · simp [own]
  · simp [own]

theorem Posts.update (posts : Posts rates code) (data : PaymentData) (cId : Int) (good : Bool)
    (c : Customer) :
    Posted rates data.hAmount c (paymentUpdate code data cId good c) := by
  unfold paymentUpdate
  cases good with
  | true => exact posts.good data.hAmount c
  | false => exact posts.bad data.hAmount _ c

/-- One district row is paid, and it is the warehouse's own. -/
theorem payDistrict_districtYtd (districts : (db.district.map District.key).Nodup) {wId dId : Int}
    {district : District} (found : db.selectDistrict wId dId = some district) (hAmount : ℚ)
    (w : Int) : (db.payDistrict wId dId hAmount).districtYtd w =
      db.districtYtd w + if wId = w then hAmount else 0 := by
  have mem : district ∈ db.district := List.mem_of_find?_eq_some found
  have key : district.key = (wId, dId) := by simpa using List.find?_some found
  unfold Database.districtYtd Database.districtsOf Database.payDistrict
  dsimp only
  rw [filter_update, sum_update, List.filter_filter]
  · congr 1
    by_cases own : wId = w
    · have one : (db.district.filter fun x =>
          decide (x.key = (wId, dId)) && decide (x.dWId = w)) = [district] := by
        rw [← filter_unique districts mem]
        apply List.filter_congr
        intro x _
        rw [key]
        by_cases here : x.key = (wId, dId)
        · have w' : x.dWId = w := (congrArg Prod.fst here).trans own
          simp [here, w']
        · simp [here]
      rw [one]
      simp [own]
    · have nothing : (db.district.filter fun x =>
          decide (x.key = (wId, dId)) && decide (x.dWId = w)) = [] := by
        apply List.filter_eq_nil_iff.mpr
        intro x _ both
        obtain ⟨here, w'⟩ : x.key = (wId, dId) ∧ x.dWId = w := by simpa using both
        exact own ((congrArg Prod.fst here).symm.trans w')
      rw [nothing]
      simp [own]
  · exact fun x => rfl

/-- Every update of a payment is by the amount of its one `HISTORY` row. -/
theorem payment_moves (posts : Posts rates code)
    (districts : (db.district.map District.key).Nodup) {r : PaymentResult}
    (h : payment code data db = .ok (db', r)) : ∃ row, Moves rates db [row] db' := by
  obtain ⟨warehouse, district, customer, hData, -, foundDistrict, foundCustomer, rfl⟩ :=
    payment_effect h
  have mem : customer ∈ db.customer := List.mem_of_find?_eq_some foundCustomer
  have key : customer.key = (data.cWId, data.cDId, customer.cId) := by
    simpa using List.find?_some foundCustomer
  let row := historyRow data customer.cId hData
  have payer : row.customer = customer.key := key.symm
  have delivered (k : Int × Int × Int) :
      (paid code data customer hData db).deliveredTo k = db.deliveredTo k := rfl
  refine ⟨row, ?_⟩
  constructor
  · rfl
  · apply rowwise_update
    · intro c _ mine
      have posted := posts.update data customer.cId customer.goodCredit c
      have his : historyFor [row] c.key = [row] := by
        rw [historyFor_singleton, if_pos]
        rw [payer, key]
        exact (of_decide_eq_true mine).symm
      constructor
      · exact posted.key
      · rw [posted.balance, paidBy, his, delivered]
        simp [row, historyRow]
      · rw [posted.ytdPayment, Rates.sum, his]
        simp [row, historyRow]
      · rw [posted.paymentCnt, his]
        simp
    · intro c _ other
      have nothing : historyFor [row] c.key = [] := by
        rw [historyFor_singleton, if_neg]
        rw [payer, key]
        exact fun is => of_decide_eq_false other is.symm
      constructor
      · rfl
      · rw [paidBy, nothing, delivered]
        simp
      · rw [Rates.sum, nothing]
        simp
      · rw [nothing]
        simp
  · apply rowwise_update
    · intro w _ own
      have here : row.hWId = w.wId := (of_decide_eq_true own).symm
      constructor
      · rfl
      · rw [paidAt_singleton, if_pos here]
        rfl
    · intro w _ other
      have elsewhere : row.hWId ≠ w.wId := fun is => of_decide_eq_false other is.symm
      constructor
      · rfl
      · rw [paidAt_singleton, if_neg elsewhere]
        exact (add_zero _).symm
  · intro w
    rw [paidAt_singleton]
    exact payDistrict_districtYtd districts foundDistrict data.hAmount w
  · intro h mem
    rw [List.mem_singleton.mp mem, payer]
    exact List.mem_map_of_mem (List.mem_of_find?_eq_some foundCustomer)

theorem payment_consistent_money (consistent : MoneyConsistent db) {r : PaymentResult}
    (h : payment code data db = .ok (db', r)) : MoneyConsistent db' := by
  obtain ⟨warehouse, district, customer, hData, -, -, -, rfl⟩ := payment_effect h
  constructor
  · have keys : (paid code data customer hData db).district.map District.key =
        db.district.map District.key := update_keeps District.key fun x => rfl
    rw [keys]
    exact consistent.districts
  · exact consistent.orders
  · exact consistent.outstanding

end Payment

/-! ## Delivery -/

section Delivery

variable {E : Type} {code : DeliveryCode E} {data : DeliveryData} {db db' : Database}
  {rates : Rates}

theorem deliver_deliveredTo (picks : ∀ os o, code.order os = some o → o ∈ os)
    (consistent : MoneyConsistent db) (n : Nat) (customer : Int × Int × Int) :
    (deliver data (deliveredBelow code data db n) db).deliveredTo customer =
      db.deliveredTo customer +
        (credited data.wId (deliveredBelow code data db n) customer).getD 0 := by
  have fresh (l : OrderLine) (mem : l ∈ db.orderLine)
      (now : isDelivered data.wId (deliveredBelow code data db n) l.order) :
      l.olDeliveryD = none := by
    obtain ⟨d, is, key⟩ := isDelivered_iff.mp now
    obtain ⟨chose, -, -⟩ := deliveredBelow_some is
    obtain ⟨row, outstanding, rowKey⟩ := chosen_outstanding chose
    exact consistent.outstanding row outstanding l mem (key.trans rowKey.symm)
  let ds := deliveredBelow code data db n
  have lines : ((deliver data ds db).orderLine.filter fun l =>
        l.olDeliveryD.isSome && (deliver data ds db).ordered customer l.order).map
          OrderLine.olAmount =
      (db.orderLine.filter fun l => l.olDeliveryD.isSome && db.ordered customer l.order ||
        isDelivered data.wId ds l.order && db.ordered customer l.order).map
          OrderLine.olAmount := by
    simp only [deliver_ordered]
    unfold deliver
    dsimp only
    rw [map_filter_update]
    · congr 1
      apply List.filter_congr
      intro l _
      cases now : isDelivered data.wId ds l.order with
      | false => simp
      | true => simp [OrderLine.order]
    · exact fun l => rfl
  unfold Database.deliveredTo
  rw [lines, sum_filter_or, credited_lines picks consistent.orders]
  intro l mem earlier
  cases now : isDelivered data.wId ds l.order with
  | false => rfl
  | true =>
    rw [fresh l mem now] at earlier
    cases earlier

theorem creditIn_payments (wId : Int) (ds : Int → Option Delivered) (c : Customer) :
    (creditIn wId ds c).cYtdPayment = c.cYtdPayment ∧
      (creditIn wId ds c).cPaymentCnt = c.cPaymentCnt := by
  unfold creditIn
  split
  · exact ⟨rfl, rfl⟩
  · exact ⟨rfl, rfl⟩

/-- A Delivery pays nothing, and credits what it delivers. -/
theorem delivery_moves (picks : ∀ os o, code.order os = some o → o ∈ os)
    (consistent : MoneyConsistent db) {rs : List (Option Int)}
    (h : delivery code data db = .ok (db', rs)) : Moves rates db [] db' := by
  obtain ⟨rfl, -⟩ := delivery_effect h
  constructor
  · exact (List.append_nil _).symm
  · apply List.forall₂_map_right_iff.mpr
    apply List.forall₂_same.mpr
    intro c _
    obtain ⟨ytdPayment, paymentCnt⟩ :=
      creditIn_payments data.wId (deliveredBelow code data db 10) c
    constructor
    · exact creditIn_key c
    · rw [creditIn_balance, deliver_deliveredTo picks consistent]
      simp [paidBy, historyFor]
    · rw [ytdPayment]
      simp [Rates.sum, historyFor]
    · rw [paymentCnt]
      simp [historyFor]
  · apply List.forall₂_same.mpr
    intro w _
    exact ⟨rfl, (add_zero _).symm⟩
  · intro w
    exact (add_zero _).symm
  · intro row mem
    cases mem

theorem delivery_consistent_money (consistent : MoneyConsistent db) {rs : List (Option Int)}
    (h : delivery code data db = .ok (db', rs)) : MoneyConsistent db' := by
  obtain ⟨rfl, -⟩ := delivery_effect h
  constructor
  · exact consistent.districts
  · have keys : (deliver data (deliveredBelow code data db 10) db).orders.map Order.key =
        db.orders.map Order.key := update_keeps Order.key fun o => rfl
    rw [keys]
    exact consistent.orders
  · intro n mem l mem' key
    obtain ⟨there, kept⟩ := List.mem_filter.mp mem
    obtain ⟨line, before, is⟩ := mem_update.mp mem'
    split at is
    · rename_i now
      have same : line.order = n.key := by rw [← key, ← is]; rfl
      rw [same] at now
      simp [now] at kept
    · rw [← is]
      rw [← is] at key
      exact consistent.outstanding n there line before key

end Delivery

/-! ## Runs -/

/-- A transaction that moves money. -/
inductive Transfer where
  | payment (data : PaymentData)
  | delivery (data : DeliveryData)

namespace Transfer

def isPayment : Transfer → Bool
  | payment _ => true
  | delivery _ => false

/-- One committed transaction, on exact numbers. -/
def step (b : Backend) (db : Database) : Transfer → Option Database
  | payment data => b.payment data db
  | delivery data => b.delivery data db

/-- One committed transaction, on what the columns keep. -/
def stored (a : Arithmetic) (b : Backend) (db : Database) : Transfer → Option Database
  | payment data => b.storedPayment a data db
  | delivery data => b.storedDelivery a data db

/-- The sums that it forms are exact. -/
def exact (a : Arithmetic) (b : Backend) (db : Database) : Transfer → Bool
  | payment data => b.paymentExact a data db
  | delivery data => b.deliveryExact a data db

theorem stored_exact {a : Arithmetic} {b : Backend} {db : Database} {t : Transfer}
    (good : t.exact a b db) : t.stored a b db = t.step b db := by
  cases t with
  | payment data => exact Backend.storedPayment_exact good
  | delivery data => exact Backend.storedDelivery_exact good

end Transfer

def Backend.rates : Backend → Rates
  | .nonsp | .cockroach => { ytdPayment := fun _ => 1, paymentCnt := 0 }
  | .pgsql => { ytdPayment := id, paymentCnt := 1 }

section Runs

variable {b : Backend} {db db' : Database}

theorem nonsp_posts : Posts (Backend.rates .nonsp) Nonsp.paymentCode := by
  constructor
  · intro hAmount c
    exact ⟨rfl, rfl, rfl, (add_zero _).symm⟩
  · intro hAmount text c
    exact ⟨rfl, rfl, rfl, (add_zero _).symm⟩

theorem cockroach_posts : Posts (Backend.rates .cockroach) Cockroach.paymentCode := by
  constructor
  · intro hAmount c
    exact ⟨rfl, rfl, rfl, (add_zero _).symm⟩
  · intro hAmount text c
    exact ⟨rfl, rfl, rfl, (add_zero _).symm⟩

theorem pgsql_posts : Posts (Backend.rates .pgsql) Pgsql.paymentCode := by
  constructor
  · intro hAmount c
    exact ⟨rfl, rfl, rfl, rfl⟩
  · intro hAmount text c
    exact ⟨rfl, rfl, rfl, rfl⟩

/-- A committed Payment is an execution of one of the three implementations. -/
theorem payment_committed {data : PaymentData} (h : b.payment data db = some db') :
    ∃ (E : Type) (code : PaymentCode E) (r : PaymentResult),
      Posts b.rates code ∧ payment code data db = .ok (db', r) := by
  cases b with
  | nonsp =>
    obtain ⟨r, ran⟩ := committed_eq_some.mp h
    exact ⟨_, _, r, nonsp_posts, Fallible.mapError_eq_ok.mp ran⟩
  | cockroach =>
    obtain ⟨r, ran⟩ := committed_eq_some.mp h
    exact ⟨_, _, r, cockroach_posts, ran⟩
  | pgsql =>
    obtain ⟨r, ran⟩ := committed_eq_some.mp h
    exact ⟨_, _, r, pgsql_posts, ran⟩

theorem delivery_committed {data : DeliveryData} (h : b.delivery data db = some db') :
    ∃ (E : Type) (code : DeliveryCode E) (rs : List (Option Int)),
      (∀ os o, code.order os = some o → o ∈ os) ∧ delivery code data db = .ok (db', rs) := by
  have head (os : List Order) (o : Order) (is : os.head? = some o) : o ∈ os :=
    List.mem_of_mem_head? is
  cases b with
  | nonsp =>
    obtain ⟨rs, ran⟩ := committed_eq_some.mp h
    exact ⟨_, _, rs, head, Fallible.mapError_eq_ok.mp ran⟩
  | cockroach =>
    obtain ⟨rs, ran⟩ := committed_eq_some.mp h
    refine ⟨_, _, rs, ?_, ran⟩
    intro os o is
    cases os with
    | nil => cases is
    | cons first rest =>
      cases rest with
      | nil =>
        cases is
        exact List.mem_singleton_self o
      | cons => cases is
  | pgsql =>
    obtain ⟨rs, ran⟩ := committed_eq_some.mp h
    exact ⟨_, _, rs, head, ran⟩

theorem step_moves {t : Transfer} (stepped : t.step b db = some db')
    (consistent : MoneyConsistent db) : MoneyConsistent db' ∧ ∃ added,
      Moves b.rates db added db' ∧ added.length = [t].countP Transfer.isPayment := by
  cases t with
  | payment data =>
    obtain ⟨E, code, r, posts, ran⟩ := payment_committed stepped
    obtain ⟨row, moves⟩ := payment_moves posts consistent.districts ran
    exact ⟨payment_consistent_money consistent ran, [row], moves, rfl⟩
  | delivery data =>
    obtain ⟨E, code, rs, picks, ran⟩ := delivery_committed stepped
    exact ⟨delivery_consistent_money consistent ran, [], delivery_moves picks consistent ran, rfl⟩

theorem run_moves {ts : List Transfer} (ran : run (Transfer.step b) db ts = some db')
    (consistent : MoneyConsistent db) : ∃ added,
      Moves b.rates db added db' ∧ added.length = ts.countP Transfer.isPayment := by
  induction ts generalizing db with
  | nil =>
    obtain rfl : db = db' := by simpa [run] using ran
    refine ⟨[], ?_, rfl⟩
    exact Moves.refl b.rates db
  | cons t ts ih =>
    obtain ⟨u, stepped, later⟩ := run_cons.mp ran
    obtain ⟨next, first, moves, count⟩ := step_moves stepped consistent
    obtain ⟨rest, further, counts⟩ := ih later next
    refine ⟨first ++ rest, moves.trans further, ?_⟩
    rw [List.length_append, count, counts, ← List.countP_append, List.singleton_append]

/-- Where a payment's rates are the amount and one, every column is accounted for. -/
theorem Moves.conserved {added : List History}
    (moves : Moves { ytdPayment := id, paymentCnt := 1 } db added db') : MoneyConserved db db' := by
  refine ⟨added, moves.history, ?_, ?_⟩
  · apply moves.customers.imp
    intro c c' change
    have ytdPayment : c'.cYtdPayment = c.cYtdPayment + paidBy added c.key := change.ytdPayment
    constructor
    · exact change.key
    · rw [change.balance, ytdPayment]
      ring
    · exact ytdPayment
    · rw [change.paymentCnt, one_mul]
  · apply moves.warehouses.imp
    rintro w w' ⟨wId, wYtd⟩
    constructor
    · exact wId
    · rw [wYtd, moves.districts]
      ring
    · rw [wYtd]
      ring

/-- Without payments, the rates do not matter. -/
theorem Moves.unpaid {rates rates' : Rates} (moves : Moves rates db [] db') :
    Moves rates' db [] db' := by
  constructor
  · exact moves.history
  · apply moves.customers.imp
    intro c c' change
    constructor
    · exact change.key
    · exact change.balance
    · exact change.ytdPayment
    · rw [change.paymentCnt]
      simp [historyFor]
  · exact moves.warehouses
  · exact moves.districts
  · exact moves.payers

/-- The first payer's `c_payment_cnt` gives it away. -/
theorem Moves.not_conserved {ytdPayment : ℚ → ℚ} {added : List History}
    (moves : Moves { ytdPayment, paymentCnt := 0 } db added db') (paid : added ≠ []) :
    ¬ MoneyConserved db db' := by
  rintro ⟨added', history, customers, -⟩
  obtain rfl : added = added' := List.append_cancel_left (moves.history.symm.trans history)
  obtain ⟨h, rest, rfl⟩ := List.exists_cons_of_ne_nil paid
  obtain ⟨c, mem, key⟩ := List.mem_map.mp (moves.payers h List.mem_cons_self)
  obtain ⟨i, bound, rfl⟩ := List.getElem_of_mem mem
  have same := moves.customers.length_eq
  have stands := (List.forall₂_iff_get.mp moves.customers).2 i bound (same ▸ bound)
  have claimed := (List.forall₂_iff_get.mp customers).2 i bound (same ▸ bound)
  have cnt := claimed.paymentCnt.symm.trans stands.paymentCnt
  have first : h ∈ historyFor (h :: rest) h.customer := by simp [historyFor]
  have some' := List.length_pos_of_mem first
  simp only [List.get_eq_getElem, key] at cnt
  omega

end Runs

/-- As long as sums are exact, committed Payments and Deliveries keep the columns of money accounted
for under `Pgsql`; the other two implementations break them with the first Payment. -/
theorem money_conserved {a : Arithmetic} {b : Backend} {db db' : Database} {ts : List Transfer}
    (consistent : MoneyConsistent db)
    (ran : run (Transfer.stored a b) db ts = some db')
    (sums : Along (Transfer.stored a b) (Transfer.exact a b) db ts) :
    MoneyConserved db db' ↔ b = .pgsql ∨ ∀ t ∈ ts, t.isPayment = false := by
  have same : run (Transfer.step b) db ts = some db' := by
    rw [← ran]
    exact (run_congr_along (fun s t good => Transfer.stored_exact good) sums).symm
  obtain ⟨added, moves, count⟩ := run_moves same consistent
  have unpaid : added = [] ↔ ∀ t ∈ ts, t.isPayment = false := by
    rw [← List.length_eq_zero_iff, count, List.countP_eq_zero]
    simp
  have others (other : b ≠ .pgsql) (same : b.rates = Backend.rates .nonsp) :
      MoneyConserved db db' ↔ b = .pgsql ∨ ∀ t ∈ ts, t.isPayment = false := by
    rw [same] at moves
    constructor
    · intro conserved
      right
      apply unpaid.mp
      by_contra paid
      exact moves.not_conserved paid conserved
    · rintro (is | none')
      · exact absurd is other
      · rw [unpaid.mpr none'] at moves
        exact moves.unpaid.conserved
  cases b with
  | nonsp => exact others (by decide) rfl
  | cockroach => exact others (by decide) rfl
  | pgsql => exact ⟨fun _ => .inl rfl, fun _ => moves.conserved⟩

/-- The customer of the one order pays. -/
def onePayment : PaymentData where
  wId := 1
  dId := 1
  cId := 1
  cWId := 1
  cDId := 1
  cLast := ""
  hAmount := 10

theorem oneOutstanding_consistent : MoneyConsistent oneOutstanding := by
  constructor
  · decide
  · decide
  · decide

/-- A Payment, and the Delivery of an order. -/
def twoTransfers : List Transfer :=
  [.payment onePayment, .delivery { wId := 1, oCarrierId := 3 }]

theorem money_conserved_pgsql : ∃ db',
    run (Transfer.stored Pgsql.arithmetic .pgsql) oneOutstanding twoTransfers = some db' ∧
      MoneyConserved oneOutstanding db' := by
  have accepted : (run (Transfer.stored Pgsql.arithmetic .pgsql) oneOutstanding
      twoTransfers).isSome = true := by
    decide +kernel
  obtain ⟨db', ran⟩ := Option.isSome_iff_exists.mp accepted
  have sums : Along (Transfer.stored Pgsql.arithmetic .pgsql)
      (Transfer.exact Pgsql.arithmetic .pgsql) oneOutstanding twoTransfers = true := by
    decide +kernel
  exact ⟨db', ran, (money_conserved oneOutstanding_consistent ran sums).mpr (.inl rfl)⟩

/-- One Payment that SQLite commits is not counted. -/
theorem money_not_conserved : ¬ ∀ (a : Arithmetic) (b : Backend) (db db' : Database)
    (ts : List Transfer), MoneyConsistent db → run (Transfer.stored a b) db ts = some db' →
      MoneyConserved db db' := by
  intro conserved
  have accepted : (run (Transfer.step .nonsp) oneOutstanding [.payment onePayment]).isSome =
      true := by
    decide
  obtain ⟨db', ran⟩ := Option.isSome_iff_exists.mp accepted
  obtain ⟨added, moves, count⟩ := run_moves ran oneOutstanding_consistent
  have paid : added ≠ [] := List.ne_nil_of_length_pos (by rw [count]; decide)
  have stored : run (Transfer.stored Pgsql.arithmetic .nonsp) oneOutstanding
      [.payment onePayment] = some db' := ran
  exact moves.not_conserved paid
    (conserved Pgsql.arithmetic .nonsp _ db' _ oneOutstanding_consistent stored)

end Dbt2
