import Dbt2.Driver3
import Dbt2.Money

/-!
# Reported and real throughput

The mix logs are what the throughput of a test is computed from. Against a server that executes
the transactions as a backend does, `throughput_real` compares the transactions of a warehouse that
the logs report as done with the rows that they leave in the database: the difference is what was
committed without the driver hearing of it.
-/

namespace Dbt2

open Bookkeeping Draws Driver3 Transition

/-! ## Rows -/

def Database.ordersAt (db : Database) (wId : Int) : Nat := db.orders.countP fun o => o.oWId = wId

def Database.paymentsAt (db : Database) (wId : Int) : Nat :=
  db.history.countP fun h => h.hWId = wId

/-- A transaction of a type, at a warehouse. -/
def NonspData.isOf (transaction wId : Int) (data : NonspData) : Bool :=
  data.transaction = transaction ∧ data.home = wId

/-- The other types only read. -/
def Backend.execute (b : Backend) : NonspData → Database → Option Database
  | .newOrder data, db => b.newOrder data db
  | .payment data, db => b.payment data db
  | .delivery data, db => b.delivery data db
  | .integrity _, db | .orderStatus _, db | .stockLevel _, db => some db

variable {b : Backend} {db db' : Database}

theorem newOrder_committed {data : NewOrderData} (h : b.newOrder data db = some db') :
    ∃ (E : Type) (code : NewOrderCode E) (r : NewOrderResult),
      newOrder code data db = .ok (db', r) := by
  cases b with
  | nonsp =>
    obtain ⟨r, ran⟩ := committed_eq_some.mp h
    exact ⟨_, _, r, Fallible.mapError_eq_ok.mp ran⟩
  | cockroach =>
    obtain ⟨r, ran⟩ := committed_eq_some.mp h
    exact ⟨_, _, r, ran⟩
  | pgsql =>
    obtain ⟨r, ran⟩ := committed_eq_some.mp h
    unfold Pgsql.newOrder at ran
    split at ran
    · cases ran
    · exact ⟨_, _, r, ran⟩

/-- A New-Order leaves one order at its warehouse, a Payment one row of history, and nothing else
does either. -/
theorem execute_rows {data : NonspData} (done : b.execute data db = some db') (wId : Int) :
    db'.ordersAt wId = db.ordersAt wId + (if data.isOf NEW_ORDER wId then 1 else 0) ∧
      db'.paymentsAt wId = db.paymentsAt wId + if data.isOf PAYMENT wId then 1 else 0 := by
  cases data with
  | newOrder data =>
    obtain ⟨E, code, r, ran⟩ := newOrder_committed done
    obtain ⟨district, -, ls, -, same⟩ := newOrder_effect ran
    rw [same]
    constructor
    · simp [Database.ordersAt, ordered, NonspData.isOf, NonspData.transaction, NonspData.home,
        orderRow, List.countP_append, List.countP_singleton]
    · simp [Database.paymentsAt, ordered, NonspData.isOf, NonspData.transaction, NEW_ORDER,
        PAYMENT, Database.incrementNextOId]
  | payment data =>
    obtain ⟨E, code, r, -, ran⟩ := payment_committed done
    obtain ⟨warehouse, district, customer, hData, -, -, -, rfl⟩ := payment_effect ran
    constructor
    · simp [Database.ordersAt, paid, NonspData.isOf, NonspData.transaction, NEW_ORDER, PAYMENT,
        Database.insertHistory, Database.updateCustomer, Database.payDistrict,
        Database.payWarehouse]
    · simp [Database.paymentsAt, paid, NonspData.isOf, NonspData.transaction, NonspData.home,
        Database.insertHistory, historyRow, Database.updateCustomer, Database.payDistrict,
        Database.payWarehouse, List.countP_append, List.countP_singleton]
  | delivery data =>
    obtain ⟨E, code, rs, -, ran⟩ := delivery_committed done
    obtain ⟨same, -⟩ := delivery_effect ran
    have orders : db'.ordersAt wId = db.ordersAt wId := by
      rw [same, Database.ordersAt, Database.ordersAt, deliver, Table.update, List.countP_map]
      apply List.countP_congr
      intro o _
      simp only [Function.comp_apply]
      split <;> rfl
    have history : db'.history = db.history := by
      rw [same]
      rfl
    rw [orders, Database.paymentsAt, history]
    simp [NonspData.isOf, NonspData.transaction, DELIVERY, NEW_ORDER, PAYMENT,
      Database.paymentsAt]
  | integrity | orderStatus | stockLevel =>
    obtain rfl := Option.some.inj done
    simp [NonspData.isOf, NonspData.transaction, NEW_ORDER, PAYMENT, INTEGRITY, ORDER_STATUS,
      STOCK_LEVEL]

theorem commitAll_rows {cs : List Commit} (done : commitAll b.execute cs db = some db')
    (wId : Int) :
    db'.ordersAt wId = db.ordersAt wId + cs.countP (fun k => k.data.isOf NEW_ORDER wId) ∧
      db'.paymentsAt wId = db.paymentsAt wId + cs.countP fun k => k.data.isOf PAYMENT wId := by
  induction cs generalizing db with
  | nil =>
    obtain rfl := Option.some.inj done
    exact ⟨rfl, rfl⟩
  | cons k cs ih =>
    obtain ⟨t, first, later⟩ := Option.bind_eq_some_iff.mp done
    obtain ⟨orders, payments⟩ := execute_rows first wId
    obtain ⟨moreOrders, morePayments⟩ := ih later
    rw [List.countP_cons, List.countP_cons]
    constructor <;> omega

/-! ## Lines -/

namespace Driver3

/-- Lines of transactions done, of a type, at a warehouse. -/
def LogLine.reports (transaction wId : Int) (l : LogLine) : Bool :=
  l.code = 'C' ∧ l.transaction = transaction ∧ l.wId = wId

variable {σ S : Type}

/-- What the logs of all processes report. -/
def World.reported (w : World σ S) (transaction wId : Int) : Nat :=
  (w.processes.map fun m => m.lines.countP (LogLine.reports transaction wId)).sum

def Commit.heard (transaction wId : Int) (k : Commit) : Bool :=
  k.acknowledged && k.data.isOf transaction wId

/-- Committed, although the reply was lost. -/
def Commit.unheard (transaction wId : Int) (k : Commit) : Bool :=
  !k.acknowledged && k.data.isOf transaction wId

def World.unheard (w : World σ S) (transaction wId : Int) : Nat :=
  w.journal.countP (Commit.unheard transaction wId)

theorem About.reports {l : LogLine} {cs : List Commit} (h : About l cs) (transaction wId : Int) :
    cs.countP (Commit.heard transaction wId) =
      if LogLine.reports transaction wId l then 1 else 0 := by
  obtain ⟨data, type, home, same⟩ := h.data
  obtain ⟨lost, heard⟩ := h.heard
  have acknowledged : cs.countP Commit.acknowledged = if l.code = 'C' then 1 else 0 := by
    have mapped := congrArg (List.countP id) heard
    rw [List.countP_map, List.countP_append] at mapped
    by_cases done : l.code = 'C' <;> simpa [done, List.countP_replicate] using mapped
  by_cases is : l.transaction = transaction ∧ l.wId = wId
  · have all (k : Commit) (mem : k ∈ cs) : k.heard transaction wId = k.acknowledged := by
      simp [Commit.heard, NonspData.isOf, same k mem, type, home, is]
    rw [List.countP_congr fun k mem => by rw [all k mem], acknowledged]
    simp [LogLine.reports, is]
  · have none' (k : Commit) (mem : k ∈ cs) : ¬ k.heard transaction wId = true := by
      simp only [Commit.heard, NonspData.isOf, same k mem, type, home, is, decide_false,
        Bool.and_false, Bool.false_eq_true, not_false_eq_true]
    rw [List.countP_eq_zero.mpr none', if_neg]
    simp only [LogLine.reports, decide_eq_true_eq]
    exact fun reported => is reported.2

/-- Between calls, the commits that the processes heard of are those that they report. -/
theorem reported_heard [Source σ] {c : Settings} {effect : NonspData → S → Option S} {db : S}
    {starts : List (σ × List (Int × Int))} {es : List (Nat × Input)} {w : World σ S}
    (ran : run (World.step c effect) (World.start db starts) es = some w)
    (waiting : ∀ m ∈ w.processes, m.doing = .waiting) (transaction wId : Int) :
    w.journal.countP (Commit.heard transaction wId) = w.reported transaction wId := by
  obtain ⟨-, owned, tallies⟩ := logs_account ran
  apply countP_shared Commit.process owned
  intro p m there
  obtain ⟨rest, books, -, settled⟩ := tallies p m there
  obtain rfl := settled (waiting m (List.mem_of_getElem? there))
  rw [← World.journalOf, books.count fun l cs about => about.reports transaction wId]
  rfl

theorem countP_heard (cs : List Commit) (transaction wId : Int) :
    cs.countP (fun k => k.data.isOf transaction wId) =
      cs.countP (Commit.heard transaction wId) + cs.countP (Commit.unheard transaction wId) := by
  induction cs with
  | nil => rfl
  | cons k cs ih =>
    simp only [List.countP_cons, ih]
    by_cases heard : k.acknowledged = true
    · simp only [Commit.heard, Commit.unheard, heard, Bool.true_and, Bool.not_true,
        Bool.false_and, Bool.false_eq_true, if_false]
      omega
    · simp only [Commit.heard, Commit.unheard, heard, Bool.false_and, Bool.not_false,
        Bool.true_and, Bool.false_eq_true, if_false]
      omega

/-- When no call is under way, the orders of a warehouse are as many more as the logs report
New-Orders done there, and its rows of history as many more as the logs report Payments, but for
what was committed without the driver hearing of it. -/
theorem throughput_real [Source σ] {c : Settings} {b : Backend} {db : Database}
    {starts : List (σ × List (Int × Int))} {es : List (Nat × Input)} {w : World σ Database}
    (ran : run (World.step c b.execute) (World.start db starts) es = some w)
    (waiting : ∀ m ∈ w.processes, m.doing = .waiting) (wId : Int) :
    w.db.ordersAt wId =
        db.ordersAt wId + w.reported NEW_ORDER wId + w.unheard NEW_ORDER wId ∧
      w.db.paymentsAt wId =
        db.paymentsAt wId + w.reported PAYMENT wId + w.unheard PAYMENT wId := by
  obtain ⟨orders, payments⟩ := commitAll_rows (logs_account ran).1 wId
  rw [countP_heard, reported_heard ran waiting] at orders payments
  rw [orders, payments, World.unheard, World.unheard]
  constructor <;> omega

/-- The customer that a Payment of the first draws is by. -/
def oneNamed : Database :=
  { oneOutstanding with
    customer := oneOutstanding.customer.map fun c => { c with cLast := "BARBARBAR" } }

/-- One line stands for two Payments. -/
theorem throughput_real_lostReply : ∃ w : World (Stream' (BitVec 64)) Database,
    run (World.step paymentSettings (Backend.execute .pgsql)) (World.start oneNamed oneTerminal)
      lostReplyRun = some w ∧
    w.db.paymentsAt 1 = oneNamed.paymentsAt 1 + w.reported PAYMENT 1 + w.unheard PAYMENT 1 ∧
    w.reported PAYMENT 1 = 1 ∧ w.unheard PAYMENT 1 = 1 := by
  have accepted : ((run (World.step paymentSettings (Backend.execute .pgsql))
      (World.start oneNamed oneTerminal) lostReplyRun).any fun w =>
        (∀ m ∈ w.processes, m.doing = .waiting) ∧ w.reported PAYMENT 1 = 1 ∧
          w.unheard PAYMENT 1 = 1) = true := by
    decide +kernel
  obtain ⟨w, ran, ended⟩ := Option.any_eq_true .. |>.mp accepted
  obtain ⟨waiting, reported, unheard⟩ := of_decide_eq_true ended
  exact ⟨w, ran, (throughput_real ran waiting 1).2, reported, unheard⟩

end Driver3

end Dbt2
