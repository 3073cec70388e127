import Dbt2.NonspClient
import Dbt2.ProcessTransaction

/-!
# Errors of statements

Which failures the nonsp functions notice. They do not tell a failed DELIVERY_1 from a district
without orders, and in a loop over rows not a failed step from the end of the rows. After an error
for which SQLite has rolled the transaction back by itself, a function that goes on has each further
statement committed alone.

* `NonspExchange.stops`: an answer with which the function returns an error;
* `executeNonsp_result`: what it returns then, and otherwise;
* `NonspConnection.call`: a call of `process_transaction`;
* `error_atomic_iff`: when a failure leaves the database as it was.
-/

namespace Dbt2

open Prog Transition

/-! ## Failures -/

namespace NonspQuery

/-- The checks of what was read. None of them finds a null. -/
def accepts (data : NonspData) : (q : NonspQuery) → q.Row → List q.Row → Bool
  | integrity1, count, _ =>
    match data with
    | .integrity wId => atoiColumn count = wId
    | _ => true
  | orderStatus1 .., first, rest | payment5 .., first, rest => (middleId first rest).isSome
  | stockLevel2 .., lowStock, _ => atoiColumn lowStock ≠ -1
  | _, _, _ => true

end NonspQuery

namespace NonspExchange

/-- A statement that was not carried out, or whose rows were not read to their end. Of most
queries one row is read. -/
def failed (x : NonspExchange) : Bool :=
  match x.2 with
  | .failed => true
  | .noRow => false
  | .row _ _ broken => broken && x.1.kind = .all

def unnoticed (x : NonspExchange) : Bool :=
  match x.1.kind, x.2 with
  | .ifAny, .failed => true
  | .all, .row _ _ broken => broken
  | _, _ => false

/-- The function returns an error here. -/
def stops (data : NonspData) (x : NonspExchange) : Bool :=
  match x.1.kind, x.2 with
  | .ifAny, _ => false
  | _, .failed => true
  | .change, _ => false
  | _, .noRow => true
  | _, .row first rest _ => !x.1.accepts data first rest

/-- More rows than the arrays of `order_status_nonsp` have entries. -/
def overruns : NonspExchange → Bool
  | ⟨.orderStatus4 .., .row first rest _⟩ => decide (15 < (first :: rest).length)
  | _ => false

theorem stops_of_failed {data : NonspData} {x : NonspExchange} (failed : x.failed = true)
    (noticed : x.unnoticed = false) : x.stops data = true := by
  obtain ⟨q, answer⟩ := x
  unfold NonspExchange.failed at failed
  unfold NonspExchange.unnoticed at noticed
  unfold NonspExchange.stops
  cases answer with
  | failed => cases kind : q.kind <;> simp_all
  | noRow => cases failed
  | row first rest broken => cases kind : q.kind <;> simp_all

theorem failed_of_unnoticed {x : NonspExchange} (h : x.unnoticed = true) : x.failed = true := by
  obtain ⟨q, answer⟩ := x
  unfold NonspExchange.unnoticed at h
  unfold NonspExchange.failed
  cases answer with
  | failed => rfl
  | noRow => cases kind : q.kind <;> simp_all
  | row first rest broken => cases kind : q.kind <;> simp_all

/-- Only ORDER_STATUS_4 has its rows in arrays, and none of its rows is checked. -/
theorem stops_of_overruns {data : NonspData} {x : NonspExchange} (overruns : x.overruns = true) :
    x.stops data = false := by
  obtain ⟨q, answer⟩ := x
  cases q with
  | orderStatus4 =>
    cases answer with
    | failed | noRow => cases overruns
    | row first rest broken => rfl
  | _ => cases overruns

end NonspExchange

/-- A New-Order with a line for an unused item is given up without a failure. -/
def NonspData.unused : NonspData → Prop
  | newOrder data => ∃ k < data.oOlCnt, (data.line k).olIId = 0
  | integrity _ | delivery _ | orderStatus _ | payment _ | stockLevel _ => False

/-! ## Functions that check each result -/

inductive NonspPhase where
  | going
  | stopped
  | overrun
  deriving DecidableEq

def NonspExchange.phase (data : NonspData) (x : NonspExchange) : NonspPhase :=
  if x.stops data then .stopped else if x.overruns then .overrun else .going

theorem NonspExchange.phase_overrun {data : NonspData} {x : NonspExchange} :
    x.phase data = .overrun ↔ x.overruns = true := by
  unfold NonspExchange.phase
  cases overruns : x.overruns with
  | true => simp [NonspExchange.stops_of_overruns overruns]
  | false => cases x.stops data <;> simp

/-- After an answer that stops the function nothing more is asked. -/
def noticing (data : NonspData) : Protocol NonspQuery (fun q => Answer q.Row) NonspPhase where
  allowed phase _ := phase = .going
  moves _ q answer phase := phase = NonspExchange.phase data ⟨q, answer⟩

/-- Where a function returns an error it was stopped. -/
def NonspPhase.Noticed {A : Type} (phase : NonspPhase) : Except NonspStop A → Prop
  | .ok _ => phase = .going
  | .error (.rc _) => phase = .stopped
  | .error .overrun => False

abbrev Noticing {A : Type} (data : NonspData) (x : NonspProc A) : Prop :=
  x.Follows (noticing data) NonspPhase.Noticed .going

section Noticing

variable {A B : Type} {data : NonspData} {q : NonspQuery} {rc : Int}

theorem noticing_pure (a : A) : Noticing data (pure a : NonspProc A) := rfl

theorem Noticing.followed {ends : NonspPhase → Except NonspStop B → Prop} {x : NonspProc A}
    {f : A → NonspProc B} (first : Noticing data x)
    (stopped : ∀ rc, ends .stopped (.error (.rc rc)))
    (rest : ∀ a, (f a).Follows (noticing data) ends .going) :
    (x >>= f).Follows (noticing data) ends .going := by
  apply follows_bind first
  · intro phase e ended
    cases e with
    | rc rc =>
      obtain rfl : phase = .stopped := ended
      exact stopped rc
    | overrun => cases ended
  · rintro _ a rfl
    exact rest a

theorem Noticing.bind {x : NonspProc A} {f : A → NonspProc B} (first : Noticing data x)
    (rest : ∀ a, Noticing data (f a)) : Noticing data (x >>= f) :=
  first.followed (fun _ => rfl) rest

theorem Noticing.loop {body : Nat → NonspProc A} (round : ∀ k, Noticing data (body k)) (n : Nat) :
    Noticing data (loop body n) := by
  induction n with
  | zero => rfl
  | succ n ih => exact ih.bind fun _ => (round n).bind fun _ => noticing_pure _

theorem change_noticing (kind : q.kind = .change) : Noticing data (change q rc) := by
  have kept (answer : Answer q.Row) : NonspExchange.overruns ⟨q, answer⟩ = false := by
    cases q <;> first | rfl | cases kind
  refine ⟨rfl, ?_⟩
  rintro answer _ rfl
  cases answer with
  | failed =>
    have stops : NonspExchange.phase data ⟨q, .failed⟩ = .stopped := by
      simp [NonspExchange.phase, NonspExchange.stops, kind]
    exact stops
  | noRow =>
    have goes_on : NonspExchange.phase data ⟨q, .noRow⟩ = .going := by
      simp [NonspExchange.phase, NonspExchange.stops, kind, kept]
    exact goes_on
  | row first rest broken =>
    have goes_on : NonspExchange.phase data ⟨q, .row first rest broken⟩ = .going := by
      simp [NonspExchange.phase, NonspExchange.stops, kind, kept]
    exact goes_on

/-- What is read is checked the same way. -/
theorem select_follows {ends : NonspPhase → Except NonspStop A → Prop}
    {read : q.Row → List q.Row → Option A} (kind : q.kind = .one ∨ q.kind = .all)
    (agrees : ∀ first rest, q.accepts data first rest = (read first rest).isSome)
    (stopped : ∀ rc, ends .stopped (.error (.rc rc)))
    (value : ∀ first rest broken a, read first rest = some a →
      ends (if NonspExchange.overruns ⟨q, .row first rest broken⟩ then .overrun else .going)
        (.ok a)) :
    (select q rc read).Follows (noticing data) ends .going := by
  refine ⟨rfl, ?_⟩
  rintro answer _ rfl
  cases answer with
  | failed =>
    have stops : NonspExchange.phase data ⟨q, .failed⟩ = .stopped := by
      obtain kind | kind := kind <;> simp [NonspExchange.phase, NonspExchange.stops, kind]
    rw [stops]
    exact stopped rc
  | noRow =>
    have stops : NonspExchange.phase data ⟨q, .noRow⟩ = .stopped := by
      obtain kind | kind := kind <;> simp [NonspExchange.phase, NonspExchange.stops, kind]
    rw [stops]
    exact stopped rc
  | row first rest broken =>
    have stops :
        NonspExchange.stops data ⟨q, .row first rest broken⟩ = !(read first rest).isSome := by
      obtain kind | kind := kind <;> simp [NonspExchange.stops, kind, agrees]
    unfold NonspExchange.phase
    rw [stops]
    change Follows _ _ _ (orRaise (read first rest) (NonspStop.rc (-1)))
    cases reads : read first rest with
    | none => exact stopped (-1)
    | some a => exact value first rest broken a reads

theorem select_noticing {read : q.Row → List q.Row → Option A}
    (kind : q.kind = .one ∨ q.kind = .all)
    (agrees : ∀ first rest, q.accepts data first rest = (read first rest).isSome)
    (kept : ∀ answer, NonspExchange.overruns ⟨q, answer⟩ = false) :
    Noticing data (select q rc read) := by
  refine select_follows kind agrees (fun _ => rfl) fun first rest broken a _ => ?_
  rw [kept]
  rfl

theorem selectIfAny_noticing (kind : q.kind = .ifAny) : Noticing data (selectIfAny q) := by
  refine ⟨rfl, ?_⟩
  rintro answer _ rfl
  have kept : NonspExchange.overruns ⟨q, answer⟩ = false := by
    cases q <;> first | rfl | cases kind
  have goes_on : NonspExchange.phase data ⟨q, answer⟩ = .going := by
    simp [NonspExchange.phase, NonspExchange.stops, kind, kept]
  cases answer <;> exact goes_on

end Noticing

namespace NonspClient

theorem isSome_filter {n : Int} (p : Int → Bool) : ((some n).filter p).isSome = p n := by
  cases accepted : p n <;> simp [Option.filter, accepted]

theorem integrity_noticing (wId : Int) : Noticing (.integrity wId) (integrityNonsp wId) := by
  refine (select_noticing (.inl rfl) (fun count _ => ?_) fun _ => rfl).bind fun _ => noticing_pure _
  rw [isSome_filter]
  rfl

theorem deliveryDistrict_noticing {data : NonspData} (delivery : DeliveryData) (i : Nat) :
    Noticing data (deliveryDistrict delivery i) := by
  refine (selectIfAny_noticing rfl).bind fun found => ?_
  cases found with
  | none => exact noticing_pure _
  | some noOId =>
    by_cases there : 0 < atoiColumn noOId
    · simp only [if_pos there]
      refine (change_noticing rfl).bind fun _ => ?_
      refine (select_noticing (.inl rfl) (fun _ _ => rfl) fun _ => rfl).bind fun oCId => ?_
      refine (change_noticing rfl).bind fun _ => ?_
      refine (change_noticing rfl).bind fun _ => ?_
      exact (select_noticing (.inl rfl) (fun _ _ => rfl) fun _ => rfl).bind
        fun olAmount => change_noticing rfl
    · simp only [if_neg there]
      exact noticing_pure _

theorem delivery_noticing {data : NonspData} (delivery : DeliveryData) :
    Noticing data (deliveryNonsp delivery) :=
  (Noticing.loop (deliveryDistrict_noticing delivery) 10).bind fun _ => noticing_pure _

theorem payment_noticing {data : NonspData} (payment : PaymentData) :
    Noticing data (paymentNonsp payment) := by
  have customer : Noticing data (paymentCustomer payment) := by
    unfold paymentCustomer
    split
    · exact select_noticing (.inr rfl) (fun _ _ => rfl) fun _ => rfl
    · exact noticing_pure _
  have credit (myCId : Int) (cCredit : String) :
      Noticing data (payment7 payment myCId cCredit) := by
    unfold payment7
    split
    · exact change_noticing rfl
    · exact change_noticing rfl
  refine (select_noticing (.inl rfl) (fun _ _ => rfl) fun _ => rfl).bind fun wName => ?_
  refine (change_noticing rfl).bind fun _ => ?_
  refine (select_noticing (.inl rfl) (fun _ _ => rfl) fun _ => rfl).bind fun dName => ?_
  refine (change_noticing rfl).bind fun _ => ?_
  refine customer.bind fun myCId => ?_
  refine (select_noticing (.inl rfl) (fun _ _ => rfl) fun _ => rfl).bind fun cCredit => ?_
  exact (credit myCId _).bind fun _ => change_noticing rfl

theorem stockLevel_noticing {data : NonspData} (stockLevel : StockLevelData) :
    Noticing data (stockLevelNonsp stockLevel) := by
  refine (select_noticing (.inl rfl) (fun _ _ => rfl) fun _ => rfl).bind fun dNextOId => ?_
  refine (select_noticing (.inl rfl) (fun _ _ => ?_) fun _ => rfl).bind fun _ => noticing_pure _
  rw [isSome_filter]
  rfl

/-- Only the last loop of an Order-Status may write outside its arrays. -/
theorem orderStatus_follows {data : NonspData} (orderStatus : OrderStatusData) :
    (orderStatusNonsp orderStatus).Follows (noticing data) (fun phase r =>
      match r with
      | .ok _ => phase = .going
      | .error (.rc _) => phase = .stopped
      | .error .overrun => phase = .overrun) .going := by
  have customer : Noticing data (orderStatusCustomer orderStatus) := by
    unfold orderStatusCustomer
    split
    · exact select_noticing (.inr rfl) (fun _ _ => rfl) fun _ => rfl
    · exact noticing_pure _
  refine customer.followed (fun _ => rfl) fun myCId => ?_
  refine (select_noticing (.inl rfl) (fun _ _ => rfl) fun _ => rfl).followed (fun _ => rfl)
    fun _ => ?_
  refine (select_noticing (.inl rfl) (fun _ _ => rfl) fun _ => rfl).followed (fun _ => rfl)
    fun oId => ?_
  have lines : (select (.orderStatus4 orderStatus.cWId orderStatus.cDId oId) (-1)
      fun first rest => some (first :: rest)).Follows (noticing data) (fun phase r =>
        match r with
        | .ok lines => phase = if 15 < lines.length then .overrun else .going
        | .error (.rc _) => phase = .stopped
        | .error .overrun => False) .going := by
    refine select_follows (.inr rfl) (fun _ _ => rfl) (fun _ => rfl) ?_
    rintro first rest broken _ ⟨⟩
    simp only [NonspExchange.overruns, decide_eq_true_eq]
  refine follows_bind lines ?_ ?_
  · intro phase e ended
    cases e with
    | rc rc => exact ended
    | overrun => cases ended
  · rintro _ lines rfl
    split
    · rfl
    · rfl

/-- A line ends well if it is not stopped and its item is not an unused one. -/
theorem newOrderLine_follows {data : NonspData} (newOrder : NewOrderData) (dNextOId : Option Int)
    (i : Nat) : (newOrderLine newOrder dNextOId i).Follows (noticing data)
      (fun phase r =>
        match r with
        | .ok _ => phase = .going ∧ (newOrder.line i).olIId ≠ 0
        | .error (.rc _) => phase = .stopped ∨ phase = .going ∧ (newOrder.line i).olIId = 0
        | .error .overrun => False) .going := by
  unfold newOrderLine
  by_cases used : (newOrder.line i).olIId ≠ 0
  · rw [if_pos used]
    refine (select_noticing (.inl rfl) (fun _ _ => rfl) fun _ => rfl).followed (fun _ => .inl rfl)
      fun iPrice => ?_
    refine (select_noticing (.inl rfl) (fun _ _ => rfl) fun _ => rfl).followed (fun _ => .inl rfl)
      fun stock => ?_
    refine (change_noticing rfl).followed (fun _ => .inl rfl) fun _ => ?_
    refine follows_mono (change_noticing rfl) fun phase r ended => ?_
    cases r with
    | error e =>
      cases e with
      | rc rc => exact .inl ended
      | overrun => exact ended
    | ok a => exact ⟨ended, used⟩
  · rw [if_neg used]
    exact .inr ⟨rfl, not_not.mp used⟩

/-- How a function ends, and in what phase. -/
def Ended (data : NonspData) {A : Type} (phase : NonspPhase) : Except NonspStop A → Prop
  | .ok _ => phase = .going ∧ ¬ data.unused
  | .error (.rc _) => phase = .stopped ∨ phase = .going ∧ data.unused
  | .error .overrun => phase = .overrun ∧ ¬ data.unused

theorem newOrder_follows (newOrder : NewOrderData) :
    (newOrderNonsp newOrder).Follows (noticing (.newOrder newOrder))
      (Ended (.newOrder newOrder)) .going := by
  refine (select_noticing (.inl rfl) (fun _ _ => rfl) fun _ => rfl).followed (fun _ => .inl rfl)
    fun wTax => ?_
  refine (select_noticing (.inl rfl) (fun _ _ => rfl) fun _ => rfl).followed (fun _ => .inl rfl)
    fun dNextOId => ?_
  refine (change_noticing rfl).followed (fun _ => .inl rfl) fun _ => ?_
  refine (select_noticing (.inl rfl) (fun _ _ => rfl) fun _ => rfl).followed (fun _ => .inl rfl)
    fun customer => ?_
  refine (change_noticing rfl).followed (fun _ => .inl rfl) fun _ => ?_
  refine (change_noticing rfl).followed (fun _ => .inl rfl) fun _ => ?_
  have round (k : Nat) (phase : NonspPhase) (below : k < newOrder.oOlCnt)
      (before : phase = .going ∧ ∀ j < k, (newOrder.line j).olIId ≠ 0) :
      (newOrderLine newOrder dNextOId k).Follows (noticing (.newOrder newOrder))
        (fun phase => Either
          (fun e => (∃ rc, e = .rc rc) ∧
            (phase = .stopped ∨ phase = .going ∧ (NonspData.newOrder newOrder).unused))
          fun _ => phase = .going ∧ ∀ j < k + 1, (newOrder.line j).olIId ≠ 0) phase := by
    obtain ⟨rfl, earlier⟩ := before
    refine follows_mono (newOrderLine_follows newOrder dNextOId k) fun phase r ended => ?_
    cases r with
    | error e =>
      cases e with
      | rc rc => exact ⟨⟨rc, rfl⟩, ended.imp_right fun unused => ⟨unused.1, k, below, unused.2⟩⟩
      | overrun => exact ended.elim
    | ok a =>
      refine ⟨ended.1, fun j bound => ?_⟩
      obtain lt | rfl := Nat.lt_succ_iff_lt_or_eq.mp bound
      · exact earlier j lt
      · exact ended.2
  apply follows_bind (@follows_loop _ _ _ _ _ _ (fun k phase => phase = NonspPhase.going ∧
      ∀ j < k, (newOrder.line j).olIId ≠ 0)
    (fun phase (e : NonspStop) => (∃ rc, e = .rc rc) ∧
      (phase = .stopped ∨ phase = .going ∧ (NonspData.newOrder newOrder).unused)) _ _ round _
      ⟨rfl, fun j bound => absurd bound (Nat.not_lt_zero j)⟩)
  · rintro phase e ⟨⟨rc, rfl⟩, ended⟩
    exact ended
  · rintro _ _ ⟨rfl, used⟩
    exact ⟨rfl, fun ⟨k, below, unused⟩ => used k below unused⟩

theorem nonsp_follows (data : NonspData) :
    data.nonsp.Follows (noticing data) (Ended data) .going := by
  have noticed {x : NonspProc Unit} (noticing' : Noticing data x) (used : ¬ data.unused) :
      x.Follows (noticing data) (Ended data) .going := by
    refine follows_mono noticing' fun phase r ended => ?_
    cases r with
    | error e =>
      cases e with
      | rc rc => exact .inl ended
      | overrun => exact ended.elim
    | ok a => exact ⟨ended, used⟩
  cases data with
  | integrity wId => exact noticed (integrity_noticing wId) not_false
  | delivery delivery => exact noticed (delivery_noticing delivery) not_false
  | newOrder newOrder => exact newOrder_follows newOrder
  | orderStatus orderStatus =>
    refine follows_mono (orderStatus_follows orderStatus) fun phase r ended => ?_
    cases r with
    | error e =>
      cases e with
      | rc rc => exact .inl ended
      | overrun => exact ⟨ended, not_false⟩
    | ok a => exact ⟨ended, not_false⟩
  | payment payment => exact noticed (payment_noticing payment) not_false
  | stockLevel stockLevel => exact noticed (stockLevel_noticing stockLevel) not_false

end NonspClient

/-! ## Executions -/

section Execution

variable {S : Type} {service : Service S} {data : NonspData} {faults : List (Option Fault)} {db : S}

/-- What the phase says of the answers so far. -/
def NonspPhase.Logged (data : NonspData) (log : List NonspExchange) : NonspPhase → Prop
  | .going => log.any (NonspExchange.stops data) = false ∧ log.any NonspExchange.overruns = false
  | .stopped => log.any (NonspExchange.stops data) = true ∧ log.any NonspExchange.overruns = false
  | .overrun => log.any (NonspExchange.stops data) = false ∧ log.any NonspExchange.overruns = true

theorem NonspPhase.Logged.next {log : List NonspExchange} (before : Logged data log .going)
    (x : NonspExchange) : Logged data (log ++ [x]) (x.phase data) := by
  obtain ⟨goes_on, fits⟩ := before
  unfold NonspExchange.phase
  cases stops : x.stops data with
  | true =>
    have fits' : x.overruns = false := by
      by_contra overruns
      have goes_on : x.stops data = false :=
        NonspExchange.stops_of_overruns (Bool.not_eq_false _ ▸ overruns)
      exact Bool.noConfusion (stops.symm.trans goes_on)
    simp [Logged, List.any_append, goes_on, fits, stops, fits']
  | false =>
    cases overruns : x.overruns <;>
      simp [Logged, List.any_append, goes_on, fits, stops, overruns]

/-- SQLite has a transaction open if the client takes it that it has. -/
def NonspConnection.Healthy (c : NonspConnection S) : Prop :=
  c.inTransaction = true → c.active = true

theorem NonspConnection.begun_active {c : NonspConnection S} (healthy : c.Healthy) :
    c.begun.active = true ∧ c.begun.committed = c.committed := by
  unfold NonspConnection.begun
  split
  · rename_i inTransaction
    exact ⟨healthy inTransaction, rfl⟩
  · exact ⟨rfl, rfl⟩

/-- In a transaction nothing is committed, and it stays one unless a statement fails. -/
theorem Service.answer_healthy (fault : Option Fault) (q : NonspQuery) {c : NonspConnection S}
    (healthy : c.Healthy) : (service.answer fault q c).2.committed = c.committed ∧
      (NonspExchange.failed ⟨q, (service.answer fault q c).1⟩ = false →
        (service.answer fault q c).2.Healthy) := by
  obtain ⟨active, same⟩ := c.begun_active healthy
  have performed (db' : S) : (c.begun.perform db').committed = c.committed ∧
      (c.begun.perform db').Healthy := by
    refine ⟨?_, fun _ => active⟩
    simp only [NonspConnection.perform, active, if_true, same]
  have undone (rollsBack : Bool) :
      (if rollsBack then c.begun.rolledBack else c.begun).committed = c.committed := by
    cases rollsBack <;> exact same
  unfold Service.answer
  split
  · exact ⟨rfl, nofun⟩
  split
  · exact ⟨same, nofun⟩
  dsimp only
  split
  · exact ⟨undone _, nofun⟩
  · rename_i all _ _ _
    split
    · refine ⟨undone _, fun read => ?_⟩
      simp [NonspExchange.failed, all] at read
    · exact (performed _).imp_right fun healthy _ => healthy
  · exact (performed _).imp_right fun healthy _ => healthy
  · exact (performed _).imp_right fun healthy _ => healthy

/-- As long as each failure stops the function, nothing is committed. -/
structure Undisturbed (data : NonspData) (db : S) (s : NonspRun S) (phase : NonspPhase) : Prop where
  logged : phase.Logged data s.log
  committed : s.log.any NonspExchange.unnoticed = false → s.connection.committed = db
  healthy : s.log.any NonspExchange.unnoticed = false → phase = .going → s.connection.Healthy

theorem Undisturbed.on {s : NonspRun S} (h : Undisturbed data db s .going) (q : NonspQuery) :
    Undisturbed data db (service.on q s).2
      (NonspExchange.phase data ⟨q, (service.on q s).1⟩) := by
  have split {s' : NonspRun S} {x : NonspExchange} (log : s'.log = s.log ++ [x])
      (noticed : s'.log.any NonspExchange.unnoticed = false) :
      s.log.any NonspExchange.unnoticed = false ∧ x.unnoticed = false := by
    simpa [log, List.any_append] using noticed
  refine ⟨h.logged.next _, fun noticed => ?_, fun noticed goes_on => ?_⟩
  · obtain ⟨before, -⟩ := split rfl noticed
    exact (service.answer_healthy _ q (h.healthy before rfl)).1.trans (h.committed before)
  · obtain ⟨before, here⟩ := split rfl noticed
    refine (service.answer_healthy _ q (h.healthy before rfl)).2 ?_
    by_contra failed
    have stopped : NonspExchange.phase data ⟨q, (service.on q s).1⟩ = .stopped :=
      if_pos (NonspExchange.stops_of_failed (Bool.not_eq_false _ ▸ failed) here)
    rw [stopped] at goes_on
    cases goes_on

theorem executed (service : Service S) (data : NonspData) (faults : List (Option Fault)) (db : S) :
    ∃ phase, Undisturbed data db
        (exec service.on data.nonsp { connection := .opened db, faults, log := [] }).2 phase ∧
      NonspClient.Ended data phase
        (exec service.on data.nonsp { connection := .opened db, faults, log := [] }).1 := by
  have start : Undisturbed data db { connection := .opened db, faults, log := [] } .going :=
    ⟨⟨rfl, rfl⟩, fun _ => rfl, fun _ _ => nofun⟩
  apply @follows_exec _ _ _ _ _ _ _ service.on (fun s phase => Undisturbed data db s phase) _ _ _ _
    _ (NonspClient.nonsp_follows data) start
  rintro q s _ h rfl
  exact ⟨_, rfl, h.on q⟩

/-- It returns an error where an answer stopped it or an item was an unused one, and OK where none
did, unless it wrote outside its arrays. -/
theorem executeNonsp_result (service : Service S) (data : NonspData)
    (faults : List (Option Fault)) (db : S) :
    let r := service.executeNonsp data faults db
    let stops := (∃ x ∈ r.2.log, x.stops data = true) ∨ data.unused
    (r.1 = some OK ∧ ¬ stops) ∨ (r.1 = some ERROR ∧ stops) ∨ (r.1 = none ∧ ¬ stops) := by
  obtain ⟨phase, undisturbed, ended⟩ := executed service data faults db
  have logged := undisturbed.logged
  unfold Service.executeNonsp
  generalize exec service.on data.nonsp { connection := .opened db, faults, log := [] } = result
    at logged ended
  obtain ⟨r, s⟩ := result
  have goes_on {log : List NonspExchange} (none : log.any (NonspExchange.stops data) = false) :
      ¬ ∃ x ∈ log, x.stops data = true := by
    rintro ⟨x, mem, stops⟩
    exact Bool.noConfusion (none.symm.trans (List.any_eq_true.mpr ⟨x, mem, stops⟩))
  cases r with
  | ok a =>
    obtain ⟨rfl, used⟩ := ended
    exact .inl ⟨rfl, not_or.mpr ⟨goes_on logged.1, used⟩⟩
  | error e =>
    cases e with
    | rc rc =>
      refine .inr (.inl ⟨rfl, ?_⟩)
      obtain rfl | ⟨-, unused⟩ := ended
      · exact .inl (List.any_eq_true.mp logged.1)
      · exact .inr unused
    | overrun =>
      obtain ⟨rfl, used⟩ := ended
      exact .inr (.inr ⟨rfl, not_or.mpr ⟨goes_on logged.1, used⟩⟩)

/-- Without an unnoticed failure nothing is committed. -/
theorem executeNonsp_committed
    (noticed : ∀ x ∈ (service.executeNonsp data faults db).2.log, x.unnoticed = false) :
    (service.executeNonsp data faults db).2.connection.committed = db := by
  obtain ⟨phase, undisturbed, -⟩ := executed service data faults db
  have committed := undisturbed.committed
  unfold Service.executeNonsp at noticed ⊢
  generalize exec service.on data.nonsp { connection := .opened db, faults, log := [] } = result
    at noticed committed ⊢
  obtain ⟨r, s⟩ := result
  have all (noticed : ∀ x ∈ s.log, x.unnoticed = false) : s.connection.committed = db :=
    committed (List.any_eq_false.mpr fun x mem => by simp [noticed x mem])
  cases r with
  | ok a => exact all noticed
  | error e =>
    cases e with
    | rc rc => exact all noticed
    | overrun => exact all noticed

/-! ## Calls -/

namespace NonspConnection

/-- What happens next on a connection. COMMIT and ROLLBACK fail without a transaction, and may fail
with one. -/
inductive Action where
  | execute
  | commit (succeeds : Bool)
  | rollback (succeeds : Bool)
  | disconnect
  | connect (opened : Bool)
  | time (tt : Int)
  | sleep (result : Nanosleep)

variable (service : Service S) (data : NonspData) (faults : List (Option Fault))

/-- An execution that wrote outside an array does not return. -/
def event (c : NonspConnection S) : Action → Option Event
  | .execute => (service.executeNonsp data faults c.committed).1.map fun rc => .executed rc 0
  | .commit succeeds =>
    some (.committed (if c.inTransaction && !(c.active && succeeds) then ERROR else OK))
  | .rollback succeeds =>
    some (.rolledBack
      (if c.inTransaction && !(c.active && succeeds) then ERROR else STATUS_ROLLBACK))
  | .disconnect => some (.disconnected OK)
  | .connect opened => some (.connected (if opened then OK else ERROR))
  | .time tt => some (.time tt)
  | .sleep result => some (.slept result)

def after (c : NonspConnection S) : Action → NonspConnection S
  | .execute => (service.executeNonsp data faults c.committed).2.connection
  | .commit succeeds => if c.active && succeeds then opened c.working else c
  | .rollback succeeds => if c.active && succeeds then opened c.committed else c
  | .disconnect | .connect _ => opened c.committed
  | .time _ | .sleep _ => c

def step (dbc : DbContext) (m : Call × NonspConnection S) (a : Action) :
    Option (Call × NonspConnection S) := do
  let e ← m.2.event service data faults a
  let c ← m.1.step dbc e
  pure (c, m.2.after service data faults a)

/-- A call of `process_transaction`: the status it returns, and the database then. -/
def call (dbc : DbContext) (db : S) (actions : List Action) : Option (Int × S) :=
  match run (step service data faults dbc) (Call.start data.transaction, opened db) actions with
  | some (c, s) =>
    match c.pc with
    | .returned status => some (status, s.committed)
    | _ => none
  | none => none

end NonspConnection

/-- If any statement fails the function returns an error, and no call of `process_transaction` that
executes it changes the database. -/
def ErrorAtomic (service : Service S) (data : NonspData) (faults : List (Option Fault)) (db : S) :
    Prop :=
  (∃ x ∈ (service.executeNonsp data faults db).2.log, x.failed = true) →
    (service.executeNonsp data faults db).1 = some ERROR ∧
      ∀ dbc actions status db', NonspConnection.call service data faults dbc db actions =
        some (status, db') → status ≠ OK ∧ db' = db

/-- A call whose executions return an error and commit nothing. -/
structure Failing (db : S) (c : Call) (s : NonspConnection S) : Prop where
  committed : s.committed = db
  status : c.status ≠ OK
  pc : c.pc ≠ .committing ∧ c.pc ≠ .returned OK

theorem Call.step_committed {dbc : DbContext} {c c' : Call} {status : Int}
    (stepped : c.step dbc (.committed status) = some c') : c.pc = .committing := by
  unfold Call.step at stepped
  cases at' : c.pc with
  | committing => rfl
  | connecting conn =>
    rw [at'] at stepped
    obtain ⟨conn', step, -⟩ := Option.map_eq_some_iff.mp stepped
    cases conn <;> cases step
  | executing | rollingBack | disconnecting | deadline | sleeping | returned =>
    rw [at'] at stepped
    cases stepped

theorem Failing.step {dbc : DbContext} {m m' : Call × NonspConnection S}
    {a : NonspConnection.Action} (h : Failing db m.1 m.2)
    (failed : (service.executeNonsp data faults db).1 = some ERROR)
    (kept : (service.executeNonsp data faults db).2.connection.committed = db)
    (stepped : NonspConnection.step service data faults dbc m a = some m') :
    Failing db m'.1 m'.2 := by
  obtain ⟨e, seen, stepped⟩ := Option.bind_eq_some_iff.mp stepped
  obtain ⟨c, moved, same⟩ := Option.bind_eq_some_iff.mp stepped
  obtain rfl := Option.some_inj.mp same
  have committed := h.committed
  have remains : (m.2.after service data faults a).committed = db := by
    cases a with
    | execute => simpa [NonspConnection.after, committed] using kept
    | commit succeeds =>
      cases seen
      exact absurd (Call.step_committed moved) h.pc.1
    | rollback succeeds =>
      unfold NonspConnection.after
      dsimp only
      split
      · exact committed
      · exact committed
    | disconnect | connect | time | sleep => exact committed
  have step := Call.step_cases moved
  cases step with
  | execute rc rollback at' =>
    cases a with
    | execute =>
      rw [NonspConnection.event, committed, failed] at seen
      obtain ⟨rfl, rfl⟩ : ERROR = rc ∧ 0 = rollback := by simpa using seen
      have error : resultCode m.1.transaction ERROR 0 = ERROR := by
        unfold resultCode
        split
        · rfl
        · rfl
      refine ⟨remains, h.status, ?_⟩
      rw [error]
      exact ⟨nofun, nofun⟩
    | commit | rollback | disconnect | connect | time | sleep => cases seen
  | commit at' => exact absurd at' h.pc.1
  | commitFailed _ at' => exact absurd at' h.pc.1
  | rollback at' => exact ⟨remains, show STATUS_ROLLBACK ≠ OK by decide, nofun, nofun⟩
  | rollbackFailed status at' other =>
    refine ⟨remains, ?_, nofun, nofun⟩
    cases a with
    | rollback succeeds =>
      obtain rfl : (if m.2.inTransaction && !(m.2.active && succeeds) then ERROR
          else STATUS_ROLLBACK) = status := by
        simpa [NonspConnection.event] using seen
      change (if m.2.inTransaction && !(m.2.active && succeeds) then ERROR
        else STATUS_ROLLBACK) ≠ OK
      split
      · decide
      · decide
    | execute =>
      obtain ⟨rc, -, same⟩ := Option.map_eq_some_iff.mp seen
      cases same
    | commit | disconnect | connect | time | sleep => cases seen
  | connected e at' step =>
    obtain ⟨sameStatus, next⟩ := Call.attempt_cases m.1.transaction m.1.txnCount m.1.status
    have status : (Call.attempt m.1.transaction m.1.txnCount m.1.status).status ≠ OK := by
      rw [sameStatus]
      exact h.status
    obtain at' | at' | at' := next
    · exact ⟨remains, status, by rw [at']; exact ⟨nofun, nofun⟩⟩
    · exact ⟨remains, status, by rw [at']; exact ⟨nofun, nofun⟩⟩
    · refine ⟨remains, status, ?_⟩
      rw [at']
      exact ⟨nofun, fun ok => h.status (Pc.returned.inj ok)⟩
  | sleep result pc at' next =>
    refine ⟨remains, h.status, ?_⟩
    obtain rfl | ⟨rest, rfl⟩ := next
    · exact ⟨nofun, nofun⟩
    · exact ⟨nofun, nofun⟩
  | connecting e at' step running => exact ⟨remains, h.status, nofun, nofun⟩
  | disconnect | expire | reconnect | connectFailed => exact ⟨remains, h.status, nofun, nofun⟩

/-- Executions that return an error and commit nothing make a call that does neither. -/
theorem call_unchanged (failed : (service.executeNonsp data faults db).1 = some ERROR)
    (kept : (service.executeNonsp data faults db).2.connection.committed = db) {dbc : DbContext}
    {actions : List NonspConnection.Action} {status : Int} {db' : S}
    (called : NonspConnection.call service data faults dbc db actions = some (status, db')) :
    status ≠ OK ∧ db' = db := by
  unfold NonspConnection.call at called
  split at called
  · rename_i c s ran
    have start : Failing db (Call.start data.transaction) (NonspConnection.opened db) := by
      cases data <;> exact ⟨rfl, show (0 : Int) ≠ OK by decide, nofun, nofun⟩
    have failing : Failing db c s :=
      @run_invariant _ _ _ (fun m : Call × NonspConnection S => Failing db m.1 m.2)
        (fun m a m' stepped h => h.step failed kept stepped) _ _ _ ran start
    split at called
    · rename_i status' at'
      cases called
      refine ⟨fun ok => failing.pc.2 ?_, failing.committed⟩
      rw [at', ok]
    · cases called
  · cases called

/-- A call whose execution returned an error can end with what that committed. -/
theorem exists_call (failed : (service.executeNonsp data faults db).1 = some ERROR) :
    ∃ dbc actions status, NonspConnection.call service data faults dbc db actions =
      some (status, (service.executeNonsp data faults db).2.connection.committed) := by
  have start : Call.start data.transaction =
      { transaction := data.transaction, txnCount := 1, status := 0, pc := .executing } := by
    cases data <;> rfl
  have executed : NonspConnection.step service data faults ⟨1, ⟨0, 0⟩⟩
      (Call.start data.transaction, .opened db) .execute =
        some ({ transaction := data.transaction, txnCount := 1, status := 0, pc := .rollingBack },
          (service.executeNonsp data faults db).2.connection) := by
    have moved (dbc : DbContext) : Call.step dbc
        { transaction := data.transaction, txnCount := 1, status := 0, pc := .executing }
        (.executed ERROR 0) = some
          { transaction := data.transaction, txnCount := 1, status := 0, pc := .rollingBack } := by
      cases data <;> rfl
    simp only [NonspConnection.step, NonspConnection.event, NonspConnection.opened, failed, start,
      Option.map_some, Option.bind_eq_bind, Option.bind_some, moved]
    rfl
  refine ⟨⟨1, ⟨0, 0⟩⟩, ?_⟩
  cases began : (service.executeNonsp data faults db).2.connection.inTransaction with
  | true =>
    -- ROLLBACK fails, and the time for a new connection is over.
    refine ⟨[.execute, .rollback false, .disconnect, .time 2], ERROR, ?_⟩
    simp only [NonspConnection.call, run, executed, Option.bind_some]
    simp only [NonspConnection.step, NonspConnection.event, NonspConnection.after, began,
      Bool.and_false]
    rfl
  | false =>
    refine ⟨[.execute, .rollback false], STATUS_ROLLBACK, ?_⟩
    simp only [NonspConnection.call, run, executed, Option.bind_some]
    simp only [NonspConnection.step, NonspConnection.event, NonspConnection.after, began,
      Bool.and_false]
    rfl

end Execution

/-- A customer with an order of two lines, in a warehouse without orders to deliver. -/
def twoRows : Service Unit where
  perform
    | .orderStatus2 .., s => ([()], s)
    | .orderStatus3 .., s => ([1], s)
    | .orderStatus4 .., s => ([(), ()], s)
    | _, s => ([], s)

end Dbt2
