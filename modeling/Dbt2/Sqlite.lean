import Dbt2.Backends
import Dbt2.ProcessTransaction

/-!
# One call on SQLite

`process_transaction` with a SQLite database of its own. The first statement of an execution
begins a transaction, whose changes COMMIT keeps and ROLLBACK or a closed connection drops. Both
commands and a new connection may fail. `call_committed` says that a call commits one execution or
leaves the database as it was.
-/

namespace Dbt2

open Transition

variable {S : Type}

/-- A database and what a connection has changed in it. -/
structure Sqlite (S : Type) where
  db : S
  working : S
  inTransaction : Bool

namespace Sqlite

def opened (db : S) : Sqlite S := { db, working := db, inTransaction := false }

/-- What happens next on the connection; an execution that fails has written `left`. -/
inductive Action (S : Type) where
  | execute (left : S)
  | commit (done : Bool)
  | rollback (done : Bool)
  | disconnect
  | connect (opened : Bool)
  | time (tt : Int)
  | sleep (result : Nanosleep)

def commitTransactionSqlite (inTransaction done : Bool) : Int :=
  if inTransaction && !done then ERROR else OK

def rollbackTransactionSqlite (inTransaction done : Bool) : Int :=
  if inTransaction && !done then ERROR else STATUS_ROLLBACK

variable (execute : S → Except Failure S)

def event (s : Sqlite S) : Action S → Event
  | .execute _ =>
    match execute s.working with
    | .ok _ => .executed OK 0
    | .error e => .executed e.rc e.rollback
  | .commit done => .committed (commitTransactionSqlite s.inTransaction done)
  | .rollback done => .rolledBack (rollbackTransactionSqlite s.inTransaction done)
  | .disconnect => .disconnected OK
  | .connect opened => .connected (if opened then OK else ERROR)
  | .time tt => .time tt
  | .sleep result => .slept result

def after (s : Sqlite S) : Action S → Sqlite S
  | .execute left =>
    match execute s.working with
    | .ok result => { s with working := result, inTransaction := true }
    | .error _ => { s with working := left, inTransaction := true }
  | .commit done => if s.inTransaction && done then opened s.working else s
  | .rollback done => if s.inTransaction && done then opened s.db else s
  | .disconnect => { s with working := s.db }
  | .connect _ => opened s.db
  | .time _ | .sleep _ => s

def step (dbc : DbContext) (m : Call × Sqlite S) (a : Action S) : Option (Call × Sqlite S) :=
  (m.1.step dbc (m.2.event execute a)).map fun c => (c, m.2.after execute a)

/-- A whole call: the status it returns, and the database then. -/
def call (dbc : DbContext) (transaction : Int) (db : S) (actions : List (Action S)) :
    Option (Int × S) :=
  match run (step execute dbc) (Call.start transaction, opened db) actions with
  | some (c, s) =>
    match c.pc with
    | .returned status => some (status, s.db)
    | _ => none
  | none => none

/-! ## What a call keeps -/

/-- What is committed and what is not, at each point of a call that found `db`. -/
def At (db : S) (s : Sqlite S) : Pc → Prop
  | .executing | .deadline | .connecting _ | .sleeping _ => s.db = db ∧ s.working = db
  | .committing => s.db = db ∧ s.inTransaction = true ∧ execute db = .ok s.working
  | .rollingBack | .disconnecting => s.db = db
  | .returned status => if status = OK then execute db = .ok s.db else s.db = db

structure Holds (db : S) (c : Call) (s : Sqlite S) : Prop where
  at' : At execute db s c.pc
  status : c.pc ≠ .returned OK → c.status ≠ OK

variable {execute} {db : S} {dbc : DbContext} {c c' : Call} {s : Sqlite S} {a : Action S}

theorem At.committed {pc : Pc} (h : At execute db s pc) (notOk : pc ≠ .returned OK) : s.db = db := by
  cases pc with
  | executing | deadline | connecting | sleeping | committing => exact h.1
  | rollingBack | disconnecting => exact h
  | returned status =>
    have failed : status ≠ OK := fun ok => notOk (by rw [ok])
    simpa [At, failed] using h

/-- Back at the head of the loop, with the failure's status. -/
theorem Holds.attempt {status : Int} (same : s.db = db ∧ s.working = db) (failed : status ≠ OK)
    (transaction : Int) (txnCount : Nat) :
    Holds execute db (Call.attempt transaction txnCount status) s := by
  obtain ⟨sameStatus, at' | at' | at'⟩ := Call.attempt_cases transaction txnCount status
  · exact ⟨by rw [at']; exact same, by rw [sameStatus]; exact fun _ => failed⟩
  · exact ⟨by rw [at']; exact same.1, by rw [sameStatus]; exact fun _ => failed⟩
  · exact ⟨by rw [at', At, if_neg failed]; exact same.1, by rw [sameStatus]; exact fun _ => failed⟩

theorem At.failed {rc : Int} (failed : rc ≠ OK) (same : s.db = db) :
    At execute db s (afterExecute rc) := by
  obtain at' | at' := afterExecute_failed failed
  · rw [at']
    exact same
  · rw [at']
    exact same

theorem Holds.executed (fails : ∀ db e, execute db = .error e → e.rc ≠ OK)
    (h : Holds execute db c s) (at' : c.pc = .executing) {rc rollback : Int}
    (seen : s.event execute a = .executed rc rollback) :
    Holds execute db { c with pc := afterExecute (resultCode c.transaction rc rollback) }
      (s.after execute a) := by
  have failed := h.status (by simp [at'])
  have held := h.at'
  rw [at'] at held
  obtain ⟨same, working⟩ := held
  refine ⟨?_, fun _ => failed⟩
  cases a with
  | execute left =>
    simp only [event, after, working] at seen ⊢
    cases ran : execute db with
    | ok result =>
      by_cases ok : resultCode c.transaction rc rollback = OK
      · rw [ok]
        exact ⟨same, rfl, ran⟩
      · exact .failed ok same
    | error e =>
      rw [ran] at seen
      obtain ⟨rfl, rfl⟩ : e.rc = rc ∧ e.rollback = rollback := by simpa using seen
      exact .failed (fun ok => fails db e ran (resultCode_ok ok)) same
  | commit | rollback | disconnect | connect | time | sleep => cases seen

/-- What the reconnection asks for leaves the database without changes. -/
theorem reconnecting {conn conn' : Connect}
    (stepped : conn.step dbc (s.event execute a) = some conn')
    (same : s.db = db ∧ s.working = db) :
    (s.after execute a).db = db ∧ (s.after execute a).working = db := by
  cases a with
  | connect => exact ⟨same.1, same.1⟩
  | time | sleep => exact same
  | execute left =>
    simp only [event] at stepped
    split at stepped
    · cases conn <;> cases stepped
    · cases conn <;> cases stepped
  | commit | rollback | disconnect => cases conn <;> cases stepped

theorem waiting (seen : (∃ tt, s.event execute a = .time tt) ∨
    ∃ result, s.event execute a = .slept result) (same : s.db = db ∧ s.working = db) :
    (s.after execute a).db = db ∧ (s.after execute a).working = db := by
  cases a with
  | time | sleep => exact same
  | execute left =>
    simp only [event] at seen
    split at seen <;> simp at seen
  | commit | rollback | disconnect | connect => simp [event] at seen

theorem Holds.committed (h : Holds execute db c s) (at' : c.pc = .committing) {status : Int}
    (seen : s.event execute a = .committed status) :
    (status = OK → execute db = .ok (s.after execute a).db) ∧
      (status ≠ OK → (s.after execute a).db = db) := by
  have held := h.at'
  rw [at'] at held
  obtain ⟨same, inTransaction, ran⟩ := held
  cases a with
  | commit done =>
    obtain rfl : commitTransactionSqlite s.inTransaction done = status := by
      simpa [event] using seen
    cases done with
    | true => simpa [after, commitTransactionSqlite, inTransaction, opened, OK] using ran
    | false => simpa [after, commitTransactionSqlite, inTransaction, OK, ERROR] using same
  | execute left =>
    simp only [event] at seen
    split at seen <;> cases seen
  | rollback | disconnect | connect | time | sleep => cases seen

theorem Holds.rolledBack (same : s.db = db) {status : Int}
    (seen : s.event execute a = .rolledBack status) : (s.after execute a).db = db ∧ status ≠ OK := by
  cases a with
  | rollback done =>
    obtain rfl : rollbackTransactionSqlite s.inTransaction done = status := by
      simpa [event] using seen
    cases ready : s.inTransaction && done with
    | true =>
      simp_all [after, opened, rollbackTransactionSqlite, STATUS_ROLLBACK, OK]
    | false =>
      refine ⟨by simpa [after, ready] using same, ?_⟩
      unfold rollbackTransactionSqlite
      split <;> decide
  | execute left =>
    simp only [event] at seen
    split at seen <;> cases seen
  | commit | disconnect | connect | time | sleep => cases seen

theorem Holds.step (fails : ∀ db e, execute db = .error e → e.rc ≠ OK)
    (h : Holds execute db c s) (stepped : c.step dbc (s.event execute a) = some c') :
    Holds execute db c' (s.after execute a) := by
  have step := Call.step_cases stepped
  generalize seen : s.event execute a = e at step
  have held := h.at'
  have failed (running : c.pc ≠ .returned OK) := h.status running
  cases step with
  | execute rc rollback at' => exact h.executed fails at' seen
  | commit at' => exact ⟨(h.committed at' seen).1 rfl, fun running => absurd rfl running⟩
  | commitFailed status at' notOk => exact ⟨(h.committed at' seen).2 notOk, fun _ => notOk⟩
  | rollback at' =>
    rw [at'] at held
    obtain ⟨same, notOk⟩ := Holds.rolledBack held seen
    exact ⟨by rw [At, if_neg notOk]; exact same, fun _ => notOk⟩
  | rollbackFailed status at' other =>
    rw [at'] at held
    obtain ⟨same, notOk⟩ := Holds.rolledBack held seen
    exact ⟨same, fun _ => notOk⟩
  | disconnect rc at' =>
    rw [at'] at held
    refine ⟨?_, fun _ => failed (by simp [at'])⟩
    cases a with
    | disconnect => exact ⟨held, held⟩
    | execute left =>
      simp only [event] at seen
      split at seen <;> cases seen
    | commit | rollback | connect | time | sleep => cases seen
  | expire tt at' late =>
    rw [at'] at held
    obtain ⟨same, -⟩ := waiting (.inl ⟨tt, seen⟩) held
    exact ⟨same, fun _ => failed (by simp [at'])⟩
  | reconnect tt at' early =>
    rw [at'] at held
    exact ⟨waiting (.inl ⟨tt, seen⟩) held, fun _ => failed (by simp [at'])⟩
  | connected e at' step =>
    rw [at'] at held
    exact .attempt (reconnecting (seen ▸ step) held) (failed (by simp [at'])) _ _
  | connectFailed e rc at' _ step =>
    rw [at'] at held
    exact ⟨reconnecting (seen ▸ step) held, fun _ => failed (by simp [at'])⟩
  | connecting e at' step running =>
    rw [at'] at held
    exact ⟨reconnecting (seen ▸ step) held, fun _ => failed (by simp [at'])⟩
  | sleep result pc at' next =>
    rw [at'] at held
    refine ⟨?_, fun _ => failed (by simp [at'])⟩
    obtain rfl | ⟨rest, rfl⟩ := next
    · exact waiting (.inr ⟨result, seen⟩) held
    · exact waiting (.inr ⟨result, seen⟩) held

/-- A call commits one execution and returns OK, or it does not and leaves the database as it
was. -/
theorem call_committed (fails : ∀ db e, execute db = .error e → e.rc ≠ OK) {transaction : Int}
    {actions : List (Action S)} {status : Int} {db' : S}
    (called : call execute dbc transaction db actions = some (status, db')) :
    (status = OK → execute db = .ok db') ∧ (status ≠ OK → db' = db) := by
  unfold call at called
  split at called
  · rename_i c s ran
    have unfinished : (0 : Int) ≠ OK := by decide
    have start : Holds execute db (Call.start transaction) (opened db) :=
      Holds.attempt (s := opened db) ⟨rfl, rfl⟩ unfinished transaction 0
    have preserved (m : Call × Sqlite S) (a : Action S) (m' : Call × Sqlite S)
        (stepped : step execute dbc m a = some m') (h : Holds execute db m.1 m.2) :
        Holds execute db m'.1 m'.2 := by
      obtain ⟨c', accepted, rfl⟩ := Option.map_eq_some_iff.mp stepped
      exact h.step fails accepted
    have held := (run_invariant preserved ran start).at'
    split at called
    · rename_i status' at'
      cases called
      rw [at'] at held
      constructor
      · intro ok
        rwa [At, if_pos ok] at held
      · intro failed
        rwa [At, if_neg failed] at held
    · cases called
  · cases called

end Sqlite

/-! ## Runs of calls -/

/-- A transaction that changes orders. -/
inductive Request where
  | newOrder (data : NewOrderData)
  | delivery (data : DeliveryData)

namespace Request

def transaction : Request → Int
  | .newOrder _ => NEW_ORDER
  | .delivery _ => DELIVERY

def execute : Request → Database → Except Failure Database
  | .newOrder data, db => (Nonsp.executeNewOrderNonsp data db).map Prod.fst
  | .delivery data, db => (Nonsp.executeDeliveryNonsp data db).map Prod.fst

theorem execute_fails (r : Request) (db : Database) (e : Failure)
    (failed : r.execute db = .error e) : e.rc ≠ OK := by
  have rc : e.rc = ERROR := by
    cases r with
    | newOrder data =>
      simp only [execute, Nonsp.executeNewOrderNonsp] at failed
      cases ran : Nonsp.newOrderNonsp data db with
      | ok result => simp [ran, Except.mapError, Except.map] at failed
      | error e' =>
        obtain rfl : { e' with rc := ERROR } = e := by
          simpa [ran, Except.mapError, Except.map] using failed
        rfl
    | delivery data =>
      simp only [execute, Nonsp.executeDeliveryNonsp] at failed
      cases ran : Nonsp.deliveryNonsp data db with
      | ok result => simp [ran, Except.mapError, Except.map] at failed
      | error e' =>
        obtain rfl : { e' with rc := ERROR } = e := by
          simpa [ran, Except.mapError, Except.map] using failed
        rfl
  rw [rc]
  decide

end Request

/-- One call of `process_transaction` in a run of calls, with what happens on its connection. -/
def nonspStep (dbc : DbContext) (db : Database)
    (r : Request × List (Sqlite.Action Database)) : Option Database :=
  (Sqlite.call r.1.execute dbc r.1.transaction db r.2).map Prod.snd

theorem nonspStep_cases {dbc : DbContext} {db db' : Database}
    {r : Request × List (Sqlite.Action Database)} (stepped : nonspStep dbc db r = some db') :
    db' = db ∨ r.1.execute db = .ok db' := by
  obtain ⟨⟨status, t⟩, called, rfl⟩ := Option.map_eq_some_iff.mp stepped
  obtain ⟨committed, unchanged⟩ := Sqlite.call_committed r.1.execute_fails called
  by_cases ok : status = OK
  · exact .inr (committed ok)
  · exact .inl (unchanged ok)

theorem Request.execute_newOrder {data : NewOrderData} {db db' : Database}
    (h : (Request.newOrder data).execute db = .ok db') :
    ∃ r, Dbt2.newOrder Nonsp.newOrderCode data db = .ok (db', r) := by
  obtain ⟨⟨t, r⟩, ran, rfl⟩ := Fallible.map_eq_ok.mp h
  exact ⟨r, Fallible.mapError_eq_ok.mp ran⟩

theorem Request.execute_delivery {data : DeliveryData} {db db' : Database}
    (h : (Request.delivery data).execute db = .ok db') :
    ∃ rs, Dbt2.delivery Nonsp.deliveryCode data db = .ok (db', rs) := by
  obtain ⟨⟨t, rs⟩, ran, rfl⟩ := Fallible.map_eq_ok.mp h
  exact ⟨rs, Fallible.mapError_eq_ok.mp ran⟩

end Dbt2
