import Dbt2.Common
import Dbt2.Lib.Transition

/-!
# Executing a transaction

`process_transaction` and `connect_to_db` as machines. Whatever they ask of the backend, the clock
and `nanosleep` is answered by an event, so that a run is one schedule of answers.

* `Connect`: the loop that retries a connection until it succeeds or the deadline has passed;
* `Call`: one call of `process_transaction`, which executes at most twice.
-/

namespace Dbt2

def DELIVERY : Int := 0
def NEW_ORDER : Int := 1
def ORDER_STATUS : Int := 2
def PAYMENT : Int := 3
def STOCK_LEVEL : Int := 4
def INTEGRITY : Int := 10

structure Timespec where
  tvSec : Int
  tvNsec : Int
  deriving DecidableEq

/-- How a call of `nanosleep` ends. -/
inductive Nanosleep where
  | done
  | interrupted (rem : Timespec)
  | failed
  deriving DecidableEq

/-- An answer to what the program asked last. -/
inductive Event where
  | executed (rc rollback : Int)
  | committed (status : Int)
  | rolledBack (status : Int)
  | disconnected (rc : Int)
  | connected (rc : Int)
  | time (tt : Int)
  | slept (result : Nanosleep)
  deriving DecidableEq

/-- What the functions read of a `db_context_t`. -/
structure DbContext where
  stopTime : Int
  tsRetry : Timespec
  deriving DecidableEq

def DbContext.expired (dbc : DbContext) (tt : Int) : Bool :=
  dbc.stopTime ≠ 0 ∧ dbc.stopTime < tt

/-- The remaining time is slept again after a signal; after an error, all of it. -/
def sleepAgain (ts : Timespec) : Nanosleep → Option Timespec
  | .done => none
  | .interrupted rem => some rem
  | .failed => some ts

/-! ## connect_to_db -/

inductive Connect where
  | deadline
  | connecting
  | sleeping (ts : Timespec)
  | returned (rc : Int)
  deriving DecidableEq

def Connect.step (dbc : DbContext) : Connect → Event → Option Connect
  | .deadline, .time tt => some (if dbc.expired tt then .returned ERROR else .connecting)
  | .connecting, .connected rc => some (if rc = OK then .returned OK else .sleeping dbc.tsRetry)
  | .sleeping ts, .slept result => some <|
    match sleepAgain ts result with
    | some rest => .sleeping rest
    | none => .deadline
  | _, _ => none

/-! ## process_transaction -/

inductive Pc where
  | executing
  | committing
  | rollingBack
  | disconnecting
  | deadline
  | connecting (c : Connect)
  | sleeping (ts : Timespec)
  | returned (status : Int)
  deriving DecidableEq

structure Call where
  transaction : Int
  txnCount : Nat
  status : Int
  pc : Pc
  deriving DecidableEq

def knownTransaction (transaction : Int) : Bool :=
  transaction ∈ [INTEGRITY, DELIVERY, NEW_ORDER, ORDER_STATUS, PAYMENT, STOCK_LEVEL]

/-- The head of the loop, with `txn_count` already counted up by its test. -/
def Call.attempt (transaction : Int) (txnCount : Nat) (status : Int) : Call :=
  if txnCount < 2 then
    { transaction, txnCount := txnCount + 1, status
      pc := if knownTransaction transaction then .executing else .returned ERROR }
  else { transaction, txnCount := txnCount + 1, status, pc := .returned status }

def Call.start (transaction : Int) : Call := Call.attempt transaction 0 0

/-- A New-Order whose rollback flag is set counts as failed. -/
def resultCode (transaction rc rollback : Int) : Int :=
  if transaction = NEW_ORDER then (if rc ≠ ERROR ∧ rollback = 0 then rc else ERROR) else rc

def Call.step (dbc : DbContext) (c : Call) (e : Event) : Option Call :=
  match c.pc, e with
  | .executing, .executed rc rollback =>
    let rc := resultCode c.transaction rc rollback
    some { c with pc := if rc = OK then .committing else if rc = ERROR then .rollingBack
                        else .disconnecting }
  | .committing, .committed status =>
    some { c with status, pc := if status = OK then .returned status else .disconnecting }
  | .rollingBack, .rolledBack status =>
    some { c with status, pc := if status = STATUS_ROLLBACK then .returned status
                                else .disconnecting }
  | .disconnecting, .disconnected _ => some { c with pc := .deadline }
  | .deadline, .time tt =>
    some { c with pc := if dbc.expired tt then .returned ERROR else .connecting .deadline }
  | .connecting conn, e =>
    (conn.step dbc e).map fun conn' =>
      match conn' with
      | .returned rc => if rc = OK then Call.attempt c.transaction c.txnCount c.status
                        else { c with pc := .sleeping dbc.tsRetry }
      | conn' => { c with pc := .connecting conn' }
  | .sleeping ts, .slept result => some <|
    match sleepAgain ts result with
    | some rest => { c with pc := .sleeping rest }
    | none => { c with pc := .deadline }
  | _, _ => none

/-! ## Steps, case by case -/

/-- Where an execution with result `rc` leads. -/
def afterExecute (rc : Int) : Pc :=
  if rc = OK then .committing else if rc = ERROR then .rollingBack else .disconnecting

theorem afterExecute_failed {rc : Int} (failed : rc ≠ OK) :
    afterExecute rc = .rollingBack ∨ afterExecute rc = .disconnecting := by
  unfold afterExecute
  rw [if_neg failed]
  split
  · exact .inl rfl
  · exact .inr rfl

/-- What a step can do. -/
inductive Call.Step (dbc : DbContext) : Call → Event → Call → Prop
  | execute {c : Call} (rc rollback : Int) (at' : c.pc = .executing) :
      Step dbc c (.executed rc rollback)
        { c with pc := afterExecute (resultCode c.transaction rc rollback) }
  | commit {c : Call} (at' : c.pc = .committing) :
      Step dbc c (.committed OK) { c with status := OK, pc := .returned OK }
  | commitFailed {c : Call} (status : Int) (at' : c.pc = .committing) (failed : status ≠ OK) :
      Step dbc c (.committed status) { c with status, pc := .disconnecting }
  | rollback {c : Call} (at' : c.pc = .rollingBack) :
      Step dbc c (.rolledBack STATUS_ROLLBACK)
        { c with status := STATUS_ROLLBACK, pc := .returned STATUS_ROLLBACK }
  | rollbackFailed {c : Call} (status : Int) (at' : c.pc = .rollingBack)
      (failed : status ≠ STATUS_ROLLBACK) :
      Step dbc c (.rolledBack status) { c with status, pc := .disconnecting }
  | disconnect {c : Call} (rc : Int) (at' : c.pc = .disconnecting) :
      Step dbc c (.disconnected rc) { c with pc := .deadline }
  | expire {c : Call} (tt : Int) (at' : c.pc = .deadline) (late : dbc.expired tt = true) :
      Step dbc c (.time tt) { c with pc := .returned ERROR }
  | reconnect {c : Call} (tt : Int) (at' : c.pc = .deadline) (early : dbc.expired tt = false) :
      Step dbc c (.time tt) { c with pc := .connecting .deadline }
  | connected {c : Call} {conn : Connect} (e : Event) (at' : c.pc = .connecting conn)
      (step : conn.step dbc e = some (.returned OK)) :
      Step dbc c e (Call.attempt c.transaction c.txnCount c.status)
  | connectFailed {c : Call} {conn : Connect} (e : Event) (rc : Int)
      (at' : c.pc = .connecting conn) (failed : rc ≠ OK)
      (step : conn.step dbc e = some (.returned rc)) :
      Step dbc c e { c with pc := .sleeping dbc.tsRetry }
  | connecting {c : Call} {conn conn' : Connect} (e : Event) (at' : c.pc = .connecting conn)
      (step : conn.step dbc e = some conn') (running : ∀ rc, conn' ≠ .returned rc) :
      Step dbc c e { c with pc := .connecting conn' }
  | sleep {c : Call} {ts : Timespec} (result : Nanosleep) (pc : Pc) (at' : c.pc = .sleeping ts)
      (next : pc = .deadline ∨ ∃ rest, pc = .sleeping rest) :
      Step dbc c (.slept result) { c with pc }

theorem Call.step_cases {dbc : DbContext} {c c' : Call} {e : Event}
    (stepped : c.step dbc e = some c') : Call.Step dbc c e c' := by
  unfold Call.step at stepped
  split at stepped
  case h_1 at' => obtain rfl := Option.some.inj stepped; exact .execute _ _ at'
  case h_2 status at' =>
    obtain rfl := Option.some.inj stepped
    by_cases ok : status = OK
    · subst ok; exact .commit at'
    · rw [if_neg ok]; exact .commitFailed status at' ok
  case h_3 status at' =>
    obtain rfl := Option.some.inj stepped
    by_cases done : status = STATUS_ROLLBACK
    · subst done; exact .rollback at'
    · rw [if_neg done]; exact .rollbackFailed status at' done
  case h_4 rc at' => obtain rfl := Option.some.inj stepped; exact .disconnect rc at'
  case h_5 tt at' =>
    obtain rfl := Option.some.inj stepped
    cases late : dbc.expired tt
    · exact .reconnect tt at' late
    · exact .expire tt at' late
  case h_6 conn at' =>
    obtain ⟨conn', step, same⟩ := Option.map_eq_some_iff.mp stepped
    split at same
    case h_1 rc =>
      by_cases ok : rc = OK
      · subst ok; obtain rfl := same; exact .connected _ at' step
      · rw [if_neg ok] at same; obtain rfl := same; exact .connectFailed _ rc at' ok step
    case h_2 running => obtain rfl := same; exact .connecting _ at' step fun rc h => running rc h
  case h_7 ts result at' =>
    obtain rfl := Option.some.inj stepped
    cases again : sleepAgain ts result with
    | none => exact .sleep result _ at' (.inl rfl)
    | some rest => exact .sleep result _ at' (.inr ⟨rest, rfl⟩)
  case h_8 => cases stepped

theorem resultCode_ok {transaction rc flag : Int} (ok : resultCode transaction rc flag = OK) :
    rc = OK := by
  unfold resultCode at ok
  split at ok
  · split at ok
    · exact ok
    · cases ok
  · exact ok

theorem resultCode_newOrder {rc flag : Int} (ok : resultCode NEW_ORDER rc flag = OK) :
    rc = OK ∧ flag = 0 := by
  rw [resultCode, if_pos rfl] at ok
  split at ok
  · next succeeded => exact ⟨ok, succeeded.2⟩
  · cases ok

theorem Call.attempt_cases (transaction : Int) (txnCount : Nat) (status : Int) :
    (Call.attempt transaction txnCount status).status = status ∧
      ((Call.attempt transaction txnCount status).pc = .executing ∨
        (Call.attempt transaction txnCount status).pc = .returned ERROR ∨
        (Call.attempt transaction txnCount status).pc = .returned status) := by
  unfold Call.attempt
  split
  · cases knownTransaction transaction <;> simp
  · simp

theorem Call.attempt_transaction (transaction : Int) (txnCount : Nat) (status : Int) :
    (Call.attempt transaction txnCount status).transaction = transaction := by
  unfold Call.attempt
  split <;> rfl

theorem Call.step_transaction {dbc : DbContext} {c c' : Call} {e : Event}
    (stepped : c.step dbc e = some c') : c'.transaction = c.transaction := by
  cases Call.step_cases stepped with
  | connected => exact Call.attempt_transaction _ _ _
  | execute | commit | commitFailed | rollback | rollbackFailed | disconnect | expire | reconnect
  | connectFailed | connecting | sleep => rfl

end Dbt2
