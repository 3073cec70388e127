import Dbt2.Common
import Dbt2.Lib.Threads
import Dbt2.Lib.Transition

/-!
# The lock of the ODBC backend

Threads that call `_connect_to_db` and `odbc_disconnect`, which both begin by locking
`db_source_mutex`. What ODBC returns decides how they go on: a failure ends a function at once.
Only the end of `odbc_disconnect` unlocks the mutex; `_connect_to_db` never does.

* `OdbcFunction.calls`: what each function asks of ODBC, in order;
* `OdbcBackend.step`: one statement of one thread;
* `lock_discipline_iff`: the mutex is owned by a call that is under way just as long as no call
  returns past the unlock; `Lost`: after that it stays locked.

Handles and what is logged are left out.
-/

namespace Dbt2

open Threads Transition

def SQL_SUCCESS : Int := 0
def SQL_SUCCESS_WITH_INFO : Int := 1

/-- What is called under the lock and decides how the function goes on. -/
inductive OdbcCall where
  | allocDbc
  | connect
  | setAutocommit
  | setTxnIsolation
  | allocStmt
  | initDelivery
  | initIntegrity
  | initNord
  | initOrderStatus
  | initPayment
  | initStockLevel
  | disconnect
  | freeDbc
  | freeStmt
  deriving DecidableEq

inductive OdbcFunction where
  | connectToDb
  | odbcDisconnect
  deriving DecidableEq

/-- A thread, with the call it waits for and those that follow. -/
inductive OdbcThread where
  | idle
  | locking (f : OdbcFunction)
  | calling (f : OdbcFunction) (call : OdbcCall) (rest : List OdbcCall)
  | unlocking

inductive OdbcInput where
  | call (f : OdbcFunction)
  | run
  | returns (rc : Int)

structure OdbcBackend where
  dbSourceMutex : Option Nat
  threads : List OdbcThread
  /-- The calls that have returned, with their threads and codes. -/
  returned : List (Nat × OdbcFunction × Int)

/-- A thread that has locked the mutex in a call that is under way. -/
def OdbcThread.inside : OdbcThread → Bool
  | .calling _ _ _ | .unlocking => true
  | .idle | .locking _ => false

/-- `oracle` is whether the backend is built with `ORACLEODBC`. -/
def OdbcFunction.calls (oracle : Bool) : OdbcFunction → List OdbcCall
  | .connectToDb =>
    [.allocDbc, .connect] ++
      if oracle then
        [.setAutocommit, .initDelivery, .initIntegrity, .initNord, .initOrderStatus, .initPayment,
          .initStockLevel]
      else [.setAutocommit, .setTxnIsolation, .allocStmt]
  | .odbcDisconnect => [.disconnect, .freeDbc] ++ if oracle then [] else [.freeStmt]

/-- Whether the function goes on after a call. With `ORACLEODBC` it does not look at what setting
autocommit returned; and `odbc_disconnect` wants its last call to succeed without information. -/
def OdbcCall.succeeds (oracle : Bool) (rc : Int) : OdbcCall → Bool
  | .setAutocommit => oracle || rc == SQL_SUCCESS || rc == SQL_SUCCESS_WITH_INFO
  | .initDelivery | .initIntegrity | .initNord | .initOrderStatus | .initPayment
  | .initStockLevel => rc == OK
  | .freeStmt => rc == SQL_SUCCESS
  | _ => rc == SQL_SUCCESS || rc == SQL_SUCCESS_WITH_INFO

namespace OdbcBackend

variable (oracle : Bool)

def go (s : OdbcBackend) (i : Nat) (x : OdbcThread) : OdbcBackend :=
  { s with threads := s.threads.set i x }

def finish (s : OdbcBackend) (i : Nat) (f : OdbcFunction) (rc : Int) : OdbcBackend :=
  { s with returned := (i, f, rc) :: s.returned }.go i .idle

/-- On to the next call, or to the end of the function. -/
def advance (s : OdbcBackend) (i : Nat) (f : OdbcFunction) : List OdbcCall → OdbcBackend
  | call :: rest => s.go i (.calling f call rest)
  | [] =>
    match f with
    | .connectToDb => s.finish i f OK
    | .odbcDisconnect => s.go i .unlocking

def stepThread (s : OdbcBackend) (i : Nat) : OdbcThread → OdbcInput → Option OdbcBackend
  | .idle, .call f => some (s.go i (.locking f))
  | .locking f, .run =>
    if s.dbSourceMutex = none then
      some ({ s with dbSourceMutex := some i }.advance i f (f.calls oracle))
    else none
  | .calling f call rest, .returns rc =>
    if call.succeeds oracle rc then some (s.advance i f rest) else some (s.finish i f ERROR)
  | .unlocking, .run => some ({ s with dbSourceMutex := none }.finish i .odbcDisconnect OK)
  | _, _ => none

def step (s : OdbcBackend) (e : Nat × OdbcInput) : Option OdbcBackend := do
  s.stepThread oracle e.1 (← s.threads[e.1]?) e.2

def start (n : Nat) : OdbcBackend where
  dbSourceMutex := none
  threads := List.replicate n .idle
  returned := []

/-- The step does not return past the unlock: `_connect_to_db` does not return, and nothing that
`odbc_disconnect` calls fails. -/
def goesOn (s : OdbcBackend) (e : Nat × OdbcInput) : Bool :=
  match s.threads[e.1]?, e.2 with
  | some (.calling .connectToDb call rest), .returns rc => call.succeeds oracle rc && !rest.isEmpty
  | some (.calling .odbcDisconnect call _), .returns rc => call.succeeds oracle rc
  | _, _ => true

/-- The mutex is owned by a thread, and none is on its way to unlock it. -/
structure Lost (s : OdbcBackend) (i : Nat) : Prop where
  locked : s.dbSourceMutex = some i
  outside : ∀ x ∈ s.threads, x.inside = false

/-- Each thread owns the mutex exactly while it is in a call that has locked it. -/
def Disciplined (s : OdbcBackend) : Prop := Exclusive OdbcThread.inside s.threads s.dbSourceMutex

variable {oracle : Bool} {s s' : OdbcBackend} {i : Nat}

theorem calls_cons (oracle : Bool) (f : OdbcFunction) : ∃ call rest, f.calls oracle = call :: rest := by
  cases f <;> exact ⟨_, _, rfl⟩

/-- A step that returns past the unlock does nothing else. -/
theorem step_past {e : Nat × OdbcInput} (stepped : s.step oracle e = some s')
    (past : s.goesOn oracle e = false) :
    ∃ x f rc, s.threads[e.1]? = some x ∧ x.inside = true ∧ s' = s.finish e.1 f rc := by
  obtain ⟨x, here, moved⟩ := Option.bind_eq_some_iff.mp stepped
  obtain ⟨i, input⟩ := e
  refine ⟨x, ?_⟩
  cases x with
  | calling f call rest =>
    cases input with
    | returns rc =>
      simp only [stepThread] at moved
      split at moved
      · rename_i ok
        cases moved
        cases f with
        | connectToDb =>
          obtain rfl : rest = [] := by simpa [goesOn, here, ok] using past
          exact ⟨_, _, here, rfl, rfl⟩
        | odbcDisconnect => simp [goesOn, here, ok] at past
      · cases moved
        exact ⟨_, _, here, rfl, rfl⟩
    | _ => simp [goesOn, here] at past
  | _ => simp [goesOn, here] at past

theorem Disciplined.step {e : Nat × OdbcInput} (h : s.Disciplined)
    (stepped : s.step oracle e = some s') (on : s.goesOn oracle e = true) : s'.Disciplined := by
  obtain ⟨x, here, moved⟩ := Option.bind_eq_some_iff.mp stepped
  obtain ⟨i, input⟩ := e
  cases x with
  | idle =>
    cases input with
    | call f =>
      cases moved
      exact Exclusive.stay h here rfl
    | _ => cases moved
  | locking f =>
    cases input with
    | run =>
      simp only [stepThread] at moved
      split at moved
      · rename_i free
        cases moved
        obtain ⟨call, rest, calls⟩ := calls_cons oracle f
        rw [Disciplined, free] at h
        rw [calls]
        exact Exclusive.enter h rfl
      · cases moved
    | _ => cases moved
  | calling f call rest =>
    cases input with
    | returns rc =>
      have ok : call.succeeds oracle rc = true := by
        cases f with
        | connectToDb =>
          simp only [goesOn, here, Bool.and_eq_true] at on
          exact on.1
        | odbcDisconnect => simpa [goesOn, here] using on
      simp only [stepThread, ok, if_true] at moved
      cases moved
      cases rest with
      | cons call' rest => exact Exclusive.stay h here rfl
      | nil =>
        cases f with
        | connectToDb => simp [goesOn, here] at on
        | odbcDisconnect => exact Exclusive.stay h here rfl
    | _ => cases moved
  | unlocking =>
    cases input with
    | run =>
      cases moved
      exact Exclusive.leave h here rfl rfl
    | _ => cases moved

/-- A call that returns past the unlock leaves a mutex that nobody will unlock. -/
theorem Disciplined.lost {e : Nat × OdbcInput} (h : s.Disciplined)
    (stepped : s.step oracle e = some s') (past : s.goesOn oracle e = false) :
    s'.Lost e.1 ∧ ¬ s'.Disciplined := by
  obtain ⟨x, f, rc, here, inside, rfl⟩ := step_past stepped past
  have owner := (h e.1 x here).mp inside
  have turned : (s.threads.set e.1 .idle)[e.1]? = some .idle := by
    rw [List.getElem?_set_self', here]
    rfl
  refine ⟨⟨owner, fun y mem => ?_⟩, fun h' => ?_⟩
  · obtain ⟨j, at'⟩ := List.mem_iff_getElem?.mp mem
    by_cases same : e.1 = j
    · subst same
      obtain rfl := Option.some_inj.mp (at'.symm.trans turned)
      rfl
    · change (s.threads.set e.1 .idle)[j]? = some y at at'
      rw [List.getElem?_set_ne same] at at'
      by_contra in'
      have other := (h j y at').mp (by simpa using in')
      exact same (Option.some_inj.mp (owner.symm.trans other))
  · have again := (h' e.1 .idle turned).mpr owner
    cases again

theorem start_disciplined (n : Nat) : (start n).Disciplined := by
  intro i x here
  rw [List.eq_of_mem_replicate (List.mem_of_getElem? here)]
  exact iff_of_false Bool.false_ne_true (Option.some_ne_none i).symm

/-- Whatever ODBC returns to however many threads, each call has released the mutex when it is
over, in all states of a run, exactly if no `_connect_to_db` returns in it, and nothing fails in an
`odbc_disconnect`. -/
theorem lock_discipline_iff {n : Nat} {es : List (Nat × OdbcInput)}
    (ran : run (step oracle) (start n) es = some s) :
    (∀ before u, before <+: es → run (step oracle) (start n) before = some u → u.Disciplined) ↔
      Along (step oracle) (goesOn oracle) (start n) es = true :=
  along_exact (fun _ _ _ stepped h on => h.step stepped on)
    (fun _ _ _ stepped h next => by
      by_contra past
      exact (h.lost stepped (by simpa using past)).2 next)
    (fun _ h => h) ran (start_disciplined n)

/-! ## A lock that was not released -/

theorem Lost.step {e : Nat × OdbcInput} (h : s.Lost i) (stepped : s.step oracle e = some s') :
    s'.Lost i := by
  obtain ⟨x, here, moved⟩ := Option.bind_eq_some_iff.mp stepped
  have outside := h.outside x (List.mem_of_getElem? here)
  have go (y : OdbcThread) (out : y.inside = false) : (s.go e.1 y).Lost i := by
    refine ⟨h.locked, fun z mem => ?_⟩
    obtain there | rfl := List.mem_or_eq_of_mem_set mem
    · exact h.outside z there
    · exact out
  obtain ⟨j, input⟩ := e
  cases x with
  | idle =>
    cases input with
    | call f =>
      cases moved
      exact go (.locking f) rfl
    | _ => cases moved
  | locking f =>
    cases input with
    | run => simp [stepThread, h.locked] at moved
    | _ => cases moved
  | _ => cases outside

/-- Once a call has returned past the unlock, the mutex stays locked and every later call waits
for it. -/
theorem lost_for_ever {e : Nat × OdbcInput} {es : List (Nat × OdbcInput)} {s'' : OdbcBackend}
    (h : s.Disciplined) (past : s.goesOn oracle e = false) (stepped : s.step oracle e = some s')
    (ran : run (step oracle) s' es = some s'') : s''.Lost e.1 :=
  run_invariant (fun _ _ _ stepped h => Lost.step h stepped) ran (h.lost stepped past).1

/-- A connection is closed while another thread waits for the mutex. -/
def disconnects : List (Nat × OdbcInput) :=
  [(0, .call .odbcDisconnect), (0, .run), (1, .call .odbcDisconnect),
    (0, .returns SQL_SUCCESS), (0, .returns SQL_SUCCESS_WITH_INFO), (0, .returns SQL_SUCCESS),
    (0, .run), (1, .run)]

theorem lock_discipline_disconnects : ∃ s,
    run (step false) (start 2) disconnects = some s ∧ s.dbSourceMutex = some 1 ∧
      ∀ before u, before <+: disconnects →
        run (step false) (start 2) before = some u → u.Disciplined :=
  ⟨_, rfl, rfl, (lock_discipline_iff rfl).mpr rfl⟩

/-- A thread connects, and all is well. -/
def connects : List (Nat × OdbcInput) :=
  [(0, .call .connectToDb), (0, .run), (0, .returns SQL_SUCCESS), (0, .returns SQL_SUCCESS),
    (0, .returns SQL_SUCCESS), (0, .returns SQL_SUCCESS), (0, .returns SQL_SUCCESS),
    (1, .call .connectToDb)]

/-- The first connection is the last: its mutex stays locked, and no second call gets it. -/
theorem lock_not_released : ∃ s,
    run (step false) (start 2) connects = some s ∧ s.returned = [(0, .connectToDb, OK)] ∧
      s.dbSourceMutex = some 0 ∧ ¬ s.Disciplined ∧ s.step false (1, .run) = none := by
  refine ⟨_, rfl, rfl, rfl, fun h => ?_, rfl⟩
  have owns := (h 0 .idle rfl).mpr rfl
  cases owns

end OdbcBackend

end Dbt2
