import Dbt2.PgClients
import Dbt2.HandleDiscipline

/-!
# Lost connections

`process_transaction` with a connection to PostgreSQL or CockroachDB that may be lost at any query.
Both backends report a loss at COMMIT, and then a new connection is made. A loss before that ends
in ROLLBACK, which fails too, and only libpq's says so.

* `Checked`: an error ends a function with a code for it;
* `PgCall.step`: a call with its connection;
* `recovered`: when a call that returns in time leaves a connection that is open.
-/

namespace Dbt2

open Prog Transition

/-! ## Functions that check each result -/

/-- After an error nothing more is asked. -/
def checking : Protocol PgQuery (fun _ => PGresult) Bool where
  allowed failed _ := failed = false
  moves _ _ res failed := failed = res.isError

/-- An error ends the function with one of the `codes`. -/
abbrev Checked {A : Type} (codes : Int → Prop) (x : PgProc A) : Prop :=
  x.Follows checking (fun failed => Either (fun e => codes e.rc) fun _ => failed = false) false

section Checked

variable {A B : Type} {codes : Int → Prop} {failed : PGresult → Failure} {q : PgQuery}

theorem checked_pure (a : A) : Checked codes (pure a : PgProc A) := rfl

theorem Checked.bind {x : PgProc A} {f : A → PgProc B} (first : Checked codes x)
    (rest : ∀ a, Checked codes (f a)) : Checked codes (x >>= f) := by
  apply follows_bind first
  · exact fun _ _ code => code
  · rintro _ a rfl
    exact rest a

theorem Checked.loop {body : Nat → PgProc A} (round : ∀ k, Checked codes (body k)) (n : Nat) :
    Checked codes (loop body n) := by
  have round (k : Nat) (failed : Bool) (_ : k < n) (here : failed = false) :
      (body k).Follows checking
        (fun failed => Either (fun e => codes e.rc) fun _ => failed = false) failed := by
    subst here
    exact round k
  exact @follows_loop _ _ _ _ _ _ (fun _ failed => failed = false)
    (fun _ (e : Failure) => codes e.rc) _ _ round _ rfl

theorem checked_command (fails : ∀ res, codes (failed res).rc) :
    Checked codes (command failed q) := by
  refine ⟨rfl, ?_⟩
  rintro res _ rfl
  cases res with
  | commandOk => rfl
  | tuplesOk tuples => exact fails _
  | error sqlstate message => exact fails _

theorem checked_tuples (fails : ∀ res, codes (failed res).rc) :
    Checked codes (tuples failed q) := by
  refine ⟨rfl, ?_⟩
  rintro res _ rfl
  cases res with
  | commandOk => exact fails _
  | tuplesOk tuples => rfl
  | error sqlstate message => exact fails _

end Checked

/-- The codes that a backend's functions return for an error. -/
def PgBackend.codes : PgBackend → Int → Prop
  | libpq, rc => rc = ERROR ∨ rc = RECONNECT
  | cockroach, rc => rc = ERROR

theorem Libpq.execute_checked (rollback : Int) (data : TransactionData) :
    Checked PgBackend.libpq.codes (execute rollback data) := by
  have fails (res : PGresult) : PgBackend.libpq.codes (failed rollback res).rc := by
    unfold failed
    cases res.noConnection
    · exact .inl rfl
    · exact .inr rfl
  have newOrderFails (res : PGresult) : PgBackend.libpq.codes (newOrderFailed rollback res).rc := by
    unfold newOrderFailed
    split
    · exact .inl rfl
    · split
      · exact .inr rfl
      · exact .inl rfl
  have block (q : PgQuery) : Checked PgBackend.libpq.codes (do
      command (failed rollback) .begin
      let _ ← tuples (failed rollback) q
      pure rollback) :=
    (checked_command fails).bind fun _ => (checked_tuples fails).bind fun _ => checked_pure _
  cases data with
  | integrity => exact checked_pure _
  | newOrder oOlCnt =>
    exact (checked_command fails).bind fun _ =>
      (checked_tuples newOrderFails).bind fun _ => checked_pure _
  | delivery => exact block _
  | orderStatus cId => exact block _
  | payment cId => exact block _
  | stockLevel => exact block _

namespace Cockroach

variable {rollback : Int} {q : PgQuery}

theorem command_checked : Checked PgBackend.cockroach.codes (command (failed rollback) q) :=
  checked_command fun _ => rfl

theorem tuples_checked : Checked PgBackend.cockroach.codes (tuples (failed rollback) q) :=
  checked_tuples fun _ => rfl

theorem someTuples_checked : Checked PgBackend.cockroach.codes (someTuples rollback q) := by
  apply tuples_checked.bind
  intro res
  by_cases none : res = []
  · rw [if_pos none]
    exact rfl
  · rw [if_neg none]
    exact checked_pure _

theorem deliveryDistrict_checked (i : Nat) :
    Checked PgBackend.cockroach.codes (deliveryDistrict rollback i) := by
  apply tuples_checked.bind
  intro oldest
  by_cases none : oldest = []
  · rw [if_pos none]
    exact checked_pure _
  · rw [if_neg none]
    apply command_checked.bind
    intro _
    apply tuples_checked.bind
    intro orders
    by_cases one : orders.length = 1
    · rw [if_pos one]
      apply command_checked.bind
      intro _
      apply tuples_checked.bind
      exact fun _ => command_checked
    · rw [if_neg one]
      exact rfl

theorem newOrderLineQueries_checked (i : Nat) :
    Checked PgBackend.cockroach.codes (newOrderLineQueries i) := by
  apply tuples_checked.bind
  intro item
  by_cases none : item = []
  · rw [if_pos none]
    exact rfl
  · rw [if_neg none]
    apply someTuples_checked.bind
    intro _
    apply command_checked.bind
    exact fun _ => command_checked

theorem selectByName_checked (cId : Int) :
    Checked PgBackend.cockroach.codes (selectByName rollback q cId) := by
  unfold selectByName
  by_cases unknown : cId = 0
  · rw [if_pos unknown]
    exact someTuples_checked.bind fun _ => checked_pure _
  · rw [if_neg unknown]
    exact checked_pure _

theorem payment5_checked (gc : Bool) : Checked PgBackend.cockroach.codes (payment5 rollback gc) := by
  cases gc with
  | true => exact command_checked
  | false => exact someTuples_checked.bind fun _ => checked_pure _

theorem execute_checked (rollback : Int) (data : TransactionData) :
    Checked PgBackend.cockroach.codes (execute rollback data) := by
  cases data with
  | integrity => exact checked_pure _
  | delivery =>
    apply Checked.bind _ fun _ => checked_pure _
    apply command_checked.bind
    intro _
    exact (Checked.loop deliveryDistrict_checked 10).bind fun _ => checked_pure _
  | newOrder oOlCnt =>
    apply Checked.bind _ fun _ => checked_pure _
    apply command_checked.bind
    intro _
    apply someTuples_checked.bind
    intro _
    apply someTuples_checked.bind
    intro _
    apply someTuples_checked.bind
    intro _
    apply command_checked.bind
    intro _
    apply command_checked.bind
    intro _
    exact (Checked.loop newOrderLineQueries_checked oOlCnt).bind fun _ => checked_pure _
  | orderStatus cId =>
    apply Checked.bind _ fun _ => checked_pure _
    apply command_checked.bind
    intro _
    apply (selectByName_checked cId).bind
    intro _
    apply someTuples_checked.bind
    intro _
    apply someTuples_checked.bind
    intro _
    apply someTuples_checked.bind
    exact fun _ => checked_pure _
  | payment cId =>
    apply Checked.bind _ fun _ => checked_pure _
    apply command_checked.bind
    intro _
    apply someTuples_checked.bind
    intro _
    apply someTuples_checked.bind
    intro _
    apply (selectByName_checked cId).bind
    intro _
    apply someTuples_checked.bind
    intro customer
    apply (payment5_checked (goodCredit customer)).bind
    intro _
    apply someTuples_checked.bind
    exact fun _ => checked_pure _
  | stockLevel =>
    apply Checked.bind _ fun _ => checked_pure _
    apply command_checked.bind
    intro _
    apply someTuples_checked.bind
    intro _
    apply someTuples_checked.bind
    exact fun _ => checked_pure _

end Cockroach

theorem PgBackend.execute_checked (backend : PgBackend) (rollback : Int) (data : TransactionData) :
    Checked backend.codes (backend.execute rollback data) := by
  cases backend with
  | libpq => exact Libpq.execute_checked rollback data
  | cockroach => exact Cockroach.execute_checked rollback data

theorem PgBackend.codes_ne_ok {backend : PgBackend} {rc : Int} (code : backend.codes rc) :
    rc ≠ OK := by
  cases backend with
  | libpq => obtain rfl | rfl := code <;> decide
  | cockroach =>
    obtain rfl : rc = ERROR := code
    decide

/-- A checked function leaves the connection open, or reports that it was lost. -/
theorem converse_checked {codes : Int → Prop} {x : PgProc Int} {answers : List Exchange}
    {r : Failure} {conn : Conn} (checked : Checked codes x)
    (ran : converse x .opened answers = some (r, conn)) :
    (answers.any Exchange.isLost = false ∧ conn = .opened) ∨
      (answers.any Exchange.isLost ∧ conn = .bad ∧ codes r.rc) := by
  induction x generalizing answers with
  | done rollback =>
    cases answers with
    | nil =>
      cases ran
      exact .inl ⟨rfl, rfl⟩
    | cons a as => cases ran
  | raise e =>
    cases answers with
    | nil =>
      cases ran
      exact .inl ⟨rfl, rfl⟩
    | cons a as => cases ran
  | issue q next ih =>
    cases answers with
    | nil => cases ran
    | cons a as =>
      -- what comes after an error is no query
      have stops (failed : PGresult) (isError : failed.isError) :
          ∃ e, next failed = .raise e ∧ codes e.rc := by
        have rest := checked.2 failed _ rfl
        rw [isError] at rest
        cases ended : next failed with
        | done rollback =>
          rw [ended] at rest
          cases rest
        | raise e =>
          rw [ended] at rest
          exact ⟨e, rfl, rest⟩
        | issue q' next' =>
          rw [ended] at rest
          cases rest.1
      cases a with
      | answered res =>
        cases isError : res.isError with
        | true =>
          obtain ⟨e, ended, -⟩ := stops res isError
          have ran : converse (next res) .opened as = some (r, conn) := ran
          rw [ended] at ran
          cases as with
          | nil =>
            cases ran
            exact .inl ⟨rfl, rfl⟩
          | cons a as => cases ran
        | false =>
          apply ih res _ ran
          exact checked.2 res _ isError.symm
      | lost message =>
        obtain ⟨e, ended, code⟩ := stops (.error none message) rfl
        have ran : converse (next (.error none message)) .bad as = some (r, conn) := ran
        rw [ended] at ran
        cases as with
        | nil =>
          cases ran
          exact .inr ⟨rfl, rfl, code⟩
        | cons a as => cases ran

/-! ## One call -/

/-- A call, its connection and the rollback flag of its data. -/
structure PgCall where
  call : Call
  conn : Conn
  rollback : Int

inductive PgEvent where
  | execute (answers : List Exchange)
  | commit (answer : Exchange)
  | rollback (answer : Exchange)
  | disconnect
  | connect (connected : Bool)
  | time (tt : Int)
  | sleep (result : Nanosleep)

/-- The connection is lost at BEGIN, at a statement or at ROLLBACK. -/
def PgEvent.lost : PgEvent → Bool
  | execute answers => answers.any Exchange.isLost
  | rollback answer => answer.isLost
  | commit _ | disconnect | connect _ | time _ | sleep _ => false

namespace PgCall

def start (data : TransactionData) (rollback : Int) : PgCall where
  call := Call.start data.transaction
  conn := .opened
  rollback

section Step

variable (backend : PgBackend) (dbc : DbContext) (data : TransactionData)

def step (m : PgCall) : PgEvent → Option PgCall
  | .execute answers => do
    let (r, conn) ← converse (backend.execute m.rollback data) m.conn answers
    let call ← m.call.step dbc (.executed r.rc r.rollback)
    some { call, conn, rollback := r.rollback }
  | .commit answer => do
    let (res, conn) ← m.conn.exchange answer
    let call ← m.call.step dbc (.committed (commitTransaction res (conn = .bad)))
    some { m with call, conn }
  | .rollback answer => do
    let (res, conn) ← m.conn.exchange answer
    let call ← m.call.step dbc (.rolledBack (backend.rollbackTransaction res (conn = .bad)))
    some { m with call, conn }
  | .disconnect => do
    let call ← m.call.step dbc (.disconnected OK)
    some { m with call, conn := .closed }
  | .connect connected => do
    let call ← m.call.step dbc (.connected (if connected then OK else ERROR))
    some { m with call, conn := if connected then .opened else .closed }
  | .time tt => do
    let call ← m.call.step dbc (.time tt)
    some { m with call }
  | .sleep result => do
    let call ← m.call.step dbc (.slept result)
    some { m with call }

end Step

/-- Where the call has a connection, it is open, but that libpq's ROLLBACK may find it lost. -/
def Sound (backend : PgBackend) (m : PgCall) : Prop :=
  match m.call.pc with
  | .executing | .committing | .returned _ => m.conn = .opened
  | .rollingBack => m.conn = .opened ∨ backend = .libpq ∧ m.conn = .bad
  | .disconnecting | .deadline | .connecting _ | .sleeping _ => True

/-- The call ends, or has ended, with a lost connection. -/
def Doomed (m : PgCall) : Prop :=
  m.conn = .bad ∧ (m.call.pc = .rollingBack ∨ ∃ status, m.call.pc = .returned status)

section Calls

variable {backend : PgBackend} {dbc : DbContext} {data : TransactionData} {m m' : PgCall}
  {c c' : Call}

theorem sound_of_opened (opened : m.conn = .opened) : Sound backend m := by
  unfold Sound
  cases m.call.pc with
  | rollingBack => exact .inl opened
  | disconnecting | deadline | connecting _ | sleeping _ => trivial
  | executing | committing | returned _ => exact opened

/-- The call is on its way to a new connection. -/
def Away : Pc → Prop
  | .disconnecting | .deadline | .connecting _ | .sleeping _ => True
  | .executing | .committing | .rollingBack | .returned _ => False

theorem sound_of_away (away : Away m.call.pc) : Sound backend m := by
  unfold Sound
  cases pc : m.call.pc with
  | disconnecting | deadline | connecting _ | sleeping _ => trivial
  | executing | committing | rollingBack | returned _ =>
    rw [pc] at away
    exact away.elim

/-- What the reconnection asks for. -/
theorem asks {conn conn' : Connect} {e : Event} (stepped : conn.step dbc e = some conn') :
    (∃ tt, e = .time tt) ∨ (∃ rc, e = .connected rc) ∨ ∃ result, e = .slept result := by
  unfold Connect.step at stepped
  split at stepped
  case h_1 tt => exact .inl ⟨tt, rfl⟩
  case h_2 rc => exact .inr (.inl ⟨rc, rfl⟩)
  case h_3 ts result => exact .inr (.inr ⟨result, rfl⟩)
  case h_4 => cases stepped

theorem step_executed {rc rollback : Int} (stepped : c.step dbc (.executed rc rollback) = some c') :
    c.pc = .executing ∧ c'.pc = afterExecute (resultCode c.transaction rc rollback) := by
  cases Call.step_cases stepped with
  | execute _ _ at' => exact ⟨at', rfl⟩
  | connected _ _ step | connectFailed _ _ _ _ step | connecting _ _ step =>
    obtain ⟨_, ⟨⟩⟩ | ⟨_, ⟨⟩⟩ | ⟨_, ⟨⟩⟩ := asks step

theorem step_committed {status : Int} (stepped : c.step dbc (.committed status) = some c') :
    c.pc = .committing ∧ c'.pc = if status = OK then .returned OK else .disconnecting := by
  cases Call.step_cases stepped with
  | commit at' => exact ⟨at', rfl⟩
  | commitFailed _ at' failed => exact ⟨at', by rw [if_neg failed]⟩
  | connected _ _ step | connectFailed _ _ _ _ step | connecting _ _ step =>
    obtain ⟨_, ⟨⟩⟩ | ⟨_, ⟨⟩⟩ | ⟨_, ⟨⟩⟩ := asks step

theorem step_rolledBack {status : Int} (stepped : c.step dbc (.rolledBack status) = some c') :
    c.pc = .rollingBack ∧
      c'.pc = if status = STATUS_ROLLBACK then .returned STATUS_ROLLBACK else .disconnecting := by
  cases Call.step_cases stepped with
  | rollback at' => exact ⟨at', rfl⟩
  | rollbackFailed _ at' failed => exact ⟨at', by rw [if_neg failed]⟩
  | connected _ _ step | connectFailed _ _ _ _ step | connecting _ _ step =>
    obtain ⟨_, ⟨⟩⟩ | ⟨_, ⟨⟩⟩ | ⟨_, ⟨⟩⟩ := asks step

/-- What leads towards a new connection, but not to one. -/
def Leads (dbc : DbContext) : Event → Prop
  | .disconnected _ | .slept _ => True
  | .time tt => dbc.expired tt = false
  | .connected rc => rc ≠ OK
  | .executed _ _ | .committed _ | .rolledBack _ => False

theorem step_away {e : Event} (stepped : c.step dbc e = some c') (leads : Leads dbc e) :
    Away c'.pc := by
  cases Call.step_cases stepped with
  | execute | commit | commitFailed | rollback | rollbackFailed => exact leads.elim
  | disconnect | reconnect | connectFailed => trivial
  | expire tt _ late =>
    have early : dbc.expired tt = false := leads
    rw [late] at early
    cases early
  | connected _ _ step =>
    have opened := (Connect.step_handle .closed step).2 rfl
    obtain ⟨tt, rfl⟩ | ⟨rc, rfl⟩ | ⟨result, rfl⟩ := asks step
    · cases opened
    · rw [Handle.after, if_neg leads] at opened
      cases opened
    · cases opened
  | connecting => trivial
  | sleep _ _ _ next =>
    obtain rfl | ⟨rest, rfl⟩ := next
    · trivial
    · trivial

/-- A query on a connection that is not freed, after which that is open, or was lost. -/
theorem exchange_cases {conn conn' : Conn} {answer : Exchange} {res : PGresult}
    (ran : conn.exchange answer = some (res, conn')) :
    (conn = .opened ∧ answer.isLost = false ∧ conn' = .opened) ∨
      ((conn = .opened ∧ answer.isLost ∨ conn = .bad) ∧ conn' = .bad ∧
        ∃ message, res = .error none message) := by
  cases conn with
  | opened =>
    cases answer with
    | answered res =>
      cases ran
      exact .inl ⟨rfl, rfl, rfl⟩
    | lost message =>
      cases ran
      exact .inr ⟨.inl ⟨rfl, rfl⟩, rfl, message, rfl⟩
  | bad =>
    cases ran
    exact .inr ⟨.inr rfl, rfl, NO_CONNECTION, rfl⟩
  | closed => cases ran

theorem Sound.step {e : PgEvent} (sound : Sound backend m)
    (stepped : m.step backend dbc data e = some m')
    (inTime : ∀ tt, e = .time tt → dbc.expired tt = false)
    (kept : backend = .cockroach → e.lost = false) : Sound backend m' := by
  cases e with
  | execute answers =>
    obtain ⟨⟨r, conn⟩, ran, stepped⟩ := Option.bind_eq_some_iff.mp stepped
    obtain ⟨call, accepted, stepped⟩ := Option.bind_eq_some_iff.mp stepped
    cases stepped
    obtain ⟨at', after⟩ := step_executed accepted
    have opened : m.conn = .opened := by simpa [Sound, at'] using sound
    rw [opened] at ran
    obtain ⟨-, rfl⟩ | ⟨lost, rfl, code⟩ :=
      converse_checked (backend.execute_checked m.rollback data) ran
    · exact sound_of_opened rfl
    · have failed : resultCode m.call.transaction r.rc r.rollback ≠ OK :=
        fun ok => backend.codes_ne_ok code (resultCode_ok ok)
      obtain next | next := afterExecute_failed failed
      · have libpq : backend = .libpq := by
          cases backend with
          | libpq => rfl
          | cockroach =>
            have none : answers.any Exchange.isLost = false := kept rfl
            rw [lost] at none
            cases none
        unfold Sound
        rw [after, next]
        exact .inr ⟨libpq, rfl⟩
      · apply sound_of_away
        rw [after, next]
        trivial
  | commit answer =>
    obtain ⟨⟨res, conn⟩, ran, stepped⟩ := Option.bind_eq_some_iff.mp stepped
    obtain ⟨call, accepted, stepped⟩ := Option.bind_eq_some_iff.mp stepped
    cases stepped
    obtain ⟨-, after⟩ := step_committed accepted
    obtain ⟨-, -, rfl⟩ | ⟨-, rfl, message, rfl⟩ := exchange_cases ran
    · exact sound_of_opened rfl
    · apply sound_of_away
      rw [after]
      trivial
  | rollback answer =>
    obtain ⟨⟨res, conn⟩, ran, stepped⟩ := Option.bind_eq_some_iff.mp stepped
    obtain ⟨call, accepted, stepped⟩ := Option.bind_eq_some_iff.mp stepped
    cases stepped
    obtain ⟨at', after⟩ := step_rolledBack accepted
    have here : m.conn = .opened ∨ backend = .libpq ∧ m.conn = .bad := by
      simpa [Sound, at'] using sound
    obtain ⟨-, -, rfl⟩ | ⟨before, rfl, message, rfl⟩ := exchange_cases ran
    · exact sound_of_opened rfl
    · cases backend with
      | libpq =>
        apply sound_of_away
        rw [after]
        trivial
      | cockroach =>
        obtain ⟨-, lost⟩ | bad := before
        · have none : answer.isLost = false := kept rfl
          rw [lost] at none
          cases none
        · obtain opened | ⟨⟨⟩, -⟩ := here
          rw [bad] at opened
          cases opened
  | disconnect =>
    obtain ⟨call, accepted, stepped⟩ := Option.bind_eq_some_iff.mp stepped
    cases stepped
    exact sound_of_away (step_away accepted trivial)
  | connect connected =>
    obtain ⟨call, accepted, stepped⟩ := Option.bind_eq_some_iff.mp stepped
    cases stepped
    cases connected with
    | true => exact sound_of_opened rfl
    | false => exact sound_of_away (step_away accepted (by decide : ERROR ≠ OK))
  | time tt =>
    obtain ⟨call, accepted, stepped⟩ := Option.bind_eq_some_iff.mp stepped
    cases stepped
    exact sound_of_away (step_away accepted (inTime tt rfl))
  | sleep result =>
    obtain ⟨call, accepted, stepped⟩ := Option.bind_eq_some_iff.mp stepped
    cases stepped
    exact sound_of_away (step_away accepted trivial)

/-- Cockroach's ROLLBACK is taken for done even if the connection is lost. -/
theorem Sound.lost {e : PgEvent} (sound : Sound .cockroach m)
    (stepped : m.step .cockroach dbc data e = some m') (lost : e.lost) : Doomed m' := by
  cases e with
  | execute answers =>
    obtain ⟨⟨r, conn⟩, ran, stepped⟩ := Option.bind_eq_some_iff.mp stepped
    obtain ⟨call, accepted, stepped⟩ := Option.bind_eq_some_iff.mp stepped
    cases stepped
    obtain ⟨at', after⟩ := step_executed accepted
    have opened : m.conn = .opened := by simpa [Sound, at'] using sound
    rw [opened] at ran
    obtain ⟨none, -⟩ | ⟨-, rfl, code⟩ :=
      converse_checked (PgBackend.cockroach.execute_checked m.rollback data) ran
    · have some : answers.any Exchange.isLost := lost
      rw [none] at some
      cases some
    · have failed : resultCode m.call.transaction r.rc r.rollback = ERROR := by
        have rc : r.rc = ERROR := code
        unfold resultCode
        rw [rc]
        simp
      refine ⟨rfl, .inl ?_⟩
      rw [after, failed]
      rfl
  | rollback answer =>
    obtain ⟨⟨res, conn⟩, ran, stepped⟩ := Option.bind_eq_some_iff.mp stepped
    obtain ⟨call, accepted, stepped⟩ := Option.bind_eq_some_iff.mp stepped
    cases stepped
    obtain ⟨-, after⟩ := step_rolledBack accepted
    obtain ⟨-, kept, -⟩ | ⟨-, rfl, -⟩ := exchange_cases ran
    · have here : answer.isLost := lost
      rw [kept] at here
      cases here
    · exact ⟨rfl, .inr ⟨_, after⟩⟩
  | commit | disconnect | connect | time | sleep => cases lost

theorem Doomed.step {e : PgEvent} (doomed : Doomed m)
    (stepped : m.step .cockroach dbc data e = some m') : Doomed m' := by
  obtain ⟨bad, rollingBack | ⟨status, returned⟩⟩ := doomed
  · cases e with
    | rollback answer =>
      obtain ⟨⟨res, conn⟩, ran, stepped⟩ := Option.bind_eq_some_iff.mp stepped
      obtain ⟨call, accepted, stepped⟩ := Option.bind_eq_some_iff.mp stepped
      cases stepped
      obtain ⟨-, after⟩ := step_rolledBack accepted
      obtain ⟨opened, -⟩ | ⟨-, rfl, -⟩ := exchange_cases ran
      · rw [bad] at opened
        cases opened
      · exact ⟨rfl, .inr ⟨_, after⟩⟩
    | execute | commit | disconnect | connect | time | sleep =>
      simp [PgCall.step, Call.step, rollingBack] at stepped
  · cases e <;> simp [PgCall.step, Call.step, returned] at stepped

/-- A call's state, and whether the connection has been lost where cockroach does not notice. -/
def Held (backend : PgBackend) (m : PgCall) (lost : Bool) : Prop :=
  ((backend = .cockroach → lost = false) ∧ Sound backend m) ∨
    (backend = .cockroach ∧ lost ∧ Doomed m)

theorem Held.step {e : PgEvent} {lost : Bool} (held : Held backend m lost)
    (stepped : m.step backend dbc data e = some m')
    (inTime : ∀ tt, e = .time tt → dbc.expired tt = false) :
    Held backend m' (lost || e.lost) := by
  obtain ⟨before, sound⟩ | ⟨rfl, lost, doomed⟩ := held
  · by_cases unnoticed : backend = .cockroach ∧ e.lost
    · obtain ⟨rfl, lost⟩ := unnoticed
      exact .inr ⟨rfl, by simp [lost], sound.lost stepped lost⟩
    · have kept (cockroach : backend = .cockroach) : e.lost = false :=
        Bool.eq_false_of_not_eq_true fun lost => unnoticed ⟨cockroach, lost⟩
      refine .inl ⟨?_, sound.step stepped inTime kept⟩
      intro cockroach
      rw [before cockroach, kept cockroach]
      rfl
  · exact .inr ⟨rfl, by simp [lost], doomed.step stepped⟩

theorem foldl_lost (events : List PgEvent) (lost : Bool) :
    events.foldl (fun lost e => lost || e.lost) lost = (lost || events.any PgEvent.lost) := by
  induction events generalizing lost with
  | nil => simp
  | cons e events ih => rw [List.foldl_cons, ih, List.any_cons, Bool.or_assoc]

end Calls

/-- A call that returns in time leaves an open connection, except that cockroach does not notice a
loss before COMMIT. -/
theorem recovered (backend : PgBackend) {dbc : DbContext} {data : TransactionData} {rollback : Int}
    {events : List PgEvent} {m : PgCall} {status : Int}
    (ran : run (step backend dbc data) (start data rollback) events = some m)
    (returned : m.call.pc = .returned status)
    (inTime : ∀ tt, .time tt ∈ events → dbc.expired tt = false) :
    m.conn = .opened ↔ (backend = .cockroach → events.any PgEvent.lost = false) := by
  have started : Held backend (start data rollback) false :=
    .inl ⟨fun _ => rfl, sound_of_opened rfl⟩
  have passes : Passes (fun _ e => ∀ tt, e = .time tt → dbc.expired tt = false)
      (fun lost e => lost || e.lost) false events := by
    apply passes_of_forall
    rintro _ e mem tt rfl
    exact inTime tt mem
  have preserved (m : PgCall) (lost : Bool) (e : PgEvent) (m' : PgCall) (held : Held backend m lost)
      (stepped : step backend dbc data m e = some m')
      (inTime : ∀ tt, e = .time tt → dbc.expired tt = false) :
      Held backend m' (lost || e.lost) := held.step stepped inTime
  have held := followed preserved ran passes started
  rw [foldl_lost, Bool.false_or] at held
  obtain ⟨kept, sound⟩ | ⟨cockroach, lost, bad, -⟩ := held
  · have opened : m.conn = .opened := by simpa [Sound, returned] using sound
    exact iff_of_true opened kept
  · apply iff_of_false
    · rw [bad]
      exact nofun
    · intro kept
      rw [kept cockroach] at lost
      cases lost

/-- The connection is lost at the statement of a Delivery, and the second attempt commits. -/
def lostOnce : List PgEvent :=
  [.execute [.answered .commandOk, .lost "server closed the connection unexpectedly\n"],
    .rollback (.lost NO_CONNECTION), .disconnect, .time 0, .time 0, .connect true,
    .execute [.answered .commandOk, .answered (.tuplesOk [])], .commit (.answered .commandOk)]

theorem recovered_once : ∃ m,
    run (step .libpq ⟨0, ⟨0, 0⟩⟩ .delivery) (start .delivery 0) lostOnce = some m ∧
      m.conn = .opened := by
  have outcome : (run (step .libpq ⟨0, ⟨0, 0⟩⟩ .delivery) (start .delivery 0) lostOnce).map
      (fun m => m.call.pc) = some (.returned OK) := by
    decide
  obtain ⟨m, ran, returned⟩ := Option.map_eq_some_iff.mp outcome
  exact ⟨m, ran, (recovered .libpq ran returned (fun _ _ => rfl)).mpr nofun⟩

/-- A Delivery of cockroach loses its connection at BEGIN. -/
theorem not_recovered : ¬ ∀ (backend : PgBackend) (dbc : DbContext) (data : TransactionData)
    (rollback : Int) (events : List PgEvent) (m : PgCall) (status : Int),
    run (step backend dbc data) (start data rollback) events = some m →
      m.call.pc = .returned status → (∀ tt, .time tt ∈ events → dbc.expired tt = false) →
        m.conn = .opened := by
  intro recovers
  have outcome : (run (step .cockroach ⟨0, ⟨0, 0⟩⟩ .delivery) (start .delivery 0)
      [.execute [.lost ""], .rollback (.lost "")]).map (fun m => (m.call.pc, m.conn)) =
        some (.returned STATUS_ROLLBACK, .bad) := by
    decide
  obtain ⟨m, ran, same⟩ := Option.map_eq_some_iff.mp outcome
  obtain ⟨returned, bad⟩ := Prod.mk.inj same
  have opened := recovers _ _ _ _ _ m _ ran returned (fun _ _ => rfl)
  rw [bad] at opened
  cases opened

end PgCall

end Dbt2
