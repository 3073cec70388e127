import Dbt2.MySqlCalls

/-!
# The result of a call

What the result of `process_transaction` says of the executions of the call, and what the total of
a New-Order is when it says that the order was committed.

* `Round`: an execution with the commit or rollback that follows it and the cleanup after that;
* `Call.run_at`: a call is made of at most two rounds, the last of which decides its result;
* `NewOrderCall`: a call that executes New-Orders, with the record that it fills in;
* `result_law`: both.
-/

namespace Dbt2

open Transition

/-! ## Rounds -/

structure Round where
  rc : Int
  rollback : Int
  status : Int
  cleanup : List Event

namespace Round

variable (transaction : Int)

/-- Whether the execution is one to commit. -/
def succeeded (r : Round) : Prop := resultCode transaction r.rc r.rollback = OK

instance (r : Round) : Decidable (r.succeeded transaction) := inferInstanceAs (Decidable (_ = _))

def ended (r : Round) : Event :=
  if r.succeeded transaction then .committed r.status else .rolledBack r.status

def events (r : Round) : List Event :=
  .executed r.rc r.rollback :: r.ended transaction :: r.cleanup

/-- The round that decides for OK. -/
def Committed (r : Round) : Prop := r.succeeded transaction ∧ r.status = OK

def RolledBack (r : Round) : Prop := ¬ r.succeeded transaction ∧ r.status = STATUS_ROLLBACK

end Round

namespace Event

/-- What a call does between two executions. -/
def isCleanup : Event → Bool
  | executed _ _ | committed _ | rolledBack _ => false
  | disconnected _ | connected _ | time _ | slept _ => true

/-- The results that executions, commits and rollbacks have. -/
def known : Event → Bool
  | executed rc _ => rc ∈ [OK, ERROR]
  | committed status => status ∈ [OK, ERROR, RECONNECT]
  | rolledBack status => status ∈ [STATUS_ROLLBACK, ERROR, RECONNECT]
  | disconnected _ | connected _ | time _ | slept _ => true

end Event

/-- The events so far: rounds, and an execution that nothing follows yet. -/
structure Rounds (transaction : Int) (rounds : List Round) (executing : List Event)
    (es : List Event) : Prop where
  made : es = rounds.flatMap (Round.events transaction) ++ executing
  cleanup : ∀ r ∈ rounds, r.cleanup.all Event.isCleanup

/-- An execution that succeeds, or that fails. -/
def Pending (transaction : Int) (ok : Bool) (executing : List Event) : Prop :=
  ∃ rc rollback, executing = [.executed rc rollback] ∧
    (resultCode transaction rc rollback = OK ↔ ok = true)

/-! ## The rounds of a call -/

/-- The last round is over, and did not decide the result. -/
structure Undecided (transaction status : Int) (rounds : List Round) : Prop where
  last : ∃ before r, rounds = before ++ [r] ∧ ¬ r.Committed transaction ∧
    ¬ r.RolledBack transaction
  status : status ≠ OK ∧ status ≠ STATUS_ROLLBACK

/-- The last round decided the result. -/
def Decided (transaction status : Int) (rounds : List Round) : Prop :=
  ∃ before r, rounds = before ++ [r] ∧ (status = OK ↔ r.Committed transaction) ∧
    (status = STATUS_ROLLBACK ↔ r.RolledBack transaction)

/-- What the rounds and the execution after them are, at each point of a call. -/
def Call.Stands (c : Call) (rounds : List Round) (executing : List Event) : Prop :=
  match c.pc with
  | .executing => executing = [] ∧ rounds.length + 1 = c.txnCount ∧ c.txnCount ≤ 2
  | .committing => Pending c.transaction true executing ∧ rounds.length + 1 = c.txnCount ∧
      c.txnCount ≤ 2
  | .rollingBack => Pending c.transaction false executing ∧ rounds.length + 1 = c.txnCount ∧
      c.txnCount ≤ 2
  | .disconnecting | .deadline | .connecting _ | .sleeping _ =>
    executing = [] ∧ Undecided c.transaction c.status rounds ∧ rounds.length = c.txnCount ∧
      c.txnCount ≤ 2
  | .returned status => executing = [] ∧ Decided c.transaction status rounds ∧ rounds.length ≤ 2

structure Call.At (c : Call) (es : List Event) : Prop where
  known : knownTransaction c.transaction = true
  stands : ∃ rounds executing, Rounds c.transaction rounds executing es ∧ c.Stands rounds executing

section Steps

variable {transaction status : Int} {rounds : List Round} {executing es : List Event} {e : Event}
variable {dbc : DbContext} {c c' : Call}

theorem Rounds.execute (h : Rounds transaction rounds [] es) (rc rollback : Int) :
    Rounds transaction rounds [.executed rc rollback] (es ++ [.executed rc rollback]) :=
  ⟨by rw [h.made, List.append_nil], h.cleanup⟩

/-- A commit or rollback ends the round. -/
theorem Rounds.finish {r : Round} (h : Rounds transaction rounds [.executed r.rc r.rollback] es)
    (fresh : r.cleanup = []) :
    Rounds transaction (rounds ++ [r]) [] (es ++ [r.ended transaction]) := by
  constructor
  · rw [h.made, List.flatMap_append, List.flatMap_singleton, Round.events, fresh]
    simp only [List.append_assoc, List.singleton_append, List.append_nil]
  · intro r' mem
    obtain mem | mem := List.mem_append.mp mem
    · exact h.cleanup r' mem
    · obtain rfl := List.mem_singleton.mp mem
      rw [fresh]
      rfl

/-- What is done between two executions belongs to the last round. -/
theorem Rounds.tidy {before : List Round} {r : Round}
    (h : Rounds transaction (before ++ [r]) [] es) (cleans : e.isCleanup = true) :
    Rounds transaction (before ++ [{ r with cleanup := r.cleanup ++ [e] }]) [] (es ++ [e]) := by
  constructor
  · rw [h.made, List.flatMap_append, List.flatMap_append, List.flatMap_singleton,
      List.flatMap_singleton, Round.events, Round.events]
    simp only [List.append_assoc, List.append_nil, List.cons_append]
    rfl
  · intro r' mem
    obtain mem | mem := List.mem_append.mp mem
    · exact h.cleanup r' (List.mem_append_left _ mem)
    · obtain rfl := List.mem_singleton.mp mem
      have all := h.cleanup r (List.mem_append_right _ List.mem_cons_self)
      rw [List.all_append, all, Bool.true_and, List.all_cons, cleans]
      rfl

theorem Undecided.tidy (h : Undecided transaction status rounds)
    (made : Rounds transaction rounds [] es) (cleans : e.isCleanup = true) :
    ∃ rounds', Rounds transaction rounds' [] (es ++ [e]) ∧ Undecided transaction status rounds' ∧
      rounds'.length = rounds.length := by
  obtain ⟨before, r, rfl, committed, rolledBack⟩ := h.last
  refine ⟨_, made.tidy cleans, ⟨⟨before, _, rfl, committed, rolledBack⟩, h.status⟩, ?_⟩
  rw [List.length_append, List.length_append]
  rfl

/-- The status of a round that decided nothing is not one that does. -/
theorem Undecided.decided (h : Undecided transaction status rounds) :
    Decided transaction status rounds := by
  obtain ⟨before, r, made, committed, rolledBack⟩ := h.last
  exact ⟨before, r, made, iff_of_false h.status.1 committed, iff_of_false h.status.2 rolledBack⟩

theorem Undecided.expired (h : Undecided transaction status rounds) :
    Decided transaction ERROR rounds := by
  obtain ⟨before, r, made, committed, rolledBack⟩ := h.last
  exact ⟨before, r, made, iff_of_false (by decide) committed, iff_of_false (by decide) rolledBack⟩

theorem connect_isCleanup {conn conn' : Connect} (stepped : conn.step dbc e = some conn') :
    e.isCleanup = true := by
  unfold Connect.step at stepped
  split at stepped
  all_goals first | rfl | cases stepped

theorem resultCode_known {rc rollback : Int} (known : (Event.executed rc rollback).known = true) :
    resultCode transaction rc rollback = OK ∨ resultCode transaction rc rollback = ERROR := by
  have rcs : rc = OK ∨ rc = ERROR := by simpa [Event.known] using known
  unfold resultCode
  split
  · split
    · exact rcs
    · exact .inr rfl
  · exact rcs

theorem Call.attempt_at {txnCount : Nat} (known : knownTransaction transaction = true)
    (made : Rounds transaction rounds [] es) (count : rounds.length = txnCount)
    (undecided : rounds ≠ [] → Undecided transaction status rounds) (most : txnCount ≤ 2) :
    (Call.attempt transaction txnCount status).At es := by
  unfold Call.attempt
  by_cases again : txnCount < 2
  · rw [if_pos again, if_pos known]
    exact ⟨known, rounds, [], made, rfl, by rw [count], again⟩
  · rw [if_neg again]
    have some_round : rounds ≠ [] := by
      rintro rfl
      exact again (by rw [← count]; decide)
    exact ⟨known, rounds, [], made, rfl, (undecided some_round).decided, by omega⟩

/-- A commit follows an execution that succeeds, a rollback one that fails. -/
theorem Pending.finish {ok : Bool} (h : Pending transaction ok executing)
    (made : Rounds transaction rounds executing es) (status : Int) :
    ∃ r, Rounds transaction (rounds ++ [r]) []
        (es ++ [if ok then .committed status else .rolledBack status]) ∧
      r.status = status ∧ (r.succeeded transaction ↔ ok = true) := by
  obtain ⟨rc, rollback, rfl, same⟩ := h
  let r : Round := { rc, rollback, status, cleanup := [] }
  have same : r.succeeded transaction ↔ ok = true := same
  have ended : r.ended transaction = if ok then .committed status else .rolledBack status := by
    unfold Round.ended
    simp only [same]
    rfl
  exact ⟨r, ended ▸ Rounds.finish made rfl, rfl, same⟩

theorem undecided_finish {r : Round} (same : r.status = status)
    (other : status = ERROR ∨ status = RECONNECT) :
    Undecided transaction status (rounds ++ [r]) := by
  have failed : status ≠ OK ∧ status ≠ STATUS_ROLLBACK := by
    obtain rfl | rfl := other <;> decide
  exact ⟨⟨rounds, r, rfl, fun h => failed.1 (same ▸ h.2), fun h => failed.2 (same ▸ h.2)⟩, failed⟩

/-- Between two executions. -/
def Pc.between : Pc → Bool
  | .disconnecting | .deadline | .connecting _ | .sleeping _ => true
  | .executing | .committing | .rollingBack | .returned _ => false

theorem Call.At.tidy (h : c.At es) (here : c.pc.between = true) (cleans : e.isCleanup = true) :
    ∃ rounds, Rounds c.transaction rounds [] (es ++ [e]) ∧
      Undecided c.transaction c.status rounds ∧ rounds.length = c.txnCount ∧ c.txnCount ≤ 2 := by
  obtain ⟨-, rounds, executing, made, stands⟩ := h
  have stands : executing = [] ∧ Undecided c.transaction c.status rounds ∧
      rounds.length = c.txnCount ∧ c.txnCount ≤ 2 := by
    unfold Call.Stands at stands
    cases at' : c.pc with
    | disconnecting | deadline | connecting | sleeping =>
      rw [at'] at stands
      exact stands
    | executing | committing | rollingBack | returned =>
      rw [at'] at here
      cases here
  obtain ⟨rfl, undecided, count, most⟩ := stands
  obtain ⟨rounds', made, undecided, length⟩ := undecided.tidy made cleans
  exact ⟨rounds', made, undecided, length.trans count, most⟩

theorem Call.step_at (stepped : c.step dbc e = some c') (known : e.known = true) (h : c.At es) :
    c'.At (es ++ [e]) := by
  have tidied := fun here cleans => h.tidy (e := e) here cleans
  obtain ⟨transaction, rounds, executing, made, stands⟩ := h
  unfold Call.Stands at stands
  cases Call.step_cases stepped with
  | execute rc rollback at' =>
    rw [at'] at stands
    obtain ⟨rfl, count, most⟩ := stands
    refine ⟨transaction, rounds, _, made.execute rc rollback, ?_⟩
    obtain ok | failed := @resultCode_known c.transaction rc rollback known
    · rw [ok]
      exact ⟨⟨rc, rollback, rfl, iff_of_true ok rfl⟩, count, most⟩
    · rw [failed]
      have notOk : resultCode c.transaction rc rollback ≠ OK := by
        rw [failed]
        decide
      exact ⟨⟨rc, rollback, rfl, iff_of_false notOk (by decide)⟩, count, most⟩
  | commit at' =>
    rw [at'] at stands
    obtain ⟨pending, count, most⟩ := stands
    obtain ⟨r, made, same, ok⟩ := pending.finish made OK
    refine ⟨transaction, rounds ++ [r], [], made, rfl, ⟨rounds, r, rfl, ?_, ?_⟩, ?_⟩
    · exact iff_of_true rfl ⟨ok.mpr rfl, same⟩
    · exact iff_of_false (by decide) fun h => h.1 (ok.mpr rfl)
    · rw [List.length_append, List.length_singleton]
      omega
  | commitFailed status at' failed =>
    rw [at'] at stands
    obtain ⟨pending, count, most⟩ := stands
    obtain ⟨r, made, same, ok⟩ := pending.finish made status
    have other : status = ERROR ∨ status = RECONNECT := by
      simpa [Event.known, failed] using known
    refine ⟨transaction, rounds ++ [r], [], made, rfl, undecided_finish same other, ?_, most⟩
    rw [List.length_append, List.length_singleton]
    exact count
  | rollback at' =>
    rw [at'] at stands
    obtain ⟨pending, count, most⟩ := stands
    obtain ⟨r, made, same, ok⟩ := pending.finish made STATUS_ROLLBACK
    have failed : ¬ r.succeeded c.transaction := fun h => nomatch ok.mp h
    refine ⟨transaction, rounds ++ [r], [], made, rfl, ⟨rounds, r, rfl, ?_, ?_⟩, ?_⟩
    · exact iff_of_false (by decide) fun h => failed h.1
    · exact iff_of_true rfl ⟨failed, same⟩
    · rw [List.length_append, List.length_singleton]
      omega
  | rollbackFailed status at' failed =>
    rw [at'] at stands
    obtain ⟨pending, count, most⟩ := stands
    obtain ⟨r, made, same, ok⟩ := pending.finish made status
    have other : status = ERROR ∨ status = RECONNECT := by
      simpa [Event.known, failed] using known
    refine ⟨transaction, rounds ++ [r], [], made, rfl, undecided_finish same other, ?_, most⟩
    rw [List.length_append, List.length_singleton]
    exact count
  | disconnect rc at' =>
    obtain ⟨rounds, made, stands⟩ := tidied (by rw [at']; rfl) rfl
    exact ⟨transaction, rounds, [], made, rfl, stands⟩
  | expire tt at' late =>
    obtain ⟨rounds, made, undecided, count, most⟩ := tidied (by rw [at']; rfl) rfl
    exact ⟨transaction, rounds, [], made, rfl, undecided.expired, by omega⟩
  | reconnect tt at' early =>
    obtain ⟨rounds, made, stands⟩ := tidied (by rw [at']; rfl) rfl
    exact ⟨transaction, rounds, [], made, rfl, stands⟩
  | connected e at' connects =>
    obtain ⟨rounds, made, undecided, count, most⟩ :=
      tidied (by rw [at']; rfl) (connect_isCleanup connects)
    exact Call.attempt_at transaction made count (fun _ => undecided) most
  | connectFailed e rc at' failed connects =>
    obtain ⟨rounds, made, stands⟩ := tidied (by rw [at']; rfl) (connect_isCleanup connects)
    exact ⟨transaction, rounds, [], made, rfl, stands⟩
  | connecting e at' connects running =>
    obtain ⟨rounds, made, stands⟩ := tidied (by rw [at']; rfl) (connect_isCleanup connects)
    exact ⟨transaction, rounds, [], made, rfl, stands⟩
  | sleep result pc at' next =>
    obtain ⟨rounds, made, stands⟩ := tidied (by rw [at']; rfl) rfl
    refine ⟨transaction, rounds, [], made, ?_⟩
    obtain rfl | ⟨rest, rfl⟩ := next
    · exact ⟨rfl, stands⟩
    · exact ⟨rfl, stands⟩

theorem Call.run_at {transaction : Int} {es : List Event}
    (known : knownTransaction transaction = true) (all : ∀ e ∈ es, e.known = true)
    (ran : run (Call.step dbc) (Call.start transaction) es = some c) : c.At es := by
  have none_yet : Rounds transaction [] [] [] := ⟨rfl, fun _ mem => nomatch mem⟩
  have start : (Call.start transaction).At [] :=
    Call.attempt_at known none_yet rfl (fun some_round => absurd rfl some_round) (by decide)
  exact run_history (fun _ _ _ _ stepped known h => Call.step_at stepped known h) ran all start

theorem Call.run_transaction {transaction : Int} {es : List Event}
    (ran : run (Call.step dbc) (Call.start transaction) es = some c) : c.transaction = transaction :=
  run_invariant (fun _ _ _ stepped same => (Call.step_transaction stepped).trans same) ran
    (Call.attempt_transaction transaction 0 0)

theorem Call.stands_rounds (h : c.Stands rounds executing) :
    (executing = [] ∨ ∃ rc rollback, executing = [.executed rc rollback]) ∧
      rounds.length + executing.length ≤ 2 ∧
      ∀ status, c.pc = .returned status → executing = [] ∧ Decided c.transaction status rounds := by
  unfold Call.Stands at h
  cases at' : c.pc with
  | executing =>
    rw [at'] at h
    obtain ⟨rfl, count, most⟩ := h
    exact ⟨.inl rfl, by rw [List.length_nil]; omega, nofun⟩
  | committing | rollingBack =>
    rw [at'] at h
    obtain ⟨⟨rc, rollback, rfl, -⟩, count, most⟩ := h
    exact ⟨.inr ⟨rc, rollback, rfl⟩, by rw [List.length_singleton]; omega, nofun⟩
  | disconnecting | deadline | connecting | sleeping =>
    rw [at'] at h
    obtain ⟨rfl, -, count, most⟩ := h
    exact ⟨.inl rfl, by rw [List.length_nil]; omega, nofun⟩
  | returned status =>
    rw [at'] at h
    obtain ⟨rfl, decided, most⟩ := h
    refine ⟨.inl rfl, most, ?_⟩
    rintro _ ⟨⟩
    exact ⟨rfl, decided⟩

end Steps

/-! ## Calls that execute New-Orders -/

inductive NewOrderBackend where
  | nonsp
  | cockroach
  | mysql
  deriving DecidableEq

/-- What becomes of a call of the procedure, and of the query for its verdict. -/
structure ProcedureAnswers where
  rows : Rows
  fault : Option Nat
  queryFails : Bool

/-- What an execution leaves. `lines` is the number of lines that it reported, `session` the
variable of a MySQL session. -/
structure Executed where
  rc : Int
  out : NewOrderOutput
  lines : Nat
  session : Option Int

namespace NewOrderBackend

abbrev Answers : NewOrderBackend → Type
  | nonsp | cockroach => OrderAnswers
  | mysql => ProcedureAnswers

section Execute

variable (data : NewOrderData) (session : Option Int) (out : NewOrderOutput)

def execute : (b : NewOrderBackend) → b.Answers → Executed
  | nonsp, answers =>
    let result := Nonsp.executeNewOrderNonspOutput data answers out
    { rc := result.1, out := result.2, lines := data.oOlCnt, session }
  | cockroach, answers =>
    let result := Cockroach.executeNewOrderCockroachOutput data answers out
    { rc := result.1, out := result.2, lines := data.oOlCnt, session }
  | mysql, answers =>
    let c := MySql.call data answers.fault answers.rows
    let selected := if answers.queryFails then none else some (c.sessionRc session)
    let result := MySql.executeNewOrderMysql c selected out
    { rc := result.1, out := result.2, lines := (c.sets.foldl MySql.takeSet (out, 0)).2
      session := c.sessionRc session }

/-- No verdict of an earlier call is taken for that of this one. -/
def sound : (b : NewOrderBackend) → b.Answers → Bool
  | nonsp, _ | cockroach, _ => true
  | mysql, answers =>
    answers.queryFails || !MySql.stale session (MySql.call data answers.fault answers.rows)

end Execute

end NewOrderBackend

/-- A call of `process_transaction` with its record. -/
structure NewOrderCall where
  call : Call
  session : Option Int
  out : NewOrderOutput
  lines : Nat

inductive NewOrderEvent (b : NewOrderBackend) where
  | execute (answers : b.Answers)
  | answer (e : Event)

def NewOrderEvent.known {b : NewOrderBackend} : NewOrderEvent b → Bool
  | execute _ => true
  | answer e => e.known

namespace NewOrderCall

variable (dbc : DbContext) (data : NewOrderData) (b : NewOrderBackend)

/-- `session` and `out` are what earlier calls left. -/
def start (session : Option Int) (out : NewOrderOutput) : NewOrderCall :=
  { call := Call.start NEW_ORDER, session, out, lines := 0 }

def step (s : NewOrderCall) : NewOrderEvent b → Option NewOrderCall
  | .execute answers =>
    let x := b.execute data s.session s.out answers
    (s.call.step dbc (.executed x.rc x.out.rollback)).map fun call =>
      { call, session := x.session, lines := x.lines
        out := if x.rc ≠ ERROR ∧ x.out.rollback = 0 then x.out.adjust else x.out }
  | .answer (.executed _ _) => none
  | .answer e => (s.call.step dbc e).map fun call =>
    { s with call, session := if e = .connected OK then none else s.session }

def sound (s : NewOrderCall) : NewOrderEvent b → Bool
  | .execute answers => b.sound data s.session answers
  | .answer _ => true

/-- The total is that of the lines, adjusted once. -/
def Adjusted (s : NewOrderCall) : Prop :=
  s.out.totalAmount = s.out.amounts s.lines * (1 - s.out.cDiscount) * (1 + s.out.wTax + s.out.dTax)

end NewOrderCall

section Totals

variable {dbc : DbContext} {data : NewOrderData} {b : NewOrderBackend} {session : Option Int}
variable {out : NewOrderOutput} {s s' : NewOrderCall}

theorem NewOrderBackend.execute_total {answers : b.Answers}
    (sound : b.sound data session answers = true) {x : Executed}
    (executed : b.execute data session out answers = x) (ok : x.rc = OK)
    (rollback : x.out.rollback = 0) : x.out.totalAmount = x.out.amounts x.lines := by
  subst executed
  cases b with
  | nonsp => exact Nonsp.total rfl ok
  | cockroach => exact Cockroach.total rfl ok
  | mysql =>
    obtain ended | ⟨answered, again⟩ := MySql.ok_of_completed rfl ok rollback
    · exact MySql.total_of_reports rfl ok (MySql.call_completed ended).reported
    · rw [NewOrderBackend.sound, answered, again] at sound
      cases sound

/-- The record is the adjusted one from the execution that is committed to the end. -/
structure NewOrderCall.Holds (s : NewOrderCall) : Prop where
  newOrder : s.call.transaction = NEW_ORDER
  status : s.call.pc ≠ .returned OK → s.call.status ≠ OK
  adjusted : s.call.pc = .committing ∨ s.call.pc = .returned OK → s.Adjusted

theorem Call.step_executed {c c' : Call} {rc rollback : Int}
    (stepped : c.step dbc (.executed rc rollback) = some c') :
    c.pc = .executing ∧ c' = { c with pc := afterExecute (resultCode c.transaction rc rollback) } := by
  cases Call.step_cases stepped with
  | execute rc rollback at' => exact ⟨at', rfl⟩
  | connected e at' connects => cases connect_isCleanup connects
  | connectFailed e rc at' failed connects => cases connect_isCleanup connects
  | connecting e at' connects running => cases connect_isCleanup connects

theorem afterExecute_ok {rc : Int}
    (here : afterExecute rc = .committing ∨ afterExecute rc = .returned OK) : rc = OK := by
  unfold afterExecute at here
  split at here
  · assumption
  · split at here
    · obtain here | here := here <;> cases here
    · obtain here | here := here <;> cases here

theorem NewOrderCall.Holds.execute {answers : b.Answers} (h : s.Holds)
    (stepped : s.step dbc data b (.execute answers) = some s')
    (sound : b.sound data s.session answers = true) : s'.Holds := by
  obtain ⟨call, called, rfl⟩ := Option.map_eq_some_iff.mp stepped
  obtain ⟨at', rfl⟩ := Call.step_executed called
  have failed : s.call.status ≠ OK := h.status (by rw [at']; nofun)
  refine ⟨h.newOrder, fun _ => failed, fun here => ?_⟩
  have succeeded := afterExecute_ok here
  rw [h.newOrder] at succeeded
  obtain ⟨ok, rollback⟩ := resultCode_newOrder succeeded
  have total := NewOrderBackend.execute_total sound rfl ok rollback
  have notError : (b.execute data s.session s.out answers).rc ≠ ERROR := by
    rw [ok]
    decide
  unfold Adjusted
  simp only [if_pos (And.intro notError rollback)]
  exact congrArg (· * _ * _) total

/-- Nothing is known of the total before the order is to be committed. -/
theorem NewOrderCall.holds_of_away {call : Call} {session : Option Int}
    (newOrder : call.transaction = NEW_ORDER) (failed : call.status ≠ OK)
    (away : call.pc ≠ .committing ∧ call.pc ≠ .returned OK) :
    NewOrderCall.Holds { s with call, session } :=
  ⟨newOrder, fun _ => failed, fun here => (here.elim away.1 away.2).elim⟩

/-- Only a commit leads from an execution to OK. -/
theorem NewOrderCall.Holds.answer {e : Event} {call : Call} (h : s.Holds)
    (called : s.call.step dbc e = some call) (other : ∀ rc rollback, e ≠ .executed rc rollback)
    (known : e.known = true) (session : Option Int) :
    NewOrderCall.Holds { s with call, session } := by
  have newOrder := (Call.step_transaction called).trans h.newOrder
  cases Call.step_cases called with
  | execute rc rollback => exact absurd rfl (other rc rollback)
  | commit at' =>
    exact ⟨newOrder, fun notOk => absurd rfl notOk, fun _ => h.adjusted (.inl at')⟩
  | commitFailed status at' failed =>
    exact holds_of_away newOrder failed ⟨nofun, nofun⟩
  | rollback at' =>
    have notOk : STATUS_ROLLBACK ≠ OK := by decide
    exact holds_of_away newOrder notOk ⟨nofun, fun same => notOk (Pc.returned.inj same)⟩
  | rollbackFailed status at' failed =>
    have notOk : status ≠ OK := by
      rintro rfl
      cases known
    exact holds_of_away newOrder notOk ⟨nofun, nofun⟩
  | disconnect rc at' | reconnect tt at' early | connectFailed e rc at' failed connects
  | connecting e at' connects running =>
    exact holds_of_away newOrder (h.status (by rw [at']; nofun)) ⟨nofun, nofun⟩
  | expire tt at' late =>
    have notOk : ERROR ≠ OK := by decide
    exact holds_of_away newOrder (h.status (by rw [at']; nofun))
      ⟨nofun, fun same => notOk (Pc.returned.inj same)⟩
  | sleep result pc at' next =>
    have failed : s.call.status ≠ OK := h.status (by rw [at']; nofun)
    obtain rfl | ⟨rest, rfl⟩ := next
    · exact holds_of_away newOrder failed ⟨nofun, nofun⟩
    · exact holds_of_away newOrder failed ⟨nofun, nofun⟩
  | connected e at' connects =>
    have failed : s.call.status ≠ OK := h.status (by rw [at']; nofun)
    obtain ⟨status, pc⟩ := Call.attempt_cases s.call.transaction s.call.txnCount s.call.status
    refine ⟨newOrder, fun _ => by rw [status]; exact failed, fun here => ?_⟩
    obtain here | here : _ = Pc.committing ∨ _ = Pc.returned OK := here
    · rw [here] at pc
      obtain pc | pc | pc := pc <;> cases pc
    · rw [here] at pc
      obtain pc | pc | pc := pc
      · cases pc
      · cases pc
      · exact absurd (Pc.returned.inj pc).symm failed

theorem NewOrderCall.step_holds {e : NewOrderEvent b} (h : s.Holds)
    (stepped : s.step dbc data b e = some s') (known : e.known = true)
    (sound : s.sound data b e = true) : s'.Holds := by
  cases e with
  | execute answers => exact h.execute stepped sound
  | answer e =>
    cases e with
    | executed rc rollback => cases stepped
    | committed | rolledBack | disconnected | connected | time | slept =>
      obtain ⟨call, called, rfl⟩ := Option.map_eq_some_iff.mp stepped
      exact h.answer called (by nofun) known _

end Totals

/-- In a call the transaction is executed at most twice. A round is an execution that is followed
by one commit if it succeeded and by one rollback if not, and the result is that of the last. The
total of a New-Order that was committed is the adjusted one, in every call in which no verdict of
an earlier one is taken for that of its own. -/
theorem result_law (dbc : DbContext) :
    (∀ (transaction : Int) (es : List Event) (c : Call), knownTransaction transaction = true →
      (∀ e ∈ es, e.known = true) → run (Call.step dbc) (Call.start transaction) es = some c →
        ∃ rounds executing, Rounds transaction rounds executing es ∧
          (executing = [] ∨ ∃ rc rollback, executing = [.executed rc rollback]) ∧
          rounds.length + executing.length ≤ 2 ∧
          ∀ status, c.pc = .returned status → executing = [] ∧ Decided transaction status rounds) ∧
    ∀ (b : NewOrderBackend) (data : NewOrderData) (session : Option Int) (out : NewOrderOutput)
      (es : List (NewOrderEvent b)) (s : NewOrderCall),
      run (NewOrderCall.step dbc data b) (.start session out) es = some s →
        Along (NewOrderCall.step dbc data b) (fun s e => e.known && s.sound data b e)
          (.start session out) es = true →
        s.call.pc = .returned OK → s.Adjusted := by
  constructor
  · intro transaction es c known all ran
    obtain ⟨-, rounds, executing, made, stands⟩ := Call.run_at known all ran
    have rounds_of := Call.stands_rounds stands
    rw [Call.run_transaction ran] at made rounds_of
    exact ⟨rounds, executing, made, rounds_of⟩
  · intro b data session out es s ran along returned
    have start : (NewOrderCall.start session out).Holds :=
      ⟨rfl, fun _ => (by decide : (0 : Int) ≠ OK), fun here => by
        obtain here | here := here <;> cases here⟩
    have holds : s.Holds := run_invariant_along (fun s e s' stepped good h => by
      obtain ⟨known, sound⟩ := Bool.and_eq_true_iff.mp good
      exact NewOrderCall.step_holds h stepped known sound) ran along start
    exact holds.adjusted (.inr returned)

/-! ## A retry, and an error after a line -/

def retried : List Event :=
  [.committed RECONNECT, .disconnected OK, .time 5, .time 5, .connected ERROR, .slept .done, .time 6,
    .connected OK]

def patient : DbContext := { stopTime := 0, tsRetry := { tvSec := 1, tvNsec := 0 } }

/-- An order that is in the database. -/
def bothLines : ProcedureAnswers :=
  { rows := MySql.pricedOrder.rows, fault := none, queryFails := false }

theorem result_law_retried :
    (∃ rounds executing, Rounds PAYMENT rounds executing
        (.executed OK 0 :: retried ++ [.executed OK 0, .committed OK]) ∧
      (executing = [] ∨ ∃ rc rollback, executing = [.executed rc rollback]) ∧
      rounds.length + executing.length ≤ 2 ∧
      ∀ status, Pc.returned OK = .returned status →
        executing = [] ∧ Decided PAYMENT status rounds) ∧
    ∃ s, run (NewOrderCall.step patient (oneItem 1 2) .mysql) (.start none MySql.blank)
        (.execute bothLines :: retried.map .answer ++
          [.execute bothLines, .answer (.committed OK)]) = some s ∧
      s.Adjusted := by
  constructor
  · exact (result_law patient).1 PAYMENT _
      { transaction := PAYMENT, txnCount := 2, status := OK, pc := .returned OK }
      (by decide) (by decide) (by decide)
  · obtain ⟨s, ran, returned⟩ := Option.map_eq_some_iff.mp
      (by decide : (run (NewOrderCall.step patient (oneItem 1 2) .mysql)
          (.start none MySql.blank) (.execute bothLines :: retried.map .answer ++
            [.execute bothLines, .answer (.committed OK)])).map (fun s => s.call.pc) =
          some (.returned OK))
    exact ⟨s, ran, (result_law patient).2 _ _ _ _ _ s ran (by decide) returned⟩

/-- The total that an earlier order left is adjusted and returned. -/
theorem total_not_adjusted : ¬ ∀ (b : NewOrderBackend) (data : NewOrderData) (session : Option Int)
    (out : NewOrderOutput) (es : List (NewOrderEvent b)) (s : NewOrderCall),
    (∀ e ∈ es, e.known = true) →
      run (NewOrderCall.step patient data b) (.start session out) es = some s →
        s.call.pc = .returned OK → s.Adjusted := by
  intro adjusted
  obtain ⟨s, ran, seen⟩ := Option.map_eq_some_iff.mp
    (by decide +kernel : (run (NewOrderCall.step patient (oneItem 1 2) .mysql)
        (.start (some 0) { MySql.blank with totalAmount := 100 })
        [.execute { bothLines with fault := some 11 }, .answer (.committed OK)]).map
          (fun s => (s.call.pc, s.out.totalAmount, s.out.amounts s.lines,
            s.out.cDiscount, s.out.wTax, s.out.dTax)) =
        some (.returned OK, 100, 15, 0, 0, 0))
  simp only [Prod.mk.injEq] at seen
  obtain ⟨returned, total, amounts, cDiscount, wTax, dTax⟩ := seen
  have same := adjusted _ _ _ _ _ s (by decide) ran returned
  unfold NewOrderCall.Adjusted at same
  rw [total, amounts, cDiscount, wTax, dTax] at same
  norm_num at same

end Dbt2
