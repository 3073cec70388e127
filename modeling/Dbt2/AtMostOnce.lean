import Dbt2.ProcessTransaction

/-!
# How often a transaction takes effect

`process_transaction` on a PostgreSQL server that may lose the connection anywhere, a COMMIT in
flight included. After a lost connection the transaction is executed once more, and nothing tells
whether the server had applied the COMMIT whose answer never came. So the effects of a call are
counted by `call_effects`: one for each applied COMMIT whose reply was lost, and one more if the
call returns OK.
-/

namespace Dbt2

open Transition

/-! ## The backend -/

def commitTransactionLibpq (commandOk connectionBad : Bool) : Int :=
  if commandOk then OK else if connectionBad then RECONNECT else ERROR

def rollbackTransactionLibpq (commandOk connectionBad : Bool) : Int :=
  if !commandOk && connectionBad then RECONNECT else STATUS_ROLLBACK

/-- What becomes of a COMMIT. -/
inductive CommitOutcome where
  | acknowledged
  | replyLost
  | lost
  | refused
  deriving DecidableEq

def CommitOutcome.status : CommitOutcome → Int
  | .acknowledged => commitTransactionLibpq true false
  | .replyLost => commitTransactionLibpq false true
  | .lost => commitTransactionLibpq false true
  | .refused => commitTransactionLibpq false false

inductive RollbackOutcome where
  | done
  | lost
  | refused
  deriving DecidableEq

def RollbackOutcome.status : RollbackOutcome → Int
  | .done => rollbackTransactionLibpq true false
  | .lost => rollbackTransactionLibpq false true
  | .refused => rollbackTransactionLibpq false false

/-- What happens between the client and a server with databases `S`. An execution that succeeds
leaves `result` uncommitted, one that fails leaves anything or nothing. -/
inductive Action (S : Type) where
  | execute (result : S) (flag : Int)
  | executeFailed (rc flag : Int) (left : Option S)
  | commit (outcome : CommitOutcome)
  | rollback (outcome : RollbackOutcome)
  | disconnect (rc : Int)
  | connect (rc : Int)
  | time (tt : Int)
  | sleep (result : Nanosleep)

/-- What the client sees of it. -/
def Action.event {S : Type} : Action S → Event
  | .execute _ flag => .executed OK flag
  | .executeFailed rc flag _ => .executed rc flag
  | .commit outcome => .committed outcome.status
  | .rollback outcome => .rolledBack outcome.status
  | .disconnect rc => .disconnected rc
  | .connect rc => .connected rc
  | .time tt => .time tt
  | .sleep result => .slept result

/-- The server's side: its database, what is uncommitted, how many commits it applied, and to how
many of them the reply was lost. -/
structure Server (S : Type) where
  db : S
  uncommitted : Option S := none
  applied : Nat := 0
  replyLost : Nat := 0

def Server.apply {S : Type} (s : Server S) : Server S :=
  { s with db := s.uncommitted.getD s.db, uncommitted := none, applied := s.applied + 1 }

def Server.after {S : Type} (s : Server S) : Action S → Server S
  | .execute result _ => { s with uncommitted := some result }
  | .executeFailed _ _ left => { s with uncommitted := left }
  | .commit .acknowledged => s.apply
  | .commit .replyLost => { s.apply with replyLost := s.replyLost + 1 }
  | .commit _ => { s with uncommitted := none }
  | .rollback .refused => s
  | .rollback _ => { s with uncommitted := none }
  | .disconnect _ => { s with uncommitted := none }
  | .connect _ | .time _ | .sleep _ => s

/-- A successful execution does to the database what one execution may do. -/
def Server.allowed {S : Type} (effect : S → S → Prop) (s : Server S) : Action S → Prop
  | .execute result _ => effect s.db result
  | .executeFailed rc _ _ => rc ≠ OK
  | _ => True

/-- A schedule of one call, from its start to its return with `status`, on a server. -/
structure Schedule {S : Type} (effect : S → S → Prop) (dbc : DbContext) (transaction : Int)
    (db : S) (actions : List (Action S)) (status : Int) (final : Server S) : Prop where
  call : ∃ c, run (fun c (a : Action S) => Call.step dbc c a.event) (Call.start transaction)
    actions = some c ∧ c.pc = .returned status
  server : Passes (Server.allowed effect) Server.after { db } actions
  final : actions.foldl Server.after { db } = final

/-! ## Counting effects -/

/-- The effects on the database are as many as the server applied commits, and the call accounts
for all of them whose reply arrived. -/
structure Counted {S : Type} (effect : S → S → Prop) (db : S) (c : Call) (s : Server S) : Prop where
  effects : Iterated effect s.applied db s.db
  replies : s.applied = s.replyLost + if c.pc = .returned OK then 1 else 0
  bound : s.applied ≤ c.txnCount ∧ s.applied ≤ 2
  attempts : c.pc = .executing ∨ c.pc = .committing → s.applied < c.txnCount ∧ c.txnCount ≤ 2
  executed : c.pc = .committing → ∃ result, s.uncommitted = some result ∧ effect s.db result
  status : c.pc ≠ .returned OK → c.status ≠ OK

variable {S : Type} {effect : S → S → Prop} {db : S} {dbc : DbContext}

/-- Only the uncommitted part changes, and the call neither returns OK nor goes on to execute or
commit. -/
theorem Counted.frame {c c' : Call} {s s' : Server S} (h : Counted effect db c s)
    (same : s'.db = s.db ∧ s'.applied = s.applied ∧ s'.replyLost = s.replyLost)
    (before : c.pc ≠ .returned OK) (count : c'.txnCount = c.txnCount) (status : c'.status ≠ OK)
    (after : c'.pc ≠ .returned OK ∧ c'.pc ≠ .executing ∧ c'.pc ≠ .committing) :
    Counted effect db c' s' := by
  obtain ⟨sameDb, sameApplied, sameLost⟩ := same
  obtain ⟨notOk, notExecuting, notCommitting⟩ := after
  have replies := h.replies
  rw [if_neg before] at replies
  constructor
  · rw [sameApplied, sameDb]
    exact h.effects
  · rw [if_neg notOk, sameApplied, sameLost, replies]
  · rw [sameApplied, count]
    exact h.bound
  · rintro (at' | at')
    · exact absurd at' notExecuting
    · exact absurd at' notCommitting
  · exact fun at' => absurd at' notCommitting
  · exact fun _ => status

/-- A reconnection leads back to an execution, or out of the loop with the failure's status. -/
theorem Counted.again {c : Call} {s : Server S} (h : Counted effect db c s)
    (before : c.pc ≠ .returned OK) :
    Counted effect db (Call.attempt c.transaction c.txnCount c.status) s := by
  have failed := h.status before
  have replies := h.replies
  rw [if_neg before] at replies
  obtain ⟨bound, twice⟩ := h.bound
  unfold Call.attempt
  split
  · cases known : knownTransaction c.transaction
    · exact ⟨h.effects, by simpa [ERROR, OK] using replies, ⟨by simp; omega, twice⟩, by simp,
        by simp, fun _ => failed⟩
    · exact ⟨h.effects, by simpa using replies, ⟨by simp; omega, twice⟩,
        fun _ => ⟨by simp; omega, by simp; omega⟩, by simp, fun _ => failed⟩
  · exact ⟨h.effects, by simpa [failed] using replies, ⟨by simp; omega, twice⟩, by simp, by simp,
      fun _ => failed⟩

/-- While the call reconnects, nothing reaches a server's database. -/
theorem Connect.step_server {conn conn' : Connect} {a : Action S}
    (stepped : conn.step dbc a.event = some conn') (s : Server S) : s.after a = s := by
  cases a with
  | connect | time | sleep => rfl
  | execute | executeFailed | commit | rollback | disconnect => cases conn <;> cases stepped

/-- Only a commit changes the database. -/
theorem Server.after_frame (s : Server S) (a : Action S) (other : ∀ outcome, a ≠ .commit outcome) :
    (s.after a).db = s.db ∧ (s.after a).applied = s.applied ∧
      (s.after a).replyLost = s.replyLost := by
  cases a with
  | commit outcome => exact absurd rfl (other outcome)
  | rollback outcome => cases outcome <;> exact ⟨rfl, rfl, rfl⟩
  | execute | executeFailed | disconnect | connect | time | sleep => exact ⟨rfl, rfl, rfl⟩

theorem afterExecute_ne_executing (rc : Int) : afterExecute rc ≠ .executing := by
  unfold afterExecute
  split
  · nofun
  · split <;> nofun

theorem Counted.execute {c : Call} {s : Server S} {a : Action S} {rc flag : Int}
    (h : Counted effect db c s) (at' : c.pc = .executing) (seen : a.event = .executed rc flag)
    (allowed : s.allowed effect a) :
    Counted effect db { c with pc := afterExecute (resultCode c.transaction rc flag) }
      (s.after a) := by
  have before : c.pc ≠ .returned OK := by simp [at']
  by_cases ok : resultCode c.transaction rc flag = OK
  · have replies := h.replies
    rw [if_neg before] at replies
    have committing : afterExecute (resultCode c.transaction rc flag) = .committing := if_pos ok
    rw [committing]
    cases a with
    | execute result flag' =>
      exact ⟨h.effects, by simpa [Server.after] using replies, h.bound,
        fun _ => h.attempts (.inl at'), fun _ => ⟨result, rfl, allowed⟩, fun _ => h.status before⟩
    | executeFailed rc' flag' left =>
      obtain ⟨rfl, -⟩ : rc' = rc ∧ flag' = flag := by simpa [Action.event] using seen
      exact absurd (resultCode_ok ok) allowed
    | commit | rollback | disconnect | connect | time | sleep => cases seen
  · have other : ∀ outcome, a ≠ .commit outcome := fun outcome same => by
      subst same
      cases seen
    refine h.frame (s.after_frame a other) before rfl (h.status before) ⟨?_, ?_, ?_⟩
    · unfold afterExecute
      rw [if_neg ok]
      split <;> nofun
    · exact afterExecute_ne_executing _
    · unfold afterExecute
      rw [if_neg ok]
      split <;> nofun

/-- A COMMIT applied is one more effect, whether or not its reply arrives. -/
theorem Server.apply_effects {c : Call} {s : Server S} (h : Counted effect db c s)
    (at' : c.pc = .committing) : Iterated effect s.apply.applied db s.apply.db := by
  obtain ⟨result, uncommitted, done⟩ := h.executed at'
  have db' : s.apply.db = result := by simp [Server.apply, uncommitted]
  rw [db']
  exact .succ h.effects done

theorem Counted.commitOk {c : Call} {s : Server S} {a : Action S} (h : Counted effect db c s)
    (at' : c.pc = .committing) (seen : a.event = .committed OK) :
    Counted effect db { c with status := OK, pc := .returned OK } (s.after a) := by
  have replies := h.replies
  rw [if_neg (by simp [at'])] at replies
  obtain ⟨attempts, twice⟩ := h.attempts (.inr at')
  cases a with
  | commit outcome =>
    cases outcome with
    | acknowledged =>
      refine ⟨Server.apply_effects h at', ?_, ⟨?_, ?_⟩, by simp, by simp, by simp⟩
      · simp [Server.after, Server.apply, replies]
      · simp only [Server.after, Server.apply]; omega
      · simp only [Server.after, Server.apply]; omega
    | replyLost | lost | refused => cases seen
  | execute | executeFailed | rollback | disconnect | connect | time | sleep => cases seen

theorem Counted.commitFailed {c : Call} {s : Server S} {a : Action S} {status : Int}
    (h : Counted effect db c s) (at' : c.pc = .committing) (failed : status ≠ OK)
    (seen : a.event = .committed status) :
    Counted effect db { c with status, pc := .disconnecting } (s.after a) := by
  have replies := h.replies
  rw [if_neg (by simp [at'])] at replies
  obtain ⟨attempts, twice⟩ := h.attempts (.inr at')
  cases a with
  | commit outcome =>
    cases outcome with
    | acknowledged =>
      obtain rfl : OK = status := by simpa [Action.event, CommitOutcome.status,
        commitTransactionLibpq] using seen
      exact absurd rfl failed
    | replyLost =>
      refine ⟨Server.apply_effects h at', ?_, ⟨?_, ?_⟩, by simp, by simp, fun _ => failed⟩
      · simp [Server.after, Server.apply, replies]
      · simp only [Server.after, Server.apply]; omega
      · simp only [Server.after, Server.apply]; omega
    | lost | refused =>
      exact h.frame ⟨rfl, rfl, rfl⟩ (by simp [at']) rfl failed (by simp)
  | execute | executeFailed | rollback | disconnect | connect | time | sleep => cases seen

theorem Counted.step {c c' : Call} {s : Server S} {a : Action S} (h : Counted effect db c s)
    (stepped : c.step dbc a.event = some c') (allowed : s.allowed effect a) :
    Counted effect db c' (s.after a) := by
  have step := Call.step_cases stepped
  generalize seen : a.event = e at step
  have same (commit : ∀ status, e ≠ .committed status) := s.after_frame a fun outcome is => by
    subst is
    exact commit _ seen.symm
  cases step with
  | execute rc flag at' => exact h.execute at' seen allowed
  | commit at' => exact h.commitOk at' seen
  | commitFailed status at' failed => exact h.commitFailed at' failed seen
  | rollback at' =>
    exact h.frame (same (by simp)) (by simp [at']) rfl (by simp [OK, STATUS_ROLLBACK])
      (by simp [OK, STATUS_ROLLBACK])
  | rollbackFailed status at' failed =>
    have notOk : status ≠ OK := by
      cases a with
      | rollback outcome =>
        obtain rfl : outcome.status = status := by simpa [Action.event] using seen
        cases outcome <;> decide
      | execute | executeFailed | commit | disconnect | connect | time | sleep => cases seen
    exact h.frame (same (by simp)) (by simp [at']) rfl notOk (by simp)
  | disconnect rc at' =>
    have before : c.pc ≠ .returned OK := by simp [at']
    exact h.frame (same (by simp)) before rfl (h.status before) (by simp)
  | expire tt at' late =>
    have before : c.pc ≠ .returned OK := by simp [at']
    exact h.frame (same (by simp)) before rfl (h.status before) (by simp [OK, ERROR])
  | reconnect tt at' early =>
    have before : c.pc ≠ .returned OK := by simp [at']
    exact h.frame (same (by simp)) before rfl (h.status before) (by simp)
  | connected e at' step =>
    rw [Connect.step_server (seen ▸ step) s]
    exact h.again (by simp [at'])
  | connectFailed e rc at' failed step =>
    have before : c.pc ≠ .returned OK := by simp [at']
    rw [Connect.step_server (seen ▸ step) s]
    exact h.frame ⟨rfl, rfl, rfl⟩ before rfl (h.status before) (by simp)
  | connecting e at' step running =>
    have before : c.pc ≠ .returned OK := by simp [at']
    rw [Connect.step_server (seen ▸ step) s]
    exact h.frame ⟨rfl, rfl, rfl⟩ before rfl (h.status before) (by simp)
  | sleep result pc at' next =>
    have before : c.pc ≠ .returned OK := by simp [at']
    refine h.frame (same (by simp)) before rfl (h.status before) ?_
    obtain rfl | ⟨rest, rfl⟩ := next <;> simp

theorem Counted.start (effect : S → S → Prop) (db : S) (transaction : Int) :
    Counted effect db (Call.start transaction) { db } := by
  have known : (Call.start transaction).pc = .executing ∨
      (Call.start transaction).pc = .returned ERROR := by
    cases h : knownTransaction transaction <;> simp [Call.start, Call.attempt, h]
  have notOk : (Call.start transaction).pc ≠ .returned OK := by
    obtain at' | at' := known <;> simp [at', OK, ERROR]
  have notCommitting : (Call.start transaction).pc ≠ .committing := by
    obtain at' | at' := known <;> simp [at']
  have count : (Call.start transaction).txnCount = 1 := rfl
  have status : (Call.start transaction).status ≠ OK := by
    show (0 : Int) ≠ 1
    decide
  exact ⟨.zero db, by rw [if_neg notOk], by simp, fun _ => ⟨by simp [count], by simp [count]⟩,
    fun at' => absurd at' notCommitting, fun _ => status⟩

/-- A commit that the server applied and the client never heard of. -/
def Action.isReplyLost : Action S → Bool
  | .commit .replyLost => true
  | _ => false

theorem Server.replyLost_foldl (actions : List (Action S)) (s : Server S) :
    (actions.foldl Server.after s).replyLost = s.replyLost + actions.countP Action.isReplyLost := by
  induction actions generalizing s with
  | nil => rfl
  | cons a actions ih =>
    rw [List.foldl_cons, ih, List.countP_cons]
    have first : (s.after a).replyLost = s.replyLost + if a.isReplyLost then 1 else 0 := by
      cases a with
      | commit outcome => cases outcome <;> rfl
      | rollback outcome => cases outcome <;> rfl
      | execute | executeFailed | disconnect | connect | time | sleep => rfl
    omega

/-- A call has as many effects as COMMITs were applied with their reply lost, one more if it
returns OK, and never more than two. Where no reply is lost, that is one effect if it returns OK
and none otherwise. -/
theorem call_effects {transaction : Int} {actions : List (Action S)} {status : Int}
    {final : Server S} (h : Schedule effect dbc transaction db actions status final) :
    Iterated effect (actions.countP Action.isReplyLost + if status = OK then 1 else 0)
        db final.db ∧
      actions.countP Action.isReplyLost + (if status = OK then 1 else 0) ≤ 2 ∧
      (actions.countP Action.isReplyLost = 0 →
        (status = OK → effect db final.db) ∧ (status ≠ OK → final.db = db)) := by
  obtain ⟨⟨c, ran, returned⟩, server, rfl⟩ := h
  have counted : Counted effect db c (actions.foldl Server.after { db }) :=
    followed (fun _ _ _ _ inv stepped allowed => inv.step stepped allowed) ran server
      (.start effect db transaction)
  have lost := Server.replyLost_foldl actions { db }
  have replies := counted.replies
  have bound := counted.bound.2
  have effects := counted.effects
  simp only [returned, Pc.returned.injEq, zero_add] at replies lost
  rw [replies, lost] at effects bound
  refine ⟨effects, bound, fun none => ⟨fun ok => ?_, fun failed => ?_⟩⟩
  · rw [none, if_pos ok] at effects
    exact iterated_one.mp effects
  · rw [none, if_neg failed] at effects
    exact iterated_zero.mp effects

/-- The connection drops after the COMMIT was applied; the transaction is executed again. -/
def replyLostSchedule : List (Action Nat) :=
  [.execute 1 0, .commit .replyLost, .disconnect OK, .time 0, .time 0, .connect OK, .execute 2 0,
    .commit .acknowledged]

theorem replyLostSchedule_valid :
    Schedule (fun s t : Nat => t = s + 1) ⟨0, ⟨0, 0⟩⟩ PAYMENT 0 replyLostSchedule OK
      { db := 2, applied := 2, replyLost := 1 } :=
  ⟨⟨_, rfl, rfl⟩, by simp [replyLostSchedule, Passes, Server.allowed, Server.after, Server.apply],
    rfl⟩

theorem call_effects_replyLost :
    Iterated (fun s t : Nat => t = s + 1) 2 0 2 :=
  (call_effects replyLostSchedule_valid).1

/-- One call that returns OK may have the effect of two executions. -/
theorem call_effects_not_once :
    ¬ ∀ (actions : List (Action Nat)) (status : Int) (final : Server Nat),
      Schedule (fun s t : Nat => t = s + 1) ⟨0, ⟨0, 0⟩⟩ PAYMENT 0 actions status final →
        (final.db = 0 ∨ final.db = 1) ∧ (status = OK → final.db = 1) ∧
          (status ≠ OK → final.db = 0) := by
  intro once
  have two := (once replyLostSchedule OK _ replyLostSchedule_valid).1
  simp at two

end Dbt2
