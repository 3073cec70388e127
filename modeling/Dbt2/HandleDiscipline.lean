import Dbt2.ProcessTransaction

/-!
# Connection handles

The two programs that keep one handle over a run: a driver process with its terminals, and a
database worker of the client. A call of `process_transaction` that gives up reconnecting leaves
the handle disconnected, and neither program looks. `handle_discipline` says that this, and a
worker told to exit before it first connects, are the only ways to misuse a handle.
-/

namespace Dbt2

open Transition

/-! ## The discipline -/

inductive Handle where
  | closed
  | opened
  deriving DecidableEq

def Handle.after (h : Handle) : Event → Handle
  | .connected rc => if rc = OK then .opened else .closed
  | .disconnected _ => .closed
  | _ => h

def Event.usesHandle : Event → Bool
  | .executed .. | .committed _ | .rolledBack _ | .disconnected _ => true
  | .connected _ | .time _ | .slept _ => false

def Event.isConnect : Event → Bool
  | .connected rc => rc = OK
  | _ => false

def Event.isDisconnect : Event → Bool
  | .disconnected _ => true
  | _ => false

/-- Operations other than a connect want an open handle. -/
def Handle.allowed (h : Handle) (e : Event) : Prop := e.usesHandle → h = .opened

/-- Every operation is on an open handle, and no more disconnects than successful connects have
happened at any time. -/
structure Disciplined (es : List Event) : Prop where
  opened : Passes Handle.allowed Handle.after .closed es
  matched : ∀ before, before <+: es →
    before.countP Event.isDisconnect ≤ before.countP Event.isConnect

theorem passes_append {μ ε : Type} {allowed : μ → ε → Prop} {after : μ → ε → μ} {m : μ}
    {es fs : List ε} (h : Passes allowed after m (es ++ fs)) : Passes allowed after m es := by
  induction es generalizing m with
  | nil => trivial
  | cons e es ih => exact ⟨h.1, ih h.2⟩

theorem disconnects_le {h : Handle} {es : List Event}
    (passes : Passes Handle.allowed Handle.after h es) :
    es.countP Event.isDisconnect ≤
      es.countP Event.isConnect + if h = .opened then 1 else 0 := by
  induction es generalizing h with
  | nil => simp
  | cons e es ih =>
    have rest := ih passes.2
    have first := passes.1
    rw [List.countP_cons, List.countP_cons]
    cases e with
    | connected rc =>
      by_cases ok : rc = OK <;> simp [Handle.after, Event.isConnect, Event.isDisconnect, ok] at *
      all_goals omega
    | disconnected rc =>
      have open' : h = .opened := first rfl
      simp [Handle.after, Event.isConnect, Event.isDisconnect, open'] at *
      omega
    | executed | committed | rolledBack | time | slept =>
      simp only [Event.isConnect, Event.isDisconnect, Bool.false_eq_true, if_false, add_zero]
      exact rest

/-- That each disconnect needs a handle of its own follows. -/
theorem disciplined_of_passes {es : List Event}
    (passes : Passes Handle.allowed Handle.after .closed es) : Disciplined es := by
  refine ⟨passes, ?_⟩
  rintro before ⟨rest, rfl⟩
  simpa using disconnects_le (passes_append passes)

/-! ## One call -/

/-- The branch of the reconnect loop that gives up is not taken. -/
def Call.inTime (dbc : DbContext) (c : Call) : Event → Bool
  | .time tt => c.pc ≠ .deadline ∨ dbc.expired tt = false
  | _ => true

/-- Where the call relies on an open handle, or hands it back. -/
def Call.Holds (c : Call) (h : Handle) : Prop :=
  match c.pc with
  | .executing | .committing | .rollingBack | .disconnecting | .returned _ => h = .opened
  | .deadline | .connecting _ | .sleeping _ => True

theorem Connect.step_handle {dbc : DbContext} {conn conn' : Connect} {e : Event} (h : Handle)
    (stepped : conn.step dbc e = some conn') :
    h.allowed e ∧ (conn' = .returned OK → h.after e = .opened) := by
  unfold Connect.step at stepped
  split at stepped
  case h_1 tt =>
    obtain rfl := Option.some.inj stepped
    refine ⟨nofun, fun ok => ?_⟩
    split at ok <;> simp [ERROR, OK] at ok
  case h_2 rc =>
    obtain rfl := Option.some.inj stepped
    refine ⟨nofun, fun ok => ?_⟩
    by_cases connected : rc = OK
    · simp [Handle.after, connected]
    · simp [connected] at ok
  case h_3 ts result =>
    obtain rfl := Option.some.inj stepped
    refine ⟨nofun, fun ok => ?_⟩
    split at ok <;> cases ok
  case h_4 => cases stepped

theorem Call.attempt_holds {transaction : Int} {txnCount : Nat} {status : Int} :
    (Call.attempt transaction txnCount status).Holds .opened := by
  unfold Call.attempt
  split
  · cases known : knownTransaction transaction <;> simp [Call.Holds]
  · rfl

theorem Call.holds_of_pc {c : Call} {h : Handle}
    (away : c.pc = .deadline ∨ (∃ conn, c.pc = .connecting conn) ∨ ∃ ts, c.pc = .sleeping ts) :
    c.Holds h := by
  unfold Call.Holds
  obtain at' | ⟨conn, at'⟩ | ⟨ts, at'⟩ := away <;> rw [at'] <;> trivial

theorem Call.step_holds {dbc : DbContext} {c c' : Call} {e : Event} {h : Handle}
    (holds : c.Holds h) (stepped : c.step dbc e = some c') (inTime : c.inTime dbc e) :
    h.allowed e ∧ c'.Holds (h.after e) := by
  unfold Call.Holds at holds
  cases Call.step_cases stepped with
  | execute rc flag at' =>
    rw [at'] at holds
    refine ⟨fun _ => holds, ?_⟩
    unfold Call.Holds afterExecute
    split <;> first | exact holds | trivial
  | commit at' | rollback at' =>
    rw [at'] at holds
    exact ⟨fun _ => holds, holds⟩
  | commitFailed status at' failed | rollbackFailed status at' failed =>
    rw [at'] at holds
    exact ⟨fun _ => holds, holds⟩
  | disconnect rc at' =>
    rw [at'] at holds
    exact ⟨fun _ => holds, Call.holds_of_pc (.inl rfl)⟩
  | expire tt at' late =>
    simp [Call.inTime, at', late] at inTime
  | reconnect tt at' early => exact ⟨nofun, Call.holds_of_pc (.inr (.inl ⟨_, rfl⟩))⟩
  | connected e at' step =>
    obtain ⟨allowed, opened⟩ := Connect.step_handle h step
    rw [opened rfl]
    exact ⟨allowed, Call.attempt_holds⟩
  | connectFailed e rc at' failed step =>
    exact ⟨(Connect.step_handle h step).1, Call.holds_of_pc (.inr (.inr ⟨_, rfl⟩))⟩
  | connecting e at' step running =>
    exact ⟨(Connect.step_handle h step).1, Call.holds_of_pc (.inr (.inl ⟨_, rfl⟩))⟩
  | sleep result pc at' next =>
    refine ⟨nofun, Call.holds_of_pc ?_⟩
    obtain rfl | ⟨rest, rfl⟩ := next
    · exact .inl rfl
    · exact .inr (.inr ⟨rest, rfl⟩)

/-! ## A driver process -/

/-- A terminal waits for one of its timers, unless it stopped. -/
inductive Terminal where
  | thinking
  | keying (transaction : Int)
  | finished
  deriving DecidableEq

inductive Driver where
  | connecting (c : Connect)
  | running (terminals : List Terminal)
  | calling (terminals : List Terminal) (i : Nat) (call : Call)
  | logging (terminals : List Terminal) (i : Nat)
  | disconnecting
  | exited (code : Int)
  deriving DecidableEq

/-- The timers of the terminals, the end of the event loop, and the answers to what the process
asked. -/
inductive DriverEvent where
  | thinkingTime (i : Nat) (transaction : Int)
  | keyingTime (i : Nat)
  | loopEnd
  | answer (e : Event)
  deriving DecidableEq

def DriverEvent.answer? : DriverEvent → Option Event
  | .answer e => some e
  | _ => none

/-- The transactions of the mix. -/
def mixTransactions : List Int := [NEW_ORDER, PAYMENT, ORDER_STATUS, DELIVERY, STOCK_LEVEL]

/-- A process with `n` terminals, from its first connect on. -/
def Driver.step (dbc : DbContext) (n : Nat) : Driver → DriverEvent → Option Driver
  | .connecting c, .answer e =>
    (c.step dbc e).map fun c' =>
      match c' with
      | .returned rc => if rc = OK then .running (List.replicate n .thinking) else .exited 99
      | c' => .connecting c'
  | .running terminals, .thinkingTime i transaction =>
    if terminals[i]? = some .thinking ∧ transaction ∈ mixTransactions then
      some (.running (terminals.set i (.keying transaction)))
    else none
  | .running terminals, .keyingTime i =>
    match terminals[i]? with
    | some (.keying transaction) => some (.calling terminals i (Call.start transaction))
    | _ => none
  | .running terminals, .loopEnd =>
    if ∀ t ∈ terminals, t = .finished then some .disconnecting else none
  | .calling terminals i call, .answer e =>
    (call.step dbc e).map fun call' =>
      match call'.pc with
      | .returned _ => .logging terminals i
      | _ => .calling terminals i call'
  | .logging terminals i, .answer (.time tt) =>
    some (.running (terminals.set i
      (if dbc.stopTime = 0 ∨ tt < dbc.stopTime then .thinking else .finished)))
  | .disconnecting, .answer (.disconnected _) => some (.exited OK)
  | _, _ => none

def Driver.start : Driver := .connecting .deadline

/-- No call gives up reconnecting. -/
def Driver.inTime (dbc : DbContext) : Driver → DriverEvent → Bool
  | .calling _ _ call, .answer e => call.inTime dbc e
  | _, _ => true

/-- Between calls the handle is open, in a call it is as the call needs it. -/
def Driver.Holds (s : Driver) (h : Handle) : Prop :=
  match s with
  | .connecting _ | .exited _ => True
  | .running _ | .logging _ _ | .disconnecting => h = .opened
  | .calling _ _ call => call.Holds h

theorem Call.start_holds (transaction : Int) : (Call.start transaction).Holds .opened :=
  Call.attempt_holds

/-- A call that returned hands the handle back open. -/
theorem Call.holds_returned {c : Call} {h : Handle} {status : Int} (holds : c.Holds h)
    (returned : c.pc = .returned status) : h = .opened := by
  unfold Call.Holds at holds
  rw [returned] at holds
  exact holds

theorem Driver.step_holds {dbc : DbContext} {n : Nat} {s s' : Driver} {h : Handle}
    {e : DriverEvent} (holds : s.Holds h) (stepped : s.step dbc n e = some s')
    (inTime : s.inTime dbc e) :
    (∀ x, e.answer? = some x → h.allowed x) ∧ s'.Holds (e.answer?.elim h h.after) := by
  unfold Driver.step at stepped
  split at stepped
  case h_1 c e =>
    obtain ⟨c', step, same⟩ := Option.map_eq_some_iff.mp stepped
    obtain ⟨allowed, opened⟩ := Connect.step_handle h step
    refine ⟨fun x is => Option.some.inj is ▸ allowed, ?_⟩
    split at same
    case h_1 rc =>
      by_cases ok : rc = OK
      · subst ok; obtain rfl := same; exact opened rfl
      · rw [if_neg ok] at same; obtain rfl := same; trivial
    case h_2 => obtain rfl := same; trivial
  case h_2 terminals i transaction =>
    split at stepped
    · obtain rfl := Option.some.inj stepped; exact ⟨nofun, holds⟩
    · cases stepped
  case h_3 terminals i =>
    split at stepped
    · obtain rfl := Option.some.inj stepped
      refine ⟨nofun, ?_⟩
      obtain rfl : h = .opened := holds
      exact Call.start_holds _
    · cases stepped
  case h_4 terminals =>
    split at stepped
    · obtain rfl := Option.some.inj stepped; exact ⟨nofun, holds⟩
    · cases stepped
  case h_5 terminals i call e =>
    obtain ⟨call', step, same⟩ := Option.map_eq_some_iff.mp stepped
    obtain ⟨allowed, next⟩ := Call.step_holds holds step inTime
    refine ⟨fun x is => Option.some.inj is ▸ allowed, ?_⟩
    split at same
    case h_1 status returned => obtain rfl := same; exact Call.holds_returned next returned
    case h_2 => obtain rfl := same; exact next
  case h_6 terminals i tt =>
    obtain rfl := Option.some.inj stepped
    exact ⟨fun x is => Option.some.inj is ▸ nofun, holds⟩
  case h_7 rc =>
    obtain rfl := Option.some.inj stepped
    exact ⟨fun x is => Option.some.inj is ▸ fun _ => holds, trivial⟩
  case h_8 => cases stepped

/-! ## A database worker -/

inductive Worker where
  | starting
  | connecting (c : Connect)
  | looping
  | dequeueing
  | calling (call : Call)
  | disconnecting
  | ended
  deriving DecidableEq

inductive WorkerEvent where
  | exiting (flag : Bool)
  | dequeued (transaction : Option Int)
  | answer (e : Event)
  deriving DecidableEq

def WorkerEvent.answer? : WorkerEvent → Option Event
  | .answer e => some e
  | _ => none

/-- The context of a worker is zeroed, so it has no deadline and does not pause. -/
def Worker.dbc : DbContext := { stopTime := 0, tsRetry := { tvSec := 0, tvNsec := 0 } }

/-- Sending the response and giving the node back do not touch the handle. -/
def Worker.step : Worker → WorkerEvent → Option Worker
  | .starting, .exiting flag => some (if flag then .looping else .connecting .deadline)
  | .connecting c, .answer e =>
    (c.step dbc e).map fun c' =>
      match c' with
      | .returned rc => if rc = OK then .looping else .ended
      | c' => .connecting c'
  | .looping, .exiting flag => some (if flag then .disconnecting else .dequeueing)
  | .dequeueing, .dequeued none => some .looping
  | .dequeueing, .dequeued (some transaction) =>
    some (if (Call.start transaction).pc = .executing then .calling (Call.start transaction)
          else .looping)
  | .calling call, .answer e =>
    (call.step dbc e).map fun call' =>
      match call'.pc with
      | .returned _ => .looping
      | _ => .calling call'
  | .disconnecting, .answer (.disconnected _) => some .ended
  | _, _ => none

/-- The worker is not told to exit before it connects. -/
def Worker.connects : Worker → WorkerEvent → Bool
  | .starting, .exiting flag => !flag
  | _, _ => true

def Worker.Holds (s : Worker) (h : Handle) : Prop :=
  match s with
  | .starting | .connecting _ | .ended => True
  | .looping | .dequeueing | .disconnecting => h = .opened
  | .calling call => call.Holds h

/-- Without a deadline no call gives up. -/
theorem Worker.call_inTime (c : Call) (e : Event) : c.inTime Worker.dbc e := by
  cases e with
  | time tt => simp [Call.inTime, Worker.dbc, DbContext.expired]
  | executed | committed | rolledBack | disconnected | connected | slept => rfl

theorem Worker.step_holds {s s' : Worker} {h : Handle} {e : WorkerEvent} (holds : s.Holds h)
    (stepped : s.step e = some s') (connects : s.connects e) :
    (∀ x, e.answer? = some x → h.allowed x) ∧ s'.Holds (e.answer?.elim h h.after) := by
  unfold Worker.step at stepped
  split at stepped
  case h_1 flag =>
    obtain rfl : flag = false := by simpa [Worker.connects] using connects
    obtain rfl := Option.some.inj stepped
    exact ⟨nofun, trivial⟩
  case h_2 c e =>
    obtain ⟨c', step, same⟩ := Option.map_eq_some_iff.mp stepped
    obtain ⟨allowed, opened⟩ := Connect.step_handle h step
    refine ⟨fun x is => Option.some.inj is ▸ allowed, ?_⟩
    split at same
    case h_1 rc =>
      by_cases ok : rc = OK
      · subst ok; obtain rfl := same; exact opened rfl
      · rw [if_neg ok] at same; obtain rfl := same; trivial
    case h_2 => obtain rfl := same; trivial
  case h_3 flag =>
    obtain rfl := Option.some.inj stepped
    refine ⟨nofun, ?_⟩
    split <;> exact holds
  case h_4 => obtain rfl := Option.some.inj stepped; exact ⟨nofun, holds⟩
  case h_5 transaction =>
    obtain rfl := Option.some.inj stepped
    refine ⟨nofun, ?_⟩
    obtain rfl : h = .opened := holds
    split
    · exact Call.start_holds transaction
    · rfl
  case h_6 call e =>
    obtain ⟨call', step, same⟩ := Option.map_eq_some_iff.mp stepped
    obtain ⟨allowed, next⟩ := Call.step_holds holds step (Worker.call_inTime call e)
    refine ⟨fun x is => Option.some.inj is ▸ allowed, ?_⟩
    split at same
    case h_1 status returned => obtain rfl := same; exact Call.holds_returned next returned
    case h_2 => obtain rfl := same; exact next
  case h_7 rc =>
    obtain rfl := Option.some.inj stepped
    exact ⟨fun x is => Option.some.inj is ▸ fun _ => holds, trivial⟩
  case h_8 => cases stepped

/-! ## Whole runs -/

/-- A driver process none of whose calls gives up reconnecting, and a worker that is not told to
exit before it connects, keep the discipline at every point of every run. -/
theorem handle_discipline (dbc : DbContext) (n : Nat) :
    (∀ (es : List DriverEvent) (s : Driver),
      run (Driver.step dbc n) Driver.start es = some s →
      Along (Driver.step dbc n) (Driver.inTime dbc) Driver.start es →
        Disciplined (es.filterMap DriverEvent.answer?)) ∧
    (∀ (es : List WorkerEvent) (s : Worker), run Worker.step .starting es = some s →
      Along Worker.step Worker.connects .starting es →
        Disciplined (es.filterMap WorkerEvent.answer?)) := by
  constructor
  · intro es s ran inTime
    have start : Driver.start.Holds .closed := trivial
    exact disciplined_of_passes (passes_filterMap (monitored
      (fun _ _ e _ holds stepped ok => Driver.step_holds (e := e) holds stepped ok) ran inTime
      start).1)
  · intro es s ran connects
    have start : Worker.starting.Holds .closed := trivial
    exact disciplined_of_passes (passes_filterMap (monitored
      (fun _ _ e _ holds stepped ok => Worker.step_holds (e := e) holds stepped ok) ran connects
      start).1)

/-- A run in which the first COMMIT meets a lost connection and the reconnection succeeds. -/
def reconnectRun : List DriverEvent :=
  [.answer (.time 0), .answer (.connected OK), .thinkingTime 0 PAYMENT, .keyingTime 0,
    .answer (.executed OK 0), .answer (.committed RECONNECT), .answer (.disconnected OK),
    .answer (.time 5), .answer (.time 5), .answer (.connected OK), .answer (.executed OK 0),
    .answer (.committed OK), .answer (.time 12), .loopEnd, .answer (.disconnected OK)]

theorem handle_discipline_reconnect :
    Disciplined (reconnectRun.filterMap DriverEvent.answer?) :=
  (handle_discipline ⟨10, ⟨0, 0⟩⟩ 1).1 reconnectRun (.exited OK) (by decide) (by decide)

/-- The deadline passes while the first call reconnects; the process then disconnects the handle
it no longer has. -/
def expiredRun : List DriverEvent :=
  [.answer (.time 0), .answer (.connected OK), .thinkingTime 0 PAYMENT, .keyingTime 0,
    .answer (.executed ERROR 0), .answer (.rolledBack RECONNECT), .answer (.disconnected OK),
    .answer (.time 11), .answer (.time 11), .loopEnd, .answer (.disconnected OK)]

theorem handle_discipline_expired :
    run (Driver.step ⟨10, ⟨0, 0⟩⟩ 1) Driver.start expiredRun = some (.exited OK) ∧
      ¬ Disciplined (expiredRun.filterMap DriverEvent.answer?) := by
  refine ⟨by decide, fun disciplined => ?_⟩
  have twice := disciplined.matched _ (List.prefix_refl _)
  exact absurd twice (by decide)

end Dbt2
