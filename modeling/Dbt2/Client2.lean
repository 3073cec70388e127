import Dbt2.HandleDiscipline

/-!
# The event-driven client

A child process of `client2`. It connects to the database once, and every terminal that it accepts
gets a copy of the context. A callback that reconnects changes the copy of its own terminal only.

* `Connections`: which connections are open, and what a call does to them;
* `Child`: the process, with one event for each callback;
* `single_connection_iff`: when all copies refer to one open connection.
-/

namespace Dbt2.Client2

open Transition

/-! ## Connections -/

/-- Each connection that is asked for has a number. -/
structure Connections where
  opened : List Nat
  next : Nat
  deriving DecidableEq

/-- A context that refers to a connection. -/
structure Context where
  connections : Connections
  conn : Nat
  deriving DecidableEq

namespace Context

/-- A connect that fails leaves the context with a connection that is not open. -/
def after (c : Context) : Event → Context
  | .disconnected _ =>
    { c with connections :=
        { c.connections with opened := c.connections.opened.filter (· ≠ c.conn) } }
  | .connected rc =>
    let next := c.connections.next
    { connections :=
        { opened := if rc = OK then next :: c.connections.opened else c.connections.opened
          next := next + 1 }
      conn := next }
  | _ => c

def isOpen (c : Context) : Bool := c.conn ∈ c.connections.opened

/-- Whether something is executed on a connection that is not open. -/
def misused : Context → List Event → Bool
  | _, [] => false
  | c, e :: es => (e.usesHandle && !c.isOpen) || misused (c.after e) es

end Context

/-! ## The process -/

structure RecvIo where
  socket : Int
  watched : Bool
  conn : Nat
  deriving DecidableEq

/-- `conn` is the connection of the listening data, of use while `accepting`. -/
structure Child where
  connections : Connections
  accepting : Bool
  conn : Nat
  ioVds : List RecvIo
  misused : Bool
  deriving DecidableEq

/-- A callback. -/
inductive Callback where
  | received (thissock : Int)
  | receiveFailed
  | parentClosed
  | request (i : Nat) (transaction : Int) (answers : List Event)
  | socketClosed (i : Nat)

namespace Child

/-- After the first connect. -/
def start (maxDriverConnections : Nat) : Child where
  connections := { opened := [0], next := 1 }
  accepting := true
  conn := 0
  ioVds := List.replicate maxDriverConnections { socket := 0, watched := false, conn := 0 }
  misused := false

/-- The terminal at a place, if its watcher is active. -/
def watchedAt (s : Child) (i : Nat) : Option RecvIo := s.ioVds[i]?.filter RecvIo.watched

def place (thissock : Int) : Nat := (thissock - 1).toNat

/-- A descriptor is not handed over again before it is closed. Where a place was used before, all
of it is zeroed and then set. -/
def recvSock (s : Child) (thissock : Int) : Option Child :=
  if thissock < 1 ∨ s.ioVds.length < thissock then some s
  else if (s.watchedAt (place thissock)).isSome then none
  else some { s with
    ioVds := s.ioVds.set (place thissock) { socket := thissock, watched := true, conn := s.conn } }

def processed (transaction : Int) (answers : List Event) : Bool :=
  match run (Call.step Worker.dbc) (Call.start transaction) answers with
  | some { pc := .returned _, .. } => true
  | _ => false

/-- `process_transaction` is given the context of the terminal. -/
def recvData (s : Child) (i : Nat) (r : RecvIo) (answers : List Event) : Child :=
  let c : Context := { connections := s.connections, conn := r.conn }
  let c' := answers.foldl Context.after c
  { s with
    connections := c'.connections
    ioVds := s.ioVds.set i { r with conn := c'.conn }
    misused := s.misused || c.misused answers }

/-- The watcher stops; the rest of the place stays. -/
def closeSock (s : Child) (i : Nat) (r : RecvIo) : Child :=
  { s with ioVds := s.ioVds.set i { r with watched := false } }

def step (s : Child) : Callback → Option Child
  | .received thissock => if s.accepting then s.recvSock thissock else none
  | .receiveFailed => if s.accepting then some s else none
  | .parentClosed => if s.accepting then some { s with accepting := false } else none
  | .request i transaction answers =>
    if processed transaction answers then
      (s.watchedAt i).map fun r => s.recvData i r answers
    else none
  | .socketClosed i => (s.watchedAt i).map (s.closeSock i)

/-- Every copy that a callback will use refers to one connection, which is open, and nothing was
asked of one that is not. -/
structure Single (s : Child) : Prop where
  same : ∃ conn ∈ s.connections.opened, (s.accepting = true → s.conn = conn) ∧
    ∀ i r, s.watchedAt i = some r → r.conn = conn
  unharmed : s.misused = false

/-- No other copy will be used. -/
def sole (s : Child) (i : Nat) : Bool :=
  !s.accepting && (List.range s.ioVds.length).all fun j => j = i || (s.watchedAt j).isNone

/-- A terminal may reconnect when there is no other. -/
def sound (s : Child) : Callback → Bool
  | .request i _ answers => !answers.any Event.isDisconnect || s.sole i
  | .received _ | .receiveFailed | .parentClosed | .socketClosed _ => true

end Child

/-! ## One call -/

/-- The numbers of connections have been given. -/
def Connections.Given (c : Connections) : Prop := ∀ conn ∈ c.opened, conn < c.next

section Call

variable {c : Context} {e : Event} {conn : Nat}

theorem Context.after_given (given : c.connections.Given) : (c.after e).connections.Given := by
  intro conn mem
  cases e with
  | disconnected rc => exact given conn (List.mem_of_mem_filter mem)
  | connected rc =>
    have mem : conn ∈ if rc = OK then c.connections.next :: c.connections.opened
        else c.connections.opened := mem
    change conn < c.connections.next + 1
    split at mem
    · obtain rfl | mem := List.mem_cons.mp mem
      · exact Nat.lt_succ_self _
      · exact Nat.lt_succ_of_lt (given conn mem)
    · exact Nat.lt_succ_of_lt (given conn mem)
  | executed | committed | rolledBack | time | slept => exact given conn mem

theorem Context.foldl_given (es : List Event) (given : c.connections.Given) :
    (es.foldl after c).connections.Given := by
  induction es generalizing c with
  | nil => exact given
  | cons e es ih => exact ih (after_given given)

/-- A closed connection is not opened again. -/
theorem Context.after_lost (lost : conn ∉ c.connections.opened ∧ conn < c.connections.next) :
    conn ∉ (c.after e).connections.opened ∧ conn < (c.after e).connections.next := by
  cases e with
  | disconnected rc => exact ⟨fun mem => lost.1 (List.mem_of_mem_filter mem), lost.2⟩
  | connected rc =>
    refine ⟨fun mem => ?_, Nat.lt_succ_of_lt lost.2⟩
    have mem : conn ∈ if rc = OK then c.connections.next :: c.connections.opened
        else c.connections.opened := mem
    split at mem
    · obtain rfl | mem := List.mem_cons.mp mem
      · exact absurd lost.2 (lt_irrefl _)
      · exact lost.1 mem
    · exact lost.1 mem
  | executed | committed | rolledBack | time | slept => exact lost

def Context.handle (c : Context) : Handle := if c.isOpen then .opened else .closed

theorem Context.handle_opened : c.handle = .opened ↔ c.conn ∈ c.connections.opened := by
  unfold handle isOpen
  by_cases mem : c.conn ∈ c.connections.opened <;> simp [mem]

/-- The connection of a context is a handle. -/
theorem Context.after_handle (given : c.connections.Given) :
    (c.after e).handle = c.handle.after e := by
  cases e with
  | disconnected rc => simp [handle, isOpen, after, Handle.after]
  | connected rc =>
    have fresh : c.connections.next ∉ c.connections.opened := fun mem => lt_irrefl _ (given _ mem)
    by_cases ok : rc = OK
    · simp [handle, isOpen, after, Handle.after, ok]
    · simp [handle, isOpen, after, Handle.after, ok, fresh]
  | executed | committed | rolledBack | time | slept => rfl

theorem Context.misused_append (es : List Event) :
    c.misused (es ++ [e]) = (c.misused es || (e.usesHandle && !(es.foldl after c).isOpen)) := by
  induction es generalizing c with
  | nil =>
    rw [List.nil_append, misused, misused, misused, Bool.or_false, Bool.false_or, List.foldl_nil]
  | cons f es ih => rw [List.cons_append, misused, misused, ih, Bool.or_assoc, List.foldl_cons]

/-- Where no connect is under way. -/
def settled : Pc → Bool
  | .executing | .committing | .rollingBack | .disconnecting | .returned _ => true
  | .deadline | .connecting _ | .sleeping _ => false

/-- What a call has done so far with the connection `conn` that it began with. -/
structure Serving (c : Context) (call : Call) (es : List Event) : Prop where
  given : (es.foldl Context.after c).connections.Given
  holds : call.Holds (es.foldl Context.after c).handle
  harmless : c.misused es = false
  kept : es.any Event.isDisconnect = false → es.foldl Context.after c = c ∧ settled call.pc = true
  lost : es.any Event.isDisconnect = true →
    c.conn ∉ (es.foldl Context.after c).connections.opened ∧
      c.conn < (es.foldl Context.after c).connections.next

theorem settled_step {call call' : Call} (stepped : call.step Worker.dbc e = some call')
    (here : settled call.pc = true) (other : e.isDisconnect = false) :
    settled call'.pc = true ∧ c.after e = c := by
  cases Call.step_cases stepped with
  | execute rc rollback at' =>
    refine ⟨?_, rfl⟩
    change settled (afterExecute _) = true
    unfold afterExecute
    split
    · rfl
    · split <;> rfl
  | commit | commitFailed | rollback | rollbackFailed => exact ⟨rfl, rfl⟩
  | disconnect => cases other
  | expire tt at' | reconnect tt at' | connected e at' | connectFailed e rc at' | connecting e at'
  | sleep result pc at' =>
    rw [at'] at here
    cases here

theorem Serving.step {call call' : Call} {es : List Event} (h : Serving c call es)
    (stepped : call.step Worker.dbc e = some call') : Serving c call' (es ++ [e]) := by
  obtain ⟨allowed, holds⟩ := Call.step_holds h.holds stepped (Worker.call_inTime call e)
  have last : (es ++ [e]).foldl Context.after c = (es.foldl Context.after c).after e :=
    List.foldl_concat ..
  have any : (es ++ [e]).any Event.isDisconnect =
      (es.any Event.isDisconnect || e.isDisconnect) := by
    rw [List.any_append, List.any_cons, List.any_nil, Bool.or_false]
  constructor
  · rw [last]
    exact Context.after_given h.given
  · rw [last, Context.after_handle h.given]
    exact holds
  · rw [Context.misused_append, h.harmless, Bool.false_or]
    cases uses : e.usesHandle with
    | false => rfl
    | true =>
      have opened := Context.handle_opened.mp (allowed uses)
      rw [Bool.true_and, Context.isOpen, decide_eq_true opened]
      rfl
  · intro none
    rw [any, Bool.or_eq_false_iff] at none
    obtain ⟨same, here⟩ := h.kept none.1
    rw [last, same]
    obtain ⟨here, kept⟩ := @settled_step c e _ _ stepped here none.2
    exact ⟨kept, here⟩
  · intro some
    rw [last]
    cases before : es.any Event.isDisconnect with
    | true => exact Context.after_lost (h.lost before)
    | false =>
      rw [any, before, Bool.false_or] at some
      cases e with
      | disconnected rc =>
        have opened := Context.handle_opened.mp (allowed rfl)
        have given := h.given
        rw [(h.kept before).1] at opened given ⊢
        exact ⟨by simp [Context.after], given _ opened⟩
      | _ => cases some

/-- What a call does with the connection that it begins with: it keeps it, or closes it for good
and ends with another one. -/
structure Served (c c' : Context) (answers : List Event) : Prop where
  opened : c'.conn ∈ c'.connections.opened
  harmless : c.misused answers = false
  kept : answers.any Event.isDisconnect = false → c' = c
  lost : answers.any Event.isDisconnect = true → c.conn ∉ c'.connections.opened

theorem served {transaction : Int} {answers : List Event} (given : c.connections.Given)
    (opened : c.conn ∈ c.connections.opened)
    (processed : Child.processed transaction answers = true) :
    Served c (answers.foldl Context.after c) answers := by
  unfold Child.processed at processed
  split at processed
  · next status ran =>
    have start : Serving c (Call.start transaction) [] := by
      refine ⟨given, ?_, rfl, fun _ => ⟨rfl, ?_⟩, nofun⟩
      · exact Context.handle_opened.mpr opened ▸ Call.start_holds transaction
      · unfold Call.start Call.attempt
        cases known : knownTransaction transaction <;> simp [settled]
    have ended : Serving c _ answers :=
      run_history (fun _ _ _ _ stepped _ h => h.step stepped) ran (fun _ _ => trivial) start
    exact ⟨Context.handle_opened.mp ended.holds, ended.harmless, fun none => (ended.kept none).1,
      fun some => (ended.lost some).1⟩
  · cases processed

end Call

/-! ## Runs -/

namespace Child

/-- The numbers that have been given are below the next. -/
structure Holds (s : Child) : Prop where
  single : s.Single
  given : s.connections.Given

section Steps

variable {s t : Child} {i j : Nat} {r : RecvIo}

theorem watchedAt_some (here : s.watchedAt i = some r) : s.ioVds[i]? = some r ∧ r.watched = true :=
  Option.filter_eq_some_iff.mp here

/-- Where one place was set, the others are as they were. -/
theorem watchedAt_set {r' : RecvIo} (set : t.ioVds = s.ioVds.set i r)
    (here : t.watchedAt j = some r') :
    (j = i ∧ r' = r ∧ r.watched = true) ∨ (j ≠ i ∧ s.watchedAt j = some r') := by
  obtain ⟨there, watched⟩ := watchedAt_some here
  rw [set] at there
  by_cases same : i = j
  · subst same
    obtain ⟨below, -⟩ := List.getElem?_eq_some_iff.mp there
    rw [List.length_set] at below
    rw [List.getElem?_set_self below] at there
    obtain rfl := Option.some_inj.mp there
    exact .inl ⟨rfl, rfl, watched⟩
  · rw [List.getElem?_set_ne same] at there
    exact .inr ⟨Ne.symm same, Option.filter_eq_some_iff.mpr ⟨there, watched⟩⟩

theorem Single.received {thissock : Int} (h : s.Single)
    (accepting : s.accepting = true) (stepped : s.recvSock thissock = some t) : t.Single := by
  unfold recvSock at stepped
  split at stepped
  · exact Option.some_inj.mp stepped ▸ h
  · split at stepped
    · cases stepped
    · obtain rfl := Option.some_inj.mp stepped
      obtain ⟨conn, opened, listening, same⟩ := h.same
      refine ⟨⟨conn, opened, listening, fun j r' here => ?_⟩, h.unharmed⟩
      obtain ⟨-, rfl, -⟩ | ⟨-, before⟩ := watchedAt_set rfl here
      · exact listening accepting
      · exact same j r' before

theorem Single.closed (h : s.Single) : (s.closeSock i r).Single := by
  obtain ⟨conn, opened, listening, same⟩ := h.same
  refine ⟨⟨conn, opened, listening, fun j r' here => ?_⟩, h.unharmed⟩
  obtain ⟨-, rfl, watched⟩ | ⟨-, before⟩ := watchedAt_set rfl here
  · cases watched
  · exact same j r' before

theorem sole_iff : s.sole i = true ↔
    s.accepting = false ∧ ∀ j r, s.watchedAt j = some r → j = i := by
  unfold sole
  rw [Bool.and_eq_true, Bool.not_eq_true', List.all_eq_true]
  refine and_congr_right fun _ => ?_
  constructor
  · intro others j r here
    obtain ⟨below, -⟩ := List.getElem?_eq_some_iff.mp (watchedAt_some here).1
    have other := others j (List.mem_range.mpr below)
    rw [here] at other
    simpa using other
  · intro others j _
    cases here : s.watchedAt j with
    | none => simp
    | some r => simp [others j r here]

/-- A call keeps all copies the same if it keeps its connection, or if there is no other copy. -/
theorem single_request {transaction : Int} {answers : List Event} (h : s.Holds)
    (here : s.watchedAt i = some r) (processed : processed transaction answers = true) :
    (s.recvData i r answers).Single ↔ (!answers.any Event.isDisconnect || s.sole i) = true := by
  obtain ⟨conn, opened, listening, same⟩ := h.single.same
  obtain rfl := same i r here
  have call := @served { connections := s.connections, conn := r.conn } _ _ h.given opened processed
  have harmless : (s.recvData i r answers).misused = false := by
    change (s.misused || _) = false
    rw [h.single.unharmed, call.harmless]
    rfl
  rw [Bool.or_eq_true, Bool.not_eq_true']
  constructor
  · intro single
    cases reconnects : answers.any Event.isDisconnect with
    | false => exact .inl rfl
    | true =>
      obtain ⟨conn, opened', listening', same'⟩ := single.same
      have lost : conn ≠ r.conn := by
        rintro rfl
        exact call.lost reconnects opened'
      refine .inr (sole_iff.mpr ⟨?_, fun j r' other => ?_⟩)
      · by_contra accepting
        rw [Bool.not_eq_false] at accepting
        exact lost ((listening' accepting).symm.trans (listening accepting))
      · by_contra apart
        have unchanged : (s.recvData i r answers).watchedAt j = some r' := by
          obtain ⟨there, watched⟩ := watchedAt_some other
          refine Option.filter_eq_some_iff.mpr ⟨?_, watched⟩
          exact (List.getElem?_set_ne (Ne.symm apart)).trans there
        exact lost ((same' j r' unchanged).symm.trans (same j r' other))
  · intro condition
    refine ⟨⟨_, call.opened, fun accepting => ?_, fun j r' at' => ?_⟩, harmless⟩
    · obtain keeps | alone := condition
      · rw [call.kept keeps]
        exact listening accepting
      · have stopped : (s.recvData i r answers).accepting = false := (sole_iff.mp alone).1
        rw [stopped] at accepting
        cases accepting
    · obtain ⟨-, rfl, -⟩ | ⟨apart, before⟩ := watchedAt_set rfl at'
      · rfl
      · obtain keeps | alone := condition
        · rw [call.kept keeps]
          exact same j r' before
        · exact absurd ((sole_iff.mp alone).2 j r' before) apart

theorem step_given {e : Callback} (stepped : s.step e = some t) (given : s.connections.Given) :
    t.connections.Given := by
  cases e with
  | received thissock =>
    obtain ⟨-, stepped⟩ := Option.ite_none_right_eq_some.mp stepped
    unfold recvSock at stepped
    split at stepped
    · exact Option.some_inj.mp stepped ▸ given
    · obtain ⟨-, same⟩ := Option.ite_none_left_eq_some.mp stepped
      exact Option.some_inj.mp same ▸ given
  | receiveFailed | parentClosed =>
    obtain ⟨-, same⟩ := Option.ite_none_right_eq_some.mp stepped
    exact Option.some_inj.mp same ▸ given
  | request i transaction answers =>
    obtain ⟨-, called⟩ := Option.ite_none_right_eq_some.mp stepped
    obtain ⟨r, -, rfl⟩ := Option.map_eq_some_iff.mp called
    exact Context.foldl_given answers given
  | socketClosed i =>
    obtain ⟨r, -, rfl⟩ := Option.map_eq_some_iff.mp stepped
    exact given

/-- A step keeps the copies the same just when it meets the condition. -/
theorem step_holds {e : Callback} (stepped : s.step e = some t) (h : s.Holds) :
    t.Holds ↔ s.sound e = true := by
  have given := step_given stepped h.given
  cases e with
  | received thissock =>
    obtain ⟨accepting, stepped⟩ := Option.ite_none_right_eq_some.mp stepped
    exact iff_of_true ⟨h.single.received accepting stepped, given⟩ rfl
  | receiveFailed =>
    obtain ⟨-, same⟩ := Option.ite_none_right_eq_some.mp stepped
    exact iff_of_true (Option.some_inj.mp same ▸ h) rfl
  | parentClosed =>
    obtain ⟨-, same⟩ := Option.ite_none_right_eq_some.mp stepped
    obtain rfl := Option.some_inj.mp same
    obtain ⟨conn, opened, -, same⟩ := h.single.same
    exact iff_of_true ⟨⟨⟨conn, opened, nofun, same⟩, h.single.unharmed⟩, given⟩ rfl
  | request i transaction answers =>
    obtain ⟨processed, called⟩ := Option.ite_none_right_eq_some.mp stepped
    obtain ⟨r, here, rfl⟩ := Option.map_eq_some_iff.mp called
    have same := single_request h here processed
    exact ⟨fun h => same.mp h.single, fun sound => ⟨same.mpr sound, given⟩⟩
  | socketClosed i =>
    obtain ⟨r, -, rfl⟩ := Option.map_eq_some_iff.mp stepped
    exact iff_of_true ⟨h.single.closed, given⟩ rfl

end Steps

theorem start_holds (maxDriverConnections : Nat) : (start maxDriverConnections).Holds := by
  refine ⟨⟨⟨0, List.mem_singleton_self 0, fun _ => rfl, fun i r here => ?_⟩, rfl⟩, ?_⟩
  · have there := List.mem_of_getElem? (watchedAt_some here).1
    rw [(List.mem_replicate.mp there).2]
  · intro conn mem
    obtain rfl := List.mem_singleton.mp mem
    exact Nat.zero_lt_one

/-- The copies refer to one open connection in every state that a child passes through just when
no terminal reconnects while there is another copy: the listening data, or another terminal. -/
theorem single_connection_iff (maxDriverConnections : Nat) (es : List Callback) (s : Child)
    (ran : run step (start maxDriverConnections) es = some s) :
    (∀ before t, before <+: es → run step (start maxDriverConnections) before = some t →
        t.Single) ↔
      Along step sound (start maxDriverConnections) es = true := by
  have start := start_holds maxDriverConnections
  rw [← along_iff (fun _ _ _ stepped h => step_holds stepped h) ran start]
  refine forall₄_congr fun before t _ ran => ⟨fun single => ⟨single, ?_⟩, fun h => h.single⟩
  exact run_invariant (fun _ _ _ stepped given => step_given stepped given) ran start.given

/-! ## Two terminals -/

def committedCall : List Event := [.executed OK 0, .committed OK]

/-- The connection is lost, and a new one serves the second attempt. -/
def reconnectedCall : List Event :=
  [.executed OK 0, .committed RECONNECT, .disconnected OK, .time 1, .time 1, .connected OK] ++
    committedCall

/-- The only terminal may reconnect once no other can come. -/
def oneTerminal : List Callback :=
  [.received 7, .request 6 PAYMENT committedCall, .parentClosed,
    .request 6 PAYMENT reconnectedCall, .request 6 PAYMENT committedCall]

/-- No place but `i` is watched. -/
def Alone (s : Child) (i : Nat) : Prop := ∀ j r, s.watchedAt j = some r → j = i

theorem Alone.set {s t : Child} {i : Nat} {r : RecvIo} (alone : s.Alone i)
    (set : t.ioVds = s.ioVds.set i r) : t.Alone i := by
  intro j r' here
  obtain ⟨same, -, -⟩ | ⟨-, before⟩ := watchedAt_set set here
  · exact same
  · exact alone j r' before

theorem Alone.received {s t : Child} {thissock : Int} (alone : s.Alone (place thissock))
    (stepped : s.step (.received thissock) = some t) : t.Alone (place thissock) := by
  obtain ⟨-, stepped⟩ := Option.ite_none_right_eq_some.mp stepped
  unfold recvSock at stepped
  split at stepped
  · exact Option.some_inj.mp stepped ▸ alone
  · obtain ⟨-, same⟩ := Option.ite_none_left_eq_some.mp stepped
    obtain rfl := Option.some_inj.mp same
    exact alone.set rfl

theorem Alone.request {s t : Child} {i : Nat} {transaction : Int} {answers : List Event}
    (alone : s.Alone i) (stepped : s.step (.request i transaction answers) = some t) :
    t.Alone i := by
  obtain ⟨-, called⟩ := Option.ite_none_right_eq_some.mp stepped
  obtain ⟨r, -, rfl⟩ := Option.map_eq_some_iff.mp called
  exact alone.set rfl

theorem Alone.parentClosed {s t : Child} {i : Nat} (alone : s.Alone i)
    (stepped : s.step .parentClosed = some t) : t.sole i = true := by
  obtain ⟨-, same⟩ := Option.ite_none_right_eq_some.mp stepped
  obtain rfl := Option.some_inj.mp same
  exact sole_iff.mpr ⟨rfl, alone⟩

theorem alone_start (n i : Nat) : (start n).Alone i := by
  intro j r here
  obtain ⟨there, watched⟩ := watchedAt_some here
  rw [(List.mem_replicate.mp (List.mem_of_getElem? there)).2] at watched
  cases watched

/-- It is the only one when it reconnects. -/
theorem oneTerminal_sound {n : Nat}
    (before : Along step sound (start n) (oneTerminal.take 3) = true) :
    Along step sound (start n) oneTerminal = true := by
  have quiet : committedCall.any Event.isDisconnect = false := rfl
  refine along_append.mpr (show Along step sound (start n) (oneTerminal.take 3) = true ∧ _ from
    ⟨before, fun s ran => ?_⟩)
  obtain ⟨t, received, later⟩ := run_cons.mp ran
  obtain ⟨u, requested, later⟩ := run_cons.mp later
  obtain ⟨v, closed, last⟩ := run_cons.mp later
  obtain rfl := Option.some_inj.mp last
  have alone : t.Alone 6 := (alone_start n (place 7)).received received
  have sole := (alone.request requested).parentClosed closed
  cases stepped : step v (.request 6 PAYMENT reconnectedCall) with
  | none => simp [Along, sound, sole, stepped]
  | some w =>
    cases again : step w (.request 6 PAYMENT committedCall) <;>
      simp [Along, sound, sole, quiet, stepped, again]

theorem single_connection_one : ∃ s, run step (start 1024) oneTerminal = some s ∧ s.Single := by
  obtain ⟨s, ran⟩ := Option.isSome_iff_exists.mp
    (by decide +kernel : (run step (start 1024) oneTerminal).isSome = true)
  have along : Along step sound (start 1024) oneTerminal = true :=
    oneTerminal_sound (by decide +kernel)
  exact ⟨s, ran, (single_connection_iff 1024 oneTerminal s ran).mpr along oneTerminal s
    List.prefix_rfl ran⟩

/-- The second terminal executes on the connection that the first has closed. -/
theorem not_single_connection : ¬ ∀ (maxDriverConnections : Nat) (es : List Callback) (s : Child),
    run step (start maxDriverConnections) es = some s → s.Single := by
  intro always
  obtain ⟨s, ran, misused⟩ := Option.map_eq_some_iff.mp
    (by decide +kernel : (run step (start 1024) [.received 7, .received 8,
        .request 6 PAYMENT reconnectedCall, .request 7 PAYMENT committedCall]).map Child.misused =
      some true)
  exact nomatch (always 1024 _ s ran).unharmed.symm.trans misused

end Child

end Dbt2.Client2
