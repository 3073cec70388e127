import Dbt2.Client
import Dbt2.Lib.Threads

/-!
# The descriptors of accepted connections

A client that keeps a ledger of its descriptors: which `accept` returned, which were given to
`close`, and which belonged to the nodes of listeners that ended because their connection was
closed. `init_listener` closes a descriptor that it can start no listener for; `listener_worker`
frees its node and closes nothing, so `Released` holds for as long as no listener ends.
-/

namespace Dbt2

open Threads Transition

structure SocketLedger (D : Type) where
  client : Client D
  /-- `init_listener` has returned. -/
  stopped : Bool
  accepted : List Int
  closed : List Int
  /-- Accepted, but no listener could be started. -/
  refused : List Int
  /-- The listener has ended because the connection was closed. -/
  ended : List Int

inductive SocketEvent (D Env : Type) where
  | client (e : ClientEvent D Env)
  /-- `pthread_attr_init` or `pthread_attr_setstacksize` fails. -/
  | attrFailed (fd : Int)
  | createFailed (fd : Int)

/-- A listener whose connection was not closed. One that returns because the client exits leaves
its connection to the end of the process. -/
def Listener.connected : Listener → Bool
  | .ended => false
  | _ => true

namespace ClientEvent

variable {D Env : Type}

def allocates : ClientEvent D Env → Bool
  | .allocate _ => true
  | _ => false

def accepted : ClientEvent D Env → List Int
  | .accept fd => [fd]
  | _ => []

end ClientEvent

namespace SocketLedger

variable {D Env : Type} (transaction : D → Int) (process : Env → D → D)

/-- The descriptor of the node that a listener frees. -/
def ending (c : Client D) : ClientEvent D Env → List Int
  | .listener i .closed =>
    match c.listeners[i]? with
    | some (.receiving node) => [c.s node]
    | _ => []
  | _ => []

/-- `close(node->s); free(node);` -/
def refuse (s : SocketLedger D) (fd : Int) (stopped : Bool) : Option (SocketLedger D) :=
  match s.client.accepting with
  | some node =>
    if fd ∈ s.client.sockets then none
    else some { s with
      client := s.client.withTraffic (s.client.acceptFailed node)
      stopped := stopped
      accepted := fd :: s.accepted
      closed := fd :: s.closed
      refused := fd :: s.refused }
  | none => none

def step (s : SocketLedger D) : SocketEvent D Env → Option (SocketLedger D)
  | .client e =>
    if s.stopped && e.allocates then none
    else do
      let client ← s.client.step transaction process e
      some { s with
        client := client
        accepted := e.accepted ++ s.accepted
        ended := ending s.client e ++ s.ended }
  | .attrFailed fd => s.refuse fd true
  | .createFailed fd => s.refuse fd s.stopped

def start (memory : Nat → D) (n : Nat) : SocketLedger D where
  client := Client.start memory n
  stopped := false
  accepted := []
  closed := []
  refused := []
  ended := []

/-- Each descriptor whose listener has ended was closed, once, as was each without a listener, and
the open descriptors are those of the other listeners. -/
structure Released (s : SocketLedger D) : Prop where
  closed : ∀ fd, s.closed.count fd = s.refused.count fd + s.ended.count fd
  opened : s.accepted.length = s.closed.length + s.client.listeners.countP Listener.connected

/-- What the client does instead. -/
structure Leaking (s : SocketLedger D) : Prop where
  closed : s.closed = s.refused
  opened : s.accepted.length =
    s.closed.length + s.client.listeners.countP Listener.connected + s.ended.length

/-- A listener ends because its connection was closed. -/
def ends : SocketEvent D Env → Bool
  | .client (.listener _ .closed) => true
  | _ => false

variable {transaction process} {s s' : SocketLedger D} {c c' : Client D} {i : Nat} {l : Listener}

variable (Env) in
theorem stepListener_connected {input : ListenerInput D} (here : c.listeners[i]? = some l)
    (stepped : c.stepListener transaction i l input = some c') :
    c.listeners.countP Listener.connected =
      c'.listeners.countP Listener.connected +
        (ending c (.listener i input : ClientEvent D Env)).length := by
  have turn (l' : Listener) (kept : l'.connected = l.connected) :
      c.listeners.countP Listener.connected =
        (c.listeners.set i l').countP Listener.connected := by
    have counted := countP_turn Listener.connected here l'
    rw [kept] at counted
    omega
  cases Client.stepListener_turn stepped with
  | closed node =>
    have counted := countP_turn Listener.connected here .ended
    simpa [ending, here, Client.setListener, Client.withTraffic, Listener.connected] using
      counted.symm
  | looped node =>
    refine turn _ ?_
    cases c.exiting <;> rfl
  | received node d => exact turn (.counting node) rfl
  | failed node d => exact turn (.looping node) rfl
  | counted node => exact turn (.enqueueing node) rfl
  | enqueued node => exact turn .waiting rfl
  | permitted => exact turn .taking rfl
  | interrupted => rfl
  | took node q => exact turn (.looping node) rfl

/-- Only listeners end, and only `accept` brings new ones. -/
theorem client_connected {e : ClientEvent D Env}
    (stepped : c.step transaction process e = some c') :
    e.accepted.length + c.listeners.countP Listener.connected =
      c'.listeners.countP Listener.connected + (ending c e).length := by
  cases e with
  | exit =>
    cases stepped
    exact Nat.zero_add _
  | allocate node =>
    simp only [Client.step] at stepped
    split at stepped
    · cases stepped
      exact Nat.zero_add _
    · cases stepped
  | accept fd =>
    simp only [Client.step] at stepped
    split at stepped
    · split at stepped
      · cases stepped
      · cases stepped
        simp only [ClientEvent.accepted, ending, List.countP_append,
          List.countP_singleton, Listener.connected, List.length_singleton, List.length_nil]
        exact Nat.add_comm _ _
    · cases stepped
  | acceptFailed =>
    simp only [Client.step] at stepped
    split at stepped
    · cases stepped
      exact Nat.zero_add _
    · cases stepped
  | listener i input =>
    obtain ⟨l, here, stepped'⟩ := Option.bind_eq_some_iff.mp stepped
    rw [stepListener_connected Env here stepped']
    exact Nat.zero_add _
  | worker i input =>
    obtain ⟨w, -, stepped'⟩ := Option.bind_eq_some_iff.mp stepped
    have same : c'.listeners = c.listeners := by
      cases Client.stepWorker_turn stepped' <;> rfl
    rw [same]
    exact Nat.zero_add _

/-- A listener that ends was receiving. -/
theorem ending_length {e : ClientEvent D Env}
    (stepped : c.step transaction process e = some c') :
    (ending c e).length = if ends (.client e) then 1 else 0 := by
  cases e with
  | listener i input =>
    cases input with
    | closed =>
      obtain ⟨l, here, stepped'⟩ := Option.bind_eq_some_iff.mp stepped
      cases l with
      | receiving node => simp [ending, here, ends]
      | _ => cases stepped'
    | _ => rfl
  | _ => rfl

theorem Leaking.refuse {fd : Int} {stopped : Bool} (h : Leaking s)
    (stepped : s.refuse fd stopped = some s') : Leaking s' ∧ s'.ended = s.ended := by
  unfold SocketLedger.refuse at stepped
  split at stepped
  · split at stepped
    · cases stepped
    · cases stepped
      have opened := h.opened
      refine ⟨⟨congrArg (fd :: ·) h.closed, ?_⟩, rfl⟩
      simp only [Client.withTraffic, List.length_cons]
      omega
  · cases stepped

theorem Leaking.step {e : SocketEvent D Env} (h : Leaking s)
    (stepped : s.step transaction process e = some s') :
    Leaking s' ∧ s'.ended.length = s.ended.length + if ends e then 1 else 0 := by
  cases e with
  | client e =>
    simp only [SocketLedger.step] at stepped
    split at stepped
    · cases stepped
    · obtain ⟨c', stepped', is⟩ := Option.bind_eq_some_iff.mp stepped
      cases is
      have connected := client_connected stepped'
      have opened := h.opened
      have one := ending_length stepped'
      refine ⟨⟨h.closed, ?_⟩, ?_⟩
      · simp only [List.length_append]
        omega
      · simp only [List.length_append]
        omega
  | attrFailed fd =>
    obtain ⟨next, same⟩ := h.refuse stepped
    exact ⟨next, congrArg List.length same⟩
  | createFailed fd =>
    obtain ⟨next, same⟩ := h.refuse stepped
    exact ⟨next, congrArg List.length same⟩

/-- In every state reached, a descriptor is left open for each listener that has ended. -/
theorem leaking_of_run {memory : Nat → D} {n : Nat} {es : List (SocketEvent D Env)}
    (ran : run (step transaction process) (start memory n) es = some s) :
    Leaking s ∧ s.ended.length = es.countP ends := by
  refine history_of_run (fun s es => Leaking s ∧ s.ended.length = es.countP ends) ?_ ran
    ⟨⟨rfl, rfl⟩, rfl⟩
  rintro s before e s' stepped ⟨h, counted⟩
  obtain ⟨next, more⟩ := h.step stepped
  refine ⟨next, ?_⟩
  rw [more, counted, List.countP_append, List.countP_singleton]

theorem Leaking.released_iff (h : Leaking s) : Released s ↔ s.ended = [] := by
  constructor
  · intro released
    have opened := h.opened
    have opened' := released.opened
    exact List.length_eq_zero_iff.mp (by omega)
  · intro none'
    have opened := h.opened
    rw [none'] at opened
    refine ⟨fun fd => ?_, opened⟩
    rw [h.closed, none']
    rfl

/-- In the states that a client reaches, the descriptors of ended listeners have been closed just
if there are none: `listener_worker` never closes one. -/
theorem sockets_released_iff {memory : Nat → D} {n : Nat} {es : List (SocketEvent D Env)}
    (ran : run (step transaction process) (start memory n) es = some s) :
    Released s ↔ ∀ e ∈ es, ends e = false := by
  obtain ⟨leaking, counted⟩ := leaking_of_run ran
  rw [leaking.released_iff, ← List.length_eq_zero_iff, counted, List.countP_eq_zero]
  simp

/-- A driver connects and closes its connection at once. -/
def connectAndClose : List (SocketEvent Nat Unit) :=
  [.client (.allocate 7), .client (.accept 3), .client (.listener 0 .run),
    .client (.listener 0 .closed)]

theorem sockets_released_connectAndClose : ∃ s : SocketLedger Nat,
    run (step (fun _ => 0) fun (_ : Unit) d => d) (start (fun _ => 0) 1)
      (connectAndClose.take 3) = some s ∧ Released s := by
  obtain ⟨s, ran⟩ : ∃ s : SocketLedger Nat,
      run (step (fun _ => 0) fun (_ : Unit) d => d) (start (fun _ => 0) 1)
        (connectAndClose.take 3) = some s := ⟨_, rfl⟩
  exact ⟨s, ran, (sockets_released_iff ran).mpr (by simp [connectAndClose, ends])⟩

theorem socket_not_closed : ∃ s : SocketLedger Nat,
    run (step (fun _ => 0) fun (_ : Unit) d => d) (start (fun _ => 0) 1) connectAndClose = some s ∧
      s.ended = [3] ∧ s.closed = [] ∧ s.accepted = [3] ∧
      s.client.listeners.countP Listener.connected = 0 ∧ ¬ Released s := by
  refine ⟨_, rfl, rfl, rfl, rfl, rfl, fun released => ?_⟩
  have closed := released.closed 3
  cases closed

end SocketLedger

end Dbt2
