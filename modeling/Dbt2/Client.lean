import Dbt2.Lib.LinkedQueue
import Dbt2.Lib.Transition

/-!
# The client

Listener threads receive requests from drivers and queue them; database workers take them from
the queue, execute them and write the responses. The request travels in a node that belongs to no
connection: a listener goes on with whatever node is free, and with the connection that node
carries.

A step is one test, one system call or one critical section of one thread. Links between nodes
are kept in one map, as are the other fields of the nodes, and a freed node may be allocated
again. A send that fails loses its record and nothing else: the worker goes on, and a later send on
the same socket may succeed.
-/

namespace Dbt2

open LinkedQueue

/-- A `client_transaction_t`, with input and results of type `T`. -/
structure ClientTransaction (T : Type) where
  status : Int
  transaction : Int
  transactionData : T

/-- What of a client concerns its nodes and the connections they carry. Records received and
written on a socket are logged, and whether a send on it has failed. -/
structure Traffic (D : Type) where
  allocated : Finset Nat
  /-- The node of `init_listener`, waiting for a connection. -/
  accepting : Option Nat
  s : Nat → Int
  clientData : Nat → D
  sockets : List Int
  broken : Int → Bool
  received : Int → List D
  written : Int → List D

/-- A thread in `listener_worker`, with the node it holds. -/
inductive Listener where
  | looping (node : Nat)
  | receiving (node : Nat)
  | counting (node : Nat)
  | enqueueing (node : Nat)
  | waiting
  | taking
  | returned (node : Nat)
  | ended
  deriving DecidableEq

/-- A thread in `db_worker`, with the node it holds. -/
inductive DbWorker where
  | looping
  | waiting
  | dequeueing
  | uncountingQueued (node : Nat)
  | countingExecuting (node : Nat)
  | executing (node : Nat)
  | sending (node : Nat)
  | uncountingExecuting (node : Nat)
  | recycling (node : Nat)
  | ended
  deriving DecidableEq

structure Client (D : Type) extends Traffic D where
  exiting : Bool
  id : Nat → Int
  next : Nat → Option Nat
  transactionQueue : Ends Nat
  freeNodes : Ends Nat
  queueLength : Nat
  freeCount : Nat
  transactionId : Int
  /-- `transaction_counter`, by transaction. -/
  queued : Int → Int
  executing : Int → Int
  listeners : List Listener
  workers : List DbWorker

namespace Traffic

variable {D : Type}

def allocate (t : Traffic D) (node : Nat) : Traffic D :=
  { t with allocated := insert node t.allocated, accepting := some node }

def accept (t : Traffic D) (node : Nat) (fd : Int) : Traffic D :=
  { t with accepting := none, s := Function.update t.s node fd, sockets := fd :: t.sockets }

def acceptFailed (t : Traffic D) (node : Nat) : Traffic D :=
  { t with accepting := none, allocated := t.allocated.erase node }

def receive (t : Traffic D) (node : Nat) (d : D) : Traffic D :=
  { t with
    clientData := Function.update t.clientData node d
    received := Function.update t.received (t.s node) (t.received (t.s node) ++ [d]) }

/-- A receive that fails may leave anything in the node. -/
def receiveFailed (t : Traffic D) (node : Nat) (d : D) : Traffic D :=
  { t with clientData := Function.update t.clientData node d }

def free (t : Traffic D) (node : Nat) : Traffic D :=
  { t with allocated := t.allocated.erase node }

def process (t : Traffic D) (node : Nat) (d : D) : Traffic D :=
  { t with clientData := Function.update t.clientData node d }

def send (t : Traffic D) (node : Nat) : Traffic D :=
  { t with
    written := Function.update t.written (t.s node)
      (t.written (t.s node) ++ [t.clientData node]) }

def sendFailed (t : Traffic D) (node : Nat) : Traffic D :=
  { t with broken := Function.update t.broken (t.s node) true }

end Traffic

/-- What a system call or the environment contributes to a step of a listener. -/
inductive ListenerInput (D : Type) where
  | run
  | record (d : D)
  | failed (d : D)
  | closed
  | interrupted

/-- The same for a worker; an execution depends on the database and more. -/
inductive WorkerInput (Env : Type) where
  | run
  | interrupted
  | processed (env : Env)
  | sent
  | sendFailed

inductive ClientEvent (D Env : Type) where
  | exit
  | allocate (node : Nat)
  | accept (fd : Int)
  | acceptFailed
  | listener (i : Nat) (input : ListenerInput D)
  | worker (i : Nat) (input : WorkerInput Env)

namespace Client

variable {D Env : Type}

/-- The critical section of `enqueue_transaction`. -/
def enqueueTransaction (c : Client D) (node : Nat) : Client D :=
  let pushed := push c.next c.transactionQueue node
  { c with
    next := pushed.1
    transactionQueue := pushed.2
    id := Function.update c.id node (c.transactionId + 1)
    transactionId := c.transactionId + 1
    queueLength := c.queueLength + 1 }

/-- The critical section of `recycle_node`. -/
def recycleNode (c : Client D) (node : Nat) : Client D :=
  let pushed := push c.next c.freeNodes node
  { c with next := pushed.1, freeNodes := pushed.2, freeCount := c.freeCount + 1 }

def setListener (c : Client D) (i : Nat) (l : Listener) : Client D :=
  { c with listeners := c.listeners.set i l }

def setWorker (c : Client D) (i : Nat) (w : DbWorker) : Client D :=
  { c with workers := c.workers.set i w }

def withTraffic (c : Client D) (t : Traffic D) : Client D := { c with toTraffic := t }

def count (counter : Int → Int) (transaction by' : Int) : Int → Int :=
  Function.update counter transaction (counter transaction + by')

variable (transaction : D → Int) (process : Env → D → D)

/-- `listener_worker`. A failed `get_node` ends the program, so it has no step. -/
def stepListener (c : Client D) (i : Nat) : Listener → ListenerInput D → Option (Client D)
  | .looping node, .run =>
    some (c.setListener i (if c.exiting then .returned node else .receiving node))
  | .receiving node, .record d =>
    some ((c.withTraffic (c.receive node d)).setListener i (.counting node))
  | .receiving node, .failed d =>
    some ((c.withTraffic (c.receiveFailed node d)).setListener i (.looping node))
  | .receiving node, .closed => some ((c.withTraffic (c.free node)).setListener i .ended)
  | .counting node, .run =>
    some ({ c with queued := count c.queued (transaction (c.clientData node)) 1 }.setListener i
      (.enqueueing node))
  | .enqueueing node, .run => some ((c.enqueueTransaction node).setListener i .waiting)
  | .waiting, .run =>
    if 0 < c.freeCount then
      some ({ c with freeCount := c.freeCount - 1 }.setListener i .taking)
    else none
  | .waiting, .interrupted => some c
  | .taking, .run =>
    match pop c.next c.freeNodes with
    | some (node, q) => some ({ c with freeNodes := q }.setListener i (.looping node))
    | none => none
  | _, _ => none

/-- `db_worker`. An interrupted wait goes on to look into the queue, like one that succeeded. -/
def stepWorker (c : Client D) (i : Nat) : DbWorker → WorkerInput Env → Option (Client D)
  | .looping, .run => some (c.setWorker i (if c.exiting then .ended else .waiting))
  | .waiting, .run =>
    if 0 < c.queueLength then
      some ({ c with queueLength := c.queueLength - 1 }.setWorker i .dequeueing)
    else none
  | .waiting, .interrupted => some (c.setWorker i .dequeueing)
  | .dequeueing, .run =>
    match pop c.next c.transactionQueue with
    | some (node, q) => some ({ c with transactionQueue := q }.setWorker i (.uncountingQueued node))
    | none => some (c.setWorker i .looping)
  | .uncountingQueued node, .run =>
    some ({ c with queued := count c.queued (transaction (c.clientData node)) (-1) }.setWorker i
      (.countingExecuting node))
  | .countingExecuting node, .run =>
    some ({ c with executing := count c.executing (transaction (c.clientData node)) 1 }.setWorker i
      (.executing node))
  | .executing node, .processed env =>
    some ((c.withTraffic (c.toTraffic.process node (process env (c.clientData node)))).setWorker i
      (.sending node))
  | .sending node, .sent =>
    some ((c.withTraffic (c.send node)).setWorker i (.uncountingExecuting node))
  | .sending node, .sendFailed =>
    some ((c.withTraffic (c.sendFailed node)).setWorker i (.uncountingExecuting node))
  | .uncountingExecuting node, .run =>
    some ({ c with executing := count c.executing (transaction (c.clientData node)) (-1) }.setWorker
      i (.recycling node))
  | .recycling node, .run => some ((c.recycleNode node).setWorker i .looping)
  | _, _ => none

/-- A descriptor that `accept` returns is none of the open ones, and `malloc` returns a node that
is not allocated. No accepted descriptor is ever closed. -/
def step (c : Client D) : ClientEvent D Env → Option (Client D)
  | .exit => some { c with exiting := true }
  | .allocate node =>
    if c.exiting = false ∧ c.accepting = none ∧ node ∉ c.allocated then
      some (c.withTraffic (c.allocate node))
    else none
  | .accept fd =>
    match c.accepting with
    | some node =>
      if fd ∈ c.sockets then none
      else some { c.withTraffic (c.accept node fd) with
        listeners := c.listeners ++ [.looping node] }
    | none => none
  | .acceptFailed =>
    match c.accepting with
    | some node => some (c.withTraffic (c.acceptFailed node))
    | none => none
  | .listener i input => do c.stepListener transaction i (← c.listeners[i]?) input
  | .worker i input => do c.stepWorker transaction process i (← c.workers[i]?) input

/-! ### What a step of a thread does -/

variable {transaction process} {c c' : Client D} {i : Nat} {l : Listener} {w : DbWorker}

variable (transaction c i) in
/-- The phases of a listener, each with the client it leaves. -/
inductive ListenerTurn : Listener → ListenerInput D → Client D → Prop
  | looped (node : Nat) : ListenerTurn (.looping node) .run
      (c.setListener i (if c.exiting then .returned node else .receiving node))
  | received (node : Nat) (d : D) : ListenerTurn (.receiving node) (.record d)
      ((c.withTraffic (c.receive node d)).setListener i (.counting node))
  | failed (node : Nat) (d : D) : ListenerTurn (.receiving node) (.failed d)
      ((c.withTraffic (c.receiveFailed node d)).setListener i (.looping node))
  | closed (node : Nat) : ListenerTurn (.receiving node) .closed
      ((c.withTraffic (c.free node)).setListener i .ended)
  | counted (node : Nat) : ListenerTurn (.counting node) .run
      ({ c with queued := count c.queued (transaction (c.clientData node)) 1 }.setListener i
        (.enqueueing node))
  | enqueued (node : Nat) : ListenerTurn (.enqueueing node) .run
      ((c.enqueueTransaction node).setListener i .waiting)
  | permitted (some : 0 < c.freeCount) : ListenerTurn .waiting .run
      ({ c with freeCount := c.freeCount - 1 }.setListener i .taking)
  | interrupted : ListenerTurn .waiting .interrupted c
  | took (node : Nat) (q : Ends Nat) (popped : pop c.next c.freeNodes = some (node, q)) :
      ListenerTurn .taking .run ({ c with freeNodes := q }.setListener i (.looping node))

theorem stepListener_turn {input : ListenerInput D}
    (stepped : c.stepListener transaction i l input = some c') :
    ListenerTurn transaction c i l input c' := by
  unfold stepListener at stepped
  split at stepped
  case h_7 =>
    split at stepped
    · rename_i some
      cases stepped
      exact .permitted some
    · cases stepped
  case h_9 =>
    split at stepped
    · rename_i node q popped
      cases stepped
      exact .took node q popped
    · cases stepped
  case h_10 => cases stepped
  all_goals
    cases stepped
    constructor

variable (transaction process c i) in
/-- The phases of a worker. -/
inductive WorkerTurn : DbWorker → WorkerInput Env → Client D → Prop
  | looped : WorkerTurn .looping .run (c.setWorker i (if c.exiting then .ended else .waiting))
  | permitted (some : 0 < c.queueLength) : WorkerTurn .waiting .run
      ({ c with queueLength := c.queueLength - 1 }.setWorker i .dequeueing)
  | interrupted : WorkerTurn .waiting .interrupted (c.setWorker i .dequeueing)
  | dequeued (node : Nat) (q : Ends Nat)
      (popped : pop c.next c.transactionQueue = some (node, q)) : WorkerTurn .dequeueing .run
      ({ c with transactionQueue := q }.setWorker i (.uncountingQueued node))
  | nothing (popped : pop c.next c.transactionQueue = none) : WorkerTurn .dequeueing .run
      (c.setWorker i .looping)
  | uncounted (node : Nat) : WorkerTurn (.uncountingQueued node) .run
      ({ c with queued := count c.queued (transaction (c.clientData node)) (-1) }.setWorker i
        (.countingExecuting node))
  | counted (node : Nat) : WorkerTurn (.countingExecuting node) .run
      ({ c with executing := count c.executing (transaction (c.clientData node)) 1 }.setWorker i
        (.executing node))
  | processed (node : Nat) (env : Env) : WorkerTurn (.executing node) (.processed env)
      ((c.withTraffic (c.toTraffic.process node (process env (c.clientData node)))).setWorker i
        (.sending node))
  | sent (node : Nat) : WorkerTurn (.sending node) .sent
      ((c.withTraffic (c.send node)).setWorker i (.uncountingExecuting node))
  | sendFailed (node : Nat) : WorkerTurn (.sending node) .sendFailed
      ((c.withTraffic (c.sendFailed node)).setWorker i (.uncountingExecuting node))
  | finished (node : Nat) : WorkerTurn (.uncountingExecuting node) .run
      ({ c with executing := count c.executing (transaction (c.clientData node)) (-1) }.setWorker
        i (.recycling node))
  | recycled (node : Nat) : WorkerTurn (.recycling node) .run
      ((c.recycleNode node).setWorker i .looping)

theorem stepWorker_turn {input : WorkerInput Env}
    (stepped : c.stepWorker transaction process i w input = some c') :
    WorkerTurn transaction process c i w input c' := by
  unfold stepWorker at stepped
  split at stepped
  case h_2 =>
    split at stepped
    · rename_i some
      cases stepped
      exact .permitted some
    · cases stepped
  case h_4 =>
    split at stepped
    · rename_i node q popped
      cases stepped
      exact .dequeued node q popped
    · rename_i popped
      cases stepped
      exact .nothing popped
  case h_12 => cases stepped
  all_goals
    cases stepped
    constructor

/-- A client with `n` workers and nothing allocated; `memory` is what `malloc` finds. -/
def start (memory : Nat → D) (n : Nat) : Client D where
  allocated := ∅
  accepting := none
  s := fun _ => 0
  clientData := memory
  sockets := []
  broken := fun _ => false
  received := fun _ => []
  written := fun _ => []
  exiting := false
  id := fun _ => 0
  next := fun _ => none
  transactionQueue := empty
  freeNodes := empty
  queueLength := 0
  freeCount := 0
  transactionId := 0
  queued := fun _ => 0
  executing := fun _ => 0
  listeners := []
  workers := List.replicate n .looping

end Client

end Dbt2
