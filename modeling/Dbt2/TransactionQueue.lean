import Dbt2.Client
import Dbt2.Lib.Threads

/-!
# The transaction queue

`enqueue_transaction` and `dequeue_transaction`, statement by statement, called by any number of
threads in any order. The nodes are appended to `enqueued` and to `dequeued` by the threads that
hold the lock, so that both are in the order in which the lock was taken.
-/

namespace Dbt2

open LinkedQueue Threads Transition

/-- Statements of `enqueue_transaction`. -/
inductive EnqueuePc where
  | counting
  | locking
  | clearing
  | numbering
  | appending
  | moving
  | posting
  | unlocking
  deriving DecidableEq

/-- A thread and the node it is at. One that is past `sem_wait` is `released` if it has taken one
from the semaphore. -/
inductive QueueThread (N : Type) where
  | idle
  | enqueueing (pc : EnqueuePc) (node : N)
  | waiting
  | locking (released : Bool)
  | looking (released : Bool)
  | taking (node : N)
  | unlocking (node : Option N)
  | uncounting (node : N)
  | countingExecuting (node : N)
  deriving DecidableEq

inductive QueueInput (N : Type) where
  | enqueue (node : N)
  | dequeue
  | run
  /-- A signal arrives during `sem_wait`, which returns. -/
  | interrupted
  deriving DecidableEq

structure TransactionQueue (N : Type) where
  next : N → Option N
  id : N → Int
  ends : Ends N
  queueLength : Nat
  mutexQueue : Option Nat
  transactionId : Int
  queued : Int → Int
  executing : Int → Int
  threads : List (QueueThread N)
  enqueued : List N
  dequeued : List N

namespace TransactionQueue

variable {N : Type} [DecidableEq N] (transaction : N → Int)

def go (s : TransactionQueue N) (i : Nat) (t : QueueThread N) : TransactionQueue N :=
  { s with threads := s.threads.set i t }

/-- The nodes that are in the queue, or under way into it. -/
def queue (s : TransactionQueue N) : List N := s.enqueued.drop s.dequeued.length

def stepEnqueue (s : TransactionQueue N) (i : Nat) (node : N) :
    EnqueuePc → Option (TransactionQueue N)
  | .counting => some ({ s with queued := Client.count s.queued (transaction node) 1 }.go i
      (.enqueueing .locking node))
  | .locking =>
    if s.mutexQueue = none then
      some ({ s with mutexQueue := some i, enqueued := s.enqueued ++ [node] }.go i
        (.enqueueing .clearing node))
    else none
  | .clearing => some ({ s with next := Function.update s.next node none }.go i
      (.enqueueing .numbering node))
  | .numbering =>
    some ({ s with transactionId := s.transactionId + 1
                   id := Function.update s.id node (s.transactionId + 1) }.go i
      (.enqueueing .appending node))
  | .appending =>
    match s.ends.tail with
    | some t => some ({ s with next := Function.update s.next t (some node) }.go i
        (.enqueueing .moving node))
    | none => some ({ s with ends := { head := some node, tail := some node } }.go i
        (.enqueueing .posting node))
  | .moving => some ({ s with ends := { s.ends with tail := some node } }.go i
      (.enqueueing .posting node))
  | .posting => some ({ s with queueLength := s.queueLength + 1 }.go i
      (.enqueueing .unlocking node))
  | .unlocking => some ({ s with mutexQueue := none }.go i .idle)

def stepThread (s : TransactionQueue N) (i : Nat) :
    QueueThread N → QueueInput N → Option (TransactionQueue N)
  | .idle, .enqueue node => some (s.go i (.enqueueing .counting node))
  | .idle, .dequeue => some (s.go i .waiting)
  | .enqueueing pc node, .run => s.stepEnqueue transaction i node pc
  | .waiting, .run =>
    if 0 < s.queueLength then
      some ({ s with queueLength := s.queueLength - 1 }.go i (.locking true))
    else none
  | .waiting, .interrupted => some (s.go i (.locking false))
  | .locking released, .run =>
    if s.mutexQueue = none then some ({ s with mutexQueue := some i }.go i (.looking released))
    else none
  | .looking _, .run =>
    match s.ends.head with
    | none => some (s.go i (.unlocking none))
    | some node => some ({ s with dequeued := s.dequeued ++ [node] }.go i (.taking node))
  | .taking node, .run =>
    some ({ s with ends := match s.next node with
      | none => empty
      | some b => { s.ends with head := some b } }.go i (.unlocking (some node)))
  | .unlocking none, .run => some ({ s with mutexQueue := none }.go i .idle)
  | .unlocking (some node), .run => some ({ s with mutexQueue := none }.go i (.uncounting node))
  | .uncounting node, .run =>
    some ({ s with queued := Client.count s.queued (transaction node) (-1) }.go i
      (.countingExecuting node))
  | .countingExecuting node, .run =>
    some ({ s with executing := Client.count s.executing (transaction node) 1 }.go i .idle)
  | _, _ => none

def step (s : TransactionQueue N) (e : Nat × QueueInput N) : Option (TransactionQueue N) := do
  s.stepThread transaction e.1 (← s.threads[e.1]?) e.2

/-- `init_transaction_queue`, and `n` threads. -/
def start (next : N → Option N) (id : N → Int) (n : Nat) : TransactionQueue N where
  next
  id
  ends := empty
  queueLength := 0
  mutexQueue := none
  transactionId := 0
  queued := fun _ => 0
  executing := fun _ => 0
  threads := List.replicate n .idle
  enqueued := []
  dequeued := []

/-- A node that is enqueued is not in the queue. -/
def fresh (s : TransactionQueue N) (e : Nat × QueueInput N) : Bool :=
  match s.threads[e.1]? with
  | some (.enqueueing .locking node) => node ∉ s.queue
  | _ => true

/-- The dequeuers that have taken one from the semaphore and not yet looked. -/
def released (s : TransactionQueue N) : Nat :=
  s.threads.countP fun
    | .locking true | .looking true => true
    | _ => false

structure Fifo (s : TransactionQueue N) : Prop where
  order : s.dequeued <+: s.enqueued
  once : ∀ node, s.dequeued.count node ≤ s.enqueued.count node
  distinct : s.queue.Nodup
  linked : s.mutexQueue = none → Linked s.next s.ends s.queue
  awake : s.mutexQueue = none → s.queue.length ≤ s.queueLength + s.released

/-! ## The critical sections -/

/-- A thread that holds the lock. -/
def inside : QueueThread N → Bool
  | .enqueueing pc _ => pc ≠ .counting ∧ pc ≠ .locking
  | .looking _ | .taking _ | .unlocking _ => true
  | _ => false

/-- A thread on whose account the semaphore is below the length of the queue: one that will post,
or one that will take a node. -/
def owing : QueueThread N → Bool
  | .enqueueing pc _ => pc ∈ [.clearing, .numbering, .appending, .moving, .posting]
  | .locking released | .looking released => released
  | _ => false

/-- What the pointers represent while a thread is in its critical section. A node that is being
appended is in the queue, but not linked yet. -/
def Pointers (next : N → Option N) (ends : Ends N) (queue : List N) : QueueThread N → Prop
  | .enqueueing .clearing node => ∃ l, queue = l ++ [node] ∧ Linked next ends l
  | .enqueueing .numbering node | .enqueueing .appending node =>
    ∃ l next', queue = l ++ [node] ∧ Linked next' ends l ∧ next = Function.update next' node none
  | .enqueueing .moving node => ∃ l next', queue = l ++ [node] ∧ Linked next' ends l ∧
      push next' ends node = (next, { ends with tail := some node })
  | .taking node => Linked next ends (node :: queue)
  | _ => Linked next ends queue

def Mutual (threads : List (QueueThread N)) (mutexQueue : Option Nat) : Prop :=
  ∀ (i : Nat) (t : QueueThread N), threads[i]? = some t → (inside t = true ↔ mutexQueue = some i)

structure Inv (s : TransactionQueue N) : Prop where
  exclusive : Mutual s.threads s.mutexQueue
  order : s.dequeued <+: s.enqueued
  distinct : s.queue.Nodup
  free : s.mutexQueue = none → Linked s.next s.ends s.queue
  held : ∀ (i : Nat) (t : QueueThread N), s.mutexQueue = some i → s.threads[i]? = some t →
    Pointers s.next s.ends s.queue t
  owed : s.queue.length ≤ s.queueLength + s.threads.countP owing

section

variable {s s' : TransactionQueue N} {i : Nat} {t t' : QueueThread N}

omit [DecidableEq N] in
theorem Mutual.set {threads : List (QueueThread N)} {mutexQueue mutexQueue' : Option Nat}
    (h : Mutual threads mutexQueue) (self : inside t' = true ↔ mutexQueue' = some i)
    (others : ∀ j ≠ i, mutexQueue' = some j ↔ mutexQueue = some j) :
    Mutual (threads.set i t') mutexQueue' :=
  Exclusive.set h self others

/-- A step of a thread that is not in its critical section, and does not enter it. -/
theorem Inv.away (h : Inv s) (here : s.threads[i]? = some t) (out : inside t = false)
    (out' : inside t' = false) {queueLength : Nat} {queued executing : Int → Int}
    (owed : s.queueLength + (owing t).toNat ≤ queueLength + (owing t').toNat) :
    Inv ({ s with queueLength, queued, executing }.go i t') := by
  obtain ⟨exclusive, order, distinct, free, held, owed'⟩ := h
  have other : s.mutexQueue ≠ some i := fun lock =>
    absurd ((exclusive i t here).mpr lock) (by rw [out]; decide)
  refine ⟨exclusive.set ?_ fun _ _ => Iff.rfl, order, distinct, free, ?_, ?_⟩
  · rw [out']
    exact iff_of_false (by decide) other
  · intro j u lock at'
    have differs : i ≠ j := fun same => other (same ▸ lock)
    exact held j u lock (by rwa [go, List.getElem?_set_ne differs] at at')
  · have counted := countP_turn owing here t'
    change s.queue.length ≤ queueLength + (s.threads.set i t').countP owing
    omega

/-- A step inside the critical section. -/
theorem Inv.critical (h : Inv s) (here : s.threads[i]? = some t) (in' : inside t = true)
    (in'' : inside t' = true) (threads : s'.threads = s.threads)
    (mutexQueue : s'.mutexQueue = s.mutexQueue) (order : s'.dequeued <+: s'.enqueued)
    (distinct : s'.queue.Nodup) (pointers : Pointers s'.next s'.ends s'.queue t')
    (owed : s'.queue.length + (s.queueLength + (owing t).toNat) ≤
      s.queue.length + (s'.queueLength + (owing t').toNat)) :
    Inv (s'.go i t') := by
  obtain ⟨exclusive, -, -, -, -, owed'⟩ := h
  have lock : s.mutexQueue = some i := (exclusive i t here).mp in'
  refine ⟨?_, order, distinct, ?_, ?_, ?_⟩
  · rw [go, threads, mutexQueue]
    exact exclusive.set (iff_of_true in'' lock) fun _ _ => Iff.rfl
  · intro free
    cases lock.symm.trans (mutexQueue.symm.trans free)
  · intro j u held at'
    obtain rfl : i = j := Option.some_inj.mp (lock.symm.trans (mutexQueue.symm.trans held))
    rw [go, List.getElem?_set_self'] at at'
    obtain ⟨_, -, rfl⟩ := Option.map_eq_some_iff.mp at'
    exact pointers
  · have counted := countP_turn owing here t'
    change s'.queue.length ≤ s'.queueLength + (s'.threads.set i t').countP owing
    rw [threads]
    omega

theorem Inv.unlock (h : Inv s) (here : s.threads[i]? = some t) (in' : inside t = true)
    (out' : inside t' = false) (linked : Pointers s.next s.ends s.queue t →
      Linked s.next s.ends s.queue) (owed : (owing t).toNat ≤ (owing t').toNat) :
    Inv ({ s with mutexQueue := none }.go i t') := by
  obtain ⟨exclusive, order, distinct, -, held, owed'⟩ := h
  have lock : s.mutexQueue = some i := (exclusive i t here).mp in'
  refine ⟨exclusive.set ?_ ?_, order, distinct, ?_, nofun, ?_⟩
  · rw [out']
    exact iff_of_false (by decide) nofun
  · intro j differs
    rw [lock]
    exact iff_of_false nofun fun same => differs (Option.some_inj.mp same).symm
  · exact fun _ => linked (held i t lock here)
  · have counted := countP_turn owing here t'
    change s.queue.length ≤ s.queueLength + (s.threads.set i t').countP owing
    omega

/-- A lock that was free changes nothing for the threads that do not take it. -/
theorem others_of_free {mutexQueue : Option Nat} (free : mutexQueue = none) (j : Nat)
    (differs : j ≠ i) : some i = some j ↔ mutexQueue = some j := by
  rw [free]
  exact iff_of_false (fun same => differs (Option.some_inj.mp same).symm) nofun

/-- An enqueuer takes the lock; its node goes to the end. -/
theorem Inv.lockEnqueue {node : N} (h : Inv s)
    (here : s.threads[i]? = some (.enqueueing .locking node)) (free : s.mutexQueue = none)
    (fresh : node ∉ s.queue) :
    Inv ({ s with mutexQueue := some i, enqueued := s.enqueued ++ [node] }.go i
      (.enqueueing .clearing node)) := by
  obtain ⟨exclusive, order, distinct, linked, -, owed⟩ := h
  have longer : (s.enqueued ++ [node]).drop s.dequeued.length = s.queue ++ [node] :=
    List.drop_append_of_le_length order.length_le
  refine ⟨exclusive.set (iff_of_true rfl rfl) (others_of_free free),
    order.trans (List.prefix_append _ _), ?_, nofun, ?_, ?_⟩
  · change ((s.enqueued ++ [node]).drop s.dequeued.length).Nodup
    rw [longer]
    exact distinct.append (List.nodup_singleton node)
      (List.disjoint_singleton.mpr fresh)
  · intro j u lock at'
    obtain rfl : i = j := Option.some_inj.mp lock
    rw [go, List.getElem?_set_self'] at at'
    obtain ⟨_, -, rfl⟩ := Option.map_eq_some_iff.mp at'
    exact ⟨s.queue, longer, linked free⟩
  · have counted := countP_turn owing here (.enqueueing .clearing node)
    have one : (owing (.enqueueing .clearing node : QueueThread N)).toNat = 1 := rfl
    have zero : (owing (.enqueueing .locking node : QueueThread N)).toNat = 0 := rfl
    change ((s.enqueued ++ [node]).drop s.dequeued.length).length ≤
      s.queueLength + (s.threads.set i _).countP owing
    rw [longer, List.length_append, List.length_singleton]
    omega

theorem Inv.lockDequeue {released : Bool} (h : Inv s)
    (here : s.threads[i]? = some (.locking released)) (free : s.mutexQueue = none) :
    Inv ({ s with mutexQueue := some i }.go i (.looking released)) := by
  obtain ⟨exclusive, order, distinct, linked, -, owed⟩ := h
  refine ⟨exclusive.set (iff_of_true rfl rfl) (others_of_free free), order, distinct, nofun, ?_, ?_⟩
  · intro j u lock at'
    obtain rfl : i = j := Option.some_inj.mp lock
    rw [go, List.getElem?_set_self'] at at'
    obtain ⟨_, -, rfl⟩ := Option.map_eq_some_iff.mp at'
    exact linked free
  · have counted := countP_turn owing here (.looking released)
    change s.queue.length ≤ s.queueLength + (s.threads.set i _).countP owing
    have same : (owing (.looking released : QueueThread N)).toNat =
      (owing (.locking released : QueueThread N)).toNat := rfl
    omega

end

/-! ## Statements of the critical sections -/

section

variable {s s' : TransactionQueue N} {i : Nat} {node : N}

theorem Inv.pointers {t : QueueThread N} (h : Inv s) (here : s.threads[i]? = some t)
    (in' : inside t = true) : Pointers s.next s.ends s.queue t :=
  h.held i t ((h.exclusive i t here).mp in') here

/-- The statements that append a node amount to `push`. -/
theorem Inv.append {pc : EnqueuePc} (h : Inv s)
    (here : s.threads[i]? = some (.enqueueing pc node))
    (in' : inside (.enqueueing pc node) = true)
    (stepped : s.stepEnqueue transaction i node pc = some s') : Inv s' := by
  have pointers := h.pointers here in'
  cases pc with
  | counting | locking => cases in'
  | clearing =>
    obtain rfl := Option.some_inj.mp stepped
    obtain ⟨l, queue, linked⟩ := pointers
    exact h.critical here rfl rfl rfl rfl h.order h.distinct ⟨l, s.next, queue, linked, rfl⟩ le_rfl
  | numbering =>
    obtain rfl := Option.some_inj.mp stepped
    exact h.critical here rfl rfl rfl rfl h.order h.distinct pointers le_rfl
  | appending =>
    obtain ⟨l, next', queue, linked, cleared⟩ := pointers
    have distinct : (l ++ [node]).Nodup := queue ▸ h.distinct
    have fresh : node ∉ l := fun mem =>
      List.disjoint_of_nodup_append distinct mem List.mem_cons_self
    have pushed := linked.push (List.Nodup.of_append_left distinct) fresh
    simp only [stepEnqueue] at stepped
    cases tail : s.ends.tail with
    | some t =>
      rw [tail] at stepped
      obtain rfl := Option.some_inj.mp stepped
      refine h.critical here rfl rfl rfl rfl h.order h.distinct ⟨l, next', queue, linked, ?_⟩ le_rfl
      rw [LinkedQueue.push, tail, cleared]
    | none =>
      rw [tail] at stepped
      obtain rfl := Option.some_inj.mp stepped
      refine h.critical here rfl rfl rfl rfl h.order h.distinct ?_ le_rfl
      rw [LinkedQueue.push, tail, ← cleared, ← queue] at pushed
      exact pushed
  | moving =>
    obtain rfl := Option.some_inj.mp stepped
    obtain ⟨l, next', queue, linked, moved⟩ := pointers
    have distinct : (l ++ [node]).Nodup := queue ▸ h.distinct
    have fresh : node ∉ l := fun mem =>
      List.disjoint_of_nodup_append distinct mem List.mem_cons_self
    have pushed := linked.push (List.Nodup.of_append_left distinct) fresh
    rw [moved, ← queue] at pushed
    exact h.critical here rfl rfl rfl rfl h.order h.distinct pushed le_rfl
  | posting =>
    obtain rfl := Option.some_inj.mp stepped
    exact h.critical here rfl rfl rfl rfl h.order h.distinct pointers le_rfl
  | unlocking =>
    obtain rfl := Option.some_inj.mp stepped
    exact h.unlock here rfl rfl (fun linked => linked) le_rfl

/-- A dequeuer looks at the head: the first node of the queue, if there is one. -/
theorem Inv.look {released : Bool} (h : Inv s) (here : s.threads[i]? = some (.looking released))
    (head : s.ends.head = some node) :
    Inv ({ s with dequeued := s.dequeued ++ [node] }.go i (.taking node)) := by
  have linked : Linked s.next s.ends s.queue := h.pointers here rfl
  obtain ⟨l, first⟩ : ∃ l, s.queue = node :: l :=
    List.head?_eq_some_iff.mp (linked.head.symm.trans head)
  have whole : s.enqueued = s.dequeued ++ node :: l :=
    (List.prefix_iff_eq_append.mp h.order).symm.trans (congrArg _ first)
  have rest : s.enqueued.drop (s.dequeued ++ [node]).length = l := by
    rw [whole, List.append_cons s.dequeued node l, List.drop_left]
  refine h.critical here rfl rfl rfl rfl ?_ ?_ ?_ ?_
  · exact ⟨l, by rw [whole, List.append_assoc]; rfl⟩
  · change (s.enqueued.drop (s.dequeued ++ [node]).length).Nodup
    rw [rest]
    exact (List.nodup_cons.mp (first ▸ h.distinct)).2
  · change Linked s.next s.ends (node :: s.enqueued.drop (s.dequeued ++ [node]).length)
    rw [rest, ← first]
    exact linked
  · change (s.enqueued.drop (s.dequeued ++ [node]).length).length + (s.queueLength + _) ≤
      s.queue.length + (s.queueLength + _)
    rw [rest, first, List.length_cons]
    have most : (owing (.looking released : QueueThread N)).toNat ≤ 1 := Bool.toNat_le _
    have none' : (owing (.taking node : QueueThread N)).toNat = 0 := rfl
    omega

/-- Without a head the queue is empty, so that nothing is owed to it. -/
theorem Inv.lookEmpty {released : Bool} (h : Inv s)
    (here : s.threads[i]? = some (.looking released)) (head : s.ends.head = none) :
    Inv (s.go i (.unlocking none)) := by
  have linked : Linked s.next s.ends s.queue := h.pointers here rfl
  have nothing : s.queue = [] := List.head?_eq_none_iff.mp (linked.head.symm.trans head)
  obtain ⟨exclusive, order, distinct, free, held, owed⟩ := h
  have lock : s.mutexQueue = some i := (exclusive i _ here).mp rfl
  refine ⟨exclusive.set (iff_of_true rfl lock) fun _ _ => Iff.rfl, order, distinct, free, ?_, ?_⟩
  · intro j u at' there
    obtain rfl : i = j := Option.some_inj.mp (lock.symm.trans at')
    rw [go, List.getElem?_set_self'] at there
    obtain ⟨_, -, rfl⟩ := Option.map_eq_some_iff.mp there
    exact linked
  · change s.queue.length ≤ _
    rw [nothing]
    exact Nat.zero_le _

/-- The statements that take the head off amount to `pop`. -/
theorem Inv.take (h : Inv s) (here : s.threads[i]? = some (.taking node)) :
    Inv ({ s with ends := match s.next node with
      | none => empty
      | some b => { s.ends with head := some b } }.go i (.unlocking (some node))) := by
  have linked : Linked s.next s.ends (node :: s.queue) := h.pointers here rfl
  obtain ⟨q', popped, rest⟩ := linked.pop
  refine h.critical here rfl rfl rfl rfl h.order h.distinct ?_ le_rfl
  change Linked s.next _ s.queue
  have head : s.ends.head = some node := linked.head
  simp only [pop, head] at popped
  cases link : s.next node with
  | none =>
    rw [link] at popped
    cases popped
    exact rest
  | some b =>
    rw [link] at popped
    cases popped
    exact rest

theorem Inv.step {e : Nat × QueueInput N} (h : Inv s) (fresh' : fresh s e = true)
    (stepped : step transaction s e = some s') : Inv s' := by
  obtain ⟨t, here, stepped⟩ := Option.bind_eq_some_iff.mp stepped
  rw [fresh, here] at fresh'
  obtain ⟨i, input⟩ := e
  unfold stepThread at stepped
  split at stepped
  case h_1 | h_2 =>
    obtain rfl := Option.some_inj.mp stepped
    exact h.away here rfl rfl le_rfl
  case h_3 pc node _ =>
    cases pc with
    | counting =>
      obtain rfl := Option.some_inj.mp stepped
      exact h.away here rfl rfl le_rfl
    | locking =>
      rw [stepEnqueue, Option.ite_none_right_eq_some, Option.some_inj] at stepped
      obtain ⟨free, rfl⟩ := stepped
      exact h.lockEnqueue here free (by simpa using fresh')
    | clearing | numbering | appending | moving | posting | unlocking =>
      exact h.append transaction here rfl stepped
  case h_4 =>
    rw [Option.ite_none_right_eq_some, Option.some_inj] at stepped
    obtain ⟨positive, rfl⟩ := stepped
    refine h.away here rfl rfl ?_
    change s.queueLength + 0 ≤ s.queueLength - 1 + 1
    omega
  case h_5 =>
    obtain rfl := Option.some_inj.mp stepped
    exact h.away here rfl rfl le_rfl
  case h_6 =>
    rw [Option.ite_none_right_eq_some, Option.some_inj] at stepped
    obtain ⟨free, rfl⟩ := stepped
    exact h.lockDequeue here free
  case h_7 =>
    cases head : s.ends.head with
    | none =>
      rw [head] at stepped
      obtain rfl := Option.some_inj.mp stepped
      exact h.lookEmpty here head
    | some node =>
      rw [head] at stepped
      obtain rfl := Option.some_inj.mp stepped
      exact h.look here head
  case h_8 =>
    obtain rfl := Option.some_inj.mp stepped
    exact h.take here
  case h_9 | h_10 =>
    obtain rfl := Option.some_inj.mp stepped
    exact h.unlock here rfl rfl (fun linked => linked) le_rfl
  case h_11 | h_12 =>
    obtain rfl := Option.some_inj.mp stepped
    exact h.away here rfl rfl le_rfl
  case h_13 => cases stepped

end

/-! ## Runs -/

theorem Inv.start (next : N → Option N) (id : N → Int) (n : Nat) :
    Inv (start next id n) where
  exclusive i t here := by
    obtain ⟨-, rfl⟩ := List.mem_replicate.mp (List.mem_of_getElem? here)
    exact iff_of_false Bool.false_ne_true nofun
  order := List.nil_prefix
  distinct := List.nodup_nil
  free _ := linked_empty next
  held _ _ lock := nomatch lock
  owed := Nat.zero_le _

/-- While the lock is free, nobody is about to post. -/
theorem Inv.owing_eq_released {s : TransactionQueue N} (h : Inv s) (free : s.mutexQueue = none) :
    s.threads.countP owing = s.released := by
  apply List.countP_congr
  intro t mem
  obtain ⟨i, here⟩ := List.mem_iff_getElem?.mp mem
  have out : ¬ inside t = true := fun in' => nomatch free.symm.trans ((h.exclusive i t here).mp in')
  cases t with
  | enqueueing pc node =>
    cases pc with
    | counting | locking => exact Iff.rfl
    | clearing | numbering | appending | moving | posting | unlocking => exact absurd rfl out
  | looking | taking | unlocking => exact absurd rfl out
  | locking released => cases released <;> exact Iff.rfl
  | idle | waiting | uncounting | countingExecuting => exact Iff.rfl

theorem Inv.fifo {s : TransactionQueue N} (h : Inv s) : Fifo s where
  order := h.order
  once node := h.order.sublist.count_le node
  distinct := h.distinct
  linked := h.free
  awake free := h.owing_eq_released free ▸ h.owed

/-- In every run in which no node is enqueued that is in the queue already. -/
theorem fifo_of_run (next : N → Option N) (id : N → Int) (n : Nat)
    (es : List (Nat × QueueInput N)) (s : TransactionQueue N)
    (ran : run (step transaction) (start next id n) es = some s)
    (along : Along (step transaction) fresh (start next id n) es = true) : Fifo s := by
  have inv : Inv s := run_invariant_along
    (fun _ _ _ stepped fresh' h => h.step transaction fresh' stepped) ran along (.start next id n)
  exact inv.fifo

/-- Two nodes are queued. Signals wake the second thread, which takes both; the third has been
posted for and finds the queue empty. -/
def interruptedTake : List (Nat × QueueInput Nat) :=
  [(1, QueueInput.dequeue), (1, QueueInput.interrupted), (0, QueueInput.enqueue 7)] ++
    List.replicate 7 (0, QueueInput.run) ++ [(0, QueueInput.enqueue 8)] ++
    List.replicate 8 (0, QueueInput.run) ++ [(2, QueueInput.dequeue), (2, QueueInput.run)] ++
    List.replicate 6 (1, QueueInput.run) ++ [(1, QueueInput.dequeue), (1, QueueInput.interrupted)] ++
    List.replicate 6 (1, QueueInput.run) ++ List.replicate 3 (2, QueueInput.run)

theorem fifo_interruptedTake :
    ∃ s, run (step fun _ => 1) (start (fun _ => none) (fun _ => 0) 3) interruptedTake = some s ∧
      Fifo s := by
  obtain ⟨s, ran⟩ := Option.isSome_iff_exists.mp (by decide :
    (run (step fun _ => 1) (start (fun _ => none) (fun _ => 0) 3) interruptedTake).isSome = true)
  exact ⟨s, ran, fifo_of_run (fun _ => 1) _ _ 3 interruptedTake s ran (by decide)⟩

end TransactionQueue

end Dbt2
