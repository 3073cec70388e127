import Dbt2.Lib.Threads
import Dbt2.Ownership

/-!
# Ownership of nodes and routing of responses

The nodes with their duties that threads and lists hold are put together in `Client.held`. A step
of a listener or a worker changes what this one thread holds, and either the duty of its node or
the list that the node comes from or goes to; `Client.Placed` is kept by all of them, hence by
every run. Responses stay in step with the requests of their socket until a send on it fails.
-/

namespace Dbt2

open LinkedQueue Threads Transition

/-- The node that a listener puts into the transaction queue in its next step. -/
def Listener.enqueues : Listener → List Nat
  | .enqueueing node => [node]
  | _ => []

/-- The node that a worker took from the transaction queue in its last step. -/
def DbWorker.dequeued : DbWorker → List Nat
  | .uncountingQueued node => [node]
  | _ => []

variable {D Env : Type} (transaction : D → Int) (process : Env → D → D)

namespace Client

def threads (c : Client D) : Multiset (Nat × Duty) :=
  (c.listeners.filterMap Listener.holds : Multiset (Nat × Duty)) +
    (c.workers.filterMap DbWorker.holds : Multiset (Nat × Duty))

/-- Who is where and owes what, with the transaction queue `queued` and the free list `free`. -/
def held (c : Client D) (queued free : List Nat) : Multiset (Nat × Duty) :=
  c.threads + (queued.map (·, Duty.pending) : Multiset (Nat × Duty)) +
    (free.map (·, Duty.nothing) : Multiset (Nat × Duty))

structure Placed (c : Client D) (queued free : List Nat) : Prop where
  queue : Linked c.next c.transactionQueue queued
  freeList : Linked c.next c.freeNodes free
  valid : c.toTraffic.Valid process (c.held queued free)
  /-- A free node for each permit, drawn or not. -/
  permits : c.freeCount + (c.listeners.filterMap Listener.permit).length = free.length

variable {transaction process} {c c' : Client D} {queued free : List Nat} {i node : Nat}
  {l l' : Listener} {w w' : DbWorker}

theorem listener_turn (at' : c.listeners[i]? = some l) (l' : Listener) :
    ∃ rest : Multiset (Nat × Duty), c.threads = l.holds.toList + rest ∧
      (c.setListener i l').threads = l'.holds.toList + rest := by
  obtain ⟨rest, before, after⟩ := filterMap_turn Listener.holds at' l'
  refine ⟨rest + (c.workers.filterMap DbWorker.holds : Multiset (Nat × Duty)), ?_, ?_⟩
  · rw [threads, before, add_assoc]
  · rw [← add_assoc, ← after]
    rfl

theorem worker_turn (at' : c.workers[i]? = some w) (w' : DbWorker) :
    ∃ rest : Multiset (Nat × Duty), c.threads = w.holds.toList + rest ∧
      (c.setWorker i w').threads = w'.holds.toList + rest := by
  obtain ⟨rest, before, after⟩ := filterMap_turn DbWorker.holds at' w'
  refine ⟨rest + (c.listeners.filterMap Listener.holds : Multiset (Nat × Duty)), ?_, ?_⟩
  · rw [threads, before, add_comm, add_assoc]
  · rw [← add_assoc, ← after, add_comm]
    rfl

theorem permit_turn (at' : c.listeners[i]? = some l) (l' : Listener) :
    ((c.listeners.set i l').filterMap Listener.permit).length + l.permit.toList.length =
      (c.listeners.filterMap Listener.permit).length + l'.permit.toList.length := by
  obtain ⟨rest, before, after⟩ := filterMap_turn Listener.permit at' l'
  have card := congrArg Multiset.card before
  have card' := congrArg Multiset.card after
  simp only [Multiset.coe_card, Multiset.card_add] at card card'
  omega

theorem held_nodes : (c.held queued free).map Prod.fst =
    c.threads.map Prod.fst + (queued : Multiset Nat) + (free : Multiset Nat) := by
  simp [held, Function.comp_def]

namespace Placed

/-- The lists have no node twice, none in common, and none that a thread holds. -/
theorem apart (h : c.Placed process queued free) : queued.Nodup ∧ free.Nodup ∧
    (∀ n ∈ queued, n ∉ free) ∧
    ∀ n ∈ c.threads.map Prod.fst, n ∉ queued ∧ n ∉ free := by
  have nodup := h.valid.nodup
  rw [held_nodes, Multiset.nodup_add, Multiset.nodup_add] at nodup
  obtain ⟨⟨-, queuedNodup, threadQueue⟩, freeNodup, others⟩ := nodup
  rw [Multiset.disjoint_left] at threadQueue others
  refine ⟨queuedNodup, freeNodup, ?_, ?_⟩
  · intro n mem
    exact others (Multiset.mem_add.mpr (.inr mem))
  · intro n mem
    exact ⟨threadQueue mem, others (Multiset.mem_add.mpr (.inl mem))⟩

/-- A step of a listener that concerns its own node and connection. -/
theorem listener (h : c.Placed process queued free) (at' : c.listeners[i]? = some l)
    (t : Traffic D) (l' : Listener)
    (change : ∀ rest : Multiset (Nat × Duty), c.toTraffic.Valid process (l.holds.toList + rest) →
      t.Valid process (l'.holds.toList + rest))
    (permit : l'.permit = l.permit) :
    ((c.withTraffic t).setListener i l').Placed process queued free := by
  obtain ⟨rest, before, after⟩ := listener_turn at' l'
  have valid := h.valid
  have counted := permit_turn at' l'
  rw [permit] at counted
  constructor
  · exact h.queue
  · exact h.freeList
  · rw [held, before, add_assoc, add_assoc] at valid
    have valid' := change _ valid
    rw [← add_assoc, ← add_assoc, ← after] at valid'
    exact valid'
  · have permits := h.permits
    simp only [setListener, withTraffic]
    omega

theorem worker (h : c.Placed process queued free) (at' : c.workers[i]? = some w)
    (t : Traffic D) (w' : DbWorker)
    (change : ∀ rest : Multiset (Nat × Duty), c.toTraffic.Valid process (w.holds.toList + rest) →
      t.Valid process (w'.holds.toList + rest)) :
    ((c.withTraffic t).setWorker i w').Placed process queued free := by
  obtain ⟨rest, before, after⟩ := worker_turn at' w'
  have valid := h.valid
  constructor
  · exact h.queue
  · exact h.freeList
  · rw [held, before, add_assoc, add_assoc] at valid
    have valid' := change _ valid
    rw [← add_assoc, ← add_assoc, ← after] at valid'
    exact valid'
  · exact h.permits

/-- Counters, ids and semaphores of the queue are nobody's place. -/
theorem congr (h : c.Placed process queued free) (traffic : c'.toTraffic = c.toTraffic)
    (next : c'.next = c.next) (queue : c'.transactionQueue = c.transactionQueue)
    (freeList : c'.freeNodes = c.freeNodes) (freeCount : c'.freeCount = c.freeCount)
    (listeners : c'.listeners = c.listeners) (workers : c'.workers = c.workers) :
    c'.Placed process queued free := by
  constructor
  · rw [next, queue]
    exact h.queue
  · rw [next, freeList]
    exact h.freeList
  · rw [traffic, held, threads, listeners, workers]
    exact h.valid
  · rw [freeCount, listeners]
    exact h.permits

/-- The listener's node goes to the end of the transaction queue. -/
theorem enqueue (h : c.Placed process queued free)
    (at' : c.listeners[i]? = some (.enqueueing node)) :
    ((c.enqueueTransaction node).setListener i .waiting).Placed process
      (queued ++ [node]) free := by
  obtain ⟨rest, before, after⟩ :=
    listener_turn (c := c.enqueueTransaction node) (i := i) at' .waiting
  obtain ⟨queuedNodup, -, disjoint, elsewhere⟩ := h.apart
  have own : node ∈ c.threads.map Prod.fst := by
    change c.threads = _ at before
    rw [before]
    simp [Listener.holds]
  obtain ⟨notQueued, notFree⟩ := elsewhere node own
  have counted := permit_turn at' .waiting
  constructor
  · exact h.queue.push queuedNodup notQueued
  · refine h.freeList.frame fun n mem => push_frame h.queue ?_ fun mem' => disjoint n mem' mem
    rintro rfl
    exact notFree mem
  · have same : ((c.enqueueTransaction node).setListener i .waiting).held (queued ++ [node]) free =
        c.held queued free := by
      change c.threads = _ at before
      rw [held, held, before, after]
      simp only [Listener.holds, Option.toList, List.map_append, List.map_cons, List.map_nil,
        ← Multiset.coe_add, ← Multiset.cons_coe, Multiset.coe_nil, ← Multiset.singleton_add]
      abel
    rw [same]
    exact h.valid
  · have permits := h.permits
    simp only [Listener.permit, Option.toList, List.length_nil] at counted
    simp only [setListener, enqueueTransaction]
    omega

/-- A listener draws a permit. -/
theorem draw (h : c.Placed process queued free) (at' : c.listeners[i]? = some .waiting)
    (available : 0 < c.freeCount) :
    ({ c with freeCount := c.freeCount - 1 }.setListener i .taking).Placed process queued free := by
  have counted := permit_turn at' .taking
  obtain ⟨rest, before, after⟩ := listener_turn at' .taking
  refine ⟨h.queue, h.freeList, ?_, ?_⟩
  · have same : (c.setListener i .taking).held queued free = c.held queued free := by
      rw [held, held, before, after]
      rfl
    exact same ▸ h.valid
  · have permits := h.permits
    simp only [Listener.permit, Option.toList, List.length_nil, List.length_singleton] at counted
    simp only [setListener]
    omega

/-- With a permit drawn there is a free node, and the listener takes the first. -/
theorem permitted (h : c.Placed process queued free) (at' : c.listeners[i]? = some .taking) :
    free ≠ [] := by
  rintro rfl
  have counted := permit_turn at' .waiting
  have permits := h.permits
  simp only [Listener.permit, Option.toList, List.length_nil, List.length_singleton] at counted
  simp only [List.length_nil] at permits
  omega

theorem take (h : c.Placed process queued (node :: free))
    (at' : c.listeners[i]? = some .taking) {q : Ends Nat} (rest' : Linked c.next q free) :
    ({ c with freeNodes := q }.setListener i (.looping node)).Placed process queued free := by
  obtain ⟨rest, before, after⟩ :=
    listener_turn (c := { c with freeNodes := q }) (i := i) at' (.looping node)
  have counted := permit_turn at' (.looping node)
  constructor
  · exact h.queue
  · exact rest'
  · have same : ({ c with freeNodes := q }.setListener i (.looping node)).held queued free =
        c.held queued (node :: free) := by
      change c.threads = _ at before
      rw [held, held, before, after]
      simp only [Listener.holds, Option.toList, List.map_cons, ← Multiset.cons_coe,
        Multiset.coe_nil, ← Multiset.singleton_add]
      abel
    rw [same]
    exact h.valid
  · have permits := h.permits
    simp only [Listener.permit, Option.toList, List.length_nil, List.length_cons]
      at counted permits
    simp only [setListener]
    omega

theorem dequeue (h : c.Placed process (node :: queued) free)
    (at' : c.workers[i]? = some .dequeueing) {q : Ends Nat} (rest' : Linked c.next q queued) :
    ({ c with transactionQueue := q }.setWorker i (.uncountingQueued node)).Placed process
      queued free := by
  obtain ⟨rest, before, after⟩ :=
    worker_turn (c := { c with transactionQueue := q }) (i := i) at' (.uncountingQueued node)
  constructor
  · exact rest'
  · exact h.freeList
  · have same : ({ c with transactionQueue := q }.setWorker i (.uncountingQueued node)).held
        queued free = c.held (node :: queued) free := by
      change c.threads = _ at before
      rw [held, held, before, after]
      simp only [DbWorker.holds, Option.toList, List.map_cons, ← Multiset.cons_coe,
        Multiset.coe_nil, ← Multiset.singleton_add]
      abel
    rw [same]
    exact h.valid
  · exact h.permits

/-- The worker's node goes to the end of the free list. -/
theorem recycle (h : c.Placed process queued free)
    (at' : c.workers[i]? = some (.recycling node)) :
    ((c.recycleNode node).setWorker i .looping).Placed process queued (free ++ [node]) := by
  obtain ⟨rest, before, after⟩ :=
    worker_turn (c := c.recycleNode node) (i := i) at' .looping
  obtain ⟨-, freeNodup, disjoint, elsewhere⟩ := h.apart
  have own : node ∈ c.threads.map Prod.fst := by
    change c.threads = _ at before
    rw [before]
    simp [DbWorker.holds]
  obtain ⟨notQueued, notFree⟩ := elsewhere node own
  constructor
  · refine h.queue.frame fun n mem => push_frame h.freeList ?_ (disjoint n mem)
    rintro rfl
    exact notQueued mem
  · exact h.freeList.push freeNodup notFree
  · have same : ((c.recycleNode node).setWorker i .looping).held queued (free ++ [node]) =
        c.held queued free := by
      change c.threads = _ at before
      rw [held, held, before, after]
      simp only [DbWorker.holds, Option.toList, List.map_append, List.map_cons, List.map_nil,
        ← Multiset.coe_add, ← Multiset.cons_coe, Multiset.coe_nil, ← Multiset.singleton_add]
      abel
    rw [same]
    exact h.valid
  · have permits := h.permits
    simp only [setWorker, recycleNode, List.length_append, List.length_singleton]
    omega

end Placed

/-! ## Steps -/

/-- How an event moves nodes into the transaction queue and out of it. -/
def Passes (c c' : Client D) (e : ClientEvent D Env) (queued queued' : List Nat) : Prop :=
  match e with
  | .listener i _ => ∃ l, c.listeners[i]? = some l ∧ queued' = queued ++ l.enqueues
  | .worker i _ => ∃ w', c'.workers[i]? = some w' ∧ queued = w'.dequeued ++ queued'
  | _ => queued' = queued

theorem stepListener_placed {c'' : Client D} {input : ListenerInput D}
    (h : c.Placed process queued free) (at' : c.listeners[i]? = some l)
    (stepped : c.stepListener transaction i l input = some c'') :
    ∃ free, c''.Placed process (queued ++ l.enqueues) free := by
  cases stepListener_turn stepped with
  | looped node =>
    simp only [Listener.enqueues, List.append_nil]
    refine ⟨free, h.listener at' c.toTraffic _ (fun rest valid => ?_) ?_⟩
    · cases c.exiting <;> exact valid
    · cases c.exiting <;> rfl
  | received node d =>
    simp only [Listener.enqueues, List.append_nil]
    exact ⟨free, h.listener at' _ _ (fun _ valid => valid.receive d) rfl⟩
  | failed node d =>
    simp only [Listener.enqueues, List.append_nil]
    exact ⟨free, h.listener at' _ _ (fun _ valid => valid.receiveFailed d) rfl⟩
  | closed node =>
    simp only [Listener.enqueues, List.append_nil]
    refine ⟨free, h.listener at' _ _ (fun rest valid => ?_) rfl⟩
    simpa [Listener.holds] using valid.free
  | counted node =>
    simp only [Listener.enqueues, List.append_nil]
    exact ⟨free,
      (h.listener at' c.toTraffic (.enqueueing node) (fun _ valid => valid) rfl).congr
        rfl rfl rfl rfl rfl rfl rfl⟩
  | enqueued node => exact ⟨free, h.enqueue at'⟩
  | permitted available =>
    simp only [Listener.enqueues, List.append_nil]
    exact ⟨free, h.draw at' available⟩
  | interrupted =>
    simp only [Listener.enqueues, List.append_nil]
    exact ⟨free, h⟩
  | took node q popped =>
    simp only [Listener.enqueues, List.append_nil]
    cases free with
    | nil => exact absurd rfl (h.permitted at')
    | cons first later =>
      obtain ⟨q', popped', rest'⟩ := h.freeList.pop
      obtain ⟨rfl, rfl⟩ : first = node ∧ q' = q := by
        simpa [popped] using popped'.symm
      exact ⟨later, h.take at' rest'⟩

theorem stepWorker_placed {c'' : Client D} {input : WorkerInput Env}
    (h : c.Placed process queued free) (at' : c.workers[i]? = some w)
    (stepped : c.stepWorker transaction process i w input = some c'') :
    ∃ queued' free w', c''.workers[i]? = some w' ∧ queued = w'.dequeued ++ queued' ∧
      c''.Placed process queued' free := by
  have turned (w' : DbWorker) : (c.workers.set i w')[i]? = some w' := by
    rw [List.getElem?_set_self', at']
    rfl
  cases stepWorker_turn stepped with
  | looped =>
    refine ⟨queued, free, _, turned _, ?_, h.worker at' c.toTraffic _ fun rest valid => ?_⟩
    · cases c.exiting <;> rfl
    · cases c.exiting <;> exact valid
  | permitted =>
    exact ⟨queued, free, _, turned _, rfl,
      (h.worker at' c.toTraffic .dequeueing fun _ valid => valid).congr
        rfl rfl rfl rfl rfl rfl rfl⟩
  | interrupted =>
    exact ⟨queued, free, _, turned _, rfl,
      h.worker at' c.toTraffic .dequeueing fun _ valid => valid⟩
  | dequeued node q popped =>
    cases queued with
    | nil => rw [h.queue.pop_nil] at popped; cases popped
    | cons first later =>
      obtain ⟨q', popped', rest'⟩ := h.queue.pop
      obtain ⟨rfl, rfl⟩ : first = node ∧ q' = q := by
        simpa [popped] using popped'.symm
      exact ⟨later, free, _, turned _, rfl, h.dequeue at' rest'⟩
  | nothing =>
    exact ⟨queued, free, _, turned _, rfl, h.worker at' c.toTraffic .looping fun _ valid => valid⟩
  | uncounted node =>
    exact ⟨queued, free, _, turned _, rfl,
      (h.worker at' c.toTraffic (.countingExecuting node) fun _ valid => valid).congr
        rfl rfl rfl rfl rfl rfl rfl⟩
  | counted node =>
    exact ⟨queued, free, _, turned _, rfl,
      (h.worker at' c.toTraffic (.executing node) fun _ valid => valid).congr
        rfl rfl rfl rfl rfl rfl rfl⟩
  | processed node env =>
    exact ⟨queued, free, _, turned _, rfl,
      h.worker at' _ (.sending node) fun _ valid => valid.processed env⟩
  | sent node =>
    exact ⟨queued, free, _, turned _, rfl,
      h.worker at' _ (.uncountingExecuting node) fun _ valid => valid.send⟩
  | sendFailed node =>
    exact ⟨queued, free, _, turned _, rfl,
      h.worker at' _ (.uncountingExecuting node) fun _ valid => valid.sendFailed⟩
  | finished node =>
    exact ⟨queued, free, _, turned _, rfl,
      (h.worker at' c.toTraffic (.recycling node) fun _ valid => valid).congr
        rfl rfl rfl rfl rfl rfl rfl⟩
  | recycled node => exact ⟨queued, _, _, turned _, rfl, h.recycle at'⟩

theorem step_placed {c'' : Client D} {e : ClientEvent D Env} (h : c.Placed process queued free)
    (stepped : c.step transaction process e = some c'') :
    ∃ queued' free, c.Passes c'' e queued queued' ∧ c''.Placed process queued' free := by
  cases e with
  | exit =>
    cases stepped
    exact ⟨queued, free, rfl, h.congr rfl rfl rfl rfl rfl rfl rfl⟩
  | allocate node =>
    simp only [step] at stepped
    split at stepped
    · rename_i idle
      cases stepped
      exact ⟨queued, free, rfl, h.queue, h.freeList, h.valid.allocate idle.2.1 idle.2.2, h.permits⟩
    · cases stepped
  | accept fd =>
    simp only [step] at stepped
    split at stepped
    · rename_i node waiting
      split at stepped
      · cases stepped
      · rename_i unused
        cases stepped
        refine ⟨queued, free, rfl, h.queue, h.freeList, ?_, ?_⟩
        · have valid := h.valid.accept waiting unused
          rw [held, threads] at valid ⊢
          simp only [withTraffic, List.filterMap_append, ← Multiset.coe_add,
            List.filterMap_cons, List.filterMap_nil, Listener.holds, ← Multiset.cons_coe,
            Multiset.coe_nil, ← Multiset.singleton_add] at valid ⊢
          convert valid using 1
          abel
        · have permits := h.permits
          simpa [withTraffic, Listener.permit, List.filterMap_cons] using permits
    · cases stepped
  | acceptFailed =>
    simp only [step] at stepped
    split at stepped
    · rename_i node waiting
      cases stepped
      exact ⟨queued, free, rfl, h.queue, h.freeList, h.valid.acceptFailed waiting, h.permits⟩
    · cases stepped
  | listener i input =>
    obtain ⟨l, at', stepped'⟩ := Option.bind_eq_some_iff.mp stepped
    obtain ⟨free, placed⟩ := stepListener_placed h at' stepped'
    exact ⟨_, free, ⟨l, at', rfl⟩, placed⟩
  | worker i input =>
    obtain ⟨w, at', stepped'⟩ := Option.bind_eq_some_iff.mp stepped
    obtain ⟨queued', free, w', turned, taken, placed⟩ := stepWorker_placed h at' stepped'
    exact ⟨queued', free, ⟨w', turned, taken⟩, placed⟩

theorem start_placed (memory : Nat → D) (n : Nat) :
    (start memory n).Placed process [] [] := by
  have none' : (start memory n).held [] [] = 0 := by
    simp [held, threads, start, List.filterMap_replicate, DbWorker.holds]
  refine ⟨linked_empty _, linked_empty _, ?_, rfl⟩
  rw [none']
  constructor <;> simp [start]

/-! ## Responses -/

variable (process) in
def Answered (c : Client D) : Prop := ∀ fd, Answers process (c.received fd) (c.written fd)

/-- A response goes out on a socket only while no send on it has failed. -/
def sends (c : Client D) : ClientEvent D Env → Bool
  | .worker i .sent =>
    match c.workers[i]? with
    | some (.sending node) => !c.broken (c.s node)
    | _ => true
  | _ => true

theorem stepListener_answered {c'' : Client D} {input : ListenerInput D} (h : c.Answered process)
    (stepped : c.stepListener transaction i l input = some c'') : c''.Answered process := by
  cases stepListener_turn stepped with
  | received node d =>
    intro fd
    by_cases here : fd = c.s node
    · subst here
      simpa [setListener, withTraffic, Traffic.receive] using Traffic.answers_append (h (c.s node)) d
    · simpa [setListener, withTraffic, Traffic.receive, Function.update_of_ne here] using h fd
  | _ => exact h

/-- The worker that sends holds the response to the last request of its connection. -/
theorem Placed.owed (h : c.Placed process queued free)
    (at' : c.workers[i]? = some (.sending node)) (unbroken : c.broken (c.s node) = false) :
    (c.written (c.s node)).length + 1 = (c.received (c.s node)).length ∧ ∃ d env,
      (c.received (c.s node)).getLast? = some d ∧ c.clientData node = process env d := by
  have mem : (node, Duty.executed) ∈ c.held queued free := by
    refine Multiset.mem_add.mpr (.inl (Multiset.mem_add.mpr (.inl (Multiset.mem_add.mpr (.inr ?_)))))
    exact List.mem_filterMap.mpr ⟨_, List.mem_of_getElem? at', rfl⟩
  obtain ⟨owes, answer⟩ : c.DutyHolds process node .executed := h.valid.duties _ mem
  exact ⟨owes unbroken, answer⟩

theorem stepWorker_answered {c'' : Client D} {input : WorkerInput Env}
    (placed : c.Placed process queued free) (h : c.Answered process)
    (at' : c.workers[i]? = some w) (good : c.sends (.worker i input) = true)
    (stepped : c.stepWorker transaction process i w input = some c'') : c''.Answered process := by
  cases stepWorker_turn stepped with
  | sent node =>
    have unbroken : c.broken (c.s node) = false := by simpa [sends, at'] using good
    obtain ⟨count, d, env, last, result⟩ := placed.owed at' unbroken
    intro fd
    by_cases here : fd = c.s node
    · subst here
      have next : Answers process _ (_ ++ [process env d]) :=
        Traffic.answers_send (h (c.s node)) last count
      simpa [setWorker, withTraffic, Traffic.send, result] using next
    · simpa [setWorker, withTraffic, Traffic.send, Function.update_of_ne here] using h fd
  | _ => exact h

theorem step_answered {c'' : Client D} {e : ClientEvent D Env}
    (placed : c.Placed process queued free) (h : c.Answered process) (good : c.sends e = true)
    (stepped : c.step transaction process e = some c'') : c''.Answered process := by
  cases e with
  | exit =>
    cases stepped
    exact h
  | allocate node =>
    simp only [step] at stepped
    split at stepped
    · cases stepped
      exact h
    · cases stepped
  | accept fd =>
    simp only [step] at stepped
    split at stepped
    · split at stepped
      · cases stepped
      · cases stepped
        exact h
    · cases stepped
  | acceptFailed =>
    simp only [step] at stepped
    split at stepped
    · cases stepped
      exact h
    · cases stepped
  | listener i input =>
    obtain ⟨l, -, stepped'⟩ := Option.bind_eq_some_iff.mp stepped
    exact stepListener_answered h stepped'
  | worker i input =>
    obtain ⟨w, at', stepped'⟩ := Option.bind_eq_some_iff.mp stepped
    exact stepWorker_answered placed h at' good stepped'

theorem start_answered (memory : Nat → D) (n : Nat) : (start memory n).Answered process :=
  fun _ _ _ written => nomatch written

/-! ## Runs -/

/-- Where nodes are: with the thread that accepts connections, a listener, the transaction queue,
a worker, or in the free list. -/
def places (c : Client D) (queued free : List Nat) : List Nat :=
  c.accepting.toList ++ c.listeners.filterMap (fun l => l.holds.map Prod.fst) ++ queued ++
    c.workers.filterMap (fun w => w.holds.map Prod.fst) ++ free

theorem places_held (c : Client D) (queued free : List Nat) :
    (c.places queued free : Multiset Nat) =
      c.accepting.toList + (c.held queued free).map Prod.fst := by
  rw [held_nodes, threads]
  simp only [places, ← Multiset.coe_add, Multiset.map_add, Multiset.map_coe, List.map_filterMap]
  abel

theorem Placed.places (h : c.Placed process queued free) (node : Nat) :
    (c.places queued free).count node = if node ∈ c.allocated then 1 else 0 := by
  have nodup : (c.places queued free : Multiset Nat).Nodup := by
    rw [places_held, Multiset.nodup_add]
    refine ⟨?_, h.valid.nodup, ?_⟩
    · cases c.accepting <;> simp
    · rw [Multiset.disjoint_left]
      intro n mem
      exact h.valid.accepting n (by simpa using mem)
  have present : node ∈ (c.places queued free : Multiset Nat) ↔ node ∈ c.allocated := by
    rw [places_held, Multiset.mem_add, h.valid.allocated node]
    simp
  rw [← Multiset.coe_count, Multiset.count_eq_of_nodup nodup]
  simp only [present]

theorem stepListener_settled {c'' : Client D} {input : ListenerInput D}
    (stepped : c.stepListener transaction i l input = some c'') :
    c''.s = c.s ∧ c''.accepting = c.accepting := by
  cases stepListener_turn stepped <;> exact ⟨rfl, rfl⟩

theorem stepWorker_settled {c'' : Client D} {input : WorkerInput Env}
    (stepped : c.stepWorker transaction process i w input = some c'') :
    c''.s = c.s ∧ c''.accepting = c.accepting := by
  cases stepWorker_turn stepped <;> exact ⟨rfl, rfl⟩

/-- Only `accept` writes to the socket of a node, and only a new node waits for it. -/
theorem step_settled {c c' : Client D} {e : ClientEvent D Env}
    (stepped : c.step transaction process e = some c') {node : Nat} (known : node ∈ c.allocated)
    (settled : c.accepting ≠ some node) : c'.s node = c.s node ∧ c'.accepting ≠ some node := by
  cases e with
  | exit =>
    cases stepped
    exact ⟨rfl, settled⟩
  | allocate n =>
    simp only [step] at stepped
    split at stepped
    · rename_i idle
      cases stepped
      refine ⟨rfl, fun waiting => ?_⟩
      obtain rfl : n = node := by simpa [withTraffic, Traffic.allocate] using waiting
      exact idle.2.2 known
    · cases stepped
  | accept fd =>
    simp only [step] at stepped
    split at stepped
    · rename_i n waiting
      split at stepped
      · cases stepped
      · cases stepped
        have other : node ≠ n := fun is => settled (is ▸ waiting)
        exact ⟨Function.update_of_ne other _ _, (Option.some_ne_none node).symm⟩
    · cases stepped
  | acceptFailed =>
    simp only [step] at stepped
    split at stepped
    · cases stepped
      exact ⟨rfl, (Option.some_ne_none node).symm⟩
    · cases stepped
  | listener i input =>
    obtain ⟨l, -, stepped'⟩ := Option.bind_eq_some_iff.mp stepped
    obtain ⟨s, accepting⟩ := stepListener_settled stepped'
    rw [s, accepting]
    exact ⟨rfl, settled⟩
  | worker i input =>
    obtain ⟨w, -, stepped'⟩ := Option.bind_eq_some_iff.mp stepped
    obtain ⟨s, accepting⟩ := stepWorker_settled stepped'
    rw [s, accepting]
    exact ⟨rfl, settled⟩

theorem run_s {c c' : Client D} {es : List (ClientEvent D Env)} {node : Nat}
    (ran : run (step transaction process) c es = some c')
    (kept : Along (step transaction process) (fun c _ => decide (node ∈ c.allocated)) c es)
    (settled : c.accepting ≠ some node) : c'.s node = c.s node := by
  induction es generalizing c with
  | nil =>
    obtain rfl : c = c' := by simpa [run] using ran
    rfl
  | cons e es ih =>
    obtain ⟨u, stepped, later⟩ := run_cons.mp ran
    obtain ⟨known, further⟩ := along_cons kept stepped
    obtain ⟨same, settled'⟩ := step_settled stepped (of_decide_eq_true known) settled
    rw [ih later further settled', same]

variable (process) in
/-- What holds of a client in every state it reaches. -/
structure Orderly (c : Client D) : Prop where
  /-- Each allocated node is in one place, and no other node in any. -/
  places : ∃ queued free, Linked c.next c.transactionQueue queued ∧
    Linked c.next c.freeNodes free ∧ ∀ node, (c.places queued free).count node =
      if node ∈ c.allocated then 1 else 0
  sockets : ∀ node ∈ c.allocated, ∀ node' ∈ c.allocated, c.accepting ≠ some node →
    c.accepting ≠ some node' → c.s node = c.s node' → node = node'
  nonempty : ∀ i : Nat, c.listeners[i]? = some Listener.taking →
    ∃ node q, pop c.next c.freeNodes = some (node, q)
  answers : ∀ (fd : Int) (k : Nat) (d' : D), (c.written fd)[k]? = some d' →
    ∃ d env, (c.received fd)[k]? = some d ∧ d' = process env d

theorem Placed.orderly (h : c.Placed process queued free) (answered : c.Answered process) :
    c.Orderly process := by
  constructor
  · exact ⟨queued, free, h.queue, h.freeList, h.places⟩
  · intro node known node' known' settled settled' same
    have entry {n : Nat} (known : n ∈ c.allocated) (settled : c.accepting ≠ some n) :
        ∃ p ∈ c.held queued free, p.1 = n := by
      obtain waiting | mem := (h.valid.allocated n).mp known
      · exact absurd waiting settled
      · exact Multiset.mem_map.mp mem
    obtain ⟨p, hp, rfl⟩ := entry known settled
    obtain ⟨p', hp', rfl⟩ := entry known' settled'
    exact h.valid.distinct p hp p' hp' same
  · intro i at'
    cases free with
    | nil => exact absurd rfl (h.permitted at')
    | cons node later =>
      obtain ⟨q, popped, -⟩ := h.freeList.pop
      exact ⟨node, q, popped⟩
  · exact answered

/-- In every state that the threads of a client reach without sending on a socket after a send on
it has failed, each node is in one place, no two carry the same connection, a drawn permit finds a
free node, and responses answer the requests of their connection in order; and a node keeps its
socket for as long as it is allocated. -/
theorem ownership_and_routing {memory : Nat → D} {n : Nat} {es : List (ClientEvent D Env)}
    (ran : run (step transaction process) (start memory n) es = some c)
    (sent : Along (step transaction process) sends (start memory n) es) :
    c.Orderly process ∧
      ∀ (node : Nat) (fs : List (ClientEvent D Env)) (c' : Client D),
        run (step transaction process) c fs = some c' →
        Along (step transaction process) (fun c _ => decide (node ∈ c.allocated)) c fs →
        c.accepting ≠ some node → c'.s node = c.s node := by
  have preserved (s : Client D) (e : ClientEvent D Env) (t : Client D)
      (stepped : s.step transaction process e = some t) (good : s.sends e = true)
      (before : (∃ queued free, s.Placed process queued free) ∧ s.Answered process) :
      (∃ queued free, t.Placed process queued free) ∧ t.Answered process := by
    obtain ⟨⟨queued, free, h⟩, answered⟩ := before
    obtain ⟨queued', free', -, placed⟩ := step_placed h stepped
    exact ⟨⟨queued', free', placed⟩, step_answered h answered good stepped⟩
  obtain ⟨⟨queued, free, h⟩, answered⟩ := run_invariant_along preserved ran sent
    ⟨⟨[], [], start_placed memory n⟩, start_answered memory n⟩
  exact ⟨h.orderly answered, fun node fs c' ran' kept settled => run_s ran' kept settled⟩

/-- One request, which is received, queued and executed by the first worker. -/
def executed (d : Nat) : List (ClientEvent Nat Unit) :=
  [.listener 0 .run, .listener 0 (.record d), .listener 0 .run, .listener 0 .run, .worker 0 .run,
    .worker 0 .run, .worker 0 .run, .worker 0 .run, .worker 0 .run, .worker 0 (.processed ())]

/-- The node is freed, and the listener goes on with it. -/
def released : List (ClientEvent Nat Unit) :=
  [.worker 0 .run, .worker 0 .run, .listener 0 .run, .listener 0 .run]

/-- One connection, whose request is received, queued, executed and answered, and whose listener
goes on with the node freed. -/
def served : List (ClientEvent Nat Unit) :=
  [.allocate 7, .accept 3] ++ executed 5 ++ [.worker 0 .sent] ++ released

theorem ownership_and_routing_served : ∃ c : Client Nat,
    (run (step (fun _ => 0) fun _ d => d + 100) (start (fun _ => 0) 1) served = some c ∧
      Along (step (fun _ => 0) fun _ d => d + 100) sends (start (fun _ => 0) 1) served) ∧
      c.written 3 = [105] ∧ c.Orderly fun (_ : Unit) d => d + 100 := by
  have written : (run (step (fun _ => 0) fun _ d => d + 100) (start (fun _ => 0) 1) served).map
      (fun c => c.written 3) = some [105] := by
    rfl
  have sent : Along (step (fun _ => 0) fun _ d => d + 100) sends (start (fun _ => 0) 1) served := by
    rfl
  obtain ⟨c, ran, same⟩ := Option.map_eq_some_iff.mp written
  exact ⟨c, ⟨ran, sent⟩, same, (ownership_and_routing ran sent).1⟩

/-- The first response is lost in a send that fails, the second is sent. -/
def lost : List (ClientEvent Nat Unit) :=
  [.allocate 7, .accept 3] ++ executed 5 ++ [.worker 0 .sendFailed] ++ released ++ executed 6 ++
    [.worker 0 .sent]

/-- After a send that failed the next response takes the place of the one that was lost. -/
theorem response_misrouted : ¬ ∀ (memory : Nat → Nat) (n : Nat) (es : List (ClientEvent Nat Unit))
    (c : Client Nat), run (step (fun _ => 0) fun _ d => d + 100) (start memory n) es = some c →
      c.Orderly fun (_ : Unit) d => d + 100 := by
  intro always
  have logged : (run (step (fun _ => 0) fun _ d => d + 100) (start (fun _ => 0) 1) lost).map
      (fun c => (c.received 3, c.written 3)) = some ([5, 6], [106]) := by
    rfl
  obtain ⟨c, ran, same⟩ := Option.map_eq_some_iff.mp logged
  obtain ⟨received, written⟩ := Prod.mk.inj same
  have first : (c.written 3)[0]? = some 106 := by rw [written]; rfl
  obtain ⟨d, -, request, result⟩ := (always _ 1 lost c ran).answers 3 0 106 first
  rw [received] at request
  obtain rfl : d = 5 := Option.some_inj.mp request.symm
  exact absurd result (by decide)

end Client

end Dbt2
