import Dbt2.Routing

/-!
# The transaction counters of the client

`transaction_counter` against the records it counts. A listener counts a record before it queues
it, and a worker takes one off the count after it has dequeued it, so `Counted` adds to the queue
the threads that are in between; and a worker counts the record it executes until it has sent the
result. Who else may write to the record of a node meanwhile is a matter of `Placed`.
-/

namespace Dbt2

open LinkedQueue Threads Transition

/-- What a worker does to a record: `process_transaction` is given the transaction data to work
on, and its result is the status. -/
def ClientTransaction.process {Env T : Type} (processTransaction : Env → Int → T → Int × T)
    (env : Env) (d : ClientTransaction T) : ClientTransaction T :=
  let result := processTransaction env d.transaction d.transactionData
  { d with status := result.1, transactionData := result.2 }

/-- A listener that has counted its record, not yet queued it, with a node of a kind. -/
def Listener.counted (of : Nat → Bool) : Listener → Bool
  | .enqueueing node => of node
  | _ => false

/-- A worker that has dequeued a node of a kind, which is still counted as queued. -/
def DbWorker.uncounted (of : Nat → Bool) : DbWorker → Bool
  | .uncountingQueued node => of node
  | _ => false

/-- A worker that executes the record of a node of a kind, or returns its result. -/
def DbWorker.executes (of : Nat → Bool) : DbWorker → Bool
  | .executing node | .sending node | .uncountingExecuting node => of node
  | _ => false

def Listener.between : Listener → Bool
  | .enqueueing _ => true
  | _ => false

def DbWorker.between : DbWorker → Bool
  | .uncountingQueued _ | .countingExecuting _ => true
  | _ => false

variable {D Env : Type} (transaction : D → Int) {process : Env → D → D}

namespace Client

/-- Whether the record of a node is of type `t`. -/
def ofType (c : Client D) (t : Int) (node : Nat) : Bool :=
  transaction (c.clientData node) == t

/-- No thread is between a queue operation and its counter update. -/
def quiet (c : Client D) : Bool :=
  !c.listeners.any Listener.between && !c.workers.any DbWorker.between

structure Counted (c : Client D) (t : Int) (nodes : List Nat) : Prop where
  queued : c.queued t = (c.listeners.countP (Listener.counted (c.ofType transaction t)) +
    nodes.countP (c.ofType transaction t) +
    c.workers.countP (DbWorker.uncounted (c.ofType transaction t)) : Nat)
  executing : c.executing t =
    (c.workers.countP (DbWorker.executes (c.ofType transaction t)) : Nat)

variable {transaction} {c c' : Client D} {t : Int} {queued free : List Nat} {i node : Nat}
  {l l' : Listener} {w w' : DbWorker}

theorem count_eq (counter : Int → Int) (s t by' : Int) :
    count counter s by' t = counter t + if s == t then by' else 0 := by
  by_cases same : s = t
  · subst same
    simp [count]
  · have other : (s == t) = false := by simpa using same
    rw [count, Function.update_of_ne (Ne.symm same), other]
    simp

/-- A listener without a duty shares its node with no other thread and no queue. -/
theorem Placed.alone (h : c.Placed process queued free) (at' : c.listeners[i]? = some l)
    (holds : l.holds = some (node, .nothing)) :
    (∀ l' ∈ c.listeners, l' ≠ .enqueueing node) ∧ node ∉ queued ∧
      ∀ w ∈ c.workers, ∀ duty, w.holds ≠ some (node, duty) := by
  have own : (node, Duty.nothing) ∈ c.listeners.filterMap Listener.holds :=
    List.mem_filterMap.mpr ⟨l, List.mem_of_getElem? at', holds⟩
  have thread : (node, Duty.nothing) ∈ c.threads := Multiset.mem_add.mpr (.inl own)
  have nodup := h.valid.nodup
  refine ⟨?_, ?_, ?_⟩
  · rintro _ mem rfl
    have other : (node, Duty.pending) ∈ c.threads :=
      Multiset.mem_add.mpr (.inl (List.mem_filterMap.mpr ⟨_, mem, rfl⟩))
    have within {p : Nat × Duty} (mem : p ∈ c.threads) : p ∈ c.held queued free :=
      Multiset.mem_add.mpr (.inl (Multiset.mem_add.mpr (.inl mem)))
    have same := Multiset.inj_on_of_nodup_map nodup _ (within thread) _ (within other) rfl
    cases same
  · exact (h.apart.2.2.2 node (Multiset.mem_map_of_mem Prod.fst thread)).1
  · intro w mem duty held
    have other : (node, duty) ∈ c.workers.filterMap DbWorker.holds :=
      List.mem_filterMap.mpr ⟨w, mem, held⟩
    rw [held_nodes, threads, Multiset.map_add, Multiset.nodup_add, Multiset.nodup_add,
      Multiset.nodup_add] at nodup
    have mapped := Multiset.mem_map_of_mem Prod.fst (Multiset.mem_coe.mpr other)
    exact Multiset.disjoint_left.mp nodup.1.1.2.2 (Multiset.mem_map_of_mem Prod.fst own) mapped

namespace Counted

/-- Counts are not changed by writing to a node that none of them is about. -/
theorem write (h : c.Counted transaction t queued) (t' : Traffic D)
    (data : ∀ n, n ≠ node → t'.clientData n = c.clientData n)
    (listeners : ∀ l ∈ c.listeners, l ≠ .enqueueing node) (queue : node ∉ queued)
    (workers : ∀ w ∈ c.workers, ∀ duty, w.holds ≠ some (node, duty)) :
    (c.withTraffic t').Counted transaction t queued := by
  have same {n : Nat} (other : n ≠ node) :
      (c.withTraffic t').ofType transaction t n = c.ofType transaction t n := by
    simp only [ofType, withTraffic, data n other]
  have counted : ∀ l ∈ c.listeners, Listener.counted ((c.withTraffic t').ofType transaction t) l =
      Listener.counted (c.ofType transaction t) l := by
    intro l mem
    cases l with
    | enqueueing n => exact same fun is => listeners _ mem (is ▸ rfl)
    | _ => rfl
  have held : ∀ w ∈ c.workers,
      DbWorker.uncounted ((c.withTraffic t').ofType transaction t) w =
          DbWorker.uncounted (c.ofType transaction t) w ∧
        DbWorker.executes ((c.withTraffic t').ofType transaction t) w =
          DbWorker.executes (c.ofType transaction t) w := by
    intro w mem
    have free := workers w mem
    cases w with
    | uncountingQueued n => exact ⟨same fun is => free .pending (is ▸ rfl), rfl⟩
    | executing n => exact ⟨rfl, same fun is => free .pending (is ▸ rfl)⟩
    | sending n => exact ⟨rfl, same fun is => free .executed (is ▸ rfl)⟩
    | uncountingExecuting n => exact ⟨rfl, same fun is => free .nothing (is ▸ rfl)⟩
    | _ => exact ⟨rfl, rfl⟩
  constructor
  · have first := List.countP_congr fun l mem => Bool.eq_iff_iff.mp (counted l mem)
    have second := List.countP_congr (l := queued) fun n mem =>
      Bool.eq_iff_iff.mp (same fun is => queue (is ▸ mem))
    have third := List.countP_congr fun w mem => Bool.eq_iff_iff.mp (held w mem).1
    exact h.queued.trans (by rw [← first, ← second, ← third]; rfl)
  · have first := List.countP_congr fun w mem => Bool.eq_iff_iff.mp (held w mem).2
    exact h.executing.trans (by rw [← first]; rfl)

/-- A turn of a listener, with what it does to the queue and to the count of it. -/
theorem listener (h : c.Counted transaction t queued) (at' : c.listeners[i]? = some l)
    (l' : Listener) {queued' : List Nat} (records : c'.ofType transaction t = c.ofType transaction t)
    (listeners : c'.listeners = c.listeners.set i l') (workers : c'.workers = c.workers)
    (executing : c'.executing = c.executing)
    (balance : c'.queued t + (l.counted (c.ofType transaction t)).toNat +
        queued.countP (c.ofType transaction t) =
      c.queued t + (l'.counted (c.ofType transaction t)).toNat +
        queued'.countP (c.ofType transaction t)) :
    c'.Counted transaction t queued' := by
  have turn := countP_turn (Listener.counted (c.ofType transaction t)) at' l'
  have before := h.queued
  constructor
  · rw [records, listeners, workers]
    omega
  · rw [executing, records, workers]
    exact h.executing

theorem worker (h : c.Counted transaction t queued) (at' : c.workers[i]? = some w)
    (w' : DbWorker) {queued' : List Nat} (records : c'.ofType transaction t = c.ofType transaction t)
    (workers : c'.workers = c.workers.set i w') (listeners : c'.listeners = c.listeners)
    (balance : c'.queued t + (w.uncounted (c.ofType transaction t)).toNat +
        queued.countP (c.ofType transaction t) =
      c.queued t + (w'.uncounted (c.ofType transaction t)).toNat +
        queued'.countP (c.ofType transaction t))
    (balance' : c'.executing t + (w.executes (c.ofType transaction t)).toNat =
      c.executing t + (w'.executes (c.ofType transaction t)).toNat) :
    c'.Counted transaction t queued' := by
  have turn := countP_turn (DbWorker.uncounted (c.ofType transaction t)) at' w'
  have turn' := countP_turn (DbWorker.executes (c.ofType transaction t)) at' w'
  have before := h.queued
  have before' := h.executing
  constructor
  · rw [records, listeners, workers]
    omega
  · rw [records, workers]
    omega

/-- A turn that concerns neither a queue nor a counter. -/
theorem listenerIdle (h : c.Counted transaction t queued) (at' : c.listeners[i]? = some l)
    (l' : Listener) (records : c'.ofType transaction t = c.ofType transaction t)
    (listeners : c'.listeners = c.listeners.set i l') (workers : c'.workers = c.workers)
    (counters : c'.queued = c.queued ∧ c'.executing = c.executing)
    (counted : ∀ of, l'.counted of = l.counted of) : c'.Counted transaction t queued := by
  refine h.listener at' l' records listeners workers counters.2 ?_
  rw [counters.1, counted]

theorem workerIdle (h : c.Counted transaction t queued) (at' : c.workers[i]? = some w)
    (w' : DbWorker) (records : c'.ofType transaction t = c.ofType transaction t)
    (workers : c'.workers = c.workers.set i w') (listeners : c'.listeners = c.listeners)
    (counters : c'.queued = c.queued ∧ c'.executing = c.executing)
    (uncounted : ∀ of, w'.uncounted of = w.uncounted of)
    (executes : ∀ of, w'.executes of = w.executes of) : c'.Counted transaction t queued := by
  refine h.worker at' w' records workers listeners ?_ ?_
  · rw [counters.1, uncounted]
  · rw [counters.2, executes]

/-! ### The phases of a listener -/

/-- Only the listener's own record changes, which nobody counts. -/
theorem receives (h : c.Counted transaction t queued) (placed : c.Placed process queued free)
    (at' : c.listeners[i]? = some (.receiving node)) (t' : Traffic D)
    (data : ∀ n, n ≠ node → t'.clientData n = c.clientData n) (l' : Listener)
    (counted : ∀ of, l'.counted of = false) :
    ((c.withTraffic t').setListener i l').Counted transaction t queued := by
  obtain ⟨listeners, queue, workers⟩ := placed.alone at' rfl
  exact (h.write t' data listeners queue workers).listenerIdle at' l' rfl rfl rfl ⟨rfl, rfl⟩ counted

theorem countQueued (h : c.Counted transaction t queued)
    (at' : c.listeners[i]? = some (.counting node)) :
    ({ c with queued := count c.queued (transaction (c.clientData node)) 1 }.setListener i
      (.enqueueing node)).Counted transaction t queued := by
  have counted := count_eq c.queued (transaction (c.clientData node)) t 1
  refine h.listener at' (.enqueueing node) rfl rfl rfl rfl ?_
  simp only [Listener.counted, setListener, ofType, counted, Bool.toNat_false]
  cases transaction (c.clientData node) == t <;> simp

theorem enqueue (h : c.Counted transaction t queued)
    (at' : c.listeners[i]? = some (.enqueueing node)) :
    ((c.enqueueTransaction node).setListener i .waiting).Counted transaction t
      (queued ++ [node]) := by
  refine h.listener at' .waiting rfl rfl rfl rfl ?_
  simp only [Listener.counted, setListener, enqueueTransaction, List.countP_append,
    List.countP_singleton, Bool.toNat_false]
  cases c.ofType transaction t node <;> simp
  omega

/-! ### The phases of a worker -/

theorem dequeue (h : c.Counted transaction t (node :: queued))
    (at' : c.workers[i]? = some .dequeueing) (q : Ends Nat) :
    ({ c with transactionQueue := q }.setWorker i (.uncountingQueued node)).Counted transaction t
      queued := by
  refine h.worker at' (.uncountingQueued node) rfl rfl rfl ?_ rfl
  simp only [DbWorker.uncounted, setWorker, List.countP_cons, Bool.toNat_false]
  cases c.ofType transaction t node <;> simp
  omega

theorem uncountQueued (h : c.Counted transaction t queued)
    (at' : c.workers[i]? = some (.uncountingQueued node)) :
    ({ c with queued := count c.queued (transaction (c.clientData node)) (-1) }.setWorker i
      (.countingExecuting node)).Counted transaction t queued := by
  have counted := count_eq c.queued (transaction (c.clientData node)) t (-1)
  refine h.worker at' (.countingExecuting node) rfl rfl rfl ?_ rfl
  simp only [DbWorker.uncounted, setWorker, ofType, counted, Bool.toNat_false]
  cases transaction (c.clientData node) == t <;> simp

theorem countExecuting (h : c.Counted transaction t queued)
    (at' : c.workers[i]? = some (.countingExecuting node)) :
    ({ c with executing := count c.executing (transaction (c.clientData node)) 1 }.setWorker i
      (.executing node)).Counted transaction t queued := by
  have counted := count_eq c.executing (transaction (c.clientData node)) t 1
  refine h.worker at' (.executing node) rfl rfl rfl rfl ?_
  simp only [DbWorker.executes, setWorker, ofType, counted, Bool.toNat_false]
  cases transaction (c.clientData node) == t <;> simp

/-- The record that is executed keeps its type. -/
theorem processed (h : c.Counted transaction t queued)
    (keeps : ∀ env d, transaction (process env d) = transaction d)
    (at' : c.workers[i]? = some (.executing node)) (env : Env) :
    ((c.withTraffic (c.toTraffic.process node (process env (c.clientData node)))).setWorker i
      (.sending node)).Counted transaction t queued := by
  refine h.workerIdle at' (.sending node) ?_ rfl rfl ⟨rfl, rfl⟩ (fun _ => rfl) fun _ => rfl
  funext n
  by_cases here : n = node
  · subst here
    simp [ofType, setWorker, withTraffic, Traffic.process, keeps]
  · simp [ofType, setWorker, withTraffic, Traffic.process, Function.update_of_ne here]

theorem uncountExecuting (h : c.Counted transaction t queued)
    (at' : c.workers[i]? = some (.uncountingExecuting node)) :
    ({ c with executing := count c.executing (transaction (c.clientData node)) (-1) }.setWorker i
      (.recycling node)).Counted transaction t queued := by
  have counted := count_eq c.executing (transaction (c.clientData node)) t (-1)
  refine h.worker at' (.recycling node) rfl rfl rfl rfl ?_
  simp only [DbWorker.executes, setWorker, ofType, counted, Bool.toNat_false]
  cases transaction (c.clientData node) == t <;> simp

end Counted

theorem stepListener_counted {input : ListenerInput D} (placed : c.Placed process queued free)
    (h : c.Counted transaction t queued) (at' : c.listeners[i]? = some l)
    (stepped : c.stepListener transaction i l input = some c') :
    c'.Counted transaction t (queued ++ l.enqueues) := by
  cases stepListener_turn stepped with
  | enqueued node => exact h.enqueue at'
  | looped node =>
    simp only [Listener.enqueues, List.append_nil]
    refine h.listenerIdle at' _ rfl rfl rfl ⟨rfl, rfl⟩ fun _ => ?_
    cases c.exiting <;> rfl
  | received node d =>
    simp only [Listener.enqueues, List.append_nil]
    exact h.receives placed at' _ (fun n other => Function.update_of_ne other _ _) _ fun _ => rfl
  | failed node d =>
    simp only [Listener.enqueues, List.append_nil]
    exact h.receives placed at' _ (fun n other => Function.update_of_ne other _ _) _ fun _ => rfl
  | closed node =>
    simp only [Listener.enqueues, List.append_nil]
    exact h.listenerIdle at' .ended rfl rfl rfl ⟨rfl, rfl⟩ fun _ => rfl
  | counted node =>
    simp only [Listener.enqueues, List.append_nil]
    exact h.countQueued at'
  | permitted =>
    simp only [Listener.enqueues, List.append_nil]
    exact h.listenerIdle at' .taking rfl rfl rfl ⟨rfl, rfl⟩ fun _ => rfl
  | interrupted =>
    simp only [Listener.enqueues, List.append_nil]
    exact h
  | took node q =>
    simp only [Listener.enqueues, List.append_nil]
    exact h.listenerIdle at' (.looping node) rfl rfl rfl ⟨rfl, rfl⟩ fun _ => rfl

theorem stepWorker_counted {input : WorkerInput Env}
    (keeps : ∀ env d, transaction (process env d) = transaction d)
    (h : c.Counted transaction t queued) (at' : c.workers[i]? = some w)
    (stepped : c.stepWorker transaction process i w input = some c')
    {queued' : List Nat} (turned : c'.workers[i]? = some w')
    (taken : queued = w'.dequeued ++ queued') :
    c'.Counted transaction t queued' := by
  have now (w₁ : DbWorker) (is : (c.workers.set i w₁)[i]? = some w') : w₁ = w' := by
    rw [List.getElem?_set_self', at'] at is
    exact Option.some_inj.mp is
  cases stepWorker_turn stepped with
  | looped =>
    obtain rfl := now _ turned
    have none : (if c.exiting then DbWorker.ended else .waiting).dequeued = [] := by
      cases c.exiting <;> rfl
    rw [none, List.nil_append] at taken
    subst taken
    refine h.workerIdle at' _ rfl rfl rfl ⟨rfl, rfl⟩ (fun _ => ?_) fun _ => ?_
    · cases c.exiting <;> rfl
    · cases c.exiting <;> rfl
  | permitted =>
    obtain rfl := now _ turned
    obtain rfl : queued = queued' := taken
    exact h.workerIdle at' .dequeueing rfl rfl rfl ⟨rfl, rfl⟩ (fun _ => rfl) fun _ => rfl
  | interrupted =>
    obtain rfl := now _ turned
    obtain rfl : queued = queued' := taken
    exact h.workerIdle at' .dequeueing rfl rfl rfl ⟨rfl, rfl⟩ (fun _ => rfl) fun _ => rfl
  | dequeued node q =>
    obtain rfl := now _ turned
    obtain rfl : queued = node :: queued' := taken
    exact h.dequeue at' q
  | nothing =>
    obtain rfl := now _ turned
    obtain rfl : queued = queued' := taken
    exact h.workerIdle at' .looping rfl rfl rfl ⟨rfl, rfl⟩ (fun _ => rfl) fun _ => rfl
  | uncounted node =>
    obtain rfl := now _ turned
    obtain rfl : queued = queued' := taken
    exact h.uncountQueued at'
  | counted node =>
    obtain rfl := now _ turned
    obtain rfl : queued = queued' := taken
    exact h.countExecuting at'
  | processed node env =>
    obtain rfl := now _ turned
    obtain rfl : queued = queued' := taken
    exact h.processed keeps at' env
  | sent node =>
    obtain rfl := now _ turned
    obtain rfl : queued = queued' := taken
    exact h.workerIdle at' (.uncountingExecuting node) rfl rfl rfl ⟨rfl, rfl⟩ (fun _ => rfl)
      fun _ => rfl
  | sendFailed node =>
    obtain rfl := now _ turned
    obtain rfl : queued = queued' := taken
    exact h.workerIdle at' (.uncountingExecuting node) rfl rfl rfl ⟨rfl, rfl⟩ (fun _ => rfl)
      fun _ => rfl
  | finished node =>
    obtain rfl := now _ turned
    obtain rfl : queued = queued' := taken
    exact h.uncountExecuting at'
  | recycled node =>
    obtain rfl := now _ turned
    obtain rfl : queued = queued' := taken
    exact h.workerIdle at' .looping rfl rfl rfl ⟨rfl, rfl⟩ (fun _ => rfl) fun _ => rfl

theorem step_counted {e : ClientEvent D Env}
    (keeps : ∀ env d, transaction (process env d) = transaction d)
    (placed : c.Placed process queued free) (h : c.Counted transaction t queued)
    (stepped : c.step transaction process e = some c') {queued' : List Nat}
    (passes : c.Passes c' e queued queued') : c'.Counted transaction t queued' := by
  cases e with
  | exit =>
    cases stepped
    obtain rfl : queued' = queued := passes
    exact ⟨h.queued, h.executing⟩
  | allocate node =>
    simp only [step] at stepped
    obtain rfl : queued' = queued := passes
    split at stepped
    · cases stepped
      exact ⟨h.queued, h.executing⟩
    · cases stepped
  | accept fd =>
    simp only [step] at stepped
    obtain rfl : queued' = queued := passes
    split at stepped
    · split at stepped
      · cases stepped
      · cases stepped
        refine ⟨?_, h.executing⟩
        have before := h.queued
        simp only [withTraffic, Traffic.accept, List.countP_append, List.countP_singleton,
          Listener.counted] at before ⊢
        exact before
    · cases stepped
  | acceptFailed =>
    simp only [step] at stepped
    obtain rfl : queued' = queued := passes
    split at stepped
    · cases stepped
      exact ⟨h.queued, h.executing⟩
    · cases stepped
  | listener i input =>
    obtain ⟨l, at', stepped'⟩ := Option.bind_eq_some_iff.mp stepped
    obtain ⟨l', at'', rfl⟩ := passes
    obtain rfl := Option.some_inj.mp (at'.symm.trans at'')
    exact stepListener_counted placed h at' stepped'
  | worker i input =>
    obtain ⟨w, at', stepped'⟩ := Option.bind_eq_some_iff.mp stepped
    obtain ⟨w', turned, taken⟩ := passes
    exact stepWorker_counted keeps h at' stepped' turned taken

theorem start_counted (memory : Nat → D) (n : Nat) :
    (start memory n).Counted transaction t [] := by
  constructor <;> simp [start, DbWorker.uncounted, DbWorker.executes, List.countP_replicate]

/-- When no thread is in between, only the queue itself is left to count. -/
theorem Counted.quiet (h : c.Counted transaction t queued) (quiet : c.quiet = true) :
    c.queued t = queued.countP (c.ofType transaction t) := by
  simp only [Client.quiet, Bool.and_eq_true, Bool.not_eq_true', List.any_eq_false] at quiet
  have listeners : c.listeners.countP (Listener.counted (c.ofType transaction t)) = 0 :=
    List.countP_eq_zero.mpr fun l mem => by
      have out := quiet.1 l mem
      cases l <;> simp_all [Listener.between, Listener.counted]
  have workers : c.workers.countP (DbWorker.uncounted (c.ofType transaction t)) = 0 :=
    List.countP_eq_zero.mpr fun w mem => by
      have out := quiet.2 w mem
      cases w <;> simp_all [DbWorker.between, DbWorker.uncounted]
  have count := h.queued
  omega

/-- In every state that listeners and workers reach, in whatever order they take their steps, no
counter is negative, and unless a thread is between a queue operation and its counter update the
counters are the number of records in the queue and the number of those being executed. -/
theorem transaction_counters_exact {T : Type} (processTransaction : Env → Int → T → Int × T)
    {memory : Nat → ClientTransaction T} {n : Nat} {c : Client (ClientTransaction T)}
    {es : List (ClientEvent (ClientTransaction T) Env)}
    (ran : run (step ClientTransaction.transaction (ClientTransaction.process processTransaction))
      (start memory n) es = some c) :
    ∃ nodes, Linked c.next c.transactionQueue nodes ∧ ∀ t,
      0 ≤ c.queued t ∧ 0 ≤ c.executing t ∧ (c.quiet = true →
        c.queued t = nodes.countP (c.ofType ClientTransaction.transaction t) ∧
        c.executing t =
          c.workers.countP (DbWorker.executes (c.ofType ClientTransaction.transaction t))) := by
  have preserved (s : Client (ClientTransaction T)) (e : ClientEvent (ClientTransaction T) Env)
      (s' : Client (ClientTransaction T))
      (stepped : s.step ClientTransaction.transaction
        (ClientTransaction.process processTransaction) e = some s')
      (before : ∃ queued free, s.Placed (ClientTransaction.process processTransaction) queued free ∧
        ∀ t, s.Counted ClientTransaction.transaction t queued) :
      ∃ queued free, s'.Placed (ClientTransaction.process processTransaction) queued free ∧
        ∀ t, s'.Counted ClientTransaction.transaction t queued := by
    obtain ⟨queued, free, placed, counted⟩ := before
    obtain ⟨queued', free', passes, placed'⟩ := step_placed placed stepped
    have keeps (env : Env) (d : ClientTransaction T) :
        (ClientTransaction.process processTransaction env d).transaction = d.transaction := rfl
    exact ⟨queued', free', placed', fun t => step_counted keeps placed (counted t) stepped passes⟩
  obtain ⟨queued, free, placed, counted⟩ := run_invariant preserved ran
    ⟨[], [], start_placed memory n, fun t => start_counted memory n⟩
  refine ⟨queued, placed.queue, fun t => ⟨?_, ?_, fun quiet => ⟨(counted t).quiet quiet, ?_⟩⟩⟩
  · rw [(counted t).queued]
    exact Int.natCast_nonneg _
  · rw [(counted t).executing]
    exact Int.natCast_nonneg _
  · exact (counted t).executing

/-- Two requests on two connections, a New-Order that is executed while a Payment is queued. -/
def oneExecutes : List (ClientEvent (ClientTransaction Unit) Unit) :=
  [.allocate 7, .accept 3, .allocate 8, .accept 4, .listener 0 .run, .listener 1 .run,
    .listener 0 (.record { status := 0, transaction := 1, transactionData := () }),
    .listener 1 (.record { status := 0, transaction := 3, transactionData := () }),
    .listener 0 .run, .listener 0 .run, .worker 0 .run, .worker 0 .run, .worker 0 .run,
    .worker 0 .run, .worker 0 .run, .listener 1 .run, .listener 1 .run]

theorem transaction_counters_exact_oneExecutes : ∃ c : Client (ClientTransaction Unit),
    run (step ClientTransaction.transaction (ClientTransaction.process fun _ _ d => (0, d)))
      (start (fun _ => { status := 0, transaction := 0, transactionData := () }) 1)
      oneExecutes = some c ∧
    c.quiet = true ∧ (c.queued 1, c.executing 1, c.queued 3, c.executing 3) = (0, 1, 1, 0) ∧
    ∃ nodes, Linked c.next c.transactionQueue nodes ∧
      c.queued 3 = nodes.countP (c.ofType ClientTransaction.transaction 3) := by
  have counts : (run (step ClientTransaction.transaction
        (ClientTransaction.process fun _ _ d => (0, d)))
      (start (fun _ => { status := 0, transaction := 0, transactionData := () }) 1)
      oneExecutes).map
      (fun c => (c.quiet, c.queued 1, c.executing 1, c.queued 3, c.executing 3)) =
        some (true, 0, 1, 1, 0) := by
    rfl
  obtain ⟨c, ran, same⟩ := Option.map_eq_some_iff.mp counts
  obtain ⟨quiet, counters⟩ := Prod.mk.inj same
  obtain ⟨nodes, linked, exact⟩ := transaction_counters_exact _ ran
  exact ⟨c, ran, quiet, counters, nodes, linked, ((exact 3).2.2 quiet).1⟩

end Client

end Dbt2
