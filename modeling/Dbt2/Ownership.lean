import Dbt2.Client

/-!
# Who holds a node, and what it owes

Each node in circulation is held by one listener, one worker, the transaction queue or the free
list, and with it goes a duty toward the connection it carries: none, a request to execute, or a
response to send. `held` collects nodes with their duties; most steps leave it as it is, and the
others change one entry.
-/

namespace Dbt2

open LinkedQueue Transition

/-- What the holder of a node still has to do for its connection. -/
inductive Duty where
  | nothing
  | pending
  | executed
  deriving DecidableEq

def Listener.holds : Listener → Option (Nat × Duty)
  | .looping node | .receiving node | .returned node => some (node, .nothing)
  | .counting node | .enqueueing node => some (node, .pending)
  | .waiting | .taking | .ended => none

def DbWorker.holds : DbWorker → Option (Nat × Duty)
  | .uncountingQueued node | .countingExecuting node | .executing node => some (node, .pending)
  | .sending node => some (node, .executed)
  | .uncountingExecuting node | .recycling node => some (node, .nothing)
  | .looping | .waiting | .dequeueing | .ended => none

/-- A permit of `free_count` that a listener has drawn and not yet used. -/
def Listener.permit : Listener → Option Unit
  | .taking => some ()
  | _ => none

/-! ## Traffic -/

section

variable {D Env : Type} (process : Env → D → D)

/-- The responses written answer the first of the requests received, in order. -/
def Answers (received written : List D) : Prop :=
  ∀ (k : Nat) (d' : D), written[k]? = some d' →
    ∃ d env, received[k]? = some d ∧ d' = process env d

namespace Traffic

/-- How many requests of a connection are unanswered, as long as no send on it has failed. -/
def Owes (t : Traffic D) (fd : Int) (n : Nat) : Prop :=
  t.broken fd = false → (t.written fd).length + n = (t.received fd).length

def DutyHolds (t : Traffic D) (node : Nat) : Duty → Prop
  | .nothing => t.Owes (t.s node) 0
  | .pending => t.Owes (t.s node) 1 ∧
      (t.received (t.s node)).getLast? = some (t.clientData node)
  | .executed => t.Owes (t.s node) 1 ∧ ∃ d env,
      (t.received (t.s node)).getLast? = some d ∧ t.clientData node = process env d

/-- The nodes `held` are those allocated, one each and with a connection each, and do what their
duties say. -/
structure Valid (t : Traffic D) (held : Multiset (Nat × Duty)) : Prop where
  nodup : (held.map Prod.fst).Nodup
  allocated : ∀ node, node ∈ t.allocated ↔ t.accepting = some node ∨ node ∈ held.map Prod.fst
  accepting : ∀ node, t.accepting = some node → node ∉ held.map Prod.fst
  sockets : ∀ p ∈ held, t.s p.1 ∈ t.sockets
  distinct : ∀ p ∈ held, ∀ q ∈ held, t.s p.1 = t.s q.1 → p.1 = q.1
  duties : ∀ p ∈ held, t.DutyHolds process p.1 p.2
  fresh : ∀ fd, fd ∉ t.sockets → t.received fd = [] ∧ t.written fd = []

variable {process} {t t' : Traffic D} {held rest : Multiset (Nat × Duty)} {node : Nat} {fd : Int}
  {duty duty' : Duty}

/-- A duty is a matter of the node's data and its connection. -/
theorem DutyHolds.congr (h : t.DutyHolds process node duty) (s : t'.s node = t.s node)
    (broken : t'.broken (t.s node) = t.broken (t.s node))
    (received : t'.received (t.s node) = t.received (t.s node))
    (written : t'.written (t.s node) = t.written (t.s node))
    (data : t'.clientData node = t.clientData node) : t'.DutyHolds process node duty := by
  cases duty <;> simpa only [DutyHolds, Owes, s, broken, received, written, data] using h

/-- A step that concerns one node and its connection, and changes the node's duty. -/
theorem Valid.change (h : t.Valid process ((node, duty) ::ₘ rest))
    (same : t'.allocated = t.allocated ∧ t'.accepting = t.accepting ∧ t'.s = t.s ∧
      t'.sockets = t.sockets)
    (others : ∀ fd, fd ≠ t.s node → t'.broken fd = t.broken fd ∧ t'.received fd = t.received fd ∧
      t'.written fd = t.written fd)
    (data : ∀ n, n ≠ node → t'.clientData n = t.clientData n)
    (holds : t'.DutyHolds process node duty') : t'.Valid process ((node, duty') ::ₘ rest) := by
  obtain ⟨sameAllocated, sameAccepting, sameS, sameSockets⟩ := same
  have own : t.s node ∈ t.sockets := h.sockets _ (Multiset.mem_cons_self _ _)
  have apart (p : Nat × Duty) (mem : p ∈ rest) : p.1 ≠ node ∧ t.s p.1 ≠ t.s node := by
    have nodup := h.nodup
    rw [Multiset.map_cons, Multiset.nodup_cons] at nodup
    have other : p.1 ≠ node := fun is => nodup.1 (Multiset.mem_map.mpr ⟨p, mem, is⟩)
    exact ⟨other, fun is => other (h.distinct p (Multiset.mem_cons_of_mem mem) _
      (Multiset.mem_cons_self _ _) is)⟩
  constructor
  · simpa using h.nodup
  · intro n
    simpa [sameAllocated, sameAccepting] using h.allocated n
  · intro n
    simpa [sameAccepting] using h.accepting n
  · intro p mem
    rw [sameS, sameSockets]
    obtain rfl | mem := Multiset.mem_cons.mp mem
    · exact own
    · exact h.sockets p (Multiset.mem_cons_of_mem mem)
  · intro p hp q hq
    have entry (p : Nat × Duty) (mem : p ∈ (node, duty') ::ₘ rest) :
        ∃ p' ∈ (node, duty) ::ₘ rest, p'.1 = p.1 := by
      obtain rfl | mem := Multiset.mem_cons.mp mem
      · exact ⟨_, Multiset.mem_cons_self _ _, rfl⟩
      · exact ⟨p, Multiset.mem_cons_of_mem mem, rfl⟩
    obtain ⟨p', hp', is⟩ := entry p hp
    obtain ⟨q', hq', is'⟩ := entry q hq
    rw [sameS, ← is, ← is']
    exact h.distinct p' hp' q' hq'
  · intro p mem
    obtain rfl | mem := Multiset.mem_cons.mp mem
    · exact holds
    · obtain ⟨other, otherFd⟩ := apart p mem
      obtain ⟨broken, received, written⟩ := others _ otherFd
      exact (h.duties p (Multiset.mem_cons_of_mem mem)).congr (by rw [sameS]) broken received
        written (data _ other)
  · intro fd unused
    rw [sameSockets] at unused
    obtain ⟨-, received, written⟩ := others fd fun is => unused (is ▸ own)
    rw [received, written]
    exact h.fresh fd unused

theorem answers_append {received written : List D} (h : Answers process received written)
    (d : D) : Answers process (received ++ [d]) written := by
  intro k d' answered
  obtain ⟨d₀, env, request, result⟩ := h k d' answered
  exact ⟨d₀, env, by rw [List.getElem?_append_left (List.getElem?_eq_some_iff.mp request).1,
    request], result⟩

/-- The response to the last request is the next to be written. -/
theorem answers_send {received written : List D} (h : Answers process received written) {d : D}
    {env : Env} (last : received.getLast? = some d)
    (count : written.length + 1 = received.length) :
    Answers process received (written ++ [process env d]) := by
  intro k d' answered
  obtain early | here : k < written.length ∨ written.length ≤ k := Nat.lt_or_ge _ _
  · rw [List.getElem?_append_left early] at answered
    exact h k d' answered
  · rw [List.getElem?_append_right here] at answered
    obtain ⟨bound, rfl⟩ := List.getElem?_eq_some_iff.mp answered
    have k' : k = received.length - 1 := by
      simp only [List.length_singleton] at bound
      omega
    refine ⟨d, env, ?_, by simp⟩
    rw [k', ← List.getLast?_eq_getElem?, last]

theorem Valid.receive (h : t.Valid process ((node, .nothing) ::ₘ rest)) (d : D) :
    (t.receive node d).Valid process ((node, .pending) ::ₘ rest) := by
  have settled : t.Owes (t.s node) 0 := h.duties _ (Multiset.mem_cons_self _ _)
  refine h.change ⟨rfl, rfl, rfl, rfl⟩ ?_ ?_ ⟨?_, ?_⟩
  · intro fd other
    exact ⟨rfl, Function.update_of_ne other _ _, rfl⟩
  · exact fun n other => Function.update_of_ne other _ _
  · intro alive
    have count := settled alive
    simp only [Traffic.receive, Function.update_self, List.length_append, List.length_singleton]
    omega
  · simp [Traffic.receive]

theorem Valid.receiveFailed (h : t.Valid process ((node, .nothing) ::ₘ rest)) (d : D) :
    (t.receiveFailed node d).Valid process ((node, .nothing) ::ₘ rest) := by
  have settled : t.Owes (t.s node) 0 := h.duties _ (Multiset.mem_cons_self _ _)
  exact h.change ⟨rfl, rfl, rfl, rfl⟩ (fun _ _ => ⟨rfl, rfl, rfl⟩)
    (fun n other => Function.update_of_ne other _ _) settled

theorem Valid.processed (h : t.Valid process ((node, .pending) ::ₘ rest)) (env : Env) :
    (t.process node (process env (t.clientData node))).Valid process
      ((node, .executed) ::ₘ rest) := by
  obtain ⟨owes, last⟩ : t.DutyHolds process node .pending :=
    h.duties _ (Multiset.mem_cons_self _ _)
  refine h.change ⟨rfl, rfl, rfl, rfl⟩ (fun _ _ => ⟨rfl, rfl, rfl⟩)
    (fun n other => Function.update_of_ne other _ _) ⟨owes, _, env, last, ?_⟩
  simp [Traffic.process]

theorem Valid.send (h : t.Valid process ((node, .executed) ::ₘ rest)) :
    (t.send node).Valid process ((node, .nothing) ::ₘ rest) := by
  obtain ⟨owes, -⟩ : t.DutyHolds process node .executed :=
    h.duties _ (Multiset.mem_cons_self _ _)
  refine h.change ⟨rfl, rfl, rfl, rfl⟩ ?_ (fun _ _ => rfl) ?_
  · intro fd other
    exact ⟨rfl, rfl, Function.update_of_ne other _ _⟩
  · intro alive
    have count := owes alive
    simp only [Traffic.send, Function.update_self, List.length_append, List.length_singleton]
    omega

theorem Valid.sendFailed (h : t.Valid process ((node, .executed) ::ₘ rest)) :
    (t.sendFailed node).Valid process ((node, .nothing) ::ₘ rest) := by
  refine h.change ⟨rfl, rfl, rfl, rfl⟩ ?_ (fun _ _ => rfl) ?_
  · intro fd other
    exact ⟨Function.update_of_ne other _ _, rfl, rfl⟩
  · intro alive
    simp [Traffic.sendFailed] at alive

/-- A listener whose connection was closed takes its node out of circulation. -/
theorem Valid.free (h : t.Valid process ((node, duty) ::ₘ rest)) :
    (t.free node).Valid process rest := by
  have nodup := h.nodup
  rw [Multiset.map_cons, Multiset.nodup_cons] at nodup
  have mono {p : Nat × Duty} (mem : p ∈ rest) : p ∈ (node, duty) ::ₘ rest :=
    Multiset.mem_cons_of_mem mem
  have notAccepting : t.accepting ≠ some node := fun is =>
    h.accepting node is (by simp)
  refine ⟨nodup.2, ?_, ?_, fun p mem => h.sockets p (mono mem),
    fun p hp q hq => h.distinct p (mono hp) q (mono hq), fun p mem => ?_, h.fresh⟩
  · intro n
    have before := h.allocated n
    rw [Multiset.map_cons, Multiset.mem_cons] at before
    simp only [Traffic.free, Finset.mem_erase]
    by_cases here : n = node
    · subst here
      simp [notAccepting, nodup.1]
    · simp [here, before]
  · intro n is mem
    exact h.accepting n is (by rw [Multiset.map_cons]; exact Multiset.mem_cons_of_mem mem)
  · exact (h.duties p (mono mem)).congr rfl rfl rfl rfl rfl

theorem Valid.allocate (h : t.Valid process held) (idle : t.accepting = none)
    (fresh : node ∉ t.allocated) : (t.allocate node).Valid process held := by
  refine ⟨h.nodup, ?_, ?_, h.sockets, h.distinct, fun p mem => ?_, h.fresh⟩
  · intro n
    have before := h.allocated n
    simp only [Traffic.allocate, Finset.mem_insert, Option.some.injEq]
    rw [before, idle]
    simp [eq_comm]
  · intro n is mem
    obtain rfl : node = n := by simpa [Traffic.allocate] using is
    exact fresh ((h.allocated node).mpr (.inr mem))
  · exact (h.duties p mem).congr rfl rfl rfl rfl rfl

theorem Valid.acceptFailed (h : t.Valid process held) (waiting : t.accepting = some node) :
    (t.acceptFailed node).Valid process held := by
  have outside := h.accepting node waiting
  refine ⟨h.nodup, ?_, nofun, h.sockets, h.distinct, fun p mem => ?_, h.fresh⟩
  · intro n
    have before := h.allocated n
    simp only [Traffic.acceptFailed, Finset.mem_erase, reduceCtorEq, false_or]
    rw [before, waiting, Option.some.injEq]
    by_cases here : n = node
    · subst here
      simpa using outside
    · simp [here, Ne.symm here]
  · exact (h.duties p mem).congr rfl rfl rfl rfl rfl

/-- A new connection comes with a descriptor that nothing was sent or received on. -/
theorem Valid.accept (h : t.Valid process held) (waiting : t.accepting = some node)
    (unused : fd ∉ t.sockets) :
    (t.accept node fd).Valid process ((node, .nothing) ::ₘ held) := by
  have outside := h.accepting node waiting
  have other {p : Nat × Duty} (mem : p ∈ held) : p.1 ≠ node := fun is =>
    outside (Multiset.mem_map.mpr ⟨p, mem, is⟩)
  have same {p : Nat × Duty} (mem : p ∈ held) :
      Function.update t.s node fd p.1 = t.s p.1 := Function.update_of_ne (other mem) _ _
  have apart {p : Nat × Duty} (mem : p ∈ held) : t.s p.1 ≠ fd := fun is =>
    unused (is ▸ h.sockets p mem)
  constructor
  · rw [Multiset.map_cons, Multiset.nodup_cons]
    exact ⟨outside, h.nodup⟩
  · intro n
    have before := h.allocated n
    rw [waiting] at before
    simpa [Traffic.accept, eq_comm] using before
  · nofun
  · intro p mem
    obtain rfl | mem := Multiset.mem_cons.mp mem
    · simp [Traffic.accept]
    · simpa [Traffic.accept, same mem] using .inr (h.sockets p mem)
  · intro p hp q hq is
    obtain rfl | hp := Multiset.mem_cons.mp hp <;> obtain rfl | hq := Multiset.mem_cons.mp hq
    · rfl
    · simp only [Traffic.accept, Function.update_self, same hq] at is
      exact absurd is.symm (apart hq)
    · simp only [Traffic.accept, Function.update_self, same hp] at is
      exact absurd is (apart hp)
    · simp only [Traffic.accept, same hp, same hq] at is
      exact h.distinct p hp q hq is
  · intro p mem
    obtain rfl | mem := Multiset.mem_cons.mp mem
    · intro _
      obtain ⟨received, written⟩ := h.fresh fd unused
      simp [Traffic.accept, received, written]
    · exact (h.duties p mem).congr (same mem) rfl rfl rfl rfl
  · exact fun fd' outside => h.fresh fd' fun mem => outside (List.mem_cons_of_mem fd mem)

end Traffic

end

end Dbt2
