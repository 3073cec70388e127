import Dbt2.RecordTransfer

/-!
# The callers of the record transfer

What the listener, the terminals, the database workers, `client2` and `transaction_test` make of
the results of sending and receiving a record.

* `ListenerWorker`: the loop of `listener_worker`, which starts over after an error;
* `listener_aligned`: it enqueues the records that were sent, if `recv` fails only between two;
* `RecordReceiver`, `RecordSender`: the callers and the results they go on after;
* `convention_iff`: when that is just after a record that went over whole.
-/

namespace Dbt2

open Transition

/-- The bytes that a call of `recv` stores. -/
def Recv.taken : Recv → Bytes
  | .bytes b => b
  | _ => []

/-! ## The listener -/

inductive ListenerPc where
  | receiving (r : Receive)
  /-- In `get_node`. -/
  | waiting
  | exited
  deriving DecidableEq

structure ListenerWorker where
  pc : ListenerPc
  /-- The bytes that are still to come. -/
  stream : Bytes
  enqueued : List Bytes
  deriving DecidableEq

inductive ListenerEvent where
  | recv (x : Recv)
  /-- The next node, with what is in its record. -/
  | node (memory : Bytes)
  | noNode
  deriving DecidableEq

namespace ListenerWorker

variable (size : Nat)

def start (memory stream : Bytes) : ListenerWorker where
  pc := .receiving (.start size memory)
  stream
  enqueued := []

/-- After an error, `receive_transaction_data` is called again for the same node. -/
def handle (s : ListenerWorker) (memory : Bytes) (rc : Int) : ListenerWorker :=
  if rc = ERROR_SOCKET_CLOSED then { s with pc := .exited }
  else if rc = ERROR then { s with pc := .receiving (.start size memory) }
  else { s with pc := .waiting, enqueued := s.enqueued ++ [memory] }

def after (s : ListenerWorker) (r : Receive) : ListenerWorker :=
  match r.returned with
  | none => { s with pc := .receiving r }
  | some length => s.handle size r.memory (receiveTransactionData size length)

/-- Whether the stream lets a call of `recv` come to this. It may fail at any time. -/
def allows (s : ListenerWorker) : Recv → Bool
  | .bytes b => b <+: s.stream
  | .closed => s.stream = []
  | .failed => true

def step (s : ListenerWorker) (e : ListenerEvent) : Option ListenerWorker :=
  match s.pc, e with
  | .receiving r, .recv x =>
    if s.allows x then
      (r.step size x).map ({ s with stream := s.stream.drop x.taken.length }.after size)
    else none
  | .waiting, .node memory =>
    if memory.length = size then some { s with pc := .receiving (.start size memory) } else none
  | .waiting, .noNode => some { s with pc := .exited }
  | _, _ => none

/-- A `recv` fails only where nothing of a record has been received. -/
def failsBetween (s : ListenerWorker) : ListenerEvent → Bool
  | .recv .failed =>
    match s.pc with
    | .receiving r => r.total = 0
    | _ => true
  | _ => true

/-- With `part` of the next record in its place. -/
structure Inv (rs : List Bytes) (s : ListenerWorker) (part : Bytes) : Prop where
  whole : ∀ r ∈ s.enqueued, r.length = size
  conserved : s.enqueued.flatten ++ (part ++ s.stream) = rs.flatten
  receiving : ∀ r, s.pc = .receiving r →
    r.returned = none ∧ r.Got size part ∧ part.length < size
  waiting : s.pc = .waiting → part = []

section

variable {size : Nat} {rs : List Bytes} {s t : ListenerWorker} {part : Bytes}

theorem Inv.start (pos : 0 < size) {memory : Bytes} (long : memory.length = size) :
    Inv size rs (start size memory rs.flatten) [] where
  whole := by simp [ListenerWorker.start]
  conserved := rfl
  receiving := by
    rintro r ⟨rfl⟩
    exact ⟨rfl, Receive.got_start long, pos⟩
  waiting _ := rfl

theorem handle_whole (large : 3 < size) (s : ListenerWorker) (memory : Bytes) :
    s.handle size memory size =
      { s with pc := .waiting, enqueued := s.enqueued ++ [memory] } := by
  unfold handle
  rw [if_neg (by unfold ERROR_SOCKET_CLOSED; omega), if_neg (by unfold ERROR; omega)]

theorem Inv.bytes (h : Inv size rs s part) (large : 3 < size) {r r' : Receive}
    (at' : s.pc = .receiving r) {b : Bytes} (next : b <+: s.stream)
    (taken : r.step size (.bytes b) = some r') :
    ∃ part', Inv size rs ({ s with stream := s.stream.drop b.length }.after size r') part' := by
  obtain ⟨-, has, unfinished⟩ := h.receiving r at'
  obtain ⟨-, -, has', returned⟩ := has.bytes taken
  have conserved : s.enqueued.flatten ++ (part ++ b ++ s.stream.drop b.length) = rs.flatten := by
    obtain ⟨rest, left⟩ := next
    rw [← h.conserved, ← left, List.drop_left, List.append_assoc]
  by_cases last : (part ++ b).length = size
  · rw [if_pos last] at returned
    simp only [after, returned, receiveTransactionData_whole, has'.all last, handle_whole large]
    refine ⟨[], ?_, ?_, by simp, fun _ => rfl⟩
    · intro r mem
      obtain mem | mem := List.mem_append.mp mem
      · exact h.whole r mem
      · rw [List.mem_singleton.mp mem, last]
    · rw [← conserved, List.flatten_append, List.flatten_singleton, List.append_assoc]
      rfl
  · rw [if_neg last] at returned
    simp only [after, returned]
    refine ⟨part ++ b, h.whole, conserved, ?_, by simp⟩
    rintro r ⟨rfl⟩
    have := has'.remaining
    exact ⟨returned, has', by omega⟩

theorem Inv.step (h : Inv size rs s part) (large : 3 < size) {e : ListenerEvent}
    (stepped : s.step size e = some t) (between : s.failsBetween e = true) :
    ∃ part', Inv size rs t part' := by
  cases at' : s.pc with
  | receiving r =>
    obtain ⟨running, has, unfinished⟩ := h.receiving r at'
    cases e with
    | recv x =>
      simp only [ListenerWorker.step, at'] at stepped
      split at stepped
      · next allowed =>
        obtain ⟨r', taken, rfl⟩ := Option.map_eq_some_iff.mp stepped
        cases x with
        | bytes b =>
          have next : b <+: s.stream := by simpa [allows] using allowed
          obtain ⟨part', inv⟩ := h.bytes large at' next taken
          rw [at'] at inv
          exact ⟨part', inv⟩
        | closed =>
          simp only [Receive.step, running, Option.isSome_none, Bool.false_eq_true, if_false]
            at taken
          cases taken
          refine ⟨part, h.whole, h.conserved, ?_, ?_⟩
          · intro r' same
            cases (show ListenerPc.exited = .receiving r' from same)
          · intro same
            cases (show ListenerPc.exited = .waiting from same)
        | failed =>
          simp only [Receive.step, running, Option.isSome_none, Bool.false_eq_true, if_false]
            at taken
          cases taken
          have none : r.total = 0 := by simpa [failsBetween, at'] using between
          obtain rfl : part = [] := List.length_eq_zero_iff.mp (has.total.symm.trans none)
          refine ⟨[], h.whole, h.conserved, ?_, fun _ => rfl⟩
          rintro r' ⟨rfl⟩
          exact ⟨rfl, Receive.got_start has.memory, unfinished⟩
      · cases stepped
    | node memory => simp [ListenerWorker.step, at'] at stepped
    | noNode => simp [ListenerWorker.step, at'] at stepped
  | waiting =>
    obtain rfl := h.waiting at'
    cases e with
    | recv x => simp [ListenerWorker.step, at'] at stepped
    | node memory =>
      simp only [ListenerWorker.step, at'] at stepped
      split at stepped
      · next long =>
        cases stepped
        refine ⟨[], h.whole, h.conserved, ?_, fun _ => rfl⟩
        rintro r ⟨rfl⟩
        exact ⟨rfl, Receive.got_start long, by simp; omega⟩
      · cases stepped
    | noNode =>
      simp only [ListenerWorker.step, at'] at stepped
      cases stepped
      exact ⟨[], h.whole, h.conserved, by simp, by simp⟩
  | exited =>
    cases e <;> simp [ListenerWorker.step, at'] at stepped

end

end ListenerWorker

/-- As long as `recv` fails only between two records, the listener enqueues the records that were
sent, in order, and skips none. -/
theorem listener_aligned (data : Nat) (rs : List (Record (recordSize data)))
    (memory : Record (recordSize data)) {es : List ListenerEvent} {s : ListenerWorker}
    (ran : run (ListenerWorker.step (recordSize data))
      (ListenerWorker.start (recordSize data) memory (rs.map Subtype.val).flatten) es = some s)
    (between : Along (ListenerWorker.step (recordSize data)) ListenerWorker.failsBetween
      (ListenerWorker.start (recordSize data) memory (rs.map Subtype.val).flatten) es) :
    s.enqueued <+: rs.map Subtype.val := by
  have large : 3 < recordSize data := by simp only [recordSize]; omega
  have whole : ∀ r ∈ rs.map Subtype.val, r.length = recordSize data := by
    intro r mem
    obtain ⟨r', -, rfl⟩ := List.mem_map.mp mem
    exact r'.2
  have steps (s t : ListenerWorker) (e : ListenerEvent)
      (stepped : s.step (recordSize data) e = some t) (between : s.failsBetween e = true) :
      (∃ part, ListenerWorker.Inv (recordSize data) (rs.map Subtype.val) s part) →
        ∃ part, ListenerWorker.Inv (recordSize data) (rs.map Subtype.val) t part := by
    rintro ⟨part, inv⟩
    exact inv.step large stepped between
  obtain ⟨part, inv⟩ := run_invariant_along (fun s e t => steps s t e) ran between
    ⟨[], ListenerWorker.Inv.start (by omega) memory.2⟩
  obtain ⟨-, taken, -⟩ := frames_of_append (by omega) inv.whole whole inv.conserved
  rw [taken]
  exact List.take_prefix _ _

/-- A signal arrives before the first byte. -/
theorem listener_aligned_between :
    let r : Record (recordSize 0) := ⟨[1, 0, 0, 0, 2, 0, 0, 0], rfl⟩
    let memory : Record (recordSize 0) := ⟨[9, 9, 9, 9, 9, 9, 9, 9], rfl⟩
    let s := ListenerWorker.start (recordSize 0) memory ([r].map Subtype.val).flatten
    let es : List ListenerEvent := [.recv .failed, .recv (.bytes [1, 0, 0]),
      .recv (.bytes [0, 2, 0, 0, 0]), .node memory, .recv .closed]
    let t : ListenerWorker := { pc := .exited, stream := [], enqueued := [r] }
    run (ListenerWorker.step (recordSize 0)) s es = some t ∧
      Along (ListenerWorker.step (recordSize 0)) ListenerWorker.failsBetween s es = true ∧
      t.enqueued <+: [r].map Subtype.val := by
  intro r memory s es t
  have ran : run (ListenerWorker.step (recordSize 0)) s es = some t := by decide
  have between :
      Along (ListenerWorker.step (recordSize 0)) ListenerWorker.failsBetween s es = true := by
    decide
  exact ⟨ran, between, listener_aligned 0 [r] memory ran between⟩

/-- One byte arrives, `recv` fails, and the bytes after it are taken for a record. -/
theorem listener_shifted {n : Nat} (large : 3 < n + 1) {memory : Bytes}
    (long : memory.length = n + 1) :
    ∃ s, run (ListenerWorker.step (n + 1))
      (ListenerWorker.start (n + 1) memory (List.replicate (n + 1) 0 ++ List.replicate (n + 1) 1))
      [.recv (.bytes [0]), .recv .failed, .recv (.bytes (List.replicate n 0 ++ [1]))] = some s ∧
      s.enqueued = [List.replicate n 0 ++ [1]] := by
  have stream : List.replicate (n + 1) (0 : UInt8) ++ List.replicate (n + 1) 1 =
      0 :: (List.replicate n 0 ++ [1] ++ List.replicate n 1) := by
    simp [List.replicate_succ]
  have begun : Receive.store memory 0 [0] = 0 :: memory.tail := by
    simp [Receive.store]
  have stored : Receive.store (0 :: memory.tail) 0 (List.replicate n 0 ++ [1]) =
      List.replicate n 0 ++ [1] := by
    simp [Receive.store, long]
  have first : ListenerWorker.step (n + 1)
      (ListenerWorker.start (n + 1) memory (0 :: (List.replicate n 0 ++ [1] ++ List.replicate n 1)))
      (.recv (.bytes [0])) = some {
        pc := .receiving {
          memory := 0 :: memory.tail, data := 1, total := 1, remaining := n, returned := none }
        stream := List.replicate n 0 ++ [1] ++ List.replicate n 1
        enqueued := [] } := by
    have other : n ≠ 0 := by omega
    simp [ListenerWorker.step, ListenerWorker.start, ListenerWorker.allows, Receive.step,
      Receive.start, ListenerWorker.after, Recv.taken, begun, other]
  have third : ListenerWorker.step (n + 1)
      { pc := .receiving (.start (n + 1) (0 :: memory.tail))
        stream := List.replicate n 0 ++ [1] ++ List.replicate n 1
        enqueued := [] }
      (.recv (.bytes (List.replicate n 0 ++ [1]))) = some {
        pc := .waiting
        stream := List.replicate n 1
        enqueued := [List.replicate n 0 ++ [1]] } := by
    have whole := receiveTransactionData_whole (n + 1)
    have handled := ListenerWorker.handle_whole large
    have rest : (List.replicate n (0 : UInt8) ++ 1 :: List.replicate n 1).drop (n + 1) =
        List.replicate n 1 := by simp [List.drop_append]
    push_cast at whole handled
    simp [ListenerWorker.step, ListenerWorker.allows, Receive.step, Receive.start,
      ListenerWorker.after, Recv.taken, stored, whole, handled, rest]
  rw [stream]
  exact ⟨_, run_cons.mpr ⟨_, first, run_cons.mpr ⟨_, rfl, run_cons.mpr ⟨_, third, rfl⟩⟩⟩, rfl⟩

/-- Whatever the size of a record, the listener can lose its alignment. -/
theorem listener_misaligned : ¬ ∃ data, ∀ (rs : List (Record (recordSize data)))
    (memory : Record (recordSize data)) es s,
    run (ListenerWorker.step (recordSize data))
      (ListenerWorker.start (recordSize data) memory (rs.map Subtype.val).flatten) es = some s →
    s.enqueued <+: rs.map Subtype.val := by
  rintro ⟨data, aligned⟩
  have size : recordSize data = data + 7 + 1 := by simp only [recordSize]; omega
  rw [size] at aligned
  have zeros : (List.replicate (data + 7 + 1) (0 : UInt8)).length = data + 7 + 1 :=
    List.length_replicate
  have ones : (List.replicate (data + 7 + 1) (1 : UInt8)).length = data + 7 + 1 :=
    List.length_replicate
  obtain ⟨s, ran, enqueued⟩ := listener_shifted (n := data + 7) (by omega) zeros
  have in_order := aligned [⟨_, zeros⟩, ⟨_, ones⟩] ⟨_, zeros⟩ _ s (by simpa using ran)
  rw [enqueued] at in_order
  obtain ⟨same, -⟩ := List.cons_prefix_cons.mp in_order
  have mem : (1 : UInt8) ∈ List.replicate (data + 7 + 1) (0 : UInt8) :=
    (show _ = List.replicate (data + 7 + 1) (0 : UInt8) from same) ▸ List.mem_append_right _ (by simp)
  exact absurd (List.eq_of_mem_replicate mem) (by decide)

/-! ## The results of a call -/

def Recv.delivers : Recv → Bool
  | .bytes _ => true
  | _ => false

def received (xs : List Recv) : Bytes := xs.flatMap Recv.taken

def Sent.count : Sent → Nat
  | .bytes n => n
  | .failed _ => 0

def Sent.leaves : Sent → Bool
  | .bytes _ => true
  | .failed _ => false

/-- The error of a socket that the other side has closed. -/
def Sent.broken : Sent → Bool
  | .bytes _ => false
  | .failed errno => errno = EPIPE ∨ errno = ECONNRESET

def sentBytes (xs : List Sent) : Nat := (xs.map Sent.count).sum

/-- After these calls of `recv`: what they stored is in place, and the last of them has ended the
loop, if it has ended. -/
structure Receive.After (length : Nat) (r : Receive) (xs : List Recv) : Prop where
  got : r.Got length (received xs)
  running : r.returned = none → xs.all Recv.delivers = true ∧ (received xs).length < length
  returned : ∀ n, r.returned = some n →
    (xs.all Recv.delivers = true ∧ n = length ∧ (received xs).length = length) ∨
      (xs.all Recv.delivers = false ∧ (n = -1 ∨ n = ERR_SOCKET_CLOSED) ∧
        (received xs).length < length)

/-- After these calls of `send`. Only the last of them can have failed. -/
structure Send.After (length : Nat) (s : Send) (xs : List Sent) : Prop where
  sum : sentBytes xs + s.remaining = length
  running : s.returned = none →
    xs.all Sent.leaves = true ∧ xs.any Sent.broken = false ∧ 0 < s.remaining
  returned : ∀ n, s.returned = some n →
    (xs.all Sent.leaves = true ∧ xs.any Sent.broken = false ∧ n = length ∧
      sentBytes xs = length) ∨
      (xs.all Sent.leaves = false ∧ xs.any Sent.broken = Sent.broken (.failed s.errno) ∧ n = -1 ∧
        sentBytes xs < length)

section

variable {length : Nat} {r r' : Receive} {s s' : Send}

theorem Receive.step_running {x : Recv} (stepped : r.step length x = some r') :
    r.returned = none := by
  by_contra returned
  simp [Receive.step, Option.isSome_iff_ne_none.mpr returned] at stepped

theorem Send.step_running {x : Sent} (stepped : s.step length x = some s') :
    s.returned = none := by
  by_contra returned
  simp [Send.step, Option.isSome_iff_ne_none.mpr returned] at stepped

theorem Receive.After.fail {before : List Recv} {x : Recv} (h : r.After length before)
    (open' : r.returned = none) (none_taken : x.taken = []) (fails : x.delivers = false) {n : Int}
    (code : n = -1 ∨ n = ERR_SOCKET_CLOSED) :
    Receive.After length { r with returned := some n } (before ++ [x]) := by
  have same : received (before ++ [x]) = received before := by simp [received, none_taken]
  obtain ⟨memory, data, total, remaining, stored⟩ := h.got
  refine ⟨same ▸ ⟨memory, data, total, remaining, stored⟩, by simp, ?_⟩
  rintro n' ⟨rfl⟩
  exact .inr ⟨by simp [fails], code, same ▸ (h.running open').2⟩

theorem Receive.After.step {before : List Recv} {x : Recv} (h : r.After length before)
    (stepped : r.step length x = some r') : r'.After length (before ++ [x]) := by
  have open' := Receive.step_running stepped
  obtain ⟨all, short⟩ := h.running open'
  cases x with
  | bytes b =>
    obtain ⟨-, -, got, returned⟩ := h.got.bytes stepped
    have le := got.remaining
    have more : received before ++ b = received (before ++ [.bytes b]) := by
      simp [received, Recv.taken]
    rw [more] at got returned le
    refine ⟨got, ?_, ?_⟩
    · intro running
      refine ⟨by simp [all, Recv.delivers], ?_⟩
      split at returned
      · simp [running] at returned
      · omega
    · intro n ended
      split at returned
      · next whole =>
        refine .inl ⟨by simp [all, Recv.delivers], ?_, whole⟩
        exact Option.some_inj.mp (ended.symm.trans returned)
      · simp [ended] at returned
  | closed =>
    simp only [Receive.step, open', Option.isSome_none, Bool.false_eq_true, if_false] at stepped
    cases stepped
    exact h.fail open' rfl rfl (.inr rfl)
  | failed =>
    simp only [Receive.step, open', Option.isSome_none, Bool.false_eq_true, if_false] at stepped
    cases stepped
    exact h.fail open' rfl rfl (.inl rfl)

theorem Send.After.step {before : List Sent} {x : Sent} (h : s.After length before)
    (stepped : s.step length x = some s') : s'.After length (before ++ [x]) := by
  have open' := Send.step_running stepped
  obtain ⟨all, unbroken, left⟩ := h.running open'
  have sum := h.sum
  cases x with
  | bytes n =>
    obtain ⟨-, pos, le, rfl⟩ := Send.step_bytes stepped
    have more : sentBytes (before ++ [.bytes n]) = sentBytes before + n := by
      simp [sentBytes, Sent.count]
    have leaves : (before ++ [Sent.bytes n]).all Sent.leaves = true := by simp [all, Sent.leaves]
    have whole : (before ++ [Sent.bytes n]).any Sent.broken = false := by
      simp [unbroken, Sent.broken]
    by_cases last : s.remaining - n = 0
    · rw [if_pos last]
      have rest : sentBytes (before ++ [.bytes n]) + (s.remaining - n) = length := by omega
      refine ⟨rest, by simp, ?_⟩
      rintro n' ⟨rfl⟩
      exact .inl ⟨leaves, whole, rfl, by rw [more]; omega⟩
    · rw [if_neg last]
      have rest : sentBytes (before ++ [.bytes n]) + (s.remaining - n) = length := by omega
      exact ⟨rest, fun _ => ⟨leaves, whole, Nat.pos_of_ne_zero last⟩, by simp⟩
  | failed errno =>
    simp only [Send.step, open', Option.isSome_none, Bool.false_eq_true, if_false] at stepped
    cases stepped
    have same : sentBytes (before ++ [.failed errno]) = sentBytes before := by
      simp [sentBytes, Sent.count]
    refine ⟨same ▸ sum, by simp, ?_⟩
    rintro n ⟨rfl⟩
    refine .inr ⟨by simp [Sent.leaves], by simp [unbroken], rfl, ?_⟩
    rw [same]
    omega

end

theorem Receive.after_of_run {length : Nat} (pos : 0 < length) {memory : Bytes}
    (long : memory.length = length) {xs : List Recv} {r : Receive}
    (ran : run (Receive.step length) (.start length memory) xs = some r) : r.After length xs :=
  history_of_run (Receive.After length) (fun _ _ _ _ stepped after => after.step stepped) ran
    ⟨Receive.got_start long, fun _ => ⟨rfl, pos⟩, by simp [Receive.start]⟩

theorem Send.after_of_run {length : Nat} (pos : 0 < length) {errno : Int} {xs : List Sent}
    {s : Send} (ran : run (Send.step length) (.start length errno) xs = some s) :
    s.After length xs :=
  history_of_run (Send.After length) (fun _ _ _ _ stepped after => after.step stepped) ran
    ⟨Nat.zero_add length, fun _ => ⟨rfl, rfl, pos⟩, by simp [Send.start, pos]⟩

/-! ## The callers -/

/-- Who receives records: the terminals of the drivers, `listener_worker`, `recv_data_cb` of
`client2` and `transaction_test`. -/
inductive RecordReceiver where
  | driver
  | listener
  | client2
  | transactionTest
  deriving DecidableEq

/-- Who sends records. -/
inductive RecordSender where
  | driver
  | dbWorker
  | client2
  | transactionTest
  deriving DecidableEq

/-- Whether a caller goes on as after success when `_receive` has returned `length`. The terminals
do not look, and `client2` calls `_receive` itself. -/
def RecordReceiver.goesOn (size : Nat) (length : Int) : RecordReceiver → Bool
  | .driver => true
  | .listener =>
    let rc := receiveTransactionData size length
    if rc = ERROR_SOCKET_CLOSED then false else if rc = ERROR then false else true
  | .client2 => if length = ERR_SOCKET_CLOSED then false else if length = -1 then false else true
  | .transactionTest => if receiveTransactionData size length ≠ OK then false else true

/-- The same of a sender, when `_send` has returned `length`. -/
def RecordSender.goesOn (size : Nat) (length errno : Int) : RecordSender → Bool
  | .driver => true
  | .dbWorker => if sendTransactionData size length errno = ERROR then false else true
  | .client2 => if length = -1 then false else true
  | .transactionTest => if sendTransactionData size length errno ≠ OK then false else true

/-- What calls of `recv` a caller's test is right after. -/
def RecordReceiver.right (xs : List Recv) : RecordReceiver → Bool
  | .driver => xs.all Recv.delivers
  | .listener | .client2 => true
  | .transactionTest => !xs.all Recv.delivers

def RecordSender.right (xs : List Sent) : RecordSender → Bool
  | .driver => xs.all Sent.leaves
  | .dbWorker => !xs.any Sent.broken
  | .client2 => true
  | .transactionTest => !xs.all Sent.leaves

/-- The result of a call that has transferred the record is none of the constants. -/
theorem receive_goesOn_whole {size : Nat} (large : 3 < size) (c : RecordReceiver) :
    c.goesOn size size = true ↔ c ≠ .transactionTest := by
  have ne (n : Int) (small : n ≤ 3) : (size : Int) ≠ n := by omega
  have closed := ne ERROR_SOCKET_CLOSED (by decide)
  have error := ne ERROR (by decide)
  have ok := ne OK (by decide)
  have shut := ne ERR_SOCKET_CLOSED (by decide)
  have failed := ne (-1) (by decide)
  cases c <;> simp [RecordReceiver.goesOn, receiveTransactionData_whole, *]

theorem send_goesOn_whole {size : Nat} (large : 3 < size) (errno : Int) (c : RecordSender) :
    c.goesOn size size errno = true ↔ c ≠ .transactionTest := by
  have ne (n : Int) (small : n ≤ 3) : (size : Int) ≠ n := by omega
  have error := ne ERROR (by decide)
  have ok := ne OK (by decide)
  have failed := ne (-1) (by decide)
  cases c <;> simp [RecordSender.goesOn, sendTransactionData, *]

theorem receive_goesOn_failed (size : Nat) {n : Int} (code : n = -1 ∨ n = ERR_SOCKET_CLOSED)
    (c : RecordReceiver) : c.goesOn size n = true ↔ c = .driver := by
  obtain rfl | rfl := code
  · cases c <;> simp [RecordReceiver.goesOn, receiveTransactionData, ERROR, OK,
      ERROR_SOCKET_CLOSED, ERR_SOCKET_CLOSED]
  · cases c <;> simp [RecordReceiver.goesOn, receiveTransactionData, OK,
      ERROR_SOCKET_CLOSED, ERR_SOCKET_CLOSED]

theorem send_goesOn_failed (size : Nat) (errno : Int) (c : RecordSender) :
    c.goesOn size (-1) errno = true ↔
      c = .driver ∨ c = .dbWorker ∧ Sent.broken (.failed errno) = true := by
  by_cases broken : errno = EPIPE ∨ errno = ECONNRESET
  · cases c <;> simp [RecordSender.goesOn, sendTransactionData, Sent.broken, broken, ERROR, OK,
      ERROR_SOCKET_CLOSED]
  · cases c <;> simp [RecordSender.goesOn, sendTransactionData, Sent.broken, broken, ERROR, OK]

/-- A caller goes on as after success just when the record went over whole, for the calls of `recv`
and `send` that its test is right after, and for no others. -/
theorem convention_iff (data : Nat) :
    (∀ (c : RecordReceiver) (memory : Record (recordSize data)) (xs : List Recv) (r : Receive)
      (length : Int),
      run (Receive.step (recordSize data)) (.start (recordSize data) memory) xs = some r →
      r.returned = some length →
      ((c.goesOn (recordSize data) length = true ↔ r.memory = received xs) ↔
        c.right xs = true)) ∧
    ∀ (c : RecordSender) (errno : Int) (xs : List Sent) (s : Send) (length : Int),
      run (Send.step (recordSize data)) (.start (recordSize data) errno) xs = some s →
      s.returned = some length →
      ((c.goesOn (recordSize data) length s.errno = true ↔ sentBytes xs = recordSize data) ↔
        c.right xs = true) := by
  have large : 3 < recordSize data := by simp only [recordSize]; omega
  constructor
  · intro c memory xs r length ran returned
    have after := Receive.after_of_run (by omega) memory.2 ran
    obtain ⟨all, rfl, whole⟩ | ⟨failed, code, short⟩ := after.returned length returned
    · have stored : r.memory = received xs := after.got.all whole
      rw [receive_goesOn_whole large]
      cases c <;> simp [RecordReceiver.right, stored, all]
    · have partly : r.memory ≠ received xs := by
        intro same
        have := after.got.memory
        rw [same] at this
        omega
      rw [receive_goesOn_failed _ code]
      cases c <;> simp [RecordReceiver.right, partly, failed]
  · intro c errno xs s length ran returned
    have after := Send.after_of_run (by omega) ran
    obtain ⟨all, unbroken, rfl, whole⟩ | ⟨failed, broken, rfl, short⟩ :=
      after.returned length returned
    · rw [send_goesOn_whole large]
      cases c <;> simp [RecordSender.right, whole, all, unbroken]
    · rw [send_goesOn_failed]
      cases c <;> simp [RecordSender.right, short.ne, failed, broken]

/-- Of a record of eight bytes, `db_worker` sends three and finds the connection reset, and the
listener receives all. -/
theorem convention_iff_reset :
    let xs : List Recv := [.bytes [1, 0, 0], .bytes [0, 2, 0, 0, 0]]
    let memory : Record (recordSize 0) := ⟨[9, 9, 9, 9, 9, 9, 9, 9], rfl⟩
    let r : Receive := {
      memory := [1, 0, 0, 0, 2, 0, 0, 0], data := 8, total := 8, remaining := 0
      returned := some 8 }
    let ys : List Sent := [.bytes 3, .failed ECONNRESET]
    let s : Send := { data := 3, remaining := 5, returned := some (-1), errno := ECONNRESET }
    run (Receive.step (recordSize 0)) (.start (recordSize 0) memory) xs = some r ∧
      run (Send.step (recordSize 0)) (.start (recordSize 0) 0) ys = some s ∧
      ((RecordReceiver.listener.goesOn (recordSize 0) 8 = true ↔ r.memory = received xs) ↔
        RecordReceiver.listener.right xs = true) ∧
      ((RecordSender.dbWorker.goesOn (recordSize 0) (-1) s.errno = true ↔
        sentBytes ys = recordSize 0) ↔ RecordSender.dbWorker.right ys = true) := by
  intro xs memory r ys s
  have receives : run (Receive.step (recordSize 0)) (.start (recordSize 0) memory) xs = some r := by
    decide
  have sends : run (Send.step (recordSize 0)) (.start (recordSize 0) 0) ys = some s := by decide
  exact ⟨receives, sends, (convention_iff 0).1 .listener memory xs r 8 receives rfl,
    (convention_iff 0).2 .dbWorker 0 ys s (-1) sends rfl⟩

/-- Whatever the size of a record: when all of it has arrived, `transaction_test` reports an
error. -/
theorem convention_broken : ¬ ∃ data,
    (∀ (c : RecordReceiver) (memory : Record (recordSize data)) (xs : List Recv) (r : Receive)
      (length : Int),
      run (Receive.step (recordSize data)) (.start (recordSize data) memory) xs = some r →
      r.returned = some length →
      (c.goesOn (recordSize data) length = true ↔ r.memory = received xs)) ∧
    ∀ (c : RecordSender) (errno : Int) (xs : List Sent) (s : Send) (length : Int),
      run (Send.step (recordSize data)) (.start (recordSize data) errno) xs = some s →
      s.returned = some length →
      (c.goesOn (recordSize data) length s.errno = true ↔ sentBytes xs = recordSize data) := by
  rintro ⟨data, receives, -⟩
  have large : 3 < recordSize data := by simp only [recordSize]; omega
  have long : (List.replicate (recordSize data) (1 : UInt8)).length = recordSize data :=
    List.length_replicate
  have some' : List.replicate (recordSize data) (1 : UInt8) ≠ [] := by
    rw [← List.length_pos_iff]
    omega
  have right := receives .transactionTest ⟨_, long⟩ [.bytes (List.replicate (recordSize data) 1)]
    { memory := List.replicate (recordSize data) 1, data := recordSize data
      total := recordSize data, remaining := 0, returned := some (recordSize data) }
    (recordSize data) (by simp [run, Receive.step, Receive.start, Receive.store, some']) rfl
  have wrong := (receive_goesOn_whole large .transactionTest).mp
    (right.mpr (by simp [received, Recv.taken]))
  exact wrong rfl

end Dbt2
