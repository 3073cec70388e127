import Dbt2.MixLog

/-!
# Records over a socket

A `client_transaction_t` goes over a stream socket in as many pieces as the calls of `send` and
`recv` make of it.

* `Receive`, `Send`: the loops of `_receive` and `_send`, one step for each call of the system;
* `receiveTransactionData`, `sendTransactionData`: what is made of their results;
* `Link`: a sender, the socket and a receiver, each at its own pace;
* `records_arrive`: the receiver gets the records that were sent, and then the closed socket.
-/

namespace Dbt2

open Transition

def ERROR_SOCKET_CLOSED : Int := 3
def ERR_SOCKET_CLOSED : Int := -5
def EPIPE : Int := 32
def ECONNRESET : Int := 104

/-- Two `int`s and a union of `data` bytes. -/
def recordSize (data : Nat) : Nat := 4 + 4 + data

abbrev Record (size : Nat) : Type := { r : Bytes // r.length = size }

/-! ## Receiving -/

/-- What a call of `recv` stores, or why it stores nothing. -/
inductive Recv where
  | bytes (b : Bytes)
  | closed
  | failed
  deriving DecidableEq

/-- The variables of `_receive`; `data` is the offset that the pointer has got to. -/
structure Receive where
  memory : Bytes
  data : Nat
  total : Nat
  remaining : Nat
  returned : Option Int
  deriving DecidableEq

namespace Receive

def start (length : Nat) (memory : Bytes) : Receive where
  memory
  data := 0
  total := 0
  remaining := length
  returned := none

def store (memory : Bytes) (data : Nat) (b : Bytes) : Bytes :=
  memory.take data ++ b ++ memory.drop (data + b.length)

/-- `recv` is asked for the `remaining` bytes. -/
def step (length : Nat) (r : Receive) (x : Recv) : Option Receive :=
  if r.returned.isSome then none else
    match x with
    | .failed => some { r with returned := some (-1) }
    | .closed => some { r with returned := some ERR_SOCKET_CLOSED }
    | .bytes b =>
      if b ≠ [] ∧ b.length ≤ r.remaining then
        let total := r.total + b.length
        some { memory := store r.memory r.data b
               total
               data := r.data + b.length
               remaining := r.remaining - b.length
               returned := if total ≠ length then none else some total }
      else none

end Receive

def receiveTransactionData (size : Nat) (length : Int) : Int :=
  if length = -1 then ERROR
  else if length = ERR_SOCKET_CLOSED then ERROR_SOCKET_CLOSED
  else if length ≠ size then ERROR
  else length

theorem receiveTransactionData_whole (size : Nat) : receiveTransactionData size size = size := by
  have large : (size : Int) ≠ -1 ∧ (size : Int) ≠ ERR_SOCKET_CLOSED := by
    unfold ERR_SOCKET_CLOSED
    omega
  simp [receiveTransactionData, large]

/-! ## Sending -/

/-- How much a call of `send` takes, or the `errno` it leaves. -/
inductive Sent where
  | bytes (n : Nat)
  | failed (errno : Int)
  deriving DecidableEq

/-- The variables of `_send`. The loop runs while bytes remain. -/
structure Send where
  data : Nat
  remaining : Nat
  returned : Option Int
  errno : Int
  deriving DecidableEq

namespace Send

def start (length : Nat) (errno : Int) : Send where
  data := 0
  remaining := length
  returned := if 0 < length then none else some length
  errno

def step (length : Nat) (s : Send) (x : Sent) : Option Send :=
  if s.returned.isSome then none else
    match x with
    | .failed errno => some { s with returned := some (-1), errno }
    | .bytes n =>
      if 0 < n ∧ n ≤ s.remaining then
        let remaining := s.remaining - n
        some { s with
          data := s.data + n
          remaining
          returned := if 0 < remaining then none else some length }
      else none

end Send

def sendTransactionData (size : Nat) (length errno : Int) : Int :=
  if length = -1 then
    if errno = EPIPE ∨ errno = ECONNRESET then ERROR_SOCKET_CLOSED else ERROR
  else if length ≠ size then ERROR
  else length

/-! ## What the loops keep -/

/-- A call of `_receive` that has got these bytes. -/
structure Receive.Got (length : Nat) (r : Receive) (got : Bytes) : Prop where
  memory : r.memory.length = length
  data : r.data = got.length
  total : r.total = got.length
  remaining : got.length + r.remaining = length
  stored : r.memory.take got.length = got

section

variable {length : Nat} {r r' : Receive} {got : Bytes}

theorem Receive.got_start {memory : Bytes} (long : memory.length = length) :
    (Receive.start length memory).Got length [] :=
  ⟨long, rfl, rfl, Nat.zero_add length, rfl⟩

theorem Receive.Got.all (h : r.Got length got) (whole : got.length = length) : r.memory = got := by
  rw [← h.stored, whole, ← h.memory, List.take_length]

/-- The bytes of a call of `recv`; the loop ends with the last of them. -/
theorem Receive.Got.bytes {b : Bytes} (h : r.Got length got)
    (stepped : r.step length (.bytes b) = some r') :
    b ≠ [] ∧ r.returned = none ∧ r'.Got length (got ++ b) ∧
      r'.returned = if (got ++ b).length = length then some (length : Int) else none := by
  obtain ⟨memory, data, total, remaining, stored⟩ := h
  simp only [Receive.step] at stepped
  split at stepped
  · cases stepped
  · next running =>
    split at stepped
    · next valid =>
      cases stepped
      have size : (got ++ b).length = got.length + b.length := List.length_append
      refine ⟨valid.1, by simpa using running, ⟨?_, ?_, ?_, ?_, ?_⟩, ?_⟩
      · simp only [store, List.length_append, List.length_take, List.length_drop]
        omega
      · simp only [data, size]
      · simp only [total, size]
      · simp only [size]
        omega
      · simp only [store, data, stored]
        rw [List.take_left' rfl]
      · simp only [total, size, ne_eq, ite_not]
        split
        · next all => rw [all]
        · rfl
    · cases stepped

end

/-- A call of `_send` that has not returned. -/
structure Send.Going (length : Nat) (s : Send) : Prop where
  sum : s.data + s.remaining = length
  unfinished : s.data < length
  running : s.returned = none

theorem Send.going_start {length : Nat} (pos : 0 < length) (errno : Int) :
    (Send.start length errno).Going length :=
  ⟨Nat.zero_add length, pos, if_pos pos⟩

theorem Send.step_bytes {length n : Nat} {s s' : Send} (stepped : s.step length (.bytes n) = some s') :
    s.returned = none ∧ 0 < n ∧ n ≤ s.remaining ∧ s' = { s with
      data := s.data + n
      remaining := s.remaining - n
      returned := if s.remaining - n = 0 then some (length : Int) else none } := by
  simp only [Send.step] at stepped
  split at stepped
  · cases stepped
  · next running =>
    split at stepped
    · next valid =>
      cases stepped
      refine ⟨by simpa using running, valid.1, valid.2, ?_⟩
      simp only [Nat.pos_iff_ne_zero, ne_eq, ite_not]
    · cases stepped

/-! ## Frames -/

section

variable {size : Nat} {xs ys : List Bytes} {rest : Bytes}

/-- A stream of whole records can be cut in one way only. -/
theorem frames_of_append (pos : 0 < size) (whole : ∀ r ∈ xs, r.length = size)
    (frames : ∀ r ∈ ys, r.length = size) (same : xs.flatten ++ rest = ys.flatten) :
    xs.length ≤ ys.length ∧ xs = ys.take xs.length ∧ rest = (ys.drop xs.length).flatten := by
  induction xs generalizing ys with
  | nil => exact ⟨Nat.zero_le _, rfl, same⟩
  | cons x xs ih =>
    have long : x.length = size := whole x List.mem_cons_self
    cases ys with
    | nil =>
      have none := congrArg List.length same
      simp only [List.flatten_cons, List.length_append, List.flatten_nil, List.length_nil] at none
      omega
    | cons y ys =>
      rw [List.flatten_cons, List.flatten_cons, List.append_assoc] at same
      obtain ⟨rfl, later⟩ :=
        List.append_inj same (long.trans (frames y List.mem_cons_self).symm)
      obtain ⟨le, taken, left⟩ := ih (fun r mem => whole r (List.mem_cons_of_mem x mem))
        (fun r mem => frames r (List.mem_cons_of_mem x mem)) later
      exact ⟨Nat.succ_le_succ le, congrArg (x :: ·) taken, left⟩

/-- Less than a record is left of a stream of whole records only at its end. -/
theorem nil_of_frames (frames : ∀ r ∈ ys, r.length = size) (short : ys.flatten.length < size) :
    ys.flatten = [] := by
  cases ys with
  | nil => rfl
  | cons y ys =>
    have long : y.length = size := frames y List.mem_cons_self
    rw [List.flatten_cons, List.length_append] at short
    omega

end

/-! ## Both sides -/

/-- A sender that sends records and then closes the socket, and a receiver that reads records for
as long as it is asked to. -/
structure Link where
  /-- The record that is being sent, and those after it. -/
  records : List Bytes
  send : Send
  /-- What has been sent and not been received. -/
  socket : Bytes
  closed : Bool
  receive : Option Receive
  results : List (Int × Bytes)
  deriving DecidableEq

inductive LinkEvent where
  | sent (n : Nat)
  | close
  /-- A call of `receive_transaction_data`, with what is in the record before. -/
  | call (memory : Bytes)
  | received (n : Nat)
  | ended
  deriving DecidableEq

namespace Link

variable (size : Nat)

def start (rs : List Bytes) : Link where
  records := rs
  send := .start size 0
  socket := []
  closed := false
  receive := none
  results := []

def after (t : Link) (r : Receive) : Link :=
  match r.returned with
  | none => { t with receive := some r }
  | some length => { t with
      receive := none
      results := t.results ++ [(receiveTransactionData size length, r.memory)] }

def step (t : Link) : LinkEvent → Option Link
  | .sent n =>
    match t.records with
    | [] => none
    | r :: rest => (t.send.step size (.bytes n)).map fun send =>
      let socket := t.socket ++ (r.drop t.send.data).take n
      if send.returned.isSome then
        { t with socket, records := rest, send := .start size send.errno }
      else { t with socket, send }
  | .close => if t.records = [] ∧ t.closed = false then some { t with closed := true } else none
  | .call memory =>
    if t.receive = none ∧ memory.length = size then
      some { t with receive := some (.start size memory) }
    else none
  | .received n => do
    let r ← t.receive
    if n ≤ t.socket.length then
      (r.step size (.bytes (t.socket.take n))).map
        ({ t with socket := t.socket.drop n }.after size)
    else none
  | .ended => do
    let r ← t.receive
    if t.socket = [] ∧ t.closed then (r.step size .closed).map (t.after size) else none

/-- The bytes that have not left the sender. -/
def unsent (t : Link) : Bytes :=
  match t.records with
  | [] => []
  | r :: rest => r.drop t.send.data ++ rest.flatten

/-- The stream has ended: nothing is left to receive, and nothing will come. -/
def Over (t : Link) : Prop := t.closed = true ∧ t.socket = []

/-- The first `k` records have been received, each by one call, and the calls in `ends` have found
the socket closed. -/
structure Arrived (rs : List Bytes) (t : Link) (k : Nat) (ends : List (Int × Bytes)) : Prop where
  results : t.results = (rs.take k).map (fun r => ((size : Int), r)) ++ ends
  bound : k ≤ rs.length
  between : t.receive = none → t.socket ++ t.unsent = (rs.drop k).flatten
  closed : ∀ p ∈ ends, p.1 = ERROR_SOCKET_CLOSED
  ended : ends ≠ [] → t.Over
  complete : t.Over → k = rs.length

/-- With `got` the records received so far, and `part` the bytes of the next. -/
structure Inv (rs : List Bytes) (t : Link) (got : List Bytes) (part : Bytes)
    (ends : List (Int × Bytes)) : Prop where
  frames : ∀ r ∈ rs, r.length = size
  results : t.results = got.map (fun r => ((size : Int), r)) ++ ends
  whole : ∀ r ∈ got, r.length = size
  conserved : got.flatten ++ (part ++ (t.socket ++ t.unsent)) = rs.flatten
  records : ∀ r ∈ t.records, r.length = size
  sending : t.send.Going size
  closed : t.closed = true → t.records = []
  idle : t.receive = none → part = []
  receiving : ∀ r, t.receive = some r → r.returned = none ∧ r.Got size part ∧ part.length < size
  found : ∀ p ∈ ends, p.1 = ERROR_SOCKET_CLOSED
  ended : ends ≠ [] → t.Over

/-- How many more steps can be taken before the socket is found closed, of `n` records. -/
def cost (n : Nat) (t : Link) : Nat :=
  2 * t.unsent.length + t.socket.length + (if t.closed then 0 else 1) +
    2 * (n - t.results.length) + if t.receive = none then 1 else 0

section

variable {size : Nat} {rs got : List Bytes} {t t' : Link} {part : Bytes}
  {ends : List (Int × Bytes)}

theorem Inv.start (pos : 0 < size) (whole : ∀ r ∈ rs, r.length = size) :
    Inv size rs (start size rs) [] [] [] where
  frames := whole
  results := rfl
  whole := by simp
  conserved := by cases rs <;> rfl
  records := whole
  sending := Send.going_start pos 0
  closed := by simp [Link.start]
  idle _ := rfl
  receiving := by simp [Link.start]
  found := by simp
  ended := by simp

/-- Bytes leave the sender, and only that. -/
theorem sent_cases {n : Nat} (stepped : t.step size (.sent n) = some t')
    (records : ∀ r ∈ t.records, r.length = size)
    (sending : t.send.Going size) :
    ∃ chunk : Bytes, chunk ≠ [] ∧ t.records ≠ [] ∧ t'.socket = t.socket ++ chunk ∧
      t.unsent = chunk ++ t'.unsent ∧ (∀ r ∈ t'.records, r.length = size) ∧
      t'.send.Going size ∧
      t'.closed = t.closed ∧ t'.receive = t.receive ∧ t'.results = t.results := by
  simp only [step] at stepped
  split at stepped
  · cases stepped
  · next r rest left =>
    obtain ⟨send, taken, rfl⟩ := Option.map_eq_some_iff.mp stepped
    obtain ⟨-, pos, le, rfl⟩ := Send.step_bytes taken
    obtain ⟨sum, unfinished, -⟩ := sending
    have long : r.length = size := records r (by simp [left])
    have later : ∀ r ∈ rest, r.length = size :=
      fun r mem => records r (left ▸ List.mem_cons_of_mem _ mem)
    have moved : (r.drop t.send.data).take n ++ r.drop (t.send.data + n) = r.drop t.send.data := by
      rw [← List.drop_drop, List.take_append_drop]
    have some' : (r.drop t.send.data).take n ≠ [] := by
      rw [← List.length_pos_iff, List.length_take, List.length_drop]
      omega
    have before : t.unsent = (r.drop t.send.data).take n ++
        (r.drop (t.send.data + n) ++ rest.flatten) := by
      rw [← List.append_assoc, moved]
      simp [unsent, left]
    refine ⟨(r.drop t.send.data).take n, some', by simp [left], ?_⟩
    by_cases last : t.send.remaining - n = 0
    · have all : r.drop (t.send.data + n) = [] := List.drop_eq_nil_of_le (by omega)
      rw [all, List.nil_append] at before
      simp only [last, if_true, Option.isSome_some]
      refine ⟨trivial, ?_, later, Send.going_start (by omega) _, trivial, trivial, trivial⟩
      rw [before]
      cases rest <;> rfl
    · simp only [last, if_false, Option.isSome_none, Bool.false_eq_true]
      have going : Send.Going size { t.send with
          data := t.send.data + n, remaining := t.send.remaining - n, returned := none } :=
        ⟨show t.send.data + n + (t.send.remaining - n) = size by omega,
          show t.send.data + n < size by omega, rfl⟩
      refine ⟨trivial, ?_, records, going, trivial, trivial, trivial⟩
      rw [before]
      simp only [Link.unsent, left]

theorem Inv.sent (h : Inv size rs t got part ends) {n : Nat}
    (stepped : t.step size (.sent n) = some t') :
    Inv size rs t' got part ends ∧ t'.cost rs.length < t.cost rs.length := by
  obtain ⟨chunk, nonempty, left, socket, unsent, records, sending, closed, receive, results⟩ :=
    sent_cases stepped h.records h.sending
  have shut : t.closed ≠ true := fun shut => left (h.closed shut)
  constructor
  · exact {
      frames := h.frames
      results := results.trans h.results
      whole := h.whole
      conserved := by
        rw [← h.conserved, socket, unsent]
        simp only [List.append_assoc]
      records
      sending
      closed := fun closes => absurd (closed ▸ closes) shut
      idle := fun none => h.idle (receive ▸ none)
      receiving := fun r some' => h.receiving r (receive ▸ some')
      found := h.found
      ended := fun some' => absurd (h.ended some').1 shut }
  · have pos := List.length_pos_iff.mpr nonempty
    simp only [cost, socket, unsent, closed, receive, results, List.length_append]
    omega

theorem Inv.close (h : Inv size rs t got part ends) (stepped : t.step size .close = some t') :
    Inv size rs t' got part ends ∧ t'.cost rs.length < t.cost rs.length := by
  simp only [step] at stepped
  split at stepped
  · next allowed =>
    cases stepped
    have shut : t.closed ≠ true := by simp [allowed.2]
    constructor
    · exact { h with
        closed := fun _ => allowed.1
        ended := fun some' => absurd (h.ended some').1 shut }
    · have same : unsent { t with closed := true } = t.unsent := rfl
      simp only [cost, same, allowed.2, if_true, Bool.false_eq_true, if_false]
      omega
  · cases stepped

theorem Inv.call (h : Inv size rs t got part ends) (pos : 0 < size) {memory : Bytes}
    (stepped : t.step size (.call memory) = some t') :
    Inv size rs t' got part ends ∧ t'.cost rs.length < t.cost rs.length := by
  simp only [step] at stepped
  split at stepped
  · next allowed =>
    cases stepped
    obtain rfl := h.idle allowed.1
    constructor
    · refine { h with idle := fun none => ?_, receiving := fun r some' => ?_ }
      · cases none
      · cases some'
        exact ⟨rfl, Receive.got_start allowed.2, pos⟩
    · have same : unsent { t with receive := some (.start size memory) } = t.unsent := rfl
      simp only [cost, same, allowed.1, if_true, reduceCtorEq, if_false]
      omega
  · cases stepped

/-- Bytes arrive at the receiver. With the last ones of a record, the call returns it. -/
theorem Inv.received (h : Inv size rs t got part ends) {n : Nat}
    (stepped : t.step size (.received n) = some t') :
    (∃ got' part', Inv size rs t' got' part' ends) ∧ t'.cost rs.length < t.cost rs.length := by
  obtain ⟨r, receiving, stepped⟩ := Option.bind_eq_some_iff.mp stepped
  split at stepped
  · next le =>
    obtain ⟨r', taken, rfl⟩ := Option.map_eq_some_iff.mp stepped
    obtain ⟨-, has, unfinished⟩ := h.receiving r receiving
    obtain ⟨nonempty, -, has', returned⟩ := has.bytes taken
    have still : ends = [] := by
      by_contra some'
      simp [(h.ended some').2] at nonempty
    subst still
    have results : t.results = got.map fun r => ((size : Int), r) := by simpa using h.results
    have conserved : got.flatten ++ ((part ++ t.socket.take n) ++ (t.socket.drop n ++ t.unsent)) =
        rs.flatten := by
      rw [← h.conserved]
      simp only [List.append_assoc, ← List.append_assoc (t.socket.take n), List.take_append_drop]
    have fewer : (t.socket.drop n).length < t.socket.length := by
      have := List.length_pos_iff.mpr nonempty
      simp only [List.length_take, List.length_drop] at this ⊢
      omega
    by_cases last : (part ++ t.socket.take n).length = size
    · rw [if_pos last] at returned
      have whole : ∀ r ∈ got ++ [part ++ t.socket.take n], r.length = size := by
        intro r mem
        obtain mem | mem := List.mem_append.mp mem
        · exact h.whole r mem
        · rw [List.mem_singleton.mp mem, last]
      have more : got.length + 1 ≤ rs.length := by
        have lengths := congrArg List.length conserved
        rw [List.length_append, List.length_append, last, DriverTerminal.length_flatten h.whole,
          DriverTerminal.length_flatten h.frames] at lengths
        have : (got.length + 1) * size ≤ rs.length * size := by
          rw [Nat.add_mul]
          omega
        exact Nat.le_of_mul_le_mul_right this (by omega)
      simp only [after, returned, receiveTransactionData_whole, has'.all last]
      constructor
      · refine ⟨got ++ [part ++ t.socket.take n], [], ?_⟩
        exact { h with
          results := by simp [results]
          whole
          conserved := by
            rw [← conserved, List.flatten_append, List.flatten_singleton, List.append_assoc]
            rfl
          idle := fun _ => rfl
          receiving := fun r some' => by cases some'
          ended := fun some' => absurd rfl some' }
      · have same : unsent { t with
            socket := t.socket.drop n, receive := none
            results := t.results ++ [((size : Int), part ++ t.socket.take n)] } = t.unsent := rfl
        have count : t.results.length = got.length := by rw [results, List.length_map]
        simp only [cost, same, receiving, List.length_append, List.length_singleton, if_true,
          reduceCtorEq, if_false]
        omega
    · rw [if_neg last] at returned
      simp only [after, returned]
      constructor
      · refine ⟨got, part ++ t.socket.take n, ?_⟩
        exact { h with
          conserved
          idle := fun none => by cases none
          receiving := fun r some' => by
            cases some'
            have := has'.remaining
            exact ⟨returned, has', by omega⟩
          ended := fun some' => absurd rfl some' }
      · have same : unsent { t with socket := t.socket.drop n, receive := some r' } = t.unsent :=
          rfl
        simp only [cost, same, receiving, reduceCtorEq, if_false]
        omega
  · cases stepped

/-- Where the stream ends, no part of a record has been received. -/
theorem Inv.over (h : Inv size rs t got part ends) (pos : 0 < size) (o : t.Over) :
    part = [] ∧ got = rs := by
  obtain ⟨closes, empty⟩ := o
  have unsent : t.unsent = [] := by simp [Link.unsent, h.closed closes]
  have short : part.length < size := by
    cases receiving : t.receive with
    | none => simpa [h.idle receiving] using pos
    | some r => exact (h.receiving r receiving).2.2
  have conserved := h.conserved
  rw [empty, unsent, List.append_nil, List.append_nil] at conserved
  obtain ⟨le, taken, rfl⟩ := frames_of_append pos h.whole h.frames conserved
  have none := nil_of_frames (fun r mem => h.frames r (List.mem_of_mem_drop mem)) short
  rw [none, List.append_nil] at conserved
  have all : rs.flatten ++ [] = got.flatten := by rw [List.append_nil, conserved]
  obtain ⟨le', -, -⟩ := frames_of_append pos h.frames h.whole all
  exact ⟨none, taken.trans (List.take_of_length_le le')⟩

/-- The socket is found closed between two records. -/
theorem Inv.eof (h : Inv size rs t got part ends) (pos : 0 < size)
    (stepped : t.step size .ended = some t') :
    ∃ ends', ends' ≠ [] ∧ Inv size rs t' got [] ends' := by
  obtain ⟨r, receiving, stepped⟩ := Option.bind_eq_some_iff.mp stepped
  split at stepped
  · next allowed =>
    obtain ⟨r', found, rfl⟩ := Option.map_eq_some_iff.mp stepped
    obtain ⟨running, -, -⟩ := h.receiving r receiving
    obtain ⟨rfl, -⟩ := h.over pos ⟨allowed.2, allowed.1⟩
    simp only [Receive.step, running, Option.isSome_none, Bool.false_eq_true, if_false] at found
    cases found
    refine ⟨ends ++ [(ERROR_SOCKET_CLOSED, r.memory)], by simp, ?_⟩
    exact { h with
      results := by
        change t.results ++ [(ERROR_SOCKET_CLOSED, r.memory)] = _
        rw [h.results, List.append_assoc]
      idle := fun _ => rfl
      receiving := fun r some' => by cases some'
      found := by
        intro p mem
        obtain mem | mem := List.mem_append.mp mem
        · exact h.found p mem
        · rw [List.mem_singleton.mp mem]
      ended := fun _ => ⟨allowed.2, allowed.1⟩ }
  · cases stepped

/-- A step keeps the records in order, and brings the end of the stream nearer until it has been
reported. -/
theorem Inv.step (h : Inv size rs t got part ends) (pos : 0 < size) {e : LinkEvent}
    (stepped : t.step size e = some t') :
    ∃ got' part' ends', Inv size rs t' got' part' ends' ∧
      (ends' = [] → ends = [] ∧ t'.cost rs.length < t.cost rs.length) := by
  cases e with
  | sent n =>
    obtain ⟨inv, less⟩ := h.sent stepped
    exact ⟨got, part, ends, inv, fun none => ⟨none, less⟩⟩
  | close =>
    obtain ⟨inv, less⟩ := h.close stepped
    exact ⟨got, part, ends, inv, fun none => ⟨none, less⟩⟩
  | call memory =>
    obtain ⟨inv, less⟩ := h.call pos stepped
    exact ⟨got, part, ends, inv, fun none => ⟨none, less⟩⟩
  | received n =>
    obtain ⟨⟨got', part', inv⟩, less⟩ := h.received stepped
    exact ⟨got', part', ends, inv, fun none => ⟨none, less⟩⟩
  | ended =>
    obtain ⟨ends', some', inv⟩ := h.eof pos stepped
    exact ⟨got, [], ends', inv, fun none => absurd none some'⟩

/-- Someone can always go on. -/
theorem Inv.progress (h : Inv size rs t got part ends) :
    ∃ e, (t.step size e).isSome = true := by
  cases receiving : t.receive with
  | none => exact ⟨.call (List.replicate size 0), by simp [Link.step, receiving]⟩
  | some r =>
    obtain ⟨running, has, unfinished⟩ := h.receiving r receiving
    by_cases empty : t.socket = []
    · cases left : t.records with
      | cons r rest =>
        obtain ⟨sum, unfinished, running⟩ := h.sending
        have room : 1 ≤ t.send.remaining := by omega
        exact ⟨.sent 1, by simp [Link.step, left, Send.step, running, room]⟩
      | nil =>
        cases closes : t.closed with
        | false => exact ⟨.close, by simp [Link.step, left, closes]⟩
        | true => exact ⟨.ended, by simp [Link.step, receiving, empty, closes, Receive.step, running]⟩
    · have some' : 1 ≤ t.socket.length := List.length_pos_iff.mpr empty
      have room : 1 ≤ r.remaining := by
        have := has.remaining
        omega
      exact ⟨.received 1, by
        simp [Link.step, receiving, Receive.step, running, room, some', empty]⟩

theorem Inv.arrived (h : Inv size rs t got part ends) (pos : 0 < size) :
    Arrived size rs t got.length ends := by
  obtain ⟨le, taken, left⟩ := frames_of_append pos h.whole h.frames h.conserved
  exact {
    results := taken ▸ h.results
    bound := le
    between := fun none => by rwa [h.idle none] at left
    closed := h.found
    ended := h.ended
    complete := fun last => congrArg List.length (h.over pos last).2 }

theorem cost_start (whole : ∀ r ∈ rs, r.length = size) :
    (start size rs).cost rs.length = 2 * rs.length * (size + 1) + 2 := by
  have bytes := DriverTerminal.length_flatten whole
  have unsent : (start size rs).unsent = rs.flatten := by cases rs <;> rfl
  simp only [cost, unsent, bytes]
  simp only [start, List.length_nil, Bool.false_eq_true, if_false, if_true, Nat.sub_zero]
  ring

/-- The invariant along a run, with the number of its steps until the end has been reported. -/
theorem inv_of_run (pos : 0 < size) (whole : ∀ r ∈ rs, r.length = size) {es : List LinkEvent}
    (ran : run (step size) (start size rs) es = some t) :
    ∃ got part ends, Inv size rs t got part ends ∧
      (ends = [] → es.length + t.cost rs.length ≤ 2 * rs.length * (size + 1) + 2) := by
  refine history_of_run (fun t es => ∃ got part ends, Inv size rs t got part ends ∧
    (ends = [] → es.length + t.cost rs.length ≤ 2 * rs.length * (size + 1) + 2)) ?_ ran ?_
  · rintro s before e t stepped ⟨got, part, ends, inv, soon⟩
    obtain ⟨got', part', ends', inv', less⟩ := inv.step pos stepped
    refine ⟨got', part', ends', inv', fun none => ?_⟩
    obtain ⟨still, less⟩ := less none
    have := soon still
    rw [List.length_append, List.length_singleton]
    omega
  · refine ⟨[], [], [], Inv.start pos whole, fun _ => ?_⟩
    rw [cost_start whole, List.length_nil, Nat.zero_add]

end

end Link

/-- However the bytes of the records are cut up on their way, the receiver gets the records one by
one, in order, and finds the socket closed after the last. One of the two can always go on, and
after so many steps the end has been found. -/
theorem records_arrive (data : Nat) (rs : List (Record (recordSize data))) {es : List LinkEvent}
    {t : Link}
    (ran : run (Link.step (recordSize data)) (Link.start (recordSize data) (rs.map Subtype.val))
      es = some t) :
    (∃ k ends, Link.Arrived (recordSize data) (rs.map Subtype.val) t k ends ∧
      (2 * rs.length * (recordSize data + 1) + 2 < es.length → ends ≠ [])) ∧
    ∃ e, (t.step (recordSize data) e).isSome = true := by
  have pos : 0 < recordSize data := by simp [recordSize]
  have whole : ∀ r ∈ rs.map Subtype.val, r.length = recordSize data := by
    intro r mem
    obtain ⟨r', -, rfl⟩ := List.mem_map.mp mem
    exact r'.2
  obtain ⟨got, part, ends, inv, soon⟩ := Link.inv_of_run pos whole ran
  rw [List.length_map] at soon
  refine ⟨⟨got.length, ends, inv.arrived pos, fun many none => ?_⟩, inv.progress⟩
  have := soon none
  omega

/-- A record that is cut within its fields. -/
theorem records_arrive_cut :
    let r : Record (recordSize 0) := ⟨[1, 0, 0, 0, 2, 0, 0, 0], rfl⟩
    let memory : Bytes := [9, 9, 9, 9, 9, 9, 9, 9]
    let t : Link := {
      records := [], send := .start 8 0, socket := [], closed := true, receive := none
      results := [(8, r), (3, memory)] }
    run (Link.step (recordSize 0)) (Link.start (recordSize 0) ([r].map Subtype.val))
        [.sent 3, .call memory, .received 2, .sent 5, .close, .received 6, .call memory, .ended] =
        some t ∧
      (∃ k ends, Link.Arrived (recordSize 0) ([r].map Subtype.val) t k ends ∧
        (2 * [r].length * (recordSize 0 + 1) + 2 < 8 → ends ≠ [])) ∧
      ∃ e, (t.step (recordSize 0) e).isSome = true := by
  intro r memory t
  have ran : run (Link.step (recordSize 0)) (Link.start (recordSize 0) ([r].map Subtype.val))
      [.sent 3, .call memory, .received 2, .sent 5, .close, .received 6, .call memory, .ended] =
      some t := by decide
  exact ⟨ran, records_arrive 0 [r] ran⟩

end Dbt2
