import Dbt2.Common
import Dbt2.Lib.Transition

/-!
# The mix log

What the drivers write down about a transaction: its type and a code for its outcome, both read
from the record that came back. `driver.c` and `driver2.c` keep one record per terminal for
requests and responses, and do not look at what sending and receiving return.

* `Driver1.outcome` and its siblings: the code for a status;
* `DriverTerminal`: a terminal of `driver.c` or `driver2.c`, byte by byte;
* `Fleet`: the terminals of a driver, which share the log.
-/

namespace Dbt2

open Transition

/-! ## Outcome codes -/

/-- The variable that holds the code is declared outside the loop, and keeps its value for a
status that is none of the three. -/
def Driver1.outcome (code : Char) (status : Int) : Char :=
  if status = OK then 'C' else if status = STATUS_ROLLBACK then 'R'
  else if status = ERROR then 'E' else code

def Driver2.outcome (_code : Char) (status : Int) : Char :=
  if status = OK then 'C' else if status = STATUS_ROLLBACK then 'R'
  else if status = ERROR then 'E' else 'X'

def Driver3.outcome (code : Char) (status : Int) : Char := Driver2.outcome code status

/-- The codes a terminal logs for a sequence of statuses, starting with `code`. -/
def codes (outcome : Char → Int → Char) : Char → List Int → List Char
  | _, [] => []
  | code, s :: ss => outcome code s :: codes outcome (outcome code s) ss

/-- The statuses that have a code of their own. -/
def mapped (status : Int) : Bool := status = OK ∨ status = STATUS_ROLLBACK ∨ status = ERROR

/-- All drivers log these codes for the statuses. -/
def CodesAgree (f : Int → Char) (ss : List Int) : Prop :=
  codes Driver1.outcome ' ' ss = ss.map f ∧ (∀ code, codes Driver2.outcome code ss = ss.map f) ∧
    ∀ code, codes Driver3.outcome code ss = ss.map f

theorem codes_eq_map (f : Int → Char) (ss : List Int) (code : Char) :
    codes (fun _ => f) code ss = ss.map f := by
  induction ss generalizing code with
  | nil => rfl
  | cons s ss ih => rw [codes, List.map_cons, ih]

/-- Only the first driver can log an unmapped status as anything but an `X`. -/
theorem Driver1.outcome_ne (code : Char) (status : Int) (other : code ≠ 'X') :
    Driver1.outcome code status ≠ 'X' := by
  unfold Driver1.outcome
  split
  · decide
  · split
    · decide
    · split
      · decide
      · exact other

theorem Driver1.outcome_mapped (code : Char) {status : Int} (known : mapped status = true) :
    Driver1.outcome code status = Driver2.outcome code status := by
  simp only [mapped, decide_eq_true_eq] at known
  unfold Driver1.outcome Driver2.outcome
  split
  · rfl
  · split
    · rfl
    · split
      · rfl
      · omega

theorem Driver2.outcome_eq_X_iff (code : Char) (status : Int) :
    Driver2.outcome code status = 'X' ↔ mapped status = false := by
  rw [← Bool.not_eq_true]
  simp only [mapped, decide_eq_true_eq]
  unfold Driver2.outcome
  split
  · simp [*]
  · split
    · simp [*]
    · split
      · simp [*]
      · simp [*]

theorem Driver1.codes_eq_iff (ss : List Int) {code : Char} (other : code ≠ 'X') :
    codes Driver1.outcome code ss = ss.map (Driver2.outcome ' ') ↔
      ∀ s ∈ ss, mapped s = true := by
  induction ss generalizing code with
  | nil => simp [codes]
  | cons s ss ih =>
    rw [codes, List.map_cons, List.cons.injEq, ih (Driver1.outcome_ne code s other),
      List.forall_mem_cons]
    apply and_congr_left
    intro _
    constructor
    · intro same
      by_contra unmapped
      exact Driver1.outcome_ne code s other
        (same.trans ((Driver2.outcome_eq_X_iff ' ' s).mpr (Bool.eq_false_iff.mpr unmapped)))
    · exact Driver1.outcome_mapped code

/-- The drivers agree on codes that each depend on one status, exactly if every status has one. -/
theorem codes_agree_iff (ss : List Int) :
    ((∃ f, CodesAgree f ss) ↔ ∀ s ∈ ss, mapped s = true) ∧
      ((∀ s ∈ ss, mapped s = true) → CodesAgree (Driver2.outcome ' ') ss) := by
  have second (code : Char) : codes Driver2.outcome code ss = ss.map (Driver2.outcome ' ') :=
    codes_eq_map (Driver2.outcome ' ') ss code
  have agree (known : ∀ s ∈ ss, mapped s = true) : CodesAgree (Driver2.outcome ' ') ss :=
    ⟨(Driver1.codes_eq_iff ss (by decide)).mpr known, second, second⟩
  refine ⟨⟨?_, fun known => ⟨_, agree known⟩⟩, agree⟩
  rintro ⟨f, first, others, -⟩
  have same : codes Driver1.outcome ' ' ss = ss.map (Driver2.outcome ' ') := by
    rw [first, ← others ' ', second]
  exact (Driver1.codes_eq_iff ss (by decide)).mp same

/-- A retry that fails for good is logged as the transaction before it. -/
theorem codes_disagree : ¬ ∃ f : Int → Char, ∀ ss, CodesAgree f ss := by
  rintro ⟨f, agree⟩
  have carried : codes Driver1.outcome ' ' [OK, RECONNECT] = ['C', 'C'] := by decide
  have crossed : codes Driver2.outcome ' ' [OK, RECONNECT] = ['C', 'X'] := by decide
  obtain ⟨first, others, -⟩ := agree [OK, RECONNECT]
  rw [← others ' ', carried, crossed] at first
  exact absurd first (by decide)

/-! ## A terminal -/

abbrev Bytes := List UInt8

/-- The `int` of four bytes at an offset, the lowest first. -/
def intAt (b : Bytes) (offset : Nat) : Int :=
  (BitVec.ofNat 32 (((b.drop offset).take 4).foldr (fun byte n => byte.toNat + 256 * n) 0)).toInt

/-- The first fields of a `client_transaction_t`. -/
def statusOf (b : Bytes) : Int := intAt b 0

def transactionOf (b : Bytes) : Int := intAt b 4

structure Line where
  transaction : Int
  code : Char
  deriving DecidableEq

inductive TerminalPc where
  | generating
  | sending (sent : Nat)
  | receiving (total : Nat)
  | logging
  | ended
  deriving DecidableEq

structure DriverTerminal where
  pc : TerminalPc
  /-- The record, for requests and responses. -/
  clientData : Bytes
  code : Char
  lines : List Line
  /-- The requests that were sent whole, and the bytes that have left. -/
  requests : List Bytes
  sent : Nat
  /-- What the client answers, and how many bytes of it have arrived. -/
  responses : List Bytes
  received : Nat
  deriving DecidableEq

inductive TerminalEvent where
  /-- The type and the input of the next transaction; the status is left as it is. -/
  | generated (data : Bytes)
  | stopped
  | sent (n : Nat)
  | sendFailed
  | received (bytes : Bytes)
  | recvFailed
  | closed
  | logged
  /-- The client answers a request. -/
  | responded (record : Bytes)
  deriving DecidableEq

namespace DriverTerminal

variable (size : Nat) (outcome : Char → Int → Char)

/-- `size` is that of a record. The client answers each whole record it is sent at most once, and
the socket delivers what it writes in order. Whatever `send` and `recv` come to, the driver goes
on to the next statement. -/
def step (t : DriverTerminal) (e : TerminalEvent) : Option DriverTerminal :=
  match t.pc, e with
  | _, .responded record =>
    if record.length = size ∧ t.responses.length < t.sent / size then
      some { t with responses := t.responses ++ [record] }
    else none
  | .generating, .generated data =>
    if data.length + 4 = size then
      some { t with clientData := t.clientData.take 4 ++ data, pc := .sending 0 }
    else none
  | .generating, .stopped => some { t with pc := .ended }
  | .sending k, .sent n =>
    if k + n < size then some { t with sent := t.sent + n, pc := .sending (k + n) }
    else if k + n = size then
      some { t with sent := t.sent + n, requests := t.requests ++ [t.clientData]
                    pc := .receiving 0 }
    else none
  | .sending _, .sendFailed => some { t with pc := .receiving 0 }
  | .receiving k, .received bytes =>
    if bytes ≠ [] ∧ k + bytes.length ≤ size ∧
        bytes <+: t.responses.flatten.drop t.received then
      some { t with
        clientData := t.clientData.take k ++ bytes ++ t.clientData.drop (k + bytes.length)
        received := t.received + bytes.length
        pc := if k + bytes.length = size then .logging else .receiving (k + bytes.length) }
    else none
  | .receiving _, .recvFailed => some { t with pc := .logging }
  | .receiving _, .closed => some { t with pc := .logging }
  | .logging, .logged =>
    let code := outcome t.code (statusOf t.clientData)
    some { t with code, pc := .generating
                  lines := t.lines ++ [{ transaction := transactionOf t.clientData, code }] }
  | _, _ => none

/-- A terminal with whatever is in its record. -/
def start (memory : Bytes) : DriverTerminal where
  pc := .generating
  clientData := memory
  code := ' '
  lines := []
  requests := []
  sent := 0
  responses := []
  received := 0

/-- The `i`-th request has been answered by a record that has arrived whole, and that says what the
line says. -/
def Answered (t : DriverTerminal) (i : Nat) (line : Line) : Prop :=
  ∃ request response, t.requests[i]? = some request ∧ t.responses[i]? = some response ∧
    (i + 1) * size ≤ t.received ∧ line.transaction = transactionOf response ∧
    line.code = Driver2.outcome ' ' (statusOf response)

/-- A line with an outcome goes back to the response to the request of the same number. -/
structure Truthful (t : DriverTerminal) : Prop where
  atMostOne : t.lines.length ≤ t.requests.length
  answered : ∀ (i : Nat) (line : Line), t.lines[i]? = some line → line.code ∈ ['C', 'R', 'E'] →
    t.Answered size i line

/-- A send or a receive that is not cut short. -/
def goesThrough : TerminalEvent → Bool
  | .sendFailed | .recvFailed | .closed => false
  | _ => true

/-- How much of a request has left, beyond the whole ones. -/
def TerminalPc.partly : TerminalPc → Nat
  | .sending k => k
  | _ => 0

/-- What holds of lines and records at each point of a terminal's loop. -/
def InPhase (t : DriverTerminal) : TerminalPc → Prop
  | .generating | .sending _ =>
    t.requests.length = t.lines.length ∧ t.received = t.lines.length * size
  | .receiving k => t.requests.length = t.lines.length + 1 ∧
      t.received = t.lines.length * size + k ∧ k < size ∧
      (k = 0 ∨ ∃ r, t.responses[t.lines.length]? = some r ∧ t.clientData.take k = r.take k)
  | .logging => t.requests.length = t.lines.length + 1 ∧
      t.received = (t.lines.length + 1) * size ∧
      t.responses[t.lines.length]? = some t.clientData
  | .ended => t.requests.length = t.lines.length

structure InStep (t : DriverTerminal) : Prop where
  whole : ∀ r ∈ t.responses, r.length = size
  record : t.clientData.length = size
  left : t.sent = t.requests.length * size + TerminalPc.partly t.pc
  unfinished : TerminalPc.partly t.pc < size
  fewer : t.responses.length ≤ t.requests.length
  phase : t.InPhase size t.pc
  answered : ∀ (i : Nat) (line : Line), t.lines[i]? = some line → line.code ∈ ['C', 'R', 'E'] →
    t.Answered size i line

/-- The stream from within the `n`-th record on. -/
theorem drop_flatten {size n k : Nat} {r : Bytes} {rs : List Bytes}
    (whole : ∀ r ∈ rs, r.length = size) (nth : rs[n]? = some r) (le : k ≤ size) :
    rs.flatten.drop (n * size + k) = r.drop k ++ (rs.drop (n + 1)).flatten := by
  induction rs generalizing n with
  | nil => cases nth
  | cons r' rs ih =>
    have first : r'.length = size := whole r' List.mem_cons_self
    cases n with
    | zero =>
      obtain rfl : r' = r := by simpa using nth
      rw [Nat.zero_mul, Nat.zero_add, List.flatten_cons, List.drop_append_of_le_length (by omega)]
      rfl
    | succ n =>
      have rest := ih (fun r mem => whole r (List.mem_cons_of_mem r' mem)) (by simpa using nth)
      have past : (n + 1) * size + k = r'.length + (n * size + k) := by rw [first]; ring
      rw [List.flatten_cons, past, ← List.drop_drop, List.drop_left]
      exact rest

theorem length_flatten {size : Nat} {rs : List Bytes} (whole : ∀ r ∈ rs, r.length = size) :
    rs.flatten.length = rs.length * size := by
  induction rs with
  | nil => simp
  | cons r rs ih =>
    have rest := ih fun r mem => whole r (List.mem_cons_of_mem _ mem)
    rw [List.flatten_cons, List.length_append, whole r List.mem_cons_self, rest, List.length_cons]
    ring

section

variable {size : Nat} {outcome : Char → Int → Char} {t t' : DriverTerminal}

theorem getElem?_of_prefix {α : Type} {l l' : List α} {i : Nat} {a : α} (longer : l <+: l')
    (there : l[i]? = some a) : l'[i]? = some a := by
  obtain ⟨more, rfl⟩ := longer
  rw [List.getElem?_append_left (List.getElem?_eq_some_iff.mp there).1]
  exact there

theorem Answered.mono {i : Nat} {line : Line} (h : t.Answered size i line)
    (requests : t.requests <+: t'.requests) (responses : t.responses <+: t'.responses)
    (received : t.received ≤ t'.received) : t'.Answered size i line := by
  obtain ⟨request, response, sent, there, whole, said⟩ := h
  exact ⟨request, response, getElem?_of_prefix requests sent, getElem?_of_prefix responses there,
    whole.trans received, said⟩

/-- What has been answered stays so until another line is written. -/
theorem answered_mono
    (answered : ∀ (i : Nat) (line : Line), t.lines[i]? = some line →
      line.code ∈ ['C', 'R', 'E'] → t.Answered size i line)
    (lines : t'.lines = t.lines) (requests : t.requests <+: t'.requests)
    (responses : t.responses <+: t'.responses) (received : t.received ≤ t'.received) (i : Nat)
    (line : Line) (logged : t'.lines[i]? = some line) (code : line.code ∈ ['C', 'R', 'E']) :
    t'.Answered size i line := by
  rw [lines] at logged
  exact (answered i line logged code).mono requests responses received

/-- Answers come while a request is under way or not; they only add a response. -/
theorem InStep.respond (h : InStep size t) {record : Bytes} (long : record.length = size)
    (owed : t.responses.length < t.sent / size) :
    InStep size { t with responses := t.responses ++ [record] } := by
  obtain ⟨whole, recordLength, left, unfinished, fewer, phase, answered⟩ := h
  have count : t.sent / size = t.requests.length := by
    rw [left, Nat.mul_comm, Nat.mul_add_div (by omega), Nat.div_eq_of_lt unfinished, Nat.add_zero]
  have added : t.responses <+: t.responses ++ [record] := List.prefix_append _ _
  refine ⟨?_, recordLength, left, unfinished, ?_, ?_, ?_⟩
  · intro r mem
    obtain mem | mem := List.mem_append.mp mem
    · exact whole r mem
    · rw [List.mem_singleton.mp mem, long]
  · change (t.responses ++ [record]).length ≤ t.requests.length
    rw [List.length_append, List.length_singleton]
    omega
  · change InPhase size { t with responses := t.responses ++ [record] } t.pc
    cases at' : t.pc with
    | generating | sending _ | ended =>
      rw [at'] at phase
      exact phase
    | receiving k =>
      rw [at'] at phase
      obtain ⟨requested, received, inside, same⟩ := phase
      refine ⟨requested, received, inside, same.imp_right ?_⟩
      rintro ⟨r, there, begun⟩
      exact ⟨r, getElem?_of_prefix added there, begun⟩
    | logging =>
      rw [at'] at phase
      exact ⟨phase.1, phase.2.1, getElem?_of_prefix added phase.2.2⟩
  · exact answered_mono answered rfl (List.prefix_refl _) added le_rfl

/-- A chunk of the response under way. -/
theorem InStep.receive (h : InStep size t) {k : Nat} (at' : t.pc = .receiving k) {bytes : Bytes}
    (nonempty : bytes ≠ []) (next : bytes <+: t.responses.flatten.drop t.received) :
    ∃ r, t.responses[t.lines.length]? = some r ∧
      t.clientData.take k ++ bytes = r.take (k + bytes.length) := by
  have phase := h.phase
  rw [at'] at phase
  obtain ⟨requested, received, inside, same⟩ := phase
  have total : t.responses.flatten.length = t.responses.length * size := length_flatten h.whole
  have some_left : 0 < bytes.length := List.length_pos_iff.mpr nonempty
  have left := next.length_le
  rw [List.length_drop, total, received] at left
  have answered : t.responses.length = t.lines.length + 1 := by
    have fewer := h.fewer
    have more : t.lines.length < t.responses.length := by
      by_contra none
      have bound := Nat.mul_le_mul_right size (not_lt.mp none)
      omega
    omega
  obtain ⟨r, nth⟩ : ∃ r, t.responses[t.lines.length]? = some r :=
    ⟨_, List.getElem?_eq_getElem (by omega)⟩
  refine ⟨r, nth, ?_⟩
  have begun : t.clientData.take k = r.take k := by
    obtain rfl | ⟨r', nth', begun⟩ := same
    · rfl
    · obtain rfl : r = r' := Option.some_inj.mp (nth.symm.trans nth')
      exact begun
  rw [received, drop_flatten h.whole nth inside.le, List.drop_eq_nil_of_le answered.le,
    List.flatten_nil, List.append_nil] at next
  rw [List.take_add, ← begun, ← List.prefix_iff_eq_take.mp next]

theorem InStep.generate (h : InStep size t) (at' : t.pc = .generating) {data : Bytes}
    (long : data.length + 4 = size) :
    InStep size { t with clientData := t.clientData.take 4 ++ data, pc := .sending 0 } := by
  obtain ⟨whole, record, left, unfinished, fewer, phase, answered⟩ := h
  rw [at'] at left phase
  refine ⟨whole, ?_, left, by simp only [TerminalPc.partly]; omega, fewer, phase, answered⟩
  change (t.clientData.take 4 ++ data).length = size
  rw [List.length_append, List.length_take]
  omega

theorem InStep.send (h : InStep size t) {k n : Nat} (at' : t.pc = .sending k)
    (rest : k + n < size) : InStep size { t with sent := t.sent + n, pc := .sending (k + n) } := by
  obtain ⟨whole, record, left, unfinished, fewer, phase, answered⟩ := h
  rw [at'] at left phase
  refine ⟨whole, record, ?_, rest, fewer, phase, answered⟩
  change t.sent + n = t.requests.length * size + (k + n)
  rw [left]
  exact Nat.add_assoc _ _ _

theorem InStep.sendAll (h : InStep size t) {k n : Nat} (at' : t.pc = .sending k)
    (all : k + n = size) :
    InStep size { t with sent := t.sent + n, requests := t.requests ++ [t.clientData]
                         pc := .receiving 0 } := by
  obtain ⟨whole, record, left, unfinished, fewer, phase, answered⟩ := h
  rw [at'] at left phase unfinished
  have one : (t.requests ++ [t.clientData]).length = t.requests.length + 1 :=
    List.length_append
  have positive : 0 < size := Nat.zero_lt_of_lt unfinished
  refine ⟨whole, record, ?_, positive, ?_, ⟨?_, phase.2, positive, .inl rfl⟩, ?_⟩
  · change t.sent + n = (t.requests ++ [t.clientData]).length * size + 0
    have before : t.sent = t.requests.length * size + k := left
    rw [one, Nat.succ_mul]
    omega
  · exact fewer.trans (one.symm ▸ Nat.le_succ _)
  · exact one.trans (congrArg Nat.succ phase.1)
  · exact answered_mono answered rfl (List.prefix_append _ _) (List.prefix_refl _) le_rfl

theorem InStep.arrive (h : InStep size t) {k : Nat} (at' : t.pc = .receiving k) {bytes : Bytes}
    (nonempty : bytes ≠ []) (fits : k + bytes.length ≤ size)
    (next : bytes <+: t.responses.flatten.drop t.received) :
    InStep size { t with
      clientData := t.clientData.take k ++ bytes ++ t.clientData.drop (k + bytes.length)
      received := t.received + bytes.length
      pc := if k + bytes.length = size then .logging else .receiving (k + bytes.length) } := by
  obtain ⟨r, nth, begun⟩ := h.receive at' nonempty next
  obtain ⟨whole, record, left, unfinished, fewer, phase, answered⟩ := h
  rw [at'] at left unfinished phase
  have rLength : r.length = size := whole r (List.mem_of_getElem? nth)
  obtain ⟨requested, received, inside, -⟩ := phase
  rw [begun]
  have filled : (r.take (k + bytes.length) ++ t.clientData.drop (k + bytes.length)).length =
      size := by
    rw [List.length_append, List.length_take, List.length_drop, rLength, record]
    omega
  have arrived : t.received + bytes.length = t.lines.length * size + (k + bytes.length) := by
    omega
  by_cases last : k + bytes.length = size
  · simp only [if_pos last]
    refine ⟨whole, filled, left, unfinished, fewer, ⟨requested, ?_, ?_⟩, ?_⟩
    · change t.received + bytes.length = (t.lines.length + 1) * size
      rw [arrived, last, Nat.succ_mul]
    · rw [nth, last, ← rLength, List.take_length, rLength, ← record, List.drop_length,
        List.append_nil]
    · exact answered_mono answered rfl (List.prefix_refl _) (List.prefix_refl _)
        (Nat.le_add_right _ _)
  · simp only [if_neg last]
    refine ⟨whole, filled, left, unfinished, fewer,
      ⟨requested, arrived, by omega, .inr ⟨r, nth, ?_⟩⟩, ?_⟩
    · rw [List.take_append_of_le_length (by rw [List.length_take]; omega), List.take_take,
        Nat.min_self]
    · exact answered_mono answered rfl (List.prefix_refl _) (List.prefix_refl _)
        (Nat.le_add_right _ _)

/-- The code that is logged next comes from the record, if it says anything. -/
def Fresh (outcome : Char → Int → Char) (t : DriverTerminal) : Prop :=
  outcome t.code (statusOf t.clientData) ∈ ['C', 'R', 'E'] →
    outcome t.code (statusOf t.clientData) = Driver2.outcome ' ' (statusOf t.clientData)

/-- The record is the response to the last request; what is logged comes from it, unless the code
is carried over. -/
theorem InStep.log (h : InStep size t) (at' : t.pc = .logging)
    (fresh : t.Fresh outcome) : InStep size { t with
      code := outcome t.code (statusOf t.clientData), pc := .generating
      lines := t.lines ++ [{ transaction := transactionOf t.clientData
                             code := outcome t.code (statusOf t.clientData) }] } := by
  obtain ⟨whole, record, left, unfinished, fewer, phase, answered⟩ := h
  rw [at'] at left unfinished phase
  obtain ⟨requested, received, there⟩ := phase
  have one (line : Line) : (t.lines ++ [line]).length = t.lines.length + 1 := List.length_append
  refine ⟨whole, record, left, unfinished, fewer, ⟨?_, ?_⟩, ?_⟩
  · exact requested.trans (one _).symm
  · exact received.trans (congrArg (· * size) (one _).symm)
  · intro i line logged code
    by_cases before : i < t.lines.length
    · exact answered i line (List.getElem?_append_left before ▸ logged) code
    · have bound := (List.getElem?_eq_some_iff.mp logged).1
      rw [one] at bound
      obtain rfl : i = t.lines.length := by omega
      obtain rfl := Option.some_inj.mp (List.getElem?_concat_length.symm.trans logged)
      obtain ⟨request, sent⟩ : ∃ request, t.requests[t.lines.length]? = some request :=
        ⟨_, List.getElem?_eq_getElem (by omega)⟩
      exact ⟨request, t.clientData, sent, there, received.ge, rfl, fresh code⟩

/-- What each event of a loop that is not cut short leaves. -/
theorem InStep.preserved {e : TerminalEvent} (h : InStep size t)
    (stepped : step size outcome t e = some t') (through : goesThrough e = true)
    (fresh : e = .logged → t.Fresh outcome) : InStep size t' := by
  unfold step at stepped
  split at stepped
  case h_1 record =>
    rw [Option.ite_none_right_eq_some, Option.some_inj] at stepped
    obtain ⟨⟨long, owed⟩, rfl⟩ := stepped
    exact h.respond long owed
  case h_2 data at' =>
    rw [Option.ite_none_right_eq_some, Option.some_inj] at stepped
    obtain ⟨long, rfl⟩ := stepped
    exact h.generate at' long
  case h_3 at' =>
    obtain rfl := Option.some_inj.mp stepped
    obtain ⟨whole, record, left, unfinished, fewer, phase, answered⟩ := h
    rw [at'] at left unfinished phase
    exact ⟨whole, record, left, unfinished, fewer, phase.1, answered⟩
  case h_4 k n at' =>
    split at stepped
    · next rest =>
      obtain rfl := Option.some_inj.mp stepped
      exact h.send at' rest
    · rw [Option.ite_none_right_eq_some, Option.some_inj] at stepped
      obtain ⟨all, rfl⟩ := stepped
      exact h.sendAll at' all
  case h_5 => cases through
  case h_6 k bytes at' =>
    rw [Option.ite_none_right_eq_some, Option.some_inj] at stepped
    obtain ⟨⟨nonempty, fits, next⟩, rfl⟩ := stepped
    exact h.arrive at' nonempty fits next
  case h_7 => cases through
  case h_8 => cases through
  case h_9 at' =>
    obtain rfl := Option.some_inj.mp stepped
    exact h.log at' (fresh rfl)
  case h_10 => cases stepped

theorem InStep.truthful (h : InStep size t) : Truthful size t := by
  refine ⟨?_, h.answered⟩
  have phase := h.phase
  cases at' : t.pc with
  | generating | sending _ =>
    rw [at'] at phase
    exact phase.1.ge
  | receiving _ | logging =>
    rw [at'] at phase
    exact phase.1.ge.trans' (Nat.le_succ _)
  | ended =>
    rw [at'] at phase
    exact phase.ge

theorem InStep.start {memory : Bytes} (positive : 0 < size) (whole : memory.length = size) :
    InStep size (start memory) where
  whole := fun _ mem => nomatch mem
  record := whole
  left := (Nat.zero_mul size).symm
  unfinished := positive
  fewer := le_rfl
  phase := ⟨rfl, (Nat.zero_mul size).symm⟩
  answered := fun _ _ logged => nomatch logged

theorem lines_prefix {e : TerminalEvent} (stepped : step size outcome t e = some t') :
    t.lines <+: t'.lines := by
  unfold step at stepped
  split at stepped
  case h_9 =>
    obtain rfl := Option.some_inj.mp stepped
    exact List.prefix_append _ _
  case h_4 =>
    split at stepped
    · obtain rfl := Option.some_inj.mp stepped
      exact List.prefix_refl _
    · rw [Option.ite_none_right_eq_some, Option.some_inj] at stepped
      obtain ⟨-, rfl⟩ := stepped
      exact List.prefix_refl _
  case h_1 | h_2 | h_6 =>
    rw [Option.ite_none_right_eq_some, Option.some_inj] at stepped
    obtain ⟨-, rfl⟩ := stepped
    exact List.prefix_refl _
  case h_3 | h_5 | h_7 | h_8 =>
    obtain rfl := Option.some_inj.mp stepped
    exact List.prefix_refl _
  case h_10 => cases stepped

end

end DriverTerminal

/-- `driver`'s variable must not carry an outcome over; `driver2` has no such variable. -/
def Driver1.complete (t : DriverTerminal) (e : TerminalEvent) : Bool :=
  DriverTerminal.goesThrough e && (e ≠ .logged || mapped (statusOf t.clientData) ||
    t.code ∉ ['C', 'R', 'E'])

def Driver2.complete (_t : DriverTerminal) (e : TerminalEvent) : Bool :=
  DriverTerminal.goesThrough e

theorem Driver1.fresh {t : DriverTerminal} (complete : Driver1.complete t .logged = true) :
    t.Fresh Driver1.outcome := by
  intro code
  by_cases known : mapped (statusOf t.clientData) = true
  · rw [Driver1.outcome_mapped t.code known, Driver2.outcome, Driver2.outcome]
  · have carried : Driver1.outcome t.code (statusOf t.clientData) = t.code := by
      simp only [mapped, decide_eq_true_eq, not_or] at known
      obtain ⟨committed, rolledBack, failed⟩ := known
      rw [Driver1.outcome, if_neg committed, if_neg rolledBack, if_neg failed]
    have outside : t.code ∉ ['C', 'R', 'E'] := by
      simpa [Driver1.complete, DriverTerminal.goesThrough, known] using complete
    exact absurd (carried ▸ code) outside

/-! ## The log of a driver -/

/-- The terminals of a driver, of which a run may use any number, and the log they share. -/
structure Fleet where
  terminals : Nat → DriverTerminal
  log : List (Nat × Line)

namespace Fleet

variable (size : Nat) (outcome : Char → Int → Char)

/-- Terminals take their steps in any order. A line is written at once. -/
def step (f : Fleet) (e : Nat × TerminalEvent) : Option Fleet :=
  (DriverTerminal.step size outcome (f.terminals e.1) e.2).map fun t =>
    { terminals := Function.update f.terminals e.1 t
      log := f.log ++ (t.lines.drop (f.terminals e.1).lines.length).map (e.1, ·) }

def start (memory : Nat → Bytes) : Fleet where
  terminals i := DriverTerminal.start (memory i)
  log := []

/-- The lines a terminal has written. -/
def linesOf (f : Fleet) (i : Nat) : List Line := (f.log.filter (·.1 = i)).map (·.2)

/-- Every line of the log is the line of a terminal's request, in their order. -/
structure Truthful (f : Fleet) : Prop where
  terminal : ∀ i, (f.terminals i).Truthful size
  written : ∀ i, f.linesOf i = (f.terminals i).lines

variable {size : Nat} {outcome : Char → Int → Char} {f f' : Fleet}

theorem linesOf_append (i j : Nat) (lines : List Line) (terminals : Nat → DriverTerminal) :
    linesOf { terminals, log := f.log ++ lines.map (j, ·) } i =
      f.linesOf i ++ if i = j then lines else [] := by
  unfold linesOf
  rw [List.filter_append, List.map_append, List.filter_map, List.map_map]
  congr 1
  by_cases same : i = j
  · subst same
    simp [Function.comp_def]
  · have other : ¬ j = i := fun h => same h.symm
    simp [Function.comp_def, same, other]

/-- A terminal's step, in the fleet. -/
theorem preserved {good : DriverTerminal → TerminalEvent → Bool}
    (through : ∀ t e, good t e = true → DriverTerminal.goesThrough e = true)
    (fresh : ∀ t, good t .logged = true → t.Fresh outcome)
    {e : Nat × TerminalEvent} (stepped : step size outcome f e = some f')
    (complete : good (f.terminals e.1) e.2 = true)
    (h : ∀ i, (f.terminals i).InStep size ∧ f.linesOf i = (f.terminals i).lines) :
    ∀ i, (f'.terminals i).InStep size ∧ f'.linesOf i = (f'.terminals i).lines := by
  obtain ⟨t, moved, rfl⟩ := Option.map_eq_some_iff.mp stepped
  intro i
  obtain ⟨inStep, written⟩ := h i
  rw [linesOf_append, written]
  dsimp only
  by_cases same : i = e.1
  · subst same
    rw [Function.update_self, if_pos rfl]
    refine ⟨inStep.preserved moved (through _ _ complete) fun logged => ?_, ?_⟩
    · rw [logged] at complete
      exact fresh _ complete
    · exact List.prefix_iff_eq_append.mp (DriverTerminal.lines_prefix moved)
  · rw [Function.update_of_ne same, if_neg same, List.append_nil]
    exact ⟨inStep, rfl⟩

theorem run_truthful {good : DriverTerminal → TerminalEvent → Bool}
    (through : ∀ t e, good t e = true → DriverTerminal.goesThrough e = true)
    (fresh : ∀ t, good t .logged = true → t.Fresh outcome)
    {memory : Nat → Bytes} {es : List (Nat × TerminalEvent)} (positive : 0 < size)
    (whole : ∀ i, (memory i).length = size)
    (ran : run (step size outcome) (start memory) es = some f)
    (along : Along (step size outcome) (fun f e => good (f.terminals e.1) e.2) (start memory) es) :
    f.Truthful size := by
  have inStep : ∀ i, (f.terminals i).InStep size ∧ f.linesOf i = (f.terminals i).lines :=
    run_invariant_along
      (fun _ _ _ stepped complete h => preserved through fresh stepped complete h) ran along
      fun i => ⟨.start positive (whole i), rfl⟩
  exact ⟨fun i => (inStep i).1.truthful, fun i => (inStep i).2⟩

/-- The log is truthful in every run in which no send or receive is cut short and, for `driver`,
no outcome is carried over to a status that has none. `memory` is what the records hold at the
start: anything for `driver`, zeros for `driver2`. -/
theorem log_truthful (size : Nat) (memory : Nat → Bytes) (es : List (Nat × TerminalEvent))
    (f : Fleet) (large : 8 ≤ size) (whole : ∀ i, (memory i).length = size) :
    (run (step size Driver1.outcome) (start memory) es = some f →
      Along (step size Driver1.outcome) (fun f e => Driver1.complete (f.terminals e.1) e.2)
        (start memory) es → f.Truthful size) ∧
    (run (step size Driver2.outcome) (start memory) es = some f →
      Along (step size Driver2.outcome) (fun f e => Driver2.complete (f.terminals e.1) e.2)
        (start memory) es → f.Truthful size) := by
  have positive : 0 < size := Nat.zero_lt_of_lt large
  constructor
  · apply run_truthful _ (fun _ => Driver1.fresh) positive whole
    intro t e complete
    simp only [Driver1.complete, Bool.and_eq_true] at complete
    exact complete.1
  · exact run_truthful (fun _ _ through => through) (fun _ _ _ => rfl) positive whole

/-- Two terminals; the second sends in two parts. -/
def twoOrders : List (Nat × TerminalEvent) :=
  [(0, .generated [0, 0, 0, 0]), (1, .generated [1, 0, 0, 0]), (1, .sent 3), (0, .sent 8),
    (0, .responded [1, 0, 0, 0, 0, 0, 0, 0]), (1, .sent 5), (0, .received [1, 0, 0, 0, 0]),
    (1, .responded [0, 0, 0, 0, 1, 0, 0, 0]), (0, .received [0, 0, 0]), (0, .logged),
    (1, .received [0, 0, 0, 0, 1, 0, 0, 0]), (1, .logged)]

/-- The client closes the socket on the second request. -/
def closedOnSecond : List (Nat × TerminalEvent) :=
  [(0, .generated [0, 0, 0, 0]), (0, .sent 8), (0, .responded [1, 0, 0, 0, 0, 0, 0, 0]),
    (0, .received [1, 0, 0, 0, 0, 0, 0, 0]), (0, .logged), (0, .generated [1, 0, 0, 0]),
    (0, .sent 8), (0, .closed), (0, .logged)]

def zeroed (_i : Nat) : Bytes := List.replicate 8 0

/-- The outcome of the first transaction, under the type of the second. -/
def Repeated (f : Fleet) : Prop :=
  (f.terminals 0).lines[1]? = some { transaction := 1, code := 'C' } ∧
    (f.terminals 0).responses[1]? = none

theorem Repeated.not_truthful (h : f.Repeated) : ¬ f.Truthful size := by
  intro truthful
  obtain ⟨request, response, -, there, -⟩ :=
    (truthful.terminal 0).answered 1 _ h.1 (by decide)
  exact nomatch h.2.symm.trans there

theorem log_truthful_two :
    (∃ f, run (step 8 Driver1.outcome) (start zeroed) twoOrders = some f ∧ f.Truthful 8) ∧
      ∃ f, run (step 8 Driver2.outcome) (start zeroed) twoOrders = some f ∧ f.Truthful 8 := by
  have long : ∀ i, (zeroed i).length = 8 := fun _ => List.length_replicate
  obtain ⟨f, ran⟩ := Option.isSome_iff_exists.mp
    (by decide : (run (step 8 Driver1.outcome) (start zeroed) twoOrders).isSome = true)
  obtain ⟨g, ran'⟩ := Option.isSome_iff_exists.mp
    (by decide : (run (step 8 Driver2.outcome) (start zeroed) twoOrders).isSome = true)
  exact ⟨⟨f, ran, (log_truthful 8 zeroed twoOrders f le_rfl long).1 ran (by decide)⟩,
    ⟨g, ran', (log_truthful 8 zeroed twoOrders g le_rfl long).2 ran' (by decide)⟩⟩

/-- Both drivers log the second transaction as committed, which no client has answered. -/
theorem log_not_truthful :
    (¬ ∀ (es : List (Nat × TerminalEvent)) (f : Fleet),
      run (step 8 Driver1.outcome) (start zeroed) es = some f → f.Truthful 8) ∧
    ¬ ∀ (es : List (Nat × TerminalEvent)) (f : Fleet),
      run (step 8 Driver2.outcome) (start zeroed) es = some f → f.Truthful 8 := by
  have repeats (outcome : Char → Int → Char)
      (at' : (run (step 8 outcome) (start zeroed) closedOnSecond).map
          (fun f => ((f.terminals 0).lines[1]?, (f.terminals 0).responses[1]?)) =
        some (some { transaction := 1, code := 'C' }, none)) :
      ¬ ∀ (es : List (Nat × TerminalEvent)) (f : Fleet),
        run (step 8 outcome) (start zeroed) es = some f → f.Truthful 8 := by
    intro always
    obtain ⟨f, ran, seen⟩ := Option.map_eq_some_iff.mp at'
    obtain ⟨line, none'⟩ := Prod.mk.injEq .. ▸ seen
    exact Repeated.not_truthful ⟨line, none'⟩ (always _ f ran)
  exact ⟨repeats _ (by decide), repeats _ (by decide)⟩

end Fleet

end Dbt2
