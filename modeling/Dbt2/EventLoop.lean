import Dbt2.Client
import Dbt2.MixLog
import Dbt2.TransactionMix

/-!
# The event loop of driver2

`driver2.c` runs all terminals of a process in one loop. Where a terminal stands is spread over two
timers and one socket event, of which each callback stops one and starts another.

* `keyingTimeCb`, `thinkingTimeCb`, `transactionReceiveCb`: the callbacks, one terminal's event at
  a time;
* `Orderly`: one event is pending, and each line belongs to the request that it answers;
* `one_event_of_run`: in every run, a terminal that is not done has one event pending;
* `terminals_orderly_iff`: all of it holds for as long as every receive gets a whole response.
-/

namespace Dbt2

open Transition

/-- An `ev_timer` and the seconds it was last set to. -/
structure EvTimer where
  active : Bool
  after : ℚ

structure RteEvents (D : Type) where
  kt : EvTimer
  tt : EvTimer
  /-- Whether the event is started; so are the timers that are active. -/
  recvtxn : Bool
  /-- Whether `socketfd` is still open. -/
  connected : Bool
  wId : Int
  dId : Int
  rt0 : ℚ
  rt1 : ℚ
  meanThinkTime : Int
  clientData : ClientTransaction D

inductive Direction where
  | request
  | response
  deriving DecidableEq

/-- A request that went out whole, and when. -/
structure Issued (D : Type) where
  record : ClientTransaction D
  start : ℚ
  wId : Int
  dId : Int

/-- A line of the mix log but for the process, with what the terminal went by when it wrote it. -/
structure Account where
  tt : Int
  transaction : Int
  code : Char
  responseTime : ℚ
  wId : Int
  dId : Int
  rt0 : ℚ
  keyingTime : ℚ
  meanThinkTime : Int

/-- A terminal and its socket. -/
structure LoopTerminal (D : Type) extends RteEvents D where
  requests : List (Issued D)
  /-- What the client has answered, and how much of that has been received. -/
  responses : List (ClientTransaction D)
  received : Nat
  /-- The records on the socket, in their order. -/
  wire : List Direction
  lines : List Account

inductive RteEvent (D : Type) where
  /-- The keying time is over. The request goes out whole, or the send fails. -/
  | keyed (now : ℚ) (whole : Bool)
  /-- The thinking time is over; what is drawn for home, type and input. -/
  | thought (home : Int × Int) (threshold : ℚ) (data : D)
  | received (now : ℚ) (tt : Int) (draw : ℚ)
  /-- The receive fails, or finds the socket closed, with `left` in the record. -/
  | unreceived (left : ClientTransaction D) (now : ℚ) (tt : Int) (draw : ℚ)
  /-- The client answers the next request. -/
  | answered (status : Int) (data : D)

structure LoopSettings where
  mix : TransactionMix
  keyTime : TypeTimes
  thinkTime : TypeTimes
  stopTime : Int
  modeAltered : Int
  wIdMin : Int
  /-- The think time in milliseconds for a draw, about a mean. -/
  getThinkTime : ℚ → Int → Int

/-- The time set for a type. -/
def TypeTimes.of (t : TypeTimes) : MixType → Int
  | .newOrder => t.newOrder
  | .payment => t.payment
  | .orderStatus => t.orderStatus
  | .delivery => t.delivery
  | .stockLevel => t.stockLevel

namespace LoopTerminal

variable {D : Type} (c : LoopSettings) (x : LoopTerminal D)

/-! ## Callbacks -/

/-- Nothing is made of what sending returns. -/
def keyingTimeCb (now : ℚ) (whole : Bool) : LoopTerminal D :=
  let x := { x with kt.active := false, rt0 := now }
  let x := if whole then
      { x with requests := x.requests ++ [⟨x.clientData, x.rt0, x.wId, x.dId⟩]
               wire := x.wire ++ [.request] }
    else x
  { x with recvtxn := true }

def thinkingTimeCb (home : Int × Int) (threshold : ℚ) (data : D) : LoopTerminal D :=
  let x := { x with tt.active := false }
  let x := if c.modeAltered = 1 then { x with wId := c.wIdMin + home.1, dId := home.2 + 1 } else x
  let choice := c.mix.choose c.keyTime c.thinkTime threshold
  { x with
    clientData := { x.clientData with
      transaction := choice.transaction.transaction, transactionData := data }
    meanThinkTime := choice.meanThinkTime
    kt := { active := true, after := choice.keyingTime } }

/-- What it writes down at `tt`. -/
def account (tt : Int) : Account where
  tt
  transaction := x.clientData.transaction
  code := Driver2.outcome ' ' x.clientData.status
  responseTime := x.rt1 - x.rt0
  wId := x.wId
  dId := x.dId
  rt0 := x.rt0
  keyingTime := x.kt.after
  meanThinkTime := x.meanThinkTime

/-- `record` is what receiving left; nothing is made of what it returned. -/
def transactionReceiveCb (record : ClientTransaction D) (now : ℚ) (tt : Int) (draw : ℚ) :
    LoopTerminal D :=
  let x := { x with clientData := record, rt1 := now }
  let x := { x with lines := x.lines ++ [x.account tt] }
  if c.stopTime = 0 ∨ tt < c.stopTime then
    { x with tt := { active := true, after := c.getThinkTime draw x.meanThinkTime / 1000 }
             recvtxn := false }
  else { x with recvtxn := false, connected := false }

/-- The loop calls back for events that are pending. The client answers requests in their order,
each with its record, in which it leaves the type alone. -/
def step : RteEvent D → Option (LoopTerminal D)
  | .keyed now whole => if x.kt.active then some (x.keyingTimeCb now whole) else none
  | .thought home threshold data =>
    if x.tt.active then some (x.thinkingTimeCb c home threshold data) else none
  | .received now tt draw =>
    if x.recvtxn then (x.responses[x.received]?).map fun record =>
      transactionReceiveCb c { x with received := x.received + 1 } record now tt draw
    else none
  | .unreceived left now tt draw =>
    if x.recvtxn then some (x.transactionReceiveCb c left now tt draw) else none
  | .answered status data => (x.requests[x.responses.length]?).map fun request =>
    { x with
      responses := x.responses ++ [{ request.record with status, transactionData := data }]
      wire := x.wire ++ [.response] }

/-- A terminal of `start_driver`, which is to think for no time. -/
def start (blank : ClientTransaction D) (home : Int × Int) : LoopTerminal D where
  kt := { active := false, after := 0 }
  tt := { active := true, after := 0 }
  recvtxn := false
  connected := true
  wId := home.1
  dId := home.2
  rt0 := 0
  rt1 := 0
  meanThinkTime := 0
  clientData := blank
  requests := []
  responses := []
  received := 0
  wire := []
  lines := []

/-! ## What is asked of a terminal -/

/-- A request, a response, a request, and so on. -/
def alternating (n : Nat) : List Direction :=
  (List.range n).map fun k => if k % 2 = 0 then .request else .response

/-- The line is about this request. -/
structure Account.About (a : Account) (request : Issued D) : Prop where
  transaction : a.transaction = request.record.transaction
  start : a.rt0 = request.start
  home : a.wId = request.wId ∧ a.dId = request.dId
  delays : ∃ kind : MixType, request.record.transaction = kind.transaction ∧
    a.keyingTime = c.keyTime.of kind ∧ a.meanThinkTime = c.thinkTime.of kind

/-- The `k`-th response, which answers the `k`-th request, was received whole. -/
def Answered (k : Nat) (a : Account) : Prop :=
  k < x.received ∧ ∃ request response, x.requests[k]? = some request ∧
    x.responses[k]? = some response ∧ a.code = Driver2.outcome ' ' response.status ∧
    Account.About c a request

structure Orderly : Prop where
  pending : [x.kt.active, x.tt.active, x.recvtxn].count true = x.connected.toNat
  outstanding : x.requests.length ≤ x.received + 1
  alternates : x.wire = alternating x.wire.length
  lines : ∀ k a, x.lines[k]? = some a → x.Answered c k a

/-- Every receive gets a response whole. -/
def arrives : RteEvent D → Bool
  | .unreceived .. => false
  | _ => true

/-! ## What the callbacks keep -/

/-- Which events are pending. -/
def Stands (kt tt recvtxn connected : Bool) : Prop :=
  x.kt.active = kt ∧ x.tt.active = tt ∧ x.recvtxn = recvtxn ∧ x.connected = connected

/-- All requests have been answered, and the answers received. -/
def Quiet : Prop := x.requests.length = x.received ∧ x.responses.length = x.received

/-- The delays are those of the type in the record. -/
def Chosen (kind : MixType) : Prop :=
  x.kt.after = c.keyTime.of kind ∧ x.meanThinkTime = c.thinkTime.of kind

/-- The last request is under way, or its answer. -/
structure Asked (request : Issued D) (kind : MixType) : Prop where
  sent : x.requests.length = x.received + 1
  last : x.requests[x.received]? = some request
  answers : x.received ≤ x.responses.length ∧ x.responses.length ≤ x.received + 1
  echoed : ∀ response, x.responses[x.received]? = some response →
    response.transaction = request.record.transaction
  start : x.rt0 = request.start
  home : x.wId = request.wId ∧ x.dId = request.dId
  type : request.record.transaction = kind.transaction
  chosen : x.Chosen c kind

inductive InPhase : Prop where
  | thinking (stands : x.Stands false true false true) (quiet : x.Quiet)
  | keying (stands : x.Stands true false false true) (quiet : x.Quiet) (kind : MixType)
      (type : x.clientData.transaction = kind.transaction) (chosen : x.Chosen c kind)
  | waiting (stands : x.Stands false false true true) (request : Issued D) (kind : MixType)
      (asked : x.Asked c request kind)
  /-- It waits for the answer to a request that it could not send. -/
  | unsent (stands : x.Stands false false true true) (quiet : x.Quiet)
  | finished (stands : x.Stands false false false false) (quiet : x.Quiet)

structure InOrder : Prop where
  wire : x.wire = alternating (x.requests.length + x.responses.length)
  logged : x.lines.length = x.received
  lines : ∀ k a, x.lines[k]? = some a → x.Answered c k a
  phase : x.InPhase c

variable {c : LoopSettings} {x y : LoopTerminal D}

theorem choose_delays (mix : TransactionMix) (keyTime thinkTime : TypeTimes) (threshold : ℚ) :
    (mix.choose keyTime thinkTime threshold).keyingTime =
        keyTime.of (mix.choose keyTime thinkTime threshold).transaction ∧
      (mix.choose keyTime thinkTime threshold).meanThinkTime =
        thinkTime.of (mix.choose keyTime thinkTime threshold).transaction := by
  unfold TransactionMix.choose
  split_ifs <;> exact ⟨rfl, rfl⟩

@[simp] theorem alternating_length (n : Nat) : (alternating n).length = n := by
  simp [alternating]

theorem alternating_even (n : Nat) :
    alternating (n + n) ++ [.request] = alternating (n + n + 1) := by
  have even : (n + n) % 2 = 0 := by omega
  simp [alternating, List.range_succ, even]

theorem alternating_odd (n : Nat) :
    alternating (n + 1 + n) ++ [.response] = alternating (n + 1 + n + 1) := by
  have odd : ¬ (n + 1 + n) % 2 = 0 := by omega
  simp only [alternating, List.range_succ, List.map_append, List.map_cons, List.map_nil, if_neg odd]

theorem Answered.mono {k : Nat} {a : Account} (h : x.Answered c k a)
    (requests : x.requests <+: y.requests) (responses : x.responses <+: y.responses)
    (received : x.received ≤ y.received) : y.Answered c k a := by
  obtain ⟨lt, request, response, sent, there, code, about⟩ := h
  exact ⟨lt.trans_le received, request, response, DriverTerminal.getElem?_of_prefix requests sent,
    DriverTerminal.getElem?_of_prefix responses there, code, about⟩

theorem InOrder.keyed (h : x.InOrder c) (active : x.kt.active = true) (now : ℚ) (whole : Bool) :
    (x.keyingTimeCb now whole).InOrder c := by
  obtain ⟨wire, logged, lines, phase⟩ := h
  cases phase with
  | keying stands quiet kind type chosen =>
    obtain ⟨-, tt, -, connected⟩ := stands
    obtain ⟨sent, answered⟩ := quiet
    cases whole with
    | false => exact ⟨wire, logged, lines, .unsent ⟨rfl, tt, rfl, connected⟩ ⟨sent, answered⟩⟩
    | true =>
      refine ⟨?_, logged, ?_, .waiting ⟨rfl, tt, rfl, connected⟩
        ⟨x.clientData, now, x.wId, x.dId⟩ kind ?_⟩
      · rw [sent, answered] at wire
        simp only [keyingTimeCb, if_true, List.length_append, List.length_singleton, wire, sent,
          answered]
        rw [alternating_even, Nat.add_right_comm]
      · exact fun k a line => (lines k a line).mono (List.prefix_append _ _)
          (List.prefix_refl _) le_rfl
      · refine { sent := ?_, last := ?_, answers := ?_, echoed := ?_, start := rfl
                 home := ⟨rfl, rfl⟩, type := type, chosen := chosen }
        · simp [keyingTimeCb, sent]
        · simp [keyingTimeCb, ← sent]
        · simp [keyingTimeCb, answered]
        · intro response there
          have bound := (List.getElem?_eq_some_iff.mp there).1
          exact absurd bound (by simp [keyingTimeCb, answered])
  | thinking stands | waiting stands | unsent stands | finished stands =>
    exact absurd (stands.1.symm.trans active) Bool.false_ne_true

theorem InOrder.thought (h : x.InOrder c) (active : x.tt.active = true) (home : Int × Int)
    (threshold : ℚ) (data : D) : (x.thinkingTimeCb c home threshold data).InOrder c := by
  obtain ⟨wire, logged, lines, phase⟩ := h
  cases phase with
  | thinking stands quiet =>
    obtain ⟨kt, -, recvtxn, connected⟩ := stands
    have delays := choose_delays c.mix c.keyTime c.thinkTime threshold
    unfold thinkingTimeCb
    split
    all_goals
      exact ⟨wire, logged, lines, .keying ⟨rfl, rfl, recvtxn, connected⟩ quiet _ rfl
        ⟨congrArg Int.cast delays.1, delays.2⟩⟩
  | keying stands | waiting stands | unsent stands | finished stands =>
    exact absurd (stands.2.1.symm.trans active) Bool.false_ne_true

/-- What the callback writes, and what it leaves alone. -/
theorem transactionReceiveCb_wrote (x : LoopTerminal D) (record : ClientTransaction D) (now : ℚ)
    (tt : Int) (draw : ℚ) :
    let y := x.transactionReceiveCb c record now tt draw
    y.lines = x.lines ++ [account { x with clientData := record, rt1 := now } tt] ∧
      y.requests = x.requests ∧ y.responses = x.responses ∧ y.received = x.received ∧
      y.wire = x.wire := by
  unfold transactionReceiveCb
  split <;> exact ⟨rfl, rfl, rfl, rfl, rfl⟩

/-- It then thinks, or it is done. -/
theorem transactionReceiveCb_stands {x : LoopTerminal D} (kt : x.kt.active = false)
    (tt' : x.tt.active = false) (connected : x.connected = true) (record : ClientTransaction D)
    (now : ℚ) (tt : Int) (draw : ℚ) :
    (x.transactionReceiveCb c record now tt draw).Stands false true false true ∨
      (x.transactionReceiveCb c record now tt draw).Stands false false false false := by
  unfold transactionReceiveCb
  split
  · exact .inl ⟨kt, rfl, rfl, connected⟩
  · exact .inr ⟨kt, tt', rfl, rfl⟩

/-- The record that came back is about the request under way, and the terminal still stands as it
did when it sent that. -/
theorem Asked.about {request : Issued D} {kind : MixType} (h : x.Asked c request kind)
    {record : ClientTransaction D} (there : x.responses[x.received]? = some record) (now : ℚ)
    (tt : Int) : Account.About c (account { x with clientData := record, rt1 := now } tt) request :=
  ⟨h.echoed record there, h.start, h.home, kind, h.type, h.chosen.1, h.chosen.2⟩

theorem InOrder.receive (h : x.InOrder c) (active : x.recvtxn = true)
    {record : ClientTransaction D} (there : x.responses[x.received]? = some record) (now : ℚ)
    (tt : Int) (draw : ℚ) :
    (transactionReceiveCb c { x with received := x.received + 1 } record now tt draw).InOrder c := by
  obtain ⟨wire, logged, lines, phase⟩ := h
  have bound := (List.getElem?_eq_some_iff.mp there).1
  cases phase with
  | waiting stands request kind asked =>
    obtain ⟨kt, tt', -, connected⟩ := stands
    obtain ⟨wrote, requests, responses, received, wire'⟩ :=
      transactionReceiveCb_wrote (c := c) { x with received := x.received + 1 } record now tt draw
    have next := transactionReceiveCb_stands (c := c) (x := { x with received := x.received + 1 })
      kt tt' connected record now tt draw
    generalize transactionReceiveCb c { x with received := x.received + 1 } record now tt draw = y
      at wrote requests responses received wire' next
    dsimp only at wrote requests responses received wire'
    have quiet : y.Quiet := by
      have answers := asked.answers.2
      rw [Quiet, requests, responses, received, asked.sent]
      exact ⟨rfl, by omega⟩
    refine ⟨?_, ?_, ?_, ?_⟩
    · rw [wire', requests, responses, wire]
    · rw [wrote, received, List.length_append, logged, List.length_singleton]
    · intro k a line
      rw [wrote] at line
      by_cases before : k < x.lines.length
      · exact (lines k a (List.getElem?_append_left before ▸ line)).mono (requests ▸ List.prefix_rfl)
          (responses ▸ List.prefix_rfl) (by omega)
      · have last := (List.getElem?_eq_some_iff.mp line).1
        rw [List.length_append, List.length_singleton] at last
        obtain rfl : k = x.lines.length := by omega
        obtain rfl := Option.some_inj.mp (List.getElem?_concat_length.symm.trans line)
        rw [logged]
        refine ⟨by omega, request, record, ?_, ?_, rfl, asked.about there now tt⟩
        · rw [requests, asked.last]
        · rw [responses, there]
    · obtain thinks | done := next
      · exact .thinking thinks quiet
      · exact .finished done quiet
  | unsent stands quiet => exact absurd (quiet.2 ▸ bound) (lt_irrefl _)
  | thinking stands | keying stands | finished stands =>
    exact absurd (stands.2.2.1.symm.trans active) Bool.false_ne_true

/-- Only the request under way can be answered. -/
theorem InOrder.answer (h : x.InOrder c) {request : Issued D}
    (there : x.requests[x.responses.length]? = some request) (status : Int) (data : D) :
    InOrder c { x with
      responses := x.responses ++ [{ request.record with status, transactionData := data }]
      wire := x.wire ++ [.response] } := by
  obtain ⟨wire, logged, lines, phase⟩ := h
  have bound := (List.getElem?_eq_some_iff.mp there).1
  cases phase with
  | waiting stands asked kind under =>
    have owed : x.responses.length = x.received := by
      have sent := under.sent
      have least := under.answers.1
      omega
    obtain rfl : asked = request := by
      rw [owed, under.last] at there
      exact Option.some_inj.mp there
    refine ⟨?_, logged, ?_, .waiting stands asked kind ?_⟩
    · rw [under.sent, owed] at wire
      simp only [wire, under.sent, owed, List.length_append, List.length_singleton]
      exact alternating_odd x.received
    · exact fun k a line => (lines k a line).mono List.prefix_rfl (List.prefix_append _ _) le_rfl
    · refine { under with answers := ?_, echoed := ?_ }
      · simp [owed]
      · intro response there
        simp only [← owed, List.getElem?_concat_length, Option.some.injEq] at there
        rw [← there]
  | thinking stands quiet | keying stands quiet | unsent stands quiet | finished stands quiet =>
    exact absurd (quiet.1.trans quiet.2.symm ▸ bound) (lt_irrefl _)

theorem InOrder.step (h : x.InOrder c) {e : RteEvent D} (stepped : x.step c e = some y)
    (arrives : arrives e = true) : y.InOrder c := by
  cases e with
  | keyed now whole =>
    obtain ⟨active, is⟩ := Option.ite_none_right_eq_some.mp stepped
    obtain rfl := Option.some_inj.mp is
    exact h.keyed active now whole
  | thought home threshold data =>
    obtain ⟨active, is⟩ := Option.ite_none_right_eq_some.mp stepped
    obtain rfl := Option.some_inj.mp is
    exact h.thought active home threshold data
  | received now tt draw =>
    obtain ⟨active, taken⟩ := Option.ite_none_right_eq_some.mp stepped
    obtain ⟨record, there, rfl⟩ := Option.map_eq_some_iff.mp taken
    exact h.receive active there now tt draw
  | unreceived => cases arrives
  | answered status data =>
    obtain ⟨request, there, rfl⟩ := Option.map_eq_some_iff.mp stepped
    exact h.answer there status data

theorem InOrder.orderly (h : x.InOrder c) : x.Orderly c := by
  obtain ⟨wire, logged, lines, phase⟩ := h
  refine ⟨?_, ?_, ?_, lines⟩
  · cases phase with
    | thinking stands | keying stands | waiting stands | unsent stands | finished stands =>
      obtain ⟨kt, tt, recvtxn, connected⟩ := stands
      rw [kt, tt, recvtxn, connected]
      decide
  · cases phase with
    | waiting stands request kind asked => exact asked.sent.le
    | thinking stands quiet | keying stands quiet | unsent stands quiet | finished stands quiet =>
      exact quiet.1.le.trans (Nat.le_succ _)
  · rw [wire, alternating_length]

/-- After a receive that got no whole response there is a line for which there was none. -/
theorem InOrder.not_orderly (h : x.InOrder c) {e : RteEvent D} (stepped : x.step c e = some y)
    (fails : arrives e = false) : ¬ y.Orderly c := by
  intro orderly
  cases e with
  | unreceived left now tt draw =>
    obtain ⟨-, is⟩ := Option.ite_none_right_eq_some.mp stepped
    obtain rfl := Option.some_inj.mp is
    obtain ⟨wrote, -, -, received, -⟩ := transactionReceiveCb_wrote (c := c) x left now tt draw
    have answered := orderly.lines x.lines.length _ (wrote ▸ List.getElem?_concat_length)
    have lt := answered.1
    rw [received, h.logged] at lt
    exact lt_irrefl _ lt
  | keyed | thought | received | answered => cases fails

/-- Whatever comes of sends and receives, one event of a terminal is pending until it is done. -/
def OneEvent (x : LoopTerminal D) : Prop :=
  x.Stands true false false true ∨ x.Stands false true false true ∨
    x.Stands false false true true ∨ x.Stands false false false false

theorem OneEvent.step (h : x.OneEvent) {e : RteEvent D} (stepped : x.step c e = some y) :
    y.OneEvent := by
  have keying (active : x.kt.active = true) : x.Stands true false false true := by
    rcases h with stands | stands | stands | stands
    · exact stands
    all_goals exact absurd (stands.1.symm.trans active) Bool.false_ne_true
  have thinking (active : x.tt.active = true) : x.Stands false true false true := by
    rcases h with stands | stands | stands | stands
    · exact absurd (stands.2.1.symm.trans active) Bool.false_ne_true
    · exact stands
    all_goals exact absurd (stands.2.1.symm.trans active) Bool.false_ne_true
  have waiting (active : x.recvtxn = true) : x.Stands false false true true := by
    rcases h with stands | stands | stands | stands
    · exact absurd (stands.2.2.1.symm.trans active) Bool.false_ne_true
    · exact absurd (stands.2.2.1.symm.trans active) Bool.false_ne_true
    · exact stands
    · exact absurd (stands.2.2.1.symm.trans active) Bool.false_ne_true
  cases e with
  | keyed now whole =>
    obtain ⟨active, is⟩ := Option.ite_none_right_eq_some.mp stepped
    obtain rfl := Option.some_inj.mp is
    obtain ⟨-, tt, -, connected⟩ := keying active
    refine .inr (.inr (.inl ?_))
    cases whole <;> exact ⟨rfl, tt, rfl, connected⟩
  | thought home threshold data =>
    obtain ⟨active, is⟩ := Option.ite_none_right_eq_some.mp stepped
    obtain rfl := Option.some_inj.mp is
    obtain ⟨-, -, recvtxn, connected⟩ := thinking active
    unfold thinkingTimeCb
    split <;> exact .inl ⟨rfl, rfl, recvtxn, connected⟩
  | received now tt draw =>
    obtain ⟨active, taken⟩ := Option.ite_none_right_eq_some.mp stepped
    obtain ⟨record, there, rfl⟩ := Option.map_eq_some_iff.mp taken
    obtain ⟨kt, tt', -, connected⟩ := waiting active
    obtain thinks | done := transactionReceiveCb_stands (c := c)
      (x := { x with received := x.received + 1 }) kt tt' connected record now tt draw
    · exact .inr (.inl thinks)
    · exact .inr (.inr (.inr done))
  | unreceived left now tt draw =>
    obtain ⟨active, is⟩ := Option.ite_none_right_eq_some.mp stepped
    obtain rfl := Option.some_inj.mp is
    obtain ⟨kt, tt', -, connected⟩ := waiting active
    obtain thinks | done := transactionReceiveCb_stands (c := c) kt tt' connected left now tt draw
    · exact .inr (.inl thinks)
    · exact .inr (.inr (.inr done))
  | answered status data =>
    obtain ⟨request, there, rfl⟩ := Option.map_eq_some_iff.mp stepped
    exact h

theorem start_inOrder (blank : ClientTransaction D) (home : Int × Int) :
    (start blank home).InOrder c where
  wire := rfl
  logged := rfl
  lines := fun _ _ line => nomatch line
  phase := .thinking ⟨rfl, rfl, rfl, rfl⟩ ⟨rfl, rfl⟩

end LoopTerminal

/-! ## The loop -/

namespace EventLoop

variable {D : Type} (c : LoopSettings)

/-- Events of all terminals come in any order. -/
def step (s : List (LoopTerminal D)) (e : Nat × RteEvent D) : Option (List (LoopTerminal D)) := do
  let x ← s[e.1]?
  let y ← x.step c e.2
  some (s.set e.1 y)

/-- `start_driver` has connected a terminal for each of these homes. -/
def start (blank : ClientTransaction D) (homes : List (Int × Int)) : List (LoopTerminal D) :=
  homes.map (LoopTerminal.start blank)

variable {c} {s s' : List (LoopTerminal D)}

theorem step_terminal {e : Nat × RteEvent D} (stepped : step c s e = some s') :
    ∃ x y, s[e.1]? = some x ∧ x.step c e.2 = some y ∧ s' = s.set e.1 y := by
  obtain ⟨x, here, rest⟩ := Option.bind_eq_some_iff.mp stepped
  obtain ⟨y, moved, is⟩ := Option.bind_eq_some_iff.mp rest
  exact ⟨x, y, here, moved, (Option.some_inj.mp is).symm⟩

/-- All runs, whatever comes of their sends and receives. -/
theorem one_event_of_run {blank : ClientTransaction D} {homes : List (Int × Int)}
    {es : List (Nat × RteEvent D)} (ran : run (step c) (start blank homes) es = some s) :
    ∀ x ∈ s, x.OneEvent := by
  have preserved (s : List (LoopTerminal D)) (e : Nat × RteEvent D) (s' : List (LoopTerminal D))
      (stepped : step c s e = some s') (h : ∀ x ∈ s, x.OneEvent) : ∀ x ∈ s', x.OneEvent := by
    obtain ⟨x, y, here, moved, rfl⟩ := step_terminal stepped
    intro z mem
    obtain there | rfl := List.mem_or_eq_of_mem_set mem
    · exact h z there
    · exact (h x (List.mem_of_getElem? here)).step moved
  refine run_invariant preserved ran fun x mem => ?_
  obtain ⟨home, -, rfl⟩ := List.mem_map.mp mem
  exact .inr (.inl ⟨rfl, rfl, rfl, rfl⟩)

/-- In every state of a run each terminal has just the one event pending that its request calls
for, and accounts for its requests in their order, exactly if every receive of the run gets a
response whole. -/
theorem terminals_orderly_iff {blank : ClientTransaction D} {homes : List (Int × Int)}
    {es : List (Nat × RteEvent D)} (ran : run (step c) (start blank homes) es = some s) :
    (∀ before u, before <+: es → run (step c) (start blank homes) before = some u →
        ∀ x ∈ u, x.Orderly c) ↔
      ∀ e ∈ es, LoopTerminal.arrives e.2 = true := by
  have sound (s : List (LoopTerminal D)) (e : Nat × RteEvent D) (s' : List (LoopTerminal D))
      (stepped : step c s e = some s') (h : ∀ x ∈ s, x.InOrder c)
      (arrives : LoopTerminal.arrives e.2 = true) : ∀ x ∈ s', x.InOrder c := by
    obtain ⟨x, y, here, moved, rfl⟩ := step_terminal stepped
    intro z mem
    obtain there | rfl := List.mem_or_eq_of_mem_set mem
    · exact h z there
    · exact (h x (List.mem_of_getElem? here)).step moved arrives
  have exact_step (s : List (LoopTerminal D)) (e : Nat × RteEvent D) (s' : List (LoopTerminal D))
      (stepped : step c s e = some s') (h : ∀ x ∈ s, x.InOrder c)
      (orderly : ∀ x ∈ s', x.Orderly c) : LoopTerminal.arrives e.2 = true := by
    obtain ⟨x, y, here, moved, rfl⟩ := step_terminal stepped
    by_contra fails
    have mem : y ∈ s.set e.1 y := List.mem_set (List.getElem?_eq_some_iff.mp here).1 y
    exact (h x (List.mem_of_getElem? here)).not_orderly moved (Bool.eq_false_iff.mpr fails)
      (orderly y mem)
  rw [← along_events ran]
  refine along_exact sound exact_step (fun s h x mem => (h x mem).orderly) ran fun x mem => ?_
  obtain ⟨home, -, rfl⟩ := List.mem_map.mp mem
  exact LoopTerminal.start_inOrder blank home

/-- New-Orders only, for ever, without keying or thinking. -/
def settings : LoopSettings where
  mix := { newOrderThreshold := 1 }
  keyTime := ⟨0, 0, 0, 0, 0⟩
  thinkTime := ⟨0, 0, 0, 0, 0⟩
  stopTime := 0
  modeAltered := 0
  wIdMin := 1
  getThinkTime := fun _ mean => mean

def zeros : ClientTransaction Unit := ⟨0, 0, ()⟩

/-- Two terminals; the second keys while the first waits. -/
def twoTerminals : List (Nat × RteEvent Unit) :=
  [(0, .thought (0, 0) 0 ()), (1, .thought (0, 0) 0 ()), (0, .keyed 1 true), (1, .keyed 2 true),
    (1, .answered OK ()), (0, .answered STATUS_ROLLBACK ()), (0, .received 3 3 0),
    (1, .received 4 4 0)]

theorem terminals_orderly_two : ∃ s,
    run (step settings) (start zeros [(1, 1), (1, 2)]) twoTerminals = some s ∧
      ∀ before u, before <+: twoTerminals →
        run (step settings) (start zeros [(1, 1), (1, 2)]) before = some u →
          ∀ x ∈ u, x.Orderly settings :=
  ⟨_, rfl, (terminals_orderly_iff rfl).mpr (by decide)⟩

/-- The client takes a request and closes the socket; the terminal sends the next one. -/
def closedSocket : List (Nat × RteEvent Unit) :=
  [(0, .thought (0, 0) 0 ()), (0, .keyed 1 true), (0, .unreceived ⟨0, 0, ()⟩ 2 2 0),
    (0, .thought (0, 0) 0 ()), (0, .keyed 3 true)]

/-- It has written a line for a request that nobody answered, and has two requests out. -/
theorem terminals_not_orderly : ∃ x,
    run (step settings) (start zeros [(1, 1)]) closedSocket = some [x] ∧
      x.requests.length = 2 ∧ x.responses.length = 0 ∧ x.wire = [.request, .request] ∧
      x.lines.length = 1 ∧ ¬ x.Orderly settings := by
  refine ⟨_, rfl, rfl, rfl, rfl, rfl, fun orderly => ?_⟩
  have most := orderly.outstanding
  exact absurd most (by decide)

end EventLoop

end Dbt2
