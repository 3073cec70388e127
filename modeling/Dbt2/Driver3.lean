import Dbt2.AtMostOnce
import Dbt2.EventLoop
import Dbt2.InputData
import Dbt2.Lib.Tallies

/-!
# The processes of driver3

`driver3.c` has no client between its terminals and the database: a process executes the
transactions of its terminals itself, one after the other, and writes a line about each. All
processes work on one PostgreSQL server, which keeps a journal of what it commits.

* `thinkingTimeCb`, `keyingTimeCb`, `respond`: the callbacks of a terminal, draws included;
* `Process`: a process in its event loop; `World`: all of them, and the server;
* `logs_account`: in every run the lines of a process account for its commits, in their order;
* `loop_drains`: past the stop time each terminal that goes on writes one more line.
-/

namespace Dbt2

open Bookkeeping Draws Transition

namespace Driver3

/-! ## Terminals -/

structure RteEvents where
  kt : EvTimer
  tt : EvTimer
  wId : Int
  dId : Int
  rt0 : ℚ
  rt1 : ℚ
  meanThinkTime : Int
  clientData : ClientTransaction NonspData

structure Settings extends LoopSettings where
  wIdMax : Int
  districts : Int
  card : TableCardinality
  tsRetry : Timespec

/-- The connection has the stop time as its deadline. -/
def Settings.dbc (c : Settings) : DbContext := { stopTime := c.stopTime, tsRetry := c.tsRetry }

/-- A line of the mix log but for the process. -/
structure LogLine where
  tt : Int
  transaction : Int
  code : Char
  responseTime : ℚ
  wId : Int
  dId : Int

/-- Memory set to zero, which is a Delivery, and a timer to think for no time. -/
def RteEvents.start (home : Int × Int) : RteEvents where
  kt := { active := false, after := 0 }
  tt := { active := true, after := 0 }
  wId := home.1
  dId := home.2
  rt0 := 0
  rt1 := 0
  meanThinkTime := 0
  clientData := {
    status := 0, transaction := 0, transactionData := .delivery { wId := 0, oCarrierId := 0 } }

def RteEvents.waits (x : RteEvents) : Bool := x.kt.active || x.tt.active

section Callbacks

variable {σ : Type} [Source σ] (c : Settings) (x : RteEvents)

/-- In altered mode a terminal has a home for one transaction. -/
def home : StateT σ Option (Int × Int) :=
  if c.modeAltered = 1 then do
    let w ← Drawn.getRandom (c.wIdMax - c.wIdMin + 1)
    let d ← Drawn.getRandom c.districts
    pure (c.wIdMin + w, d + 1)
  else pure (x.wId, x.dId)

def inputData (kind : MixType) (wId dId : Int) (data : NonspData) :
    StateT σ Option (Int × NonspData) :=
  if kind = .stockLevel then Drawn.generateInputData2 wId dId
  else Drawn.generateInputData c.card c.modeAltered wId kind.transaction data

/-- Nothing is made of what the generators return. -/
def thinkingTimeCb : StateT σ Option RteEvents := do
  let place ← home c x
  let threshold ← Drawn.getPercentage
  let choice := c.mix.choose c.keyTime c.thinkTime threshold
  let input ← inputData c choice.transaction place.1 place.2 x.clientData.transactionData
  pure { x with
    tt.active := false
    wId := place.1
    dId := place.2
    meanThinkTime := choice.meanThinkTime
    clientData := { x.clientData with
      transaction := choice.transaction.transaction, transactionData := input.2 }
    kt := { active := true, after := choice.keyingTime } }

/-- Up to the call of `process_transaction`. -/
def keyingTimeCb (now : ℚ) : RteEvents := { x with kt.active := false, rt0 := now }

def logLine (tt : Int) : LogLine where
  tt
  transaction := x.clientData.transaction
  code := Driver3.outcome ' ' x.clientData.status
  responseTime := x.rt1 - x.rt0
  wId := x.wId
  dId := x.dId

/-- The rest of `keying_time_cb`, once the call has returned. -/
def respond (status : Int) (now : ℚ) (tt : Int) : StateT σ Option (RteEvents × LogLine) := do
  let x := { x with clientData.status := status, rt1 := now }
  if c.stopTime = 0 ∨ tt < c.stopTime then do
    let draw ← Drawn.getPercentage
    pure ({ x with
      tt := { active := true, after := c.getThinkTime draw x.meanThinkTime / 1000 } }, logLine x tt)
  else pure (x, logLine x tt)

end Callbacks

/-! ## Processes -/

/-- What a process is at: in its loop, or in the callback of a terminal. -/
inductive Doing where
  | waiting
  | calling (k : Nat) (call : Call)
  | returned (k : Nat) (status : Int)
  deriving DecidableEq

structure Process (σ : Type) where
  rng : σ
  terminals : List RteEvents
  doing : Doing
  lines : List LogLine

/-- What becomes of what `process_transaction` asks for. -/
inductive Answer where
  | executed (rc flag : Int)
  | commit (outcome : CommitOutcome)
  | rollback (outcome : RollbackOutcome)
  | disconnect (rc : Int)
  | connect (rc : Int)
  | time (tt : Int)
  | sleep (result : Nanosleep)

/-- The same for a server of which only the commits are of interest. -/
def Answer.action : Answer → Action Unit
  | executed rc flag => if rc = OK then .execute () flag else .executeFailed rc flag none
  | commit outcome => .commit outcome
  | rollback outcome => .rollback outcome
  | disconnect rc => .disconnect rc
  | connect rc => .connect rc
  | time tt => .time tt
  | sleep result => .sleep result

inductive Input where
  | thought (k : Nat)
  | keyed (k : Nat) (now : ℚ)
  | answered (a : Answer)
  | responded (now : ℚ) (tt : Int)

namespace Process

variable {σ : Type} [Source σ] (c : Settings) (m : Process σ)

def start (rng : σ) (homes : List (Int × Int)) : Process σ where
  rng
  terminals := homes.map RteEvents.start
  doing := .waiting
  lines := []

/-- The loop calls back for a timer that is active, and only between two callbacks. -/
def step (i : Input) : Option (Process σ) :=
  match m.doing, i with
  | .waiting, .thought k => (m.terminals[k]?).bind fun x =>
    if x.tt.active then
      (thinkingTimeCb c x m.rng).map fun p =>
        { m with rng := p.2, terminals := m.terminals.set k p.1 }
    else none
  | .waiting, .keyed k now => (m.terminals[k]?).bind fun x =>
    if x.kt.active then
      some { m with
        terminals := m.terminals.set k (keyingTimeCb x now)
        doing := .calling k (Call.start x.clientData.transaction) }
    else none
  | .calling k call, .answered a => (call.step c.dbc a.action.event).map fun call =>
    match call.pc with
    | .returned status => { m with doing := .returned k status }
    | _ => { m with doing := .calling k call }
  | .returned k status, .responded now tt => (m.terminals[k]?).bind fun x =>
    (respond c x status now tt m.rng).map fun p =>
      { rng := p.2, terminals := m.terminals.set k p.1.1, doing := .waiting
        lines := m.lines ++ [p.1.2] }
  | _, _ => none

/-- The data of the call that the process is in. -/
def asked : Option NonspData :=
  match m.doing with
  | .calling k _ => (m.terminals[k]?).map fun x => x.clientData.transactionData
  | _ => none

/-- `ev_run` returns when nothing of this is left. -/
def live : Nat :=
  m.terminals.countP RteEvents.waits +
    match m.doing with
    | .waiting => 0
    | _ => 1

end Process

/-! ## The server -/

/-- What the server commits, and whether the process hears of it. -/
structure Commit where
  process : Nat
  data : NonspData
  acknowledged : Bool

/-- What an answer adds to the journal. -/
def Answer.commits (p : Nat) (data : NonspData) : Answer → List Commit
  | .commit .acknowledged => [{ process := p, data, acknowledged := true }]
  | .commit .replyLost => [{ process := p, data, acknowledged := false }]
  | _ => []

structure World (σ S : Type) where
  db : S
  journal : List Commit
  processes : List (Process σ)

/-- What committing transactions one after the other makes of a database. -/
def commitAll {S : Type} (effect : NonspData → S → Option S) (cs : List Commit) (db : S) :
    Option S := cs.foldlM (fun db k => effect k.data db) db

namespace World

variable {σ S : Type} [Source σ] (c : Settings) (effect : NonspData → S → Option S)

def start (db : S) (starts : List (σ × List (Int × Int))) : World σ S where
  db
  journal := []
  processes := starts.map fun s => Process.start s.1 s.2

/-- What an input of process `p` commits. -/
def commits (p : Nat) (m : Process σ) : Input → List Commit
  | .answered a => m.asked.elim [] fun data => a.commits p data
  | _ => []

/-- An input of one of the processes. A transaction that is committed takes effect as a whole. -/
def step (w : World σ S) (e : Nat × Input) : Option (World σ S) :=
  (w.processes[e.1]?).bind fun m =>
    (m.step c e.2).bind fun m' =>
      (commitAll effect (commits e.1 m e.2) w.db).map fun db =>
        { db, journal := w.journal ++ commits e.1 m e.2, processes := w.processes.set e.1 m' }

end World

end Driver3

/-- The warehouse at which the inputs are asked for. -/
def NonspData.home : NonspData → Int
  | integrity wId => wId
  | delivery data => data.wId
  | newOrder data => data.wId
  | orderStatus data => data.cWId
  | payment data => data.wId
  | stockLevel data => data.wId

/-! ## What is generated -/

namespace Drawn

variable {σ : Type} [Source σ] {card : TableCardinality} {modeAltered wId : Int}

theorem generateNewOrderData_home :
    Emits (generateNewOrderData card modeAltered wId : StateT σ Option NewOrderData)
      fun data => data.wId = wId := by
  have order : Emits (generateOrder card modeAltered wId : StateT σ Option NewOrderData)
      fun data => data.wId = wId :=
    (Emits.trivial _).bind fun _ _ => (Emits.trivial _).bind fun _ _ =>
      (Emits.trivial _).bind fun _ _ => (Emits.trivial _).bind fun _ _ => Emits.pure rfl
  refine order.bind fun data same => (Emits.trivial _).bind fun r _ => Emits.pure ?_
  split
  · exact same
  · exact same

/-- The data are of the type asked for, and of the terminal's warehouse. -/
theorem generateInputData_home (kind : MixType) (other : kind ≠ .stockLevel) (data : NonspData) :
    Emits (generateInputData card modeAltered wId kind.transaction data :
      StateT σ Option (Int × NonspData)) fun p =>
        p.2.transaction = kind.transaction ∧ p.2.home = wId := by
  cases kind with
  | newOrder => exact generateNewOrderData_home.bind fun _ same => Emits.pure ⟨rfl, same⟩
  | payment =>
    have drawn : Emits (generatePaymentData card modeAltered wId : StateT σ Option PaymentData)
        fun data => data.wId = wId :=
      (Emits.trivial _).bind fun _ _ => (Emits.trivial _).bind fun _ _ =>
        (Emits.trivial _).bind fun _ _ => (Emits.trivial _).bind fun _ _ => Emits.pure rfl
    exact drawn.bind fun _ same => Emits.pure ⟨rfl, same⟩
  | orderStatus =>
    have drawn : Emits (generateOrderStatusData wId : StateT σ Option OrderStatusData)
        fun data => data.cWId = wId :=
      (Emits.trivial _).bind fun _ _ => (Emits.trivial _).bind fun _ _ => Emits.pure rfl
    exact drawn.bind fun _ same => Emits.pure ⟨rfl, same⟩
  | delivery =>
    have drawn : Emits (generateDeliveryData wId : StateT σ Option DeliveryData)
        fun data => data.wId = wId := (Emits.trivial _).bind fun _ _ => Emits.pure rfl
    exact drawn.bind fun _ same => Emits.pure ⟨rfl, same⟩
  | stockLevel => exact absurd rfl other

theorem generateInputData2_home (dId : Int) :
    Emits (generateInputData2 wId dId : StateT σ Option (Int × NonspData)) fun p =>
      p.2.transaction = STOCK_LEVEL ∧ p.2.home = wId := by
  have drawn : Emits (generateStockLevelData wId dId : StateT σ Option StockLevelData)
      fun data => data.wId = wId := (Emits.trivial _).bind fun _ _ => Emits.pure rfl
  exact drawn.bind fun _ same => Emits.pure ⟨rfl, same⟩

end Drawn

namespace Driver3

/-- The record of a terminal is for a transaction at its warehouse. -/
structure RteEvents.Ready (x : RteEvents) : Prop where
  type : x.clientData.transactionData.transaction = x.clientData.transaction
  home : x.clientData.transactionData.home = x.wId

theorem inputData_emits {σ : Type} [Source σ] (c : Settings) (kind : MixType) (wId dId : Int)
    (data : NonspData) :
    Emits (inputData c kind wId dId data : StateT σ Option (Int × NonspData)) fun p =>
      p.2.transaction = kind.transaction ∧ p.2.home = wId := by
  unfold inputData
  split
  case isTrue is =>
    subst is
    exact Drawn.generateInputData2_home dId
  case isFalse other => exact Drawn.generateInputData_home kind other data

theorem thinkingTimeCb_emits {σ : Type} [Source σ] (c : Settings) (x : RteEvents) :
    Emits (thinkingTimeCb c x : StateT σ Option RteEvents) fun y =>
      y.kt.active = true ∧ y.tt.active = false ∧ y.Ready :=
  (Emits.trivial _).bind fun _ _ => (Emits.trivial _).bind fun _ _ =>
    (inputData_emits c _ _ _ _).bind fun _ chosen => Emits.pure ⟨rfl, rfl, chosen.1, chosen.2⟩

/-- The line is about the status; the terminal then thinks, or it is done for good. -/
theorem respond_emits {σ : Type} [Source σ] (c : Settings) (x : RteEvents) (status : Int) (now : ℚ)
    (tt : Int) :
    Emits (respond c x status now tt : StateT σ Option (RteEvents × LogLine)) fun p =>
      p.2 = logLine { x with clientData.status := status, rt1 := now } tt ∧
        p.1.kt = x.kt ∧
        (p.1.tt.active = true ∧ (c.stopTime = 0 ∨ tt < c.stopTime) ∨ p.1.tt = x.tt ∧
          ¬ (c.stopTime = 0 ∨ tt < c.stopTime)) := by
  unfold respond
  dsimp only
  split
  case isTrue goesOn =>
    exact (Emits.trivial _).bind fun _ _ => Emits.pure ⟨rfl, rfl, .inl ⟨rfl, goesOn⟩⟩
  case isFalse stops => exact Emits.pure ⟨rfl, rfl, .inr ⟨rfl, stops⟩⟩

/-! ## What a call commits -/

/-- So many commits unheard of, and one that was acknowledged. -/
def commitsOf (p : Nat) (data : NonspData) (lost : Nat) (done : Bool) : List Commit :=
  List.replicate lost { process := p, data, acknowledged := false } ++
    if done then [{ process := p, data, acknowledged := true }] else []

/-- The commits of a call so far. -/
def Made (p : Nat) (data : NonspData) (call : Call) (cs : List Commit) : Prop :=
  ∃ s : Server Unit, Counted (fun _ _ => True) () call s ∧
    cs = commitsOf p data s.replyLost (call.pc = .returned OK)

variable {p : Nat} {data : NonspData} {dbc : DbContext} {call call' : Call} {cs : List Commit}

theorem Made.start (p : Nat) (data : NonspData) (transaction : Int) :
    Made p data (Call.start transaction) [] := by
  have counted := Counted.start (fun _ _ => True) () transaction
  have replies := counted.replies
  refine ⟨{ db := () }, counted, ?_⟩
  have running : (Call.start transaction).pc ≠ .returned OK := by
    intro ok
    rw [if_pos ok] at replies
    exact absurd replies (by decide)
  simp [commitsOf, running]

theorem Answer.allowed (a : Answer) (s : Server Unit) :
    s.allowed (fun _ _ => True) a.action := by
  cases a with
  | executed rc flag =>
    by_cases ok : rc = OK
    · simp [Answer.action, ok, Server.allowed]
    · simp [Answer.action, ok, Server.allowed]
  | commit | rollback | disconnect | connect | time | sleep => trivial

theorem Answer.after_frame (a : Answer) (s : Server Unit) (other : ∀ outcome, a ≠ .commit outcome) :
    (s.after a.action).applied = s.applied ∧ (s.after a.action).replyLost = s.replyLost := by
  have apart (outcome : CommitOutcome) : a.action ≠ .commit outcome := by
    cases a with
    | executed rc flag => by_cases ok : rc = OK <;> simp [Answer.action, ok]
    | commit outcome => exact absurd rfl (other outcome)
    | rollback | disconnect | connect | time | sleep => nofun
  exact (s.after_frame a.action apart).2

theorem running_of_step {e : Event} (stepped : call.step dbc e = some call') (status : Int) :
    call.pc ≠ .returned status := by
  intro returned
  simp [Call.step, returned] at stepped

theorem Made.step (h : Made p data call cs) {a : Answer}
    (stepped : call.step dbc a.action.event = some call') :
    Made p data call' (cs ++ a.commits p data) := by
  obtain ⟨s, counted, rfl⟩ := h
  have running := running_of_step stepped OK
  have next := counted.step stepped (a.allowed s)
  have before := counted.replies
  have after := next.replies
  rw [if_neg running] at before
  refine ⟨s.after a.action, next, ?_⟩
  -- All that was applied before is accounted for, so the step shows in the two counters.
  have frame (same : (s.after a.action).applied = s.applied)
      (lost : (s.after a.action).replyLost = s.replyLost) :
      commitsOf p data s.replyLost false =
        commitsOf p data (s.after a.action).replyLost (call'.pc = .returned OK) := by
    have goesOn : call'.pc ≠ .returned OK := by
      intro ok
      rw [if_pos ok] at after
      omega
    simp [goesOn, lost]
  simp only [running, decide_false]
  cases a with
  | commit outcome =>
    cases outcome with
    | acknowledged =>
      have ok : call'.pc = .returned OK := by
        by_contra goesOn
        rw [if_neg goesOn] at after
        simp [Answer.action, Server.after, Server.apply] at after
        omega
      simp [ok, commitsOf, Answer.commits, Answer.action, Server.after, Server.apply]
    | replyLost =>
      have goesOn : call'.pc ≠ .returned OK := by
        intro ok
        rw [if_pos ok] at after
        simp [Answer.action, Server.after, Server.apply] at after
        omega
      simp [goesOn, commitsOf, Answer.commits, Answer.action, Server.after, Server.apply,
        List.replicate_succ']
    | lost | refused =>
      simp only [Answer.commits, List.append_nil]
      exact frame rfl rfl
  | executed | rollback | disconnect | connect | time | sleep =>
    simp only [Answer.commits, List.append_nil]
    exact frame (Answer.after_frame _ s (by simp)).1 (Answer.after_frame _ s (by simp)).2

/-! ## What a line is about -/

/-- All commits of a call are of the transaction in the line. The last is acknowledged if the line
has a `C`; before it there may be one whose reply was lost, and two without a `C`. -/
structure About (l : LogLine) (cs : List Commit) : Prop where
  data : ∃ data : NonspData, data.transaction = l.transaction ∧ data.home = l.wId ∧
    ∀ k ∈ cs, k.data = data
  heard : ∃ lost, cs.map Commit.acknowledged = List.replicate lost false ++
    if l.code = 'C' then [true] else []
  twice : cs.length ≤ 2

theorem commitsOf_data (lost : Nat) (done : Bool) :
    ∀ k ∈ commitsOf p data lost done, k.data = data := by
  intro k mem
  obtain many | last := List.mem_append.mp mem
  · rw [List.eq_of_mem_replicate many]
  · cases done with
    | true => rw [List.mem_singleton.mp last]
    | false => cases last

theorem commitsOf_heard (lost : Nat) (done : Bool) :
    (commitsOf p data lost done).map Commit.acknowledged =
      List.replicate lost false ++ if done then [true] else [] := by
  cases done <;> simp [commitsOf]

theorem commitsOf_length (lost : Nat) (done : Bool) :
    (commitsOf p data lost done).length = lost + if done then 1 else 0 := by
  cases done <;> simp [commitsOf]

theorem outcome_eq_C (code : Char) (status : Int) :
    Driver3.outcome code status = 'C' ↔ status = OK := by
  unfold Driver3.outcome Driver2.outcome
  split
  · simp [*]
  · split
    · simp [*, OK, STATUS_ROLLBACK]
    · split
      · simp [*, OK, ERROR]
      · simp [*]

theorem Made.length_le (made : Made p data call cs) : cs.length ≤ 2 := by
  obtain ⟨s, counted, rfl⟩ := made
  have bound := counted.bound.2
  rw [counted.replies] at bound
  rw [commitsOf_length, if_congr decide_eq_true_iff rfl rfl]
  exact bound

theorem Made.about {x : RteEvents} (ready : x.Ready) {status : Int}
    (made : Made p x.clientData.transactionData call cs) (returned : call.pc = .returned status)
    (now : ℚ) (tt : Int) :
    About (logLine { x with clientData.status := status, rt1 := now } tt) cs := by
  have few := made.length_le
  obtain ⟨s, counted, rfl⟩ := made
  have code : (logLine { x with clientData.status := status, rt1 := now } tt).code = 'C' ↔
      call.pc = .returned OK := by
    rw [returned, Pc.returned.injEq]
    exact outcome_eq_C ' ' status
  refine ⟨⟨x.clientData.transactionData, ready.type, ready.home, commitsOf_data _ _⟩,
    ⟨s.replyLost, ?_⟩, few⟩
  rw [commitsOf_heard, if_congr decide_eq_true_iff rfl rfl, if_congr code rfl rfl]

/-! ## The books of a process -/

namespace Process

variable {σ : Type} {c : Settings} {m m' : Process σ}

/-- The terminal of the call, at rest, and what has no line yet. -/
def Calling (p : Nat) (m : Process σ) (k : Nat) (call : Call) (rest : List Commit) : Prop :=
  ∃ x, m.terminals[k]? = some x ∧ (x.kt.active = false ∧ x.tt.active = false) ∧ x.Ready ∧
    Made p x.clientData.transactionData call rest

def Owes (p : Nat) (m : Process σ) (rest : List Commit) : Prop :=
  match m.doing with
  | .waiting => rest = []
  | .calling k call => m.Calling p k call rest
  | .returned k status => ∃ call, m.Calling p k call rest ∧ call.pc = .returned status

/-- A terminal has at most one timer, and a record while it is keying. -/
def Timed (x : RteEvents) : Prop :=
  (x.kt.active = false ∨ x.tt.active = false) ∧ (x.kt.active = true → x.Ready)

structure Booked (p : Nat) (m : Process σ) (cs : List Commit) : Prop where
  timed : ∀ x ∈ m.terminals, Timed x
  tallies : ∃ rest, Tallies About m.lines cs rest ∧ m.Owes p rest

theorem Booked.start (p : Nat) (rng : σ) (homes : List (Int × Int)) :
    (Process.start rng homes).Booked p [] := by
  refine ⟨fun x mem => ?_, [], .start, rfl⟩
  obtain ⟨home, -, rfl⟩ := List.mem_map.mp mem
  exact ⟨.inl rfl, nofun⟩

theorem Owes.length_le {rest : List Commit} (h : m.Owes p rest) : rest.length ≤ 2 := by
  unfold Owes at h
  split at h
  · simp [h]
  · obtain ⟨x, -, -, -, made⟩ := h
    exact made.length_le
  · obtain ⟨call, ⟨x, -, -, -, made⟩, -⟩ := h
    exact made.length_le

theorem timed_set {terminals : List RteEvents} (timed : ∀ x ∈ terminals, Timed x) {y : RteEvents}
    (new : Timed y) (k : Nat) : ∀ x ∈ terminals.set k y, Timed x := by
  intro x mem
  obtain old | rfl := List.mem_or_eq_of_mem_set mem
  · exact timed x old
  · exact new

theorem getElem?_set_of_some {terminals : List RteEvents} {k : Nat} {x : RteEvents}
    (there : terminals[k]? = some x) (y : RteEvents) : (terminals.set k y)[k]? = some y := by
  obtain ⟨inside, -⟩ := List.getElem?_eq_some_iff.mp there
  exact List.getElem?_set_self inside

variable [Source σ]

/-- What a process can do at an input. -/
inductive Step (c : Settings) (m : Process σ) : Input → Process σ → Prop
  | thought {k : Nat} {x y : RteEvents} {rng : σ} (at' : m.doing = .waiting)
      (there : m.terminals[k]? = some x) (active : x.tt.active = true)
      (drawn : thinkingTimeCb c x m.rng = some (y, rng)) :
      Step c m (.thought k) { m with rng, terminals := m.terminals.set k y }
  | keyed {k : Nat} {x : RteEvents} {now : ℚ} (at' : m.doing = .waiting)
      (there : m.terminals[k]? = some x) (active : x.kt.active = true) :
      Step c m (.keyed k now) { m with
        terminals := m.terminals.set k (keyingTimeCb x now)
        doing := .calling k (Call.start x.clientData.transaction) }
  | answered {k : Nat} {call call' : Call} {a : Answer} (at' : m.doing = .calling k call)
      (went : call.step c.dbc a.action.event = some call') (doing : Doing)
      (next : doing = .calling k call' ∨
        ∃ status, call'.pc = .returned status ∧ doing = .returned k status) :
      Step c m (.answered a) { m with doing }
  | responded {k : Nat} {status : Int} {x y : RteEvents} {now : ℚ} {tt : Int} {l : LogLine}
      {rng : σ} (at' : m.doing = .returned k status) (there : m.terminals[k]? = some x)
      (drawn : respond c x status now tt m.rng = some ((y, l), rng)) :
      Step c m (.responded now tt)
        { rng, terminals := m.terminals.set k y, doing := .waiting, lines := m.lines ++ [l] }

theorem step_cases {i : Input} (stepped : m.step c i = some m') : Step c m i m' := by
  unfold step at stepped
  split at stepped
  case h_1 k at' =>
    obtain ⟨x, there, stepped⟩ := Option.bind_eq_some_iff.mp stepped
    split at stepped
    case isTrue active =>
      obtain ⟨⟨y, rng⟩, drawn, rfl⟩ := Option.map_eq_some_iff.mp stepped
      exact .thought at' there active drawn
    case isFalse => cases stepped
  case h_2 k now at' =>
    obtain ⟨x, there, stepped⟩ := Option.bind_eq_some_iff.mp stepped
    split at stepped
    case isTrue active =>
      obtain rfl := Option.some.inj stepped
      exact .keyed at' there active
    case isFalse => cases stepped
  case h_3 k call a at' =>
    obtain ⟨call', went, same⟩ := Option.map_eq_some_iff.mp stepped
    split at same
    case h_1 status returned =>
      obtain rfl := same
      exact .answered at' went _ (.inr ⟨status, returned, rfl⟩)
    case h_2 =>
      obtain rfl := same
      exact .answered at' went _ (.inl rfl)
  case h_4 k status now tt at' =>
    obtain ⟨x, there, stepped⟩ := Option.bind_eq_some_iff.mp stepped
    obtain ⟨⟨⟨y, l⟩, rng⟩, drawn, rfl⟩ := Option.map_eq_some_iff.mp stepped
    exact .responded at' there drawn
  case h_5 => cases stepped

theorem Booked.step (h : m.Booked p cs) {i : Input} (stepped : m.step c i = some m') :
    m'.Booked p (cs ++ World.commits p m i) := by
  obtain ⟨timed, rest, tallies, owes⟩ := h
  cases step_cases stepped with
  | thought at' there active drawn =>
    obtain ⟨kt, tt, ready⟩ := thinkingTimeCb_emits c _ _ _ _ drawn
    rw [Owes, at'] at owes
    simp only [World.commits, List.append_nil]
    refine ⟨timed_set timed ⟨.inr tt, fun _ => ready⟩ _, rest, tallies, ?_⟩
    rwa [Owes, at']
  | keyed at' there active =>
    obtain ⟨alone, ready⟩ := timed _ (List.mem_of_getElem? there)
    have tt := alone.resolve_left (by simp [active])
    rw [Owes, at'] at owes
    subst owes
    simp only [World.commits, List.append_nil]
    refine ⟨timed_set timed ⟨.inl rfl, fun again => absurd again (by simp [keyingTimeCb])⟩ _, [],
      tallies, ?_⟩
    exact ⟨_, getElem?_set_of_some there _, ⟨rfl, tt⟩, ⟨(ready active).type, (ready active).home⟩,
      Made.start _ _ _⟩
  | answered at' went doing next =>
    rw [Owes, at'] at owes
    obtain ⟨x, there, resting, ready, made⟩ := owes
    have asked : m.asked = some x.clientData.transactionData := by
      simp [Process.asked, at', there]
    simp only [World.commits, asked, Option.elim_some]
    refine ⟨timed, _, tallies.record _, ?_⟩
    obtain rfl | ⟨status, returned, rfl⟩ := next
    · exact ⟨x, there, resting, ready, made.step went⟩
    · exact ⟨_, ⟨x, there, resting, ready, made.step went⟩, returned⟩
  | responded at' there drawn =>
    rw [Owes, at'] at owes
    obtain ⟨call, ⟨x, there', resting, ready, made⟩, returned⟩ := owes
    obtain rfl := Option.some.inj (there'.symm.trans there)
    obtain ⟨rfl, kt, -⟩ := respond_emits c x _ _ _ _ _ _ drawn
    simp only [World.commits, List.append_nil]
    have idle : _ = false := (congrArg EvTimer.active kt).trans resting.1
    refine ⟨timed_set timed ⟨.inl idle, fun active => ?_⟩ _, [],
      tallies.enter (made.about ready returned _ _), rfl⟩
    exact absurd (idle.symm.trans active) Bool.false_ne_true

end Process

/-! ## The books of all processes -/

section Worlds

variable {σ S : Type} {c : Settings} {effect : NonspData → S → Option S} {db : S}
  {starts : List (σ × List (Int × Int))} {es : List (Nat × Input)} {w w' : World σ S}

/-- What the journal holds of one process. -/
def World.journalOf (w : World σ S) (p : Nat) : List Commit :=
  w.journal.filter fun k => k.process = p

structure World.Booked (effect : NonspData → S → Option S) (db : S) (w : World σ S) : Prop where
  replayed : commitAll effect w.journal db = some w.db
  owned : ∀ k ∈ w.journal, k.process < w.processes.length
  books : ∀ (p : Nat) (m : Process σ), w.processes[p]? = some m → m.Booked p (w.journalOf p)

theorem commits_process (p : Nat) (m : Process σ) (i : Input) :
    ∀ k ∈ World.commits p m i, k.process = p := by
  intro k mem
  cases i with
  | answered a =>
    cases asked : m.asked with
    | none => simp [World.commits, asked] at mem
    | some data =>
      simp only [World.commits, asked, Option.elim_some] at mem
      cases a with
      | commit outcome =>
        cases outcome with
        | acknowledged | replyLost => rw [List.mem_singleton.mp mem]
        | lost | refused => cases mem
      | executed | rollback | disconnect | connect | time | sleep => cases mem
  | thought | keyed | responded => cases mem

theorem commitAll_append (cs ds : List Commit) (db : S) :
    commitAll effect (cs ++ ds) db = (commitAll effect cs db).bind (commitAll effect ds) :=
  List.foldlM_append ..

theorem World.Booked.start : (World.start db starts : World σ S).Booked effect db := by
  refine ⟨rfl, nofun, fun p m there => ?_⟩
  obtain ⟨s, -, rfl⟩ := List.getElem?_map .. ▸ there |> Option.map_eq_some_iff.mp
  exact Process.Booked.start p s.1 s.2

variable [Source σ]

/-- An input of one process, and what the others keep. -/
theorem World.step_cases {e : Nat × Input} (stepped : w.step c effect e = some w') :
    ∃ m m', w.processes[e.1]? = some m ∧ m.step c e.2 = some m' ∧
      commitAll effect (World.commits e.1 m e.2) w.db = some w'.db ∧
      w'.journal = w.journal ++ World.commits e.1 m e.2 ∧
      w'.processes = w.processes.set e.1 m' := by
  obtain ⟨m, there, stepped⟩ := Option.bind_eq_some_iff.mp stepped
  obtain ⟨m', went, stepped⟩ := Option.bind_eq_some_iff.mp stepped
  obtain ⟨db, done, rfl⟩ := Option.map_eq_some_iff.mp stepped
  exact ⟨m, m', there, went, done, rfl, rfl⟩

theorem World.Booked.step (h : w.Booked effect db) {e : Nat × Input}
    (stepped : w.step c effect e = some w') : w'.Booked effect db := by
  obtain ⟨m, m', there, went, done, journal, processes⟩ := World.step_cases stepped
  have mine := commits_process e.1 m e.2
  have inside : e.1 < w.processes.length := (List.getElem?_eq_some_iff.mp there).1
  refine ⟨?_, ?_, ?_⟩
  · rw [journal, commitAll_append, h.replayed, Option.bind_some, done]
  · rw [journal, processes, List.length_set]
    intro k mem
    obtain old | new := List.mem_append.mp mem
    · exact h.owned k old
    · rw [mine k new]
      exact inside
  · intro p n found
    rw [processes] at found
    rw [World.journalOf, journal, List.filter_append]
    by_cases same : p = e.1
    · subst same
      rw [List.getElem?_set_self inside] at found
      obtain rfl := Option.some.inj found
      rw [List.filter_eq_self.mpr fun k mem => decide_eq_true (mine k mem)]
      exact (h.books _ m there).step went
    · rw [List.getElem?_set_ne (Ne.symm same)] at found
      have none' : (World.commits e.1 m e.2).filter (fun k => k.process = p) = [] :=
        List.filter_eq_nil_iff.mpr fun k mem is =>
          same ((of_decide_eq_true is).symm.trans (mine k mem))
      rw [none', List.append_nil]
      exact h.books p n found

theorem World.Booked.run (ran : run (World.step c effect) (World.start db starts) es = some w) :
    w.Booked effect db :=
  run_invariant (fun _ _ _ stepped h => h.step stepped) ran .start

/-- In every run, however the inputs of the processes interleave: the database is what the journal
makes of it, every commit is of a process, and the lines of a process account for its commits, in
their order. Without a line are only the commits of the call that is under way. -/
theorem logs_account (ran : run (World.step c effect) (World.start db starts) es = some w) :
    commitAll effect w.journal db = some w.db ∧
    (∀ k ∈ w.journal, k.process < w.processes.length) ∧
    ∀ (p : Nat) (m : Process σ), w.processes[p]? = some m →
      ∃ rest, Tallies About m.lines (w.journalOf p) rest ∧
        rest.length ≤ 2 ∧ (m.doing = .waiting → rest = []) := by
  have booked := World.Booked.run ran
  refine ⟨booked.replayed, booked.owned, fun p m there => ?_⟩
  obtain ⟨rest, tallies, owes⟩ := (booked.books p m there).tallies
  refine ⟨rest, tallies, owes.length_le, fun waiting => ?_⟩
  rwa [Process.Owes, waiting] at owes

/-- One terminal, which draws Payments only. -/
def paymentSettings : Settings where
  mix := { paymentThreshold := 1 }
  keyTime := { delivery := 2, newOrder := 18, orderStatus := 2, payment := 3, stockLevel := 2 }
  thinkTime := {
    delivery := 5000, newOrder := 12000, orderStatus := 10000, payment := 12000
    stockLevel := 5000 }
  stopTime := 10
  modeAltered := 0
  wIdMin := 1
  getThinkTime := fun _ mean => mean
  wIdMax := 1
  districts := 10
  card := {}
  tsRetry := { tvSec := 0, tvNsec := 0 }

def oneTerminal : List (Stream' (BitVec 64) × List (Int × Int)) := [(Stream'.const 0, [(1, 1)])]

/-- The reply to the first COMMIT is lost, the second one is acknowledged after the stop time. -/
def lostReplyRun : List (Nat × Input) :=
  [.thought 0, .keyed 0 3, .answered (.executed OK 0), .answered (.commit .replyLost),
    .answered (.disconnect OK), .answered (.time 4), .answered (.time 4), .answered (.connect OK),
    .answered (.executed OK 0), .answered (.commit .acknowledged), .responded 5 12].map fun i =>
      (0, i)

theorem logs_account_lostReply : ∃ w : World (Stream' (BitVec 64)) Nat,
    run (World.step paymentSettings fun _ n => some (n + 1)) (World.start 0 oneTerminal)
      lostReplyRun = some w ∧ w.db = 2 ∧
    ∀ (p : Nat) (m : Process (Stream' (BitVec 64))), w.processes[p]? = some m →
      ∃ rest, Tallies About m.lines (w.journalOf p) rest := by
  have accepted : ((run (World.step paymentSettings fun _ n => some (n + 1))
      (World.start 0 oneTerminal) lostReplyRun).any fun w => w.db = 2) = true := by
    decide +kernel
  obtain ⟨w, ran, two⟩ := Option.any_eq_true .. |>.mp accepted
  refine ⟨w, ran, of_decide_eq_true two, fun p m there => ?_⟩
  obtain ⟨rest, tallies, -⟩ := (logs_account ran).2.2 p m there
  exact ⟨rest, tallies⟩

/-! ## The end of the loop -/

/-- A line of the time when terminals stop. -/
def Settings.isLate (c : Settings) (l : LogLine) : Bool := c.stopTime ≠ 0 ∧ c.stopTime ≤ l.tt

theorem Settings.isLate_iff (c : Settings) {l : LogLine} :
    c.isLate l = true ↔ c.stopTime ≠ 0 ∧ c.stopTime ≤ l.tt := decide_eq_true_iff

/-- Each terminal goes on or has written its late line. -/
def Process.Drains (c : Settings) (m : Process σ) (n : Nat) : Prop :=
  m.terminals.length = n ∧ m.live + m.lines.countP c.isLate = n

theorem countP_waits_set {terminals : List RteEvents} {k : Nat} {x : RteEvents}
    (there : terminals[k]? = some x) (y : RteEvents) :
    (terminals.set k y).countP RteEvents.waits + (if x.waits then 1 else 0) =
      terminals.countP RteEvents.waits + if y.waits then 1 else 0 := by
  obtain ⟨inside, rfl⟩ := List.getElem?_eq_some_iff.mp there
  rw [List.countP_set inside]
  by_cases waits : terminals[k].waits
  · have some' := List.countP_pos_iff.mpr ⟨_, List.getElem_mem inside, waits⟩
    simp only [waits, if_true]
    omega
  · simp [waits]

/-- A step moves a terminal to its next timer, or into the call, or out of it with a line. -/
theorem Process.Drains.step {m m' : Process σ} {n p : Nat} {cs : List Commit}
    (h : m.Drains c n) (booked : m.Booked p cs) {i : Input} (stepped : m.step c i = some m') :
    m'.Drains c n := by
  obtain ⟨terminals, total⟩ := h
  obtain ⟨timed, rest, -, owes⟩ := booked
  cases Process.step_cases stepped with
  | @thought k x y rng at' there active drawn =>
    obtain ⟨kt, -, -⟩ := thinkingTimeCb_emits c x _ _ _ drawn
    have before : x.waits = true := by simp [RteEvents.waits, active]
    have after : y.waits = true := by simp [RteEvents.waits, kt]
    have moved := countP_waits_set there y
    rw [before, after] at moved
    refine ⟨by simpa using terminals, ?_⟩
    simp only [Process.live] at total ⊢
    omega
  | @keyed k x now at' there active =>
    obtain ⟨alone, -⟩ := timed x (List.mem_of_getElem? there)
    have tt := alone.resolve_left (by simp [active])
    have before : x.waits = true := by simp [RteEvents.waits, active]
    have after : (keyingTimeCb x now).waits = false := by
      simp [RteEvents.waits, keyingTimeCb, tt]
    have moved := countP_waits_set there (keyingTimeCb x now)
    rw [before, after, if_pos rfl, if_neg Bool.false_ne_true] at moved
    refine ⟨by simpa using terminals, ?_⟩
    simp only [Process.live, at'] at total ⊢
    omega
  | answered at' went doing next =>
    refine ⟨terminals, ?_⟩
    simp only [Process.live, at'] at total
    obtain rfl | ⟨status, -, rfl⟩ := next
    · exact total
    · exact total
  | @responded k status x y now tt l rng at' there drawn =>
    rw [Process.Owes, at'] at owes
    obtain ⟨call, ⟨x', there', resting, -, -⟩, -⟩ := owes
    obtain rfl := Option.some.inj (there'.symm.trans there)
    obtain ⟨rfl, kt, next⟩ := respond_emits c x' status now tt _ _ _ drawn
    have before : x'.waits = false := by simp [RteEvents.waits, resting]
    have moved := countP_waits_set there y
    rw [before, if_neg Bool.false_ne_true] at moved
    refine ⟨by simpa using terminals, ?_⟩
    simp only [Process.live, at', List.countP_append, List.countP_singleton] at total ⊢
    obtain ⟨active, goesOn⟩ | ⟨same, stops⟩ := next
    · have after : y.waits = true := by
        rw [RteEvents.waits, show y.tt.active = true from active, Bool.or_true]
      have early : ¬ (c.stopTime ≠ 0 ∧ c.stopTime ≤ tt) := by omega
      rw [after, if_pos rfl] at moved
      rw [if_neg (mt c.isLate_iff.mp early)]
      omega
    · have after : y.waits = false := by
        rw [RteEvents.waits, show y.kt = x'.kt from kt, show y.tt = x'.tt from same]
        exact before
      have late : c.stopTime ≠ 0 ∧ c.stopTime ≤ tt := by omega
      rw [after, if_neg Bool.false_ne_true] at moved
      rw [if_pos (c.isLate_iff.mpr late)]
      omega

theorem World.drains (ran : run (World.step c effect) (World.start db starts) es = some w) :
    ∀ (p : Nat) (m : Process σ), w.processes[p]? = some m →
      ∃ s, starts[p]? = some s ∧ m.Drains c s.2.length := by
  have start : ∀ (p : Nat) (m : Process σ), (World.start db starts).processes[p]? = some m →
      ∃ s, starts[p]? = some s ∧ m.Drains c s.2.length := by
    intro p m there
    obtain ⟨s, here, rfl⟩ := List.getElem?_map .. ▸ there |> Option.map_eq_some_iff.mp
    have all : (s.2.map RteEvents.start).countP RteEvents.waits = s.2.length := by
      rw [List.countP_map, List.countP_eq_length]
      exact fun _ _ => rfl
    exact ⟨s, here, List.length_map .., all⟩
  have preserved : ∀ w e w', World.step c effect w e = some w' →
      (w.Booked effect db ∧ ∀ (p : Nat) (m : Process σ), w.processes[p]? = some m →
        ∃ s, starts[p]? = some s ∧ m.Drains c s.2.length) →
      w'.Booked effect db ∧ ∀ (p : Nat) (m : Process σ), w'.processes[p]? = some m →
        ∃ s, starts[p]? = some s ∧ m.Drains c s.2.length := by
    rintro w e w' stepped ⟨booked, drains⟩
    refine ⟨booked.step stepped, fun p n found => ?_⟩
    obtain ⟨m, m', there, went, -, -, processes⟩ := World.step_cases stepped
    have inside : e.1 < w.processes.length := (List.getElem?_eq_some_iff.mp there).1
    rw [processes] at found
    by_cases same : p = e.1
    · subst same
      rw [List.getElem?_set_self inside] at found
      obtain rfl := Option.some.inj found
      obtain ⟨s, here, before⟩ := drains _ m there
      exact ⟨s, here, before.step (booked.books _ m there) went⟩
    · rw [List.getElem?_set_ne (Ne.symm same)] at found
      exact drains p n found
  exact (run_invariant preserved ran ⟨.start, start⟩).2

/-- In every run: no terminal of a process has both timers running, and those that go on and those
that wrote a line at the stop time or later are all of them. So the loop is left when each terminal
has written one such line, and without a stop time never. -/
theorem loop_drains (ran : run (World.step c effect) (World.start db starts) es = some w) (p : Nat)
    (m : Process σ) (there : w.processes[p]? = some m) :
    (∀ x ∈ m.terminals, x.kt.active = false ∨ x.tt.active = false) ∧
      ∃ s, starts[p]? = some s ∧ m.terminals.length = s.2.length ∧
        m.live + m.lines.countP c.isLate = s.2.length := by
  have booked := (World.Booked.run ran).books p m there
  exact ⟨fun x mem => (booked.timed x mem).1, World.drains ran p m there⟩

theorem loop_drains_lostReply : ∃ (w : World (Stream' (BitVec 64)) Nat)
    (m : Process (Stream' (BitVec 64))),
    run (World.step paymentSettings fun _ n => some (n + 1)) (World.start 0 oneTerminal)
      lostReplyRun = some w ∧ w.processes[0]? = some m ∧
    m.live + m.lines.countP paymentSettings.isLate = 1 := by
  have accepted : ((run (World.step paymentSettings fun _ n => some (n + 1))
      (World.start 0 oneTerminal) lostReplyRun).any fun w => w.processes[0]?.isSome) = true := by
    decide +kernel
  obtain ⟨w, ran, some'⟩ := Option.any_eq_true .. |>.mp accepted
  obtain ⟨m, there⟩ := Option.isSome_iff_exists.mp some'
  obtain ⟨-, s, here, -, total⟩ := loop_drains ran 0 m there
  obtain rfl : (Stream'.const 0, [(1, 1)]) = s := Option.some.inj here
  exact ⟨w, m, ran, there, total⟩

end Worlds

end Driver3

end Dbt2
