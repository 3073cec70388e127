import Dbt2.TransactionMix
import Dbt2.Lib.Threads
import Dbt2.Lib.Transition

/-!
# Terminal states

The terminals of `driver.c` and the table `terminal_state` of how many of them key, execute and
think. A terminal moves itself from one count to the next as it goes round its loop, but the
statements for `KEYING`, and the one that counts a terminal as executing, are in comments.

* `TerminalStates.step`: one terminal's step from one statement of its loop to another;
* `Counts`: what the table says after any run;
* `counters_exact_iff`: it is right for as long as no terminal keys.
-/

namespace Dbt2

open Threads Transition

/-- The first index of `terminal_state`. -/
inductive TerminalPhase where
  | executing
  | keying
  | thinking
  deriving DecidableEq

/-- A point in the loop of `terminal_worker`. -/
inductive TerminalPoint where
  | connecting
  | choosing
  /-- The input is generated, and the time is to be looked at before keying. -/
  | generated
  | keying
  | sending
  | receiving
  | logging
  | uncountingExecuting
  | countingThinking
  | thinking
  | uncountingThinking
  | repeating
  | ended
  deriving DecidableEq

/-- A terminal with the type in its `client_data`. -/
structure TerminalThread where
  point : TerminalPoint
  transaction : Int

inductive TerminalInput where
  | run
  | failed
  /-- What `get_percentage` returns. -/
  | threshold (q : ℚ)
  /-- What `time` returns. -/
  | time (tt : Int)
  /-- The type in the record after a receive, however that went. -/
  | received (transaction : Int)

structure TerminalStates where
  terminalState : TerminalPhase → Int → Int
  terminals : List TerminalThread
  /-- The types in the lines of the mix log. -/
  mixLog : List Int

/-- The phase that a terminal is in. -/
def TerminalPoint.phase : TerminalPoint → Option TerminalPhase
  | .keying => some .keying
  | .sending | .receiving | .logging | .uncountingExecuting => some .executing
  | .thinking | .uncountingThinking => some .thinking
  | _ => none

def TerminalThread.isIn (phase : TerminalPhase) (t : Int) (x : TerminalThread) : Bool :=
  decide (x.point.phase = some phase ∧ x.transaction = t)

/-- A terminal that has logged a transaction which is still to be taken off the count. -/
def TerminalThread.uncounts (t : Int) (x : TerminalThread) : Bool :=
  decide (x.point = .uncountingExecuting ∧ x.transaction = t)

/-- A terminal that has not begun to key, or will not. -/
def TerminalPoint.rests : TerminalPoint → Bool
  | .connecting | .choosing | .generated | .ended => true
  | _ => false

namespace TerminalStates

def count (counter : TerminalPhase → Int → Int) (phase : TerminalPhase) (t by' : Int) :
    TerminalPhase → Int → Int :=
  Function.update counter phase (Function.update (counter phase) t (counter phase t + by'))

variable (mix : TransactionMix) (keyTime thinkTime : TypeTimes) (stopTime : Int)

/-- One terminal's step, with the table and the log. Sending and receiving go on whatever comes of
them, and so does a sleep. -/
def stepTerminal (s : TerminalStates) (x : TerminalThread) :
    TerminalInput → Option (TerminalStates × TerminalThread) := fun input =>
  match x.point, input with
  | .connecting, .run => some (s, { x with point := .choosing })
  | .connecting, .failed => some (s, { x with point := .ended })
  | .choosing, .threshold q =>
    some (s, { point := .generated
               transaction := (mix.choose keyTime thinkTime q).transaction.transaction })
  | .generated, .time tt =>
    some (s, { x with point := if tt < stopTime then .keying else .ended })
  | .keying, .run => some (s, { x with point := .sending })
  | .sending, .run => some (s, { x with point := .receiving })
  | .receiving, .received transaction => some (s, { point := .logging, transaction })
  | .logging, .run =>
    some ({ s with mixLog := x.transaction :: s.mixLog }, { x with point := .uncountingExecuting })
  | .uncountingExecuting, .run =>
    some ({ s with terminalState := count s.terminalState .executing x.transaction (-1) },
      { x with point := .countingThinking })
  | .countingThinking, .run =>
    some ({ s with terminalState := count s.terminalState .thinking x.transaction 1 },
      { x with point := .thinking })
  | .thinking, .time _ => some (s, { x with point := .uncountingThinking })
  | .uncountingThinking, .run =>
    some ({ s with terminalState := count s.terminalState .thinking x.transaction (-1) },
      { x with point := .repeating })
  | .repeating, .time tt =>
    some (s, { x with point := if tt < stopTime then .choosing else .ended })
  | _, _ => none

def step (s : TerminalStates) (e : Nat × TerminalInput) : Option TerminalStates := do
  let x ← s.terminals[e.1]?
  let (s', x') ← s.stepTerminal mix keyTime thinkTime stopTime x e.2
  some { s' with terminals := s.terminals.set e.1 x' }

/-- `n` terminals whose threads have just been created. -/
def start (n : Nat) : TerminalStates where
  terminalState := fun _ _ => 0
  terminals := List.replicate n { point := .connecting, transaction := 0 }
  mixLog := []

/-- No terminal is between the two updates that move it from one count to another. -/
def settled (s : TerminalStates) : Bool :=
  s.terminals.all fun x => x.point != .countingThinking

structure Exact (s : TerminalStates) : Prop where
  nonneg : ∀ phase t, 0 ≤ s.terminalState phase t
  counts : s.settled = true → ∀ phase t,
    s.terminalState phase t = s.terminals.countP (TerminalThread.isIn phase t)

/-- What the table says of each type: who thinks is counted, who keys is not, and who executes is
only ever taken off. -/
structure Counts (s : TerminalStates) : Prop where
  thinking : ∀ t, s.terminalState .thinking t =
    s.terminals.countP (TerminalThread.isIn .thinking t)
  keying : ∀ t, s.terminalState .keying t = 0
  executing : ∀ t, s.terminalState .executing t =
    (s.terminals.countP (TerminalThread.uncounts t) : Int) - s.mixLog.count t

/-- The step does not begin to key. -/
def idles (s : TerminalStates) (e : Nat × TerminalInput) : Bool :=
  match s.terminals[e.1]?, e.2 with
  | some x, .time tt => !(x.point == .generated && tt < stopTime)
  | _, _ => true

variable {mix : TransactionMix} {keyTime thinkTime : TypeTimes} {stopTime : Int}
  {s s' : TerminalStates}

theorem count_eq (counter : TerminalPhase → Int → Int) (phase phase' : TerminalPhase)
    (t t' by' : Int) : count counter phase t by' phase' t' =
      counter phase' t' + if phase' = phase ∧ t' = t then by' else 0 := by
  by_cases same : phase' = phase
  · subst same
    by_cases same' : t' = t
    · subst same'
      simp [count]
    · simp [count, same']
  · simp [count, same]

/-- What a step adds to a count, it adds to what is counted. -/
theorem stepTerminal_counts {x x' : TerminalThread} {input : TerminalInput}
    (stepped : s.stepTerminal mix keyTime thinkTime stopTime x input = some (s', x')) (t : Int) :
    s'.terminalState .thinking t + (x.isIn .thinking t).toNat =
        s.terminalState .thinking t + (x'.isIn .thinking t).toNat ∧
      s'.terminalState .keying t = s.terminalState .keying t ∧
      s'.terminalState .executing t + (x.uncounts t).toNat + s'.mixLog.count t =
        s.terminalState .executing t + (x'.uncounts t).toNat + s.mixLog.count t := by
  obtain ⟨point, transaction⟩ := x
  unfold stepTerminal at stepped
  split at stepped
  all_goals rename_i here
  all_goals cases stepped
  all_goals obtain rfl : point = _ := here
  case h_4 x tt =>
    by_cases early : tt < stopTime <;>
      simp [TerminalThread.isIn, TerminalThread.uncounts, TerminalPoint.phase, early]
  case h_8 =>
    by_cases same : transaction = t <;>
      simp [TerminalThread.isIn, TerminalThread.uncounts, TerminalPoint.phase, same]
    omega
  case h_9 | h_10 | h_12 =>
    by_cases same : t = transaction <;>
      simp [TerminalThread.isIn, TerminalThread.uncounts, TerminalPoint.phase, count_eq, same,
        eq_comm (a := transaction)]
  case h_13 x tt =>
    by_cases early : tt < stopTime <;>
      simp [TerminalThread.isIn, TerminalThread.uncounts, TerminalPoint.phase, early]
  all_goals simp [TerminalThread.isIn, TerminalThread.uncounts, TerminalPoint.phase]

theorem step_terminal {e : Nat × TerminalInput}
    (stepped : s.step mix keyTime thinkTime stopTime e = some s') :
    ∃ x s₁ x', s.terminals[e.1]? = some x ∧
      s.stepTerminal mix keyTime thinkTime stopTime x e.2 = some (s₁, x') ∧
      s' = { s₁ with terminals := s.terminals.set e.1 x' } := by
  obtain ⟨x, here, rest⟩ := Option.bind_eq_some_iff.mp stepped
  obtain ⟨⟨s₁, x'⟩, moved, is⟩ := Option.bind_eq_some_iff.mp rest
  exact ⟨x, s₁, x', here, moved, (Option.some_inj.mp is).symm⟩

theorem Counts.step (h : Counts s) {e : Nat × TerminalInput}
    (stepped : s.step mix keyTime thinkTime stopTime e = some s') : Counts s' := by
  obtain ⟨x, s₁, x', here, moved, rfl⟩ := step_terminal stepped
  constructor
  · intro t
    have turn := countP_turn (TerminalThread.isIn .thinking t) here x'
    have before := h.thinking t
    obtain ⟨added, -, -⟩ := stepTerminal_counts moved t
    simp only
    omega
  · intro t
    exact (stepTerminal_counts moved t).2.1.trans (h.keying t)
  · intro t
    have turn := countP_turn (TerminalThread.uncounts t) here x'
    have before := h.executing t
    obtain ⟨-, -, added⟩ := stepTerminal_counts moved t
    simp only
    omega

theorem start_counts (n : Nat) : Counts (start n) := by
  constructor
  · intro t
    simp [start, List.countP_replicate, TerminalThread.isIn, TerminalPoint.phase]
  · exact fun _ => rfl
  · intro t
    simp [start, List.countP_replicate, TerminalThread.uncounts]

/-- The counters of all runs: `executing` is off by one for each transaction logged. -/
theorem counts_of_run {n : Nat} {es : List (Nat × TerminalInput)}
    (ran : run (step mix keyTime thinkTime stopTime) (start n) es = some s) : Counts s :=
  run_invariant (fun _ _ _ stepped h => Counts.step h stepped) ran (start_counts n)

/-- No terminal has begun to key. -/
structure Resting (s : TerminalStates) : Prop where
  counts : Counts s
  rests : ∀ x ∈ s.terminals, x.point.rests = true
  unlogged : s.mixLog = []

theorem TerminalPoint.rests_phase {point : TerminalPoint} (rests : point.rests = true) :
    point.phase = none ∧ point ≠ .uncountingExecuting ∧ point ≠ .countingThinking := by
  cases point <;> cases rests <;> decide

theorem Resting.exact (h : Resting s) : Exact s := by
  have outside (phase : TerminalPhase) (t : Int) :
      s.terminals.countP (TerminalThread.isIn phase t) = 0 :=
    List.countP_eq_zero.mpr fun x mem => by
      simp [TerminalThread.isIn, (TerminalPoint.rests_phase (h.rests x mem)).1]
  have counted (t : Int) : s.terminals.countP (TerminalThread.uncounts t) = 0 :=
    List.countP_eq_zero.mpr fun x mem => by
      simp [TerminalThread.uncounts, (TerminalPoint.rests_phase (h.rests x mem)).2.1]
  have zero (phase : TerminalPhase) (t : Int) : s.terminalState phase t = 0 := by
    cases phase with
    | executing => rw [h.counts.executing, counted, h.unlogged]; rfl
    | keying => exact h.counts.keying t
    | thinking => rw [h.counts.thinking, outside]; rfl
  constructor
  · intro phase t
    rw [zero]
  · intro _ phase t
    rw [zero, outside]
    rfl

/-- From where no terminal has begun to key, one step leads to a terminal that keys, or none. -/
theorem Resting.step (h : Resting s) {e : Nat × TerminalInput}
    (stepped : s.step mix keyTime thinkTime stopTime e = some s') :
    (idles stopTime s e = true ∧ Resting s') ∨
      (idles stopTime s e = false ∧ s'.settled = true ∧
        ∃ t, 0 < s'.terminals.countP (TerminalThread.isIn .keying t)) := by
  have next := h.counts.step stepped
  obtain ⟨x, s₁, x', here, moved, rfl⟩ := step_terminal stepped
  have rested := h.rests x (List.mem_of_getElem? here)
  have others : ∀ y ∈ s.terminals.set e.1 x', y = x' ∨ y.point.rests = true := by
    intro y mem
    obtain there | rfl := List.mem_or_eq_of_mem_set mem
    · exact .inr (h.rests y there)
    · exact .inl rfl
  have mem' : x' ∈ s.terminals.set e.1 x' :=
    List.mem_set (List.getElem?_eq_some_iff.mp here).1 x'
  have resting (same : s₁.mixLog = s.mixLog) (rests : x'.point.rests = true) :
      Resting { s₁ with terminals := s.terminals.set e.1 x' } := by
    refine ⟨next, fun y mem => ?_, same.trans h.unlogged⟩
    obtain rfl | there := others y mem
    · exact rests
    · exact there
  obtain ⟨i, input⟩ := e
  obtain ⟨point, transaction⟩ := x
  cases point with
  | connecting =>
    cases input with
    | run | failed =>
      cases moved
      exact .inl ⟨by simp [idles], resting rfl rfl⟩
    | _ => cases moved
  | choosing =>
    cases input with
    | threshold q =>
      cases moved
      exact .inl ⟨by simp [idles], resting rfl rfl⟩
    | _ => cases moved
  | generated =>
    cases input with
    | time tt =>
      cases moved
      by_cases early : tt < stopTime
      · refine .inr ⟨by simp [idles, here, early], ?_, transaction, ?_⟩
        · refine List.all_eq_true.mpr fun y mem => ?_
          obtain rfl | there := others y mem
          · simp [early]
          · simpa using (TerminalPoint.rests_phase there).2.2
        · refine List.countP_pos_iff.mpr ⟨_, mem', ?_⟩
          simp [TerminalThread.isIn, TerminalPoint.phase, early]
      · refine .inl ⟨by simp [idles, here, early], resting rfl ?_⟩
        simp [early, TerminalPoint.rests]
    | _ => cases moved
  | ended => cases moved
  | _ => cases rested

/-- All states of a run have counters that are never negative and, when settled, right, exactly if
no terminal in it begins to key. -/
theorem counters_exact_iff {n : Nat} {es : List (Nat × TerminalInput)}
    (ran : run (step mix keyTime thinkTime stopTime) (start n) es = some s) :
    (∀ before u, before <+: es →
        run (step mix keyTime thinkTime stopTime) (start n) before = some u → Exact u) ↔
      Along (step mix keyTime thinkTime stopTime) (idles stopTime) (start n) es = true := by
  have sound (s : TerminalStates) (e : Nat × TerminalInput) (s' : TerminalStates)
      (stepped : s.step mix keyTime thinkTime stopTime e = some s') (h : Resting s)
      (idle : idles stopTime s e = true) : Resting s' := by
    obtain ⟨-, next⟩ | ⟨keys, -⟩ := h.step stepped
    · exact next
    · rw [idle] at keys
      cases keys
  refine along_exact sound ?_ (fun s h => h.exact) ran ?_
  · intro s e s' stepped h exact'
    obtain ⟨idle, -⟩ | ⟨-, settled, t, some'⟩ := h.step stepped
    · exact idle
    · have counted := exact'.counts settled .keying t
      rw [(h.counts.step stepped).keying] at counted
      omega
  · refine ⟨start_counts n, fun x mem => ?_, rfl⟩
    rw [List.eq_of_mem_replicate mem]
    rfl

/-- All transactions are New-Orders. -/
def newOrders : TransactionMix := { newOrderThreshold := 1 }

def noTimes : TypeTimes :=
  { delivery := 0, newOrder := 0, orderStatus := 0, payment := 0, stockLevel := 0 }

/-- A terminal that starts late. -/
def late : List (Nat × TerminalInput) := [(0, .run), (0, .threshold 0), (0, .time 200)]

theorem counters_exact_late : ∃ s,
    run (step newOrders noTimes noTimes 100) (start 1) late = some s ∧
      ∀ before u, before <+: late →
        run (step newOrders noTimes noTimes 100) (start 1) before = some u → Exact u :=
  ⟨_, rfl, (counters_exact_iff rfl).mpr rfl⟩

/-- A terminal that keys and executes one New-Order. -/
def oneNewOrder : List (Nat × TerminalInput) :=
  [(0, .run), (0, .threshold 0), (0, .time 0), (0, .run), (0, .run), (0, .received NEW_ORDER),
    (0, .run), (0, .run), (0, .run)]

/-- The terminal thinks, and minus one terminals execute a New-Order. -/
theorem counters_not_exact : ∃ s,
    run (step newOrders noTimes noTimes 100) (start 1) oneNewOrder = some s ∧
      s.settled = true ∧ s.terminalState .executing NEW_ORDER = -1 ∧
      s.terminals.countP (TerminalThread.isIn .executing NEW_ORDER) = 0 ∧
      s.terminalState .thinking NEW_ORDER = 1 ∧ ¬ Exact s := by
  refine ⟨_, rfl, rfl, rfl, rfl, rfl, fun exact' => ?_⟩
  have nonneg := exact'.nonneg .executing NEW_ORDER
  exact absurd nonneg (by decide)

end TerminalStates

end Dbt2
