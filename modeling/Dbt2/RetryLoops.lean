import Dbt2.ProcessTransaction
import Dbt2.Lib.Waiting

/-!
# Retry loops

Whether `connect_to_db` and `process_transaction` come back when the database does not. The delay
between two attempts comes from an option that nobody checks, split into seconds and nanoseconds;
`nanosleep` refuses a negative one, and both functions then ask it again, for ever.

* `splitDelay`: what the driver makes of `-retry-delay`;
* `Nanosleep.Obeys`: what `nanosleep` does with a `timespec`, on a clock in nanoseconds;
* `retries_end_iff`: a call returns if the delay is not negative or it never gets to sleep.
-/

namespace Dbt2

open Waiting

/-- `ts_retry`, from an option in milliseconds. -/
def splitDelay (retryDelay : Int) : Timespec where
  tvSec := retryDelay.tdiv 1000
  tvNsec := retryDelay.tmod 1000 * 1000000

namespace Timespec

def ns (ts : Timespec) : Int := ts.tvSec * 1000000000 + ts.tvNsec

/-- What `nanosleep` takes for an interval of time. -/
def Valid (ts : Timespec) : Prop := 0 ≤ ts.tvSec ∧ 0 ≤ ts.tvNsec ∧ ts.tvNsec < 1000000000

end Timespec

/-- A call of `nanosleep` lasts for the interval or until a signal arrives, with what is left then
in `rem`. It fails at once for what is no interval. -/
def Nanosleep.Obeys (ts : Timespec) (start stop : Int) : Nanosleep → Prop
  | .done => ts.Valid ∧ ts.ns ≤ stop - start
  | .interrupted rem => ts.Valid ∧ rem.Valid ∧ rem.ns = ts.ns - (stop - start)
  | .failed => ¬ ts.Valid

/-- How the environment answers between two times of the clock. -/
def Connect.Answered (start stop : Int) : Connect → Event → Prop
  | .deadline, .time tt => tt = start / 1000000000
  | .sleeping ts, .slept result => result.Obeys ts start stop
  | _, _ => True

def Call.Answered (start stop : Int) (c : Call) (e : Event) : Prop :=
  match c.pc, e with
  | .deadline, .time tt => tt = start / 1000000000
  | .sleeping ts, .slept result => result.Obeys ts start stop
  | .connecting conn, e => conn.Answered start stop e
  | _, _ => True

def Connect.over' (c : Connect) : Prop := ∃ rc, c = .returned rc

def Call.over' (c : Call) : Prop := ∃ status, c.pc = .returned status

/-- The interval that is being slept. -/
def Connect.sleeps : Connect → Option Timespec
  | .sleeping ts => some ts
  | _ => none

def Call.sleeps (c : Call) : Option Timespec :=
  match c.pc with
  | .sleeping ts => some ts
  | .connecting conn => conn.sleeps
  | _ => none

theorem splitDelay_valid_iff (retryDelay : Int) :
    (splitDelay retryDelay).Valid ↔ 0 ≤ retryDelay := by
  simp only [Timespec.Valid, splitDelay]
  obtain ⟨n, rfl | rfl⟩ := Int.eq_nat_or_neg retryDelay
  · rw [Int.tdiv_eq_ediv_of_nonneg (Int.natCast_nonneg n),
      Int.tmod_eq_emod_of_nonneg (Int.natCast_nonneg n)]
    omega
  · rw [Int.neg_tdiv, Int.neg_tmod, Int.tdiv_eq_ediv_of_nonneg (Int.natCast_nonneg n),
      Int.tmod_eq_emod_of_nonneg (Int.natCast_nonneg n)]
    omega

/-! ## Machines that sleep -/

/-- What is left of the sleep, in nanoseconds. -/
def left (sleeps : Option Timespec) : Int := (sleeps.map Timespec.ns).getD 0

section

variable {σ : Type} {dbc : DbContext} {step : σ → Event → Option σ}
  {answered : Int → Int → σ → Event → Prop} {over' : σ → Prop} {sleeps : σ → Option Timespec}
  {rank : σ → ℕ}

/-- A machine that sleeps for `ts_retry`, and for what is left of it. After the deadline it comes
nearer to its end with each step but those in its sleep. -/
structure Retries (dbc : DbContext) (step : σ → Event → Option σ)
    (answered : Int → Int → σ → Event → Prop) (over' : σ → Prop) (sleeps : σ → Option Timespec)
    (rank : σ → ℕ) : Prop where
  rank_zero : ∀ s, rank s = 0 ↔ over' s
  awake : ∀ s, over' s → sleeps s = none
  ended : ∀ s e s', over' s → step s e ≠ some s'
  intervals : ∀ s e s' start stop rest, step s e = some s' → answered start stop s e →
    sleeps s' = some rest →
      rest = dbc.tsRetry ∨ ∃ slept, sleeps s = some slept ∧ (rest.Valid ↔ slept.Valid)
  refused : ∀ s e s' start stop slept, step s e = some s' → answered start stop s e →
    sleeps s = some slept → ¬ slept.Valid → sleeps s' = some slept
  falls : ∀ s e s' start stop, step s e = some s' → answered start stop s e →
    dbc.expired (start / 1000000000) = true → (∀ slept, sleeps s = some slept → slept.Valid) →
      rank s' < rank s ∨
        rank s' = rank s ∧ 0 ≤ left (sleeps s') ∧ left (sleeps s') + stop ≤ left (sleeps s) + start

theorem eventually_expired {clock : ℕ → ℤ} (advances : Clock clock) (deadline : dbc.stopTime ≠ 0) :
    ∃ k, ∀ j, k ≤ j → dbc.expired (clock j / 1000000000) = true := by
  obtain ⟨k, late⟩ := advances.passes ((dbc.stopTime + 1) * 1000000000)
  refine ⟨k, fun j after => ?_⟩
  have later := advances.monotone after
  simp only [DbContext.expired, decide_eq_true_eq]
  exact ⟨deadline, by omega⟩

/-- Its run ends if the interval is one, or if it never sleeps. -/
theorem Retries.ends_iff (m : Retries dbc step answered over' sleeps rank) {clock : ℕ → ℤ}
    (advances : Clock clock) (deadline : dbc.stopTime ≠ 0) {c : ℕ → σ} {e : ℕ → Event}
    (exec : Execution step (fun k => answered (clock k) (clock (k + 1))) over' c e)
    (start : sleeps (c 0) = none) :
    (∃ k, over' (c k)) ↔ dbc.tsRetry.Valid ∨ ∀ k, sleeps (c k) = none := by
  have intervals (k : ℕ) : ∀ slept, sleeps (c k) = some slept →
      (slept.Valid ↔ dbc.tsRetry.Valid) := by
    have awake : ∀ slept, sleeps (c 0) = some slept → (slept.Valid ↔ dbc.tsRetry.Valid) := by
      simp [start]
    refine exec.invariant (fun s => ∀ slept, sleeps s = some slept →
      (slept.Valid ↔ dbc.tsRetry.Valid)) (fun k ih stepped answered' rest sleeping => ?_) awake
      (Nat.zero_le k)
    obtain rfl | ⟨slept, before, same⟩ := m.intervals _ _ _ _ _ rest stepped answered' sleeping
    · exact Iff.rfl
    · exact same.trans (ih slept before)
  constructor
  · rintro ⟨k, ends⟩
    by_contra neither
    obtain ⟨invalid, sometimes⟩ := not_or.mp neither
    obtain ⟨j, asleep⟩ := not_forall.mp sometimes
    obtain ⟨slept, here⟩ := Option.ne_none_iff_exists'.mp asleep
    have refused : ¬ slept.Valid := fun valid => invalid ((intervals j slept here).mp valid)
    -- neither the sleep nor the end is ever left, so the later of `j` and `k` is in both
    have sleeping := exec.invariant (fun s => sleeps s = some slept)
      (fun k same stepped answered' => m.refused _ _ _ _ _ slept stepped answered' same refused)
      here (le_max_left j k)
    have ended := exec.invariant over'
      (fun k is stepped _ => absurd stepped (m.ended _ _ _ is)) ends (le_max_right j k)
    rw [m.awake _ ended] at sleeping
    cases sleeping
  · intro well
    obtain ⟨k, late⟩ := eventually_expired advances deadline
    obtain ⟨j, ends⟩ := reaches advances (c := c) rank (fun s => left (sleeps s)) k
      fun j after running => by
        obtain ⟨is, -⟩ | ⟨-, stepped, answered'⟩ := exec j
        · exact absurd ((m.rank_zero _).mpr is) running
        · refine m.falls _ _ _ _ _ stepped answered' (late j after) fun slept here => ?_
          obtain valid | never := well
          · exact (intervals j slept here).mpr valid
          · rw [never j] at here
            cases here
    exact ⟨j, (m.rank_zero _).mp ends⟩

end

/-! ## The two functions -/

def Connect.rank : Connect → ℕ
  | .returned _ => 0
  | .deadline => 1
  | .sleeping _ => 2
  | .connecting => 3

def Call.rank (c : Call) : ℕ :=
  match c.pc with
  | .returned _ => 0
  | .deadline => 1
  | .sleeping _ | .disconnecting => 2
  | .committing | .rollingBack => 3
  | .executing => 4
  | .connecting conn => 2 + conn.rank

/-- An interval is slept to its end, whatever interrupts it; what is none is asked for again. -/
theorem sleepAgain_spec {ts : Timespec} {start stop : Int} {result : Nanosleep}
    (obeys : result.Obeys ts start stop) :
    (¬ ts.Valid → sleepAgain ts result = some ts) ∧
      ∀ rest, sleepAgain ts result = some rest → (rest.Valid ↔ ts.Valid) ∧
        (ts.Valid → 0 ≤ rest.ns ∧ rest.ns + stop ≤ ts.ns + start) := by
  cases result with
  | done =>
    refine ⟨fun invalid => absurd obeys.1 invalid, fun rest again => ?_⟩
    cases again
  | interrupted rem =>
    obtain ⟨valid, valid', remains⟩ := obeys
    refine ⟨fun invalid => absurd valid invalid, fun rest again => ?_⟩
    cases again
    refine ⟨iff_of_true valid' valid, fun _ => ?_⟩
    obtain ⟨sec, nsec, -⟩ := valid'
    have nonneg : 0 ≤ rem.ns := by
      simp only [Timespec.ns]
      omega
    omega
  | failed =>
    refine ⟨fun _ => rfl, fun rest again => ?_⟩
    cases again
    exact ⟨Iff.rfl, fun valid => absurd valid obeys⟩

variable {dbc : DbContext}

theorem Connect.step_cases {c c' : Connect} {e : Event} (stepped : c.step dbc e = some c') :
    (∃ tt, c = .deadline ∧ e = .time tt ∧
        c' = if dbc.expired tt then .returned ERROR else .connecting) ∨
      (∃ rc, c = .connecting ∧ e = .connected rc ∧
        c' = if rc = OK then .returned OK else .sleeping dbc.tsRetry) ∨
      ∃ ts result, c = .sleeping ts ∧ e = .slept result ∧
        ((sleepAgain ts result = none ∧ c' = .deadline) ∨
          ∃ rest, sleepAgain ts result = some rest ∧ c' = .sleeping rest) := by
  unfold Connect.step at stepped
  split at stepped
  case h_1 tt =>
    cases stepped
    exact .inl ⟨tt, rfl, rfl, rfl⟩
  case h_2 rc =>
    cases stepped
    exact .inr (.inl ⟨rc, rfl, rfl, rfl⟩)
  case h_3 ts result =>
    cases stepped
    refine .inr (.inr ⟨ts, result, rfl, rfl, ?_⟩)
    cases again : sleepAgain ts result with
    | none => exact .inl ⟨rfl, rfl⟩
    | some rest => exact .inr ⟨rest, rfl, rfl⟩
  case h_4 => cases stepped

theorem connect_retries :
    Retries dbc (Connect.step dbc) (fun start stop => Connect.Answered start stop) Connect.over'
      Connect.sleeps Connect.rank := by
  constructor
  · intro c
    cases c <;> simp [Connect.rank, Connect.over']
  · rintro _ ⟨rc, rfl⟩
    rfl
  · rintro _ e c' ⟨rc, rfl⟩ stepped
    cases stepped
  · intro c e c' start stop rest stepped answered sleeping
    obtain ⟨tt, rfl, rfl, rfl⟩ | ⟨rc, rfl, rfl, rfl⟩ | ⟨ts, result, rfl, rfl, next⟩ :=
      Connect.step_cases stepped
    · split at sleeping <;> cases sleeping
    · split at sleeping <;> cases sleeping
      exact .inl rfl
    · obtain ⟨-, rfl⟩ | ⟨rest', again, rfl⟩ := next
      · cases sleeping
      · cases sleeping
        exact .inr ⟨ts, rfl, ((sleepAgain_spec answered).2 rest again).1⟩
  · intro c e c' start stop slept stepped answered sleeping invalid
    obtain ⟨tt, rfl, rfl, rfl⟩ | ⟨rc, rfl, rfl, rfl⟩ | ⟨ts, result, rfl, rfl, next⟩ :=
      Connect.step_cases stepped
    · cases sleeping
    · cases sleeping
    · cases sleeping
      rw [(sleepAgain_spec answered).1 invalid] at next
      obtain ⟨none', -⟩ | ⟨rest, again, rfl⟩ := next
      · cases none'
      · cases again
        rfl
  · intro c e c' start stop stepped answered late valid
    obtain ⟨tt, rfl, rfl, rfl⟩ | ⟨rc, rfl, rfl, rfl⟩ | ⟨ts, result, rfl, rfl, next⟩ :=
      Connect.step_cases stepped
    · obtain rfl : tt = _ := answered
      rw [if_pos late]
      exact .inl (by decide)
    · refine .inl ?_
      split <;> simp [Connect.rank]
    · obtain ⟨-, rfl⟩ | ⟨rest, again, rfl⟩ := next
      · exact .inl (by simp [Connect.rank])
      · exact .inr ⟨rfl, ((sleepAgain_spec answered).2 rest again).2 (valid ts rfl)⟩

/-- A step of a call is a step to work that takes no sleep, a step of `connect_to_db` or a sleep. -/
theorem Call.step_sleeps {c c' : Call} {e : Event} (stepped : c.step dbc e = some c') :
    (c.sleeps = none ∧ c'.sleeps = none ∧ (c'.rank < c.rank ∨
        ∃ tt, c.pc = .deadline ∧ e = .time tt ∧ dbc.expired tt = false)) ∨
      (∃ conn conn', c.pc = .connecting conn ∧ conn.step dbc e = some conn' ∧
        (c'.pc = .connecting conn' ∨ c'.sleeps = none ∧ conn' = .returned OK ∧ c'.rank ≤ 4 ∨
          ∃ rc, c'.pc = .sleeping dbc.tsRetry ∧ conn' = .returned rc)) ∨
      ∃ ts result, c.pc = .sleeping ts ∧ e = .slept result ∧
        ((sleepAgain ts result = none ∧ c'.pc = .deadline) ∨
          ∃ rest, sleepAgain ts result = some rest ∧ c'.pc = .sleeping rest) := by
  cases Call.step_cases stepped with
  | execute rc rollback at' =>
    refine .inl ⟨by simp [sleeps, at'], ?_⟩
    unfold afterExecute
    split
    · simp [sleeps, rank, at']
    · split <;> simp [sleeps, rank, at']
  | commit at' => exact .inl (by simp [sleeps, rank, at'])
  | commitFailed status at' failed => exact .inl (by simp [sleeps, rank, at'])
  | rollback at' => exact .inl (by simp [sleeps, rank, at'])
  | rollbackFailed status at' failed => exact .inl (by simp [sleeps, rank, at'])
  | disconnect rc at' => exact .inl (by simp [sleeps, rank, at'])
  | expire tt at' late => exact .inl (by simp [sleeps, rank, at'])
  | reconnect tt at' early =>
    exact .inl ⟨by simp [sleeps, at'], rfl, .inr ⟨tt, at', rfl, early⟩⟩
  | connected e at' step =>
    refine .inr (.inl ⟨_, _, at', step, .inr (.inl ?_)⟩)
    obtain ⟨-, next | next | next⟩ := Call.attempt_cases c.transaction c.txnCount c.status
    all_goals exact ⟨by simp [sleeps, next], rfl, by simp [rank, next]⟩
  | connectFailed e rc at' failed step =>
    exact .inr (.inl ⟨_, _, at', step, .inr (.inr ⟨rc, rfl, rfl⟩)⟩)
  | connecting e at' step running => exact .inr (.inl ⟨_, _, at', step, .inl rfl⟩)
  | sleep result pc at' next =>
    rename_i ts
    refine .inr (.inr ⟨ts, result, at', rfl, ?_⟩)
    simp only [Call.step, at'] at stepped
    cases again : sleepAgain ts result with
    | none =>
      rw [again] at stepped
      exact .inl ⟨rfl, congrArg Call.pc (Option.some_inj.mp stepped).symm⟩
    | some rest =>
      rw [again] at stepped
      exact .inr ⟨rest, rfl, congrArg Call.pc (Option.some_inj.mp stepped).symm⟩

namespace Call

variable {c c' : Call} {conn : Connect} {ts : Timespec} {e : Event} {start stop : Int}

theorem sleeps_sleeping (at' : c.pc = .sleeping ts) : c.sleeps = some ts := by
  simp [sleeps, at']

theorem sleeps_connecting (at' : c.pc = .connecting conn) : c.sleeps = conn.sleeps := by
  simp [sleeps, at']

theorem rank_connecting (at' : c.pc = .connecting conn) : c.rank = 2 + conn.rank := by
  simp [rank, at']

theorem Answered.connecting (answered : c.Answered start stop e) (at' : c.pc = .connecting conn) :
    conn.Answered start stop e := by
  simpa [Answered, at'] using answered

theorem Answered.sleeping {result : Nanosleep} (answered : c.Answered start stop (.slept result))
    (at' : c.pc = .sleeping ts) : result.Obeys ts start stop := by
  simpa [Answered, at'] using answered

theorem rank_zero_iff (c : Call) : c.rank = 0 ↔ c.over' := by
  unfold rank over'
  split <;> simp_all

/-- A sleep that begins is for the delay or for what is left of one. -/
theorem step_intervals {rest : Timespec} (stepped : c.step dbc e = some c')
    (answered : c.Answered start stop e) (sleeping : c'.sleeps = some rest) :
    rest = dbc.tsRetry ∨ ∃ slept, c.sleeps = some slept ∧ (rest.Valid ↔ slept.Valid) := by
  obtain ⟨-, none', -⟩ | ⟨conn, conn', at', step, next⟩ | ⟨ts, result, at', rfl, next⟩ :=
    step_sleeps stepped
  · rw [none'] at sleeping
    cases sleeping
  · obtain at'' | ⟨none', -⟩ | ⟨rc, at'', -⟩ := next
    · rw [sleeps_connecting at']
      exact connect_retries.intervals _ _ _ _ _ rest step (answered.connecting at')
        ((sleeps_connecting at'').symm.trans sleeping)
    · rw [none'] at sleeping
      cases sleeping
    · rw [sleeps_sleeping at''] at sleeping
      cases sleeping
      exact .inl rfl
  · obtain ⟨-, at''⟩ | ⟨rest', again, at''⟩ := next
    · simp [sleeps, at''] at sleeping
    · rw [sleeps_sleeping at''] at sleeping
      cases sleeping
      have same := ((sleepAgain_spec (answered.sleeping at')).2 rest again).1
      exact .inr ⟨ts, sleeps_sleeping at', same⟩

/-- What `nanosleep` refuses is never left. -/
theorem step_refused {slept : Timespec} (stepped : c.step dbc e = some c')
    (answered : c.Answered start stop e) (sleeping : c.sleeps = some slept)
    (invalid : ¬ slept.Valid) : c'.sleeps = some slept := by
  obtain ⟨none', -⟩ | ⟨conn, conn', at', step, next⟩ | ⟨ts, result, at', rfl, next⟩ :=
    step_sleeps stepped
  · rw [none'] at sleeping
    cases sleeping
  · have same := connect_retries.refused _ _ _ _ _ slept step (answered.connecting at')
      ((sleeps_connecting at').symm.trans sleeping) invalid
    obtain at'' | ⟨-, rfl, -⟩ | ⟨rc, -, rfl⟩ := next
    · exact (sleeps_connecting at'').trans same
    · cases same
    · cases same
  · rw [sleeps_sleeping at'] at sleeping
    cases sleeping
    rw [(sleepAgain_spec (answered.sleeping at')).1 invalid] at next
    obtain ⟨none', -⟩ | ⟨rest, again, at''⟩ := next
    · cases none'
    · cases again
      exact sleeps_sleeping at''

/-- After the deadline a step of `connect_to_db` brings the call nearer to its end, or goes on with
a sleep. -/
theorem connecting_falls {conn' : Connect} (at' : c.pc = .connecting conn)
    (step : conn.step dbc e = some conn') (answered : conn.Answered start stop e)
    (late : dbc.expired (start / 1000000000) = true)
    (valid : ∀ slept, conn.sleeps = some slept → slept.Valid)
    (next : c'.pc = .connecting conn' ∨
      c'.sleeps = none ∧ conn' = .returned OK ∧ c'.rank ≤ 4 ∨
      ∃ rc, c'.pc = .sleeping dbc.tsRetry ∧ conn' = .returned rc) :
    c'.rank < c.rank ∨ c'.rank = c.rank ∧ 0 ≤ left c'.sleeps ∧
      left c'.sleeps + stop ≤ left c.sleeps + start := by
  have inner := @connect_retries dbc
  have falls := inner.falls _ _ _ _ _ step answered late valid
  have running : conn.rank ≠ 0 := fun zero =>
    inner.ended _ _ _ ((inner.rank_zero conn).mp zero) step
  rw [rank_connecting at', sleeps_connecting at']
  obtain at'' | ⟨-, rfl, low⟩ | ⟨rc, at'', rfl⟩ := next
  · rw [rank_connecting at'', sleeps_connecting at'']
    obtain less | ⟨same, shrinks⟩ := falls
    · exact .inl (by omega)
    · exact .inr ⟨by omega, shrinks⟩
  · -- after the deadline only an attempt that was made before it can still succeed
    obtain ⟨tt, rfl, rfl, is⟩ | ⟨rc, rfl, rfl, -⟩ | ⟨ts, result, rfl, rfl, ⟨-, is⟩ | ⟨_, -, is⟩⟩ :=
      Connect.step_cases step
    · obtain rfl : tt = _ := answered
      rw [if_pos late] at is
      cases is
    · exact .inl (Nat.lt_succ_of_le low)
    · cases is
    · cases is
  · have rank' : c'.rank = 2 := by simp [rank, at'']
    exact .inl (by omega)

theorem step_falls (stepped : c.step dbc e = some c') (answered : c.Answered start stop e)
    (late : dbc.expired (start / 1000000000) = true)
    (valid : ∀ slept, c.sleeps = some slept → slept.Valid) :
    c'.rank < c.rank ∨ c'.rank = c.rank ∧ 0 ≤ left c'.sleeps ∧
      left c'.sleeps + stop ≤ left c.sleeps + start := by
  obtain ⟨-, -, less | ⟨tt, at', rfl, early⟩⟩ | ⟨conn, conn', at', step, next⟩ |
    ⟨ts, result, at', rfl, next⟩ := step_sleeps stepped
  · exact .inl less
  · obtain rfl : tt = _ := by simpa [Answered, at'] using answered
    rw [late] at early
    cases early
  · rw [sleeps_connecting at'] at valid
    exact connecting_falls at' step (answered.connecting at') late valid next
  · obtain ⟨-, at''⟩ | ⟨rest, again, at''⟩ := next
    · exact .inl (by simp [rank, at', at''])
    · refine .inr ⟨by simp [rank, at', at''], ?_⟩
      rw [sleeps_sleeping at', sleeps_sleeping at'']
      exact ((sleepAgain_spec (answered.sleeping at')).2 rest again).2
        (valid ts (sleeps_sleeping at'))

end Call

theorem call_retries :
    Retries dbc (Call.step dbc) Call.Answered Call.over' Call.sleeps Call.rank := by
  constructor
  · exact Call.rank_zero_iff
  · rintro c ⟨status, at'⟩
    simp [Call.sleeps, at']
  · rintro c e c' ⟨status, at'⟩ stepped
    simp [Call.step, at'] at stepped
  · exact fun _ _ _ _ _ _ => Call.step_intervals
  · exact fun _ _ _ _ _ _ => Call.step_refused
  · exact fun _ _ _ _ _ => Call.step_falls

/-- With whatever clock and signals, `connect_to_db` and `process_transaction` return if the delay
is one that `nanosleep` accepts, and otherwise just if they never come to sleep. -/
theorem retries_end_iff (retryDelay stopTime : Int) (deadline : stopTime ≠ 0) {clock : ℕ → ℤ}
    (advances : Clock clock) :
    let dbc : DbContext := { stopTime, tsRetry := splitDelay retryDelay }
    (∀ (c : ℕ → Connect) (e : ℕ → Event), c 0 = .deadline →
      Execution (Connect.step dbc) (fun k => Connect.Answered (clock k) (clock (k + 1)))
        Connect.over' c e →
      ((∃ k rc, c k = .returned rc) ↔ 0 ≤ retryDelay ∨ ∀ k, (c k).sleeps = none)) ∧
    ∀ (transaction : Int) (c : ℕ → Call) (e : ℕ → Event), c 0 = Call.start transaction →
      Execution (Call.step dbc) (fun k => Call.Answered (clock k) (clock (k + 1)))
        Call.over' c e →
      ((∃ k status, (c k).pc = .returned status) ↔ 0 ≤ retryDelay ∨ ∀ k, (c k).sleeps = none) := by
  intro dbc
  refine ⟨fun c e start exec => ?_, fun transaction c e start exec => ?_⟩
  · rw [← splitDelay_valid_iff]
    exact connect_retries.ends_iff advances deadline exec (by rw [start]; rfl)
  · rw [← splitDelay_valid_iff]
    refine call_retries.ends_iff advances deadline exec ?_
    rw [start, Call.start]
    obtain ⟨-, next | next | next⟩ := Call.attempt_cases transaction 0 0
    all_goals simp [Call.sleeps, next]

/-! ## Two delays -/

theorem seconds_clock : Clock fun k => k * 1000000000 := by
  constructor
  · intro j k le
    have := Int.ofNat_le.mpr le
    simp only
    omega
  · intro time
    refine ⟨time.toNat + 1, ?_⟩
    push_cast
    omega

/-- A database that is down, and a deadline after one second. -/
def slowly : ℕ → Connect
  | 0 => .deadline
  | 1 => .connecting
  | 2 => .sleeping (splitDelay 100)
  | 3 => .deadline
  | _ => .returned ERROR

def slowAnswers : ℕ → Event
  | 0 => .time 0
  | 1 => .connected ERROR
  | 2 => .slept .done
  | 3 => .time 3
  | _ => .time 0

theorem Connect.not_over {c : Connect} (running : c.rank ≠ 0) : ¬ c.over' := fun over' =>
  running (((@connect_retries ⟨0, splitDelay 0⟩).rank_zero c).mpr over')

theorem retries_end_slowly : ∃ k rc, slowly k = .returned rc := by
  have all := retries_end_iff 100 1 (by decide) seconds_clock
  refine (all.1 slowly slowAnswers rfl fun k => ?_).mpr (.inl (by decide))
  match k with
  | 0 => exact .inr ⟨Connect.not_over (by decide), rfl, rfl⟩
  | 1 => exact .inr ⟨Connect.not_over (by decide), rfl, trivial⟩
  | 2 =>
    refine .inr ⟨Connect.not_over (by decide), rfl, ?_⟩
    exact ⟨(splitDelay_valid_iff 100).mpr (by decide), by decide⟩
  | 3 => exact .inr ⟨Connect.not_over (by decide), rfl, rfl⟩
  | k + 4 => exact .inl ⟨⟨ERROR, rfl⟩, rfl⟩

/-- A negative delay: after the first failure nothing but `nanosleep` is called again. -/
def endlessly : ℕ → Connect
  | 0 => .deadline
  | 1 => .connecting
  | _ => .sleeping (splitDelay (-1))

def endlessAnswers : ℕ → Event
  | 0 => .time 0
  | 1 => .connected ERROR
  | _ => .slept .failed

theorem retries_endless : ∃ (c : ℕ → Connect) (e : ℕ → Event), c 0 = .deadline ∧
    Execution (Connect.step { stopTime := 1, tsRetry := splitDelay (-1) })
      (fun k => Connect.Answered (k * 1000000000) ((k + 1 : ℕ) * 1000000000)) Connect.over' c e ∧
    ∀ k rc, c k ≠ .returned rc := by
  refine ⟨endlessly, endlessAnswers, rfl, fun k => ?_, fun k rc => ?_⟩
  · match k with
    | 0 => exact .inr ⟨Connect.not_over (by decide), rfl, rfl⟩
    | 1 => exact .inr ⟨Connect.not_over (by decide), rfl, trivial⟩
    | k + 2 =>
      refine .inr ⟨Connect.not_over (Nat.succ_ne_zero 1), rfl, ?_⟩
      exact fun valid => absurd ((splitDelay_valid_iff (-1)).mp valid) (by decide)
  · intro is
    match k with
    | 0 | 1 | k + 2 => cases is

end Dbt2
