import Mathlib

/-!
# Counted loops

`for` loops over machine integers that may end early, run out of bounds or never end. A loop runs
on fuel, and `int` says what an integer expression evaluates to: the number itself, or nothing where
it does not fit.

* `Ends`: with enough fuel, a computation ends in a given result;
* `Loop`: the same for a loop, with rules for its rounds;
* `sweep`: two nested loops over a grid, cut short when full.
-/

namespace Stepping

/-- Why a computation ends without a result. It is `running` when its fuel is used up. -/
inductive Halt (R : Type) where
  | returned (rc : R)
  | running
  | overflow
  | divisionByZero
  | outOfBounds
  deriving DecidableEq

inductive Flow (σ : Type) where
  | next (s : σ)
  | leave (s : σ)
  deriving DecidableEq

/-- Integers of `w + 1` bits, whose overflow leaves nothing to rely on. -/
def signed {R : Type} (w : Nat) (n : Int) : Except (Halt R) Int :=
  if -2 ^ w ≤ n ∧ n < 2 ^ w then .ok n else .error .overflow

theorem signed_ok {R : Type} {w : Nat} {n : Int} (low : -2 ^ w ≤ n) (high : n < 2 ^ w) :
    (signed w n : Except (Halt R) Int) = .ok n := if_pos ⟨low, high⟩

theorem signed_overflow {R : Type} {w : Nat} {n : Int} (high : 2 ^ w ≤ n) :
    (signed w n : Except (Halt R) Int) = .error .overflow := if_neg (by omega)

variable {R σ α β : Type} (int : Int → Except (Halt R) Int)

/-- `for (; i < bound; i += step) body`. -/
def forLoop (bound step : Int) (body : Int → σ → Except (Halt R) (Flow σ)) :
    Nat → Int → σ → Except (Halt R) σ
  | 0, _, _ => .error .running
  | fuel + 1, i, s =>
    if i < bound then
      match body i s with
      | .error h => .error h
      | .ok (.leave t) => .ok t
      | .ok (.next t) =>
        match int (i + step) with
        | .error h => .error h
        | .ok i' => forLoop bound step body fuel i' t
    else .ok s

/-! ## Enough fuel -/

def Ends (f : Nat → Except (Halt R) α) (r : Except (Halt R) α) : Prop :=
  ∃ n, ∀ fuel, n ≤ fuel → f fuel = r

theorem Ends.const (r : Except (Halt R) α) : Ends (fun _ => r) r := ⟨0, fun _ _ => rfl⟩

theorem Ends.unique {f : Nat → Except (Halt R) α} {r r' : Except (Halt R) α} (h : Ends f r)
    (h' : Ends f r') : r = r' := by
  obtain ⟨n, enough⟩ := h
  obtain ⟨n', enough'⟩ := h'
  rw [← enough (max n n') (le_max_left n n'), enough' (max n n') (le_max_right n n')]

theorem Ends.bind {f : Nat → Except (Halt R) α} {g : Nat → α → Except (Halt R) β} {a : α}
    {r : Except (Halt R) β} (first : Ends f (.ok a)) (rest : Ends (fun fuel => g fuel a) r) :
    Ends (fun fuel => f fuel >>= g fuel) r := by
  obtain ⟨n, enough⟩ := first
  obtain ⟨n', enough'⟩ := rest
  refine ⟨max n n', fun fuel le => ?_⟩
  have here := enough fuel (le_trans (le_max_left n n') le)
  have then' := enough' fuel (le_trans (le_max_right n n') le)
  simp only [here]
  exact then'

theorem Ends.bind_halt {f : Nat → Except (Halt R) α} {g : Nat → α → Except (Halt R) β}
    {h : Halt R} (first : Ends f (.error h)) : Ends (fun fuel => f fuel >>= g fuel) (.error h) := by
  obtain ⟨n, enough⟩ := first
  refine ⟨n, fun fuel le => ?_⟩
  simp only [enough fuel le]
  rfl

/-! ## Rounds of a loop -/

/-- With enough fuel for the loop and for each of its rounds, it ends in `r`. -/
def Loop (bound step : Int) (body : Nat → Int → σ → Except (Halt R) (Flow σ)) (i : Int) (s : σ)
    (r : Except (Halt R) σ) : Prop :=
  ∃ n, ∀ f, n ≤ f → ∀ g, n ≤ g → forLoop int bound step (body f) g i s = r

section

variable {int} {bound step i : Int} {body : Nat → Int → σ → Except (Halt R) (Flow σ)} {s t : σ}
  {r : Except (Halt R) σ} {h : Halt R}

theorem Loop.ends (loop : Loop int bound step body i s r) :
    Ends (fun fuel => forLoop int bound step (body fuel) fuel i s) r := by
  obtain ⟨n, enough⟩ := loop
  exact ⟨n, fun fuel le => enough fuel le fuel le⟩

theorem Loop.exit (passed : ¬ i < bound) : Loop int bound step body i s (.ok s) := by
  refine ⟨1, fun f _ g le => ?_⟩
  obtain ⟨g, rfl⟩ := Nat.exists_eq_add_of_le' le
  rw [forLoop, if_neg passed]

/-- What a round makes of the loop, with the fuel that is left. -/
theorem Loop.round {x : Except (Halt R) (Flow σ)} (inside : i < bound)
    (here : Ends (fun fuel => body fuel i s) x)
    (then' : ∃ n, ∀ f, n ≤ f → ∀ g, n ≤ g →
      (match x with
        | .error h => .error h
        | .ok (.leave t) => .ok t
        | .ok (.next t) =>
          match int (i + step) with
          | .error h => .error h
          | .ok i' => forLoop int bound step (body f) g i' t) = r) :
    Loop int bound step body i s r := by
  obtain ⟨n, enough⟩ := here
  obtain ⟨n', enough'⟩ := then'
  refine ⟨max n n' + 1, fun f lef g leg => ?_⟩
  obtain ⟨g, rfl⟩ := Nat.exists_eq_add_of_le' (le_trans (Nat.le_add_left 1 _) leg)
  have settled : body f i s = x := enough f (by omega)
  rw [forLoop, if_pos inside, settled]
  exact enough' f (by omega) g (by omega)

theorem Loop.leave (inside : i < bound) (here : Ends (fun fuel => body fuel i s) (.ok (.leave t))) :
    Loop int bound step body i s (.ok t) :=
  .round inside here ⟨0, fun _ _ _ _ => rfl⟩

theorem Loop.halt (inside : i < bound) (here : Ends (fun fuel => body fuel i s) (.error h)) :
    Loop int bound step body i s (.error h) :=
  .round inside here ⟨0, fun _ _ _ _ => rfl⟩

theorem Loop.overflow (inside : i < bound)
    (here : Ends (fun fuel => body fuel i s) (.ok (.next t))) (unfit : int (i + step) = .error h) :
    Loop int bound step body i s (.error h) := by
  apply Loop.round inside here
  refine ⟨0, fun _ _ _ _ => ?_⟩
  simp only [unfit]

theorem Loop.next {i' : Int} (inside : i < bound)
    (here : Ends (fun fuel => body fuel i s) (.ok (.next t))) (counts : int (i + step) = .ok i')
    (rest : Loop int bound step body i' t r) : Loop int bound step body i s r := by
  apply Loop.round inside here
  simp only [counts]
  exact rest

/-- After `n` rounds through the states `st`, the loop is at its `n`-th counter. -/
theorem Loop.rounds (n : Nat) (st : Nat → σ)
    (pass : ∀ k < n, i + k * step < bound ∧
      Ends (fun fuel => body fuel (i + k * step) (st k)) (.ok (.next (st (k + 1)))) ∧
      int (i + k * step + step) = .ok (i + (k + 1 : Nat) * step))
    (rest : Loop int bound step body (i + n * step) (st n) r) :
    Loop int bound step body i (st 0) r := by
  induction n with
  | zero => simpa using rest
  | succ n ih =>
    obtain ⟨inside, here, counts⟩ := pass n (Nat.lt_succ_self n)
    exact ih (fun k lt => pass k (Nat.lt_succ_of_lt lt)) (.next inside here counts rest)

end

/-! ## Loops that do not end well -/

def Halt.Fault : Halt R → Prop
  | .returned _ => False
  | .running | .overflow | .divisionByZero | .outOfBounds => True

/-- Neither a result nor a return. -/
def Fails (x : Except (Halt R) α) : Prop := ∃ h, x = .error h ∧ h.Fault

theorem Fails.bind {x : Except (Halt R) α} (fails : Fails x) (g : α → Except (Halt R) β) :
    Fails (x >>= g) := by
  obtain ⟨h, rfl, fault⟩ := fails
  exact ⟨h, rfl, fault⟩

/-- The results a computation may end in. -/
def Kept (f : Nat → Except (Halt R) α) : Prop := ∃ r, Ends f r ∧ ¬ Fails r

theorem not_kept_of_fails {f : Nat → Except (Halt R) α} (fails : ∀ fuel, Fails (f fuel)) :
    ¬ Kept f := by
  rintro ⟨r, ⟨n, enough⟩, fine⟩
  exact fine (enough n le_rfl ▸ fails n)

theorem Ends.not_kept {f : Nat → Except (Halt R) α} {r : Except (Halt R) α} (h : Ends f r)
    (fails : Fails r) : ¬ Kept f := by
  rintro ⟨r', h', fine⟩
  exact fine (h.unique h' ▸ fails)

theorem Ends.kept {f : Nat → Except (Halt R) α} {r : Except (Halt R) α} (h : Ends f r)
    (fine : ¬ Fails r) : Kept f := ⟨r, h, fine⟩

theorem forLoop_fails_round {int : Int → Except (Halt R) Int} {bound step i : Int}
    {body : Int → σ → Except (Halt R) (Flow σ)} {s : σ} (fuel : Nat) (inside : i < bound)
    (fails : Fails (body i s)) : Fails (forLoop int bound step body (fuel + 1) i s) := by
  obtain ⟨h, ended, fault⟩ := fails
  rw [forLoop, if_pos inside]
  exact ⟨h, by rw [ended], fault⟩

/-- A counter that does not grow never passes the bound, so only a round can end the loop. -/
theorem forLoop_fails {int : Int → Except (Halt R) Int} {bound step : Int}
    {body : Int → σ → Except (Halt R) (Flow σ)}
    (value : ∀ n, int n = .ok n ∨ Fails (int n)) (down : step ≤ 0)
    (stays : ∀ i s, i < bound → (∃ t, body i s = .ok (.next t)) ∨ Fails (body i s))
    (fuel : Nat) {i : Int} (inside : i < bound) (s : σ) :
    Fails (forLoop int bound step body fuel i s) := by
  induction fuel generalizing i s with
  | zero => exact ⟨.running, rfl, trivial⟩
  | succ fuel ih =>
    obtain ⟨t, next⟩ | fails := stays i s inside
    · rw [forLoop, if_pos inside, next]
      dsimp only
      obtain counts | ⟨h, unfit, fault⟩ := value (i + step)
      · rw [counts]
        exact ih (by omega) t
      · exact ⟨h, by rw [unfit], fault⟩
    · exact forLoop_fails_round fuel inside fails

/-! ## Steps through a range -/

/-- How many steps lead from `lo` past `hi`. -/
def steps (lo hi step : Int) : Nat := ((hi - lo) / step + 1).toNat

theorem steps_cast {lo hi step : Int} (le : lo ≤ hi) (pos : 0 < step) :
    (steps lo hi step : Int) = (hi - lo) / step + 1 := by
  have : 0 ≤ (hi - lo) / step := Int.ediv_nonneg (by omega) pos.le
  unfold steps
  omega

theorem steps_le {lo hi step : Int} (le : lo ≤ hi) (pos : 0 < step) :
    (steps lo hi step : Int) ≤ hi - lo + 1 := by
  have fewer : (hi - lo) / step ≤ hi - lo := Int.ediv_le_self _ (by omega)
  rw [steps_cast le pos]
  omega

theorem steps_pos {lo hi step : Int} (le : lo ≤ hi) (pos : 0 < step) : 0 < steps lo hi step := by
  have cast := steps_cast le pos
  have : 0 ≤ (hi - lo) / step := Int.ediv_nonneg (by omega) pos.le
  omega

theorem steps_fits {lo hi step : Int} (le : lo ≤ hi) (pos : 0 < step) {k : Nat}
    (lt : k < steps lo hi step) : lo + k * step < hi + 1 := by
  have cast := steps_cast le pos
  have below : (k : Int) ≤ (hi - lo) / step := by omega
  have := (Int.le_ediv_iff_mul_le pos).mp below
  omega

theorem steps_passed {lo hi step : Int} (le : lo ≤ hi) (pos : 0 < step) :
    ¬ lo + steps lo hi step * step < hi + 1 := by
  have := Int.lt_ediv_add_one_mul_self (hi - lo) pos
  rw [steps_cast le pos]
  omega

theorem exists_step_iff {lo hi step : Int} (le : lo ≤ hi) (pos : 0 < step) (i : Int) :
    (∃ k < steps lo hi step, i = lo + k * step) ↔ (lo ≤ i ∧ i ≤ hi) ∧ step ∣ i - lo := by
  constructor
  · rintro ⟨k, lt, rfl⟩
    have below := steps_fits le pos lt
    have : 0 ≤ (k : Int) * step := Int.mul_nonneg (Int.natCast_nonneg k) pos.le
    refine ⟨⟨by omega, by omega⟩, k, ?_⟩
    ring
  · rintro ⟨⟨low, high⟩, d, eq⟩
    have nonneg : 0 ≤ d := by
      by_contra neg
      have : step * d < 0 := Int.mul_neg_of_pos_of_neg pos (by omega)
      omega
    obtain ⟨k, rfl⟩ := Int.eq_ofNat_of_zero_le nonneg
    refine ⟨k, ?_, by linarith⟩
    by_contra far
    have beyond : (steps lo hi step : Int) * step ≤ k * step :=
      Int.mul_le_mul_of_nonneg_right (by omega) pos.le
    have := steps_passed le pos
    linarith

/-- What a sweep meets, in order: rows `f 0`, `f 1`, … of one column after the other. -/
def grid (f : Nat → Int) (S n : Nat) : List (Int × Int) :=
  (List.range n).map fun m => (f (m % S), (m / S : Nat))

theorem mem_grid_iff {S : Nat} (rows : 0 < S) (f : Nat → Int) (T : Nat) (i j : Int) :
    (i, j) ∈ grid f S (S * T) ↔ (∃ k < S, i = f k) ∧ 0 ≤ j ∧ j < T := by
  constructor
  · intro mem
    obtain ⟨m, inside, same⟩ := List.mem_map.mp mem
    obtain ⟨rfl, rfl⟩ := Prod.mk.inj same
    have column : m / S < T := by
      rw [Nat.div_lt_iff_lt_mul rows, Nat.mul_comm]
      exact List.mem_range.mp inside
    exact ⟨⟨m % S, Nat.mod_lt m rows, rfl⟩, Int.natCast_nonneg _, Int.ofNat_lt.mpr column⟩
  · rintro ⟨⟨k, lt, rfl⟩, low, high⟩
    obtain ⟨n, rfl⟩ := Int.eq_ofNat_of_zero_le low
    have within : S * n + k < S * T :=
      calc S * n + k < S * (n + 1) := by rw [Nat.mul_succ]; omega
        _ ≤ S * T := Nat.mul_le_mul_left S (by omega)
    refine List.mem_map.mpr ⟨S * n + k, List.mem_range.mpr within, ?_⟩
    rw [Nat.mul_add_mod, Nat.mod_eq_of_lt lt, Nat.mul_add_div rows, Nat.div_eq_of_lt lt,
      Nat.add_zero]

/-! ## Ranges cut in pieces -/

/-- The piece between two cuts. -/
def piece (cut : Nat → Int) (l : Nat) : Set Int := Set.Ico (cut l) (cut (l + 1))

theorem cut_mono {cut : Nat → Int} {m : Nat} (up : ∀ l < m, cut l ≤ cut (l + 1)) {l n : Nat}
    (le : l ≤ n) (within : n ≤ m) : cut l ≤ cut n := by
  induction n, le using Nat.le_induction with
  | base => exact le_rfl
  | succ n _ ih => exact (ih (by omega)).trans (up n within)

theorem piece_disjoint {cut : Nat → Int} {m : Nat} (up : ∀ l < m, cut l ≤ cut (l + 1)) {l n : Nat}
    (lt : l < n) (within : n < m) : Disjoint (piece cut l) (piece cut n) := by
  rw [Set.disjoint_left]
  rintro w ⟨-, high⟩ ⟨low, -⟩
  have below : cut (l + 1) ≤ cut n := cut_mono up lt within.le
  omega

theorem mem_piece_iff {cut : Nat → Int} {m : Nat} (up : ∀ l < m, cut l ≤ cut (l + 1)) (w : Int) :
    (∃ l < m, w ∈ piece cut l) ↔ cut 0 ≤ w ∧ w < cut m := by
  constructor
  · rintro ⟨l, lt, low, high⟩
    exact ⟨(cut_mono up (Nat.zero_le l) lt.le).trans low, high.trans_le (cut_mono up lt le_rfl)⟩
  · rintro ⟨low, high⟩
    induction m with
    | zero => omega
    | succ m ih =>
      by_cases below : w < cut m
      · obtain ⟨l, lt, mem⟩ := ih (fun l lt => up l (Nat.lt_succ_of_lt lt)) below
        exact ⟨l, Nat.lt_succ_of_lt lt, mem⟩
      · exact ⟨m, Nat.lt_succ_self m, not_lt.mp below, high⟩

/-! ## Two nested loops -/

/-- The loop over the rows of one column. -/
def sweepColumn (lo step b : Int) (full : σ → Bool) (visit : Int → Int → σ → Except (Halt R) σ)
    (j : Int) (fuel : Nat) (s : σ) : Except (Halt R) σ :=
  forLoop int b step (fun i s => if full s then .ok (.leave s) else do
    let t ← visit i j s
    .ok (.next t)) fuel lo s

/-- Visits a grid column by column until it is `full`, which is also asked after each column. The
bound of the rows is evaluated in each column. -/
def sweep (lo step cols : Int) (bound : Except (Halt R) Int) (full : σ → Bool)
    (visit : Int → Int → σ → Except (Halt R) σ) (fuel : Nat) (s : σ) : Except (Halt R) σ :=
  forLoop int cols 1 (fun j s => do
    let b ← bound
    let t ← sweepColumn int lo step b full visit j fuel s
    .ok (if full t then .leave t else .next t)) fuel 0 s

/-- The `m`-th visit, in columns of `S` rows, takes the state `st m` to the next. -/
structure Visits (lo step : Int) (full : σ → Bool) (visit : Int → Int → σ → Except (Halt R) σ)
    (S : Nat) (st : Nat → σ) (m : Nat) : Prop where
  notFull : full (st m) = false
  visited : visit (lo + (m % S : Nat) * step) (m / S : Nat) (st m) = .ok (st (m + 1))
  counts : int (lo + (m % S : Nat) * step + step) = .ok (lo + (m % S + 1 : Nat) * step)

section

variable {int} {lo step cols b : Int} {full : σ → Bool} {visit : Int → Int → σ → Except (Halt R) σ}
  {S : Nat} {st : Nat → σ} {r : Except (Halt R) σ}

abbrev rowBody (full : σ → Bool) (visit : Int → Int → σ → Except (Halt R) σ) (j i : Int) (s : σ) :
    Except (Halt R) (Flow σ) :=
  if full s then .ok (.leave s) else do
    let t ← visit i j s
    .ok (.next t)

theorem rowBody_visited {i j : Int} {s t : σ} (notFull : full s = false)
    (visited : visit i j s = .ok t) : rowBody full visit j i s = .ok (.next t) := by
  rw [rowBody, notFull, visited]
  rfl

/-- The first `n` rows of a column. -/
theorem Loop.rows {j n : Nat} (le : n ≤ S) (fits : ∀ k < n, lo + k * step < b)
    (visits : ∀ k < n, Visits int lo step full visit S st (j * S + k))
    (rest : Loop int b step (fun _ => rowBody full visit j) (lo + n * step) (st (j * S + n)) r) :
    Loop int b step (fun _ => rowBody full visit j) lo (st (j * S)) r := by
  have pass (k : Nat) (lt : k < n) : lo + k * step < b ∧
      Ends (fun _ => rowBody full visit j (lo + k * step) (st (j * S + k)))
        (.ok (.next (st (j * S + (k + 1))))) ∧
      int (lo + k * step + step) = .ok (lo + (k + 1 : Nat) * step) := by
    have row : (j * S + k) % S = k := by
      rw [Nat.mul_comm, Nat.mul_add_mod, Nat.mod_eq_of_lt (by omega)]
    have column : (j * S + k) / S = j := by
      rw [Nat.mul_comm, Nat.mul_add_div (by omega), Nat.div_eq_of_lt (by omega), Nat.add_zero]
    obtain ⟨notFull, visited, counts⟩ := visits k lt
    rw [row, column] at visited
    rw [row] at counts
    refine ⟨fits k lt, ?_, counts⟩
    rw [rowBody_visited notFull visited]
    exact .const _
  exact Loop.rounds n (fun k => st (j * S + k)) pass rest

/-- A whole column. -/
theorem ends_column {j : Nat} (fits : ∀ k < S, lo + k * step < b)
    (passed : ¬ lo + S * step < b)
    (visits : ∀ k < S, Visits int lo step full visit S st (j * S + k)) :
    Ends (fun fuel => sweepColumn int lo step b full visit j fuel (st (j * S)))
      (.ok (st ((j + 1) * S))) := by
  rw [Nat.succ_mul]
  exact (Loop.rows le_rfl fits visits (.exit passed)).ends

abbrev columnBody (int : Int → Except (Halt R) Int) (lo step : Int)
    (bound : Except (Halt R) Int) (full : σ → Bool) (visit : Int → Int → σ → Except (Halt R) σ)
    (fuel : Nat) (j : Int) (s : σ) : Except (Halt R) (Flow σ) := do
  let b ← bound
  let t ← sweepColumn int lo step b full visit j fuel s
  .ok (if full t then .leave t else .next t)

theorem ends_columnBody {j : Int} {s t : σ}
    (column : Ends (fun fuel => sweepColumn int lo step b full visit j fuel s) (.ok t)) :
    Ends (fun fuel => columnBody int lo step (.ok b) full visit fuel j s)
      (.ok (if full t then .leave t else .next t)) :=
  column.bind (.const _)

/-- The first `n` columns. -/
theorem Loop.columns {n : Nat} (le : n ≤ cols)
    (intCols : ∀ j : Nat, j < cols → int (j + 1) = .ok (j + 1))
    (fits : ∀ k < S, lo + k * step < b) (passed : 0 < n → ¬ lo + S * step < b)
    (visits : ∀ m < n * S, Visits int lo step full visit S st m)
    (notFull : ∀ j, 0 < j → j ≤ n → full (st (j * S)) = false)
    (rest : Loop int cols 1 (columnBody int lo step (.ok b) full visit) n (st (n * S)) r) :
    Loop int cols 1 (columnBody int lo step (.ok b) full visit) 0 (st (0 * S)) r := by
  apply Loop.rounds n fun j => st (j * S)
  · intro j lt
    have inside : ∀ k < S, j * S + k < n * S := fun k small =>
      calc j * S + k < (j + 1) * S := by rw [Nat.succ_mul]; omega
        _ ≤ n * S := Nat.mul_le_mul_right S lt
    have column := ends_columnBody (ends_column fits (passed (by omega))
      fun k small => visits _ (inside k small))
    rw [notFull (j + 1) (by omega) lt] at column
    simp only [zero_add, mul_one]
    exact ⟨by omega, column, by rw [intCols j (by omega), Nat.cast_succ]⟩
  · simpa using rest

/-- A column that is full, or at its end, after `n` more visits. -/
theorem ends_column_full {j n : Nat} (le : n ≤ S) (fits : ∀ k < n, lo + k * step < b)
    (visits : ∀ k < n, Visits int lo step full visit S st (j * S + k))
    (filled : full (st (j * S + n)) = true) :
    Ends (fun fuel => sweepColumn int lo step b full visit j fuel (st (j * S)))
      (.ok (st (j * S + n))) := by
  apply (Loop.rows le fits visits ?_).ends
  by_cases inside : lo + n * step < b
  · apply Loop.leave inside
    rw [rowBody, filled]
    exact .const _
  · exact .exit inside

/-- A sweep that is full after `M` visits. -/
theorem ends_sweep_full {M : Nat} (within : M ≤ S * cols.toNat) (some : 0 < cols)
    (intCols : ∀ j : Nat, j < cols → int (j + 1) = .ok (j + 1)) (rows : 0 < S)
    (fits : ∀ k < S, lo + k * step < b) (passed : S < M → ¬ lo + S * step < b)
    (visits : ∀ m < M, Visits int lo step full visit S st m) (filled : full (st M) = true) :
    Ends (fun fuel => sweep int lo step cols (.ok b) full visit fuel (st 0)) (.ok (st M)) := by
  obtain ⟨n, eq⟩ : ∃ n, n = (M - 1) / S := ⟨_, rfl⟩
  have before : n * S ≤ M - 1 := eq ▸ Nat.div_mul_le_self _ _
  have after : M ≤ n * S + S := by
    have := Nat.lt_div_mul_add (a := M - 1) rows
    rw [← eq] at this
    omega
  have columns : n < cols.toNat := by
    rw [eq, Nat.div_lt_iff_lt_mul rows, Nat.mul_comm]
    have : 0 < S * cols.toNat := Nat.mul_pos rows (by omega)
    omega
  have earlier {j : Nat} (pos : 0 < j) (le : j ≤ n) : j * S < M := by
    have : j * S ≤ n * S := Nat.mul_le_mul_right S le
    have : 1 * S ≤ j * S := Nat.mul_le_mul_right S pos
    omega
  have total : n * S + (M - n * S) = M := Nat.add_sub_cancel' (by omega)
  have column : Ends (fun fuel => sweepColumn int lo step b full visit n fuel (st (n * S)))
      (.ok (st M)) := by
    have ended := ends_column_full (j := n) (n := M - n * S) (by omega)
      (fun k lt => fits k (by omega)) (fun k lt => visits _ (by omega)) (by rwa [total])
    rwa [total] at ended
  have rest := ends_columnBody column
  rw [filled] at rest
  rw [← Nat.zero_mul S]
  apply (Loop.columns (n := n) (by omega) intCols fits _ (fun m lt => visits m (by omega))
    (fun j pos le => (visits _ (earlier pos le)).notFull) (Loop.leave (by omega) rest)).ends
  intro pos
  have : 1 * S ≤ n * S := Nat.mul_le_mul_right S pos
  exact passed (by omega)

/-- A sweep that is never full visits the whole grid. -/
theorem ends_sweep (intCols : ∀ j : Nat, j < cols → int (j + 1) = .ok (j + 1))
    (fits : ∀ k < S, lo + k * step < b) (passed : ¬ lo + S * step < b)
    (visits : ∀ m < S * cols.toNat, Visits int lo step full visit S st m)
    (notFull : full (st (S * cols.toNat)) = false) :
    Ends (fun fuel => sweep int lo step cols (.ok b) full visit fuel (st 0))
      (.ok (st (S * cols.toNat))) := by
  by_cases some : 0 ≤ cols
  · have total : S * cols.toNat = cols.toNat * S := Nat.mul_comm _ _
    rw [total] at visits notFull ⊢
    rw [← Nat.zero_mul S]
    apply (Loop.columns (n := cols.toNat) (by omega) intCols fits (fun _ => passed) visits _
      (.exit (by omega))).ends
    intro j _ le
    obtain lt | same := Nat.lt_or_eq_of_le (Nat.mul_le_mul_right S le)
    · exact (visits (j * S) lt).notFull
    · rw [same]
      exact notFull
  · have none : cols.toNat = 0 := by omega
    rw [none, Nat.mul_zero]
    exact (Loop.exit (by omega)).ends

/-- A sweep that halts in its `h`-th visit. -/
theorem ends_sweep_halt {h : Nat} {halt : Halt R} (within : h < S * cols.toNat)
    (intCols : ∀ j : Nat, j < cols → int (j + 1) = .ok (j + 1))
    (fits : ∀ k < S, lo + k * step < b) (passed : S ≤ h → ¬ lo + S * step < b)
    (visits : ∀ m < h, Visits int lo step full visit S st m) (notFull : full (st h) = false)
    (halts : visit (lo + (h % S : Nat) * step) (h / S : Nat) (st h) = .error halt ∨
      ∃ t, visit (lo + (h % S : Nat) * step) (h / S : Nat) (st h) = .ok t ∧
        int (lo + (h % S : Nat) * step + step) = .error halt) :
    Ends (fun fuel => sweep int lo step cols (.ok b) full visit fuel (st 0)) (.error halt) := by
  have rows : 0 < S := Nat.pos_of_mul_pos_right (Nat.lt_of_le_of_lt (Nat.zero_le h) within)
  have columns : h / S < cols.toNat := by rwa [Nat.div_lt_iff_lt_mul rows, Nat.mul_comm]
  have column : ((h / S : Nat) : Int) < cols := Int.lt_toNat.mp columns
  have split : h / S * S + h % S = h := Nat.div_add_mod' h S
  have small : h % S < S := Nat.mod_lt h rows
  have inside := fits (h % S) small
  have last : Ends (fun fuel => sweepColumn int lo step b full visit (h / S : Nat) fuel
      (st (h / S * S))) (.error halt) := by
    apply (Loop.rows (n := h % S) small.le (fun k lt => fits k (by omega))
      (fun k lt => visits _ (by omega)) _).ends
    rw [split]
    obtain stops | ⟨t, visited, unfit⟩ := halts
    · apply Loop.halt inside
      rw [rowBody, notFull, stops]
      exact .const _
    · apply Loop.overflow (t := t) inside _ unfit
      rw [rowBody_visited notFull visited]
      exact .const _
  have rest : Ends (fun fuel => columnBody int lo step (.ok b) full visit fuel (h / S : Nat)
      (st (h / S * S))) (.error halt) := last.bind_halt
  rw [← Nat.zero_mul S]
  apply (Loop.columns (n := h / S) column.le intCols fits _ (fun m lt => visits m (by omega))
    _ (Loop.halt column rest)).ends
  · intro pos
    have : 1 * S ≤ h / S * S := Nat.mul_le_mul_right S pos
    exact passed (by omega)
  · intro j pos le
    have : j * S ≤ h / S * S := Nat.mul_le_mul_right S le
    obtain lt | same := Nat.lt_or_eq_of_le (show j * S ≤ h by omega)
    · exact (visits _ lt).notFull
    · rw [same]
      exact notFull

end

end Stepping
