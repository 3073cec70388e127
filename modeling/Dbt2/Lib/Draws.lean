import Mathlib

/-!
# Row generators that count their draws

A generator of rows runs in a state `σ` that `next` steps once per draw, and may give up.

* `Takes next n g`: `g` returns from every state and makes exactly `n` draws. The rules
  `Takes.pure`, `Takes.bind` and `rows_takes` add up the draws of a program;
* `Emits g Q`: whatever `g` returns satisfies `Q`, if it returns;
* `forRange`: the rows of a counting loop, in order. `forRange_emits` describes them round by
  round, and `grid` those of three nested loops;
* `Writing`: a program that leaves the rows behind that it had written when it gave up;
* `joinParts_takes`: a loop whose every round makes the same number of draws can be cut at any
  increasing bounds, each piece started from the state jumped ahead by the draws of the rounds
  before it, and the pieces put together are the rows of the uncut loop.
-/

namespace Draws

variable {σ α β : Type}

/-- `g` returns from every state, after exactly `n` draws. -/
def Takes (next : σ → σ) (n : Nat) (g : StateT σ Option α) : Prop :=
  ∀ s, ∃ a, g s = some (a, next^[n] s)

/-- `g` returns from every state, after some number of draws. -/
def Returns (g : StateT σ Option α) : Prop := ∀ s, ∃ p, g s = some p

/-- `g` returns no rows, whatever the state. -/
def Silent (g : StateT σ Option (List α)) : Prop := ∀ s, ∃ t, g s = some ([], t)

/-- What follows a step runs from where the step ended. -/
theorem bind_apply {g : StateT σ Option α} {s t : σ} {a : α} (h : g s = some (a, t))
    (f : α → StateT σ Option β) : (g >>= f) s = f a t := by
  show (g s).bind (fun p => f p.1 p.2) = f a t
  rw [h]
  rfl

theorem Takes.pure {next : σ → σ} (a : α) : Takes next 0 (pure a : StateT σ Option α) :=
  fun _ => ⟨a, rfl⟩

theorem Takes.bind {next : σ → σ} {m n : Nat} {g : StateT σ Option α}
    {f : α → StateT σ Option β} (hg : Takes next m g) (hf : ∀ a, Takes next n (f a)) :
    Takes next (m + n) (g >>= f) := by
  intro s
  obtain ⟨a, ha⟩ := hg s
  obtain ⟨b, hb⟩ := hf a (next^[m] s)
  refine ⟨b, ?_⟩
  rw [Nat.add_comm, Function.iterate_add_apply, ← hb, bind_apply ha]

/-- The last step of a program: what it returns costs no draw. -/
theorem Takes.map {next : σ → σ} {n : Nat} {g : StateT σ Option α} (h : Takes next n g)
    (f : α → β) : Takes next n (g >>= fun a => Pure.pure (f a)) :=
  h.bind fun a => Takes.pure (f a)

theorem Takes.cast {next : σ → σ} {m n : Nat} {g : StateT σ Option α} (h : Takes next m g)
    (e : m = n) : Takes next n g := e ▸ h

/-- Runs `g` on a generator of its own; the outer one stays where it is. -/
def aside (own : σ) (g : StateT σ Option α) : StateT σ Option α := fun s =>
  (g own).map fun p => (p.1, s)

theorem Takes.returns {next : σ → σ} {n : Nat} {g : StateT σ Option α} (h : Takes next n g) :
    Returns g := fun s => (h s).elim fun _ ha => ⟨_, ha⟩

theorem Returns.pure (a : α) : Returns (pure a : StateT σ Option α) := fun s => ⟨(a, s), rfl⟩

theorem Returns.bind {g : StateT σ Option α} {f : α → StateT σ Option β} (hg : Returns g)
    (hf : ∀ a, Returns (f a)) : Returns (g >>= f) := by
  intro s
  obtain ⟨p, hp⟩ := hg s
  obtain ⟨q, hq⟩ := hf p.1 p.2
  exact ⟨q, by rw [bind_apply hp, hq]⟩

/-- A program that returns costs its caller nothing when it draws from a generator of its own. -/
theorem Returns.aside {next : σ → σ} {g : StateT σ Option α} (h : Returns g) (own : σ) :
    Takes next 0 (aside own g) := by
  intro s
  obtain ⟨p, hp⟩ := h own
  exact ⟨p.1, by simp [Draws.aside, hp]⟩

/-! ## What a program returns -/

/-- Whatever `g` returns, from any state, satisfies `Q`. -/
def Emits (g : StateT σ Option α) (Q : α → Prop) : Prop := ∀ s a t, g s = some (a, t) → Q a

theorem Emits.pure {a : α} {Q : α → Prop} (h : Q a) : Emits (pure a : StateT σ Option α) Q := by
  intro s b t returned
  obtain ⟨rfl, rfl⟩ : a = b ∧ s = t := by simpa [Pure.pure, StateT.pure] using returned
  exact h

theorem Emits.bind {g : StateT σ Option α} {f : α → StateT σ Option β} {Q : α → Prop}
    {R : β → Prop} (hg : Emits g Q) (hf : ∀ a, Q a → Emits (f a) R) : Emits (g >>= f) R := by
  intro s b u returned
  cases first : g s with
  | none =>
    have never : (g >>= f) s = none := by
      show (g s).bind _ = none
      rw [first]
      rfl
    rw [never] at returned
    cases returned
  | some p =>
    rw [bind_apply (show g s = some (p.1, p.2) from first)] at returned
    exact hf p.1 (hg s p.1 p.2 first) p.2 b u returned

theorem Emits.mono {g : StateT σ Option α} {Q R : α → Prop} (h : Emits g Q)
    (weaken : ∀ a, Q a → R a) : Emits g R :=
  fun s a t returned => weaken a (h s a t returned)

theorem Emits.trivial (g : StateT σ Option α) : Emits g fun _ => True := fun _ _ _ _ => True.intro

theorem Emits.failure {Q : α → Prop} : Emits (failure : StateT σ Option α) Q := by
  intro s a t returned
  cases returned

theorem Emits.aside {g : StateT σ Option α} {Q : α → Prop} (h : Emits g Q) (own : σ) :
    Emits (aside own g) Q := by
  intro s a t returned
  obtain ⟨p, inner, outer⟩ := Option.map_eq_some_iff.mp returned
  obtain ⟨rfl, -⟩ := Prod.mk.injEq .. ▸ outer
  exact h own p.1 p.2 inner

/-! ## Counting loops -/

/-- The rows of `n` rounds of a loop, the first with index `i`. -/
def rows (body : Int → StateT σ Option (List α)) : Nat → Int → StateT σ Option (List α)
  | 0, _ => pure []
  | n + 1, i => do
    let first ← body i
    let rest ← rows body n (i + 1)
    pure (first ++ rest)

/-- `for (i = lo; i < hi; i++)`, collecting the rows of the rounds. -/
def forRange (lo hi : Int) (body : Int → StateT σ Option (List α)) :
    StateT σ Option (List α) := rows body (hi - lo).toNat lo

theorem forRange_empty {lo hi : Int} (h : hi ≤ lo) (body : Int → StateT σ Option (List α)) :
    forRange lo hi body = pure [] := by
  have none : (hi - lo).toNat = 0 := by omega
  rw [forRange, none, rows]

theorem rows_add (body : Int → StateT σ Option (List α)) (m n : Nat) (i : Int) :
    rows body (m + n) i = (do
      let a ← rows body m i
      let b ← rows body n (i + m)
      pure (a ++ b)) := by
  induction m generalizing i with
  | zero => simp [rows]
  | succ m ih =>
    have next : i + 1 + (m : Int) = i + ((m + 1 : Nat) : Int) := by omega
    rw [Nat.add_right_comm, rows, rows, ih, next]
    simp only [bind_assoc, pure_bind, List.append_assoc]

theorem rows_takes {next : σ → σ} {body : Int → StateT σ Option (List α)} (c : Int → Nat)
    (n : Nat) (i : Int) (h : ∀ j, i ≤ j → j < i + n → Takes next (c j) (body j)) :
    Takes next (∑ k ∈ Finset.range n, c (i + k)) (rows body n i) := by
  induction n generalizing i with
  | zero => exact Takes.pure []
  | succ n ih =>
    have rest := ih (i + 1) fun j lo hi => h j (by omega) (by push_cast; omega)
    have first := h i (by omega) (by push_cast; omega)
    refine (first.bind fun a => rest.map fun b => a ++ b).cast ?_
    rw [Finset.sum_range_succ']
    simp only [Nat.cast_add, Nat.cast_one, Nat.cast_zero, add_zero]
    rw [add_comm]
    congr 1
    exact Finset.sum_congr rfl fun k _ => congrArg c (by omega)

theorem rows_returns {body : Int → StateT σ Option (List α)} (h : ∀ j, Returns (body j))
    (n : Nat) (i : Int) : Returns (rows body n i) := by
  induction n generalizing i with
  | zero => exact Returns.pure []
  | succ n ih => exact (h i).bind fun a => (ih (i + 1)).bind fun b => Returns.pure (a ++ b)

theorem forRange_returns {body : Int → StateT σ Option (List α)} (h : ∀ j, Returns (body j))
    (lo hi : Int) : Returns (forRange lo hi body) := rows_returns h _ _

/-- A loop whose rounds all make `c` draws. -/
theorem forRange_takes {next : σ → σ} {body : Int → StateT σ Option (List α)} {c : Nat}
    (lo hi : Int) (h : ∀ j, lo ≤ j → j < hi → Takes next c (body j)) :
    Takes next ((hi - lo).toNat * c) (forRange lo hi body) := by
  refine (rows_takes (fun _ => c) _ lo fun j l u => h j l (by omega)).cast ?_
  simp

/-- A loop that makes `c` draws a round below the threshold `t`, and `d` from there on. -/
theorem forRange_takes_from {next : σ → σ} {body : Int → StateT σ Option (List α)} {c d : Nat}
    (n t : Nat) (h : ∀ j : Int, 0 ≤ j → j < n → Takes next (if j < t then c else d) (body j)) :
    Takes next (min n t * c + (n - t) * d) (forRange 0 n body) := by
  refine (rows_takes (fun j => if j < t then c else d) _ 0
    fun j l u => h j l (by omega)).cast ?_
  have size : ((n : Int) - 0).toNat = n := by omega
  rw [size]
  simp only [zero_add, Nat.cast_lt]
  clear h size
  induction n with
  | zero => simp
  | succ n ih =>
    rw [Finset.sum_range_succ, ih]
    by_cases early : n < t
    · have e1 : min (n + 1) t = min n t + 1 := by omega
      have e2 : n - t = 0 := by omega
      have e3 : n + 1 - t = 0 := by omega
      rw [if_pos early, e1, e2, e3, Nat.add_mul, one_mul, zero_mul, add_zero, add_zero]
    · have e1 : min (n + 1) t = min n t := by omega
      have e2 : n + 1 - t = n - t + 1 := by omega
      rw [if_neg early, e1, e2, Nat.add_mul, one_mul, add_assoc]

theorem rows_silent {body : Int → StateT σ Option (List α)} (h : ∀ j, Silent (body j))
    (n : Nat) (i : Int) : Silent (rows body n i) := by
  induction n generalizing i with
  | zero => exact fun s => ⟨s, rfl⟩
  | succ n ih =>
    intro s
    obtain ⟨t, ht⟩ := h i s
    obtain ⟨u, hu⟩ := ih (i + 1) t
    refine ⟨u, ?_⟩
    rw [rows, bind_apply ht, bind_apply hu]
    rfl

theorem forRange_silent {body : Int → StateT σ Option (List α)} (h : ∀ j, Silent (body j))
    (lo hi : Int) : Silent (forRange lo hi body) := rows_silent h _ _

theorem forRange_silent_of_le {lo hi : Int} (h : hi ≤ lo)
    (body : Int → StateT σ Option (List α)) : Silent (forRange lo hi body) := by
  rw [forRange_empty h]
  exact fun s => ⟨s, rfl⟩

/-! ## The rows of a loop -/

theorem rows_emits {body : Int → StateT σ Option (List α)} {R : Int → List α → Prop} (n : Nat)
    (i : Int) (h : ∀ k, i ≤ k → k < i + n → Emits (body k) (R k)) :
    Emits (rows body n i) fun out => ∃ f : Int → List α,
      (∀ k, i ≤ k → k < i + n → R k (f k)) ∧
        out = (List.range n).flatMap fun r : Nat => f (i + r) := by
  induction n generalizing i with
  | zero => exact Emits.pure ⟨fun _ => [], fun k l u => by omega, rfl⟩
  | succ n ih =>
    refine (h i le_rfl (by push_cast; omega)).bind fun a first =>
      (ih (i + 1) fun k l u => h k (by omega) (by push_cast; omega)).bind ?_
    rintro b ⟨f, later, rfl⟩
    refine Emits.pure ⟨fun k => if k = i then a else f k, fun k l u => ?_, ?_⟩
    · by_cases here : k = i
      · subst here
        simpa using first
      · simpa only [here, if_false] using later k (by omega) (by push_cast at u; omega)
    · rw [List.range_succ_eq_map, List.flatMap_cons, List.flatMap_map]
      congr 1
      · simp
      · refine List.flatMap_congr fun r _ => ?_
        have after : i + ((r + 1 : Nat) : Int) ≠ i := by push_cast; omega
        simp only [Nat.succ_eq_add_one, if_neg after]
        congr 1
        push_cast
        ring

/-- The rows of a loop are those of its rounds, each as its round emits them. -/
theorem forRange_emits {body : Int → StateT σ Option (List α)} {R : Int → List α → Prop}
    {lo hi : Int} (h : ∀ k, lo ≤ k → k < hi → Emits (body k) (R k)) :
    Emits (forRange lo hi body) fun out => ∃ f : Int → List α,
      (∀ k, lo ≤ k → k < hi → R k (f k)) ∧ out = (Int.range lo hi).flatMap f := by
  refine (rows_emits _ lo fun k l u => h k l (by omega)).mono ?_
  rintro out ⟨f, each, rfl⟩
  refine ⟨f, fun k l u => each k l (by omega), ?_⟩
  rw [Int.range, List.flatMap_map]

/-- A loop that emits one row a round. -/
theorem forRange_emits_map [Nonempty α] {body : Int → StateT σ Option (List α)}
    {R : Int → α → Prop} {lo hi : Int}
    (h : ∀ k, lo ≤ k → k < hi → Emits (body k) fun out => ∃ x, out = [x] ∧ R k x) :
    Emits (forRange lo hi body) fun out => ∃ row : Int → α,
      (∀ k, lo ≤ k → k < hi → R k (row k)) ∧ out = (Int.range lo hi).map row := by
  refine (forRange_emits h).mono ?_
  rintro out ⟨f, each, rfl⟩
  choose! row single holds using each
  refine ⟨row, holds, ?_⟩
  rw [List.map_eq_flatMap]
  refine List.flatMap_congr fun k range => ?_
  obtain ⟨l, u⟩ := Int.mem_range_iff.mp range
  exact single k l u

/-! ## Rows indexed by three loops -/

/-- The rows of three nested loops, one for each round of the innermost. -/
def grid (W D lo hi : Int) (row : Int → Int → Int → α) : List α :=
  (Int.range 0 W).flatMap fun i => (Int.range 0 D).flatMap fun j => (Int.range lo hi).map (row i j)

/-- The two outer loops, over bodies that emit a row a round. -/
theorem forRange_emits_grid [Nonempty α] {body : Int → Int → StateT σ Option (List α)}
    {R : Int → Int → Int → α → Prop} {W D lo hi : Int}
    (h : ∀ i j, Emits (body i j) fun out => ∃ row : Int → α,
      (∀ k, lo ≤ k → k < hi → R i j k (row k)) ∧ out = (Int.range lo hi).map row) :
    Emits (forRange 0 W fun i => forRange 0 D (body i)) fun out =>
      ∃ row : Int → Int → Int → α,
        (∀ i j k, 0 ≤ i → i < W → 0 ≤ j → j < D → lo ≤ k → k < hi → R i j k (row i j k)) ∧
          out = grid W D lo hi row := by
  refine (forRange_emits fun i _ _ => forRange_emits fun j _ _ => h i j).mono ?_
  rintro out ⟨f, outer, rfl⟩
  choose! g inner shape using outer
  choose! row holds single using inner
  refine ⟨row, fun i j k li ui lj uj => holds i li ui j lj uj k, ?_⟩
  refine List.flatMap_congr fun i range => ?_
  obtain ⟨li, ui⟩ := Int.mem_range_iff.mp range
  rw [shape i li ui]
  refine List.flatMap_congr fun j range' => ?_
  obtain ⟨lj, uj⟩ := Int.mem_range_iff.mp range'
  exact single i li ui j lj uj

theorem mem_grid {W D lo hi : Int} {row : Int → Int → Int → α} {x : α} :
    x ∈ grid W D lo hi row ↔
      ∃ i j k, 0 ≤ i ∧ i < W ∧ 0 ≤ j ∧ j < D ∧ lo ≤ k ∧ k < hi ∧ row i j k = x := by
  simp only [grid, List.mem_flatMap, List.mem_map, Int.mem_range_iff]
  constructor
  · rintro ⟨i, ⟨li, ui⟩, j, ⟨lj, uj⟩, k, ⟨lk, uk⟩, same⟩
    exact ⟨i, j, k, li, ui, lj, uj, lk, uk, same⟩
  · rintro ⟨i, j, k, li, ui, lj, uj, lk, uk, same⟩
    exact ⟨i, ⟨li, ui⟩, j, ⟨lj, uj⟩, k, ⟨lk, uk⟩, same⟩

theorem grid_congr {W D lo hi : Int} {row row' : Int → Int → Int → α}
    (h : ∀ i j k, 0 ≤ i → i < W → 0 ≤ j → j < D → lo ≤ k → k < hi → row i j k = row' i j k) :
    grid W D lo hi row = grid W D lo hi row' := by
  refine List.flatMap_congr fun i hi' => List.flatMap_congr fun j hj => List.map_congr_left ?_
  intro k hk
  obtain ⟨li, ui⟩ := Int.mem_range_iff.mp hi'
  obtain ⟨lj, uj⟩ := Int.mem_range_iff.mp hj
  obtain ⟨lk, uk⟩ := Int.mem_range_iff.mp hk
  exact h i j k li ui lj uj lk uk

theorem nodup_range (lo hi : Int) : (Int.range lo hi).Nodup :=
  List.Nodup.map (fun a b same => by simpa using same) List.nodup_range

/-- A filter that only one round of a loop passes. -/
theorem filter_flatMap_single {ι : Type} {l : List ι} (nodup : l.Nodup) {a : ι} (mem : a ∈ l)
    {f : ι → List α} {p : α → Bool} (other : ∀ b ∈ l, b ≠ a → (f b).filter p = []) :
    (l.flatMap f).filter p = (f a).filter p := by
  induction l with
  | nil => cases mem
  | cons b l ih =>
    obtain ⟨fresh, rest⟩ := List.nodup_cons.mp nodup
    rw [List.flatMap_cons, List.filter_append]
    by_cases here : b = a
    · subst here
      have later : (l.flatMap f).filter p = [] := by
        refine List.filter_eq_nil_iff.mpr fun x hx => ?_
        obtain ⟨c, hc, row⟩ := List.mem_flatMap.mp hx
        have none := other c (List.mem_cons_of_mem _ hc) fun same => fresh (same ▸ hc)
        exact List.filter_eq_nil_iff.mp none x row
      rw [later, List.append_nil]
    · rw [other b List.mem_cons_self here, List.nil_append]
      exact ih rest ((List.mem_cons.mp mem).resolve_left fun same => here same.symm)
        fun c hc => other c (List.mem_cons_of_mem _ hc)

/-- The rows under one pair of outer indices, when a filter can tell. -/
theorem filter_grid {W D lo hi i j : Int} {row : Int → Int → Int → α} {p : α → Bool}
    (outer : 0 ≤ i ∧ i < W) (inner : 0 ≤ j ∧ j < D)
    (key : ∀ i' j' k, 0 ≤ i' → i' < W → 0 ≤ j' → j' < D → lo ≤ k → k < hi →
      (p (row i' j' k) ↔ i' = i ∧ j' = j)) :
    (grid W D lo hi row).filter p = (Int.range lo hi).map (row i j) := by
  have none (i' j' : Int) (li : 0 ≤ i') (ui : i' < W) (lj : 0 ≤ j') (uj : j' < D)
      (other : ¬ (i' = i ∧ j' = j)) : ((Int.range lo hi).map (row i' j')).filter p = [] := by
    refine List.filter_eq_nil_iff.mpr fun x hx holds => other ?_
    obtain ⟨k, range, rfl⟩ := List.mem_map.mp hx
    obtain ⟨lk, uk⟩ := Int.mem_range_iff.mp range
    exact (key i' j' k li ui lj uj lk uk).mp holds
  rw [grid, filter_flatMap_single (nodup_range 0 W) (Int.mem_range_iff.mpr outer) fun i' hi' ne => ?_,
    filter_flatMap_single (nodup_range 0 D) (Int.mem_range_iff.mpr inner) fun j' hj' ne => ?_]
  · refine List.filter_eq_self.mpr fun x hx => ?_
    obtain ⟨k, range, rfl⟩ := List.mem_map.mp hx
    obtain ⟨lk, uk⟩ := Int.mem_range_iff.mp range
    exact (key i j k outer.1 outer.2 inner.1 inner.2 lk uk).mpr ⟨rfl, rfl⟩
  · obtain ⟨lj, uj⟩ := Int.mem_range_iff.mp hj'
    exact none i j' outer.1 outer.2 lj uj fun same => ne same.2
  · obtain ⟨li, ui⟩ := Int.mem_range_iff.mp hi'
    refine List.filter_eq_nil_iff.mpr fun x hx => ?_
    obtain ⟨j', range, row'⟩ := List.mem_flatMap.mp hx
    obtain ⟨lj, uj⟩ := Int.mem_range_iff.mp range
    exact List.filter_eq_nil_iff.mp (none i' j' li ui lj uj fun same => ne same.1) x row'

/-- A filter that accepts or rejects the rows of a round together. -/
theorem filter_flatMap_of_rounds {ι : Type} {l : List ι} {f : ι → List α} {p : α → Bool}
    {q : ι → Bool} (h : ∀ a ∈ l, ∀ x ∈ f a, p x = q a) :
    (l.flatMap f).filter p = (l.filter q).flatMap f := by
  induction l with
  | nil => rfl
  | cons a l ih =>
    have rest := ih fun b hb => h b (List.mem_cons_of_mem _ hb)
    rw [List.flatMap_cons, List.filter_append, rest]
    by_cases passes : q a
    · have all : (f a).filter p = f a :=
        List.filter_eq_self.mpr fun x hx => (h a List.mem_cons_self x hx).trans passes
      rw [all, List.filter_cons_of_pos passes, List.flatMap_cons]
    · have none : (f a).filter p = [] := List.filter_eq_nil_iff.mpr fun x hx => by
        rw [h a List.mem_cons_self x hx]
        exact passes
      rw [none, List.filter_cons_of_neg passes, List.nil_append]

theorem length_range (lo hi : Int) : (Int.range lo hi).length = (hi - lo).toNat := by
  simp [Int.range]

theorem countP_range {lo hi k : Int} (low : lo ≤ k) :
    (Int.range lo hi).countP (fun m => k < m) = (hi - (k + 1)).toNat := by
  have later : ((Int.range lo hi).filter fun m => k < m).toFinset = Finset.Ico (k + 1) hi := by
    ext m
    simp only [List.toFinset_filter, Finset.mem_filter, List.mem_toFinset, Int.mem_range_iff,
      decide_eq_true_eq, Finset.mem_Ico]
    omega
  rw [List.countP_eq_length_filter, ← List.toFinset_card_of_nodup ((nodup_range lo hi).filter _),
    later, Int.card_Ico]

/-! ## Rows before a failure -/

/-- The rows that a program writes, and its state after them unless it gives up. -/
abbrev Writing (σ α : Type) := σ → List α × Option σ

namespace Writing

/-- Rows that are written at once, when the program can no longer give up. -/
def once (g : StateT σ Option (List α)) : Writing σ α := fun s =>
  match g s with
  | some (rows, t) => (rows, some t)
  | none => ([], none)

/-- After `g`, which writes nothing. -/
def after (g : StateT σ Option β) (w : β → Writing σ α) : Writing σ α := fun s =>
  match g s with
  | some (b, t) => w b t
  | none => ([], none)

def rounds (body : Int → Writing σ α) : Nat → Int → Writing σ α
  | 0, _, s => ([], some s)
  | n + 1, i, s =>
    match body i s with
    | (first, none) => (first, none)
    | (first, some t) => (first ++ (rounds body n (i + 1) t).1, (rounds body n (i + 1) t).2)

/-- The counting loop, left where a round gives up. -/
def forRange (lo hi : Int) (body : Int → Writing σ α) : Writing σ α :=
  rounds body (hi - lo).toNat lo

/-- What a program that returns has written. -/
def Writes (w : Writing σ α) (g : StateT σ Option (List α)) : Prop :=
  ∀ s out t, g s = some (out, t) → w s = (out, some t)

theorem once_writes (g : StateT σ Option (List α)) : Writes (once g) g := by
  intro s out t returned
  simp only [once, returned]

theorem Writes.after {g : StateT σ Option β} {w : β → Writing σ α}
    {f : β → StateT σ Option (List α)} (h : ∀ b, Writes (w b) (f b)) :
    Writes (after g w) (g >>= f) := by
  intro s out t returned
  cases first : g s with
  | none =>
    have never : (g >>= f) s = none := by
      show (g s).bind _ = none
      rw [first]
      rfl
    rw [never] at returned
    cases returned
  | some p =>
    rw [bind_apply (show g s = some (p.1, p.2) from first)] at returned
    simp only [Writing.after, first]
    exact h p.1 p.2 out t returned

theorem Writes.rounds {w : Int → Writing σ α} {body : Int → StateT σ Option (List α)}
    (h : ∀ i, Writes (w i) (body i)) (n : Nat) (i : Int) :
    Writes (rounds w n i) (rows body n i) := by
  induction n generalizing i with
  | zero =>
    intro s out t returned
    cases returned
    rfl
  | succ n ih =>
    intro s out t returned
    obtain ⟨⟨first, u⟩, ran, returned⟩ := Option.bind_eq_some_iff.mp returned
    obtain ⟨⟨rest, v⟩, later, same⟩ := Option.bind_eq_some_iff.mp returned
    cases same
    simp only [Writing.rounds, h i s first u ran, ih (i + 1) u rest t later]

theorem Writes.forRange {w : Int → Writing σ α} {body : Int → StateT σ Option (List α)}
    (h : ∀ i, Writes (w i) (body i)) (lo hi : Int) :
    Writes (forRange lo hi w) (Draws.forRange lo hi body) := Writes.rounds h _ _

/-- A loop in which some round gives up does not come to its end. -/
theorem rounds_none {w : Int → Writing σ α} {n : Nat} {i k : Int} (low : i ≤ k) (high : k < i + n)
    (gives_up : ∀ s, (w k s).2 = none) (s : σ) : (rounds w n i s).2 = none := by
  induction n generalizing i s with
  | zero => omega
  | succ n ih =>
    unfold rounds
    split
    · rfl
    · rename_i first t ran
      obtain rfl | later := eq_or_lt_of_le low
      · have up := gives_up s
        rw [ran] at up
        cases up
      · exact ih (by omega) (by push_cast at high; omega) t

theorem forRange_none {w : Int → Writing σ α} {lo hi k : Int} (low : lo ≤ k) (high : k < hi)
    (gives_up : ∀ s, (w k s).2 = none) (s : σ) : (forRange lo hi w s).2 = none :=
  rounds_none low (by omega) gives_up s

/-- If the first round gives up, there is no other. -/
theorem forRange_first {w : Int → Writing σ α} {lo hi : Int} (some' : lo < hi) {s : σ}
    (gives_up : (w lo s).2 = none) : forRange lo hi w s = ((w lo s).1, none) := by
  obtain ⟨n, count⟩ := Nat.exists_eq_succ_of_ne_zero (by omega : (hi - lo).toNat ≠ 0)
  rw [forRange, count, rounds]
  cases ran : w lo s with
  | mk first t =>
    rw [ran] at gives_up
    cases gives_up
    rfl

/-- Each row is one of some round. -/
theorem forRange_forall {w : Int → Writing σ α} {P : α → Prop} (h : ∀ i s, ∀ a ∈ (w i s).1, P a)
    (lo hi : Int) (s : σ) : ∀ a ∈ (forRange lo hi w s).1, P a := by
  unfold forRange
  generalize (hi - lo).toNat = n
  induction n generalizing lo s with
  | zero => exact List.forall_mem_nil P
  | succ n ih =>
    unfold rounds
    split
    · rename_i first ran
      exact fun a mem => h lo s a (by rwa [ran])
    · rename_i first t ran
      intro a mem
      obtain here | later := List.mem_append.mp mem
      · exact h lo s a (by rwa [ran])
      · exact ih (lo + 1) t a later

theorem once_forall {g : StateT σ Option (List α)} {P : α → Prop}
    (h : Emits g fun out => ∀ a ∈ out, P a) (s : σ) : ∀ a ∈ (once g s).1, P a := by
  unfold once
  split
  · rename_i out t ran
    exact h s out t ran
  · exact List.forall_mem_nil P

end Writing

/-! ## Cutting a loop into parts -/

/-- The rows a program returns from a state. -/
def output (g : StateT σ Option α) (s : σ) : Option α := (g s).map Prod.fst

/-- The rows of the parts `0, …, P - 1`, put together in order. -/
def joinParts (part : Nat → Option (List α)) : Nat → Option (List α)
  | 0 => some []
  | P + 1 => do
    let before ← joinParts part P
    let last ← part P
    pure (before ++ last)

theorem joinParts_congr {f g : Nat → Option (List α)} (P : Nat) (h : ∀ p < P, f p = g p) :
    joinParts f P = joinParts g P := by
  induction P with
  | zero => rfl
  | succ P ih =>
    rw [joinParts, joinParts, ih fun p hp => h p (by omega), h P (by omega)]

/-- A projection of the rows, row by row, commutes with putting parts together. -/
theorem joinParts_map {f : List α → List β} (nil : f [] = [])
    (append : ∀ a b, f (a ++ b) = f a ++ f b) (part : Nat → Option (List α)) (P : Nat) :
    joinParts (fun p => (part p).map f) P = (joinParts part P).map f := by
  induction P with
  | zero => simp [joinParts, nil]
  | succ P ih =>
    rw [joinParts, joinParts, ih]
    cases joinParts part P <;> cases part P <;> simp [append]

theorem output_rows_add {next : σ → σ} {body : Int → StateT σ Option (List α)} {k m : Nat}
    {i : Int} (h : Takes next k (rows body m i)) (n : Nat) (s : σ) :
    output (rows body (m + n) i) s = (do
      let a ← output (rows body m i) s
      let b ← output (rows body n (i + m)) (next^[k] s)
      pure (a ++ b)) := by
  obtain ⟨a, ha⟩ := h s
  rw [rows_add]
  simp only [output, bind_apply ha, ha]
  show Option.map Prod.fst ((rows body n (i + m) (next^[k] s)).bind _) = _
  cases rows body n (i + m) (next^[k] s) <;> rfl

/-- Every part jumps over the draws of the rounds before it and runs its own rounds. -/
theorem joinParts_takes {next : σ → σ} {body : Int → StateT σ Option (List α)} {c : Nat}
    {bound : Nat → Int} (mono : Monotone bound) (h : ∀ j, bound 0 ≤ j → Takes next c (body j))
    (P : Nat) (s : σ) :
    joinParts (fun p => output (forRange (bound p) (bound (p + 1)) body)
        (next^[(bound p - bound 0).toNat * c] s)) P =
      output (forRange (bound 0) (bound P) body) s := by
  induction P with
  | zero => rw [forRange_empty le_rfl]; rfl
  | succ P ih =>
    have lower : bound 0 ≤ bound P := mono (Nat.zero_le P)
    have upper : bound P ≤ bound (P + 1) := mono (Nat.le_succ P)
    have split : (bound (P + 1) - bound 0).toNat =
        (bound P - bound 0).toNat + (bound (P + 1) - bound P).toNat := by omega
    have start : bound 0 + ((bound P - bound 0).toNat : Int) = bound P := by omega
    have before := forRange_takes (bound 0) (bound P) fun j l _ => h j l
    rw [joinParts, ih]
    conv_rhs => rw [forRange, split, output_rows_add before, start]
    rfl

theorem Emits.output {g : StateT σ Option α} {Q : α → Prop} (h : Emits g Q) {s : σ} {a : α}
    (returned : output g s = some a) : Q a := by
  obtain ⟨p, ran, rfl⟩ := Option.map_eq_some_iff.mp returned
  exact h s p.1 p.2 ran

theorem joinParts_nil {part : Nat → Option (List α)} (P : Nat) (h : ∀ p < P, part p = some []) :
    joinParts part P = some [] := by
  induction P with
  | zero => rfl
  | succ P ih =>
    rw [joinParts, ih fun p hp => h p (by omega), h P (by omega)]
    rfl

theorem Silent.output {g : StateT σ Option (List α)} (h : Silent g) (s : σ) :
    output g s = some [] := by
  obtain ⟨t, ht⟩ := h s
  simp [Draws.output, ht]

end Draws
