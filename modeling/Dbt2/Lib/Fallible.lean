import Mathlib

/-!
# Computations that may fail

* `orFail`: an optional value or an error;
* `bind_eq_ok`, `mapM_eq_ok`: a computation in steps succeeds if every step does;
* `rounds`: a loop whose body may fail and yields a value each round, with its invariant rule and,
  where it is known which rounds fail, its outcome;
* `roundsMeet`: every round meets a condition on the state it finds.
-/

namespace Fallible

variable {E S A B : Type}

def orFail (o : Option A) (e : E) : Except E A :=
  match o with
  | some a => .ok a
  | none => .error e

@[simp]
theorem orFail_eq_ok {o : Option A} {e : E} {a : A} : orFail o e = .ok a ↔ o = some a := by
  cases o <;> simp [orFail]

@[simp]
theorem ok_bind {a : A} {f : A → Except E B} : ((.ok a : Except E A) >>= f) = f a := rfl

@[simp]
theorem orFail_some_bind {a : A} {e : E} {f : A → Except E B} :
    (orFail (some a) e >>= f) = f a := rfl

@[simp]
theorem orFail_none_bind {e : E} {f : A → Except E B} : (orFail none e >>= f) = .error e := rfl

theorem bind_eq_ok {x : Except E A} {f : A → Except E B} {b : B} :
    (x >>= f) = .ok b ↔ ∃ a, x = .ok a ∧ f a = .ok b := by
  cases x <;> simp [bind, Except.bind]

theorem map_eq_ok {f : A → B} {x : Except E A} {b : B} :
    x.map f = .ok b ↔ ∃ a, x = .ok a ∧ f a = b := by
  cases x <;> simp [Except.map]

theorem mapError_eq_ok {F : Type} {f : E → F} {x : Except E A} {a : A} :
    x.mapError f = .ok a ↔ x = .ok a := by
  cases x <;> simp [Except.mapError]

theorem toOption_map_eq_some {f : A → B} {x : Except E A} {b : B} :
    x.toOption.map f = some b ↔ ∃ a, x = .ok a ∧ f a = b := by
  cases x <;> simp [Except.toOption]

/-- A traversal succeeds if each element does. -/
theorem mapM_eq_ok {f : A → Except E B} {as : List A} {bs : List B} :
    as.mapM f = .ok bs ↔ List.Forall₂ (fun a b => f a = .ok b) as bs := by
  induction as generalizing bs with
  | nil => cases bs <;> simp [pure, Except.pure]
  | cons a as ih =>
    rw [List.mapM_cons, bind_eq_ok]
    constructor
    · rintro ⟨b, first, others⟩
      obtain ⟨bs', rest, last⟩ := bind_eq_ok.mp others
      cases last
      exact .cons first (ih.mp rest)
    · intro all
      cases all with
      | cons first rest => exact ⟨_, first, bind_eq_ok.mpr ⟨_, ih.mpr rest, rfl⟩⟩

theorem exists_of_mem_mapM {f : A → Except E B} {as : List A} {bs : List B}
    (done : as.mapM f = .ok bs) {b : B} (mem : b ∈ bs) : ∃ a ∈ as, f a = .ok b := by
  induction mapM_eq_ok.mp done with
  | nil => cases mem
  | cons first rest ih =>
    obtain rfl | later := List.mem_cons.mp mem
    · exact ⟨_, List.mem_cons_self, first⟩
    · obtain ⟨a, there, done⟩ := ih (mapM_eq_ok.mpr rest) later
      exact ⟨a, List.mem_cons_of_mem _ there, done⟩

theorem foldlM_cons_eq_ok {G : Type} {step : S → G → Except E S} {g : G} {gs : List G} {s t : S} :
    (g :: gs).foldlM step s = .ok t ↔ ∃ u, step s g = .ok u ∧ gs.foldlM step u = .ok t := by
  rw [List.foldlM_cons, bind_eq_ok]

/-- What every step of a fold preserves that succeeds. -/
theorem foldlM_invariant {G : Type} {step : S → G → Except E S} {Inv : S → Prop}
    (preserved : ∀ s g t, step s g = .ok t → Inv s → Inv t) {gs : List G} {s t : S}
    (done : gs.foldlM step s = .ok t) (start : Inv s) : Inv t := by
  induction gs generalizing s with
  | nil =>
    cases done
    exact start
  | cons g gs ih =>
    obtain ⟨u, first, rest⟩ := foldlM_cons_eq_ok.mp done
    exact ih rest (preserved s g u first start)

/-- The body for `0`, `1`, and so on below `n`. -/
def rounds (body : Nat → S → Except E (S × A)) : Nat → S → Except E (S × List A)
  | 0, s => .ok (s, [])
  | n + 1, s => do
    let before ← rounds body n s
    let last ← body n before.1
    pure (last.1, before.2 ++ [last.2])

theorem rounds_succ {body : Nat → S → Except E (S × A)} {n : Nat} {s t : S} {as : List A}
    (h : rounds body (n + 1) s = .ok (t, as)) : ∃ u bs a, rounds body n s = .ok (u, bs) ∧
      body n u = .ok (t, a) ∧ as = bs ++ [a] := by
  obtain ⟨⟨u, bs⟩, before, h⟩ := bind_eq_ok.mp h
  obtain ⟨⟨v, a⟩, last, h⟩ := bind_eq_ok.mp h
  cases h
  exact ⟨u, bs, a, before, last, rfl⟩

theorem rounds_eq {body body' : Nat → S → Except E (S × A)} {n : Nat}
    (same : ∀ k s, k < n → body' k s = body k s) (s : S) : rounds body' n s = rounds body n s := by
  induction n with
  | zero => rfl
  | succ n ih =>
    have before : rounds body' n s = rounds body n s :=
      ih fun k s bound => same k s (Nat.lt_succ_of_lt bound)
    simp only [rounds, before, same n _ (Nat.lt_succ_self n)]

/-- What every round that succeeds preserves, of the state and the values so far. -/
theorem rounds_trace {body : Nat → S → Except E (S × A)} {Inv : Nat → S → List A → Prop} {n : Nat}
    (preserved : ∀ k s t a as, k < n → body k s = .ok (t, a) → Inv k s as →
      Inv (k + 1) t (as ++ [a])) {s t : S}
    {as : List A} (ran : rounds body n s = .ok (t, as)) (start : Inv 0 s []) : Inv n t as := by
  induction n generalizing t as with
  | zero =>
    cases ran
    exact start
  | succ n ih =>
    obtain ⟨u, bs, a, before, last, rfl⟩ := rounds_succ ran
    have held : Inv n u bs :=
      ih (fun k s t a as bound => preserved k s t a as (Nat.lt_succ_of_lt bound)) before
    exact preserved n u t a bs (Nat.lt_succ_self n) last held

/-- What every round that succeeds preserves holds after the loop. -/
theorem rounds_invariant {body : Nat → S → Except E (S × A)} {Inv : Nat → S → Prop} {n : Nat}
    (preserved : ∀ k s t a, k < n → body k s = .ok (t, a) → Inv k s → Inv (k + 1) t) {s t : S}
    {as : List A} (ran : rounds body n s = .ok (t, as)) (start : Inv 0 s) : Inv n t := by
  have trace (k : Nat) (s t : S) (a : A) (as : List A) (bound : k < n) :
      body k s = .ok (t, a) → Inv k s → Inv (k + 1) t := preserved k s t a bound
  exact rounds_trace trace ran start

/-- A loop succeeds if each round does in the states that those before lead to. -/
theorem rounds_succeed {body : Nat → S → Except E (S × A)} {Inv : Nat → S → List A → Prop}
    {n : Nat} (round : ∀ k s as, k < n → Inv k s as →
      ∃ t a, body k s = .ok (t, a) ∧ Inv (k + 1) t (as ++ [a]))
    {s : S} (start : Inv 0 s []) : ∃ t as, rounds body n s = .ok (t, as) ∧ Inv n t as := by
  induction n with
  | zero => exact ⟨s, [], rfl, start⟩
  | succ n ih =>
    obtain ⟨u, bs, before, inv⟩ := ih fun k s as bound => round k s as (Nat.lt_succ_of_lt bound)
    obtain ⟨t, a, last, next⟩ := round n u bs (Nat.lt_succ_self n) inv
    refine ⟨t, bs ++ [a], ?_, next⟩
    simp [rounds, before, last, bind, Except.bind, pure, Except.pure]

/-- A loop whose rounds succeed exactly where they are good. -/
theorem rounds_cases {body : Nat → S → Except E (S × A)} {Inv : Nat → S → Prop}
    {good : Nat → Prop} {n : Nat}
    (round : ∀ k s, k < n → Inv k s →
      (good k ∧ ∃ t a, body k s = .ok (t, a) ∧ Inv (k + 1) t) ∨
        (¬ good k ∧ ∃ e, body k s = .error e))
    {s : S} (start : Inv 0 s) :
    ((∀ k < n, good k) ∧ ∃ t as, rounds body n s = .ok (t, as) ∧ Inv n t) ∨
      ((∃ k < n, ¬ good k) ∧ ∃ e, rounds body n s = .error e) := by
  induction n with
  | zero => exact .inl ⟨by omega, s, [], rfl, start⟩
  | succ n ih =>
    obtain ⟨below, t, as, ran, inv⟩ | ⟨⟨k, bound, bad⟩, e, failed⟩ :=
      ih fun k s bound => round k s (Nat.lt_succ_of_lt bound)
    · obtain ⟨here, u, a, last, next⟩ | ⟨bad, e, failed⟩ := round n t (Nat.lt_succ_self n) inv
      · refine .inl ⟨?_, u, as ++ [a], by simp [rounds, ran, last, bind, Except.bind, pure,
          Except.pure], next⟩
        intro k bound
        obtain lt | rfl := Nat.lt_succ_iff_lt_or_eq.mp bound
        · exact below k lt
        · exact here
      · exact .inr ⟨⟨n, Nat.lt_succ_self n, bad⟩, e, by simp [rounds, ran, failed, bind,
          Except.bind]⟩
    · exact .inr ⟨⟨k, Nat.lt_succ_of_lt bound, bad⟩, e, by simp [rounds, failed, bind,
        Except.bind]⟩

/-- Every round meets a condition on the state it finds. -/
def roundsMeet (body : Nat → S → Except E (S × A)) (good : Nat → S → Bool) : Nat → S → Bool
  | 0, _ => true
  | n + 1, s => roundsMeet body good n s &&
    match rounds body n s with
    | .ok (t, _) => good n t
    | .error _ => true

theorem roundsMeet_succ {body : Nat → S → Except E (S × A)} {good : Nat → S → Bool} {n : Nat}
    {s t : S} {as : List A} (meet : roundsMeet body good (n + 1) s)
    (ran : rounds body n s = .ok (t, as)) : roundsMeet body good n s ∧ good n t := by
  simpa [roundsMeet, ran] using meet

/-- What every round preserves that succeeds and meets the condition. -/
theorem rounds_invariant_along {body : Nat → S → Except E (S × A)} {good : Nat → S → Bool}
    {Inv : S → Prop} {n : Nat}
    (preserved : ∀ k s t a, k < n → body k s = .ok (t, a) → good k s → Inv s → Inv t) {s t : S}
    {as : List A} (ran : rounds body n s = .ok (t, as)) (meet : roundsMeet body good n s)
    (start : Inv s) : Inv t := by
  induction n generalizing t as with
  | zero =>
    cases ran
    exact start
  | succ n ih =>
    obtain ⟨u, bs, a, before, last, rfl⟩ := rounds_succ ran
    obtain ⟨earlier, here⟩ := roundsMeet_succ meet before
    have held : Inv u :=
      ih (fun k s t a bound => preserved k s t a (Nat.lt_succ_of_lt bound)) before earlier
    exact preserved n u t a (Nat.lt_succ_self n) last here held

/-- Two loops are the same if their rounds are, in the states that meet the condition. -/
theorem rounds_congr {body body' : Nat → S → Except E (S × A)} {good : Nat → S → Bool} {n : Nat}
    (same : ∀ k s, k < n → good k s → body' k s = body k s) {s : S}
    (meet : roundsMeet body good n s) : rounds body' n s = rounds body n s := by
  induction n with
  | zero => rfl
  | succ n ih =>
    have before : rounds body' n s = rounds body n s := by
      refine ih (fun k s bound => same k s (Nat.lt_succ_of_lt bound)) ?_
      simp only [roundsMeet, Bool.and_eq_true] at meet
      exact meet.1
    cases ran : rounds body n s with
    | error e => simp [rounds, before, ran, bind, Except.bind]
    | ok result =>
      obtain ⟨t, as⟩ := result
      have here := same n t (Nat.lt_succ_self n) (roundsMeet_succ meet ran).2
      simp [rounds, before, ran, here, bind, Except.bind]

end Fallible
