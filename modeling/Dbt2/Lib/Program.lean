import Mathlib

/-!
# Programs that issue statements

A program issues statements one by one and goes on with their replies, until it ends with a value
or raises an error. What a statement does is up to whoever runs the program.

* `exec`: a run on a state that the statements change, which an error leaves as it is;
* `interrupted`: a run in which a statement fails;
* `Always`: a property of all statements that a program may issue;
* `Follows`: a protocol, with a phase for each point of a program, and its rules for programs
  built with `>>=` and `loop`.
-/

inductive Prog (Q : Type) (Reply : Q → Type) (E A : Type)
  | done (a : A)
  | raise (e : E)
  | issue (q : Q) (next : Reply q → Prog Q Reply E A)

namespace Prog

variable {Q : Type} {Reply : Q → Type} {E F A B : Type}

def bind : Prog Q Reply E A → (A → Prog Q Reply E B) → Prog Q Reply E B
  | done a, f => f a
  | raise e, _ => raise e
  | issue q next, f => issue q fun r => bind (next r) f

instance : Monad (Prog Q Reply E) where
  pure := done
  bind := bind

instance : LawfulMonad (Prog Q Reply E) :=
  LawfulMonad.mk' _
    (by
      intro A p
      induction p with
      | done a => rfl
      | raise e => rfl
      | issue q next ih => exact congrArg (issue q) (funext ih))
    (fun _ _ => rfl)
    (by
      intro A B C p f g
      induction p with
      | done a => rfl
      | raise e => rfl
      | issue q next ih => exact congrArg (issue q) (funext ih))

def send (q : Q) : Prog Q Reply E (Reply q) := issue q done

def orRaise (o : Option A) (e : E) : Prog Q Reply E A := o.elim (raise e) done

/-- An error handler. -/
def handle : Prog Q Reply E A → (E → Prog Q Reply F A) → Prog Q Reply F A
  | done a, _ => done a
  | raise e, h => h e
  | issue q next, h => issue q fun r => handle (next r) h

/-- The body for `0`, `1`, and so on below `n`. -/
def loop (body : Nat → Prog Q Reply E A) : Nat → Prog Q Reply E (List A)
  | 0 => pure []
  | n + 1 => do
    let before ← loop body n
    let last ← body n
    pure (before ++ [last])

/-- Like `loop`, with a value that each round takes from the one before. -/
def rounds (body : Nat → A → Prog Q Reply E A) : Nat → A → Prog Q Reply E A
  | 0, a => pure a
  | n + 1, a => rounds body n a >>= body n

@[simp]
theorem send_bind (q : Q) (f : Reply q → Prog Q Reply E B) : (send q >>= f) = issue q f := rfl

@[simp]
theorem raise_bind (e : E) (f : A → Prog Q Reply E B) : (raise e >>= f) = raise e := rfl

@[simp]
theorem issue_bind (q : Q) (next : Reply q → Prog Q Reply E A) (f : A → Prog Q Reply E B) :
    (issue q next >>= f) = issue q fun r => next r >>= f := rfl

@[simp]
theorem handle_issue (q : Q) (next : Reply q → Prog Q Reply E A) (h : E → Prog Q Reply F A) :
    handle (issue q next) h = issue q fun r => handle (next r) h := rfl

@[simp]
theorem handle_pure (a : A) (h : E → Prog Q Reply F A) :
    handle (pure a : Prog Q Reply E A) h = pure a := rfl

@[simp]
theorem handle_raise (e : E) (h : E → Prog Q Reply F A) :
    handle (raise e : Prog Q Reply E A) h = h e := rfl

@[simp]
theorem orRaise_some (a : A) (e : E) : (orRaise (some a) e : Prog Q Reply E A) = pure a := rfl

@[simp]
theorem orRaise_none (e : E) : (orRaise none e : Prog Q Reply E A) = raise e := rfl

/-! ## Runs -/

section Exec

variable {S : Type} (on : (q : Q) → S → Reply q × S)

def exec : Prog Q Reply E A → S → Except E A × S
  | done a, s => (.ok a, s)
  | raise e, s => (.error e, s)
  | issue q next, s => exec (next (on q s).1) (on q s).2

/-- The state if the statement after the first `n` fails, unless the program ends before. -/
def interrupted : Nat → Prog Q Reply E A → S → Option S
  | 0, issue _ _, s => some s
  | n + 1, issue q next, s => interrupted n (next (on q s).1) (on q s).2
  | _, done _, _ => none
  | _, raise _, _ => none

variable {on}

@[simp]
theorem exec_pure (a : A) (s : S) : exec on (pure a : Prog Q Reply E A) s = (.ok a, s) := rfl

@[simp]
theorem exec_issue (q : Q) (next : Reply q → Prog Q Reply E A) (s : S) :
    exec on (issue q next) s = exec on (next (on q s).1) (on q s).2 := rfl

@[simp]
theorem exec_raise (e : E) (s : S) :
    exec on (raise e : Prog Q Reply E A) s = (.error e, s) := rfl

theorem exec_bind_ok {p : Prog Q Reply E A} {f : A → Prog Q Reply E B} {s t : S} {a : A}
    (ran : exec on p s = (.ok a, t)) : exec on (p >>= f) s = exec on (f a) t := by
  induction p generalizing s with
  | done b =>
    cases ran
    rfl
  | raise e => cases ran
  | issue q next ih => exact ih _ ran

theorem exec_bind_error {p : Prog Q Reply E A} {f : A → Prog Q Reply E B} {s t : S} {e : E}
    (ran : exec on p s = (.error e, t)) : exec on (p >>= f) s = (.error e, t) := by
  induction p generalizing s with
  | done b => cases ran
  | raise e =>
    cases ran
    rfl
  | issue q next ih => exact ih _ ran

theorem exec_bind_eq_ok {p : Prog Q Reply E A} {f : A → Prog Q Reply E B} {s u : S} {b : B}
    (ran : exec on (p >>= f) s = (.ok b, u)) :
    ∃ a t, exec on p s = (.ok a, t) ∧ exec on (f a) t = (.ok b, u) := by
  cases first : exec on p s with
  | mk ended t =>
    cases ended with
    | ok a =>
      rw [exec_bind_ok first] at ran
      exact ⟨a, t, rfl, ran⟩
    | error e =>
      rw [exec_bind_error first] at ran
      cases ran

theorem exec_map_ok {p : Prog Q Reply E A} {f : A → B} {s t : S} {a : A}
    (ran : exec on p s = (.ok a, t)) : exec on (f <$> p) s = (.ok (f a), t) := by
  rw [map_eq_pure_bind, exec_bind_ok ran, exec_pure]

theorem exec_handle_ok {p : Prog Q Reply E A} {h : E → Prog Q Reply F A} {s t : S} {a : A}
    (ran : exec on p s = (.ok a, t)) : exec on (handle p h) s = (.ok a, t) := by
  induction p generalizing s with
  | done b =>
    cases ran
    rfl
  | raise e => cases ran
  | issue q next ih => exact ih _ ran

theorem exec_handle_error {p : Prog Q Reply E A} {h : E → Prog Q Reply F A} {s t : S} {e : E}
    (ran : exec on p s = (.error e, t)) : exec on (handle p h) s = exec on (h e) t := by
  induction p generalizing s with
  | done b => cases ran
  | raise e =>
    cases ran
    rfl
  | issue q next ih => exact ih _ ran

theorem exec_handle_eq_ok {p : Prog Q Reply E A} {h : E → Prog Q Reply F A} {s u : S} {a : A}
    (ran : exec on (handle p h) s = (.ok a, u)) :
    exec on p s = (.ok a, u) ∨
      ∃ e t, exec on p s = (.error e, t) ∧ exec on (h e) t = (.ok a, u) := by
  cases first : exec on p s with
  | mk ended t =>
    cases ended with
    | ok b =>
      rw [exec_handle_ok first] at ran
      cases ran
      exact .inl rfl
    | error e =>
      rw [exec_handle_error first] at ran
      exact .inr ⟨e, t, rfl, ran⟩

/-- What every statement preserves, a run preserves, however it ends. -/
theorem exec_invariant {Inv : S → Prop} (kept : ∀ q s, Inv s → Inv (on q s).2)
    (p : Prog Q Reply E A) {s : S} (start : Inv s) : Inv (exec on p s).2 := by
  induction p generalizing s with
  | done a => exact start
  | raise e => exact start
  | issue q next ih => exact ih _ (kept q s start)

/-- What each round preserves that ends well, with the values so far. -/
theorem exec_loop_ok {body : Nat → Prog Q Reply E A} {n : Nat} (Inv : List A → S → Prop)
    (round : ∀ as s a t, as.length < n → Inv as s → exec on (body as.length) s = (.ok a, t) →
      Inv (as ++ [a]) t)
    {s t : S} {as : List A} (ran : exec on (loop body n) s = (.ok as, t)) (start : Inv [] s) :
    as.length = n ∧ Inv as t := by
  induction n generalizing as t with
  | zero =>
    cases ran
    exact ⟨rfl, start⟩
  | succ n ih =>
    obtain ⟨before, u, first, ran⟩ := exec_bind_eq_ok ran
    obtain ⟨a, v, last, ran⟩ := exec_bind_eq_ok ran
    cases ran
    obtain ⟨length, inv⟩ := ih (fun as s a t lt => round as s a t (Nat.lt_succ_of_lt lt)) first
    rw [← length] at last
    refine ⟨by rw [List.length_append, length]; rfl, ?_⟩
    exact round before u a _ (by omega) inv last

/-- A loop ends after its last round or in the first that fails. -/
theorem exec_loop {body : Nat → Prog Q Reply E A} {Inv : Nat → S → Prop} {good : Nat → Prop}
    {Failed : Nat → E → S → Prop} {n : Nat}
    (round : ∀ k s, k < n → Inv k s →
      (good k ∧ ∃ a t, exec on (body k) s = (.ok a, t) ∧ Inv (k + 1) t) ∨
        (¬ good k ∧ ∃ e t, exec on (body k) s = (.error e, t) ∧ Failed k e t))
    {s : S} (start : Inv 0 s) :
    ((∀ k < n, good k) ∧ ∃ as t, exec on (loop body n) s = (.ok as, t) ∧ Inv n t) ∨
      (∃ k < n, (∀ j < k, good j) ∧ ¬ good k ∧
        ∃ e t, exec on (loop body n) s = (.error e, t) ∧ Failed k e t) := by
  induction n with
  | zero => exact .inl ⟨by omega, [], s, rfl, start⟩
  | succ n ih =>
    obtain ⟨below, as, t, ran, inv⟩ | ⟨k, bound, below, bad, e, t, ran, failed⟩ :=
      ih fun k s bound => round k s (Nat.lt_succ_of_lt bound)
    · obtain ⟨here, a, u, last, next⟩ | ⟨bad, e, u, last, failed⟩ :=
        round n t (Nat.lt_succ_self n) inv
      · left
        constructor
        · intro k bound
          obtain lt | rfl := Nat.lt_succ_iff_lt_or_eq.mp bound
          · exact below k lt
          · exact here
        · refine ⟨as ++ [a], u, ?_, next⟩
          unfold loop
          rw [exec_bind_ok ran, exec_bind_ok last, exec_pure]
      · right
        refine ⟨n, Nat.lt_succ_self n, below, bad, e, u, ?_, failed⟩
        unfold loop
        rw [exec_bind_ok ran, exec_bind_error last]
    · right
      refine ⟨k, Nat.lt_succ_of_lt bound, below, bad, e, t, ?_, failed⟩
      unfold loop
      rw [exec_bind_error ran]

/-- Rounds that each end well, from state to state. -/
theorem exec_loop_eq {body : Nat → Prog Q Reply E A} {n : Nat} {a : Nat → A} {s : Nat → S}
    (round : ∀ k < n, exec on (body k) (s k) = (.ok (a k), s (k + 1))) :
    exec on (loop body n) (s 0) = (.ok ((List.range n).map a), s n) := by
  induction n with
  | zero => rfl
  | succ n ih =>
    unfold loop
    rw [exec_bind_ok (ih fun k lt => round k (Nat.lt_succ_of_lt lt)),
      exec_bind_ok (round n (Nat.lt_succ_self n)), exec_pure, List.range_succ, List.map_append]
    rfl

end Exec

/-! ## Statements that may be issued -/

section Always

variable {P : Q → Prop}

/-- Whatever the replies, each statement has a property. -/
def Always (P : Q → Prop) : Prog Q Reply E A → Prop
  | done _ => True
  | raise _ => True
  | issue q next => P q ∧ ∀ r, Always P (next r)

@[simp]
theorem always_pure (a : A) : Always P (pure a : Prog Q Reply E A) := True.intro

@[simp]
theorem always_raise (e : E) : Always P (raise e : Prog Q Reply E A) := True.intro

theorem always_orRaise (o : Option A) (e : E) : Always P (orRaise o e : Prog Q Reply E A) := by
  cases o <;> exact True.intro

theorem always_send {q : Q} (here : P q) : Always P (send q : Prog Q Reply E (Reply q)) :=
  ⟨here, fun _ => True.intro⟩

theorem always_bind {x : Prog Q Reply E A} {f : A → Prog Q Reply E B} (first : Always P x)
    (rest : ∀ a, Always P (f a)) : Always P (x >>= f) := by
  induction x with
  | done a => exact rest a
  | raise e => exact True.intro
  | issue q next ih => exact ⟨first.1, fun r => ih r (first.2 r)⟩

theorem always_loop {body : Nat → Prog Q Reply E A} {n : Nat} (round : ∀ k, Always P (body k)) :
    Always P (loop body n) := by
  induction n with
  | zero => exact True.intro
  | succ n ih => exact always_bind ih fun _ => always_bind (round n) fun _ => True.intro

/-- What statements with the property preserve, a run preserves. -/
theorem always_exec {S : Type} {on : (q : Q) → S → Reply q × S} {Inv : S → Prop}
    (kept : ∀ q s, P q → Inv s → Inv (on q s).2) {p : Prog Q Reply E A} (always : Always P p)
    {s : S} (start : Inv s) : Inv (exec on p s).2 := by
  induction p generalizing s with
  | done a => exact start
  | raise e => exact start
  | issue q next ih => exact ih _ (always.2 _) (kept q s always.1 start)

end Always

/-! ## Protocols -/

/-- In each phase some statements are allowed, and the reply decides between the next phases. -/
structure Protocol (Q : Type) (Reply : Q → Type) (P : Type) where
  allowed : P → Q → Prop
  moves : P → (q : Q) → Reply q → P → Prop

/-- What holds of an error or a value. -/
def Either (error : E → Prop) (value : A → Prop) : Except E A → Prop
  | .error e => error e
  | .ok a => value a

section Follows

variable {P : Type} (protocol : Protocol Q Reply P)

/-- From phase `p` the program only does what is allowed, and it `ends` well, with a value or with
an error. -/
def Follows (ends : P → Except E A → Prop) : P → Prog Q Reply E A → Prop
  | p, done a => ends p (.ok a)
  | p, raise e => ends p (.error e)
  | p, issue q next =>
    protocol.allowed p q ∧ ∀ r p', protocol.moves p q r p' → Follows ends p' (next r)

variable {protocol}

theorem follows_issue {ends : P → Except E A → Prop} {p : P} {q : Q}
    {next : Reply q → Prog Q Reply E A} :
    Follows protocol ends p (issue q next) ↔
      protocol.allowed p q ∧ ∀ r p', protocol.moves p q r p' → Follows protocol ends p' (next r) :=
  Iff.rfl

theorem follows_mono {ends ends' : P → Except E A → Prop} {p : P} {x : Prog Q Reply E A}
    (follows : Follows protocol ends p x) (weaker : ∀ p' r, ends p' r → ends' p' r) :
    Follows protocol ends' p x := by
  induction x generalizing p with
  | done a => exact weaker p _ follows
  | raise e => exact weaker p _ follows
  | issue q next ih =>
    obtain ⟨allowed, onward⟩ := follows
    exact ⟨allowed, fun r p' moves => ih r (onward r p' moves)⟩

/-- What follows the first program starts in the phase where that ends. -/
theorem follows_bind {ends : P → Except E A → Prop} {ends' : P → Except E B → Prop} {p : P}
    {x : Prog Q Reply E A} {f : A → Prog Q Reply E B} (first : Follows protocol ends p x)
    (failed : ∀ p' e, ends p' (.error e) → ends' p' (.error e))
    (rest : ∀ p' a, ends p' (.ok a) → Follows protocol ends' p' (f a)) :
    Follows protocol ends' p (x >>= f) := by
  induction x generalizing p with
  | done a => exact rest p a first
  | raise e => exact failed p e first
  | issue q next ih =>
    obtain ⟨allowed, onward⟩ := first
    exact ⟨allowed, fun r p' moves => ih r (onward r p' moves)⟩

theorem follows_handle {ends : P → Except E A → Prop} {ends' : P → Except F A → Prop} {p : P}
    {x : Prog Q Reply E A} {h : E → Prog Q Reply F A} (first : Follows protocol ends p x)
    (ended : ∀ p' a, ends p' (.ok a) → ends' p' (.ok a))
    (failed : ∀ p' e, ends p' (.error e) → Follows protocol ends' p' (h e)) :
    Follows protocol ends' p (handle x h) := by
  induction x generalizing p with
  | done a => exact ended p a first
  | raise e => exact failed p e first
  | issue q next ih =>
    obtain ⟨allowed, onward⟩ := first
    exact ⟨allowed, fun r p' moves => ih r (onward r p' moves)⟩

/-- A loop keeps an invariant of the rounds and the phases, unless a round fails. -/
theorem follows_loop {inv : Nat → P → Prop} {failed : P → E → Prop}
    {body : Nat → Prog Q Reply E A} {n : Nat}
    (round : ∀ k p, k < n → inv k p →
      Follows protocol (fun p' => Either (failed p') fun _ => inv (k + 1) p') p (body k))
    {p : P} (start : inv 0 p) :
    Follows protocol (fun p' => Either (failed p') fun _ => inv n p') p (loop body n) := by
  induction n with
  | zero => exact start
  | succ n ih =>
    unfold loop
    apply follows_bind (ih fun k p bound => round k p (Nat.lt_succ_of_lt bound))
    · exact fun _ _ error => error
    · intro p' as before
      apply follows_bind (round n p' (Nat.lt_succ_self n) before)
      · exact fun _ _ error => error
      · exact fun _ _ after => after

theorem follows_rounds {inv : Nat → P → A → Prop} {failed : P → E → Prop}
    {body : Nat → A → Prog Q Reply E A} {n : Nat}
    (round : ∀ k p a, k < n → inv k p a →
      Follows protocol (fun p' => Either (failed p') (inv (k + 1) p')) p (body k a))
    {p : P} {a : A} (start : inv 0 p a) :
    Follows protocol (fun p' => Either (failed p') (inv n p')) p (rounds body n a) := by
  induction n with
  | zero => exact start
  | succ n ih =>
    unfold rounds
    apply follows_bind (ih fun k p a bound => round k p a (Nat.lt_succ_of_lt bound))
    · exact fun _ _ error => error
    · exact fun p' a before => round n p' a (Nat.lt_succ_self n) before

/-- A run passes through the phases: where they follow the states, it ends as the program does. -/
theorem follows_exec {S : Type} {on : (q : Q) → S → Reply q × S} {phase : S → P → Prop}
    (moves : ∀ q s p, phase s p → protocol.allowed p q →
      ∃ p', protocol.moves p q (on q s).1 p' ∧ phase (on q s).2 p')
    {ends : P → Except E A → Prop} {p : P} {x : Prog Q Reply E A} {s : S}
    (follows : Follows protocol ends p x) (here : phase s p) :
    ∃ p', phase (exec on x s).2 p' ∧ ends p' (exec on x s).1 := by
  induction x generalizing p s with
  | done a => exact ⟨p, here, follows⟩
  | raise e => exact ⟨p, here, follows⟩
  | issue q next ih =>
    obtain ⟨allowed, onward⟩ := follows
    obtain ⟨p', moved, there⟩ := moves q s p here allowed
    exact ih _ (onward _ p' moved) there

end Follows

end Prog
