import Dbt2.Lib.Locking

/-!
# Serial executions

A transaction keeps its locks until it ends. If what its program does with a reply depends only on
rows that it has locked, and on what no other transaction changes, then whatever else happens
before it commits, it yields and leaves what it would on the rows that it finds when it commits.

* `Evolution`: how rows may change;
* `Steady`: a program whose plain queries only depend on what rows keep as they evolve;
* `serially`: programs one after the other, each with no other transactions;
* `Replays`: a transaction has got where its program would have got alone;
* `serializable`: a run of steady programs is a serial one in the order of the commits.
-/

namespace Locking

open Transition Prog

/-- Which rows may follow a row, or none, at each key. -/
structure Evolution (K : Type) (R : K → Type) where
  row : (k : K) → Option (R k) → Option (R k) → Prop
  refl : ∀ k r, row k r r
  trans : ∀ k r r' r'', row k r r' → row k r' r'' → row k r r''

variable {K : Type} {R : K → Type} {O E A X : Type}

namespace Evolution

variable (evolution : Evolution K R)

def Later (store store' : Store K R) : Prop := ∀ k, evolution.row k (store k) (store' k)

/-- Where there is no row, none is inserted. -/
def Closed (k : K) : Prop := ∀ r, evolution.row k none r → r = none

variable {evolution} {store store' store'' : Store K R}

theorem Later.refl (store : Store K R) : evolution.Later store store :=
  fun k => evolution.refl k (store k)

theorem Later.trans (first : evolution.Later store store')
    (second : evolution.Later store' store'') : evolution.Later store store'' :=
  fun k => evolution.trans k _ _ _ (first k) (second k)

end Evolution

/-- What a program may rely on: rows that it has locked and that exist, and rows that it has
changed. -/
structure Known (K : Type) where
  held : K → Prop
  written : K → Prop

namespace Known

def nothing : Known K := ⟨fun _ => False, fun _ => False⟩

variable (known : Known K)

def lock (k : K) (there : Bool) : Known K :=
  { known with held := fun k' => known.held k' ∨ k' = k ∧ there }

def write (k : K) (before after : Bool) : Known K where
  held k' := (k' ≠ k ∧ known.held k') ∨ k' = k ∧ after
  written k' := known.written k' ∨ k' = k ∧ (before ∨ after)

structure Within (known known' : Known K) : Prop where
  held : ∀ k, known.held k → known'.held k
  written : ∀ k, known.written k → known'.written k

theorem nothing_within : nothing.Within known := ⟨fun _ none => none.elim, fun _ none => none.elim⟩

variable {known} {known' : Known K}

theorem Within.lock (within : known.Within known') (k : K) (there : Bool) :
    (known.lock k there).Within (known'.lock k there) :=
  ⟨fun k' => Or.imp_left (within.held k'), within.written⟩

theorem Within.write (within : known.Within known') (k : K) (before after : Bool) :
    (known.write k before after).Within (known'.write k before after) :=
  ⟨fun k' => Or.imp_left (And.imp_right (within.held k')), fun k' => Or.imp_left (within.written k')⟩

end Known

/-- A query sees a row that the program has changed, or the program goes on in the same way however
the row has evolved; and a row that is locked or changed exists, or it cannot be inserted. -/
def Steady (evolution : Evolution K R) : Known K → Procedure K R O E A → Prop
  | _, .done _ => True
  | _, .raise _ => True
  | known, .issue (.read mode k) next =>
    ((mode ≠ .call ∧ known.written k) ∨ ∀ r r', evolution.row k r r' → next r = next r') ∧
      ∀ r, Steady evolution known (next r)
  | known, .issue (.find _ q) next =>
    (∀ store store', evolution.Later store store' → next (q store) = next (q store')) ∧
      ∀ r, Steady evolution known (next r)
  | known, .issue (.lock k) next =>
    evolution.Closed k ∧
      ∀ r, (known.held k → r.isSome) → Steady evolution (known.lock k r.isSome) (next r)
  | known, .issue (.lockFound q) next =>
    (∀ store store', evolution.Later store store' → (∀ k, q store = some k → store' k = store k) →
      q store' = q store) ∧ ∀ r, Steady evolution known (next r)
  | known, .issue (.write k f) next =>
    (∀ r, evolution.row k r (f r)) ∧ (f none = none → evolution.Closed k) ∧
      ∀ r, (known.held k → r.isSome) →
        Steady evolution (known.write k r.isSome (f r).isSome) (next r)
  | known, .issue (.emit _) next => Steady evolution known (next ())

namespace Steady

variable {evolution : Evolution K R} {known known' : Known K}

theorem mono {p : Procedure K R O E A} (steady : Steady evolution known p)
    (within : known.Within known') : Steady evolution known' p := by
  induction p generalizing known known' with
  | done a => trivial
  | raise e => trivial
  | issue q next ih =>
    cases q with
    | read mode k =>
      obtain ⟨same, rest⟩ := steady
      exact ⟨same.imp_left (And.imp_right (within.written k)), fun r => ih r (rest r) within⟩
    | find mode q => exact ⟨steady.1, fun r => ih r (steady.2 r) within⟩
    | lock k =>
      obtain ⟨closed, rest⟩ := steady
      refine ⟨closed, ?_⟩
      intro r held
      exact ih r (rest r fun here => held (within.held k here)) (within.lock k _)
    | lockFound q => exact ⟨steady.1, fun r => ih r (steady.2 r) within⟩
    | write k f =>
      obtain ⟨evolves, closed, rest⟩ := steady
      refine ⟨evolves, closed, ?_⟩
      intro r held
      exact ih r (rest r fun here => held (within.held k here)) (within.write k _ _)
    | emit o => exact ih () steady within

theorem pure (a : A) : Steady evolution known (pure a : Procedure K R O E A) := trivial

theorem raise (e : E) : Steady evolution known (Prog.raise e : Procedure K R O E A) := trivial

theorem orRaise (o : Option A) (e : E) :
    Steady evolution known (Prog.orRaise o e : Procedure K R O E A) := by
  cases o <;> trivial

section Statements

variable {B : Type}

/-- A query that tells no rows apart of which one may have become the other. -/
theorem read {mode : Mode} {k : K} {f : Option (R k) → Procedure K R O E B}
    (same : ∀ r r', evolution.row k r r' → f r = f r') (rest : ∀ r, Steady evolution known (f r)) :
    Steady evolution known (Locking.read mode k >>= f) := ⟨.inr same, rest⟩

theorem readWritten {mode : Mode} {k : K} {f : Option (R k) → Procedure K R O E B}
    (plain : mode ≠ .call) (written : known.written k) (rest : ∀ r, Steady evolution known (f r)) :
    Steady evolution known (Locking.read mode k >>= f) := ⟨.inl ⟨plain, written⟩, rest⟩

theorem find {mode : Mode} {q : Store K R → Option K} {f : Option K → Procedure K R O E B}
    (same : ∀ store store', evolution.Later store store' → q store = q store')
    (rest : ∀ k, Steady evolution known (f k)) :
    Steady evolution known (Locking.find mode q >>= f) :=
  ⟨fun store store' later => congrArg f (same store store' later), rest⟩

theorem lock {k : K} {f : Option (R k) → Procedure K R O E B} (closed : evolution.Closed k)
    (rest : ∀ r, Steady evolution (known.lock k r.isSome) (f r)) :
    Steady evolution known (Locking.lock k >>= f) := ⟨closed, fun r _ => rest r⟩

theorem lockFound {q : Store K R → Option K} {f : Option K → Procedure K R O E B}
    (stays : ∀ store store', evolution.Later store store' →
      (∀ k, q store = some k → store' k = store k) → q store' = q store)
    (rest : ∀ k, Steady evolution known (f k)) :
    Steady evolution known (Locking.lockFound q >>= f) := ⟨stays, rest⟩

theorem write {k : K} {g : Option (R k) → Option (R k)} {f : Option (R k) → Procedure K R O E B}
    (evolves : ∀ r, evolution.row k r (g r)) (closed : g none = none → evolution.Closed k)
    (rest : ∀ r, (known.held k → r.isSome) →
      Steady evolution (known.write k r.isSome (g r).isSome) (f r)) :
    Steady evolution known (Locking.write k g >>= f) := ⟨evolves, closed, rest⟩

end Statements

theorem bind {B : Type} {p : Procedure K R O E A} {f : A → Procedure K R O E B}
    (first : Steady evolution known p) (rest : ∀ a, Steady evolution .nothing (f a)) :
    Steady evolution known (p >>= f) := by
  induction p generalizing known with
  | done a => exact (rest a).mono known.nothing_within
  | raise e => trivial
  | issue q next ih =>
    cases q with
    | read mode k =>
      obtain ⟨same, onward⟩ := first
      refine ⟨same.imp_right ?_, fun r => ih r (onward r)⟩
      exact fun same r r' later => congrArg (· >>= f) (same r r' later)
    | find mode q =>
      obtain ⟨same, onward⟩ := first
      refine ⟨?_, fun r => ih r (onward r)⟩
      exact fun store store' later => congrArg (· >>= f) (same store store' later)
    | lock k => exact ⟨first.1, fun r held => ih r (first.2 r held)⟩
    | lockFound q => exact ⟨first.1, fun r => ih r (first.2 r)⟩
    | write k g => exact ⟨first.1, first.2.1, fun r held => ih r (first.2.2 r held)⟩
    | emit o => exact ih () first

theorem handle {F : Type} {p : Procedure K R O E A} {h : E → Procedure K R O F A}
    (first : Steady evolution known p) (rest : ∀ e, Steady evolution .nothing (h e)) :
    Steady evolution known (Prog.handle p h) := by
  induction p generalizing known with
  | done a => trivial
  | raise e => exact (rest e).mono known.nothing_within
  | issue q next ih =>
    cases q with
    | read mode k =>
      obtain ⟨same, onward⟩ := first
      refine ⟨same.imp_right ?_, fun r => ih r (onward r)⟩
      exact fun same r r' later => congrArg (Prog.handle · h) (same r r' later)
    | find mode q =>
      obtain ⟨same, onward⟩ := first
      refine ⟨?_, fun r => ih r (onward r)⟩
      exact fun store store' later => congrArg (Prog.handle · h) (same store store' later)
    | lock k => exact ⟨first.1, fun r held => ih r (first.2 r held)⟩
    | lockFound q => exact ⟨first.1, fun r => ih r (first.2 r)⟩
    | write k g => exact ⟨first.1, first.2.1, fun r held => ih r (first.2.2 r held)⟩
    | emit o => exact ih () first

theorem loop {body : Nat → Procedure K R O E A} (n : Nat)
    (round : ∀ k, Steady evolution .nothing (body k)) :
    Steady evolution .nothing (Prog.loop body n) := by
  induction n with
  | zero => trivial
  | succ n ih => exact ih.bind fun _ => (round n).bind fun _ => trivial

theorem rounds {body : Nat → A → Procedure K R O E A} (n : Nat) (a : A)
    (round : ∀ k a, Steady evolution .nothing (body k a)) :
    Steady evolution .nothing (Prog.rounds body n a) := by
  induction n with
  | zero => trivial
  | succ n ih => exact ih.bind (round n)

end Steady

variable [DecidableEq K]

/-! ## One after the other -/

/-- The values and the rows that programs leave, each called when the one before has ended. -/
def serially (program : X → Procedure K R O E A) :
    Store K R → List X → List (Except E A) × Store K R
  | store, [] => ([], store)
  | store, x :: xs =>
    let ran := exec (alone store) (program x) (store, [])
    let rest := serially program ran.2.1 xs
    (ran.1 :: rest.1, rest.2)

section Serially

variable {program : X → Procedure K R O E A} {store : Store K R} {xs : List X}

theorem serially_append {values : List (Except E A)} {last : Store K R} {x : X}
    {value : Except E A} {left : Store K R} {out : List O}
    (before : serially program store xs = (values, last))
    (ran : exec (alone last) (program x) (last, []) = (value, left, out)) :
    serially program store (xs ++ [x]) = (values ++ [value], left) := by
  induction xs generalizing store values with
  | nil =>
    cases before
    simp only [List.nil_append, serially, ran]
  | cons y xs ih =>
    simp only [serially, Prod.mk.injEq] at before
    obtain ⟨rfl, rest⟩ := before
    have later := ih (Prod.ext rfl rest)
    simp only [List.cons_append, serially, later]

/-- Programs that are single steps alone are the same steps one after the other. -/
theorem serially_steps {Inv : Store K R → Prop} {next : X → Store K R → Store K R}
    (kept : ∀ x ∈ xs, ∀ store, Inv store →
      (exec (alone store) (program x) (store, [])).2.1 = next x store ∧ Inv (next x store))
    (start : Inv store) :
    (serially program store xs).2 = xs.foldl (fun store x => next x store) store ∧
      Inv (serially program store xs).2 := by
  induction xs generalizing store with
  | nil => exact ⟨rfl, start⟩
  | cons x xs ih =>
    obtain ⟨left, inv⟩ := kept x List.mem_cons_self store start
    have rest := ih (fun y mem => kept y (List.mem_cons_of_mem x mem)) (left ▸ inv)
    rw [left] at rest
    simp only [serially, List.foldl_cons, left]
    exact rest

/-- The value of one of them is the one on what those before it leave. -/
theorem serially_value {before after : List X} {x : X} {values : List (Except E A)}
    {value : Except E A} {rest : List (Except E A)} {last : Store K R}
    (ran : serially program store (before ++ x :: after) = (values ++ value :: rest, last))
    (length : values.length = before.length) :
    value = (exec (alone (serially program store before).2) (program x)
      ((serially program store before).2, [])).1 := by
  induction before generalizing store values with
  | nil =>
    obtain rfl := List.length_eq_zero_iff.mp length
    simp only [List.nil_append, serially, Prod.mk.injEq, List.cons.injEq] at ran
    exact ran.1.1.symm
  | cons y before ih =>
    cases values with
    | nil => cases length
    | cons v values =>
      simp only [List.cons_append, serially, Prod.mk.injEq, List.cons.injEq] at ran
      exact ih (Prod.ext ran.1.2 ran.2) (Nat.succ.inj length)

end Serially

/-! ## A transaction and its program alone -/

/-- What a transaction has locked and changed. -/
def Tx.known (tx : Tx K R) (store : Store K R) : Known K where
  held k := tx.locked k ∧ (tx.view store k).isSome
  written k := (tx.own k).isSome

/-- Once the transaction commits, on whatever rows have become of these, but for the ones it has
locked, its program will have done alone on them what it has done so far. -/
structure Replays (evolution : Evolution K R) (program : Procedure K R O E A) (tx : Tx K R)
    (prog : Procedure K R O E A) (store : Store K R) : Prop where
  called : evolution.Later tx.called store
  snapshot : ∀ s, tx.snapshot = some s → evolution.Later s store
  guarded : ∀ k, tx.locked k = false → tx.own k = none
  own : ∀ k r, tx.own k = some r → evolution.row k (store k) r
  steady : Steady evolution (tx.known store) prog
  replay : ∃ out, ∀ store', evolution.Later store store' →
    (∀ k, tx.locked k → store' k = store k) →
      exec (alone store') program (store', []) = exec (alone store') prog (tx.view store', out)

def Stmt.emitted (out : List O) : Stmt K R O → List O
  | .emit o => out ++ [o]
  | .read _ _ | .find _ _ | .lock _ | .lockFound _ | .write _ _ => out

section Replays

variable {evolution : Evolution K R} {program : Procedure K R O E A} {tx tx' : Tx K R}
  {prog : Procedure K R O E A} {store store' : Store K R}

omit [DecidableEq K] in
theorem view_later (later : evolution.Later store store') :
    evolution.Later (tx.view store) (tx.view store') := by
  intro k
  unfold Tx.view
  cases tx.own k with
  | none => exact later k
  | some r => exact evolution.refl k r

omit [DecidableEq K] in
theorem Tx.view_written {k : K} (written : (tx.own k).isSome) :
    tx.view store k = tx.view store' k := by
  obtain ⟨r, own⟩ := Option.isSome_iff_exists.mp written
  rw [Tx.view_own own, Tx.view_own own]

theorem Replays.start (steady : Steady evolution .nothing program) :
    Replays evolution program (.start store) program store where
  called := .refl store
  snapshot _ none := by cases none
  guarded _ _ := rfl
  own _ _ none := by cases none
  steady := steady.mono (Known.nothing_within _)
  replay := ⟨[], fun _ _ _ => rfl⟩

/-- What a query has seen has become what is there. -/
theorem Replays.sees_later (h : Replays evolution program tx prog store) (mode : Mode)
    (later : evolution.Later store store') :
    evolution.Later (tx.sees store mode) (if mode = .call then store' else tx.view store') := by
  cases mode with
  | latest => exact view_later later
  | call => exact h.called.trans later
  | repeatable =>
    apply view_later
    cases taken : tx.snapshot with
    | none => exact later
    | some s => exact (h.snapshot s taken).trans later

theorem Tx.perform_write_view {k : K} {f : Option (R k) → Option (R k)}
    (same : tx.view store' k = tx.view store k) :
    (tx.perform store (.write k f : Stmt K R O)).view store' =
      Function.update (tx.view store') k (f (tx.view store k)) := by
  funext k'
  by_cases row : (tx.view store k).isSome ∨ (f (tx.view store k)).isSome
  · by_cases here : k' = k
    · subst here
      rw [Function.update_self]
      exact Tx.view_own (Tx.perform_write_self row)
    · rw [Function.update_of_ne here]
      unfold Tx.view
      rw [Tx.perform_write_ne here]
  · -- there is no row, before or after
    obtain ⟨before, after⟩ := not_or.mp row
    rw [Option.not_isSome_iff_eq_none] at before after
    rw [before] at after same
    rw [Tx.perform_write_absent before after, before, after, ← same, Function.update_eq_self]

omit [DecidableEq K] in
/-- A row that is not locked does not exist, and will not. -/
theorem view_held {k : K} (later : evolution.Later store store')
    (locked : (tx.view store k).isSome → store' k = store k)
    (closed : (tx.view store k) = none → store' k = store k ∨ evolution.Closed k) :
    tx.view store' k = tx.view store k := by
  cases row : tx.view store k with
  | some r =>
    rw [← row]
    exact Tx.view_congr (locked (row ▸ rfl))
  | none =>
    obtain same | closed := closed row
    · rw [← row]
      exact Tx.view_congr same
    · exact closed _ (row ▸ view_later later k)

/-- The program alone gets the same reply, or one that it cannot tell from it. -/
theorem Replays.agrees {q : Stmt K R O} {next : q.Reply → Procedure K R O E A}
    (h : Replays evolution program tx (.issue q next) store)
    (later : evolution.Later store store')
    (locked : ∀ k, (tx.perform store q).locked k → store' k = store k) (out : List O) :
    next (alone store' q (tx.view store', out)).1 = next (tx.reply store q) ∧
      (alone store' q (tx.view store', out)).2 = ((tx.perform store q).view store', q.emitted out) := by
  cases q with
  | read mode k =>
    have view : (tx.perform store (.read mode k : Stmt K R O)).view store' = tx.view store' := by
      unfold Tx.view
      rw [Tx.perform_read_own]
    rw [view]
    have seen := h.sees_later mode later k
    obtain ⟨⟨own, written⟩ | same, -⟩ := h.steady
    · cases mode with
      | call => exact absurd rfl own
      | latest => exact ⟨congrArg next (Tx.view_written written), rfl⟩
      | repeatable => exact ⟨congrArg next (Tx.view_written written), rfl⟩
    · have tells := same _ _ seen
      cases mode <;> exact ⟨tells.symm, rfl⟩
  | find mode q =>
    have view : (tx.perform store (.find mode q : Stmt K R O)).view store' = tx.view store' := by
      unfold Tx.view
      rw [Tx.perform_find_own]
    rw [view]
    have tells := h.steady.1 _ _ (h.sees_later mode later)
    cases mode <;> exact ⟨tells.symm, rfl⟩
  | lock k =>
    have view : (tx.perform store (.lock k : Stmt K R O)).view store' = tx.view store' := by
      unfold Tx.view
      rw [Tx.perform_lock_own]
    rw [view]
    refine ⟨congrArg next ?_, rfl⟩
    apply view_held later
    · exact fun row => locked k (Tx.perform_lock_locked row)
    · exact fun _ => .inr h.steady.1
  | lockFound q =>
    have view : (tx.perform store (.lockFound q : Stmt K R O)).view store' = tx.view store' := by
      unfold Tx.view
      rw [Tx.perform_lockFound_own]
    rw [view]
    refine ⟨congrArg next ?_, rfl⟩
    apply h.steady.1 _ _ (view_later later)
    intro k found
    exact Tx.view_congr (locked k (Tx.perform_lockFound_locked found))
  | write k f =>
    have same : tx.view store' k = tx.view store k := by
      apply view_held later
      · exact fun row => locked k (Tx.perform_write_locked (.inl row))
      · intro row
        cases after : f none with
        | none => exact .inr (h.steady.2.1 after)
        | some r =>
          refine .inl (locked k (Tx.perform_write_locked (.inr ?_)))
          rw [row, after]
          rfl
    refine ⟨congrArg next same, ?_⟩
    rw [Tx.perform_write_view same, ← same]
    rfl
  | emit o => exact ⟨rfl, rfl⟩

theorem Tx.perform_called (q : Stmt K R O) : (tx.perform store q).called = tx.called := by
  cases q with
  | read mode k =>
    simp only [perform, fix]
    split <;> rfl
  | find mode q =>
    simp only [perform, fix]
    split <;> rfl
  | lock k =>
    simp only [perform]
    split <;> rfl
  | lockFound q =>
    simp only [perform]
    cases q (tx.view store) <;> rfl
  | write k f =>
    simp only [perform]
    split <;> rfl
  | emit o => rfl

/-- A snapshot is of the present rows or has been there before. -/
theorem Tx.perform_snapshot {q : Stmt K R O} {s : Store K R}
    (taken : (tx.perform store q).snapshot = some s) : s = store ∨ tx.snapshot = some s := by
  have fixed (mode : Mode) (taken : (tx.fix store mode).snapshot = some s) :
      s = store ∨ tx.snapshot = some s := by
    unfold fix at taken
    split at taken
    · cases before : tx.snapshot with
      | none => simp_all
      | some s' => simp_all
    · exact .inr taken
  cases q with
  | read mode k => exact fixed mode taken
  | find mode q => exact fixed mode taken
  | lock k =>
    simp only [perform] at taken
    split at taken <;> exact .inr taken
  | lockFound q =>
    simp only [perform] at taken
    cases found : q (tx.view store) <;> rw [found] at taken <;> exact .inr taken
  | write k f =>
    simp only [perform] at taken
    split at taken <;> exact .inr taken
  | emit o => exact .inr taken

/-- Its own rows are what others' may become. -/
theorem Replays.view_later (h : Replays evolution program tx prog store) :
    evolution.Later store (tx.view store) := by
  intro k
  cases own : tx.own k with
  | none =>
    rw [Tx.view_untouched own]
    exact evolution.refl k _
  | some r =>
    rw [Tx.view_own own]
    exact h.own k r own

theorem Tx.perform_guarded {q : Stmt K R O} (guarded : ∀ k, tx.locked k = false → tx.own k = none)
    {k : K} (free : (tx.perform store q).locked k = false) :
    (tx.perform store q).own k = none := by
  have before : tx.own k = none := by
    apply guarded k
    by_contra locked
    have still : (tx.perform store q).locked k :=
      perform_keeps (Bool.eq_true_of_not_eq_false locked)
    rw [still] at free
    cases free
  cases q with
  | read mode k' => rw [perform_read_own, before]
  | find mode q => rw [perform_find_own, before]
  | lock k' => rw [perform_lock_own, before]
  | lockFound q => rw [perform_lockFound_own, before]
  | emit o => exact before
  | write k' f =>
    by_cases here : k = k'
    · subst here
      by_cases row : (tx.view store k).isSome ∨ (f (tx.view store k)).isSome
      · rw [perform_write_locked row] at free
        cases free
      · obtain ⟨absent, still⟩ := not_or.mp row
        rw [Option.not_isSome_iff_eq_none] at absent still
        rw [perform_write_absent absent (absent ▸ still), before]
    · rw [perform_write_ne here, before]

/-! What is known remains so. -/

omit [DecidableEq K] in
theorem Tx.known_kept (locked : ∀ k, tx.locked k → tx'.locked k) (own : tx'.own = tx.own) :
    (tx.known store).Within (tx'.known store) := by
  have view : tx'.view store = tx.view store := by
    unfold view
    rw [own]
  constructor
  · rintro k ⟨held, there⟩
    exact ⟨locked k held, by rwa [view]⟩
  · intro k written
    simpa only [known, own] using written

theorem Tx.known_lock {k : K} : ((tx.known store).lock k (tx.view store k).isSome).Within
    ((tx.perform store (.lock k : Stmt K R O)).known store) := by
  have kept : (tx.known store).Within ((tx.perform store (.lock k : Stmt K R O)).known store) :=
    known_kept (fun _ => perform_keeps) (perform_lock_own k)
  refine ⟨?_, kept.written⟩
  rintro k' (held | ⟨rfl, row⟩)
  · exact kept.held k' held
  · refine ⟨perform_lock_locked row, ?_⟩
    unfold view at row ⊢
    rwa [perform_lock_own]

theorem Tx.known_write {k : K} {f : Option (R k) → Option (R k)} :
    ((tx.known store).write k (tx.view store k).isSome (f (tx.view store k)).isSome).Within
      ((tx.perform store (.write k f : Stmt K R O)).known store) := by
  constructor
  · rintro k' (⟨other, locked, there⟩ | ⟨rfl, row⟩)
    · refine ⟨perform_keeps locked, ?_⟩
      unfold view at there ⊢
      rwa [perform_write_ne other]
    · refine ⟨perform_write_locked (.inr row), ?_⟩
      rwa [view_own (perform_write_self (.inr row))]
  · rintro k' (written | ⟨rfl, row⟩)
    · by_cases here : k' = k
      · subst here
        by_cases row : (tx.view store k').isSome ∨ (f (tx.view store k')).isSome
        · simp only [known, perform_write_self row, Option.isSome_some]
        · obtain ⟨absent, still⟩ := not_or.mp row
          rw [Option.not_isSome_iff_eq_none] at absent still
          rwa [perform_write_absent absent (absent ▸ still)]
      · simpa only [known, perform_write_ne here] using written
    · simp only [known, perform_write_self row, Option.isSome_some]

/-- One statement. -/
theorem Replays.issue {q : Stmt K R O} {next : q.Reply → Procedure K R O E A}
    (h : Replays evolution program tx (.issue q next) store) :
    Replays evolution program (tx.perform store q) (next (tx.reply store q)) store := by
  refine ⟨?_, ?_, fun k => Tx.perform_guarded h.guarded, ?_, ?_, ?_⟩
  · rw [Tx.perform_called]
    exact h.called
  · intro s taken
    obtain rfl | before := Tx.perform_snapshot taken
    · exact .refl s
    · exact h.snapshot s before
  · intro k r own
    cases q with
    | read mode k' => exact h.own k r (by rwa [Tx.perform_read_own] at own)
    | find mode q => exact h.own k r (by rwa [Tx.perform_find_own] at own)
    | lock k' => exact h.own k r (by rwa [Tx.perform_lock_own] at own)
    | lockFound q => exact h.own k r (by rwa [Tx.perform_lockFound_own] at own)
    | emit o => exact h.own k r own
    | write k' f =>
      by_cases here : k = k'
      · subst here
        by_cases row : (tx.view store k).isSome ∨ (f (tx.view store k)).isSome
        · rw [Tx.perform_write_self row] at own
          cases own
          exact evolution.trans k _ _ _ (h.view_later k) (h.steady.1 _)
        · obtain ⟨absent, still⟩ := not_or.mp row
          rw [Option.not_isSome_iff_eq_none] at absent still
          rw [Tx.perform_write_absent absent (absent ▸ still)] at own
          exact h.own k r own
      · rw [Tx.perform_write_ne here] at own
        exact h.own k r own
  · cases q with
    | read mode k' =>
      exact (h.steady.2 _).mono (Tx.known_kept (fun _ => Tx.perform_keeps)
        (Tx.perform_read_own mode k'))
    | find mode q =>
      exact (h.steady.2 _).mono (Tx.known_kept (fun _ => Tx.perform_keeps)
        (Tx.perform_find_own mode q))
    | lock k' => exact (h.steady.2 _ And.right).mono Tx.known_lock
    | lockFound q =>
      exact (h.steady.2 _).mono (Tx.known_kept (fun _ => Tx.perform_keeps)
        (Tx.perform_lockFound_own q))
    | write k' f => exact (h.steady.2.2 _ And.right).mono Tx.known_write
    | emit o => exact h.steady
  · obtain ⟨out, replay⟩ := h.replay
    refine ⟨q.emitted out, ?_⟩
    intro store' later locked
    have before := replay store' later fun k held => locked k (Tx.perform_keeps held)
    obtain ⟨tells, left⟩ := h.agrees later locked out
    rw [before, exec_issue, tells, left]

/-- Others may commit rows that it has not locked. -/
theorem Replays.others (h : Replays evolution program tx prog store)
    (later : evolution.Later store store') (locked : ∀ k, tx.locked k → store' k = store k) :
    Replays evolution program tx prog store' where
  called := h.called.trans later
  snapshot s taken := (h.snapshot s taken).trans later
  guarded := h.guarded
  own k r own := by
    have held : tx.locked k := by
      by_contra free
      rw [h.guarded k (Bool.eq_false_of_not_eq_true free)] at own
      cases own
    rw [locked k held]
    exact h.own k r own
  steady := by
    apply h.steady.mono
    refine ⟨?_, fun _ written => written⟩
    rintro k ⟨held, there⟩
    exact ⟨held, by rwa [Tx.view_congr (locked k held)]⟩
  replay := by
    obtain ⟨out, replay⟩ := h.replay
    refine ⟨out, ?_⟩
    intro store'' later' locked'
    apply replay store'' (later.trans later')
    exact fun k held => (locked' k held).trans (locked k held)

end Replays

/-! ## The system -/

/-- The transactions that have committed have run one after the other from the first rows. -/
structure InOrder (evolution : Evolution K R) (program : X → Procedure K R O E A)
    (store : Store K R) (sys : System K R O E A X) : Prop where
  apart : Apart sys
  sessions : ∀ i s, sys.session i = some s →
    Replays evolution (program s.args) s.tx s.prog sys.store
  serial : serially program store (sys.results.map Committed.args) =
    (sys.results.map Committed.value, sys.store)

section InOrder

variable {evolution : Evolution K R} {program : X → Procedure K R O E A}
  {commits : Except E A → Bool} {store : Store K R} {sys sys' : System K R O E A X}

theorem InOrder.start : InOrder evolution program store (.start store : System K R O E A X) := by
  refine ⟨.start store, ?_, rfl⟩
  intro i s here
  simp [System.session, System.start] at here

/-- A session that commits has ended with the value of its program alone. -/
theorem Replays.result {s : Session K R O E A X} {r : Committed K R E A X}
    (h : Replays evolution (program s.args) s.tx s.prog store)
    (result : s.result commits = some r) : ∃ out,
      r.args = s.args ∧
        exec (alone store) (program r.args) (store, []) = (r.value, s.tx.view store, out) := by
  obtain ⟨out, replay⟩ := h.replay
  have ran := replay store (.refl store) fun _ _ => rfl
  refine ⟨out, ?_⟩
  unfold Session.result at result
  cases ended : s.prog with
  | issue q next => simp [ended] at result
  | done a =>
    rw [ended] at result ran
    by_cases accepted : commits (.ok a)
    · simp only [accepted, if_true, Option.some.injEq] at result
      subst result
      exact ⟨rfl, ran⟩
    · simp [accepted] at result
  | raise e =>
    rw [ended] at result ran
    by_cases accepted : commits (.error e)
    · simp only [accepted, if_true, Option.some.injEq] at result
      subst result
      exact ⟨rfl, ran⟩
    · simp [accepted] at result

theorem InOrder.step {e : Event X} (h : InOrder evolution program store sys)
    (stepped : Stepped program commits sys e sys')
    (steady : ∀ x, e = .start x → Steady evolution .nothing (program x)) :
    InOrder evolution program store sys' := by
  have apart := h.apart.step stepped
  cases stepped with
  | start x =>
    refine ⟨apart, ?_, h.serial⟩
    intro j t there
    rw [session_append] at there
    split at there
    · cases there
      exact .start (steady x rfl)
    · exact h.sessions j t there
  | step here issued free =>
    rename_i i s q next
    refine ⟨apart, ?_, h.serial⟩
    intro j t there
    by_cases same : j = i
    · subst same
      rw [session_replace_self here] at there
      cases there
      have before := h.sessions _ s here
      rw [issued] at before
      exact before.issue
    · rw [session_replace_ne same] at there
      exact h.sessions j t there
  | commit here result =>
    rename_i i s r
    have ended := h.sessions i s here
    refine ⟨apart, ?_, ?_⟩
    · intro j t there
      obtain ⟨other, before⟩ := session_ended here there
      apply (h.sessions j t before).others ended.view_later
      intro k held
      apply Tx.view_untouched
      exact ended.guarded k (h.apart j i t s k other before here held)
    · obtain ⟨out, -, ran⟩ := ended.result result
      simp only [List.map_append, List.map_cons, List.map_nil]
      exact serially_append h.serial ran
  | abort here =>
    refine ⟨apart, ?_, h.serial⟩
    intro j t there
    exact h.sessions j t (session_ended here there).2

theorem InOrder.run {events : List (Event X)} (h : InOrder evolution program store sys)
    (ran : Transition.run (Locking.step program commits) sys events = some sys')
    (steady : ∀ x, .start x ∈ events → Steady evolution .nothing (program x)) :
    InOrder evolution program store sys' := by
  induction events generalizing sys with
  | nil =>
    obtain rfl : sys = sys' := by simpa [Transition.run] using ran
    exact h
  | cons e events ih =>
    obtain ⟨u, stepped, later⟩ := run_cons.mp ran
    have next := h.step (step_stepped stepped) fun x same => steady x (same ▸ List.mem_cons_self)
    exact ih next later fun x mem => steady x (List.mem_cons_of_mem e mem)

/-- Any run of steady programs is equivalent to a serial one, in the order of the commits. -/
theorem serializable {events : List (Event X)}
    (ran : Transition.run (Locking.step program commits) (.start store) events = some sys)
    (steady : ∀ x, .start x ∈ events → Steady evolution .nothing (program x)) :
    serially program store (sys.results.map Committed.args) =
      (sys.results.map Committed.value, sys.store) :=
  (InOrder.start.run ran steady).serial

/-- Who runs or has committed is known, and whatever has been committed may be. -/
structure Served (P : X → Prop) (commits : Except E A → Bool) (sys : System K R O E A X) : Prop where
  sessions : ∀ i s, sys.session i = some s → P s.args
  results : ∀ r ∈ sys.results, P r.args ∧ commits r.value

omit [DecidableEq K] in
theorem Session.result_commits {s : Session K R O E A X} {r : Committed K R E A X}
    (result : s.result commits = some r) : r.args = s.args ∧ commits r.value := by
  unfold Session.result at result
  cases ended : s.prog with
  | issue q next => simp [ended] at result
  | done a =>
    simp only [ended, Option.ite_none_right_eq_some, Option.some.injEq] at result
    obtain ⟨accepted, rfl⟩ := result
    exact ⟨rfl, accepted⟩
  | raise e =>
    simp only [ended, Option.ite_none_right_eq_some, Option.some.injEq] at result
    obtain ⟨accepted, rfl⟩ := result
    exact ⟨rfl, accepted⟩

theorem Served.step {P : X → Prop} {e : Event X} (h : Served P commits sys)
    (stepped : Stepped program commits sys e sys') (started : ∀ x, e = .start x → P x) :
    Served P commits sys' := by
  cases stepped with
  | start x =>
    refine ⟨?_, h.results⟩
    intro j t there
    rw [session_append] at there
    split at there
    · cases there
      exact started x rfl
    · exact h.sessions j t there
  | step here issued free =>
    rename_i i s q next
    refine ⟨?_, h.results⟩
    intro j t there
    by_cases same : j = i
    · subst same
      rw [session_replace_self here] at there
      cases there
      exact h.sessions j s here
    · rw [session_replace_ne same] at there
      exact h.sessions j t there
  | commit here result =>
    rename_i i s r
    refine ⟨fun j t there => h.sessions j t (session_ended here there).2, ?_⟩
    intro r' mem
    obtain before | rfl := List.mem_append.mp mem |>.imp_right List.mem_singleton.mp
    · exact h.results r' before
    · obtain ⟨args, accepted⟩ := Session.result_commits result
      exact ⟨args ▸ h.sessions i s here, accepted⟩
  | abort here => exact ⟨fun j t there => h.sessions j t (session_ended here there).2, h.results⟩

theorem Served.run {P : X → Prop} {events : List (Event X)} (h : Served P commits sys)
    (ran : Transition.run (Locking.step program commits) sys events = some sys')
    (started : ∀ x, .start x ∈ events → P x) : Served P commits sys' := by
  induction events generalizing sys with
  | nil =>
    obtain rfl : sys = sys' := by simpa [Transition.run] using ran
    exact h
  | cons e events ih =>
    obtain ⟨u, stepped, later⟩ := run_cons.mp ran
    have next := h.step (step_stepped stepped) fun x same => started x (same ▸ List.mem_cons_self)
    exact ih next later fun x mem => started x (List.mem_cons_of_mem e mem)

theorem run_results {P : X → Prop} {events : List (Event X)}
    (ran : Transition.run (Locking.step program commits) (.start store) events = some sys)
    (started : ∀ x, .start x ∈ events → P x) : ∀ r ∈ sys.results, P r.args ∧ commits r.value := by
  have start : Served P commits (.start store : System K R O E A X) := by
    refine ⟨?_, fun r mem => by cases mem⟩
    intro i s here
    simp [System.session, System.start] at here
  exact (start.run ran started).results

end InOrder

end Locking
