import Dbt2.Lib.Locking

/-!
# Locks taken in an order

Transactions that lock their rows by ascending rank never wait for each other in a circle. A row
may have a guard in place of a rank: whoever locks the one has locked the other before, so that
nobody waits for it.

* `Ranking.protocol`: the protocol that a program keeps if its locks ascend;
* `Orderly`: a system of such programs;
* `Orderly.progress`: while there are sessions, one of them can go on or end;
* `Settles`: in whatever order the sessions go on, all of them end.
-/

namespace Locking

open Transition Prog Relation

variable {K : Type} {R : K → Type} {O E A X L : Type} [LinearOrder L]

structure Ranking (K L : Type) where
  rank : K → L
  guard : K → Option K
  distinct : ∀ k k', rank k = rank k' → k = k'

/-- No row that is locked has a rank above `top`; those that are `held` are locked. -/
structure Climb (K L : Type) where
  top : WithBot L
  held : Set K

namespace Stmt

/-- A row that the statement may need. -/
def MayNeed : Stmt K R O → K → Prop
  | .lock k, k' | .write k _, k' => k' = k
  | .lockFound q, k' => ∃ store, q store = some k'
  | .read _ _, _ | .find _ _, _ | .emit _, _ => False

/-- The row that it has needed, as the reply shows. -/
def needed : (q : Stmt K R O) → q.Reply → Option K
  | .lock k, _ | .write k _, _ => some k
  | .lockFound _, r => r
  | .read _ _, _ | .find _ _, _ | .emit _, _ => none

/-- The reply shows that the row that it has needed is there, and so is locked. -/
def Takes : (q : Stmt K R O) → q.Reply → Prop
  | .lock _, r => r.isSome
  | .write _ f, r => r.isSome ∨ (f r).isSome
  | .lockFound _, _ => True
  | .read _ _, _ | .find _ _, _ | .emit _, _ => False

end Stmt

namespace Ranking

variable (ranking : Ranking K L)

/-- The row may be locked next. -/
def Climbs (p : Climb K L) (k : K) : Prop :=
  match ranking.guard k with
  | none => p.top ≤ ranking.rank k
  | some g => g ∈ p.held

def after (p : Climb K L) (q : Stmt K R O) (r : q.Reply) : Climb K L where
  top := match q.needed r with
    | some k => if ranking.guard k = none then ranking.rank k else p.top
    | none => p.top
  held := p.held ∪ { k | q.needed r = some k ∧ q.Takes r }

def protocol : Protocol (Stmt K R O) Stmt.Reply (Climb K L) where
  allowed p q := ∀ k, q.MayNeed k → ranking.Climbs p k
  moves p q r p' := (∀ k, q.needed r = some k → q.MayNeed k) ∧ p' = ranking.after p q r

end Ranking

/-! ## Programs -/

section Programs

variable {ranking : Ranking K L} {p : Climb K L} {B : Type}

/-- The program keeps the protocol; a value that it ends with meets `Q`, in the phase there. -/
def Climbing (ranking : Ranking K L) (Q : Climb K L → A → Prop) (p : Climb K L)
    (prog : Procedure K R O E A) : Prop :=
  Follows ranking.protocol (fun p' => Either (fun _ => True) (Q p')) p prog

/-- The program keeps the protocol, whatever it ends with. -/
def Ascends (ranking : Ranking K L) (p : Climb K L) (prog : Procedure K R O E A) : Prop :=
  Follows ranking.protocol (fun _ _ => True) p prog

variable {Q Q' : Climb K L → A → Prop} {x : Procedure K R O E A}

theorem Climbing.ascends (h : Climbing ranking Q p x) : Ascends ranking p x :=
  follows_mono h fun _ _ _ => trivial

theorem climbing_pure {a : A} (here : Q p a) :
    Climbing ranking Q p (pure a : Procedure K R O E A) := here

theorem climbing_raise (e : E) : Climbing ranking Q p (raise e : Procedure K R O E A) := trivial

theorem Climbing.mono (h : Climbing ranking Q p x) (weaker : ∀ p' a, Q p' a → Q' p' a) :
    Climbing ranking Q' p x := by
  apply follows_mono h
  intro p' r ended
  cases r with
  | error e => trivial
  | ok a => exact weaker p' a ended

theorem Climbing.bind {Q' : Climb K L → B → Prop} {f : A → Procedure K R O E B}
    (h : Climbing ranking Q p x) (rest : ∀ p' a, Q p' a → Climbing ranking Q' p' (f a)) :
    Climbing ranking Q' p (x >>= f) :=
  follows_bind h (fun _ _ _ => trivial) rest

theorem Climbing.map {Q' : Climb K L → B → Prop} {f : A → B} (h : Climbing ranking Q p x)
    (rest : ∀ p' a, Q p' a → Q' p' (f a)) : Climbing ranking Q' p (f <$> x) := by
  rw [map_eq_pure_bind]
  exact h.bind rest

theorem climbing_orRaise {a : Option A} {e : E} (some : ∀ b, a = some b → Q p b) :
    Climbing ranking Q p (orRaise a e : Procedure K R O E A) := by
  cases a with
  | none => exact climbing_raise e
  | some b => exact some b rfl

theorem Climbing.handle {F : Type} {h : E → Procedure K R O F A} (climbing : Climbing ranking Q p x)
    (handled : ∀ p' e, Climbing ranking Q p' (h e)) : Climbing ranking Q p (handle x h) :=
  follows_handle climbing (fun _ _ ended => ended) fun p' e _ => handled p' e

theorem climbing_loop {inv : Nat → Climb K L → Prop} {body : Nat → Procedure K R O E A} {n : Nat}
    (round : ∀ k p, k < n → inv k p → Climbing ranking (fun p' _ => inv (k + 1) p') p (body k))
    (start : inv 0 p) : Climbing ranking (fun p' _ => inv n p') p (loop body n) :=
  follows_loop round start

theorem climbing_rounds {inv : Nat → Climb K L → Prop} {body : Nat → A → Procedure K R O E A}
    {n : Nat} {a : A}
    (round : ∀ k p a, k < n → inv k p → Climbing ranking (fun p' _ => inv (k + 1) p') p (body k a))
    (start : inv 0 p) : Climbing ranking (fun p' _ => inv n p') p (rounds body n a) :=
  @follows_rounds _ _ E A _ ranking.protocol (fun k p _ => inv k p) _ body n round p a start

theorem Ascends.relabel {O' E' A' : Type} {o : O → O'} {e : E → E'} {v : A → A'}
    (h : Ascends ranking p x) : Ascends ranking p (relabel o e v x) := by
  induction x generalizing p with
  | done a => trivial
  | raise y => trivial
  | issue q next ih =>
    obtain ⟨allowed, onward⟩ := h
    cases q <;> exact ⟨allowed, fun r p' moves => ih r (onward r p' moves)⟩

/-- A statement that needs no row. -/
theorem climbing_plain {q : Stmt K R O} (plain : ∀ r, q.needed r = none)
    (free : ∀ k, ¬ q.MayNeed k) :
    Climbing ranking (fun p' _ => p' = p) p (send q : Procedure K R O E q.Reply) := by
  refine ⟨fun k may => absurd may (free k), ?_⟩
  rintro r p' ⟨-, rfl⟩
  change ranking.after p q r = p
  unfold Ranking.after
  simp [plain r]

theorem climbing_read (mode : Mode) (k : K) :
    Climbing ranking (fun p' _ => p' = p) p (read mode k : Procedure K R O E _) :=
  climbing_plain (fun _ => rfl) fun _ => id

theorem climbing_find (mode : Mode) (q : Store K R → Option K) :
    Climbing ranking (fun p' _ => p' = p) p (find mode q : Procedure K R O E _) :=
  climbing_plain (fun _ => rfl) fun _ => id

theorem climbing_emit (o : O) :
    Climbing ranking (fun p' _ => p' = p) p (emit o : Procedure K R O E _) :=
  climbing_plain (fun _ => rfl) fun _ => id

theorem climbing_lock {k : K} (free : ranking.guard k = none) (le : p.top ≤ ranking.rank k) :
    Climbing ranking
      (fun p' r => p'.top = ranking.rank k ∧ p.held ⊆ p'.held ∧ (r.isSome → k ∈ p'.held)) p
      (lock k : Procedure K R O E _) := by
  constructor
  · intro k' same
    obtain rfl : k' = k := same
    unfold Ranking.Climbs
    rwa [free]
  · rintro r p' ⟨-, rfl⟩
    exact ⟨if_pos free, Set.subset_union_left, fun there => .inr ⟨rfl, there⟩⟩

theorem climbing_write {k : K} {f : Option (R k) → Option (R k)}
    (free : ranking.guard k = none) (le : p.top ≤ ranking.rank k) :
    Climbing ranking
      (fun p' r => p'.top = ranking.rank k ∧ p.held ⊆ p'.held ∧
        (r.isSome ∨ (f r).isSome → k ∈ p'.held)) p
      (write k f : Procedure K R O E _) := by
  constructor
  · intro k' same
    obtain rfl : k' = k := same
    unfold Ranking.Climbs
    rwa [free]
  · rintro r p' ⟨-, rfl⟩
    exact ⟨if_pos free, Set.subset_union_left, fun there => .inr ⟨rfl, there⟩⟩

theorem climbing_lockFound {q : Store K R → Option K}
    (free : ∀ store k, q store = some k → ranking.guard k = none ∧ p.top ≤ ranking.rank k) :
    Climbing ranking
      (fun p' r => p.held ⊆ p'.held ∧ (r = none → p'.top = p.top) ∧
        ∀ k, r = some k → p'.top = ranking.rank k ∧ k ∈ p'.held ∧ ∃ store, q store = some k) p
      (lockFound q : Procedure K R O E _) := by
  constructor
  · rintro k ⟨store, found⟩
    unfold Ranking.Climbs
    rw [(free store k found).1]
    exact (free store k found).2
  · rintro r p' ⟨may, rfl⟩
    refine ⟨Set.subset_union_left, ?_, ?_⟩
    · rintro rfl
      rfl
    · rintro k rfl
      obtain ⟨store, found⟩ := may k rfl
      exact ⟨if_pos (free store k found).1, .inr ⟨rfl, trivial⟩, store, found⟩

theorem climbing_lock_guarded {k g : K} (guarded : ranking.guard k = some g) (held : g ∈ p.held) :
    Climbing ranking (fun p' _ => p'.top = p.top ∧ p.held ⊆ p'.held) p
      (lock k : Procedure K R O E _) := by
  constructor
  · intro k' same
    obtain rfl : k' = k := same
    unfold Ranking.Climbs
    rwa [guarded]
  · rintro r p' ⟨-, rfl⟩
    exact ⟨if_neg (by simp [guarded]), Set.subset_union_left⟩

theorem climbing_write_guarded {k g : K} {f : Option (R k) → Option (R k)}
    (guarded : ranking.guard k = some g) (held : g ∈ p.held) :
    Climbing ranking (fun p' _ => p'.top = p.top ∧ p.held ⊆ p'.held) p
      (write k f : Procedure K R O E _) := by
  constructor
  · intro k' same
    obtain rfl : k' = k := same
    unfold Ranking.Climbs
    rwa [guarded]
  · rintro r p' ⟨-, rfl⟩
    exact ⟨if_neg (by simp [guarded]), Set.subset_union_left⟩

end Programs

/-! ## One transaction -/

section Tx

variable [DecidableEq K] {tx : Tx K R} {store : Store K R} {ranking : Ranking K L} {p : Climb K L}

omit [DecidableEq K] in
theorem needed_reply (q : Stmt K R O) : q.needed (tx.reply store q) = tx.needs store q := by
  cases q <;> rfl

omit [DecidableEq K] in
theorem needs_mayNeed {q : Stmt K R O} {k : K} (needs : tx.needs store q = some k) :
    q.MayNeed k := by
  cases q with
  | lock k' => exact (Option.some.inj needs).symm
  | write k' f => exact (Option.some.inj needs).symm
  | lockFound q => exact ⟨_, needs⟩
  | read mode k' => cases needs
  | find mode q => cases needs
  | emit o => cases needs

theorem perform_takes {q : Stmt K R O} {k : K} (needs : tx.needs store q = some k)
    (takes : q.Takes (tx.reply store q)) : (tx.perform store q).locked k := by
  cases q with
  | lock k' =>
    obtain rfl := Option.some.inj needs
    exact Tx.perform_lock_locked takes
  | write k' f =>
    obtain rfl := Option.some.inj needs
    exact Tx.perform_write_locked takes
  | lockFound q => exact Tx.perform_lockFound_locked needs
  | read mode k' => cases needs
  | find mode q => cases needs
  | emit o => cases needs

/-- The locks of a transaction, in its phase. -/
structure Climbed (ranking : Ranking K L) (p : Climb K L) (tx : Tx K R) : Prop where
  top : ∀ k, tx.locked k → ranking.guard k = none → ranking.rank k ≤ p.top
  held : ∀ k ∈ p.held, tx.locked k
  guarded : ∀ k g, tx.locked k → ranking.guard k = some g → tx.locked g

namespace Climbed

omit [DecidableEq K] in
theorem started (ranking : Ranking K L) (store : Store K R) :
    Climbed ranking ⟨⊥, ∅⟩ (Tx.start store) := by
  constructor
  · intro k locked
    cases locked
  · intro k mem
    cases mem
  · intro k g locked
    cases locked

omit [DecidableEq K] in
theorem top_le_after {q : Stmt K R O} {r : q.Reply} (allowed : ranking.protocol.allowed p q)
    (may : ∀ k, q.needed r = some k → q.MayNeed k) : p.top ≤ (ranking.after p q r).top := by
  unfold Ranking.after
  dsimp only
  cases needed : q.needed r with
  | none => exact le_refl _
  | some k =>
    dsimp only
    split
    · rename_i free
      have climbs := allowed k (may k needed)
      unfold Ranking.Climbs at climbs
      rwa [free] at climbs
    · exact le_refl _

theorem perform (h : Climbed ranking p tx) {q : Stmt K R O}
    (allowed : ranking.protocol.allowed p q) (store : Store K R) :
    ∃ p', ranking.protocol.moves p q (tx.reply store q) p' ∧
      Climbed ranking p' (tx.perform store q) := by
  have may (k : K) (needed : q.needed (tx.reply store q) = some k) : q.MayNeed k :=
    needs_mayNeed (needed_reply q ▸ needed)
  refine ⟨_, ⟨may, rfl⟩, ?_, ?_, ?_⟩
  · intro k locked free
    obtain needs | before := Tx.perform_locked locked
    · unfold Ranking.after
      simp [needed_reply, needs, free]
    · exact le_trans (h.top k before free) (top_le_after allowed may)
  · intro k mem
    obtain before | ⟨needed, takes⟩ := mem
    · exact Tx.perform_keeps (h.held k before)
    · exact perform_takes (needed_reply q ▸ needed) takes
  · intro k g locked guard
    apply Tx.perform_keeps
    obtain needs | before := Tx.perform_locked locked
    · have climbs := allowed k (needs_mayNeed needs)
      unfold Ranking.Climbs at climbs
      rw [guard] at climbs
      exact h.held g climbs
    · exact h.guarded k g before guard

end Climbed

end Tx

/-! ## A system of transactions -/

section System

variable [DecidableEq K] {program : X → Procedure K R O E A} {commits : Except E A → Bool}
  {ranking : Ranking K L} {sys sys' : System K R O E A X}

structure Orderly (ranking : Ranking K L) (sys : System K R O E A X) : Prop where
  apart : Apart sys
  sessions : ∀ i s, sys.session i = some s →
    ∃ p, Climbed ranking p s.tx ∧ Ascends ranking p s.prog

omit [DecidableEq K] in
theorem Orderly.start (ranking : Ranking K L) (store : Store K R) :
    Orderly ranking (System.start store : System K R O E A X) := by
  refine ⟨.start store, ?_⟩
  intro i s here
  simp [System.session, System.start] at here

theorem Orderly.stepped {e : Event X} (h : Orderly ranking sys)
    (ascends : ∀ x, e = .start x → Ascends ranking ⟨⊥, ∅⟩ (program x))
    (stepped : Stepped program commits sys e sys') : Orderly ranking sys' := by
  refine ⟨h.apart.step stepped, ?_⟩
  intro j t there
  cases stepped with
  | start x =>
    rw [session_append] at there
    split at there
    · cases there
      exact ⟨_, .started ranking sys.store, ascends x rfl⟩
    · exact h.sessions j t there
  | step here issued free =>
    rename_i i s q next
    by_cases same : j = i
    · subst same
      rw [session_replace_self here] at there
      cases there
      obtain ⟨p, climbed, ascends⟩ := h.sessions _ s here
      rw [issued] at ascends
      obtain ⟨p', moves, climbed'⟩ := climbed.perform ascends.1 sys.store
      exact ⟨p', climbed', ascends.2 _ p' moves⟩
    · rw [session_replace_ne same] at there
      exact h.sessions j t there
  | commit here result => exact h.sessions j t (session_ended here there).2
  | abort here => exact h.sessions j t (session_ended here there).2

theorem Orderly.run {events : List (Event X)} (h : Orderly ranking sys)
    (ascends : ∀ x, .start x ∈ events → Ascends ranking ⟨⊥, ∅⟩ (program x))
    (ran : run (step program commits) sys events = some sys') : Orderly ranking sys' := by
  induction events generalizing sys with
  | nil =>
    obtain rfl : sys = sys' := by simpa [Transition.run] using ran
    exact h
  | cons e events ih =>
    obtain ⟨u, stepped, later⟩ := run_cons.mp ran
    apply ih (h.stepped _ (step_stepped stepped)) _ later
    · intro x same
      exact ascends x (same ▸ List.mem_cons_self)
    · intro x mem
      exact ascends x (List.mem_cons_of_mem e mem)

/-! ## Progress -/

/-- The row that the session's next statement needs is locked by another. -/
structure Waits (sys : System K R O E A X) (i : Nat) (k : K) (j : Nat) : Prop where
  other : j ≠ i
  needs : ∃ s q next, sys.session i = some s ∧ s.prog = .issue q next ∧
    s.tx.needs sys.store q = some k
  holder : ∃ t, sys.session j = some t ∧ t.tx.locked k

/-- A session goes on, commits, or has ended with what it does not commit and is undone. -/
inductive GoesOn (program : X → Procedure K R O E A) (commits : Except E A → Bool)
    (sys : System K R O E A X) : System K R O E A X → Prop
  | step {i : Nat} {sys' : System K R O E A X}
      (stepped : step program commits sys (.step i) = some sys') : GoesOn program commits sys sys'
  | commit {i : Nat} {sys' : System K R O E A X}
      (stepped : step program commits sys (.commit i) = some sys') :
      GoesOn program commits sys sys'
  | undo {i : Nat} {s : Session K R O E A X} {sys' : System K R O E A X}
      (here : sys.session i = some s) (ended : ∀ q next, s.prog ≠ .issue q next)
      (refused : s.result commits = none)
      (stepped : Locking.step program commits sys (.abort i) = some sys') :
      GoesOn program commits sys sys'

theorem GoesOn.stepped (goes : GoesOn program commits sys sys') :
    ∃ e, (∀ x, e ≠ .start x) ∧ Stepped program commits sys e sys' := by
  cases goes with
  | @step i _ stepped => exact ⟨.step i, nofun, step_stepped stepped⟩
  | @commit i _ stepped => exact ⟨.commit i, nofun, step_stepped stepped⟩
  | @undo i _ _ here ended refused stepped => exact ⟨.abort i, nofun, step_stepped stepped⟩

theorem Orderly.goesOn (h : Orderly ranking sys) (goes : GoesOn program commits sys sys') :
    Orderly ranking sys' := by
  obtain ⟨e, later, stepped⟩ := goes.stepped
  exact h.stepped (fun x start => absurd start (later x)) stepped

/-- A session that cannot go on waits. -/
theorem waits_of_stuck (stuck : ∀ sys', ¬ GoesOn program commits sys sys') {i : Nat}
    {s : Session K R O E A X} (here : sys.session i = some s) : ∃ k j, Waits sys i k j := by
  by_cases issuing : ∃ q next, s.prog = .issue q next
  · obtain ⟨q, next, issued⟩ := issuing
    have blocked : (s.tx.needs sys.store q).any (sys.blocked i) := by
      by_contra free
      apply stuck (sys.replace i (some
        { s with prog := next (s.tx.reply sys.store q), tx := s.tx.perform sys.store q }))
      apply GoesOn.step (i := i)
      simp [step, here, Session.step, issued, free]
    obtain ⟨k, needs, blocked⟩ := (Option.any_eq_true _ _).mp blocked
    have held : ∃ j t, j ≠ i ∧ sys.session j = some t ∧ t.tx.locked k := by
      by_contra free
      push Not at free
      rw [blocked_eq_false.mpr fun j t other there =>
        Bool.eq_false_iff.mpr (free j t other there)] at blocked
      cases blocked
    obtain ⟨j, t, other, there, locked⟩ := held
    exact ⟨k, j, other, ⟨s, q, next, here, issued, needs⟩, t, there, locked⟩
  · exfalso
    push Not at issuing
    cases result : s.result commits with
    | none =>
      apply stuck (sys.replace i none)
      apply GoesOn.undo here issuing result
      simp [step, here]
    | some r =>
      apply stuck
      apply GoesOn.commit (i := i)
      simp [step, here, result]
      rfl

def Session.issuing (s : Session K R O E A X) : Bool :=
  match s.prog with
  | .issue _ _ => true
  | .done _ | .raise _ => false

omit [DecidableEq K] in
theorem issuing_true {s : Session K R O E A X} :
    s.issuing = true ↔ ∃ q next, s.prog = .issue q next := by
  unfold Session.issuing
  cases s.prog <;> simp

/-- Sessions that have all issued a statement and cannot go on. -/
theorem stuck_of_blocked (blocked : ∀ i s, sys.session i = some s →
    s.issuing ∧ Locking.step program commits sys (.step i) = none)
    (sys' : System K R O E A X) : ¬ GoesOn program commits sys sys' := by
  intro goes
  cases goes with
  | step stepped =>
    obtain ⟨s, here, -⟩ := Option.bind_eq_some_iff.mp stepped
    rw [(blocked _ s here).2] at stepped
    cases stepped
  | commit stepped =>
    obtain ⟨s, here, stepped⟩ := Option.bind_eq_some_iff.mp stepped
    obtain ⟨r, result, -⟩ := Option.bind_eq_some_iff.mp stepped
    obtain ⟨q, next, issued⟩ := issuing_true.mp (blocked _ s here).1
    simp [Session.result, issued] at result
  | undo here ended refused stepped =>
    obtain ⟨q, next, issued⟩ := issuing_true.mp (blocked _ _ here).1
    exact ended q next issued

omit [DecidableEq K] in
/-- Whoever waits for a row has no lock of its rank or above. -/
theorem Orderly.waits_above (h : Orderly ranking sys) {i j : Nat} {k : K} (waits : Waits sys i k j)
    {s : Session K R O E A X} (here : sys.session i = some s) :
    ranking.guard k = none ∧
      ∀ k', s.tx.locked k' → ranking.guard k' = none → ranking.rank k' < ranking.rank k := by
  obtain ⟨other, ⟨s', q, next, here', issued, needs⟩, t, there, locked⟩ := waits
  obtain rfl := Option.some.inj (here.symm.trans here')
  obtain ⟨p, climbed, ascends⟩ := h.sessions i s here
  obtain ⟨p', climbed', -⟩ := h.sessions j t there
  rw [issued] at ascends
  have climbs := ascends.1 k (needs_mayNeed needs)
  unfold Ranking.Climbs at climbs
  cases guard : ranking.guard k with
  | some g =>
    rw [guard] at climbs
    have both := h.apart i j s t g other.symm here there (climbed.held g climbs)
    rw [climbed'.guarded k g locked guard] at both
    cases both
  | none =>
    rw [guard] at climbs
    refine ⟨rfl, ?_⟩
    intro k' locked' free
    have le : ranking.rank k' ≤ ranking.rank k :=
      WithBot.coe_le_coe.mp (le_trans (climbed.top k' locked' free) climbs)
    apply lt_of_le_of_ne le
    intro same
    obtain rfl := ranking.distinct k' k same
    have both := h.apart i j s t k' other.symm here there locked'
    rw [locked] at both
    cases both

/-- Of the sessions that wait, the one for the highest row would wait for one that waits for a
higher row still. -/
theorem Orderly.progress (h : Orderly ranking sys) {i : Nat} {s : Session K R O E A X}
    (here : sys.session i = some s) : ∃ sys', GoesOn program commits sys sys' := by
  by_contra none
  push Not at none
  obtain ⟨k₀, j₀, -⟩ := waits_of_stuck none here
  have waiting (j : Nat) : ∃ k j', (sys.session j).isSome → Waits sys j k j' := by
    cases there : sys.session j with
    | none => exact ⟨k₀, j₀, nofun⟩
    | some t =>
      obtain ⟨k, j', waits⟩ := waits_of_stuck none there
      exact ⟨k, j', fun _ => waits⟩
  choose key holder waits using waiting
  let live := (Finset.range sys.sessions.length).filter fun j => (sys.session j).isSome
  have mem_live (j : Nat) (t : Session K R O E A X) (there : sys.session j = some t) :
      j ∈ live := by
    have bound : j < sys.sessions.length := by
      by_contra beyond
      unfold System.session at there
      rw [List.getElem?_eq_none (Nat.le_of_not_lt beyond)] at there
      cases there
    simp [live, bound, there]
  obtain ⟨m, mem, highest⟩ :=
    Finset.exists_max_image live (fun j => ranking.rank (key j)) ⟨i, mem_live i s here⟩
  have alive : (sys.session m).isSome := (Finset.mem_filter.mp mem).2
  obtain ⟨other, ⟨u, q, next, at_m, issued, needs⟩, t, there, locked⟩ := waits m alive
  have free := (h.waits_above (waits m alive) at_m).1
  have further := waits (holder m) (by rw [there]; rfl)
  have higher := (h.waits_above further there).2 (key m) locked free
  exact absurd (highest (holder m) (mem_live _ t there)) (not_le_of_gt higher)

/-! ## In the end -/

/-- However the sessions go on, they can do so until all of them have ended, and they do end. -/
inductive Settles (program : X → Procedure K R O E A) (commits : Except E A → Bool) :
    System K R O E A X → Prop
  | settled {sys : System K R O E A X} (ended : ∀ i, sys.session i = none) :
      Settles program commits sys
  | goesOn {sys : System K R O E A X} (able : ∃ sys', GoesOn program commits sys sys')
      (all : ∀ sys', GoesOn program commits sys sys' → Settles program commits sys') :
      Settles program commits sys

/-- What is left of a program after its next statement. -/
def Rest (p' p : Procedure K R O E A) : Prop :=
  ∃ q next r, p = .issue q next ∧ p' = next r

omit [DecidableEq K] in
theorem rest_wellFounded : WellFounded (Rest (K := K) (R := R) (O := O) (E := E) (A := A)) := by
  constructor
  intro p
  induction p with
  | done a =>
    constructor
    rintro p' ⟨q, next, r, same, -⟩
    cases same
  | raise e =>
    constructor
    rintro p' ⟨q, next, r, same, -⟩
    cases same
  | issue q next ih =>
    constructor
    rintro p' ⟨q', next', r, same, rfl⟩
    cases same
    exact ih r

/-- The programs that are not done with. -/
def programs (ss : List (Option (Session K R O E A X))) : Multiset (Procedure K R O E A) :=
  (ss.filterMap fun s => s.map Session.prog : List _)

omit [DecidableEq K] in
@[simp]
theorem programs_none (ss : List (Option (Session K R O E A X))) :
    programs (none :: ss) = programs ss := rfl

omit [DecidableEq K] in
@[simp]
theorem programs_some (s : Session K R O E A X) (ss : List (Option (Session K R O E A X))) :
    programs (some s :: ss) = s.prog ::ₘ programs ss := rfl

omit [DecidableEq K] in
/-- A session that ends takes its program with it. -/
theorem programs_ended {ss : List (Option (Session K R O E A X))} {i : Nat}
    {s : Session K R O E A X} (here : ss[i]? = some (some s)) :
    programs (ss.set i none) + {s.prog} = programs ss := by
  induction ss generalizing i with
  | nil => simp at here
  | cons x ss ih =>
    cases i with
    | zero =>
      obtain rfl : x = some s := by simpa using here
      exact add_comm _ _
    | succ i =>
      have rest := ih (i := i) (by simpa using here)
      cases x with
      | none => simpa using rest
      | some t => simp [← rest]

omit [DecidableEq K] in
theorem programs_stepped {ss : List (Option (Session K R O E A X))} {i : Nat}
    {s : Session K R O E A X} (here : ss[i]? = some (some s)) (s' : Session K R O E A X) :
    programs (ss.set i (some s')) + {s.prog} = programs ss + {s'.prog} := by
  have there : (ss.set i (some s'))[i]? = some (some s') := by
    have bound := (List.getElem?_eq_some_iff.mp here).1
    simp [bound]
  have ended := programs_ended there
  rw [List.set_set] at ended
  rw [← ended, ← programs_ended here]
  ac_rfl

omit [DecidableEq K] in
theorem session_getElem? {i : Nat} {s : Session K R O E A X} (here : sys.session i = some s) :
    sys.sessions[i]? = some (some s) := Option.join_eq_some_iff.mp here

theorem Stepped.cutExpand {e : Event X} (stepped : Stepped program commits sys e sys')
    (later : ∀ x, e ≠ .start x) :
    CutExpand Rest (programs sys'.sessions) (programs sys.sessions) := by
  have ends {i : Nat} {s : Session K R O E A X} (here : sys.session i = some s) :
      CutExpand Rest (programs (sys.sessions.set i none)) (programs sys.sessions) :=
    ⟨0, s.prog, by simp, by simpa using programs_ended (session_getElem? here)⟩
  cases stepped with
  | start x => exact absurd rfl (later x)
  | step here issued free =>
    refine ⟨{_}, _, ?_, programs_stepped (session_getElem? here) _⟩
    intro p' mem
    obtain rfl := Multiset.mem_singleton.mp mem
    exact ⟨_, _, _, issued, rfl⟩
  | commit here result => exact ends here
  | abort here => exact ends here

/-- Orderly systems settle: each step takes something from what is left of the programs. -/
theorem Orderly.settles (h : Orderly ranking sys) : Settles program commits sys := by
  have : Std.Irrefl (Rest (K := K) (R := R) (O := O) (E := E) (A := A)) :=
    ⟨fun p => rest_wellFounded.irrefl.irrefl p⟩
  have wellFounded := InvImage.wf (fun sys : System K R O E A X => programs sys.sessions)
    rest_wellFounded.cutExpand
  induction sys using wellFounded.induction with
  | _ sys ih =>
    by_cases ended : ∀ i, sys.session i = none
    · exact .settled ended
    · push Not at ended
      obtain ⟨i, live⟩ := ended
      obtain ⟨s, here⟩ := Option.ne_none_iff_exists'.mp live
      apply Settles.goesOn (h.progress here)
      intro sys' goes
      obtain ⟨e, later, stepped⟩ := goes.stepped
      exact ih sys' (stepped.cutExpand later) (h.goesOn goes)

end System

attribute [irreducible] Climbing Ascends

end Locking
