import Dbt2.Lib.Program
import Dbt2.Lib.Transition

/-!
# Transactions on locked rows

Programs that run as transactions on one store, their statements interleaved. A transaction keeps
its changes to itself until it commits. A row that it has changed or locked stays locked until it
ends, and a statement that needs such a row waits.

* `Stmt`, `Tx.perform`: the statements, and what they do in a transaction;
* `alone`: what they do if there are no other transactions;
* `step`: a system of transactions that start, take steps, commit and abort;
* `Apart`: no two of them hold one lock;
* `Tx.Sound`: each row that a transaction sees meets a condition that every write keeps;
* `Governed`: the rule by which an invariant of the committed store follows from a protocol that
  each program keeps.
-/

namespace Locking

open Transition

/-- A row or none at each key. -/
abbrev Store (K : Type) (R : K → Type) := (k : K) → Option (R k)

/-- The rows that a plain query sees: the latest committed ones and the transaction's own, those
at the time of the call, or those at the time of the first such query and its own. -/
inductive Mode where
  | latest
  | call
  | repeatable
  deriving DecidableEq

inductive Stmt (K : Type) (R : K → Type) (O : Type)
  | read (mode : Mode) (k : K)
  | find (mode : Mode) (q : Store K R → Option K)
  | lock (k : K)
  | lockFound (q : Store K R → Option K)
  | write (k : K) (f : Option (R k) → Option (R k))
  | emit (o : O)

variable {K : Type} {R : K → Type} {O E A X : Type}

/-- A write replies with the row as it was. -/
abbrev Stmt.Reply : Stmt K R O → Type
  | read _ k | lock k | write k _ => Option (R k)
  | find _ _ | lockFound _ => Option K
  | emit _ => Unit

abbrev Procedure (K : Type) (R : K → Type) (O E A : Type) := Prog (Stmt K R O) Stmt.Reply E A

section Statements

abbrev read (mode : Mode) (k : K) : Procedure K R O E (Option (R k)) := .send (Stmt.read mode k)

abbrev find (mode : Mode) (q : Store K R → Option K) : Procedure K R O E (Option K) :=
  .send (Stmt.find mode q)

abbrev lock (k : K) : Procedure K R O E (Option (R k)) := .send (Stmt.lock k)

abbrev lockFound (q : Store K R → Option K) : Procedure K R O E (Option K) := .send (Stmt.lockFound q)

abbrev write (k : K) (f : Option (R k) → Option (R k)) : Procedure K R O E (Option (R k)) :=
  .send (Stmt.write k f)

abbrev emit (o : O) : Procedure K R O E Unit := .send (Stmt.emit o)

end Statements

/-- The same statements, with other outputs, errors and values. -/
def relabel {O' E' A' : Type} (o : O → O') (e : E → E') (v : A → A') :
    Procedure K R O E A → Procedure K R O' E' A'
  | .done a => .done (v a)
  | .raise x => .raise (e x)
  | .issue (.read mode k) next => .issue (.read mode k) fun r => relabel o e v (next r)
  | .issue (.find mode q) next => .issue (.find mode q) fun r => relabel o e v (next r)
  | .issue (.lock k) next => .issue (.lock k) fun r => relabel o e v (next r)
  | .issue (.lockFound q) next => .issue (.lockFound q) fun r => relabel o e v (next r)
  | .issue (.write k f) next => .issue (.write k f) fun r => relabel o e v (next r)
  | .issue (.emit x) next => .issue (.emit (o x)) fun r => relabel o e v (next r)

variable [DecidableEq K]

/-- A statement if there are no other transactions; `called` is the store at the time of the call,
and what is emitted is collected. -/
def alone (called : Store K R) : (q : Stmt K R O) → Store K R × List O →
    q.Reply × (Store K R × List O)
  | .read .call k, s => (called k, s)
  | .read _ k, s => (s.1 k, s)
  | .find .call q, s => (q called, s)
  | .find _ q, s => (q s.1, s)
  | .lock k, s => (s.1 k, s)
  | .lockFound q, s => (q s.1, s)
  | .write k f, s => (s.1 k, (Function.update s.1 k (f (s.1 k)), s.2))
  | .emit o, s => ((), (s.1, s.2 ++ [o]))

/-! ## A transaction -/

/-- `own` are its changes, `seen` the rows as its queries last found them. -/
structure Tx (K : Type) (R : K → Type) where
  called : Store K R
  snapshot : Option (Store K R)
  own : (k : K) → Option (Option (R k))
  locked : K → Bool
  seen : (k : K) → Option (Option (R k))

namespace Tx

def start (store : Store K R) : Tx K R where
  called := store
  snapshot := none
  own _ := none
  locked _ := false
  seen _ := none

variable (tx : Tx K R) (store : Store K R)

/-- Its own rows and the committed ones, which it leaves if it commits. -/
def view : Store K R := fun k => (tx.own k).getD (store k)

def sees : Mode → Store K R
  | .latest => tx.view store
  | .call => tx.called
  | .repeatable => tx.view (tx.snapshot.getD store)

/-- The row that a statement waits for. -/
def needs : Stmt K R O → Option K
  | .lock k | .write k _ => some k
  | .lockFound q => q (tx.view store)
  | .read _ _ | .find _ _ | .emit _ => none

def reply : (q : Stmt K R O) → q.Reply
  | .read mode k => tx.sees store mode k
  | .find mode q => q (tx.sees store mode)
  | .lock k => tx.view store k
  | .lockFound q => q (tx.view store)
  | .write k _ => tx.view store k
  | .emit _ => ()

/-- A plain query under `repeatable` fixes what later ones see. -/
def fix (mode : Mode) : Tx K R :=
  if mode = .repeatable then { tx with snapshot := some (tx.snapshot.getD store) } else tx

def acquire (k : K) : Tx K R := { tx with locked := Function.update tx.locked k true }

def notice (k : K) (r : Option (R k)) : Tx K R :=
  { tx with seen := Function.update tx.seen k (some r) }

def change (k : K) (r : Option (R k)) : Tx K R :=
  { tx with own := Function.update tx.own k (some r) }

/-- There is nothing to lock where there is no row before or after. -/
def perform : Stmt K R O → Tx K R
  | .read mode k => (tx.fix store mode).notice k (tx.sees store mode k)
  | .find mode _ => tx.fix store mode
  | .lock k =>
    if (tx.view store k).isSome then (tx.acquire k).notice k (tx.view store k)
    else tx.notice k none
  | .lockFound q => (q (tx.view store)).elim tx tx.acquire
  | .write k f =>
    let old := tx.view store k
    if old.isSome || (f old).isSome then (tx.acquire k).change k (f old) else tx
  | .emit _ => tx

variable {tx store}

omit [DecidableEq K] in
theorem view_congr {other : Store K R} {k : K} (same : store k = other k) :
    tx.view store k = tx.view other k := by
  unfold view
  rw [same]

omit [DecidableEq K] in
theorem view_untouched {k : K} (untouched : tx.own k = none) : tx.view store k = store k := by
  unfold view
  rw [untouched, Option.getD_none]

omit [DecidableEq K] in
@[simp]
theorem fix_own (mode : Mode) : (tx.fix store mode).own = tx.own := by
  unfold fix
  split <;> rfl

omit [DecidableEq K] in
@[simp]
theorem fix_locked (mode : Mode) : (tx.fix store mode).locked = tx.locked := by
  unfold fix
  split <;> rfl

@[simp]
theorem notice_own (k : K) (r : Option (R k)) : (tx.notice k r).own = tx.own := rfl

@[simp]
theorem notice_locked (k : K) (r : Option (R k)) : (tx.notice k r).locked = tx.locked := rfl

theorem acquire_locked {k k' : K} : (tx.acquire k).locked k' = true ↔ k' = k ∨ tx.locked k' := by
  unfold acquire
  by_cases same : k' = k
  · simp [same]
  · simp [same]

@[simp]
theorem change_locked (k : K) (r : Option (R k)) : (tx.change k r).locked = tx.locked := rfl

theorem change_own_ne {k k' : K} (other : k' ≠ k) (r : Option (R k)) :
    (tx.change k r).own k' = tx.own k' := Function.update_of_ne other _ _

@[simp]
theorem change_own_self (k : K) (r : Option (R k)) : (tx.change k r).own k = some r :=
  Function.update_self _ _ _

/-- A statement takes no lock but on the row that it needs. -/
theorem perform_locked {q : Stmt K R O} {k : K} (locked : (tx.perform store q).locked k) :
    tx.needs store q = some k ∨ tx.locked k := by
  cases q with
  | read mode k' => exact .inr (by simpa [perform] using locked)
  | find mode q => exact .inr (by simpa [perform] using locked)
  | lock k' =>
    simp only [perform] at locked
    split at locked
    · obtain rfl | before := acquire_locked.mp locked
      · exact .inl rfl
      · exact .inr before
    · exact .inr locked
  | lockFound q =>
    simp only [perform] at locked
    cases found : q (tx.view store) with
    | none =>
      rw [found] at locked
      exact .inr locked
    | some k' =>
      rw [found] at locked
      obtain rfl | before := acquire_locked.mp locked
      · exact .inl found
      · exact .inr before
  | write k' f =>
    simp only [perform] at locked
    split at locked
    · obtain rfl | before := acquire_locked.mp locked
      · exact .inl rfl
      · exact .inr before
    · exact .inr locked
  | emit o => exact .inr locked

theorem perform_keeps {q : Stmt K R O} {k : K} (locked : tx.locked k) :
    (tx.perform store q).locked k := by
  cases q with
  | read mode k' => simpa [perform] using locked
  | find mode q => simpa [perform] using locked
  | lock k' =>
    simp only [perform]
    split
    · exact acquire_locked.mpr (.inr locked)
    · exact locked
  | lockFound q =>
    simp only [perform]
    cases q (tx.view store) with
    | none => exact locked
    | some k' => exact acquire_locked.mpr (.inr locked)
  | write k' f =>
    simp only [perform]
    split
    · exact acquire_locked.mpr (.inr locked)
    · exact locked
  | emit o => exact locked

@[simp]
theorem perform_read_own (mode : Mode) (k : K) :
    (tx.perform store (.read mode k : Stmt K R O)).own = tx.own := by
  simp [perform]

@[simp]
theorem perform_find_own (mode : Mode) (q : Store K R → Option K) :
    (tx.perform store (.find mode q : Stmt K R O)).own = tx.own := by
  simp [perform]

@[simp]
theorem perform_lock_own (k : K) : (tx.perform store (.lock k : Stmt K R O)).own = tx.own := by
  simp only [perform]
  split <;> rfl

@[simp]
theorem perform_lockFound_own (q : Store K R → Option K) :
    (tx.perform store (.lockFound q : Stmt K R O)).own = tx.own := by
  simp only [perform]
  cases q (tx.view store) <;> rfl

theorem perform_write_ne {k k' : K} {f : Option (R k) → Option (R k)} (other : k' ≠ k) :
    (tx.perform store (.write k f : Stmt K R O)).own k' = tx.own k' := by
  simp only [perform]
  split
  · exact change_own_ne other _
  · rfl

/-- Where there is a row before or after, a write leaves its own. -/
theorem perform_write_self {k : K} {f : Option (R k) → Option (R k)}
    (row : (tx.view store k).isSome ∨ (f (tx.view store k)).isSome) :
    (tx.perform store (.write k f : Stmt K R O)).own k = some (f (tx.view store k)) := by
  have there : (tx.view store k).isSome || (f (tx.view store k)).isSome := by simpa using row
  simp only [perform, there, if_true, change_own_self]

theorem perform_lock_locked {k : K} (row : (tx.view store k).isSome) :
    (tx.perform store (.lock k : Stmt K R O)).locked k := by
  simp only [perform, row, if_true, notice_locked]
  exact acquire_locked.mpr (.inl rfl)

theorem perform_lockFound_locked {q : Store K R → Option K} {k : K}
    (found : q (tx.view store) = some k) :
    (tx.perform store (.lockFound q : Stmt K R O)).locked k := by
  simp only [perform, found, Option.elim_some]
  exact acquire_locked.mpr (.inl rfl)

omit [DecidableEq K] in
@[simp]
theorem fix_seen (mode : Mode) : (tx.fix store mode).seen = tx.seen := by
  unfold fix
  split <;> rfl

@[simp]
theorem perform_read_seen_self (mode : Mode) (k : K) :
    (tx.perform store (.read mode k : Stmt K R O)).seen k = some (tx.sees store mode k) :=
  Function.update_self _ _ _

theorem perform_read_seen_ne {mode : Mode} {k k' : K} (other : k' ≠ k) :
    (tx.perform store (.read mode k : Stmt K R O)).seen k' = tx.seen k' := by
  simp only [perform, notice]
  rw [Function.update_of_ne other, fix_seen]

@[simp]
theorem perform_lock_seen_self (k : K) :
    (tx.perform store (.lock k : Stmt K R O)).seen k = some (tx.view store k) := by
  simp only [perform]
  split
  · exact Function.update_self _ _ _
  · rename_i absent
    rw [Option.not_isSome_iff_eq_none.mp absent]
    exact Function.update_self _ _ _

theorem perform_lock_seen_ne {k k' : K} (other : k' ≠ k) :
    (tx.perform store (.lock k : Stmt K R O)).seen k' = tx.seen k' := by
  simp only [perform]
  split <;> exact Function.update_of_ne other _ _

@[simp]
theorem perform_write_seen (k : K) (f : Option (R k) → Option (R k)) :
    (tx.perform store (.write k f : Stmt K R O)).seen = tx.seen := by
  simp only [perform]
  split <;> rfl

theorem perform_write_absent {k : K} {f : Option (R k) → Option (R k)}
    (before : tx.view store k = none) (after : f none = none) :
    tx.perform store (.write k f : Stmt K R O) = tx := by
  simp [perform, before, after]

omit [DecidableEq K] in
theorem view_own {k : K} {r : Option (R k)} (written : tx.own k = some r) :
    tx.view store k = r := by
  unfold view
  rw [written, Option.getD_some]

theorem perform_write_locked {k : K} {f : Option (R k) → Option (R k)}
    (row : (tx.view store k).isSome ∨ (f (tx.view store k)).isSome) :
    (tx.perform store (.write k f : Stmt K R O)).locked k := by
  have there : (tx.view store k).isSome || (f (tx.view store k)).isSome := by simpa using row
  simp only [perform, there, if_true, change_locked]
  exact acquire_locked.mpr (.inl rfl)

end Tx

/-! ## A system of transactions -/

structure Session (K : Type) (R : K → Type) (O E A X : Type) where
  args : X
  prog : Procedure K R O E A
  tx : Tx K R

/-- What remains of a session that has committed. -/
structure Committed (K : Type) (R : K → Type) (E A X : Type) where
  args : X
  value : Except E A
  tx : Tx K R

/-- Sessions that have ended are none. -/
structure System (K : Type) (R : K → Type) (O E A X : Type) where
  store : Store K R
  sessions : List (Option (Session K R O E A X))
  results : List (Committed K R E A X)

inductive Event (X : Type) where
  | start (x : X)
  | step (i : Nat)
  | commit (i : Nat)
  | abort (i : Nat)

namespace System

def start (store : Store K R) : System K R O E A X where
  store
  sessions := []
  results := []

variable (sys : System K R O E A X)

def session (i : Nat) : Option (Session K R O E A X) := (sys.sessions[i]?).join

/-- Another session has locked the row. -/
def blocked (i : Nat) (k : K) : Bool :=
  (List.range sys.sessions.length).any fun j =>
    j ≠ i && (sys.session j).any fun s => s.tx.locked k

def replace (i : Nat) (s : Option (Session K R O E A X)) : System K R O E A X :=
  { sys with sessions := sys.sessions.set i s }

end System

/-- The next statement of a session, if it need not wait. -/
def Session.step (store : Store K R) (blocked : K → Bool) (s : Session K R O E A X) :
    Option (Session K R O E A X) :=
  match s.prog with
  | .issue q next =>
    if (s.tx.needs store q).any blocked then none
    else some { s with prog := next (s.tx.reply store q), tx := s.tx.perform store q }
  | .done _ | .raise _ => none

/-- What a session may commit with. -/
def Session.result (commits : Except E A → Bool) (s : Session K R O E A X) :
    Option (Committed K R E A X) :=
  match s.prog with
  | .done a => if commits (.ok a) then some ⟨s.args, .ok a, s.tx⟩ else none
  | .raise e => if commits (.error e) then some ⟨s.args, .error e, s.tx⟩ else none
  | .issue _ _ => none

def step (program : X → Procedure K R O E A) (commits : Except E A → Bool) (sys : System K R O E A X) :
    Event X → Option (System K R O E A X)
  | .start x => some { sys with sessions := sys.sessions ++
      [some { args := x, prog := program x, tx := .start sys.store }] }
  | .step i => do
    let s ← sys.session i
    let s' ← s.step sys.store (sys.blocked i)
    some (sys.replace i (some s'))
  | .commit i => do
    let s ← sys.session i
    let r ← s.result commits
    some { sys.replace i none with
      store := s.tx.view sys.store, results := sys.results ++ [r] }
  | .abort i => do
    let _ ← sys.session i
    some (sys.replace i none)

section Step

variable {program : X → Procedure K R O E A} {commits : Except E A → Bool}
  {sys sys' : System K R O E A X}

omit [DecidableEq K] in
theorem session_replace_self {i : Nat} {s : Session K R O E A X} (here : sys.session i = some s)
    (s' : Option (Session K R O E A X)) : (sys.replace i s').session i = s' := by
  have bound : i < sys.sessions.length := by
    by_contra beyond
    unfold System.session at here
    rw [List.getElem?_eq_none (Nat.le_of_not_lt beyond)] at here
    cases here
  unfold System.session System.replace
  rw [List.getElem?_set_self bound, Option.join_some]

omit [DecidableEq K] in
theorem session_replace_ne {i j : Nat} (other : j ≠ i) (s' : Option (Session K R O E A X)) :
    (sys.replace i s').session j = sys.session j := by
  unfold System.session System.replace
  rw [List.getElem?_set_ne (Ne.symm other)]

omit [DecidableEq K] in
theorem session_append (s : Session K R O E A X) (j : Nat) :
    ({ sys with sessions := sys.sessions ++ [some s] } : System K R O E A X).session j =
      if j = sys.sessions.length then some s else sys.session j := by
  unfold System.session
  by_cases last : j = sys.sessions.length
  · subst last
    simp
  · rw [if_neg last]
    by_cases before : j < sys.sessions.length
    · rw [List.getElem?_append_left before]
    · rw [List.getElem?_eq_none (by simp; omega), List.getElem?_eq_none (by omega)]

omit [DecidableEq K] in
theorem blocked_eq_false {i : Nat} {k : K} : sys.blocked i k = false ↔
    ∀ j s, j ≠ i → sys.session j = some s → s.tx.locked k = false := by
  unfold System.blocked
  rw [List.any_eq_false]
  constructor
  · intro none j s other here
    have bound : j < sys.sessions.length := by
      by_contra beyond
      unfold System.session at here
      rw [List.getElem?_eq_none (Nat.le_of_not_lt beyond)] at here
      cases here
    simpa [other, here] using none j (List.mem_range.mpr bound)
  · intro none j _
    cases here : sys.session j with
    | none => simp
    | some s =>
      by_cases same : j = i
      · simp [same]
      · simp [none j s same here]

/-- What a step finds, and what it leaves. -/
inductive Stepped (program : X → Procedure K R O E A) (commits : Except E A → Bool)
    (sys : System K R O E A X) : Event X → System K R O E A X → Prop
  | start (x : X) : Stepped program commits sys (.start x)
      { sys with sessions := sys.sessions ++
          [some { args := x, prog := program x, tx := .start sys.store }] }
  | step {i : Nat} {s : Session K R O E A X} {q : Stmt K R O}
      {next : q.Reply → Procedure K R O E A} (here : sys.session i = some s)
      (issued : s.prog = .issue q next)
      (free : ∀ k, s.tx.needs sys.store q = some k → sys.blocked i k = false) :
      Stepped program commits sys (.step i) (sys.replace i (some
        { s with prog := next (s.tx.reply sys.store q), tx := s.tx.perform sys.store q }))
  | commit {i : Nat} {s : Session K R O E A X} {r : Committed K R E A X}
      (here : sys.session i = some s) (result : s.result commits = some r) :
      Stepped program commits sys (.commit i)
        { sys.replace i none with
          store := s.tx.view sys.store, results := sys.results ++ [r] }
  | abort {i : Nat} {s : Session K R O E A X} (here : sys.session i = some s) :
      Stepped program commits sys (.abort i) (sys.replace i none)

theorem step_stepped {e : Event X} (h : step program commits sys e = some sys') :
    Stepped program commits sys e sys' := by
  cases e with
  | start x =>
    cases h
    exact .start x
  | step i =>
    obtain ⟨s, here, h⟩ := Option.bind_eq_some_iff.mp h
    obtain ⟨s', stepped, h⟩ := Option.bind_eq_some_iff.mp h
    cases h
    cases issued : s.prog with
    | done a => simp [Session.step, issued] at stepped
    | raise e => simp [Session.step, issued] at stepped
    | issue q next =>
      simp only [Session.step, issued] at stepped
      split at stepped
      · cases stepped
      · rename_i free
        cases stepped
        refine .step here issued ?_
        intro k needs
        simpa [needs] using free
  | commit i =>
    obtain ⟨s, here, h⟩ := Option.bind_eq_some_iff.mp h
    obtain ⟨r, result, h⟩ := Option.bind_eq_some_iff.mp h
    cases h
    exact .commit here result
  | abort i =>
    obtain ⟨s, here, h⟩ := Option.bind_eq_some_iff.mp h
    cases h
    exact .abort here

/-! ## Locks -/

/-- No two sessions have locked one row. -/
def Apart (sys : System K R O E A X) : Prop :=
  ∀ i j s t k, i ≠ j → sys.session i = some s → sys.session j = some t →
    s.tx.locked k → t.tx.locked k = false

omit [DecidableEq K] in
theorem Apart.start (store : Store K R) : Apart (System.start store : System K R O E A X) := by
  intro i j s t k _ here
  simp [System.session, System.start] at here

omit [DecidableEq K] in
theorem session_ended {i j : Nat} {s t : Session K R O E A X} (here : sys.session i = some s)
    (there : (sys.replace i none).session j = some t) : j ≠ i ∧ sys.session j = some t := by
  by_cases same : j = i
  · subst same
    rw [session_replace_self here] at there
    cases there
  · exact ⟨same, by rwa [session_replace_ne same] at there⟩

omit [DecidableEq K] in
/-- A session that has ended holds nothing. -/
theorem Apart.ended {i : Nat} {s : Session K R O E A X} (h : Apart sys)
    (here : sys.session i = some s) : Apart (sys.replace i none) := by
  intro j j' t t' k other there there'
  exact h j j' t t' k other (session_ended here there).2 (session_ended here there').2

theorem Apart.step {e : Event X} (h : Apart sys) (stepped : Stepped program commits sys e sys') :
    Apart sys' := by
  cases stepped with
  | start x =>
    intro j j' t t' k other there there' locked
    rw [session_append] at there there'
    split at there
    · cases there
      cases locked
    · split at there'
      · cases there'
        rfl
      · exact h j j' t t' k other there there' locked
  | step here issued free =>
    rename_i i s q next
    -- the lock that the statement takes is no other session's
    have taken (j : Nat) (t : Session K R O E A X) (k : K) (other : j ≠ i)
        (there : sys.session j = some t) (locked : (s.tx.perform sys.store q).locked k) :
        t.tx.locked k = false := by
      obtain needs | before := Tx.perform_locked locked
      · exact blocked_eq_false.mp (free k needs) j t other there
      · exact h i j s t k other.symm here there before
    intro j j' t t' k other there there' locked
    by_cases first : j = i
    · subst first
      rw [session_replace_self here] at there
      cases there
      rw [session_replace_ne (Ne.symm other)] at there'
      exact taken j' t' k (Ne.symm other) there' locked
    · rw [session_replace_ne first] at there
      by_cases second : j' = i
      · subst second
        rw [session_replace_self here] at there'
        cases there'
        by_contra both
        have free := taken j t k other there (Bool.eq_true_of_not_eq_false both)
        exact absurd locked (by simpa using free)
      · rw [session_replace_ne second] at there'
        exact h j j' t t' k other there there' locked
  | commit here result => exact h.ended here
  | abort here => exact h.ended here

end Step

/-! ## What every row satisfies -/

section Sound

variable (ok : (k : K) → Option (R k) → Prop)

def Stmt.ReplyOk : (q : Stmt K R O) → q.Reply → Prop
  | .read _ k, r | .lock k, r => ok k r
  | .find _ _, _ | .lockFound _, _ | .write _ _, _ | .emit _, _ => True

/-- Every row that a transaction sees or has written is as it should be, and it has locked the
ones that it has written. -/
structure Tx.Sound (tx : Tx K R) (store : Store K R) : Prop where
  store : ∀ k, ok k (store k)
  called : ∀ k, ok k (tx.called k)
  snapshot : ∀ s, tx.snapshot = some s → ∀ k, ok k (s k)
  own : ∀ k r, tx.own k = some r → ok k r
  guarded : ∀ k, tx.locked k = false → tx.own k = none

variable {ok} {tx tx' : Tx K R} {store : Store K R}

namespace Tx.Sound

omit [DecidableEq K] in
theorem started (rows : ∀ k, ok k (store k)) : (Tx.start store).Sound ok store :=
  ⟨rows, rows, nofun, nofun, fun _ _ => rfl⟩

omit [DecidableEq K] in
theorem viewed (h : tx.Sound ok store) {other : Store K R} (rows : ∀ k, ok k (other k)) (k : K) :
    ok k (tx.view other k) := by
  unfold Tx.view
  cases written : tx.own k with
  | none => exact rows k
  | some r => exact h.own k r written

omit [DecidableEq K] in
theorem view (h : tx.Sound ok store) (k : K) : ok k (tx.view store k) := h.viewed h.store k

omit [DecidableEq K] in
theorem sees (h : tx.Sound ok store) (mode : Mode) (k : K) : ok k (tx.sees store mode k) := by
  cases mode with
  | latest => exact h.view k
  | call => exact h.called k
  | repeatable =>
    apply h.viewed
    cases taken : tx.snapshot with
    | none => exact h.store
    | some s => exact h.snapshot s taken

omit [DecidableEq K] in
theorem reply (h : tx.Sound ok store) (q : Stmt K R O) : q.ReplyOk ok (tx.reply store q) := by
  cases q with
  | read mode k => exact h.sees mode k
  | lock k => exact h.view k
  | write k f => trivial
  | find mode q => trivial
  | lockFound q => trivial
  | emit o => trivial

omit [DecidableEq K] in
theorem fix (h : tx.Sound ok store) (mode : Mode) : (tx.fix store mode).Sound ok store := by
  unfold Tx.fix
  split
  · refine ⟨h.store, h.called, ?_, h.own, h.guarded⟩
    intro s taken
    cases before : tx.snapshot with
    | none =>
      simp only [before, Option.getD_none, Option.some.injEq] at taken
      exact taken ▸ h.store
    | some s' =>
      simp only [before, Option.getD_some, Option.some.injEq] at taken
      exact taken ▸ h.snapshot s' before
  · exact h

theorem notice (h : tx.Sound ok store) (k : K) (r : Option (R k)) :
    (tx.notice k r).Sound ok store := ⟨h.store, h.called, h.snapshot, h.own, h.guarded⟩

theorem acquire (h : tx.Sound ok store) (k : K) : (tx.acquire k).Sound ok store := by
  refine ⟨h.store, h.called, h.snapshot, h.own, ?_⟩
  intro k' free
  apply h.guarded k'
  by_contra locked
  have still : (tx.acquire k).locked k' :=
    Tx.acquire_locked.mpr (.inr (Bool.eq_true_of_not_eq_false locked))
  rw [still] at free
  cases free

theorem change (h : tx.Sound ok store) {k : K} {r : Option (R k)} (row : ok k r)
    (locked : tx.locked k) : (tx.change k r).Sound ok store := by
  refine ⟨h.store, h.called, h.snapshot, ?_, ?_⟩
  · intro k' r' written
    by_cases same : k' = k
    · subst same
      rw [Tx.change_own_self] at written
      cases written
      exact row
    · rw [Tx.change_own_ne same] at written
      exact h.own k' r' written
  · intro k' free
    rw [Tx.change_locked] at free
    have other : k' ≠ k := by
      rintro rfl
      rw [locked] at free
      cases free
    rw [Tx.change_own_ne other]
    exact h.guarded k' free

theorem perform (h : tx.Sound ok store) {q : Stmt K R O}
    (keeps : ∀ k f, q = .write k f → ∀ r, ok k r → ok k (f r)) :
    (tx.perform store q).Sound ok store := by
  cases q with
  | read mode k => exact (h.fix mode).notice k _
  | find mode q => exact h.fix mode
  | lock k =>
    simp only [Tx.perform]
    split
    · exact (h.acquire k).notice k _
    · exact h.notice k _
  | lockFound q =>
    simp only [Tx.perform]
    cases q (tx.view store) with
    | none => exact h
    | some k => exact h.acquire k
  | write k f =>
    simp only [Tx.perform]
    split
    · exact (h.acquire k).change (keeps k f rfl _ (h.view k)) (Tx.acquire_locked.mpr (.inl rfl))
    · exact h
  | emit o => exact h

omit [DecidableEq K] in
/-- A commit leaves the rows that another transaction has locked. -/
theorem untouched (h : tx.Sound ok store) (apart : ∀ k, tx.locked k → tx'.locked k = false) {k : K}
    (locked : tx'.locked k) : tx.view store k = store k := by
  apply Tx.view_untouched
  apply h.guarded k
  by_contra both
  rw [apart k (Bool.eq_true_of_not_eq_false both)] at locked
  cases locked

omit [DecidableEq K] in
theorem committed (h : tx.Sound ok store) (h' : tx'.Sound ok store) :
    tx'.Sound ok (tx.view store) :=
  ⟨h.view, h'.called, h'.snapshot, h'.own, h'.guarded⟩

end Tx.Sound

end Sound

/-! ## Invariants -/

/-- Whether a step meets a condition on the store, the transaction and the statement. -/
def System.permits (good : Store K R → Tx K R → Stmt K R O → Bool) (sys : System K R O E A X) :
    Event X → Bool
  | .step i => (sys.session i).all fun s =>
      match s.prog with
      | .issue q _ => good sys.store s.tx q
      | .done _ | .raise _ => true
  | .start _ | .commit _ | .abort _ => true

omit [DecidableEq K] in
theorem System.permits_true (sys : System K R O E A X) (e : Event X) :
    sys.permits (fun _ _ _ => true) e := by
  cases e with
  | step i =>
    simp only [System.permits]
    cases sys.session i with
    | none => rfl
    | some s =>
      rw [Option.all_some]
      split <;> rfl
  | start x => rfl
  | commit i => rfl
  | abort i => rfl

section Governed

variable {P : Type} (program : X → Procedure K R O E A) (commits : Except E A → Bool)
  (valid : X → Prop) (ok : (k : K) → Option (R k) → Prop)
  (good : Store K R → Tx K R → Stmt K R O → Bool)
  (protocol : X → Prog.Protocol (Stmt K R O) Stmt.Reply P) (ends : X → P → Except E A → Prop)
  (Local : X → P → Tx K R → Store K R → Prop)
  (Global : Store K R → List (Committed K R E A X) → Prop)

/-- `Global` relates the committed store to what has been committed, and `Local` each transaction
to the store, in its phase. -/
structure Governed : Prop where
  writes : ∀ x p k f, (protocol x).allowed p (.write k f) → ∀ r, ok k r → ok k (f r)
  start : ∀ x store, valid x →
    ∃ p, Local x p (.start store) store ∧ (program x).Follows (protocol x) (ends x) p
  issue : ∀ x p tx store results q, Global store results → tx.Sound ok store →
    Local x p tx store → (protocol x).allowed p q → good store tx q →
      ∃ p', (protocol x).moves p q (tx.reply store q) p' ∧ Local x p' (tx.perform store q) store
  commit : ∀ x p tx store results v, Global store results → tx.Sound ok store →
    Local x p tx store → ends x p v → commits v → Global (tx.view store) (results ++ [⟨x, v, tx⟩])
  others : ∀ x p tx y p' tx' store results v, Global store results → tx.Sound ok store →
    tx'.Sound ok store → Local x p tx store → ends x p v → commits v → Local y p' tx' store →
      (∀ k, tx.locked k → tx'.locked k = false) → Local y p' tx' (tx.view store)

structure Holds (sys : System K R O E A X) : Prop where
  apart : Apart sys
  global : Global sys.store sys.results
  store : ∀ k, ok k (sys.store k)
  sessions : ∀ i s, sys.session i = some s → s.tx.Sound ok sys.store ∧
    ∃ p, Local s.args p s.tx sys.store ∧ s.prog.Follows (protocol s.args) (ends s.args) p

variable {program commits valid ok good protocol ends Local Global}

omit [DecidableEq K] in
theorem Holds.start {store : Store K R} (rows : ∀ k, ok k (store k)) (global : Global store []) :
    Holds ok protocol ends Local Global (System.start store : System K R O E A X) := by
  refine ⟨.start store, global, rows, ?_⟩
  intro i s here
  simp [System.session, System.start] at here

variable (h : Governed program commits valid ok good protocol ends Local Global)

omit [DecidableEq K] in
/-- A session that may commit has followed its protocol to an end. -/
theorem Session.ended {x : X} {p : P} {s : Session K R O E A X} {r : Committed K R E A X}
    (result : s.result commits = some r)
    (follows : s.prog.Follows (protocol x) (ends x) p) :
    ends x p r.value ∧ commits r.value ∧ r.args = s.args ∧ r.tx = s.tx := by
  unfold Session.result at result
  cases ended : s.prog with
  | issue q next => simp [ended] at result
  | done a =>
    rw [ended] at result follows
    by_cases accepted : commits (.ok a)
    · simp only [accepted, if_true, Option.some.injEq] at result
      subst result
      exact ⟨follows, accepted, rfl, rfl⟩
    · simp [accepted] at result
  | raise e =>
    rw [ended] at result follows
    by_cases accepted : commits (.error e)
    · simp only [accepted, if_true, Option.some.injEq] at result
      subst result
      exact ⟨follows, accepted, rfl, rfl⟩
    · simp [accepted] at result

include h

theorem Governed.stepped {sys sys' : System K R O E A X} {e : Event X}
    (holds : Holds ok protocol ends Local Global sys)
    (stepped : Stepped program commits sys e sys') (valid : ∀ x, e = .start x → valid x)
    (permitted : sys.permits good e) : Holds ok protocol ends Local Global sys' := by
  have apart := holds.apart.step stepped
  cases stepped with
  | start x =>
    refine ⟨apart, holds.global, holds.store, ?_⟩
    intro j t there
    rw [session_append] at there
    split at there
    · cases there
      exact ⟨.started holds.store, h.start x sys.store (valid x rfl)⟩
    · exact holds.sessions j t there
  | step here issued free =>
    rename_i i s q next
    refine ⟨apart, holds.global, holds.store, ?_⟩
    intro j t there
    by_cases same : j = i
    · subst same
      rw [session_replace_self here] at there
      cases there
      obtain ⟨sound, p, inv, follows⟩ := holds.sessions _ s here
      rw [issued] at follows
      have good : good sys.store s.tx q := by
        simpa [System.permits, here, issued] using permitted
      refine ⟨sound.perform ?_, ?_⟩
      · rintro k f rfl
        exact h.writes s.args p k f follows.1
      · obtain ⟨p', moves, inv'⟩ :=
          h.issue s.args p s.tx sys.store sys.results q holds.global sound inv follows.1 good
        exact ⟨p', inv', follows.2 _ p' moves⟩
    · rw [session_replace_ne same] at there
      exact holds.sessions j t there
  | commit here result =>
    rename_i i s r
    obtain ⟨sound, p, inv, follows⟩ := holds.sessions i s here
    obtain ⟨ended, accepted, args, tx⟩ := Session.ended result follows
    obtain ⟨x, v, tx'⟩ := r
    cases args
    cases tx
    refine ⟨apart, h.commit s.args p s.tx _ _ v holds.global sound inv ended accepted, sound.view,
      ?_⟩
    intro j t there
    obtain ⟨other, before⟩ := session_ended here there
    obtain ⟨sound', p', inv', follows'⟩ := holds.sessions j t before
    refine ⟨sound.committed sound', p', ?_, follows'⟩
    exact h.others s.args p s.tx t.args p' t.tx _ _ v holds.global sound sound' inv ended accepted
      inv' fun k locked => holds.apart i j s t k other.symm here before locked
  | abort here =>
    refine ⟨apart, holds.global, holds.store, ?_⟩
    intro j t there
    exact holds.sessions j t (session_ended here there).2

/-- Every run keeps what one step keeps. -/
theorem Governed.run {sys sys' : System K R O E A X} {events : List (Event X)}
    (ran : run (step program commits) sys events = some sys')
    (valid : ∀ x, .start x ∈ events → valid x)
    (permitted : Along (step program commits) (System.permits good) sys events)
    (holds : Holds ok protocol ends Local Global sys) :
    Holds ok protocol ends Local Global sys' := by
  induction events generalizing sys with
  | nil =>
    obtain rfl : sys = sys' := by simpa [Transition.run] using ran
    exact holds
  | cons e events ih =>
    obtain ⟨u, stepped, later⟩ := run_cons.mp ran
    obtain ⟨here, further⟩ := along_cons permitted stepped
    have next := h.stepped holds (step_stepped stepped)
      (fun x same => valid x (same ▸ List.mem_cons_self)) here
    exact ih later (fun x mem => valid x (List.mem_cons_of_mem e mem)) further next

/-- What the invariant says of the statement that comes next holds along every run. -/
theorem Governed.along {met : Store K R → Tx K R → Stmt K R O → Bool}
    (meets : ∀ x p tx store results q, Global store results → tx.Sound ok store →
      Local x p tx store → (protocol x).allowed p q → met store tx q)
    {sys : System K R O E A X} {events : List (Event X)}
    (valid : ∀ x, .start x ∈ events → valid x)
    (permitted : Along (step program commits) (System.permits good) sys events)
    (holds : Holds ok protocol ends Local Global sys) :
    Along (step program commits) (System.permits met) sys events := by
  induction events generalizing sys with
  | nil => rfl
  | cons e events ih =>
    have here : sys.permits met e := by
      cases e with
      | start x => rfl
      | commit i => rfl
      | abort i => rfl
      | step i =>
        simp only [System.permits]
        cases there : sys.session i with
        | none => rfl
        | some s =>
          obtain ⟨sound, p, inv, follows⟩ := holds.sessions i s there
          cases issued : s.prog with
          | done a => rw [Option.all_some, issued]
          | raise e => rw [Option.all_some, issued]
          | issue q next =>
            rw [issued] at follows
            rw [Option.all_some, issued]
            exact meets s.args p s.tx sys.store sys.results q holds.global sound inv follows.1
    simp only [Along, here, Bool.true_and]
    cases stepped : step program commits sys e with
    | none => rfl
    | some u =>
      obtain ⟨permitted, further⟩ := along_cons permitted stepped
      have next := h.stepped holds (step_stepped stepped)
        (fun x same => valid x (same ▸ List.mem_cons_self)) permitted
      exact ih (fun x mem => valid x (List.mem_cons_of_mem e mem)) further next

end Governed

end Locking
