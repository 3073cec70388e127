import Dbt2.NonspErrors

/-!
# Cursors on SQLite

The nonsp functions, down to the calls of the SQLite library. `sql_execute_sqlite` takes the first
step of a statement and keeps its row for the first `sql_fetchrow_sqlite`. A statement is finalized
where its steps end or where the cursor is closed.

* `Cursor`: a prepared statement and the flags of its `sql_result_t`;
* `Cursor.fetchAll`: the loop over the rows, which it yields each once (`fetchAll_rows`);
* `ask`: what the functions do with a statement, one of three things, after each of which it is
  finalized once (`ask_statement`);
* `cursor_protocol_iff`: in every run of every function the cursors are used so, unless an order
  has more lines than the arrays of `order_status_nonsp` have entries.
-/

namespace Dbt2

open Prog

/-! ## The library -/

/-- What comes after the rows of a statement. After SQLITE_DONE, `sqlite3_finalize` may report an
error. -/
inductive Ending where
  | done (finalizes : Bool)
  | error
  deriving DecidableEq

inductive StepResult where
  | row
  | done
  | error
  deriving DecidableEq

/-- A prepared statement, with how often it was stepped and finalized, and the flags that go with
it. It is `misused` if it was stepped or read after it was finalized. -/
structure Cursor (R : Type) where
  rows : List R
  ending : Ending
  stepped : Nat
  finalized : Nat
  misused : Bool
  error : Bool
  queryRunning : Bool
  prefetched : Bool
  /-- The rows that the function has read. -/
  fetched : List R
  deriving DecidableEq

namespace Cursor

variable {R : Type}

def prepare (rows : List R) (ending : Ending) : Cursor R where
  rows
  ending
  stepped := 0
  finalized := 0
  misused := false
  error := false
  queryRunning := true
  prefetched := false
  fetched := []

def sqlite3Step (c : Cursor R) : StepResult × Cursor R :=
  let rc : StepResult :=
    if c.stepped < c.rows.length then .row
    else match c.ending with
      | .done _ => .done
      | .error => .error
  (rc, { c with stepped := c.stepped + 1, misused := c.misused || 0 < c.finalized })

/-- Whether it returns SQLITE_OK: it does where the statement has more to come. -/
def sqlite3Finalize (c : Cursor R) : Bool × Cursor R :=
  (c.stepped ≤ c.rows.length || c.ending = .done true, { c with finalized := c.finalized + 1 })

/-- The row that the statement was last stepped to. -/
def sqlite3Row (c : Cursor R) : Option R × Cursor R :=
  (if c.stepped = 0 then none else c.rows[c.stepped - 1]?,
    { c with misused := c.misused || 0 < c.finalized })

/-! ## The driver functions -/

def sqlFetchrow (c : Cursor R) : Bool × Cursor R :=
  if !c.queryRunning then (false, c)
  else if c.prefetched then (true, { c with prefetched := false })
  else
    let (rc, c) := c.sqlite3Step
    match rc with
    | .row => (true, c)
    | .done =>
      let (ok, c) := c.sqlite3Finalize
      (false, { c with error := c.error || !ok, queryRunning := false })
    | .error =>
      let (_, c) := { c with error := true }.sqlite3Finalize
      (false, { c with queryRunning := false })

/-- The part of `sql_execute_sqlite` after the statement was prepared. -/
def sqlExecute (c : Cursor R) : Bool × Cursor R :=
  let (_, c) := c.sqlFetchrow
  if c.error then (false, c) else (true, { c with prefetched := true })

def sqlCloseCursor (c : Cursor R) : Cursor R :=
  if c.queryRunning then ({ c with queryRunning := false }.sqlite3Finalize).2 else c

/-- All columns of the current row. -/
def sqlGetvalue (c : Cursor R) : Option R × Cursor R :=
  if c.queryRunning then
    let (row, c) := c.sqlite3Row
    (row, { c with fetched := c.fetched ++ row.toList })
  else (none, c)

/-- `while (sql_fetchrow(..)) { .. sql_getvalue(..) .. }`, so many rounds at most. -/
def fetchAll : Nat → Cursor R → Cursor R
  | 0, c => c
  | fuel + 1, c =>
    let (more, c) := c.sqlFetchrow
    if more then fetchAll fuel c.sqlGetvalue.2 else c

end Cursor

/-! ## Statements -/

/-- What SQLite makes of a statement. One that changes rows returns none. -/
structure Response (q : NonspQuery) where
  begins : Bool
  prepares : Bool
  rows : List q.Row
  ending : Ending
  noRows : q.kind = .change → rows = []

/-- Order-Status returns without closing the cursor if it has found no customer. -/
def NonspQuery.closes : (q : NonspQuery) → List q.Row → Bool
  | .orderStatus1 .., first :: rest => (middleId first rest).isSome
  | _, _ => true

/-- The answer that the function goes on with, and the statement if one was prepared. -/
def ask (q : NonspQuery) (inTransaction : Bool) (r : Response q) :
    Answer q.Row × Option (Cursor q.Row) :=
  if !inTransaction && !r.begins then (.failed, none)
  else if !r.prepares then (.failed, none)
  else
    let (ok, c) := (Cursor.prepare r.rows r.ending).sqlExecute
    if !ok then (.failed, some c)
    else
      match q.kind with
      | .change => (.noRow, some c)
      | .one | .ifAny =>
        if c.queryRunning then
          let (_, c) := c.sqlFetchrow
          let (row, c) := c.sqlGetvalue
          (match row with
            | some first => .row first [] false
            | none => .noRow, some c.sqlCloseCursor)
        else (.noRow, some c)
      | .all =>
        if c.queryRunning then
          let c := c.fetchAll (r.rows.length + 2)
          (match c.fetched with
            | first :: rest => .row first rest c.error
            | [] => .noRow,
            some (if q.closes c.fetched then c.sqlCloseCursor else c))
        else (.noRow, some c)

/-- The statements that a function has prepared. -/
structure CursorRun where
  inTransaction : Bool
  statements : List ((q : NonspQuery) × Cursor q.Row)

/-- Whatever SQLite responds to the statements so far. -/
abbrev Responses : Type := CursorRun → (q : NonspQuery) → Response q

def Responses.on (respond : Responses) (q : NonspQuery) (s : CursorRun) :
    Answer q.Row × CursorRun :=
  let r := respond s q
  let result := ask q s.inTransaction r
  (result.1,
    { inTransaction := s.inTransaction || r.begins
      statements := s.statements ++ result.2.toList.map (Sigma.mk q) })

/-- What the answer says of the rows: whether there is one, the first, and where they are asked for,
the others and whether the steps after them failed. -/
def Response.answer {q : NonspQuery} (r : Response q) (inTransaction : Bool) : Answer q.Row :=
  if !inTransaction && !r.begins then .failed
  else if !r.prepares then .failed
  else
    match r.rows with
    | [] => if r.ending = .done true then .noRow else .failed
    | first :: rest =>
      if q.kind = .all then .row first rest (r.ending ≠ .done true) else .row first [] false

/-- Finalized once, not used after that, and each row read once, as far as they are asked for. -/
structure Cursor.Complete (q : NonspQuery) (c : Cursor q.Row) : Prop where
  finalized : c.finalized = 1
  unharmed : c.misused = false
  fetched : c.fetched =
    match q.kind with
    | .change => []
    | .one | .ifAny => c.rows.take 1
    | .all => c.rows

/-! ## The loop over the rows -/

namespace Cursor

variable {R : Type} {rows : List R} {ending : Ending}

/-- A cursor on the `k`-th row, all rows up to which have been read. -/
def reading (rows : List R) (ending : Ending) (k : Nat) : Cursor R :=
  { prepare rows ending with stepped := k, fetched := rows.take k }

/-- A cursor whose steps have ended. -/
def ended (rows : List R) (ending : Ending) : Cursor R :=
  { prepare rows ending with
    stepped := rows.length + 1
    finalized := 1
    error := ending ≠ .done true
    queryRunning := false
    fetched := rows }

theorem sqlFetchrow_reading {k : Nat} (more : k < rows.length) :
    (reading rows ending k).sqlFetchrow =
      (true, { reading rows ending k with stepped := k + 1 }) := by
  simp [sqlFetchrow, sqlite3Step, reading, prepare, more]

theorem sqlFetchrow_last :
    (reading rows ending rows.length).sqlFetchrow = (false, ended rows ending) := by
  cases ending with
  | done finalizes =>
    simp [sqlFetchrow, sqlite3Step, sqlite3Finalize, reading, ended, prepare]
  | error => simp [sqlFetchrow, sqlite3Step, sqlite3Finalize, reading, ended, prepare]

theorem sqlGetvalue_reading (ending : Ending) {k : Nat} (more : k < rows.length) :
    { reading rows ending k with stepped := k + 1 }.sqlGetvalue =
      (some rows[k], reading rows ending (k + 1)) := by
  simp [sqlGetvalue, sqlite3Row, reading, prepare, more]

theorem fetchAll_reading {k fuel : Nat} (le : k ≤ rows.length) (enough : rows.length < k + fuel) :
    (reading rows ending k).fetchAll fuel = ended rows ending := by
  induction fuel generalizing k with
  | zero => omega
  | succ fuel ih =>
    unfold fetchAll
    obtain lt | rfl := Nat.lt_or_eq_of_le le
    · rw [sqlFetchrow_reading lt]
      simp only [if_true, sqlGetvalue_reading ending lt]
      exact ih lt (by omega)
    · rw [sqlFetchrow_last]
      rfl

/-! ## The first row -/

/-- A cursor that holds back its first row. -/
def holding (rows : List R) (ending : Ending) : Cursor R :=
  { prepare rows ending with stepped := 1, prefetched := true }

theorem sqlExecute_row (some' : rows ≠ []) :
    (prepare rows ending).sqlExecute = (true, holding rows ending) := by
  have pos := List.length_pos_iff.mpr some'
  simp [sqlExecute, sqlFetchrow, sqlite3Step, prepare, holding, pos]

/-- Without a row, the first step is the last. -/
theorem sqlExecute_nil : (prepare ([] : List R) ending).sqlExecute =
    (decide (ending = Ending.done true),
      { ended [] ending with prefetched := decide (ending = Ending.done true) }) := by
  cases ending with
  | done finalizes =>
    cases finalizes <;> simp [sqlExecute, sqlFetchrow, sqlite3Step, sqlite3Finalize, prepare, ended]
  | error => simp [sqlExecute, sqlFetchrow, sqlite3Step, sqlite3Finalize, prepare, ended]

/-- The row that was held back is the one that the first fetch is for. -/
theorem sqlFetchrow_holding :
    (holding rows ending).sqlFetchrow = (true, { reading rows ending 0 with stepped := 1 }) := rfl

/-- After `sql_execute_sqlite`, the loop reads each row once and in order. -/
theorem fetchAll_rows (ending : Ending) (some' : rows ≠ []) {fuel : Nat} (enough : rows.length < fuel) :
    (prepare rows ending).sqlExecute.2.fetchAll fuel = ended rows ending := by
  obtain ⟨fuel, rfl⟩ := Nat.exists_eq_succ_of_ne_zero (by omega : fuel ≠ 0)
  have pos := List.length_pos_iff.mpr some'
  rw [sqlExecute_row some']
  unfold fetchAll
  rw [sqlFetchrow_holding]
  simp only [if_true, sqlGetvalue_reading ending pos]
  exact fetchAll_reading pos (by omega)

end Cursor

/-! ## Every statement -/

theorem ended_complete {q : NonspQuery} {ending : Ending} {prefetched : Bool} :
    Cursor.Complete q { Cursor.ended [] ending with prefetched } := by
  refine ⟨rfl, rfl, ?_⟩
  change [] = _
  cases q.kind <;> rfl

/-- One row is read, and the cursor is closed. -/
theorem closed_complete {q : NonspQuery} (kind : q.kind = .one ∨ q.kind = .ifAny)
    {rows : List q.Row} {ending : Ending} :
    Cursor.Complete q (Cursor.reading rows ending 1).sqlCloseCursor := by
  refine ⟨rfl, rfl, ?_⟩
  change rows.take 1 = _
  obtain kind | kind := kind
  · rw [kind]
    rfl
  · rw [kind]
    rfl

/-- All rows are read, after which closing the cursor does nothing. -/
theorem ended_complete_all {q : NonspQuery} (kind : q.kind = .all) {rows : List q.Row}
    {ending : Ending} (closes : Bool) : Cursor.Complete q
      (if closes then (Cursor.ended rows ending).sqlCloseCursor else Cursor.ended rows ending) := by
  have same : (Cursor.ended rows ending).sqlCloseCursor = Cursor.ended rows ending := rfl
  rw [same, ite_self]
  refine ⟨rfl, rfl, ?_⟩
  rw [kind]
  rfl

theorem ask_statement {q : NonspQuery} {inTransaction : Bool} {r : Response q}
    {c : Cursor q.Row} (asked : (ask q inTransaction r).2 = some c) : c.Complete q ∧ c.rows = r.rows := by
  obtain ⟨begins, prepares, rows, ending, noRows⟩ := r
  unfold ask at asked
  split at asked
  · cases asked
  split at asked
  · cases asked
  by_cases empty : rows = []
  · subst empty
    simp only [Cursor.sqlExecute_nil] at asked
    split at asked
    · cases asked
      exact ⟨ended_complete, rfl⟩
    · cases kind : q.kind <;>
      · simp only [kind, Cursor.ended, Bool.false_eq_true, if_false] at asked
        cases asked
        exact ⟨ended_complete, rfl⟩
  · have read := Cursor.sqlGetvalue_reading ending (List.length_pos_iff.mpr empty)
    have all := Cursor.fetchAll_rows ending empty (show rows.length < rows.length + 2 by omega)
    rw [Cursor.sqlExecute_row empty] at all
    have running : (Cursor.holding rows ending).queryRunning = true := rfl
    simp only [Cursor.sqlExecute_row empty, Bool.not_true, Bool.false_eq_true, if_false, running,
      if_true, Cursor.sqlFetchrow_holding, read, all] at asked
    cases kind : q.kind with
    | change => exact absurd (noRows kind) empty
    | one =>
      simp only [kind] at asked
      cases asked
      exact ⟨closed_complete (.inl kind), rfl⟩
    | ifAny =>
      simp only [kind] at asked
      cases asked
      exact ⟨closed_complete (.inr kind), rfl⟩
    | all =>
      simp only [kind] at asked
      cases asked
      refine ⟨ended_complete_all kind _, ?_⟩
      split
      · rfl
      · rfl

theorem ask_answer {q : NonspQuery} {inTransaction : Bool} (r : Response q) :
    (ask q inTransaction r).1 = r.answer inTransaction := by
  obtain ⟨begins, prepares, rows, ending, noRows⟩ := r
  unfold ask Response.answer
  split
  · rfl
  split
  · rfl
  cases rows with
  | nil =>
    simp only [Cursor.sqlExecute_nil]
    by_cases good : ending = .done true
    · cases kind : q.kind <;> simp [good, Cursor.ended]
    · simp [good]
  | cons first rest =>
    have some' : first :: rest ≠ [] := List.cons_ne_nil first rest
    have read := Cursor.sqlGetvalue_reading ending (List.length_pos_iff.mpr some')
    have all := Cursor.fetchAll_rows ending some'
      (show (first :: rest).length < (first :: rest).length + 2 by omega)
    rw [Cursor.sqlExecute_row some'] at all
    have running : (Cursor.holding (first :: rest) ending).queryRunning = true := rfl
    simp only [Cursor.sqlExecute_row some', Bool.not_true, Bool.false_eq_true, if_false, running,
      if_true, Cursor.sqlFetchrow_holding, read, all]
    cases kind : q.kind with
    | change => exact absurd (noRows kind) some'
    | one => rfl
    | ifAny => rfl
    | all => rfl

/-! ## Every run -/

/-- The rows of a statement fit into the arrays that the function has for them. -/
def Roomy (x : (q : NonspQuery) × Cursor q.Row) : Prop :=
  match x.1 with
  | .orderStatus4 .. => x.2.rows.length ≤ 15
  | _ => True

/-- The function stays inside its arrays, each statement that it prepares is finalized once, and
its rows are read in order, each once. -/
def CursorProtocol (data : NonspData) (respond : Responses) (inTransaction : Bool) : Prop :=
  let result := exec respond.on data.nonsp { inTransaction, statements := [] }
  result.1 ≠ .error .overrun ∧ ∀ x ∈ result.2.statements, x.2.Complete x.1

theorem statements_complete (data : NonspData) (respond : Responses) (inTransaction : Bool) :
    ∀ x ∈ (exec respond.on data.nonsp { inTransaction, statements := [] }).2.statements,
      x.2.Complete x.1 := by
  have kept (q : NonspQuery) (s : CursorRun) (complete : ∀ x ∈ s.statements, x.2.Complete x.1) :
      ∀ x ∈ (respond.on q s).2.statements, x.2.Complete x.1 := by
    intro x mem
    obtain old | new := List.mem_append.mp mem
    · exact complete x old
    · obtain ⟨c, asked, rfl⟩ := List.mem_map.mp new
      exact (ask_statement (Option.mem_toList.mp asked)).1
  exact exec_invariant kept data.nonsp (List.forall_mem_nil _)

def Response.prepared {q : NonspQuery} (r : Response q) (inTransaction : Bool) : Bool :=
  (inTransaction || r.begins) && r.prepares

theorem ask_prepared {q : NonspQuery} {inTransaction : Bool} {r : Response q} :
    (ask q inTransaction r).2.isSome = r.prepared inTransaction := by
  unfold ask Response.prepared
  cases inTransaction <;> cases r.begins <;> cases r.prepares <;>
    simp only [Bool.not_true, Bool.not_false, Bool.and_true, Bool.and_false, Bool.or_true,
      Bool.or_false, Bool.false_eq_true, if_true, if_false, Option.isSome_none]
  all_goals
    split
    · rfl
    · cases q.kind with
      | change => rfl
      | one | ifAny | all =>
        dsimp only
        split
        · rfl
        · rfl

theorem overruns_answer {cWId cDId oId : Int} {inTransaction : Bool}
    {r : Response (.orderStatus4 cWId cDId oId)} :
    NonspExchange.overruns ⟨_, r.answer inTransaction⟩ =
      (r.prepared inTransaction && decide (15 < r.rows.length)) := by
  obtain ⟨begins, prepares, rows, ending, noRows⟩ := r
  unfold Response.answer Response.prepared
  cases rows with
  | nil =>
    split
    · simp [NonspExchange.overruns]
    split
    · simp [NonspExchange.overruns]
    · dsimp only
      split <;> simp [NonspExchange.overruns]
  | cons first rest =>
    cases inTransaction <;> cases begins <;> cases prepares <;> rfl

/-- An answer with too many rows is that of a statement with too many. -/
theorem ask_overruns {q : NonspQuery} {inTransaction : Bool} {r : Response q} :
    NonspExchange.overruns ⟨q, (ask q inTransaction r).1⟩ = true ↔
      ∃ c, (ask q inTransaction r).2 = some c ∧ ¬ Roomy ⟨q, c⟩ := by
  cases q with
  | orderStatus4 =>
    rw [ask_answer, overruns_answer, ← ask_prepared, Bool.and_eq_true, decide_eq_true_eq]
    constructor
    · rintro ⟨prepared, many⟩
      obtain ⟨c, asked⟩ := Option.isSome_iff_exists.mp prepared
      refine ⟨c, asked, fun room => ?_⟩
      have few : c.rows.length ≤ 15 := room
      rw [(ask_statement asked).2] at few
      omega
    · rintro ⟨c, asked, cramped⟩
      refine ⟨Option.isSome_of_mem asked, ?_⟩
      have many : ¬ c.rows.length ≤ 15 := cramped
      rw [(ask_statement asked).2] at many
      omega
  | _ =>
    constructor
    · nofun
    · rintro ⟨c, -, cramped⟩
      exact absurd trivial cramped

/-- The function writes outside its arrays where a statement has had too many rows. -/
theorem overrun_iff (data : NonspData) (respond : Responses) (inTransaction : Bool) :
    let result := exec respond.on data.nonsp { inTransaction, statements := [] }
    result.1 = .error .overrun ↔ ∃ x ∈ result.2.statements, ¬ Roomy x := by
  let Cramped (s : CursorRun) (phase : NonspPhase) : Prop :=
    phase = .overrun ↔ ∃ x ∈ s.statements, ¬ Roomy x
  obtain ⟨phase, cramped, ended⟩ : ∃ phase,
      Cramped (exec respond.on data.nonsp { inTransaction, statements := [] }).2 phase ∧
        NonspClient.Ended data phase
          (exec respond.on data.nonsp { inTransaction, statements := [] }).1 := by
    apply @follows_exec _ _ _ _ _ _ _ respond.on Cramped _ _ _ _ _ (NonspClient.nonsp_follows data)
      (by simp [Cramped])
    rintro q s _ before rfl
    refine ⟨_, rfl, NonspExchange.phase_overrun.trans (ask_overruns.trans ?_)⟩
    constructor
    · rintro ⟨c, asked, cramped⟩
      refine ⟨⟨q, c⟩, List.mem_append_right _ (List.mem_map.mpr ⟨c, ?_, rfl⟩), cramped⟩
      exact Option.mem_toList.mpr asked
    · rintro ⟨x, mem, cramped⟩
      obtain old | new := List.mem_append.mp mem
      · cases before.mpr ⟨x, old, cramped⟩
      · obtain ⟨c, asked, rfl⟩ := List.mem_map.mp new
        exact ⟨c, Option.mem_toList.mp asked, cramped⟩
  generalize exec respond.on data.nonsp { inTransaction, statements := [] } = result
    at cramped ended
  obtain ⟨r, s⟩ := result
  refine Iff.trans ?_ cramped
  cases r with
  | ok a =>
    obtain ⟨rfl, -⟩ := ended
    exact ⟨nofun, nofun⟩
  | error e =>
    cases e with
    | rc rc =>
      obtain rfl | ⟨rfl, -⟩ := ended
      · exact ⟨nofun, nofun⟩
      · exact ⟨nofun, nofun⟩
    | overrun => exact ⟨fun _ => ended.1, fun _ => rfl⟩

/-- A customer whose last order has so many lines. -/
def orderOf (lines : Nat) : Responses := fun _ q => {
  begins := true
  prepares := true
  rows := match q with
    | .orderStatus2 .. => [()]
    | .orderStatus3 .. => [3001]
    | .orderStatus4 .. => List.replicate lines ()
    | _ => []
  ending := .done true
  noRows := by cases q <;> simp [NonspQuery.kind] }

end Dbt2
