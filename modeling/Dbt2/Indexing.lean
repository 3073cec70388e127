import Dbt2.Lib.Fallible
import Dbt2.ProcessTransaction

/-!
# Indexing by a received record

A client takes a record from a socket as it is. Its queue, its worker, `process_transaction` and
the backends index arrays by its fields, or in loops that its fields bound. An access outside its
array ends an execution here, as nothing is known of the program after it.

* `Received`: what of a record the programs index by;
* `execute`: the accesses of a backend, with the answers of the database as input;
* `handle`: all that `client` or `client2` does with a record.
-/

namespace Dbt2.Indexing

def TRANSACTION_MAX : Nat := 5

/-! ## Arrays -/

inductive Indexed where
  /-- `transaction_counter[k]` and its mutexes. -/
  | transactionCounter
  | transactionName
  | orderLine
  /-- What a backend keeps of each line in local arrays. -/
  | lineCopy
  | sDist
  /-- `paramValues` and `paramLengths`. -/
  | paramValues
  deriving DecidableEq

def Indexed.length : Indexed → Nat
  | .transactionCounter | .transactionName => TRANSACTION_MAX
  | .orderLine | .lineCopy => 15
  | .sDist => 10
  | .paramValues => 50

structure Access where
  array : Indexed
  index : Int
  deriving DecidableEq

def touch (array : Indexed) (i : Int) : Except Access Unit :=
  if 0 ≤ i ∧ i < array.length then .ok () else .error ⟨array, i⟩

/-- One of the arrays of a place per line. -/
def readLine {α : Type} (array : Indexed) (lines : Fin 15 → α) (i : Int) : Except Access α :=
  if h : 0 ≤ i ∧ i < 15 then .ok (lines ⟨i.toNat, by omega⟩) else .error ⟨array, i⟩

/-- The rounds `i, …, i + n - 1` of a loop, up to the first that leaves it with a result. -/
def eachLine {R : Type} (body : Nat → Except Access (Option R)) :
    Nat → Nat → Except Access (Option R)
  | 0, _ => .ok none
  | n + 1, i =>
    body i >>= fun
      | some r => .ok (some r)
      | none => eachLine body n (i + 1)

/-- A loop over the lines that touches an array and is never left early. -/
def touchLines (array : Indexed) (n : Nat) : Except Access (Option Unit) :=
  eachLine (fun i => do touch array i; return none) n 0

/-! ## Records and answers -/

structure InputLine where
  olIId : Int
  olSupplyWId : Int
  deriving DecidableEq

structure Received where
  transaction : Int
  /-- The fields of a New-Order; what other transactions hold in their place is not read. -/
  wId : Int
  dId : Int
  oOlCnt : Int
  orderLine : Fin 15 → InputLine

/-- How a statement ends, with the code that a failure makes of it, or the number of its rows. -/
inductive Answer where
  | failed (rc : Int)
  | rows (n : Nat)
  deriving DecidableEq

def Answer.succeeded : Answer → Bool
  | .failed _ => false
  | .rows _ => true

def Answer.found : Answer → Bool
  | .failed _ => false
  | .rows n => 0 < n

/-- What the outside contributes to one attempt of a transaction. -/
structure Attempt where
  /-- The answers to the statements that decide on an access, in their order. -/
  answers : Nat → Answer
  /-- The lines that a New-Order of `libpq` returns. -/
  returned : Fin 15 → InputLine
  /-- The rows of an order's lines, and the result sets of a procedure. -/
  orderLines : Nat
  /-- The result of an execution that no access depends on. -/
  rc : Int
  rollback : Int
  commit : Int
  rolledBack : Int
  /-- After a reconnect that is needed, the deadline has passed. -/
  expired : Bool

/-! ## New-Order -/

namespace Nonsp

/-- The statements before the lines. -/
def refused (answers : Nat → Answer) : Option Int :=
  if !(answers 0).found then some 10 else if !(answers 1).found then some 11
  else if !(answers 2).succeeded then some 12 else if !(answers 3).found then some 13
  else if !(answers 4).succeeded then some 14 else if !(answers 5).succeeded then some 15
  else none

def newOrderLine (r : Received) (answers : Nat → Answer) (i : Nat) :
    Except Access (Option Int) := do
  let line ← readLine .lineCopy r.orderLine i
  if line.olIId = 0 then return some 2
  else if !(answers (6 + 4 * i)).found then return some (-1)
  else do
    touch .lineCopy i
    touch .sDist (r.dId - 1)
    if !(answers (7 + 4 * i)).found then return some 16
    else do
      touch .lineCopy i
      if !(answers (8 + 4 * i)).succeeded then return some 17
      else if !(answers (9 + 4 * i)).succeeded then return some 18
      else return none

def newOrderNonsp (r : Received) (answers : Nat → Answer) : Except Access Int := do
  let _ ← touchLines .orderLine 15
  let _ ← touchLines .lineCopy 15
  match refused answers with
  | some rc => return rc
  | none => do
    match ← eachLine (newOrderLine r answers) r.oOlCnt.toNat 0 with
    | some rc => return rc
    | none => do
      let _ ← touchLines .lineCopy r.oOlCnt.toNat
      let _ ← touchLines .orderLine r.oOlCnt.toNat
      return 0

end Nonsp

namespace Cockroach

def refused (answers : Nat → Answer) : Bool :=
  !(answers 0).succeeded || !(answers 1).found || !(answers 2).found || !(answers 3).found ||
    !(answers 4).succeeded || !(answers 5).succeeded

def newOrderLine (r : Received) (answers : Nat → Answer) (i : Nat) :
    Except Access (Option Int) := do
  touch .orderLine i
  if !(answers (6 + 4 * i)).found then return some ERROR
  else do
    touch .sDist (r.dId - 1)
    if !(answers (7 + 4 * i)).found || !(answers (8 + 4 * i)).succeeded ||
        !(answers (9 + 4 * i)).succeeded then
      return some ERROR
    else return none

def executeNewOrderCockroach (r : Received) (answers : Nat → Answer) : Except Access Int :=
  if refused answers then return ERROR
  else do return (← eachLine (newOrderLine r answers) r.oOlCnt.toNat 0).getD OK

end Cockroach

namespace Libpq

/-- The three parameters of a line. -/
def touchParameters (i : Int) : Except Access (Option Unit) := do
  touch .paramValues (3 * i + 5)
  touch .paramValues (3 * i + 6)
  touch .paramValues (3 * i + 7)
  return none

/-- Lines of the record go into the parameters, and those up to the fifteenth are cleared, from
`o_ol_cnt` on even if it is negative. -/
def executeNewOrderLibpq (r : Received) (a : Attempt) : Except Access (Int × Int × Received) :=
  match a.answers 0 with
  | .failed rc => return (rc, a.rollback, r)
  | .rows _ => do
    let _ ← eachLine (fun i => do touch .orderLine i; touch .lineCopy i; touchParameters i)
      r.oOlCnt.toNat 0
    let _ ← eachLine (fun k => touchParameters (r.oOlCnt + k)) (15 - r.oOlCnt).toNat 0
    match a.answers 1 with
    | .failed rc => return (rc, a.rollback, r)
    | .rows n => do
      let _ ← touchLines .orderLine (min n 15)
      return (OK, 0, { r with
        orderLine := fun i => if i.val < n then a.returned i else r.orderLine i })

end Libpq

/-- The `DBMS` of a context. -/
inductive Dbms where
  | cockroach
  | libpq
  | mysql
  | odbc
  | sqlite
  | oracle
  deriving DecidableEq

/-- The result, the rollback flag and the record that is left. `mysql` passes all lines to its
procedure and takes one line from each result set while there is room; `odbc` and `oracle` bind
all lines. -/
def Dbms.executeNewOrder (r : Received) (a : Attempt) :
    Dbms → Except Access (Int × Int × Received)
  | .sqlite => do
    let rc ← Nonsp.newOrderNonsp r a.answers
    return (if rc = 0 then OK else ERROR, if rc = 2 then 1 else 0, r)
  | .cockroach => do return (← Cockroach.executeNewOrderCockroach r a.answers, 0, r)
  | .libpq => Libpq.executeNewOrderLibpq r a
  | .mysql => do
    let _ ← touchLines .orderLine 15
    let _ ← touchLines .orderLine (min a.orderLines 15)
    return (a.rc, a.rollback, r)
  | .odbc => do
    let _ ← touchLines .orderLine 15
    return (a.rc, a.rollback, r)
  | .oracle => do
    let _ ← touchLines .orderLine 15
    let _ ← touchLines .lineCopy 15
    let _ ← touchLines .orderLine 15
    return (a.rc, a.rollback, r)

/-! ## Order-Status -/

/-- `sqlite` takes every row there is; the others stop at fifteen. -/
def Dbms.executeOrderStatus (a : Attempt) : Dbms → Except Access Int
  | .sqlite => do
    let _ ← touchLines .lineCopy a.orderLines
    let _ ← touchLines .orderLine a.orderLines
    return a.rc
  | .cockroach | .libpq | .mysql => do
    let _ ← touchLines .orderLine (min a.orderLines 15)
    return a.rc
  | .odbc | .oracle => do
    let _ ← touchLines .orderLine 15
    return a.rc

/-! ## Executing a record -/

/-- `o_all_local` is cleared at the first line that another warehouse supplies. -/
def allLocal (r : Received) : Except Access (Option Unit) :=
  eachLine (fun i => do
    let line ← readLine .orderLine r.orderLine i
    return if line.olSupplyWId ≠ r.wId then some () else none) r.oOlCnt.toNat 0

def Dbms.execute (b : Dbms) (r : Received) (a : Attempt) : Except Access (Int × Int × Received) :=
  if r.transaction = NEW_ORDER then do
    let _ ← allLocal r
    b.executeNewOrder r a
  else if r.transaction = ORDER_STATUS then do return (← b.executeOrderStatus a, 0, r)
  else return (a.rc, 0, r)

/-- The attempts that are left of `process_transaction`. A reconnect succeeds before the deadline
or not at all. -/
def processTransaction (b : Dbms) (env : Nat → Attempt) :
    Nat → Received → Int → Except Access Int
  | 0, _, status => return status
  | left + 1, r, status =>
    if !knownTransaction r.transaction then return ERROR
    else do
      let a := env left
      let (rc, rollback, r') ← b.execute r a
      let rc := resultCode r.transaction rc rollback
      let reconnect status := if a.expired then return ERROR
        else processTransaction b env left r' status
      if rc = OK then if a.commit = OK then return OK else reconnect a.commit
      else if rc = ERROR then
        if a.rolledBack = STATUS_ROLLBACK then return STATUS_ROLLBACK else reconnect a.rolledBack
      else reconnect status

inductive ClientProgram where
  | client
  | client2
  deriving DecidableEq

/-- `db_worker` and the callback of `client2` name the transaction in a message when it fails. -/
def executed (b : Dbms) (r : Received) (env : Nat → Attempt) : Except Access Int := do
  let status ← processTransaction b env 2 r 0
  if status = ERROR then touch .transactionName r.transaction
  return status

/-- `client` counts a record when it queues it, when it takes it from the queue, twice, and when
it has sent the response. -/
def handle (b : Dbms) (r : Received) (env : Nat → Attempt) : ClientProgram → Except Access Int
  | .client => do
    touch .transactionCounter r.transaction
    touch .transactionCounter r.transaction
    touch .transactionCounter r.transaction
    let status ← executed b r env
    touch .transactionCounter r.transaction
    return status
  | .client2 => executed b r env

/-! ## Inside the arrays -/

def Within {α : Type} (x : Except Access α) : Prop := ∃ a, x = .ok a

section

variable {α β R : Type}

theorem within_pure (a : α) : Within (pure a : Except Access α) := ⟨a, rfl⟩

theorem Within.bind {x : Except Access α} {f : α → Except Access β} (h : Within x)
    (rest : ∀ a, x = .ok a → Within (f a)) : Within (x >>= f) := by
  obtain ⟨a, rfl⟩ := h
  exact rest a rfl

/-- Where a part goes outside, the whole does. -/
theorem Within.first {x : Except Access α} {f : α → Except Access β} (h : Within (x >>= f)) :
    Within x := by
  cases x with
  | ok a => exact ⟨a, rfl⟩
  | error e => obtain ⟨b, bad⟩ := h; cases bad

theorem Within.rest {x : Except Access α} {f : α → Except Access β} {a : α}
    (h : Within (x >>= f)) (first : x = .ok a) : Within (f a) := by
  subst first
  exact h

theorem within_touch {array : Indexed} {i : Int} :
    Within (touch array i) ↔ 0 ≤ i ∧ i < array.length := by
  unfold touch
  constructor
  · rintro ⟨a, ok⟩
    by_contra outside
    rw [if_neg outside] at ok
    cases ok
  · intro inside
    exact ⟨(), if_pos inside⟩

theorem within_readLine {array : Indexed} {lines : Fin 15 → α} {i : Int} :
    Within (readLine array lines i) ↔ 0 ≤ i ∧ i < 15 := by
  unfold readLine
  constructor
  · rintro ⟨a, ok⟩
    by_contra outside
    rw [dif_neg outside] at ok
    cases ok
  · intro inside
    exact ⟨_, dif_pos inside⟩

theorem readLine_of_lt {array : Indexed} {lines : Fin 15 → α} {i : Nat} (lt : i < 15) :
    readLine array lines i = .ok (lines ⟨i, lt⟩) := by
  unfold readLine
  rw [dif_pos ⟨Int.natCast_nonneg i, by exact_mod_cast lt⟩]
  rfl

/-- Each round may rely on the ones before it having gone on. -/
theorem within_eachLine {body : Nat → Except Access (Option R)} {n i : Nat}
    (round : ∀ j < n, (∀ k < j, body (i + k) = .ok none) → Within (body (i + j))) :
    Within (eachLine body n i) := by
  induction n generalizing i with
  | zero => exact within_pure none
  | succ n ih =>
    have first := round 0 (Nat.succ_pos n) fun k lt => absurd lt (Nat.not_lt_zero k)
    rw [Nat.add_zero] at first
    apply first.bind
    rintro (_ | r) went
    · apply ih
      intro j lt before
      have later := round (j + 1) (Nat.succ_lt_succ lt) fun k lt => by
        cases k with
        | zero => exact went
        | succ k =>
          rw [← Nat.succ_add_eq_add_succ]
          exact before k (Nat.lt_of_succ_lt_succ lt)
      rw [← Nat.succ_add_eq_add_succ] at later
      exact later
    · exact within_pure (some r)

theorem Within.round {body : Nat → Except Access (Option R)} {n i k : Nat}
    (h : Within (eachLine body n i)) (lt : k < n) (before : ∀ j < k, body (i + j) = .ok none) :
    Within (body (i + k)) := by
  induction n generalizing i k with
  | zero => exact absurd lt (Nat.not_lt_zero k)
  | succ n ih =>
    cases k with
    | zero => exact h.first
    | succ k =>
      have went : body i = .ok none := before 0 (Nat.succ_pos k)
      rw [← Nat.succ_add_eq_add_succ]
      apply ih (h.rest went) (Nat.lt_of_succ_lt_succ lt)
      intro j lt
      have later := before (j + 1) (Nat.succ_lt_succ lt)
      rwa [← Nat.succ_add_eq_add_succ] at later

theorem eachLine_none {body : Nat → Except Access (Option R)} {n i : Nat}
    (through : eachLine body n i = .ok none) : ∀ k < n, body (i + k) = .ok none := by
  induction n generalizing i with
  | zero => exact fun k lt => absurd lt (Nat.not_lt_zero k)
  | succ n ih =>
    rw [eachLine] at through
    cases here : body i with
    | error e =>
      rw [here] at through
      cases through
    | ok result =>
      rw [here] at through
      cases result with
      | some r => cases through
      | none =>
        intro k lt
        cases k with
        | zero => exact here
        | succ k =>
          rw [← Nat.succ_add_eq_add_succ]
          exact ih through k (Nat.lt_of_succ_lt_succ lt)

theorem within_touchLines {array : Indexed} {n : Nat} :
    Within (touchLines array n) ↔ n ≤ array.length := by
  have round (i : Nat) : Within (do touch array i; return (none : Option Unit)) ↔
      i < array.length := by
    constructor
    · intro h
      exact_mod_cast (within_touch.mp h.first).2
    · intro lt
      exact (within_touch.mpr ⟨Int.natCast_nonneg i, by exact_mod_cast lt⟩).bind
        fun _ _ => within_pure none
  have goes {i : Nat} (lt : i < array.length) :
      (do touch array i; return (none : Option Unit)) = .ok none := by
    have inside : 0 ≤ (i : Int) ∧ (i : Int) < array.length := ⟨by omega, by exact_mod_cast lt⟩
    simp only [touch, if_pos inside]
    rfl
  constructor
  · intro h
    by_contra more
    have outside := h.round (k := array.length) (not_le.mp more) fun j lt => goes (by omega)
    rw [round, Nat.zero_add] at outside
    exact absurd outside (lt_irrefl _)
  · intro le
    apply within_eachLine
    intro j lt _
    rw [round, Nat.zero_add]
    exact lt.trans_le le

end

/-! ## Which records stay inside -/

def DistrictFits (r : Received) : Prop := 1 ≤ r.dId ∧ r.dId ≤ 10

/-- Of too many lines, one is supplied from elsewhere. -/
def DispatchFits (r : Received) : Prop :=
  r.oOlCnt ≤ 15 ∨ ∃ i, (r.orderLine i).olSupplyWId ≠ r.wId

/-- `sqlite` stops at an item 0, before it looks for the district. -/
def LinesFit (r : Received) : Dbms → Prop
  | .sqlite => (0 < r.oOlCnt → (r.orderLine 0).olIId ≠ 0 → DistrictFits r) ∧
      (r.oOlCnt ≤ 15 ∨ ∃ i, (r.orderLine i).olIId = 0)
  | .cockroach => (0 < r.oOlCnt → DistrictFits r) ∧ r.oOlCnt ≤ 15
  | .libpq => -1 ≤ r.oOlCnt ∧ r.oOlCnt ≤ 15
  | .mysql | .odbc | .oracle => True

/-- With at most `orderLines` lines to an order in the database. -/
def InBounds (b : Dbms) (r : Received) (orderLines : Nat) : Prop :=
  (0 ≤ r.transaction ∧ r.transaction < TRANSACTION_MAX) ∧
    (r.transaction = NEW_ORDER → DispatchFits r ∧ LinesFit r b) ∧
    (r.transaction = ORDER_STATUS → b = .sqlite → orderLines ≤ 15)

theorem within_district {r : Received} : Within (touch .sDist (r.dId - 1)) ↔ DistrictFits r := by
  rw [within_touch, DistrictFits]
  change 0 ≤ r.dId - 1 ∧ r.dId - 1 < (10 : Nat) ↔ _
  omega

theorem within_allLocal {r : Received} : Within (allLocal r) ↔ DispatchFits r := by
  have here {i : Nat} (lt : i < 15) : (do
      let line ← readLine .orderLine r.orderLine i
      return if line.olSupplyWId ≠ r.wId then some () else none) =
      .ok (if (r.orderLine ⟨i, lt⟩).olSupplyWId ≠ r.wId then some () else none) := by
    rw [readLine_of_lt lt]
    rfl
  constructor
  · intro h
    by_contra misfit
    rw [DispatchFits, not_or, not_le, not_exists] at misfit
    obtain ⟨more, local'⟩ := misfit
    have outside := h.round (k := 15) (by omega) fun j lt => by
      rw [Nat.zero_add, here lt, if_neg (local' _)]
    exact absurd (within_readLine.mp outside.first).2 (by decide)
  · intro fits
    apply within_eachLine
    intro j lt before
    simp only [Nat.zero_add] at before ⊢
    by_cases inside : j < 15
    · exact ⟨_, here inside⟩
    · obtain few | ⟨i, remote⟩ := fits
      · omega
      · have went := before i (by omega)
        rw [here i.isLt, if_pos remote] at went
        cases went

/-- A database that finds whatever it is asked for. -/
def plenty (_k : Nat) : Answer := .rows 1

theorem Cockroach.within {r : Received} (answers : Nat → Answer) (fits : LinesFit r .cockroach) :
    Within (executeNewOrderCockroach r answers) := by
  unfold executeNewOrderCockroach
  split
  · exact within_pure _
  · refine Within.bind (within_eachLine fun j lt _ => ?_) fun _ _ => within_pure _
    rw [Nat.zero_add]
    have some_line : 0 < r.oOlCnt := by omega
    have few := fits.2
    have inside : (j : Int) < Indexed.orderLine.length := by
      change (j : Int) < (15 : Nat)
      omega
    apply Within.bind (within_touch.mpr ⟨Int.natCast_nonneg j, inside⟩)
    intro _ _
    split
    · exact within_pure _
    · apply Within.bind (within_district.mpr (fits.1 some_line))
      intro _ _
      split
      · exact within_pure _
      · exact within_pure _

theorem Cockroach.fits {r : Received} (h : Within (executeNewOrderCockroach r plenty)) :
    LinesFit r .cockroach := by
  have lines : Within (eachLine (newOrderLine r plenty) r.oOlCnt.toNat 0) := Within.first h
  have district (some_line : 0 < r.oOlCnt) : DistrictFits r := by
    have line := lines.round (k := 0) (by omega) fun j lt => absurd lt (Nat.not_lt_zero j)
    have touched : touch .orderLine ((0 + 0 : Nat) : Int) = .ok () := rfl
    exact within_district.mp (line.rest touched).first
  refine ⟨district, ?_⟩
  by_contra more
  have outside := lines.round (k := 15) (by omega) fun j lt => by
    obtain ⟨_, touched⟩ : Within (touch .orderLine ((0 + j : Nat) : Int)) :=
      within_touch.mpr ⟨Int.natCast_nonneg _, by change ((0 + j : Nat) : Int) < (15 : Nat); omega⟩
    obtain ⟨_, named⟩ := within_district.mpr (district (by omega))
    simp only [newOrderLine, touched, named]
    rfl
  exact absurd (within_touch.mp outside.first).2 (by decide)

/-- A line that goes on has an item. -/
theorem Nonsp.newOrderLine_item {r : Received} {answers : Nat → Answer} {i : Nat} (lt : i < 15)
    (went : newOrderLine r answers i = .ok none) : (r.orderLine ⟨i, lt⟩).olIId ≠ 0 := by
  intro zero
  rw [newOrderLine, readLine_of_lt lt] at went
  simp only [bind, Except.bind, zero] at went
  cases went

theorem Nonsp.within {r : Received} (answers : Nat → Answer) (fits : LinesFit r .sqlite) :
    Within (newOrderNonsp r answers) := by
  obtain ⟨district, few⟩ := fits
  -- Of more lines than fifteen, one without an item ends the loop.
  have whole (before : ∀ k < 15, newOrderLine r answers k = .ok none) : r.oOlCnt ≤ 15 := by
    obtain fewer | ⟨i, zero⟩ := few
    · exact fewer
    · exact absurd zero (newOrderLine_item i.isLt (before i i.isLt))
  unfold newOrderNonsp
  refine Within.bind (within_touchLines.mpr le_rfl) fun _ _ => ?_
  refine Within.bind (within_touchLines.mpr le_rfl) fun _ _ => ?_
  split
  · exact within_pure _
  · have lines : Within (eachLine (newOrderLine r answers) r.oOlCnt.toNat 0) := by
      apply within_eachLine
      intro j lt before
      simp only [Nat.zero_add] at before ⊢
      have inside : j < 15 := by
        by_contra past
        have bound := whole fun k lt => before k (by omega)
        omega
      unfold newOrderLine
      rw [readLine_of_lt inside]
      change Within (if (r.orderLine ⟨j, inside⟩).olIId = 0 then _ else _)
      split
      · exact within_pure _
      · next item =>
        split
        · exact within_pure _
        · have copy : Within (touch .lineCopy (j : Int)) :=
            within_touch.mpr ⟨Int.natCast_nonneg j, by change (j : Int) < (15 : Nat); omega⟩
          have first : (r.orderLine 0).olIId ≠ 0 := by
            cases j with
            | zero => exact item
            | succ j => exact newOrderLine_item (by omega) (before 0 (by omega))
          refine copy.bind fun _ _ => ?_
          refine (within_district.mpr (district (by omega) first)).bind fun _ _ => ?_
          split
          · exact within_pure _
          · refine copy.bind fun _ _ => ?_
            split
            · exact within_pure _
            · split
              · exact within_pure _
              · exact within_pure _
    refine lines.bind fun result went => ?_
    cases result with
    | some rc => exact within_pure rc
    | none =>
      have bound : r.oOlCnt.toNat ≤ 15 := by
        by_contra more
        have fewer := whole fun k lt => Nat.zero_add k ▸ eachLine_none went k (by omega)
        omega
      refine Within.bind (within_touchLines.mpr bound) fun _ _ => ?_
      exact Within.bind (within_touchLines.mpr bound) fun _ _ => within_pure 0

theorem Nonsp.newOrderLine_plenty {r : Received} {i : Nat} (lt : i < 15)
    (item : (r.orderLine ⟨i, lt⟩).olIId ≠ 0) :
    newOrderLine r plenty i = (do touch .sDist (r.dId - 1); return none) := by
  obtain ⟨_, copied⟩ : Within (touch .lineCopy (i : Int)) :=
    within_touch.mpr ⟨Int.natCast_nonneg i, by change (i : Int) < (15 : Nat); omega⟩
  rw [newOrderLine, readLine_of_lt lt, copied]
  simp only [bind, Except.bind, if_neg item, plenty]
  rfl

theorem Nonsp.fits {r : Received} (h : Within (newOrderNonsp r plenty)) :
    LinesFit r .sqlite := by
  have lines : Within (eachLine (newOrderLine r plenty) r.oOlCnt.toNat 0) := by
    obtain ⟨_, first⟩ := (@within_touchLines .orderLine 15).mpr le_rfl
    obtain ⟨_, second⟩ := (@within_touchLines .lineCopy 15).mpr le_rfl
    exact ((h.rest first).rest second).first
  have district (some_line : 0 < r.oOlCnt) (item : (r.orderLine 0).olIId ≠ 0) :
      DistrictFits r := by
    have line := lines.round (k := 0) (by omega) fun j lt => absurd lt (Nat.not_lt_zero j)
    rw [newOrderLine_plenty (by decide) item] at line
    exact within_district.mp line.first
  refine ⟨district, ?_⟩
  by_contra more
  rw [not_or, not_le, not_exists] at more
  obtain ⟨more, items⟩ := more
  have outside := lines.round (k := 15) (by omega) fun j lt => by
    obtain ⟨_, named⟩ := within_district.mpr (district (by omega) (items 0))
    rw [Nat.zero_add, newOrderLine_plenty lt (items _), named]
    rfl
  exact absurd (within_readLine.mp outside.first).2 (by decide)

theorem Libpq.touchParameters_ok {i : Int} (lo : -1 ≤ i) (hi : i ≤ 14) :
    touchParameters i = .ok none := by
  have inside {j : Int} (nonneg : 0 ≤ j) (lt : j < 50) : touch .paramValues j = .ok () :=
    if_pos ⟨nonneg, lt⟩
  rw [touchParameters, inside (by omega) (by omega), inside (by omega) (by omega),
    inside (by omega) (by omega)]
  rfl

theorem Libpq.within_touchParameters {i : Int} :
    Within (touchParameters i) ↔ -1 ≤ i ∧ i ≤ 14 := by
  unfold touchParameters
  constructor
  · intro h
    obtain ⟨_, first⟩ := h.first
    have lo := (within_touch.mp h.first).1
    obtain ⟨_, second⟩ := (h.rest first).first
    have hi := (within_touch.mp ((h.rest first).rest second).first).2
    change _ < ((50 : Nat) : Int) at hi
    omega
  · rintro ⟨lo, hi⟩
    exact ⟨none, touchParameters_ok lo hi⟩

theorem Libpq.within {r : Received} (a : Attempt) (fits : LinesFit r .libpq) :
    Within (executeNewOrderLibpq r a) := by
  obtain ⟨lo, hi⟩ := fits
  unfold executeNewOrderLibpq
  split
  · exact within_pure _
  · refine Within.bind (within_eachLine fun j lt _ => ?_) fun _ _ => ?_
    · have inside (array : Indexed) (long : array.length = 15) :
          Within (touch array ((0 + j : Nat) : Int)) :=
        within_touch.mpr ⟨Int.natCast_nonneg _, by rw [long]; omega⟩
      refine (inside .orderLine rfl).bind fun _ _ => ?_
      refine (inside .lineCopy rfl).bind fun _ _ => ?_
      exact within_touchParameters.mpr ⟨by omega, by omega⟩
    · refine Within.bind (within_eachLine fun j lt _ => ?_) fun _ _ => ?_
      · exact within_touchParameters.mpr ⟨by omega, by omega⟩
      · split
        · exact within_pure _
        · next n _ =>
          exact Within.bind (within_touchLines.mpr (Nat.min_le_right n 15)) fun _ _ =>
            within_pure _

theorem Libpq.fits {r : Received} {a : Attempt} (found : a.answers = plenty)
    (h : Within (executeNewOrderLibpq r a)) : LinesFit r .libpq := by
  simp only [executeNewOrderLibpq, found, plenty] at h
  have most : r.oOlCnt ≤ 15 := by
    by_contra more
    have outside := h.first.round (k := 15) (by omega) fun j lt => by
      have inside (array : Indexed) (long : array.length = 15) :
          touch array ((0 + j : Nat) : Int) = .ok () :=
        if_pos ⟨Int.natCast_nonneg _, by rw [long]; omega⟩
      rw [inside .orderLine rfl, inside .lineCopy rfl]
      exact touchParameters_ok (by omega) (by omega)
    exact absurd (within_touch.mp outside.first).2 (by decide)
  refine ⟨?_, most⟩
  by_contra less
  obtain ⟨_, first⟩ := h.first
  have cleared := (h.rest first).first.round (k := 0) (by omega) fun j lt =>
    absurd lt (Nat.not_lt_zero j)
  have lo := (within_touchParameters.mp cleared).1
  push_cast at lo
  omega

/-! ## Transactions and programs -/

theorem within_executeNewOrder {b : Dbms} {r : Received} (a : Attempt) (fits : LinesFit r b) :
    Within (b.executeNewOrder r a) := by
  have all (n : Nat) (le : n ≤ 15) : Within (touchLines .orderLine n) := within_touchLines.mpr le
  cases b with
  | sqlite => exact (Nonsp.within a.answers fits).bind fun _ _ => within_pure _
  | cockroach => exact (Cockroach.within a.answers fits).bind fun _ _ => within_pure _
  | libpq => exact Libpq.within a fits
  | mysql =>
    refine (all 15 le_rfl).bind fun _ _ => ?_
    exact (all _ (Nat.min_le_right _ 15)).bind fun _ _ => within_pure _
  | odbc => exact (all 15 le_rfl).bind fun _ _ => within_pure _
  | oracle =>
    refine (all 15 le_rfl).bind fun _ _ => ?_
    refine Within.bind (within_touchLines.mpr le_rfl) fun _ _ => ?_
    exact (all 15 le_rfl).bind fun _ _ => within_pure _

theorem linesFit_of_within {b : Dbms} {r : Received} {a : Attempt} (found : a.answers = plenty)
    (h : Within (b.executeNewOrder r a)) : LinesFit r b := by
  cases b with
  | sqlite => exact Nonsp.fits (found ▸ Within.first h)
  | cockroach => exact Cockroach.fits (found ▸ Within.first h)
  | libpq => exact Libpq.fits found h
  | mysql | odbc | oracle => trivial

theorem within_executeOrderStatus {b : Dbms} {a : Attempt} :
    Within (b.executeOrderStatus a) ↔ (b = .sqlite → a.orderLines ≤ 15) := by
  have all (n : Nat) (le : n ≤ 15) (rc : Int) : Within (do
      let _ ← touchLines .orderLine n
      return rc) :=
    Within.bind (within_touchLines.mpr le) fun _ _ => within_pure rc
  cases b with
  | sqlite =>
    constructor
    · exact fun h _ => within_touchLines.mp h.first
    · intro few
      exact Within.bind (within_touchLines.mpr (few rfl)) fun _ _ => all _ (few rfl) _
  | cockroach | libpq | mysql =>
    exact iff_of_true (all _ (Nat.min_le_right _ 15) _) nofun
  | odbc | oracle => exact iff_of_true (all 15 le_rfl _) nofun

theorem executeNewOrder_keeps {b : Dbms} {r r' : Received} {a : Attempt} {rc rollback : Int}
    (went : b.executeNewOrder r a = .ok (rc, rollback, r')) :
    r' = r ∨ b = .libpq ∧ ∃ lines, r' = { r with orderLine := lines } := by
  cases b with
  | sqlite | cockroach | odbc =>
    obtain ⟨_, -, last⟩ := Fallible.bind_eq_ok.mp went
    cases last
    exact .inl rfl
  | libpq =>
    refine .inr ⟨rfl, ?_⟩
    simp only [Dbms.executeNewOrder, Libpq.executeNewOrderLibpq] at went
    split at went
    · cases went
      exact ⟨r.orderLine, rfl⟩
    · obtain ⟨_, -, went⟩ := Fallible.bind_eq_ok.mp went
      obtain ⟨_, -, went⟩ := Fallible.bind_eq_ok.mp went
      split at went
      · cases went
        exact ⟨r.orderLine, rfl⟩
      · obtain ⟨_, -, last⟩ := Fallible.bind_eq_ok.mp went
        cases last
        exact ⟨_, rfl⟩
  | mysql =>
    obtain ⟨_, -, went⟩ := Fallible.bind_eq_ok.mp went
    obtain ⟨_, -, last⟩ := Fallible.bind_eq_ok.mp went
    cases last
    exact .inl rfl
  | oracle =>
    obtain ⟨_, -, went⟩ := Fallible.bind_eq_ok.mp went
    obtain ⟨_, -, went⟩ := Fallible.bind_eq_ok.mp went
    obtain ⟨_, -, last⟩ := Fallible.bind_eq_ok.mp went
    cases last
    exact .inl rfl

/-- The lines a New-Order of `libpq` returns do not matter to the next attempt. -/
theorem InBounds.execute {b : Dbms} {r r' : Received} {a : Attempt} {rc rollback : Int} {N : Nat}
    (h : InBounds b r N) (went : b.execute r a = .ok (rc, rollback, r')) : InBounds b r' N := by
  unfold Dbms.execute at went
  split at went
  · next newOrder =>
    obtain ⟨_, -, went⟩ := Fallible.bind_eq_ok.mp went
    obtain rfl | ⟨rfl, lines, rfl⟩ := executeNewOrder_keeps went
    · exact h
    · have fits := (h.2.1 newOrder).2
      exact ⟨h.1, fun _ => ⟨.inl fits.2, fits⟩, h.2.2⟩
  · split at went
    · obtain ⟨_, -, last⟩ := Fallible.bind_eq_ok.mp went
      cases last
      exact h
    · cases went
      exact h

theorem InBounds.within_execute {b : Dbms} {r : Received} {a : Attempt} {N : Nat}
    (h : InBounds b r N) (lines : a.orderLines ≤ N) : Within (b.execute r a) := by
  unfold Dbms.execute
  split
  · next newOrder =>
    obtain ⟨dispatch, fits⟩ := h.2.1 newOrder
    exact (within_allLocal.mpr dispatch).bind fun _ _ => within_executeNewOrder a fits
  · split
    · next orderStatus =>
      refine Within.bind (within_executeOrderStatus.mpr fun sqlite => ?_) fun _ _ => within_pure _
      exact lines.trans (h.2.2 orderStatus sqlite)
    · exact within_pure _

theorem InBounds.within_processTransaction {b : Dbms} {env : Nat → Attempt} {N : Nat}
    (lines : ∀ n, (env n).orderLines ≤ N) {left : Nat} {r : Received} {status : Int}
    (h : InBounds b r N) : Within (processTransaction b env left r status) := by
  induction left generalizing r status with
  | zero => exact within_pure status
  | succ left ih =>
    unfold processTransaction
    split
    · exact within_pure _
    · refine (h.within_execute (lines left)).bind fun ⟨rc, rollback, r'⟩ went => ?_
      have reconnect (status : Int) : Within (if (env left).expired then return ERROR
          else processTransaction b env left r' status) := by
        split
        · exact within_pure _
        · exact ih (h.execute went)
      dsimp only
      split
      · split
        · exact within_pure _
        · exact reconnect _
      · split
        · split
          · exact within_pure _
          · exact reconnect _
        · exact reconnect _

theorem InBounds.within_handle {b : Dbms} {r : Received} {env : Nat → Attempt} {N : Nat}
    (h : InBounds b r N) (lines : ∀ n, (env n).orderLines ≤ N) (p : ClientProgram) :
    Within (handle b r env p) := by
  have named (array : Indexed) (long : array.length = TRANSACTION_MAX) :
      Within (touch array r.transaction) :=
    within_touch.mpr (long ▸ h.1)
  have runs : Within (executed b r env) := by
    refine (h.within_processTransaction lines).bind fun status _ => ?_
    split
    · exact (named .transactionName rfl).bind fun _ _ => within_pure _
    · exact within_pure _
  cases p with
  | client =>
    have counted := named .transactionCounter rfl
    refine counted.bind fun _ _ => counted.bind fun _ _ => counted.bind fun _ _ => ?_
    exact runs.bind fun _ _ => counted.bind fun _ _ => within_pure _
  | client2 => exact runs

/-- Every statement finds what it is for, but what needs no statement fails, and so does the
rollback, after which it is too late to reconnect. -/
def harsh (orderLines : Nat) (_left : Nat) : Attempt where
  answers := plenty
  returned _ := ⟨0, 0⟩
  orderLines
  rc := ERROR
  rollback := 0
  commit := OK
  rolledBack := RECONNECT
  expired := true

theorem inBounds_of_executed {b : Dbms} {r : Received} {N : Nat}
    (h : Within (executed b r (harsh N))) : InBounds b r N := by
  have named (failed : processTransaction b (harsh N) 2 r 0 = .ok ERROR) :
      0 ≤ r.transaction ∧ r.transaction < TRANSACTION_MAX := by
    have rest := h.rest failed
    rw [if_pos rfl] at rest
    exact within_touch.mp rest.first
  cases known : knownTransaction r.transaction with
  | false =>
    have inside := named (by rw [processTransaction, known]; rfl)
    have unknown : r.transaction ∉
        [INTEGRITY, DELIVERY, NEW_ORDER, ORDER_STATUS, PAYMENT, STOCK_LEVEL] := by
      simpa only [knownTransaction, decide_eq_false_iff_not] using known
    simp only [INTEGRITY, DELIVERY, NEW_ORDER, ORDER_STATUS, PAYMENT, STOCK_LEVEL,
      List.mem_cons, List.not_mem_nil, TRANSACTION_MAX] at unknown inside
    omega
  | true =>
    have ran : Within (b.execute r (harsh N 1)) := by
      have process := h.first
      rw [processTransaction, known] at process
      exact Within.first process
    have listed : r.transaction ∈
        [INTEGRITY, DELIVERY, NEW_ORDER, ORDER_STATUS, PAYMENT, STOCK_LEVEL] := by
      simpa only [knownTransaction, decide_eq_true_eq] using known
    refine ⟨?_, ?_, ?_⟩
    · by_cases integrity : r.transaction = INTEGRITY
      · apply named
        simp only [processTransaction, Dbms.execute, integrity]
        rfl
      · simp only [INTEGRITY, DELIVERY, NEW_ORDER, ORDER_STATUS, PAYMENT, STOCK_LEVEL,
          List.mem_cons, List.not_mem_nil, or_false, TRANSACTION_MAX] at listed integrity ⊢
        omega
    · intro newOrder
      rw [Dbms.execute, if_pos newOrder] at ran
      obtain ⟨_, first⟩ := ran.first
      exact ⟨within_allLocal.mp ran.first, linesFit_of_within rfl (ran.rest first)⟩
    · intro orderStatus sqlite
      rw [Dbms.execute, orderStatus] at ran
      exact within_executeOrderStatus.mp ran.first sqlite

/-- Whatever the database answers, with no more than so many lines to an order, no access of
either program is outside its array: exactly for these records. -/
theorem inBounds_iff (p : ClientProgram) (b : Dbms) (r : Received) (orderLines : Nat) :
    (∀ env : Nat → Attempt, (∀ n, (env n).orderLines ≤ orderLines) →
      ∃ status, handle b r env p = .ok status) ↔ InBounds b r orderLines := by
  constructor
  · intro always
    have h : Within (handle b r (harsh orderLines) p) := always _ fun _ => le_rfl
    cases p with
    | client =>
      obtain ⟨_, first⟩ := h.first
      obtain ⟨_, second⟩ := (h.rest first).first
      obtain ⟨_, third⟩ := ((h.rest first).rest second).first
      exact inBounds_of_executed (((h.rest first).rest second).rest third).first
    | client2 => exact inBounds_of_executed h
  · exact fun h env lines => h.within_handle lines p

/-- The record with which a driver asks for an integrity check. -/
def integrityRequest : Received where
  transaction := INTEGRITY
  wId := 1
  dId := 0
  oOlCnt := 0
  orderLine _ := ⟨0, 0⟩

theorem not_inBounds :
    (¬ ∀ (b : Dbms) (r : Received) (env : Nat → Attempt), (∀ n, (env n).orderLines ≤ 15) →
      ∃ status, handle b r env .client = .ok status) ∧
    ¬ ∀ (b : Dbms) (r : Received) (env : Nat → Attempt), (∀ n, (env n).orderLines ≤ 15) →
      ∃ status, handle b r env .client2 = .ok status := by
  have counted : handle .libpq integrityRequest (harsh 15) .client =
      .error ⟨.transactionCounter, 10⟩ := rfl
  have named : handle .libpq integrityRequest (harsh 15) .client2 =
      .error ⟨.transactionName, 10⟩ := rfl
  constructor
  · intro always
    obtain ⟨status, ok⟩ := always .libpq integrityRequest (harsh 15) fun _ => le_rfl
    cases counted.symm.trans ok
  · intro always
    obtain ⟨status, ok⟩ := always .libpq integrityRequest (harsh 15) fun _ => le_rfl
    cases named.symm.trans ok

end Dbt2.Indexing
