import Dbt2.Lib.OrderStatistic
import Dbt2.TransactionMix

/-!
# Reports on a mix log

Two scripts compute the results of a test from the mix logs of its drivers, one in R and one in SQL
and shell. Numbers are exact here; how they are rounded for the report is left out, and so is how a
script shows that there is no number: for a throughput over no time, R has NaN and `printf` zero.

* `Entry`: a line of a mix log; `Row`: what the scripts read of it;
* `R.report`, `Sqlite.report`: the scripts;
* `analyzers_agree`: on the logs of drivers of which none ended before all had started they report
  the same, which is what the lines of the steady state say.
-/

namespace Dbt2

open OrderStatistic

namespace MixReport

/-! ## Lines -/

inductive Entry where
  | start (time id : Int)
  | terminated (time id : Int)
  | transaction (time : Int) (type : MixType) (code : Char) (micros : Int) (id wId dId : Int)
  deriving DecidableEq

/-- An empty field is no number. -/
structure Row where
  time : Int
  txn : List Char
  code : List Char
  response : Option ℚ
  id : Int
  wId : Option Int
  dId : Option Int

def START : List Char := ['S', 'T', 'A', 'R', 'T']
def TERMINATED : List Char := ['T', 'E', 'R', 'M', 'I', 'N', 'A', 'T', 'E', 'D']

/-- `transaction_short_name`. -/
def shortName : MixType → Char
  | .delivery => 'd'
  | .newOrder => 'n'
  | .orderStatus => 'o'
  | .payment => 'p'
  | .stockLevel => 's'

namespace Entry

def time : Entry → Int
  | start time _ | terminated time _ | transaction time _ _ _ _ _ _ => time

def row : Entry → Row
  | start time id =>
    { time, txn := START, code := [], response := none, id, wId := none, dId := none }
  | terminated time id =>
    { time, txn := TERMINATED, code := [], response := none, id, wId := none, dId := none }
  | transaction time type code micros id wId dId =>
    { time, txn := [shortName type], code := [code], response := some (micros / 10 ^ 6), id
      wId := some wId, dId := some dId }

end Entry

/-! ## Reports -/

/-- What is printed about a type. There is no result of a division by zero. -/
structure TypeReport where
  share : Option ℚ
  average : Option ℚ
  percentile : Option ℚ
  total : Nat
  rollbacks : Nat
  rollbackShare : Option ℚ

structure Report where
  table : List (String × TypeReport)
  throughput : Option ℚ
  minutes : ℚ
  errors : Nat
  rampUp : ℚ

def ratio (a b : ℚ) : Option ℚ := if b = 0 then none else some (a / b)

/-- A line after the last driver started and before the first one ended. -/
def Row.inside (start fin : Int) (r : Row) : Bool := start < r.time ∧ r.time < fin

def Row.isOf (start fin : Int) (txn : List Char) (r : Row) : Bool :=
  r.txn = txn && r.inside start fin

/-- The times of the lines of a kind. -/
def times (txn : List Char) (rows : List Row) : List Int :=
  (rows.filter fun r => r.txn = txn).map Row.time

/-! ## R -/

namespace R

def txn : List (List Char) := [['d'], ['n'], ['o'], ['p'], ['s']]

def txnName : List String := ["Delivery", "New Order", "Order Status", "Payment", "Stock Level"]

/-- Responses that are not there are removed. -/
def responses (rows : List Row) : List ℚ := rows.filterMap Row.response

def mean (xs : List ℚ) : Option ℚ := ratio xs.sum xs.length

def typeReport (rows : List Row) (start fin : Int) (txn : List Char) : TypeReport :=
  let totalTxn := rows.countP (Row.inside start fin)
  let tTotal := rows.countP (Row.isOf start fin txn)
  let tRollback := rows.countP fun r => r.code = ['R'] && r.isOf start fin txn
  let mine := responses (rows.filter (Row.isOf start fin txn))
  { share := (ratio tTotal totalTxn).map (· * 100)
    average := mean mine
    percentile := quantile (9 / 10) mine
    total := tTotal
    rollbacks := tRollback
    rollbackShare := (ratio tRollback tTotal).map (· * 100) }

def report (rows : List Row) : Option Report :=
  match (times START rows).max?, (times TERMINATED rows).min?, (rows.map Row.time).min? with
  | some start, some fin, some first =>
    let duration : ℚ := fin - start
    some {
      table := txnName.zip (txn.map (typeReport rows start fin))
      throughput := ratio (rows.countP (Row.isOf start fin ['n'])) (duration / 60)
      minutes := duration / 60
      errors := rows.countP fun r => r.code = ['E'] && r.inside start fin
      rampUp := (start - first) / 60 }
  | _, _, _ => none

end R

/-! ## SQL -/

namespace Sqlite

/-- `avg` takes a text that is no number for zero. -/
def avg (xs : List (Option ℚ)) : Option ℚ := ratio (xs.map fun x => x.getD 0).sum xs.length

/-- Texts come after numbers. -/
def before : Option ℚ → Option ℚ → Bool
  | some x, some y => x ≤ y
  | some _, none => true
  | none, some _ => false
  | none, none => true

/-- `ORDER BY … LIMIT 1 OFFSET …`. -/
def nth (xs : List (Option ℚ)) (offset : Nat) : Option ℚ := (xs.mergeSort before)[offset]?.join

/-- A row of `TXNDATA` with its percentile, for a group of the lines inside. -/
def typeReport (rows : List Row) (start fin : Int) (txn : List Char) : TypeReport :=
  let txnTotal := rows.countP (Row.inside start fin)
  let group := rows.filter (Row.isOf start fin txn)
  let rollbacks := group.countP fun r => r.code = ['R']
  let txnCount := group.length
  { share := ratio (100 * txnCount) txnTotal
    average := avg (group.map Row.response)
    percentile := nth (group.map Row.response) ((txnCount * 9 + 9) / 10 - 1)
    total := txnCount
    rollbacks
    rollbackShare := ratio (100 * rollbacks) txnCount }

/-- `GROUP BY txn ORDER BY txn`. -/
def groups (rows : List Row) (start fin : Int) : List (List Char) :=
  sorted ((rows.filter (Row.inside start fin)).map Row.txn).dedup

/-- A type that has no name gets that of the row before. -/
def txnName (last : String) (txn : List Char) : String :=
  if txn = ['d'] then "Delivery" else if txn = ['n'] then "New Order"
  else if txn = ['o'] then "Order Status" else if txn = ['p'] then "Payment"
  else if txn = ['s'] then "Stock Level" else last

structure Loop where
  table : List (String × TypeReport)
  txnName : String
  noTxnCount : Nat

/-- A round of the loop over `TXNDATA`. -/
def round (line : List Char → TypeReport) (l : Loop) (txn : List Char) : Loop :=
  let name := txnName l.txnName txn
  { table := l.table ++ [(name, line txn)]
    txnName := name
    noTxnCount := if txn = ['n'] then (line txn).total else l.noTxnCount }

def report (rows : List Row) : Option Report :=
  match (times START rows).max?, (times TERMINATED rows).min?, (rows.map Row.time).min? with
  | some start, some fin, some first =>
    let loop := (groups rows start fin).foldl (round (typeReport rows start fin))
      { table := [], txnName := "", noTxnCount := 0 }
    let duration : ℚ := fin - start
    some {
      table := loop.table
      throughput := ratio loop.noTxnCount (duration / 60)
      minutes := duration / 60
      errors := (rows.filter (Row.inside start fin)).countP fun r => r.code = ['E']
      rampUp := (start - first) / 60 }
  | _, _, _ => none

end Sqlite

/-! ## What the lines say -/

def types : List MixType := [.delivery, .newOrder, .orderStatus, .payment, .stockLevel]

def fullName : MixType → String
  | .delivery => "Delivery"
  | .newOrder => "New Order"
  | .orderStatus => "Order Status"
  | .payment => "Payment"
  | .stockLevel => "Stock Level"

namespace Entry

def inside (start fin : Int) (e : Entry) : Bool := start < e.time ∧ e.time < fin

/-- The response time of a transaction of this type that ended inside. -/
def measured (start fin : Int) (type : MixType) : Entry → Option ℚ
  | transaction time type' _ micros _ _ _ =>
    if type' = type ∧ start < time ∧ time < fin then some (micros / 10 ^ 6) else none
  | _ => none

def rolledBack (start fin : Int) (type : MixType) : Entry → Bool
  | transaction time type' code _ _ _ _ =>
    code = 'R' ∧ type' = type ∧ start < time ∧ time < fin
  | _ => false

end Entry

/-- Of `all` transactions these are the response times of a type, `rollbacks` of them rolled
back. -/
structure TypeReport.Describes (xs : List ℚ) (rollbacks all : Nat) (line : TypeReport) : Prop where
  total : line.total = xs.length
  rolledBack : line.rollbacks = rollbacks
  share : line.share = (ratio xs.length all).map (· * 100)
  rollbackShare : line.rollbackShare = (ratio rollbacks xs.length).map (· * 100)
  average : line.average = ratio xs.sum xs.length
  percentile : xs ≠ [] → ∃ x, line.percentile = some x ∧
    IsLeast {x | x ∈ xs ∧ 9 * xs.length ≤ 10 * xs.countP (· ≤ x)} x

variable {start fin : Int} {type : MixType}

theorem shortName_injective {t t' : MixType} : shortName t = shortName t' ↔ t = t' := by
  cases t <;> cases t' <;> decide

@[simp] theorem Row.inside_iff (r : Row) :
    r.inside start fin = true ↔ start < r.time ∧ r.time < fin :=
  decide_eq_true_iff

@[simp] theorem START_ne (c : Char) : START ≠ [c] := by simp [START]

@[simp] theorem TERMINATED_ne (c : Char) : TERMINATED ≠ [c] := by simp [TERMINATED]

theorem row_isOf (e : Entry) :
    e.row.isOf start fin [shortName type] = (e.measured start fin type).isSome := by
  cases e with
  | start time id => simp [Entry.row, Row.isOf, Entry.measured]
  | terminated time id => simp [Entry.row, Row.isOf, Entry.measured]
  | transaction time type' code micros id wId dId =>
    rw [Bool.eq_iff_iff]
    simp [Entry.row, Row.isOf, Entry.measured, shortName_injective]

theorem row_response (e : Entry) (mine : e.row.isOf start fin [shortName type] = true) :
    e.row.response = e.measured start fin type := by
  rw [row_isOf] at mine
  cases e with
  | start time id => simp [Entry.measured] at mine
  | terminated time id => simp [Entry.measured] at mine
  | transaction time type' code micros id wId dId =>
    simp only [Entry.measured, Entry.row] at mine ⊢
    split at mine
    case isTrue here => rw [if_pos here]
    case isFalse => simp at mine

theorem row_rolledBack (e : Entry) :
    (decide (e.row.code = ['R']) && e.row.isOf start fin [shortName type]) =
      e.rolledBack start fin type := by
  cases e with
  | start time id => simp [Entry.row, Entry.rolledBack]
  | terminated time id => simp [Entry.row, Entry.rolledBack]
  | transaction time type' code micros id wId dId =>
    rw [Bool.eq_iff_iff]
    simp [Entry.row, Row.isOf, Entry.rolledBack, shortName_injective]

/-- The lines of a type inside, as the scripts find them. -/
theorem responses_eq (es : List Entry) :
    ((es.map Entry.row).filter (Row.isOf start fin [shortName type])).map Row.response =
      (es.filterMap (Entry.measured start fin type)).map some := by
  induction es with
  | nil => rfl
  | cons e es ih =>
    rw [List.map_cons]
    by_cases mine : e.row.isOf start fin [shortName type] = true
    · have some' := row_isOf e ▸ mine
      obtain ⟨x, measured⟩ := Option.isSome_iff_exists.mp some'
      rw [List.filter_cons_of_pos mine, List.map_cons, row_response e mine, measured, ih,
        List.filterMap_cons_some measured, List.map_cons]
    · have none' : e.measured start fin type = none := by
        simpa [row_isOf] using mine
      rw [List.filter_cons_of_neg mine, ih, List.filterMap_cons_none none']

theorem length_group (es : List Entry) :
    ((es.map Entry.row).filter (Row.isOf start fin [shortName type])).length =
      (es.filterMap (Entry.measured start fin type)).length := by
  have same := congrArg List.length (@responses_eq start fin type es)
  simpa using same

theorem countP_rolledBack (es : List Entry) :
    ((es.map Entry.row).countP fun r =>
        r.code = ['R'] && r.isOf start fin [shortName type]) =
      es.countP (Entry.rolledBack start fin type) := by
  rw [List.countP_map]
  exact List.countP_congr fun e _ => by rw [Function.comp, row_rolledBack]

theorem countP_inside (es : List Entry) :
    (es.map Entry.row).countP (Row.inside start fin) = es.countP (Entry.inside start fin) := by
  rw [List.countP_map]
  refine List.countP_congr fun e _ => ?_
  cases e <;> rfl

/-! ## One row -/

theorem mine_eq (es : List Entry) :
    R.responses ((es.map Entry.row).filter (Row.isOf start fin [shortName type])) =
      es.filterMap (Entry.measured start fin type) := by
  have same := congrArg List.reduceOption
    (@responses_eq start fin type es)
  simpa [R.responses, List.reduceOption, List.filterMap_map, Function.comp_def] using same

theorem R.typeReport_describes (es : List Entry) :
    (R.typeReport (es.map Entry.row) start fin [shortName type]).Describes
      (es.filterMap (Entry.measured start fin type)) (es.countP (Entry.rolledBack start fin type))
      (es.countP (Entry.inside start fin)) := by
  have total : (es.map Entry.row).countP (Row.isOf start fin [shortName type]) =
      (es.filterMap (Entry.measured start fin type)).length := by
    rw [List.countP_eq_length_filter, length_group]
  constructor
  · exact total
  · exact countP_rolledBack es
  · rw [R.typeReport, total, countP_inside]
  · rw [R.typeReport, total, countP_rolledBack]
  · rw [R.typeReport, mine_eq, R.mean]
  · intro nonempty
    obtain ⟨x, here, least⟩ := quantile_isLeast (a := 9) (b := 10) (by decide) (by decide)
      (by decide) nonempty
    refine ⟨x, ?_, least⟩
    rw [R.typeReport, mine_eq]
    exact_mod_cast here

theorem nth_map_some (xs : List ℚ) (k : Nat) :
    Sqlite.nth (xs.map some) k = (sorted xs)[k]? := by
  have sort : (sorted xs).map some = (xs.map some).mergeSort Sqlite.before :=
    List.map_mergeSort fun _ _ _ _ => rfl
  rw [Sqlite.nth, ← sort, List.getElem?_map]
  cases (sorted xs)[k]? <;> rfl

theorem avg_map_some (xs : List ℚ) : Sqlite.avg (xs.map some) = R.mean xs := by
  simp [Sqlite.avg, R.mean, Function.comp_def]

theorem ratio_hundred (a b : ℚ) : ratio (100 * a) b = (ratio a b).map (· * 100) := by
  unfold ratio
  split
  · rfl
  · rw [Option.map_some]
    congr 1
    ring

/-- The row that one script prints is the row that the other one prints. -/
theorem typeReport_eq (es : List Entry) :
    Sqlite.typeReport (es.map Entry.row) start fin [shortName type] =
      R.typeReport (es.map Entry.row) start fin [shortName type] := by
  have percentile (xs : List ℚ) :
      Sqlite.nth (xs.map some) ((xs.length * 9 + 9) / 10 - 1) = quantile (9 / 10) xs := by
    rw [nth_map_some]
    exact_mod_cast (quantile_eq (a := 9) (b := 10) (by decide) xs).symm
  have rollbacks := List.countP_filter (p := fun r : Row => r.code = ['R'])
    (q := Row.isOf start fin [shortName type]) (l := es.map Entry.row)
  rw [Sqlite.typeReport, R.typeReport, mine_eq, ratio_hundred, ratio_hundred, responses_eq,
    avg_map_some, rollbacks, length_group, percentile, ← length_group,
    List.countP_eq_length_filter (p := Row.isOf start fin [shortName type])]

/-! ## The window -/

theorem times_start (es : List Entry) (t : Int) :
    t ∈ times START (es.map Entry.row) ↔ ∃ id, Entry.start t id ∈ es := by
  simp only [times, List.mem_map, List.mem_filter, decide_eq_true_eq]
  constructor
  · rintro ⟨r, ⟨⟨e, mem, rfl⟩, marker⟩, rfl⟩
    cases e with
    | start time id => exact ⟨id, mem⟩
    | terminated time id => cases marker
    | transaction time type' code micros id wId dId => exact absurd marker.symm (START_ne _)
  · rintro ⟨id, mem⟩
    exact ⟨_, ⟨⟨_, mem, rfl⟩, rfl⟩, rfl⟩

theorem times_terminated (es : List Entry) (t : Int) :
    t ∈ times TERMINATED (es.map Entry.row) ↔ ∃ id, Entry.terminated t id ∈ es := by
  simp only [times, List.mem_map, List.mem_filter, decide_eq_true_eq]
  constructor
  · rintro ⟨r, ⟨⟨e, mem, rfl⟩, marker⟩, rfl⟩
    cases e with
    | start time id => cases marker
    | terminated time id => exact ⟨id, mem⟩
    | transaction time type' code micros id wId dId => exact absurd marker.symm (TERMINATED_ne _)
  · rintro ⟨id, mem⟩
    exact ⟨_, ⟨⟨_, mem, rfl⟩, rfl⟩, rfl⟩

theorem txn_eq : R.txn = types.map fun t => [shortName t] := rfl

/-- No marker stands in the window, so that what is there has a type. -/
theorem txn_of_inside {es : List Entry} (last : ∀ t id, Entry.start t id ∈ es → t ≤ start)
    (first : ∀ t id, Entry.terminated t id ∈ es → fin ≤ t) {r : Row} (mem : r ∈ es.map Entry.row)
    (inside : r.inside start fin = true) : r.txn ∈ R.txn := by
  obtain ⟨e, there, rfl⟩ := List.mem_map.mp mem
  rw [Row.inside_iff] at inside
  cases e with
  | start time id => exact absurd inside.1 (not_lt.mpr (last time id there))
  | terminated time id => exact absurd inside.2 (not_lt.mpr (first time id there))
  | transaction time type' code micros id wId dId =>
    have all : ∀ t : MixType, [shortName t] ∈ R.txn := by
      intro t
      cases t <;> decide
    exact all type'

/-- The types that the window has lines of. -/
theorem groups_eq {rows : List Row}
    (known : ∀ r ∈ rows, r.inside start fin = true → r.txn ∈ R.txn) :
    Sqlite.groups rows start fin =
      R.txn.filter fun c => rows.countP (Row.isOf start fin c) ≠ 0 := by
  have ordered : R.txn.Pairwise (· < ·) := by decide
  apply sorted_dedup_eq (ordered.filter _)
  intro c
  simp only [List.mem_map, List.mem_filter, ← Nat.pos_iff_ne_zero, List.countP_pos_iff, Row.isOf,
    Bool.and_eq_true, decide_eq_true_eq]
  constructor
  · rintro ⟨r, ⟨mem, inside⟩, rfl⟩
    exact ⟨known r mem inside, r, mem, rfl, inside⟩
  · rintro ⟨-, r, mem, rfl, inside⟩
    exact ⟨r, ⟨mem, inside⟩, rfl⟩

theorem sum_isOf {rows : List Row}
    (known : ∀ r ∈ rows, r.inside start fin = true → r.txn ∈ R.txn) :
    (R.txn.map fun c => rows.countP (Row.isOf start fin c)).sum =
      rows.countP (Row.inside start fin) := by
  induction rows with
  | nil => rfl
  | cons r rows ih =>
    have before := ih fun q mem => known q (List.mem_cons_of_mem r mem)
    by_cases inside : r.inside start fin = true
    · have one := known r List.mem_cons_self inside
      rw [List.countP_cons_of_pos inside, ← before]
      simp only [R.txn, List.mem_cons, List.not_mem_nil, or_false] at one
      obtain here | here | here | here | here := one <;>
        simp [R.txn, List.countP_cons, Row.isOf, here, inside] <;> omega
    · rw [List.countP_cons_of_neg inside, ← before]
      simp [Row.isOf, inside]

/-! ## The loop -/

theorem txnName_of_mem {c : List Char} (mem : c ∈ R.txn) (last : String) :
    Sqlite.txnName last c = Sqlite.txnName "" c := by
  simp only [R.txn, List.mem_cons, List.not_mem_nil, or_false] at mem
  obtain rfl | rfl | rfl | rfl | rfl := mem <;> rfl

theorem foldl_round (line : List Char → TypeReport) (cs : List (List Char))
    (known : ∀ c ∈ cs, c ∈ R.txn) (l : Sqlite.Loop) :
    (cs.foldl (Sqlite.round line) l).table =
        l.table ++ cs.map (fun c => (Sqlite.txnName "" c, line c)) ∧
      (cs.foldl (Sqlite.round line) l).noTxnCount =
        if ['n'] ∈ cs then (line ['n']).total else l.noTxnCount := by
  induction cs generalizing l with
  | nil => simp
  | cons c cs ih =>
    obtain ⟨table, count⟩ := ih (fun d mem => known d (List.mem_cons_of_mem c mem))
      (Sqlite.round line l c)
    rw [List.foldl_cons]
    constructor
    · rw [table, Sqlite.round, txnName_of_mem (known c List.mem_cons_self)]
      simp
    · rw [count, Sqlite.round]
      by_cases order : c = ['n']
      · simp [order]
      · simp [order, Ne.symm order]

/-- Both tables and the number that goes into the throughput. -/
theorem loop_eq {es : List Entry} (last : ∀ t id, Entry.start t id ∈ es → t ≤ start)
    (first : ∀ t id, Entry.terminated t id ∈ es → fin ≤ t) (l : Sqlite.Loop) :
    let line := R.typeReport (es.map Entry.row) start fin
    let loop := (Sqlite.groups (es.map Entry.row) start fin).foldl
      (Sqlite.round (Sqlite.typeReport (es.map Entry.row) start fin)) l
    loop.table = l.table ++ (R.txnName.zip (R.txn.map line)).filter (fun p => p.2.total ≠ 0) ∧
      (l.noTxnCount = 0 → loop.noTxnCount = (line ['n']).total) := by
  intro line loop
  have known := fun r mem inside =>
    @txn_of_inside start fin es last first r mem inside
  have groups := groups_eq known
  have within : ∀ c ∈ Sqlite.groups (es.map Entry.row) start fin, c ∈ R.txn := by
    intro c mem
    rw [groups] at mem
    exact List.mem_of_mem_filter mem
  have same : ∀ c ∈ R.txn, Sqlite.typeReport (es.map Entry.row) start fin c = line c := by
    intro c mem
    rw [txn_eq] at mem
    obtain ⟨t, -, rfl⟩ := List.mem_map.mp mem
    exact typeReport_eq es
  obtain ⟨table, count⟩ :=
    foldl_round (Sqlite.typeReport (es.map Entry.row) start fin) _ within l
  constructor
  · rw [table, List.map_congr_left (fun c mem => by rw [same c (within c mem)]), groups]
    have zip : R.txnName.zip (R.txn.map line) =
        R.txn.map fun c => (Sqlite.txnName "" c, line c) := rfl
    rw [zip, List.filter_map]
    rfl
  · intro zero
    rw [count]
    split
    case isTrue mem => rw [same _ (within _ mem)]
    case isFalse none' =>
      rw [groups, List.mem_filter] at none'
      simp only [show ['n'] ∈ R.txn by decide, true_and, decide_eq_true_eq, not_not] at none'
      rw [zero]
      exact none'.symm

theorem window {es : List Entry} (begun : ∃ t id, Entry.start t id ∈ es)
    (ended : ∃ t id, Entry.terminated t id ∈ es) :
    ∃ start fin, (times START (es.map Entry.row)).max? = some start ∧
      (times TERMINATED (es.map Entry.row)).min? = some fin ∧
      IsGreatest {t | ∃ id, Entry.start t id ∈ es} start ∧
      IsLeast {t | ∃ id, Entry.terminated t id ∈ es} fin := by
  obtain ⟨t, id, mem⟩ := begun
  obtain ⟨t', id', mem'⟩ := ended
  obtain ⟨start, greatest⟩ := Option.isSome_iff_exists.mp
    (List.isSome_max?_of_mem ((times_start es t).mpr ⟨id, mem⟩))
  obtain ⟨fin, least⟩ := Option.isSome_iff_exists.mp
    (List.isSome_min?_of_mem ((times_terminated es t').mpr ⟨id', mem'⟩))
  refine ⟨start, fin, greatest, least, ?_, ?_⟩
  · obtain ⟨here, above⟩ := List.max?_eq_some_iff.mp greatest
    exact ⟨(times_start es _).mp here, fun t mem => above t ((times_start es t).mpr mem)⟩
  · obtain ⟨here, below⟩ := List.min?_eq_some_iff.mp least
    exact ⟨(times_terminated es _).mp here, fun t mem => below t ((times_terminated es t).mpr mem)⟩

/-- The scripts report the same, but that one leaves out the types without a line. A row of the
table describes the lines of its type that follow the last start and precede the first end, and
every line there belongs to one row. -/
theorem analyzers_agree (es : List Entry) (begun : ∃ t id, Entry.start t id ∈ es)
    (ended : ∃ t id, Entry.terminated t id ∈ es)
    (steady : ∀ t id t' id', Entry.start t id ∈ es → Entry.terminated t' id' ∈ es → t < t') :
    ∃ start fin report, start < fin ∧ IsGreatest {t | ∃ id, Entry.start t id ∈ es} start ∧
      IsLeast {t | ∃ id, Entry.terminated t id ∈ es} fin ∧
      R.report (es.map Entry.row) = some report ∧
      Sqlite.report (es.map Entry.row) =
        some { report with table := report.table.filter fun p => p.2.total ≠ 0 } ∧
      (∃ line : MixType → TypeReport,
        report.table = types.map (fun t => (fullName t, line t)) ∧
        ∀ t, (line t).Describes (es.filterMap (Entry.measured start fin t))
          (es.countP (Entry.rolledBack start fin t)) (es.countP (Entry.inside start fin))) ∧
      (report.table.map fun p => p.2.total).sum = es.countP (Entry.inside start fin) ∧
      report.throughput = some ((es.filterMap (Entry.measured start fin .newOrder)).length /
        (((fin : ℚ) - start) / 60)) := by
  obtain ⟨start, fin, greatest, least, isGreatest, isLeast⟩ := window begun ended
  have order : start < fin := by
    obtain ⟨id, here⟩ := isGreatest.1
    obtain ⟨id', there⟩ := isLeast.1
    exact steady start id fin id' here there
  have last : ∀ t id, Entry.start t id ∈ es → t ≤ start := fun t id mem =>
    isGreatest.2 ⟨id, mem⟩
  have first : ∀ t id, Entry.terminated t id ∈ es → fin ≤ t := fun t id mem =>
    isLeast.2 ⟨id, mem⟩
  obtain ⟨t, id, mem⟩ := begun
  obtain ⟨time0, earliest⟩ := Option.isSome_iff_exists.mp
    (List.isSome_min?_of_mem (List.mem_map.mpr ⟨_, List.mem_map.mpr ⟨_, mem, rfl⟩, rfl⟩ :
      (Entry.start t id).row.time ∈ (es.map Entry.row).map Row.time))
  obtain ⟨table, count⟩ := loop_eq last first { table := [], txnName := "", noTxnCount := 0 }
  have described (t : MixType) := @R.typeReport_describes start fin t es
  obtain ⟨report, made⟩ : ∃ report, R.report (es.map Entry.row) = some report := by
    rw [R.report, greatest, least, earliest]
    exact ⟨_, rfl⟩
  refine ⟨start, fin, report, order, isGreatest, isLeast, made, ?_⟩
  rw [R.report, greatest, least, earliest] at made
  obtain rfl := Option.some.inj made
  refine ⟨?_, ⟨_, rfl, described⟩, ?_, ?_⟩
  · have errors := List.countP_filter (p := fun r : Row => r.code = ['E'])
      (q := Row.inside start fin) (l := es.map Entry.row)
    rw [Sqlite.report, greatest, least, earliest]
    simp only [table, count rfl, errors, List.nil_append]
    rfl
  · have totals := sum_isOf fun r mem inside =>
      @txn_of_inside start fin es last first r mem inside
    rw [countP_inside] at totals
    exact totals
  · have minutes : ((fin : ℚ) - start) / 60 ≠ 0 := by
      have later : (start : ℚ) < fin := by exact_mod_cast order
      exact div_ne_zero (sub_ne_zero.mpr later.ne') (by norm_num)
    rw [← (described .newOrder).total]
    exact if_neg minutes

/-- One order, half a minute into a minute. -/
def shortLog : List Entry :=
  [.start 0 7, .transaction 30 .newOrder 'C' 250000 7 1 1, .terminated 60 7]

theorem analyzers_agree_shortLog : ∃ report, R.report (shortLog.map Entry.row) = some report ∧
    Sqlite.report (shortLog.map Entry.row) =
      some { report with table := report.table.filter fun p => p.2.total ≠ 0 } := by
  have steady : ∀ t id t' id', Entry.start t id ∈ shortLog → Entry.terminated t' id' ∈ shortLog →
      t < t' := by
    intro t id t' id' here there
    simp only [shortLog, List.mem_cons, List.not_mem_nil, or_false, reduceCtorEq, false_or,
      Entry.start.injEq, Entry.terminated.injEq] at here there
    omega
  obtain ⟨start, fin, report, -, -, -, r, sqlite, -⟩ :=
    analyzers_agree shortLog ⟨0, 7, by decide⟩ ⟨60, 7, by decide⟩ steady
  exact ⟨report, r, sqlite⟩

end MixReport

end Dbt2
