import Dbt2.MySql
import Dbt2.NewOrderOutput
import Dbt2.OrderRows
import Dbt2.Lib.Transition

/-!
# New-Orders on a connection to MySQL

`execute_new_order_mysql` calls the procedure, takes the result sets and then selects `@rc`, the
variable of the session that the procedure's last parameter goes to. An SQL error that ends the
procedure leaves the variable as it is and undoes only the statement it comes from. `mysql_query`
reports it unless there were result sets before it; then only `mysql_next_result` does.

* `call`: a call of the procedure, which an error may end after any of its statements;
* `executeNewOrderMysql`: what the client makes of it;
* `call_completed`: a call that ran to its end has placed the order;
* `commits_complete`: so has every call that is committed, in runs that meet a condition.
-/

namespace Dbt2.MySql

open Locking Prog Transition

/-! ## The call -/

inductive CallEnd where
  | completed (rc : Int)
  | stopped
  deriving DecidableEq

structure CallResult where
  ended : CallEnd
  sets : List ResultSet
  rows : Rows

/-- With `fault` an error ends the procedure after so many statements, unless it ends before. -/
def call (data : NewOrderData) (fault : Option Nat) (rows : Rows) : CallResult :=
  match fault.bind fun n => interrupted (alone rows) n (newOrder data) (rows, []) with
  | some (left, sets) => { ended := .stopped, sets, rows := left }
  | none =>
    match exec (alone rows) (newOrder data) (rows, []) with
    | (.ok rc, left, sets) => { ended := .completed rc, sets, rows := left }
    | (.error _, left, sets) => { ended := .stopped, sets, rows := left }

/-- `@rc`, null at the start of a session. -/
def CallResult.sessionRc (c : CallResult) (before : Option Int) : Option Int :=
  match c.ended with
  | .completed rc => some rc
  | .stopped => before

/-! ## The client -/

/-- A result set, with the number of lines so far. A null leaves the field as it is. -/
def takeSet (out : NewOrderOutput × Nat) : ResultSet → NewOrderOutput × Nat
  | .line row =>
    if out.2 < 15 then
      let line : OrderLineResult :=
        { iPrice := row.iPrice, iName := row.iName
          sQuantity := row.sQuantity.getD (out.1.orderLine out.2).sQuantity
          olAmount := row.olAmount, brandGeneric := row.brandGeneric }
      (out.1.setLine out.2 line, out.2 + 1)
    else out
  | .order row =>
    ({ out.1 with
        wTax := row.wTax, dTax := row.dTax, oId := row.oId, cLast := row.cLast
        cCredit := row.cCredit, cDiscount := row.cDiscount, totalAmount := row.totalAmount }, out.2)

/-- `@rc` at the end of the call is `selected`, or the query for it fails. -/
def executeNewOrderMysql (c : CallResult) (selected : Option (Option Int)) (out : NewOrderOutput) :
    Int × NewOrderOutput :=
  if c.ended = .stopped ∧ c.sets = [] then (ERROR, out)
  else
    let out := (c.sets.foldl takeSet (out, 0)).1
    match selected with
    | some (some rc) => (OK, { out with rollback := rc })
    | _ => (ERROR, out)

/-- What reaches a session: a New-Order on the rows that there are, or a reconnect, which begins
another session. -/
inductive SessionEvent where
  | newOrder (data : NewOrderData) (rows : Rows) (fault : Option Nat) (queryFails : Bool)
      (out : NewOrderOutput)
  | reconnect

structure Done where
  data : NewOrderData
  before : Rows
  call : CallResult
  code : Int
  output : NewOrderOutput

structure Session where
  rc : Option Int
  done : List Done

def Session.execute (s : Session) (data : NewOrderData) (rows : Rows) (fault : Option Nat)
    (queryFails : Bool) (out : NewOrderOutput) : Done :=
  let c := MySql.call data fault rows
  let result := executeNewOrderMysql c (if queryFails then none else some (c.sessionRc s.rc)) out
  { data, before := rows, call := c, code := result.1, output := result.2 }

def Session.step (s : Session) : SessionEvent → Option Session
  | .newOrder data rows fault queryFails out =>
    let d := s.execute data rows fault queryFails out
    some { rc := d.call.sessionRc s.rc, done := s.done ++ [d] }
  | .reconnect => some { s with rc := none }

/-- The verdict with which `process_transaction` commits. -/
def Done.commits (d : Done) : Prop := resultCode NEW_ORDER d.code d.output.rollback = OK

structure Done.Sound (d : Done) : Prop where
  completed : d.code = OK → d.output.rollback = 0 → d.call.ended = .completed 0
  complete : d.commits → Complete d.data d.before d.call.rows

/-! ## The condition -/

/-- Line `k` is not passed over, and has a stock row. -/
def sold (data : NewOrderData) (rows : Rows) (k : Nat) : Bool :=
  (rows (.item (data.line k).olIId)).all fun item =>
    0 < item.iPrice && (rows (.stock (data.line k).olIId (data.line k).olSupplyWId)).isSome

/-- If the items are all there, so are their prices and stock rows. -/
def priced (data : NewOrderData) (rows : Rows) : Bool :=
  ((List.range data.oOlCnt).any fun k => (rows (.item (data.line k).olIId)).isNone) ||
    (List.range data.oOlCnt).all (sold data rows)

/-- An error after a result set, while the session has the verdict of an order that was placed. -/
def stale (rc : Option Int) (c : CallResult) : Bool :=
  rc = some 0 ∧ c.ended = .stopped ∧ c.sets ≠ []

def Session.sound (s : Session) : SessionEvent → Bool
  | .newOrder data rows fault queryFails _ =>
    priced data rows && (queryFails || !stale s.rc (MySql.call data fault rows))
  | .reconnect => true

/-! ## A call that runs to its end -/

section Call

variable {data : NewOrderData} {rows : Rows} {oId : Int} {k : Nat}

theorem into_ok {A O E : Type} {query : Procedure Key Row O E (Option A)} {noData : E}
    {on : (q : Stmt Key Row O) → Rows × List O → q.Reply × (Rows × List O)}
    {s t : Rows × List O} {a : A} (ran : exec on (into query noData) s = (.ok a, t)) :
    exec on query s = (.ok (some a), t) := by
  obtain ⟨row, u, asked, found⟩ := exec_bind_eq_ok ran
  cases row with
  | none => cases found
  | some a' =>
    cases found
    exact asked

theorem insert_ok {O E : Type} {key : Key} {row : Row key} {duplicate : E}
    {s t : Rows × List O} (ran : exec (alone rows) (insert key row duplicate) s = (.ok (), t)) :
    s.1 key = none ∧ t = (Function.update s.1 key (some row), s.2) := by
  cases old : s.1 key with
  | none =>
    rw [insert_fresh old] at ran
    cases ran
    exact ⟨rfl, rfl⟩
  | some used =>
    rw [insert_used (Option.isSome_of_eq_some old)] at ran
    cases ran

theorem insertLine_ok {O E : Type} {l : OrderLine} {duplicate : E} {s t : Rows × List O}
    (ran : exec (alone rows) (insertLine l duplicate) s = (.ok (), t)) :
    numberUsed l (s.1 (.lines l.olWId l.olDId l.olOId)) = false ∧
      t = (Function.update s.1 (.lines l.olWId l.olDId l.olOId)
        (some ((s.1 (.lines l.olWId l.olDId l.olOId)).getD [] ++ [l])), s.2) := by
  cases used : numberUsed l (s.1 (.lines l.olWId l.olDId l.olOId)) with
  | false =>
    rw [insertLine_fresh used] at ran
    cases ran
    exact ⟨rfl, rfl⟩
  | true =>
    rw [insertLine_used used] at ran
    cases ran

/-- A line's result set. -/
def lineSet (item : Item) (olAmount : ℚ) (stock : Option Stock) : LineSet where
  iPrice := item.iPrice
  iName := item.iName
  sQuantity := stock.map Stock.sQuantity
  olAmount
  brandGeneric :=
    if strstr item.iData "ORIGINAL" && stock.any (fun s => strstr s.sData "ORIGINAL") then 'B'
    else 'G'

/-- What the line leaves of a quantity. -/
def left (q : Int) (stock : Option Stock) (sQuantity : Int) : Int :=
  if stock.any fun s => s.sQuantity ≥ q + 10 then sQuantity - q else sQuantity - q + 91

theorem newOrder2_eq {i : Nat} {item : Item} {olAmount : ℚ} :
    newOrder2 data oId i item olAmount = (do
      let stock ← selectStock .repeatable (data.line i).olIId (data.line i).olSupplyWId
      let _ ← update (.stock (data.line i).olIId (data.line i).olSupplyWId) fun s =>
        leaveStock data (data.line i) (left (data.line i).olQuantity stock s.sQuantity) s
      insertLine (Plpgsql.orderLineRow data oId i olAmount
        (stock.map fun s => s.sDist.get data.dist)) DUPLICATE_ENTRY
      emit (.line (lineSet item olAmount stock))) := by
  unfold newOrder2
  refine bind_congr fun stock => ?_
  unfold left lineSet
  by_cases enough : (stock.any fun s => s.sQuantity ≥ (data.line i).olQuantity + 10) = true
  · simp only [if_pos enough]
  · simp only [if_neg enough]

theorem newOrder2_emits {i : Nat} {item : Item} {olAmount : ℚ} {s t : Rows × List ResultSet}
    (ran : exec (alone rows) (newOrder2 data oId i item olAmount) s = (.ok (), t)) :
    (∀ iId, t.1 (.item iId) = s.1 (.item iId)) ∧
      ∃ row, row.olAmount = olAmount ∧ t.2 = s.2 ++ [.line row] := by
  rw [newOrder2_eq] at ran
  obtain ⟨stock, u, asked, ran⟩ := exec_bind_eq_ok ran
  obtain ⟨_, v, updated, ran⟩ := exec_bind_eq_ok ran
  obtain ⟨_, w, inserted, ran⟩ := exec_bind_eq_ok ran
  obtain ⟨-, rfl⟩ := insertLine_ok inserted
  cases asked
  cases updated
  cases ran
  exact ⟨fun iId => by simp [alone], lineSet item olAmount _, rfl, rfl⟩

/-- What it leaves is what `decrQuantity` says. -/
theorem newOrder2_found {i : Nat} {item : Item} {olAmount : ℚ} {s : Rows × List ResultSet}
    {stock : Stock}
    (found : s.1 (.stock (data.line i).olIId (data.line i).olSupplyWId) = some stock) :
    exec (alone rows) (newOrder2 data oId i item olAmount) s =
      exec (alone rows) (insertLine (Plpgsql.orderLineRow data oId i olAmount
          (some (stock.sDist.get data.dist))) DUPLICATE_ENTRY >>= fun _ =>
            emit (.line (lineSet item olAmount (some stock))))
        (Function.update s.1 (.stock (data.line i).olIId (data.line i).olSupplyWId)
          (some (leaveStock data (data.line i)
            (stock.sQuantity - decrQuantity stock.sQuantity (data.line i).olQuantity) stock)),
          s.2) := by
  have sold : left (data.line i).olQuantity (some stock) stock.sQuantity =
      stock.sQuantity - decrQuantity stock.sQuantity (data.line i).olQuantity := by
    unfold left decrQuantity
    simp only [Option.any_some, decide_eq_true_eq]
    split
    · rfl
    · omega
  rw [newOrder2_eq]
  unfold selectStock Dbt2.update
  simp only [send_bind, exec_issue, alone, found, Option.map_some, sold]

theorem newOrderLine_ok {i : Nat} {s t : Rows × List ResultSet} {amount : Option ℚ}
    (ran : exec (alone rows) (newOrderLine data oId i) s = (.ok amount, t)) :
    ∃ item, s.1 (.item (data.line i).olIId) = some item ∧
      ((0 < item.iPrice ∧ amount = some (item.iPrice * (data.line i).olQuantity) ∧
          exec (alone rows) (newOrder2 data oId i item
            (item.iPrice * (data.line i).olQuantity)) s = (.ok (), t)) ∨
        (¬ 0 < item.iPrice ∧ amount = none ∧ t = s)) := by
  obtain ⟨item, u, found, ran⟩ := exec_bind_eq_ok ran
  have asked := into_ok found
  obtain ⟨there, rfl⟩ := Prod.ext_iff.mp asked
  refine ⟨item, Except.ok.inj there, ?_⟩
  by_cases price : 0 < item.iPrice
  · rw [if_pos price] at ran
    obtain ⟨_, v, placed, ran⟩ := exec_bind_eq_ok ran
    cases ran
    exact .inl ⟨price, rfl, placed⟩
  · rw [if_neg price] at ran
    cases ran
    exact .inr ⟨price, rfl, rfl⟩

/-- The amount of the line, if it is not passed over, is in the result set. -/
theorem newOrderLine_emits {i : Nat} {s t : Rows × List ResultSet} {amount : Option ℚ}
    (ran : exec (alone rows) (newOrderLine data oId i) s = (.ok amount, t)) :
    ∃ lines : List LineSet, t.2 = s.2 ++ lines.map .line ∧
      lines.map LineSet.olAmount = amount.toList := by
  obtain ⟨item, -, ⟨-, rfl, placed⟩ | ⟨-, rfl, rfl⟩⟩ := newOrderLine_ok ran
  · obtain ⟨-, row, same, sets⟩ := newOrder2_emits placed
    exact ⟨[row], sets, by rw [List.map_singleton, same]; rfl⟩
  · exact ⟨[], (List.append_nil _).symm, rfl⟩

theorem newOrderLine_item {i : Nat} {s t : Rows × List ResultSet} {amount : Option ℚ}
    (ran : exec (alone rows) (newOrderLine data oId i) s = (.ok amount, t)) :
    (s.1 (.item (data.line i).olIId)).isSome ∧ ∀ iId, t.1 (.item iId) = s.1 (.item iId) := by
  obtain ⟨item, found, ⟨-, -, placed⟩ | ⟨-, -, rfl⟩⟩ := newOrderLine_ok ran
  · exact ⟨Option.isSome_of_eq_some found, (newOrder2_emits placed).1⟩
  · exact ⟨Option.isSome_of_eq_some found, fun _ => rfl⟩

/-- Lines that have all been looked at have an item each. -/
theorem items_found {n : Nat} {s t : Rows × List ResultSet} {amounts : List (Option ℚ)}
    (looped : exec (alone rows) (loop (newOrderLine data oId) n) s = (.ok amounts, t))
    (same : ∀ iId, s.1 (.item iId) = rows (.item iId)) :
    ∀ k < n, (rows (.item (data.line k).olIId)).isSome := by
  have last := exec_loop_ok (fun as u => (∀ iId, u.1 (.item iId) = rows (.item iId)) ∧
      ∀ k < as.length, (rows (.item (data.line k).olIId)).isSome)
    (fun as u a v lt inv ran => by
      obtain ⟨found, kept⟩ := newOrderLine_item ran
      refine ⟨fun iId => (kept iId).trans (inv.1 iId), fun k below => ?_⟩
      rw [List.length_append, List.length_singleton] at below
      by_cases last : k = as.length
      · subst last
        rw [← inv.1]
        exact found
      · exact inv.2 k (by omega)) looped ⟨same, fun k below => absurd below (Nat.not_lt_zero k)⟩
  obtain ⟨length, -, found⟩ := last
  exact length ▸ found

theorem sold_item (h : sold data rows k = true) :
    ∀ item, rows (.item (data.line k).olIId) = some item →
      0 < item.iPrice ∧ (rows (.stock (data.line k).olIId (data.line k).olSupplyWId)).isSome := by
  intro item found
  rw [sold, found, Option.all_some, Bool.and_eq_true, decide_eq_true_eq] at h
  exact h

theorem priced_line (h : priced data rows = true)
    (found : ∀ k < data.oOlCnt, (rows (.item (data.line k).olIId)).isSome) (lt : k < data.oOlCnt) :
    sold data rows k = true := by
  obtain missing | all := Bool.or_eq_true_iff.mp h
  · obtain ⟨j, mem, none⟩ := List.any_eq_true.mp missing
    have there := found j (List.mem_range.mp mem)
    rw [Option.isNone_iff_eq_none.mp none] at there
    cases there
  · exact List.all_eq_true.mp all k (List.mem_range.mpr lt)

theorem newOrderLine_placed {sets : List ResultSet} {t : Rows × List ResultSet}
    {amount : Option ℚ}
    (priced : ∀ item, rows (.item (data.line k).olIId) = some item →
      0 < item.iPrice ∧ (rows (.stock (data.line k).olIId (data.line k).olSupplyWId)).isSome)
    (ran : exec (alone rows) (newOrderLine data oId k) (placedRows data rows oId k, sets) =
      (.ok amount, t)) : t.1 = placedRows data rows oId (k + 1) := by
  obtain ⟨item, there, placed⟩ := newOrderLine_ok ran
  have item' : rows (.item (data.line k).olIId) = some item := there
  obtain ⟨price, stocked⟩ := priced item item'
  obtain ⟨stock, found⟩ := Option.isSome_iff_exists.mp stocked
  obtain ⟨-, rfl, placed⟩ | ⟨free, -, -⟩ := placed
  · have sold : placedRows data rows oId k
        (.stock (data.line k).olIId (data.line k).olSupplyWId) =
          some (soldRow data k (data.stockKey k) stock) := by
      simp only [placedRows, found, Option.map_some]
      rfl
    have row : Plpgsql.orderLineRow data oId k (item.iPrice * (data.line k).olQuantity)
        (some ((soldRow data k (data.stockKey k) stock).sDist.get data.dist)) =
          lineRow data rows oId k := by
      simp [lineRow, item', found, soldRow]
    have left : leaveStock data (data.line k) ((soldRow data k (data.stockKey k) stock).sQuantity -
        decrQuantity (soldRow data k (data.stockKey k) stock).sQuantity (data.line k).olQuantity)
          (soldRow data k (data.stockKey k) stock) =
        soldRow data (k + 1) (data.stockKey k) stock := by
      rw [soldRow_succ, if_pos rfl]
    rw [newOrder2_found (s := (placedRows data rows oId k, sets)) sold, row, left] at placed
    obtain ⟨_, u, inserted, emitted⟩ := exec_bind_eq_ok placed
    obtain ⟨-, rfl⟩ := insertLine_ok inserted
    cases emitted
    have lines : Function.update (placedRows data rows oId k)
        (.stock (data.line k).olIId (data.line k).olSupplyWId)
        (some (soldRow data (k + 1) (data.stockKey k) stock))
        (.lines data.wId data.dId oId) = placedLines data rows oId k := by
      simp [placedRows]
    rw [← placedRows_succ found, ← lines]
    rfl
  · exact absurd price free

theorem lines_placed {amounts : List (Option ℚ)} {t : Rows × List ResultSet}
    (priced' : priced data rows = true)
    (looped : exec (alone rows) (loop (newOrderLine data oId) data.oOlCnt)
      (placedRows data rows oId 0, []) = (.ok amounts, t)) :
    t.1 = placedRows data rows oId data.oOlCnt := by
  have found := items_found looped fun iId => (rfl : _ = rows (.item iId))
  have last := exec_loop_ok (fun as s => s.1 = placedRows data rows oId as.length)
    (fun as s a t lt placed ran => by
      obtain ⟨rows', sets⟩ := s
      obtain rfl : rows' = placedRows data rows oId as.length := placed
      rw [List.length_append, List.length_singleton]
      exact newOrderLine_placed (sold_item (priced_line priced' found lt)) ran) looped rfl
  exact last.1 ▸ last.2

/-- The lines that are not passed over have a result set each. -/
theorem lines_reported {n : Nat} {rows' : Rows} {amounts : List (Option ℚ)}
    {t : Rows × List ResultSet}
    (looped : exec (alone rows) (loop (newOrderLine data oId) n) (rows', []) = (.ok amounts, t)) :
    ∃ lines : List LineSet, t.2 = lines.map .line ∧ lines.length ≤ n ∧
      lines.map LineSet.olAmount = amounts.filterMap id := by
  obtain ⟨rounds, lines, sets, same⟩ := exec_loop_ok
    (fun as s => ∃ lines : List LineSet,
      s.2 = lines.map .line ∧ lines.map LineSet.olAmount = as.filterMap id)
    (fun as s a t lt inv ran => by
      obtain ⟨lines, sets, same⟩ := inv
      obtain ⟨more, sets', same'⟩ := newOrderLine_emits ran
      refine ⟨lines ++ more, ?_, ?_⟩
      · rw [sets', sets, List.map_append]
      · rw [List.map_append, same, same', List.filterMap_append]
        cases a <;> rfl) looped ⟨[], rfl, rfl⟩
  have fewer : lines.length ≤ n := by
    have length := congrArg List.length same
    rw [List.length_map] at length
    rw [length, ← rounds]
    exact List.length_filterMap_le id amounts
  exact ⟨lines, sets, fewer, same⟩

/-- The result sets of an order whose lines it has, with the sum of their amounts. -/
def Reports (data : NewOrderData) (sets : List ResultSet) : Prop :=
  ∃ (lines : List LineSet) (order : OrderSet), sets = lines.map .line ++ [.order order] ∧
    lines.length ≤ data.oOlCnt ∧ order.totalAmount = (lines.map LineSet.olAmount).sum

/-- A call that runs to its end. -/
structure RanThrough (data : NewOrderData) (rows : Rows) (t : Rows × List ResultSet) : Prop where
  placed : priced data rows = true → Complete data rows t.1
  reported : Reports data t.2

theorem newOrder_ok {t : Rows × List ResultSet}
    (ran : exec (alone rows) (newOrder data) (rows, []) = (.ok 0, t)) : RanThrough data rows t := by
  obtain ran | ⟨e, u, -, handled⟩ := exec_handle_eq_ok ran
  · obtain ⟨warehouse, _, found, ran⟩ := exec_bind_eq_ok ran
    obtain ⟨-, rfl⟩ := Prod.ext_iff.mp (into_ok found)
    obtain ⟨district, _, found, ran⟩ := exec_bind_eq_ok ran
    obtain ⟨numbered, rfl⟩ := Prod.ext_iff.mp (into_ok found)
    obtain ⟨_, _, advanced, ran⟩ := exec_bind_eq_ok ran
    obtain ⟨-, rfl⟩ := Prod.ext_iff.mp advanced
    obtain ⟨customer, _, found, ran⟩ := exec_bind_eq_ok ran
    obtain ⟨-, rfl⟩ := Prod.ext_iff.mp (into_ok found)
    obtain ⟨_, _, inserted, ran⟩ := exec_bind_eq_ok ran
    obtain ⟨unused, rfl⟩ := insert_ok inserted
    obtain ⟨_, _, inserted, ran⟩ := exec_bind_eq_ok ran
    obtain ⟨unused', rfl⟩ := insert_ok inserted
    obtain ⟨amounts, u, looped, ran⟩ := exec_bind_eq_ok ran
    cases ran
    have header : rows (.district data.wId data.dId) = some district := Except.ok.inj numbered
    have unused : Function.update rows (.district data.wId data.dId)
        ((rows (.district data.wId data.dId)).map District.advance)
        (.newOrder data.wId data.dId district.dNextOId) = none := unused
    have unused' : Function.update (Function.update rows (.district data.wId data.dId)
        ((rows (.district data.wId data.dId)).map District.advance))
        (.newOrder data.wId data.dId district.dNextOId)
        (some { noOId := district.dNextOId, noDId := data.dId, noWId := data.wId })
        (.orders data.wId data.dId district.dNextOId) = none := unused'
    rw [Function.update_of_ne (by nofun)] at unused
    rw [Function.update_of_ne (by nofun), Function.update_of_ne (by nofun)] at unused'
    have looped : exec (alone rows) (loop (newOrderLine data district.dNextOId) data.oOlCnt)
        (placedRows data rows district.dNextOId 0, []) = (.ok amounts, u) := by
      rw [← placedRows_zero]
      exact looped
    constructor
    · intro priced
      have placed := lines_placed priced looped
      exact ⟨district, header, ⟨unused, unused'⟩, placed⟩
    · obtain ⟨lines, sets, fewer, same⟩ := lines_reported looped
      exact ⟨lines, _, congrArg (· ++ _) sets, fewer, by rw [same]⟩
  · split at handled
    · cases handled
    · cases handled

theorem call_completed {fault : Option Nat}
    (completed : (call data fault rows).ended = .completed 0) :
    RanThrough data rows ((call data fault rows).rows, (call data fault rows).sets) := by
  unfold call at completed ⊢
  split at completed
  · cases completed
  · split at completed
    · next rc left sets ran =>
      obtain rfl : rc = 0 := CallEnd.completed.inj completed
      exact newOrder_ok ran
    · cases completed

/-! ## The total -/

theorem takeSet_lines {lines : List LineSet} {out : NewOrderOutput × Nat}
    (fit : out.2 + lines.length ≤ 15) :
    ((lines.map ResultSet.line).foldl takeSet out).2 = out.2 + lines.length ∧
      ((lines.map ResultSet.line).foldl takeSet out).1.amounts (out.2 + lines.length) =
        out.1.amounts out.2 + (lines.map LineSet.olAmount).sum := by
  induction lines generalizing out with
  | nil => exact ⟨rfl, (add_zero _).symm⟩
  | cons row lines ih =>
    obtain ⟨out, n⟩ := out
    rw [List.length_cons] at fit
    have room : n < 15 := by omega
    let line : OrderLineResult :=
      { iPrice := row.iPrice, iName := row.iName
        sQuantity := row.sQuantity.getD (out.orderLine n).sQuantity
        olAmount := row.olAmount, brandGeneric := row.brandGeneric }
    have taken : takeSet (out, n) (.line row) = (out.setLine n line, n + 1) := if_pos room
    obtain ⟨count, sum⟩ := @ih (out.setLine n line, n + 1) (by dsimp only; omega)
    have next : n + (lines.length + 1) = n + 1 + lines.length := by omega
    rw [List.map_cons, List.map_cons, List.foldl_cons, taken, List.length_cons, List.sum_cons, next]
    refine ⟨count, sum.trans ?_⟩
    rw [NewOrderOutput.amounts_setLine, add_assoc]

theorem takeSet_total {sets : List ResultSet} {out : NewOrderOutput}
    (reports : Reports data sets) :
    (sets.foldl takeSet (out, 0)).1.totalAmount =
      (sets.foldl takeSet (out, 0)).1.amounts (sets.foldl takeSet (out, 0)).2 := by
  obtain ⟨lines, order, rfl, fewer, total⟩ := reports
  obtain ⟨count, sum⟩ := @takeSet_lines lines (out, 0)
    (by have := data.oOlCnt_le; dsimp only; omega)
  rw [List.foldl_append, List.foldl_cons, List.foldl_nil]
  rw [← count] at sum
  exact total.trans ((sum.trans (zero_add _)).symm)

/-! ## Runs -/

/-- A verdict of 0 is that of this call, or one that the session still has. -/
theorem ok_of_completed {c : CallResult} {before : Option Int} {queryFails : Bool}
    {out : NewOrderOutput} {result : Int × NewOrderOutput}
    (executed : executeNewOrderMysql c (if queryFails then none else some (c.sessionRc before)) out =
      result) (ok : result.1 = OK) (rollback : result.2.rollback = 0) :
    c.ended = .completed 0 ∨ (queryFails = false ∧ stale before c = true) := by
  unfold executeNewOrderMysql at executed
  subst executed
  split at ok
  · cases ok
  · next answered =>
    rw [if_neg answered] at rollback
    cases queryFails with
    | true => cases ok
    | false =>
      cases verdict : c.sessionRc before with
      | none =>
        rw [verdict] at ok
        cases ok
      | some rc =>
        rw [verdict] at rollback
        obtain rfl : rc = 0 := rollback
        unfold CallResult.sessionRc at verdict
        cases ended : c.ended with
        | completed rc =>
          rw [ended] at verdict
          exact .inl (congrArg CallEnd.completed (Option.some_inj.mp verdict))
        | stopped =>
          rw [ended] at verdict
          rw [ended, not_and] at answered
          exact .inr ⟨rfl, decide_eq_true ⟨verdict, ended, answered rfl⟩⟩

theorem total_of_reports {c : CallResult} {selected : Option (Option Int)} {out : NewOrderOutput}
    {result : Int × NewOrderOutput} (executed : executeNewOrderMysql c selected out = result)
    (ok : result.1 = OK) (reports : Reports data c.sets) :
    result.2.totalAmount = result.2.amounts (c.sets.foldl takeSet (out, 0)).2 := by
  unfold executeNewOrderMysql at executed
  split at executed
  · subst executed
    cases ok
  · split at executed
    · subst executed
      exact takeSet_total reports
    · subst executed
      cases ok

theorem Session.execute_sound {s : Session} {fault : Option Nat} {queryFails : Bool}
    {out : NewOrderOutput}
    (fresh : (queryFails || !stale s.rc (MySql.call data fault rows)) = true)
    (priced : MySql.priced data rows = true) :
    (s.execute data rows fault queryFails out).Sound := by
  have completed (ok : (s.execute data rows fault queryFails out).code = OK)
      (rollback : (s.execute data rows fault queryFails out).output.rollback = 0) :
      (MySql.call data fault rows).ended = .completed 0 := by
    obtain completed | ⟨answered, again⟩ := ok_of_completed rfl ok rollback
    · exact completed
    · have again : stale s.rc (MySql.call data fault rows) = true := again
      rw [answered, again] at fresh
      cases fresh
  refine ⟨completed, fun commits => ?_⟩
  obtain ⟨ok, rollback⟩ := resultCode_newOrder commits
  exact (call_completed (completed ok rollback)).placed priced

theorem Session.step_sound {s s' : Session} {e : SessionEvent} (stepped : s.step e = some s')
    (sound : s.sound e = true) (h : ∀ d ∈ s.done, d.Sound) : ∀ d ∈ s'.done, d.Sound := by
  cases e with
  | reconnect =>
    obtain rfl := Option.some_inj.mp stepped
    exact h
  | newOrder data rows fault queryFails out =>
    obtain rfl := Option.some_inj.mp stepped
    rw [Session.sound, Bool.and_eq_true] at sound
    intro d mem
    obtain mem | mem := List.mem_append.mp mem
    · exact h d mem
    · obtain rfl := List.mem_singleton.mp mem
      exact execute_sound sound.2 sound.1

/-- In every run of New-Orders on a connection in which no error comes after a result set while
the session has the verdict of an order that was placed, and in which the lines whose items there
are have a price and a stock row. -/
theorem commits_complete (es : List SessionEvent) (s : Session)
    (ran : run Session.step { rc := none, done := [] } es = some s)
    (along : Along Session.step Session.sound { rc := none, done := [] } es = true) :
    ∀ d ∈ s.done, d.Sound :=
  run_invariant_along (fun _ _ _ stepped sound h => Session.step_sound stepped sound h) ran along
    fun _ mem => nomatch mem

end Call

/-! ## Two New-Orders of two lines -/

def pricedOrder : Database :=
  { oneOrder with item := [{ (default : Item) with iId := 1, iPrice := 3 }] }

def blank : NewOrderOutput where
  wTax := 0
  dTax := 0
  oId := 0
  cLast := ""
  cCredit := ""
  cDiscount := 0
  totalAmount := 0
  rollback := 0
  orderLine := fun _ =>
    { iPrice := 0, iName := "", sQuantity := 0, olAmount := 0, brandGeneric := 'G' }

/-- The second, in the rows that the first leaves, may end with an error after its first line. -/
def twoLines (fault : Option Nat) : List SessionEvent :=
  let rows := pricedOrder.rows
  [.newOrder (oneItem 1 2) rows none false blank,
   .newOrder (oneItem 1 2) (call (oneItem 1 2) none rows).rows fault false blank]

theorem commits_complete_twoLines : ∃ s,
    run Session.step { rc := none, done := [] } (twoLines none) = some s ∧
      ∀ d ∈ s.done, d.Sound := by
  have ran : (run Session.step { rc := none, done := [] } (twoLines none)).isSome := by
    decide
  obtain ⟨s, ran⟩ := Option.isSome_iff_exists.mp ran
  exact ⟨s, ran, commits_complete (twoLines none) s ran (by decide)⟩

/-- The second call ends after one of its two lines, and an order that was placed is reported. -/
theorem commits_incomplete : ¬ ∀ (es : List SessionEvent) (s : Session),
    run Session.step { rc := none, done := [] } es = some s → ∀ d ∈ s.done, d.Sound := by
  intro sound
  obtain ⟨s, ran, seen⟩ := Option.map_eq_some_iff.mp
    (by decide :
      (run Session.step { rc := none, done := [] } (twoLines (some 11))).map
          (fun s => s.done[1]?.map fun d => (d.code, d.output.rollback, d.call.ended)) =
        some (some (OK, 0, .stopped)))
  obtain ⟨d, second, seen⟩ := Option.map_eq_some_iff.mp seen
  obtain ⟨ok, rest⟩ := Prod.mk.injEq .. ▸ seen
  obtain ⟨rollback, stopped⟩ := Prod.mk.injEq .. ▸ rest
  have completed := (sound _ s ran d (List.mem_of_getElem? second)).completed ok rollback
  rw [stopped] at completed
  cases completed

end Dbt2.MySql
