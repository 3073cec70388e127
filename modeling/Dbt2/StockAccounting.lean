import Dbt2.ColumnTypes
import Dbt2.Effects
import Dbt2.Lib.Transition

/-!
# Stock accounting

What New-Orders do to the stock, over a run of committed transactions. A stock row stands for the
lines that it supplies: its totals for their number and quantities, and its quantity for what is
left, modulo what is filled up.

* `StockAccounted`: the columns of one row, given the lines added;
* `stock_accounted`: a run keeps every row accounted for, as long as each New-Order updates the
  rows that supply its lines, in all their columns, and these hold the numbers.
-/

namespace Dbt2

open Table Transition

/-- The lines that a stock row supplies. -/
def linesFrom (ls : List OrderLine) (stock : Int × Int) : List OrderLine :=
  ls.filter fun l => (l.olIId, l.olSupplyWId) = stock

def soldFrom (ls : List OrderLine) (stock : Int × Int) : Int :=
  ((linesFrom ls stock).map OrderLine.olQuantity).sum

def remoteFrom (ls : List OrderLine) (stock : Int × Int) : List OrderLine :=
  (linesFrom ls stock).filter fun l => l.olWId ≠ stock.2

structure StockAccounted (added : List OrderLine) (s s' : Stock) : Prop where
  key : s'.key = s.key
  ytd : s'.sYtd = s.sYtd + soldFrom added s.key
  orderCnt : s'.sOrderCnt = s.sOrderCnt + (linesFrom added s.key).length
  remoteCnt : s'.sRemoteCnt = s.sRemoteCnt + (remoteFrom added s.key).length
  quantity : s'.sQuantity ≡ s.sQuantity - soldFrom added s.key [ZMOD 91]
  untouched : linesFrom added s.key = [] → s' = s

/-- The rows of stock have changed as the lines added account for, and no others have. -/
def StockConserved (db db' : Database) : Prop :=
  ∃ added, db'.orderLine = db.orderLine ++ added ∧
    Rowwise (StockAccounted added) db.stock db'.stock

section Accounting

variable {ls ls' : List OrderLine} {stock : Int × Int} {db db' db'' : Database}

theorem linesFrom_append : linesFrom (ls ++ ls') stock = linesFrom ls stock ++ linesFrom ls' stock :=
  List.filter_append ..

theorem linesFrom_length : (linesFrom ls stock).length =
    (ls.map fun l => (l.olIId, l.olSupplyWId)).count stock := by
  unfold linesFrom
  rw [← List.countP_eq_length_filter, List.count, List.countP_map]
  apply List.countP_congr
  intro l _
  simp

theorem soldFrom_append : soldFrom (ls ++ ls') stock = soldFrom ls stock + soldFrom ls' stock := by
  unfold soldFrom
  rw [linesFrom_append, List.map_append, List.sum_append]

theorem remoteFrom_append :
    remoteFrom (ls ++ ls') stock = remoteFrom ls stock ++ remoteFrom ls' stock := by
  unfold remoteFrom
  rw [linesFrom_append, List.filter_append]

theorem StockAccounted.trans {s t u : Stock} (first : StockAccounted ls s t)
    (second : StockAccounted ls' t u) : StockAccounted (ls ++ ls') s u := by
  constructor
  · exact second.key.trans first.key
  · rw [second.ytd, first.ytd, first.key, soldFrom_append]
    ring
  · rw [second.orderCnt, first.orderCnt, first.key, linesFrom_append, List.length_append]
    push_cast
    ring
  · rw [second.remoteCnt, first.remoteCnt, first.key, remoteFrom_append, List.length_append]
    push_cast
    ring
  · have quantity := second.quantity
    rw [first.key] at quantity
    rw [soldFrom_append, ← sub_sub]
    exact quantity.trans (first.quantity.sub_right _)
  · intro none'
    rw [linesFrom_append] at none'
    obtain ⟨before, after⟩ := List.append_eq_nil_iff.mp none'
    rw [second.untouched (by rw [first.key]; exact after), first.untouched before]

/-- A row without lines, as it was. -/
theorem StockAccounted.same {s : Stock} (none' : linesFrom ls s.key = []) :
    StockAccounted ls s s := by
  constructor
  · rfl
  · simp [soldFrom, none']
  · simp [none']
  · simp [remoteFrom, none']
  · simp [soldFrom, none', Int.ModEq.refl]
  · exact fun _ => rfl

theorem StockConserved.refl (db : Database) : StockConserved db db := by
  refine ⟨[], (List.append_nil _).symm, ?_⟩
  apply List.forall₂_same.mpr
  intro s _
  exact .same rfl

theorem StockConserved.trans (first : StockConserved db db') (second : StockConserved db' db'') :
    StockConserved db db'' := by
  obtain ⟨ls, lines, rows⟩ := first
  obtain ⟨ls', lines', rows'⟩ := second
  refine ⟨ls ++ ls', ?_, ?_⟩
  · rw [lines', lines, List.append_assoc]
  · apply rowwise_trans rows rows'
    intro s t u before after
    exact before.trans after

end Accounting

/-! ## New-Order -/

section NewOrder

variable {E : Type} {code : NewOrderCode E} {data : NewOrderData} {start db db' : Database}

/-- The line updates a row in all its columns, whichever quantity it has read. -/
def Accounts (code : NewOrderCode E) (data : NewOrderData) (l : NoOrderLine) (s : Stock) : Prop :=
  ∀ sQuantity, takeStock code data l sQuantity s =
    { s with
      sQuantity := s.sQuantity - decrQuantity sQuantity l.olQuantity
      sYtd := s.sYtd + l.olQuantity
      sOrderCnt := s.sOrderCnt + 1
      sRemoteCnt := s.sRemoteCnt + if l.olSupplyWId ≠ data.wId then 1 else 0 }

theorem decrQuantity_modEq (sQuantity olQuantity : Int) :
    decrQuantity sQuantity olQuantity ≡ olQuantity [ZMOD 91] := by
  unfold decrQuantity
  split
  · exact Int.ModEq.refl olQuantity
  · exact Int.modEq_iff_dvd.mpr ⟨1, by ring⟩

theorem takeStock_accounted {l : NoOrderLine} {s : Stock} (accounts : Accounts code data l s)
    (here : s.key = (l.olIId, l.olSupplyWId)) (sQuantity : Int) {row : OrderLine}
    (item : row.olIId = l.olIId) (supply : row.olSupplyWId = l.olSupplyWId)
    (quantity : row.olQuantity = l.olQuantity) (home : row.olWId = data.wId) :
    StockAccounted [row] s (takeStock code data l sQuantity s) := by
  have supplied : linesFrom [row] s.key = [row] := by
    simp [linesFrom, here, item, supply]
  have sold : soldFrom [row] s.key = l.olQuantity := by
    simp [soldFrom, supplied, quantity]
  have sWId : s.key.2 = l.olSupplyWId := by rw [here]
  rw [accounts]
  constructor
  · rfl
  · rw [sold]
  · rw [supplied]
    rfl
  · unfold remoteFrom
    rw [supplied, sWId]
    by_cases remote : l.olSupplyWId = data.wId
    · simp [home, remote]
    · simp [home, remote, Ne.symm remote]
  · rw [sold]
    exact (decrQuantity_modEq sQuantity l.olQuantity).sub_left _
  · intro none'
    rw [supplied] at none'
    cases none'

theorem newOrderLine_conserved {oId : Int} {i : Nat} {r : OrderLineResult}
    (supply : code.stockWarehouse data.wId (data.line i).olSupplyWId = (data.line i).olSupplyWId)
    (accounts : ∀ s ∈ db.stock, s.key = ((data.line i).olIId, (data.line i).olSupplyWId) →
      Accounts code data (data.line i) s)
    (h : newOrderLine code data start oId i db = .ok (db', r)) : StockConserved db db' := by
  obtain ⟨stock, olAmount, olDistInfo, -, rfl⟩ := newOrderLine_effect h
  refine ⟨[orderLineRow code data oId i olAmount olDistInfo], rfl, ?_⟩
  rw [supply]
  apply rowwise_update
  · intro s mem here
    have key := of_decide_eq_true here
    exact takeStock_accounted (accounts s mem key) key _ rfl rfl rfl rfl
  · intro s _ other
    apply StockAccounted.same
    have elsewhere : ((data.line i).olIId, (data.line i).olSupplyWId) ≠ s.key :=
      fun is => of_decide_eq_false other is.symm
    simp [linesFrom, orderLineRow, elsewhere]

/-- The stock row of a line holds numbers that a `REAL` holds after the line as well. -/
def lineFits (data : NewOrderData) (i : Nat) (db : Database) : Bool :=
  let l := data.line i
  ∀ s ∈ db.stock, s.key = (l.olIId, l.olSupplyWId) →
    s.sQuantity.natAbs + l.olQuantity.natAbs + 91 < 2 ^ 24 ∧
      (s.sOrderCnt + 1).natAbs < 2 ^ 24 ∧
      s.sRemoteCnt.natAbs < 2 ^ 24 ∧ (s.sRemoteCnt + 1).natAbs < 2 ^ 24

/-- Every line fits, given the lines before. -/
def linesFit (code : NewOrderCode E) (data : NewOrderData) (db : Database) : Bool :=
  (db.selectDistrict data.wId data.dId).all fun district =>
    Fallible.roundsMeet (newOrderLine code data db district.dNextOId) (lineFits data) data.oOlCnt
      (ordered data district.dNextOId db)

theorem newOrder_conserved {r : NewOrderResult}
    (supply : ∀ i < data.oOlCnt, code.stockWarehouse data.wId (data.line i).olSupplyWId =
      (data.line i).olSupplyWId)
    (accounts : ∀ i t, lineFits data i t → ∀ s ∈ t.stock,
      s.key = ((data.line i).olIId, (data.line i).olSupplyWId) → Accounts code data (data.line i) s)
    (fit : linesFit code data db) (h : newOrder code data db = .ok (db', r)) :
    StockConserved db db' := by
  obtain ⟨district, opening, -, loop⟩ := newOrder_opened h
  have opened : StockConserved db (ordered data district.dNextOId db) := StockConserved.refl db
  have meet : Fallible.roundsMeet (newOrderLine code data db district.dNextOId) (lineFits data)
      data.oOlCnt (ordered data district.dNextOId db) := by
    simpa [linesFit, opening.found] using fit
  have round (i : Nat) (t t' : Database) (r : OrderLineResult) (bound : i < data.oOlCnt)
      (ran : newOrderLine code data db district.dNextOId i t = .ok (t', r))
      (fits : lineFits data i t) (before : StockConserved db t) : StockConserved db t' :=
    before.trans (newOrderLine_conserved (supply i bound) (accounts i t fits) ran)
  exact Fallible.rounds_invariant_along round loop meet opened

/-- Where the numbers fit, a row is stored as it was computed. -/
theorem storing_accounts {l : NoOrderLine} {s : Stock} (accounts : Accounts code data l s)
    (quantity : s.sQuantity.natAbs + l.olQuantity.natAbs + 91 < 2 ^ 24)
    (orderCnt : (s.sOrderCnt + 1).natAbs < 2 ^ 24)
    (remoteCnt : s.sRemoteCnt.natAbs < 2 ^ 24 ∧ (s.sRemoteCnt + 1).natAbs < 2 ^ 24) :
    Accounts code.storing data l s := by
  intro sQuantity
  have left : (s.sQuantity - decrQuantity sQuantity l.olQuantity).natAbs < 2 ^ 24 := by
    unfold decrQuantity
    split <;> omega
  have remote : (s.sRemoteCnt + if l.olSupplyWId ≠ data.wId then 1 else 0).natAbs < 2 ^ 24 := by
    split
    · exact remoteCnt.2
    · simpa using remoteCnt.1
  have stored : takeStock code.storing data l sQuantity s =
      (takeStock code data l sQuantity s).stored := rfl
  rw [stored, accounts]
  simp only [Stock.stored, real_eq left, real_eq orderCnt, real_eq remote]

end NewOrder

/-! ## Runs -/

namespace Backend

/-- A committed New-Order, with rows as the columns keep them. -/
def newOrderStep (b : Backend) (db : Database) (data : NewOrderData) : Option Database :=
  match b with
  | .nonsp => b.newOrder data db
  | .cockroach => committed (Dbt2.newOrder Cockroach.storedNewOrderCode data db)
  | .pgsql => committed (Pgsql.storedNewOrder data db)

/-- What a backend does not get wrong: `Nonsp` counts nothing, `Cockroach` looks for the row in the
home warehouse, and either of the others needs numbers that its columns hold. -/
def accountsFor (b : Backend) (db : Database) (data : NewOrderData) : Bool :=
  match b with
  | .nonsp => data.oOlCnt = 0
  | .cockroach =>
    (∀ l ∈ data.lines, l.olSupplyWId = data.wId) ∧ linesFit Cockroach.storedNewOrderCode data db
  | .pgsql => linesFit Pgsql.storedNewOrderCode data db

end Backend

theorem newOrderStep_conserved {b : Backend} {db db' : Database} {data : NewOrderData}
    (stepped : b.newOrderStep db data = some db') (good : b.accountsFor db data) :
    StockConserved db db' := by
  cases b with
  | nonsp =>
    obtain ⟨r, ran⟩ := committed_eq_some.mp stepped
    have none' : data.oOlCnt = 0 := of_decide_eq_true good
    obtain ⟨district, -, -, loop⟩ := newOrder_opened (Fallible.mapError_eq_ok.mp ran)
    rw [none'] at loop
    obtain ⟨rfl, -⟩ := Prod.mk.inj (Except.ok.inj loop)
    exact StockConserved.refl db
  | cockroach =>
    obtain ⟨r, ran⟩ := committed_eq_some.mp stepped
    obtain ⟨home, fit⟩ := of_decide_eq_true good
    refine newOrder_conserved ?_ ?_ fit ran
    · intro i bound
      exact (home _ (List.mem_map_of_mem (List.mem_range.mpr bound))).symm
    · intro i t fits s mem key
      obtain ⟨quantity, orderCnt, remoteCnt⟩ := of_decide_eq_true fits s mem key
      exact storing_accounts (fun _ => rfl) quantity orderCnt remoteCnt
  | pgsql =>
    obtain ⟨r, ran⟩ := committed_eq_some.mp stepped
    unfold Pgsql.storedNewOrder at ran
    split at ran
    · cases ran
    · refine newOrder_conserved (fun _ _ => rfl) ?_ good ran
      intro i t fits s mem key
      obtain ⟨quantity, orderCnt, remoteCnt⟩ := of_decide_eq_true fits s mem key
      have exact' : Accounts Pgsql.newOrderCode data (data.line i) s := fun _ => rfl
      exact storing_accounts exact' quantity orderCnt remoteCnt

/-- Committed New-Orders keep every stock row accounted for, where each is one that its backend
accounts for in the state it finds. -/
theorem stock_accounted {b : Backend} {db db' : Database} {datas : List NewOrderData}
    (ran : run b.newOrderStep db datas = some db')
    (good : Along b.newOrderStep b.accountsFor db datas) : StockConserved db db' := by
  refine run_invariant_along ?_ ran good (StockConserved.refl db)
  intro s data t stepped accounts before
  exact before.trans (newOrderStep_conserved stepped accounts)

theorem stock_accounted_twice : ∃ db',
    run (Backend.newOrderStep .cockroach) oneOrder [oneItem 1 2, oneItem 1 1] = some db' ∧
      StockConserved oneOrder db' := by
  have accepted : (run (Backend.newOrderStep .cockroach) oneOrder
      [oneItem 1 2, oneItem 1 1]).isSome = true := by
    decide +kernel
  obtain ⟨db', ran⟩ := Option.isSome_iff_exists.mp accepted
  exact ⟨db', ran, stock_accounted ran (by decide +kernel)⟩

/-- SQLite sells five of an item, and counts none. -/
theorem stock_not_accounted : ¬ ∀ (b : Backend) (db db' : Database) (datas : List NewOrderData),
    run b.newOrderStep db datas = some db' → StockConserved db db' := by
  intro conserved
  let sold := (run (Backend.newOrderStep .nonsp) oneOrder [oneItem 1 1]).map fun db =>
    (db.stock.map Stock.sOrderCnt, (db.orderLine.drop 1).map fun l => (l.olIId, l.olSupplyWId))
  have outcome : sold = some ([0], [(1, 1)]) := by decide
  obtain ⟨db', ran, both⟩ := Option.map_eq_some_iff.mp outcome
  obtain ⟨counts, lines⟩ := Prod.mk.inj both
  obtain ⟨added, appended, rows⟩ := conserved _ _ db' _ ran
  have one : added.map (fun l => (l.olIId, l.olSupplyWId)) = [(1, 1)] := by
    rw [appended] at lines
    exact lines
  have supplied : (linesFrom added (1, 1)).length = 1 := by
    rw [linesFrom_length, one]
    decide
  cases stock : db'.stock with
  | nil =>
    rw [stock] at counts
    cases counts
  | cons s' rest =>
    rw [stock] at counts rows
    have orderCnt : s'.sOrderCnt = 0 := (List.cons.inj counts).1
    have accounted := (List.forall₂_cons.mp rows).1.orderCnt
    rw [orderCnt] at accounted
    change (0 : Int) = 0 + (linesFrom added (1, 1)).length at accounted
    omega

end Dbt2
