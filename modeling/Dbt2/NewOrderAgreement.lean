import Dbt2.Effects
import Dbt2.Plpgsql

/-!
# Two New-Order procedures

The procedures in C and in PL/pgSQL, on the same database. They insert the same rows, if the price
as it is printed and the price as it is kept give the same amounts, and they take the same
quantities off the stock if they decide alike where it is filled up: in C by the quantity before the
order, in PL/pgSQL by what the lines before have left.

* `staleLeft`, `freshLeft`: what lines leave on a stock row, either way of deciding;
* `placed`: what either procedure leaves, given one of them;
* `plpgsql_newOrder`, `pgsql_newOrder`: when each accepts an order;
* `newOrders_agree`: when one may stand for the other.
-/

namespace Dbt2

open Table Fallible

/-! ## Taking quantities off a stock row -/

/-- What the lines leave if each decides by the quantity before the order. -/
def staleLeft (sQuantity : Int) (qs : List Int) : Int :=
  sQuantity - (qs.map (decrQuantity sQuantity)).sum

/-- What they leave if each decides by what is left. -/
def freshLeft (sQuantity : Int) (qs : List Int) : Int :=
  qs.foldl (fun left q => left - decrQuantity left q) sQuantity

/-- How often the quantity before the order is found too low. -/
def staleRefills (sQuantity : Int) (qs : List Int) : Nat := qs.countP fun q => sQuantity < q + 10

/-- How often what is left is found too low. -/
def freshRefills : Int → List Int → Nat
  | _, [] => 0
  | sQuantity, q :: qs =>
    (if sQuantity < q + 10 then 1 else 0) + freshRefills (sQuantity - decrQuantity sQuantity q) qs

theorem decrQuantity_eq (sQuantity q : Int) :
    decrQuantity sQuantity q = q - if sQuantity < q + 10 then 91 else 0 := by
  unfold decrQuantity
  split
  · rw [if_neg (by omega), sub_zero]
  · rw [if_pos (by omega)]

theorem staleLeft_eq (sQuantity : Int) (qs : List Int) :
    staleLeft sQuantity qs = sQuantity - qs.sum + 91 * staleRefills sQuantity qs := by
  unfold staleLeft
  induction qs with
  | nil => simp [staleRefills]
  | cons q qs ih =>
    rw [List.map_cons, List.sum_cons, List.sum_cons, decrQuantity_eq]
    unfold staleRefills at ih ⊢
    by_cases low : sQuantity < q + 10
    · rw [List.countP_cons_of_pos (by simpa using low), if_pos low]
      push_cast
      omega
    · rw [List.countP_cons_of_neg (by simpa using low), if_neg low]
      omega

theorem freshLeft_eq (sQuantity : Int) (qs : List Int) :
    freshLeft sQuantity qs = sQuantity - qs.sum + 91 * freshRefills sQuantity qs := by
  induction qs generalizing sQuantity with
  | nil => simp [freshLeft, freshRefills]
  | cons q qs ih =>
    have rest : freshLeft sQuantity (q :: qs) =
        freshLeft (sQuantity - decrQuantity sQuantity q) qs := rfl
    rw [rest, ih, freshRefills, List.sum_cons, decrQuantity_eq]
    split
    · push_cast
      ring
    · push_cast
      ring

theorem left_eq_iff (sQuantity : Int) (qs : List Int) :
    staleLeft sQuantity qs = freshLeft sQuantity qs ↔
      staleRefills sQuantity qs = freshRefills sQuantity qs := by
  rw [staleLeft_eq, freshLeft_eq]
  omega

/-- The most that lines can move a quantity by. -/
def reach (qs : List Int) : Nat := (qs.map fun q => q.natAbs + 91).sum

theorem reach_append (qs qs' : List Int) : reach (qs ++ qs') = reach qs + reach qs' := by
  simp [reach]

theorem decrQuantity_bound (sQuantity q : Int) :
    (decrQuantity sQuantity q).natAbs ≤ q.natAbs + 91 := by
  unfold decrQuantity
  split <;> omega

theorem staleLeft_bound (sQuantity : Int) (qs : List Int) :
    (staleLeft sQuantity qs).natAbs ≤ sQuantity.natAbs + reach qs := by
  have sum (qs : List Int) : (qs.map (decrQuantity sQuantity)).sum.natAbs ≤ reach qs := by
    induction qs with
    | nil => simp [reach]
    | cons q qs ih =>
      have first := decrQuantity_bound sQuantity q
      simp only [List.map_cons, List.sum_cons, reach] at ih ⊢
      omega
  have all := sum qs
  unfold staleLeft
  omega

theorem freshLeft_bound (sQuantity : Int) (qs : List Int) :
    (freshLeft sQuantity qs).natAbs ≤ sQuantity.natAbs + reach qs := by
  induction qs generalizing sQuantity with
  | nil => simp [freshLeft, reach]
  | cons q qs ih =>
    have first := decrQuantity_bound sQuantity q
    have rest : (freshLeft sQuantity (q :: qs)).natAbs ≤
        (sQuantity - decrQuantity sQuantity q).natAbs + reach qs := ih _
    simp only [reach, List.map_cons, List.sum_cons] at rest ⊢
    omega

/-- A quantity between 10 and 100. -/
def InRange (sQuantity : Int) : Prop := 10 ≤ sQuantity ∧ sQuantity ≤ 100

theorem decrQuantity_inRange {sQuantity q : Int} (range : InRange sQuantity)
    (quantity : 1 ≤ q ∧ q ≤ 10) : InRange (sQuantity - decrQuantity sQuantity q) := by
  obtain ⟨low, high⟩ := range
  unfold decrQuantity
  split
  · constructor <;> omega
  · constructor <;> omega

theorem freshLeft_inRange {sQuantity : Int} {qs : List Int} (range : InRange sQuantity)
    (quantities : ∀ q ∈ qs, 1 ≤ q ∧ q ≤ 10) : InRange (freshLeft sQuantity qs) := by
  induction qs generalizing sQuantity with
  | nil => exact range
  | cons q qs ih =>
    apply ih
    · exact decrQuantity_inRange range (quantities q List.mem_cons_self)
    · intro q' mem
      exact quantities q' (List.mem_cons_of_mem q mem)

theorem staleLeft_append (sQuantity : Int) (qs : List Int) (q : Int) :
    staleLeft sQuantity (qs ++ [q]) = staleLeft sQuantity qs - decrQuantity sQuantity q := by
  simp [staleLeft, sub_sub]

theorem freshLeft_append (sQuantity : Int) (qs : List Int) (q : Int) :
    freshLeft sQuantity (qs ++ [q]) =
      freshLeft sQuantity qs - decrQuantity (freshLeft sQuantity qs) q := by
  simp [freshLeft]

/-! ## What an order leaves -/

section Placed

variable (data : NewOrderData) (db : Database) (amount : ℚ → Int → ℚ)

/-- The key of the stock row that a line takes from. -/
def NewOrderData.stockKey (i : Nat) : Int × Int := ((data.line i).olIId, (data.line i).olSupplyWId)

/-- The quantities that the first `k` lines order from a stock row. -/
def NewOrderData.quantities (k : Nat) (stock : Int × Int) : List Int :=
  ((List.range k).filter fun i => data.stockKey i = stock).map fun i => (data.line i).olQuantity

def placedLine (oId : Int) (i : Nat) : OrderLine :=
  Plpgsql.orderLineRow data oId i
    (((db.selectItem (data.line i).olIId).map fun item =>
      amount item.iPrice (data.line i).olQuantity).getD 0)
    ((db.selectStock (data.line i).olIId (data.line i).olSupplyWId).map
      fun s => s.sDist.get data.dist)

/-- What a line leaves of a count of lines, or of those of them that are remote. -/
def counted (counts : Prop) [Decidable counts] (n : Int) : Int := real (n + if counts then 1 else 0)

/-- A stock row after the first `k` lines. -/
def sold (left : Int → List Int → Int) (k : Nat) (s : Stock) : Stock :=
  let qs := data.quantities k s.key
  { s with
    sQuantity := left s.sQuantity qs
    sYtd := s.sYtd + qs.sum
    sOrderCnt := (counted True)^[qs.length] s.sOrderCnt
    sRemoteCnt := (counted (s.sWId ≠ data.wId))^[qs.length] s.sRemoteCnt }

/-- A line takes its quantity and leaves `sQuantity`. -/
def leaving (k : Nat) (sQuantity : Int) (s : Stock) : Stock :=
  { s with
    sQuantity
    sYtd := s.sYtd + (data.line k).olQuantity
    sOrderCnt := counted True s.sOrderCnt
    sRemoteCnt := counted ((data.line k).olSupplyWId ≠ data.wId) s.sRemoteCnt }

/-- The database after the first `k` lines. -/
def placed (left : Int → List Int → Int) (oId : Int) (k : Nat) : Database :=
  { ordered data oId db with
    stock := db.stock.map (sold data left k)
    orderLine := db.orderLine ++ (List.range k).map (placedLine data db amount oId) }

end Placed

section Lines

variable {data : NewOrderData} {db : Database} {amount : ℚ → Int → ℚ}
  {left : Int → List Int → Int} {oId : Int} {k : Nat}

theorem sold_key (s : Stock) : (sold data left k s).key = s.key := rfl

theorem quantities_succ (stock : Int × Int) : data.quantities (k + 1) stock =
    data.quantities k stock ++
      if data.stockKey k = stock then [(data.line k).olQuantity] else [] := by
  unfold NewOrderData.quantities
  rw [List.range_succ, List.filter_append, List.map_append]
  by_cases here : data.stockKey k = stock
  · simp [here]
  · simp [here]

/-- What a line takes off a stock row that it is keyed by. -/
def Takes (data : NewOrderData) (left : Int → List Int → Int) (k : Nat) (take : Stock → Stock)
    (s : Stock) : Prop :=
  take (sold data left k s) = leaving data k
    (left s.sQuantity (data.quantities k s.key ++ [(data.line k).olQuantity])) (sold data left k s)

/-- A line takes from its own stock row and no other. -/
theorem sold_succ {s : Stock} {take : Stock → Stock}
    (takes : s.key = data.stockKey k → Takes data left k take s) :
    (if s.key = data.stockKey k then take (sold data left k s) else sold data left k s) =
      sold data left (k + 1) s := by
  by_cases here : s.key = data.stockKey k
  · have supply : s.sWId = (data.line k).olSupplyWId := congrArg Prod.snd here
    rw [if_pos here, takes here]
    unfold sold leaving
    rw [quantities_succ, if_pos here.symm]
    simp only [List.sum_append, List.sum_singleton, List.length_append, List.length_singleton,
      Function.iterate_succ_apply', supply]
    congr 1
    ring
  · rw [if_neg here]
    unfold sold
    rw [quantities_succ, if_neg (Ne.symm here), List.append_nil]

/-- The key of a line is not in use. -/
def NewOrderData.lineFree (data : NewOrderData) (db : Database) (oId : Int) (k : Nat) : Prop :=
  ((data.wId, data.dId, oId), (k : Int) + 1) ∉ db.orderLine.map OrderLine.key

theorem placed_lineFree : (placedLine data db amount oId k).key ∉
    (placed data db amount left oId k).orderLine.map OrderLine.key ↔ data.lineFree db oId k := by
  unfold placed
  rw [List.map_append, List.mem_append, not_or]
  apply and_iff_left
  intro mem
  obtain ⟨l, there, same⟩ := List.mem_map.mp mem
  obtain ⟨i, earlier, rfl⟩ := List.mem_map.mp there
  have bound : i < k := List.mem_range.mp earlier
  have number : (i : Int) + 1 = k + 1 := congrArg Prod.snd same
  omega

theorem sold_update {take : Stock → Stock}
    (takes : ∀ s ∈ db.stock, s.key = data.stockKey k → Takes data left k take s) :
    update (fun s => s.key = data.stockKey k) take (db.stock.map (sold data left k)) =
      db.stock.map (sold data left (k + 1)) := by
  unfold update
  rw [List.map_map]
  apply List.map_congr_left
  intro s mem
  rw [← sold_succ (takes s mem)]
  by_cases here : s.key = data.stockKey k
  · simp [here, sold_key]
  · simp [here, sold_key]

/-- The database while line `k` is placed, its stock updated. -/
def taken (data : NewOrderData) (db : Database) (amount : ℚ → Int → ℚ)
    (left : Int → List Int → Int) (oId : Int) (k : Nat) : Database :=
  { placed data db amount left oId k with stock := db.stock.map (sold data left (k + 1)) }

theorem placed_updateStock {take : Stock → Stock}
    (takes : ∀ s ∈ db.stock, s.key = data.stockKey k → Takes data left k take s) :
    (placed data db amount left oId k).updateStock (data.line k).olIId (data.line k).olSupplyWId
      take = taken data db amount left oId k :=
  congrArg (fun stock => { placed data db amount left oId k with stock }) (sold_update takes)

theorem taken_insert (free : data.lineFree db oId k) :
    (taken data db amount left oId k).insertOrderLine (placedLine data db amount oId k) =
      some (placed data db amount left oId (k + 1)) := by
  have accepted : insert OrderLine.key (placed data db amount left oId k).orderLine
      (placedLine data db amount oId k) =
        some ((placed data db amount left oId k).orderLine ++ [placedLine data db amount oId k]) :=
    insert_eq_some.mpr ⟨placed_lineFree.mpr free, rfl⟩
  unfold Database.insertOrderLine taken
  simp only [accepted, Option.map_some]
  unfold placed
  rw [List.range_succ, List.map_append, ← List.append_assoc]
  rfl

theorem taken_refused (used : ¬ data.lineFree db oId k) :
    (taken data db amount left oId k).insertOrderLine (placedLine data db amount oId k) = none := by
  have there : ¬ (placedLine data db amount oId k).key ∉
      (placed data db amount left oId k).orderLine.map OrderLine.key := mt placed_lineFree.mp used
  have refused : insert OrderLine.key (placed data db amount left oId k).orderLine
      (placedLine data db amount oId k) = none := if_pos (not_not.mp there)
  unfold Database.insertOrderLine taken
  simp only [refused, Option.map_none]

theorem placed_zero (nothing : ∀ sQuantity, left sQuantity [] = sQuantity) :
    placed data db amount left oId 0 = ordered data oId db := by
  have rows : db.stock.map (sold data left 0) = db.stock := by
    conv_rhs => rw [← List.map_id db.stock]
    apply List.map_congr_left
    intro s _
    simp [sold, NewOrderData.quantities, nothing]
  unfold placed
  rw [rows, List.range_zero, List.map_nil, List.append_nil]
  rfl

end Lines

/-! ## One line -/

section Line

variable {data : NewOrderData} {db : Database} {oId : Int} {k : Nat}

/-- The item of a line exists and its key is not in use. -/
def NewOrderData.placeable (data : NewOrderData) (db : Database) (oId : Int) (k : Nat) : Prop :=
  (db.selectItem (data.line k).olIId).isSome ∧ data.lineFree db oId k

/-- The stock row of each existing item is there, once. -/
structure Stocked (data : NewOrderData) (db : Database) : Prop where
  keys : (db.stock.map Stock.key).Nodup
  found : ∀ k < data.oOlCnt, (db.selectItem (data.line k).olIId).isSome →
    (db.selectStock (data.line k).olIId (data.line k).olSupplyWId).isSome

theorem selectStock_unique {iId wId : Int} {s t : Stock} (keys : (db.stock.map Stock.key).Nodup)
    (found : db.selectStock iId wId = some s) (mem : t ∈ db.stock) (key : t.key = (iId, wId)) :
    t = s := by
  have there : s ∈ db.stock := List.mem_of_find?_eq_some found
  have same : s.key = (iId, wId) := by simpa using List.find?_some found
  exact List.inj_on_of_nodup_map keys mem there (key.trans same.symm)

theorem placed_selectStock {amount : ℚ → Int → ℚ} {left : Int → List Int → Int} (iId wId : Int) :
    (placed data db amount left oId k).selectStock iId wId =
      (db.selectStock iId wId).map (sold data left k) := by
  unfold Database.selectStock placed
  rw [List.find?_map]
  rfl

/-- Whatever the lines take, quantities stay below a million, where a `REAL` is exact and its text
has no exponent. -/
def NewOrderData.Plain (data : NewOrderData) (db : Database) : Prop :=
  ∀ s ∈ db.stock, s.sQuantity.natAbs + reach (data.quantities data.oOlCnt s.key) < 10 ^ 6

instance : Decidable (data.Plain db) := inferInstanceAs (Decidable (∀ s ∈ db.stock, _ < _))

theorem quantities_reach {n : Nat} (below : k ≤ n) (stock : Int × Int) :
    reach (data.quantities k stock) ≤ reach (data.quantities n stock) := by
  induction below with
  | refl => exact le_rfl
  | step _ ih =>
    rw [quantities_succ, reach_append]
    omega

/-- The quantity of a stock row before the order, what line `k` takes of it and what it leaves. -/
structure PlainLine (data : NewOrderData) (k : Nat) (s : Stock) : Prop where
  start : s.sQuantity.natAbs < 10 ^ 6
  takes : (data.line k).olQuantity.natAbs + 91 < 10 ^ 6
  reach : s.sQuantity.natAbs +
    reach (data.quantities k s.key ++ [(data.line k).olQuantity]) < 10 ^ 6

theorem NewOrderData.Plain.line (plain : data.Plain db) (bound : k < data.oOlCnt) {s : Stock}
    (mem : s ∈ db.stock) (key : s.key = data.stockKey k) : PlainLine data k s := by
  have small := plain s mem
  have more := @quantities_reach data (k + 1) _ bound s.key
  rw [quantities_succ, if_pos key.symm] at more
  have last : reach [(data.line k).olQuantity] = (data.line k).olQuantity.natAbs + 91 := by
    simp [reach]
  have both := reach_append (data.quantities k s.key) [(data.line k).olQuantity]
  constructor <;> omega

theorem PlainLine.decr {s : Stock} (h : PlainLine data k s) (sQuantity : Int) :
    inReal (decrQuantity sQuantity (data.line k).olQuantity) =
      decrQuantity sQuantity (data.line k).olQuantity := by
  have most := decrQuantity_bound sQuantity (data.line k).olQuantity
  have takes := h.takes
  exact inReal_eq (by omega)

theorem freshLeft_takes (keys : (db.stock.map Stock.key).Nodup) (plain : data.Plain db)
    (bound : k < data.oOlCnt) {s r : Stock}
    (found : db.selectStock (data.line k).olIId (data.line k).olSupplyWId = some s)
    (mem : r ∈ db.stock) (key : r.key = data.stockKey k) :
    Takes data freshLeft k (fun t => (Plpgsql.updateStock data (sold data freshLeft k s).sQuantity
      (inReal (decrQuantity (sold data freshLeft k s).sQuantity (data.line k).olQuantity))
      (data.line k) t).stored) r := by
  obtain rfl := selectStock_unique keys found mem key
  have line := plain.line bound mem key
  have after := freshLeft_bound r.sQuantity (data.quantities k r.key ++ [(data.line k).olQuantity])
  have reach := line.reach
  have left : real (freshLeft r.sQuantity (data.quantities k r.key ++ [(data.line k).olQuantity])) =
      freshLeft r.sQuantity (data.quantities k r.key ++ [(data.line k).olQuantity]) :=
    real_eq (by omega)
  unfold Takes leaving
  rw [line.decr, ← left, freshLeft_append]
  rfl

theorem staleLeft_takes (keys : (db.stock.map Stock.key).Nodup) (plain : data.Plain db)
    (bound : k < data.oOlCnt) {s r : Stock}
    (found : db.selectStock (data.line k).olIId (data.line k).olSupplyWId = some s)
    (mem : r ∈ db.stock) (key : r.key = data.stockKey k) :
    Takes data staleLeft k
      (takeStock Pgsql.storedNewOrderCode data (data.line k) (atoiReal s.sQuantity)) r := by
  obtain rfl := selectStock_unique keys found mem key
  have line := plain.line bound mem key
  have after := staleLeft_bound r.sQuantity (data.quantities k r.key ++ [(data.line k).olQuantity])
  have reach := line.reach
  have left : real (staleLeft r.sQuantity (data.quantities k r.key ++ [(data.line k).olQuantity])) =
      staleLeft r.sQuantity (data.quantities k r.key ++ [(data.line k).olQuantity]) :=
    real_eq (by omega)
  unfold Takes leaving takeStock
  rw [atoiReal_eq line.start, ← left, staleLeft_append]
  rfl

theorem plpgsql_newOrderLine (header : Plpgsql.Header) {i : Nat} {item : Item} {s : Stock}
    (ordered : db.selectItem (data.line i).olIId = some item)
    (found : db.selectStock (data.line i).olIId (data.line i).olSupplyWId = some s) :
    ∃ row, Plpgsql.newOrderLine data header i db =
      (orFail ((db.updateStock (data.line i).olIId (data.line i).olSupplyWId fun t =>
          (Plpgsql.updateStock data s.sQuantity
            (inReal (decrQuantity s.sQuantity (data.line i).olQuantity))
            (data.line i) t).stored).insertOrderLine
        (Plpgsql.orderLineRow data header.oId i
          (Plpgsql.olAmount item.iPrice (data.line i).olQuantity)
          (some (s.sDist.get data.dist)))) Pgsql.uniqueViolation).map fun db' => (db', row) := by
  unfold Plpgsql.newOrderLine
  simp only [ordered, found]
  exact ⟨_, rfl⟩

variable (db oId) in
theorem pgsql_newOrderLine {start : Database} {i : Nat} {item : Item} {s : Stock}
    (used : (data.line i).olIId ≠ 0) (ordered : start.selectItem (data.line i).olIId = some item)
    (found : start.selectStock (data.line i).olIId (data.line i).olSupplyWId = some s) :
    ∃ result, newOrderLine Pgsql.storedNewOrderCode data start oId i db =
      (orFail ((db.updateStock (data.line i).olIId (data.line i).olSupplyWId
        (takeStock Pgsql.storedNewOrderCode data (data.line i)
          (atoiReal s.sQuantity))).insertOrderLine
        (orderLineRow Pgsql.storedNewOrderCode data oId i
          (Pgsql.olAmount item.iPrice (data.line i).olQuantity) (s.sDist.get data.dist)))
          Pgsql.uniqueViolation).map fun db' => (db', result) := by
  have kept : Pgsql.storedNewOrderCode.unused (data.line i).olIId = false := by
    simpa [Pgsql.storedNewOrderCode, NewOrderCode.storing, Pgsql.newOrderCode] using used
  have reads : (if Pgsql.storedNewOrderCode.snapshot = true then start else db) = start := rfl
  have supplied : Pgsql.storedNewOrderCode.stockWarehouse data.wId (data.line i).olSupplyWId =
      (data.line i).olSupplyWId := rfl
  unfold newOrderLine
  simp only [kept, Bool.false_eq_true, if_false, reads, supplied, ordered, found]
  exact ⟨_, rfl⟩

theorem plpgsql_places (stocked : Stocked data db) (plain : data.Plain db) (bound : k < data.oOlCnt)
    (header : Plpgsql.Header) :
    (data.placeable db header.oId k ∧ ∃ t a,
      Plpgsql.newOrderLine data header k
          (placed data db Plpgsql.olAmount freshLeft header.oId k) = .ok (t, a) ∧
        t = placed data db Plpgsql.olAmount freshLeft header.oId (k + 1)) ∨
      (¬ data.placeable db header.oId k ∧ ∃ e,
        Plpgsql.newOrderLine data header k
          (placed data db Plpgsql.olAmount freshLeft header.oId k) = .error e) := by
  cases item : db.selectItem (data.line k).olIId with
  | none =>
    right
    constructor
    · intro placeable
      simpa [item] using placeable.1
    · refine ⟨Plpgsql.itemNotFound, ?_⟩
      have missing : (placed data db Plpgsql.olAmount freshLeft header.oId k).selectItem
          (data.line k).olIId = none := item
      unfold Plpgsql.newOrderLine
      simp only [missing]
      rfl
  | some item' =>
    have there : (db.selectItem (data.line k).olIId).isSome := Option.isSome_of_eq_some item
    have items : (placed data db Plpgsql.olAmount freshLeft header.oId k).selectItem
        (data.line k).olIId = some item' := item
    obtain ⟨s, found⟩ := Option.isSome_iff_exists.mp (stocked.found k bound there)
    obtain ⟨row, same⟩ := plpgsql_newOrderLine header items
      (by rw [placed_selectStock, found, Option.map_some])
    have line : Plpgsql.orderLineRow data header.oId k
        (Plpgsql.olAmount item'.iPrice (data.line k).olQuantity)
        (some ((sold data freshLeft k s).sDist.get data.dist)) =
          placedLine data db Plpgsql.olAmount header.oId k := by
      simp [placedLine, item, found, sold]
    rw [line, placed_updateStock fun r mem key =>
      freshLeft_takes stocked.keys plain bound found mem key] at same
    by_cases free : data.lineFree db header.oId k
    · left
      rw [taken_insert free] at same
      exact ⟨⟨there, free⟩, _, row, same, rfl⟩
    · right
      rw [taken_refused free] at same
      exact ⟨fun placeable => free placeable.2, _, same⟩

variable (oId) in
theorem pgsql_places (stocked : Stocked data db) (plain : data.Plain db) (bound : k < data.oOlCnt) :
    (((data.line k).olIId ≠ 0 ∧ data.placeable db oId k) ∧ ∃ t a,
      newOrderLine Pgsql.storedNewOrderCode data db oId k
          (placed data db Pgsql.olAmount staleLeft oId k) = .ok (t, a) ∧
        t = placed data db Pgsql.olAmount staleLeft oId (k + 1)) ∨
      (¬ ((data.line k).olIId ≠ 0 ∧ data.placeable db oId k) ∧ ∃ e,
        newOrderLine Pgsql.storedNewOrderCode data db oId k
          (placed data db Pgsql.olAmount staleLeft oId k) = .error e) := by
  by_cases used : (data.line k).olIId = 0
  · right
    constructor
    · intro good
      exact good.1 used
    · refine ⟨Pgsql.storedNewOrderCode.itemMissing (data.line k).olIId, ?_⟩
      have given : Pgsql.storedNewOrderCode.unused (data.line k).olIId = true := by
        simpa [Pgsql.storedNewOrderCode, NewOrderCode.storing, Pgsql.newOrderCode] using used
      unfold newOrderLine
      simp only [given, if_true]
      rfl
  cases item : db.selectItem (data.line k).olIId with
  | none =>
    right
    constructor
    · intro good
      simpa [item] using good.2.1
    · refine ⟨Pgsql.storedNewOrderCode.itemMissing (data.line k).olIId, ?_⟩
      have kept : Pgsql.storedNewOrderCode.unused (data.line k).olIId = false := by
        simpa [Pgsql.storedNewOrderCode, NewOrderCode.storing, Pgsql.newOrderCode] using used
      have reads (db' : Database) :
        (if Pgsql.storedNewOrderCode.snapshot = true then db else db') = db := rfl
      unfold newOrderLine
      simp only [kept, Bool.false_eq_true, if_false, reads, item]
      rfl
  | some item' =>
    have there : (db.selectItem (data.line k).olIId).isSome := Option.isSome_of_eq_some item
    obtain ⟨s, found⟩ := Option.isSome_iff_exists.mp (stocked.found k bound there)
    obtain ⟨result, same⟩ := pgsql_newOrderLine (placed data db Pgsql.olAmount staleLeft oId k) oId
      used item found
    have line : orderLineRow Pgsql.storedNewOrderCode data oId k
        (Pgsql.olAmount item'.iPrice (data.line k).olQuantity) (s.sDist.get data.dist) =
          placedLine data db Pgsql.olAmount oId k := by
      unfold placedLine
      rw [item, found]
      rfl
    rw [line, placed_updateStock fun r mem key =>
      staleLeft_takes stocked.keys plain bound found mem key] at same
    by_cases free : data.lineFree db oId k
    · left
      rw [taken_insert free] at same
      exact ⟨⟨used, there, free⟩, _, result, same, rfl⟩
    · right
      rw [taken_refused free] at same
      exact ⟨fun good => free good.2.2, _, same⟩

theorem plpgsql_lines (stocked : Stocked data db) (plain : data.Plain db)
    (header : Plpgsql.Header) :
    ((∀ k < data.oOlCnt, data.placeable db header.oId k) ∧ ∃ t rows,
      rounds (Plpgsql.newOrderLine data header) data.oOlCnt (ordered data header.oId db) =
        .ok (t, rows) ∧ t = placed data db Plpgsql.olAmount freshLeft header.oId data.oOlCnt) ∨
      ((∃ k < data.oOlCnt, ¬ data.placeable db header.oId k) ∧ ∃ e,
        rounds (Plpgsql.newOrderLine data header) data.oOlCnt (ordered data header.oId db) =
          .error e) := by
  have round (k : Nat) (t : Database) (bound : k < data.oOlCnt)
      (inv : t = placed data db Plpgsql.olAmount freshLeft header.oId k) :=
    inv ▸ plpgsql_places stocked plain bound header
  apply rounds_cases round
  exact (placed_zero fun _ => rfl).symm

theorem pgsql_lines (stocked : Stocked data db) (plain : data.Plain db) (oId : Int) :
    ((∀ k < data.oOlCnt, (data.line k).olIId ≠ 0 ∧ data.placeable db oId k) ∧ ∃ t results,
      rounds (newOrderLine Pgsql.storedNewOrderCode data db oId) data.oOlCnt (ordered data oId db) =
        .ok (t, results) ∧ t = placed data db Pgsql.olAmount staleLeft oId data.oOlCnt) ∨
      ((∃ k < data.oOlCnt, ¬ ((data.line k).olIId ≠ 0 ∧ data.placeable db oId k)) ∧ ∃ e,
        rounds (newOrderLine Pgsql.storedNewOrderCode data db oId) data.oOlCnt
          (ordered data oId db) = .error e) := by
  have round (k : Nat) (t : Database) (bound : k < data.oOlCnt)
      (inv : t = placed data db Pgsql.olAmount staleLeft oId k) :=
    inv ▸ pgsql_places oId stocked plain bound
  apply rounds_cases round
  exact (placed_zero fun _ => by simp [staleLeft]).symm

end Line

/-! ## The whole order -/

section Order

variable {data : NewOrderData} {db : Database}

/-- The rows that an order is for are there. -/
structure Addressed (data : NewOrderData) (db : Database) (district : District) : Prop where
  lines : 1 ≤ data.oOlCnt
  warehouse : (db.selectWarehouse data.wId).isSome
  found : db.selectDistrict data.wId data.dId = some district
  customer : (db.selectCustomer data.wId data.dId data.cId).isSome
  stocked : Stocked data db

/-- No order and no outstanding order has the next id. -/
def NewOrderData.idFree (data : NewOrderData) (db : Database) (oId : Int) : Prop :=
  (data.wId, data.dId, oId) ∉ db.newOrder.map NewOrder.key ∧
    (data.wId, data.dId, oId) ∉ db.orders.map Order.key

def NewOrderData.insertable (data : NewOrderData) (db : Database) (oId : Int) : Prop :=
  data.idFree db oId ∧ ∀ k < data.oOlCnt, data.placeable db oId k

variable (data db) in
/-- The two insertions before the lines, after the counter was advanced. -/
theorem insertHeader (oId : Int) :
    let opened := (db.incrementNextOId data.wId data.dId).insertNewOrder
      { noOId := oId, noDId := data.dId, noWId := data.wId }
    (data.idFree db oId ∧ ∃ db', opened = some db' ∧
      db'.insertOrder (orderRow data oId) = some (ordered data oId db)) ∨
    (¬ data.idFree db oId ∧ (opened = none ∨ ∃ db', opened = some db' ∧
      db'.insertOrder (orderRow data oId) = none)) := by
  unfold Database.insertNewOrder Database.insertOrder
  by_cases outstanding : (data.wId, data.dId, oId) ∈ db.newOrder.map NewOrder.key
  · right
    have refused : insert NewOrder.key db.newOrder
        { noOId := oId, noDId := data.dId, noWId := data.wId } = none := if_pos outstanding
    exact ⟨fun free => free.1 outstanding, .inl (congrArg (Option.map _) refused)⟩
  · have opened : insert NewOrder.key db.newOrder
        { noOId := oId, noDId := data.dId, noWId := data.wId } = some _ := if_neg outstanding
    by_cases known : (data.wId, data.dId, oId) ∈ db.orders.map Order.key
    · right
      have refused : insert Order.key db.orders (orderRow data oId) = none := if_pos known
      exact ⟨fun free => free.2 known, .inr ⟨_, congrArg (Option.map _) opened,
        congrArg (Option.map _) refused⟩⟩
    · left
      exact ⟨⟨outstanding, known⟩, inserted_header outstanding known⟩

theorem plpgsql_newOrder {district : District} (addressed : Addressed data db district)
    (plain : data.Plain db) :
    (data.insertable db district.dNextOId ∧ ∃ rows, Plpgsql.newOrder data db =
      .ok (placed data db Plpgsql.olAmount freshLeft district.dNextOId data.oOlCnt, rows)) ∨
    (¬ data.insertable db district.dNextOId ∧ ∃ e, Plpgsql.newOrder data db = .error e) := by
  unfold Plpgsql.newOrder
  simp only [addressed.found, orFail_some_bind]
  obtain ⟨free, db', opened, header⟩ | ⟨used, refused | ⟨db', opened, refused⟩⟩ :=
    insertHeader data db district.dNextOId
  · simp only [opened, header, orFail_some_bind]
    obtain ⟨all, t, rows, ran, rfl⟩ | ⟨⟨k, bound, bad⟩, failed⟩ :=
      plpgsql_lines addressed.stocked plain _
    · exact .inl ⟨⟨free, all⟩, rows, ran⟩
    · exact .inr ⟨fun insertable => bad (insertable.2 k bound), failed⟩
  · right
    simp only [refused, orFail_none_bind]
    exact ⟨fun insertable => used insertable.1, _, rfl⟩
  · right
    simp only [opened, refused, orFail_some_bind, orFail_none_bind]
    exact ⟨fun insertable => used insertable.1, _, rfl⟩

theorem pgsql_newOrder {district : District} (addressed : Addressed data db district)
    (plain : data.Plain db) :
    ((data.insertable db district.dNextOId ∧ ∀ k < data.oOlCnt, (data.line k).olIId ≠ 0) ∧
      ∃ result, Pgsql.storedNewOrder data db =
        .ok (placed data db Pgsql.olAmount staleLeft district.dNextOId data.oOlCnt, result)) ∨
    (¬ (data.insertable db district.dNextOId ∧ ∀ k < data.oOlCnt, (data.line k).olIId ≠ 0) ∧
      ∃ e, Pgsql.storedNewOrder data db = .error e) := by
  obtain ⟨warehouse, foundWarehouse⟩ := Option.isSome_iff_exists.mp addressed.warehouse
  obtain ⟨customer, foundCustomer⟩ := Option.isSome_iff_exists.mp addressed.customer
  have known : (db.incrementNextOId data.wId data.dId).selectCustomer data.wId data.dId data.cId =
      some customer := foundCustomer
  unfold Pgsql.storedNewOrder newOrder
  rw [if_neg (Nat.not_lt.mpr addressed.lines)]
  simp only [foundWarehouse, addressed.found, known, orFail_some_bind]
  obtain ⟨free, db', opened, header⟩ | ⟨used, refused | ⟨db', opened, refused⟩⟩ :=
    insertHeader data db district.dNextOId
  · simp only [opened, header, orFail_some_bind]
    obtain ⟨all, t, results, ran, rfl⟩ | ⟨⟨k, bound, bad⟩, e, failed⟩ :=
      pgsql_lines addressed.stocked plain district.dNextOId
    · left
      rw [ran]
      exact ⟨⟨⟨free, fun k bound => (all k bound).2⟩, fun k bound => (all k bound).1⟩, _, rfl⟩
    · right
      rw [failed]
      exact ⟨fun good => bad ⟨good.2 k bound, good.1.2 k bound⟩, _, rfl⟩
  · right
    simp only [refused, orFail_none_bind]
    exact ⟨fun good => used good.1.1, _, rfl⟩
  · right
    simp only [opened, refused, orFail_some_bind, orFail_none_bind]
    exact ⟨fun good => used good.1.1, _, rfl⟩

/-- The same rows in the tables that a New-Order writes. -/
structure SameRows (db db' : Database) : Prop where
  district : db.district = db'.district
  orders : db.orders = db'.orders
  newOrder : db.newOrder = db'.newOrder
  stock : db.stock = db'.stock
  orderLine : db.orderLine = db'.orderLine

/-- Both leave the same rows or both are undone. -/
def Agree {E F A B : Type} : Except E (Database × A) → Except F (Database × B) → Prop
  | .ok (db, _), .ok (db', _) => SameRows db db'
  | .error _, .error _ => True
  | _, _ => False

def Database.StockInRange (db : Database) : Prop := ∀ s ∈ db.stock, InRange s.sQuantity

def KeepsRange {E A : Type} (execution : Except E (Database × A)) : Prop :=
  ∀ db r, execution = .ok (db, r) → db.StockInRange

/-- What is promised of two procedures: they agree, and neither leaves a quantity out of range. -/
structure Interchangeable {E F A B : Type} (data : NewOrderData) (db : Database)
    (execution : Except E (Database × A)) (execution' : Except F (Database × B)) : Prop where
  agree : Agree execution execution'
  range : db.StockInRange → (∀ l ∈ data.lines, 1 ≤ l.olQuantity ∧ l.olQuantity ≤ 10) →
    KeepsRange execution ∧ KeepsRange execution'

/-- For each stock row, what was there before the order and what is left by its lines are found too
low equally often. -/
def NewOrderData.refillsAgree (data : NewOrderData) (db : Database) : Prop :=
  ∀ s ∈ db.stock, staleRefills s.sQuantity (data.quantities data.oOlCnt s.key) =
    freshRefills s.sQuantity (data.quantities data.oOlCnt s.key)

instance : Decidable (data.refillsAgree db) :=
  inferInstanceAs (Decidable (∀ s ∈ db.stock, _ = _))

/-- The price of every line gives the same amount as it is printed and as it is kept. -/
def NewOrderData.amountsAgree (data : NewOrderData) (db : Database) : Prop :=
  ∀ k < data.oOlCnt, ∀ item ∈ db.selectItem (data.line k).olIId,
    Pgsql.olAmount item.iPrice (data.line k).olQuantity =
      Plpgsql.olAmount item.iPrice (data.line k).olQuantity

instance : Decidable (data.amountsAgree db) :=
  inferInstanceAs (Decidable (∀ k < data.oOlCnt, ∀ item ∈ db.selectItem (data.line k).olIId,
    _ = _))

/-- Three pieces at 1.05 come to 3.15 in C and to 3.1499999 in PL/pgSQL. -/
example : text4 (Pgsql.olAmount (105 / 100) 3) = 315 / 100 ∧
    text4 (Plpgsql.olAmount (105 / 100) 3) = 31499999 / 10 ^ 7 := by decide +kernel

theorem placedLine_eq_iff (oId : Int) {k : Nat} :
    placedLine data db Pgsql.olAmount oId k = placedLine data db Plpgsql.olAmount oId k ↔
      ∀ item ∈ db.selectItem (data.line k).olIId,
        Pgsql.olAmount item.iPrice (data.line k).olQuantity =
          Plpgsql.olAmount item.iPrice (data.line k).olQuantity := by
  constructor
  · intro same item found
    have amount := congrArg OrderLine.olAmount same
    simpa [placedLine, Plpgsql.orderLineRow, Option.mem_def.mp found] using amount
  · intro same
    unfold placedLine
    cases found : db.selectItem (data.line k).olIId with
    | none => rfl
    | some item => rw [Option.map_some, Option.map_some, same item found]

theorem placed_sameRows (oId : Int) :
    SameRows (placed data db Pgsql.olAmount staleLeft oId data.oOlCnt)
        (placed data db Plpgsql.olAmount freshLeft oId data.oOlCnt) ↔
      data.refillsAgree db ∧ data.amountsAgree db := by
  constructor
  · intro same
    constructor
    · intro s mem
      have rows := List.map_inj_left.mp same.stock s mem
      exact (left_eq_iff _ _).mp (congrArg Stock.sQuantity rows)
    · intro k bound
      have rows := List.map_inj_left.mp (List.append_cancel_left same.orderLine)
      exact (placedLine_eq_iff oId).mp (rows k (List.mem_range.mpr bound))
  · rintro ⟨refills, amounts⟩
    refine { district := rfl, orders := rfl, newOrder := rfl, stock := ?_, orderLine := ?_ }
    · apply List.map_congr_left
      intro s mem
      have left := (left_eq_iff _ _).mpr (refills s mem)
      unfold sold
      simp only [left]
    · refine congrArg (db.orderLine ++ ·) (List.map_congr_left fun k mem => ?_)
      exact (placedLine_eq_iff oId).mpr (amounts k (List.mem_range.mp mem))

theorem placed_inRange (oId : Int) (range : db.StockInRange)
    (quantities : ∀ l ∈ data.lines, 1 ≤ l.olQuantity ∧ l.olQuantity ≤ 10) :
    (placed data db Plpgsql.olAmount freshLeft oId data.oOlCnt).StockInRange := by
  intro s mem
  obtain ⟨t, there, rfl⟩ := List.mem_map.mp mem
  apply freshLeft_inRange (range t there)
  intro q mem
  obtain ⟨i, selected, rfl⟩ := List.mem_map.mp mem
  have line : data.line i ∈ data.lines := List.mem_map_of_mem (List.mem_filter.mp selected).1
  exact quantities _ line

end Order

/-- Nineteen of an item in stock, of which orders take five a line. -/
def nineteen : Database :=
  { oneOrder with stock := oneOrder.stock.map fun s => { s with sQuantity := 19 } }

theorem nineteen_addressed (n : Fin 16) (lines : 1 ≤ n.val) :
    Addressed (oneItem 1 n) nineteen oneDistrict := by
  have stocked : ∀ n : Fin 16, ∀ k < (oneItem 1 n).oOlCnt, (nineteen.selectStock
      ((oneItem 1 n).line k).olIId ((oneItem 1 n).line k).olSupplyWId).isSome = true := by
    decide
  constructor
  · exact lines
  · rfl
  · rfl
  · rfl
  · constructor
    · decide
    · intro k bound _
      exact stocked n k bound

end Dbt2
