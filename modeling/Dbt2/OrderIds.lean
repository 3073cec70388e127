import Dbt2.Consistency
import Dbt2.Effects
import Dbt2.Sqlite

/-!
# Order ids

The order ids of a district form an interval that ends before `d_next_o_id`, and the outstanding
ones the last part of it: New-Order appends at the end, Delivery takes from the front of what is
outstanding. `order_ids` says that calls of both keep this, and the numbering of the order lines,
in every district.
-/

namespace Dbt2

open Table Transition

/-- What the orders of a district satisfy together. -/
structure DistrictOrders (db : Database) (x : District) : Prop where
  largest : IsGreatest (db.orderIds x.dWId x.dId) (x.dNextOId - 1)
  orders : ∃ first, Numbered ((db.ordersOf x.dWId x.dId).map Order.oId) first x.dNextOId
  newOrders : ∃ oldest, Numbered ((db.newOrdersOf x.dWId x.dId).map NewOrder.noOId) oldest
    x.dNextOId
  outstanding : db.newOrderIds x.dWId x.dId ⊆ db.orderIds x.dWId x.dId
  numbers : ∀ o ∈ db.ordersOf x.dWId x.dId,
    Numbered ((db.linesOf o).map OrderLine.olNumber) 1 (o.oOlCnt + 1)
  lineCount : ∀ o ∈ db.ordersOf x.dWId x.dId, ((db.linesOf o).length : Int) = o.oOlCnt
  owned : ∀ l ∈ db.orderLinesOf x.dWId x.dId, l.olOId ∈ db.orderIds x.dWId x.dId

def OrderConsistent (db : Database) : Prop := ∀ x ∈ db.district, DistrictOrders db x

/-- A Delivery takes the least outstanding order of a district out, or nothing. -/
def RemovesOldest (wId : Int) (db db' : Database) : Prop :=
  ∀ w d, db'.newOrdersOf w d = db.newOrdersOf w d ∨ (w = wId ∧ ∃ oldest,
    IsLeast (db.newOrderIds w d) oldest ∧
      db'.newOrdersOf w d = (db.newOrdersOf w d).filter fun n => n.noOId ≠ oldest)

namespace Database

variable {db : Database} {w d : Int}

theorem orderIds_eq : db.orderIds w d = {i | i ∈ (db.ordersOf w d).map Order.oId} := by
  ext i
  simp [orderIds]

theorem newOrderIds_eq :
    db.newOrderIds w d = {i | i ∈ (db.newOrdersOf w d).map NewOrder.noOId} := by
  ext i
  simp [newOrderIds]

theorem linesOf_eq {o : Order} {oId : Int} (wId : o.oWId = w) (dId : o.oDId = d)
    (id : o.oId = oId) : db.linesOf o = (db.orderLinesOf w d).filter fun l => l.olOId = oId := by
  subst wId dId id
  rfl

theorem mem_ordersOf {o : Order} : o ∈ db.ordersOf w d ↔ o ∈ db.orders ∧ o.oWId = w ∧ o.oDId = d := by
  simp [ordersOf]

end Database

/-! ## New-Order -/

section NewOrder

variable {E : Type} {code : NewOrderCode E} {data : NewOrderData} {db db' : Database} {oId : Int}
  {x : District}

/-- Whether a New-Order is in a district. -/
def NewOrderData.isIn (data : NewOrderData) (w d : Int) : Bool := data.wId = w ∧ data.dId = d

theorem Placing.ordersOf (h : Placing code data oId db data.oOlCnt db') (w d : Int) :
    db'.ordersOf w d = db.ordersOf w d ++ if data.isIn w d then [orderRow data oId] else [] := by
  obtain ⟨ls, lines, same⟩ := h
  rw [same]
  unfold Database.ordersOf ordered NewOrderData.isIn
  dsimp only
  rw [filter_snoc]
  rfl

theorem Placing.newOrdersOf (h : Placing code data oId db data.oOlCnt db') (w d : Int) :
    db'.newOrdersOf w d = db.newOrdersOf w d ++
      if data.isIn w d then [{ noOId := oId, noDId := data.dId, noWId := data.wId }] else [] := by
  obtain ⟨ls, lines, same⟩ := h
  rw [same]
  unfold Database.newOrdersOf ordered NewOrderData.isIn
  dsimp only
  rw [filter_snoc]

theorem LinesOf.filter_in {n : Nat} {ls : List OrderLine} (h : LinesOf code data oId n ls)
    (w d : Int) : (ls.filter fun l => l.olWId = w ∧ l.olDId = d) =
      if data.isIn w d then ls else [] := by
  have key (l : OrderLine) (mem : l ∈ ls) :
      decide (l.olWId = w ∧ l.olDId = d) = data.isIn w d := by
    obtain ⟨i, olAmount, olDistInfo, -, rfl⟩ := h.rows l mem
    rfl
  rw [List.filter_congr key]
  cases data.isIn w d <;> simp

theorem Placing.orderLinesOf (h : Placing code data oId db data.oOlCnt db') : ∃ ls,
    LinesOf code data oId data.oOlCnt ls ∧ ∀ w d, db'.orderLinesOf w d =
      db.orderLinesOf w d ++ if data.isIn w d then ls else [] := by
  obtain ⟨ls, lines, same⟩ := h
  refine ⟨ls, lines, fun w d => ?_⟩
  rw [same]
  unfold Database.orderLinesOf
  dsimp only
  rw [List.filter_append, lines.filter_in]

/-- A district of another New-Order is as it was. -/
theorem Placing.elsewhere (h : Placing code data oId db data.oOlCnt db')
    (before : DistrictOrders db x) (other : data.isIn x.dWId x.dId = false) :
    DistrictOrders db' x := by
  have orders : db'.ordersOf x.dWId x.dId = db.ordersOf x.dWId x.dId := by
    rw [h.ordersOf, other]
    exact List.append_nil _
  have newOrders : db'.newOrdersOf x.dWId x.dId = db.newOrdersOf x.dWId x.dId := by
    rw [h.newOrdersOf, other]
    exact List.append_nil _
  have lines : db'.orderLinesOf x.dWId x.dId = db.orderLinesOf x.dWId x.dId := by
    obtain ⟨ls, -, same⟩ := h.orderLinesOf
    rw [same, other]
    exact List.append_nil _
  have linesOf (o : Order) (mem : o ∈ db.ordersOf x.dWId x.dId) : db'.linesOf o = db.linesOf o := by
    obtain ⟨-, w, d⟩ := Database.mem_ordersOf.mp mem
    rw [Database.linesOf_eq w d rfl, Database.linesOf_eq w d rfl, lines]
  constructor
  · rw [Database.orderIds_eq, orders, ← Database.orderIds_eq]
    exact before.largest
  · rw [orders]
    exact before.orders
  · rw [newOrders]
    exact before.newOrders
  · rw [Database.orderIds_eq, Database.newOrderIds_eq, orders, newOrders,
      ← Database.orderIds_eq, ← Database.newOrderIds_eq]
    exact before.outstanding
  · rw [orders]
    intro o mem
    rw [linesOf o mem]
    exact before.numbers o mem
  · rw [orders]
    intro o mem
    rw [linesOf o mem]
    exact before.lineCount o mem
  · rw [lines, Database.orderIds_eq, orders, ← Database.orderIds_eq]
    exact before.owned

/-- In its own district, the new order follows the largest. -/
theorem Placing.here (h : Placing code data x.dNextOId db data.oOlCnt db')
    (before : DistrictOrders db x) (own : data.isIn x.dWId x.dId = true) :
    DistrictOrders db' { x with dNextOId := x.dNextOId + 1 } := by
  obtain ⟨first, ids⟩ := before.orders
  obtain ⟨oldest, outstanding⟩ := before.newOrders
  have top : first ≤ x.dNextOId - 1 := by
    have mem := before.largest.1
    rw [Database.orderIds_eq] at mem
    exact ((ids.mem _).mp mem).1
  have orders : db'.ordersOf x.dWId x.dId =
      db.ordersOf x.dWId x.dId ++ [orderRow data x.dNextOId] := by
    rw [h.ordersOf, own]
    rfl
  have ids' : Numbered ((db'.ordersOf x.dWId x.dId).map Order.oId) first (x.dNextOId + 1) := by
    rw [orders, List.map_append]
    exact ids.append (by omega)
  have outstanding' : Numbered ((db'.newOrdersOf x.dWId x.dId).map NewOrder.noOId)
      (min oldest x.dNextOId) (x.dNextOId + 1) := by
    rw [h.newOrdersOf, own, List.map_append]
    exact outstanding.start.append (by omega)
  obtain ⟨ls, lines, linesOf⟩ := h.orderLinesOf
  have linesHere : db'.orderLinesOf x.dWId x.dId = db.orderLinesOf x.dWId x.dId ++ ls := by
    rw [linesOf, own]
    rfl
  have early (o : Order) (mem : o ∈ db.ordersOf x.dWId x.dId) : o.oId < x.dNextOId :=
    ((ids.mem _).mp (List.mem_map_of_mem mem)).2
  have linesOfOld (o : Order) (mem : o ∈ db.ordersOf x.dWId x.dId) :
      db'.linesOf o = db.linesOf o := by
    obtain ⟨-, w, d⟩ := Database.mem_ordersOf.mp mem
    have apart : (ls.filter fun l => l.olOId = o.oId) = [] := by
      refine List.filter_eq_nil_iff.mpr fun l mem' => ?_
      have id : l.olOId = x.dNextOId := congrArg (fun k => k.2.2) (lines.order mem')
      have bound := early o mem
      simp only [decide_eq_true_eq]
      omega
    rw [Database.linesOf_eq w d rfl, Database.linesOf_eq w d rfl, linesHere, List.filter_append,
      apart, List.append_nil]
  have linesOfNew : db'.linesOf (orderRow data x.dNextOId) = ls := by
    obtain ⟨w, d⟩ : data.wId = x.dWId ∧ data.dId = x.dId := by simpa [NewOrderData.isIn] using own
    have unused : ((db.orderLinesOf x.dWId x.dId).filter fun l => l.olOId = x.dNextOId) = [] := by
      refine List.filter_eq_nil_iff.mpr fun l mem => ?_
      obtain ⟨o, mem', is⟩ := before.owned l mem
      have bound := early o mem'
      simp only [decide_eq_true_eq]
      omega
    have all : (ls.filter fun l => l.olOId = x.dNextOId) = ls := by
      refine List.filter_eq_self.mpr fun l mem => ?_
      have id : l.olOId = x.dNextOId := congrArg (fun k => k.2.2) (lines.order mem)
      simpa using id
    have id : (orderRow data x.dNextOId).oId = x.dNextOId := rfl
    rw [Database.linesOf_eq w d id, linesHere, List.filter_append, unused, all, List.nil_append]
  have kept {i : Int} (mem : i ∈ db.orderIds x.dWId x.dId) : i ∈ db'.orderIds x.dWId x.dId := by
    obtain ⟨o, mem, is⟩ := mem
    exact ⟨o, by rw [orders]; exact List.mem_append_left _ mem, is⟩
  have added : x.dNextOId ∈ db'.orderIds x.dWId x.dId :=
    ⟨orderRow data x.dNextOId, by rw [orders]; simp, rfl⟩
  constructor
  · rw [Database.orderIds_eq]
    exact ids'.isGreatest (by omega)
  · exact ⟨first, ids'⟩
  · exact ⟨_, outstanding'⟩
  · rintro i ⟨n, mem, rfl⟩
    rw [h.newOrdersOf, own] at mem
    obtain mem | last := List.mem_append.mp mem
    · exact kept (before.outstanding ⟨n, mem, rfl⟩)
    · rw [List.mem_singleton.mp last]
      exact added
  · intro o mem
    rw [orders] at mem
    obtain mem | last := List.mem_append.mp mem
    · rw [linesOfOld o mem]
      exact before.numbers o mem
    · rw [List.mem_singleton.mp last, linesOfNew]
      exact lines.numbers
  · intro o mem
    rw [orders] at mem
    obtain mem | last := List.mem_append.mp mem
    · rw [linesOfOld o mem]
      exact before.lineCount o mem
    · have count := lines.numbers.length
      rw [List.length_map] at count
      rw [List.mem_singleton.mp last, linesOfNew, count]
      simp only [orderRow]
      omega
  · intro l mem
    rw [linesHere] at mem
    obtain mem | new := List.mem_append.mp mem
    · exact kept (before.owned l mem)
    · have id : l.olOId = x.dNextOId := congrArg (fun k => k.2.2) (lines.order new)
      rw [id]
      exact added

/-- Rows of one district agree on its next order. -/
theorem DistrictOrders.unique {y : District} (hx : DistrictOrders db x) (hy : DistrictOrders db y)
    (same : x.key = y.key) : x.dNextOId = y.dNextOId := by
  obtain ⟨w, d⟩ : x.dWId = y.dWId ∧ x.dId = y.dId := by simpa [District.key] using same
  have largest := hx.largest
  rw [w, d] at largest
  have eq := largest.unique hy.largest
  omega

theorem newOrder_consistent {r : NewOrderResult} (consistent : OrderConsistent db)
    (h : newOrder code data db = .ok (db', r)) : OrderConsistent db' := by
  obtain ⟨district, opening, placing⟩ := newOrder_effect h
  have found := opening.found
  have mem : district ∈ db.district := List.mem_of_find?_eq_some found
  have key : district.key = (data.wId, data.dId) := by simpa using List.find?_some found
  have tables : db'.district = (db.incrementNextOId data.wId data.dId).district := by
    obtain ⟨ls, -, same⟩ := placing
    rw [same]
    rfl
  intro y mem'
  rw [tables] at mem'
  obtain ⟨x, xMem, rfl⟩ := mem_update.mp mem'
  have before := consistent x xMem
  by_cases own : x.key = (data.wId, data.dId)
  · have next : district.dNextOId = x.dNextOId :=
      (consistent district mem).unique before (key.trans own.symm)
    rw [next] at placing
    simp only [own, decide_true, if_true]
    obtain ⟨w, d⟩ : x.dWId = data.wId ∧ x.dId = data.dId := by simpa [District.key] using own
    exact placing.here before (by simp [NewOrderData.isIn, w, d])
  · simp only [own, decide_false, Bool.false_eq_true, if_false]
    refine placing.elsewhere before ?_
    have other : ¬ (data.wId = x.dWId ∧ data.dId = x.dId) := by
      rintro ⟨w, d⟩
      exact own (by rw [District.key, w, d])
    simpa [NewOrderData.isIn] using other

end NewOrder

/-! ## Delivery -/

section Delivery

variable {E : Type} {code : DeliveryCode E} {data : DeliveryData} {db db' : Database}
  {ds : Int → Option Delivered} {w d : Int}

theorem deliver_ordersOf (data : DeliveryData) (ds : Int → Option Delivered) (db : Database)
    (w d : Int) : ∃ carried : Order → Bool, (deliver data ds db).ordersOf w d =
      Table.update carried (fun o => { o with oCarrierId := some data.oCarrierId })
        (db.ordersOf w d) := by
  refine ⟨fun o => isDelivered data.wId ds o.key, ?_⟩
  unfold Database.ordersOf deliver
  dsimp only
  rw [filter_update]
  exact fun o => rfl

theorem deliver_orderIds : (deliver data ds db).orderIds w d = db.orderIds w d := by
  obtain ⟨carried, same⟩ := deliver_ordersOf data ds db w d
  rw [Database.orderIds_eq, same, update_keeps, ← Database.orderIds_eq]
  exact fun o => rfl

theorem deliver_linesOf (data : DeliveryData) (ds : Int → Option Delivered) (db : Database)
    (o : Order) : (deliver data ds db).linesOf o =
      Table.update (fun l => isDelivered data.wId ds l.order)
        (fun l => { l with olDeliveryD := some .currentTimestamp }) (db.linesOf o) := by
  unfold Database.linesOf Database.orderLinesOf deliver
  dsimp only
  rw [filter_update, filter_update]
  · exact fun l => rfl
  · exact fun l => rfl

theorem deliver_newOrdersOf : (deliver data ds db).newOrdersOf w d =
    (db.newOrdersOf w d).filter fun n => !isDelivered data.wId ds n.key := by
  unfold Database.newOrdersOf deliver Table.delete
  dsimp only
  rw [List.filter_filter, List.filter_filter]
  refine List.filter_congr fun n _ => ?_
  rw [Bool.and_comm]

/-- The order delivered is the oldest outstanding. -/
theorem delivered_oldest {n : Nat} {D : Delivered}
    (is : deliveredBelow code data db n d = some D) :
    IsLeast (db.newOrderIds data.wId d) D.oId := by
  obtain ⟨chose, -, -⟩ := deliveredBelow_some is
  obtain ⟨mem, least⟩ := List.min?_eq_some_iff.mp (chosen_oldest chose)
  rw [Database.newOrderIds_eq]
  exact ⟨mem, fun i mem => least i mem⟩

theorem deliver_removes {n : Nat} (db : Database) :
    RemovesOldest data.wId db (deliver data (deliveredBelow code data db n) db) := by
  intro w d
  rw [deliver_newOrdersOf]
  cases here : deliveredBelow code data db n d with
  | none =>
    left
    refine List.filter_eq_self.mpr fun m mem => ?_
    obtain ⟨-, -, dId⟩ : m ∈ db.newOrder ∧ m.noWId = w ∧ m.noDId = d := by
      simpa [Database.newOrdersOf] using mem
    simp [isDelivered, NewOrder.key, dId, here]
  | some D =>
    by_cases own : w = data.wId
    · right
      refine ⟨own, D.oId, own ▸ delivered_oldest here, ?_⟩
      refine List.filter_congr fun m mem => ?_
      obtain ⟨-, wId, dId⟩ : m ∈ db.newOrder ∧ m.noWId = w ∧ m.noDId = d := by
        simpa [Database.newOrdersOf] using mem
      simp [isDelivered, NewOrder.key, dId, here, wId, own, eq_comm]
    · left
      refine List.filter_eq_self.mpr fun m mem => ?_
      obtain ⟨-, wId, -⟩ : m ∈ db.newOrder ∧ m.noWId = w ∧ m.noDId = d := by
        simpa [Database.newOrdersOf] using mem
      simp [isDelivered, NewOrder.key, wId, own]

theorem delivery_consistent {rs : List (Option Int)} (consistent : OrderConsistent db)
    (h : delivery code data db = .ok (db', rs)) : OrderConsistent db' := by
  obtain ⟨rfl, -⟩ := delivery_effect h
  intro x mem
  have before := consistent x mem
  obtain ⟨carried, orders⟩ :=
    deliver_ordersOf data (deliveredBelow code data db 10) db x.dWId x.dId
  have original {o : Order} (mem : o ∈ (deliver data (deliveredBelow code data db 10) db).ordersOf
      x.dWId x.dId) : ∃ o' ∈ db.ordersOf x.dWId x.dId,
        o.oWId = o'.oWId ∧ o.oDId = o'.oDId ∧ o.oId = o'.oId ∧ o.oOlCnt = o'.oOlCnt := by
    rw [orders] at mem
    obtain ⟨o', mem', rfl⟩ := mem_update.mp mem
    refine ⟨o', mem', ?_⟩
    cases carried o' <;> exact ⟨rfl, rfl, rfl, rfl⟩
  have numbers {o o' : Order} (w : o.oWId = o'.oWId) (d : o.oDId = o'.oDId) (i : o.oId = o'.oId) :
      ((deliver data (deliveredBelow code data db 10) db).linesOf o).map OrderLine.olNumber =
        (db.linesOf o').map OrderLine.olNumber := by
    rw [deliver_linesOf, update_keeps]
    · rw [Database.linesOf_eq w d i]
      rfl
    · exact fun l => rfl
  constructor
  · rw [deliver_orderIds]
    exact before.largest
  · obtain ⟨first, ids⟩ := before.orders
    refine ⟨first, ?_⟩
    rw [orders, update_keeps]
    · exact ids
    · exact fun o => rfl
  · obtain ⟨oldest, ids⟩ := before.newOrders
    have removes : RemovesOldest data.wId db (deliver data (deliveredBelow code data db 10) db) :=
      deliver_removes db
    obtain same | ⟨-, least, isLeast, same⟩ := removes x.dWId x.dId
    · exact ⟨oldest, by rw [same]; exact ids⟩
    · rw [Database.newOrderIds_eq] at isLeast
      obtain rfl := ids.isLeast isLeast
      refine ⟨least + 1, ?_⟩
      have tail := ids.tail
      rw [List.filter_map] at tail
      rw [same]
      exact tail
  · rw [deliver_orderIds]
    rintro i ⟨n, mem, rfl⟩
    rw [deliver_newOrdersOf] at mem
    exact before.outstanding ⟨n, (List.mem_filter.mp mem).1, rfl⟩
  · intro o mem
    obtain ⟨o', mem', w, d, i, cnt⟩ := original mem
    rw [numbers w d i, cnt]
    exact before.numbers o' mem'
  · intro o mem
    obtain ⟨o', mem', w, d, i, cnt⟩ := original mem
    have length := congrArg List.length (numbers w d i)
    rw [List.length_map, List.length_map] at length
    rw [length, cnt]
    exact before.lineCount o' mem'
  · rw [deliver_orderIds]
    intro l mem
    have kept : ∃ l' ∈ db.orderLinesOf x.dWId x.dId, l'.olOId = l.olOId := by
      unfold Database.orderLinesOf deliver at mem
      dsimp only at mem
      rw [filter_update] at mem
      · obtain ⟨l', mem', rfl⟩ := mem_update.mp mem
        refine ⟨l', mem', ?_⟩
        split <;> rfl
      · exact fun l => rfl
    obtain ⟨l', mem', is⟩ := kept
    rw [← is]
    exact before.owned l' mem'

end Delivery

/-! ## Runs -/

theorem nonspStep_consistent {dbc : DbContext} {db db' : Database}
    {r : Request × List (Sqlite.Action Database)} (stepped : nonspStep dbc db r = some db')
    (consistent : OrderConsistent db) : OrderConsistent db' := by
  obtain rfl | committed := nonspStep_cases stepped
  · exact consistent
  · obtain ⟨request, actions⟩ := r
    cases request with
    | newOrder data =>
      obtain ⟨result, ran⟩ := Request.execute_newOrder committed
      exact newOrder_consistent consistent ran
    | delivery data =>
      obtain ⟨results, ran⟩ := Request.execute_delivery committed
      exact delivery_consistent consistent ran

theorem nonspStep_removes {dbc : DbContext} {db db' : Database} {data : DeliveryData}
    {actions : List (Sqlite.Action Database)}
    (stepped : nonspStep dbc db (.delivery data, actions) = some db') :
    RemovesOldest data.wId db db' := by
  obtain rfl | committed := nonspStep_cases stepped
  · exact fun w d => .inl rfl
  · obtain ⟨results, ran⟩ := Request.execute_delivery committed
    obtain ⟨rfl, -⟩ := delivery_effect ran
    exact deliver_removes db

/-- Calls of New-Order and Delivery, whatever they commit, keep the order ids and line numbers of
every district consistent, and a Delivery takes out the oldest outstanding orders. -/
theorem order_ids {dbc : DbContext} {db db' : Database}
    {rs : List (Request × List (Sqlite.Action Database))} (consistent : OrderConsistent db)
    (ran : run (nonspStep dbc) db rs = some db') :
    OrderConsistent db' ∧ ∀ data actions db'',
      nonspStep dbc db' (.delivery data, actions) = some db'' →
        RemovesOldest data.wId db' db'' := by
  constructor
  · exact run_invariant (fun _ _ _ stepped before => nonspStep_consistent stepped before) ran
      consistent
  · intro data actions db'' stepped
    exact nonspStep_removes stepped

theorem oneOrder_consistent : OrderConsistent oneOrder := by
  intro x mem
  obtain rfl : x = oneDistrict := by simpa [oneOrder] using mem
  have one : Numbered [1] 1 2 := (Numbered.empty (le_refl 1)).append (le_refl 1)
  have ids : (oneOrder.ordersOf 1 1).map Order.oId = [1] := by decide
  have first (o : Order) (mem : o ∈ oneOrder.ordersOf 1 1) :
      (oneOrder.linesOf o).map OrderLine.olNumber = [1] ∧ o.oOlCnt = 1 := by
    revert o mem
    decide
  constructor
  · rw [Database.orderIds_eq]
    exact ids ▸ one.isGreatest (by decide)
  · exact ⟨1, ids ▸ one⟩
  · exact ⟨2, Numbered.empty (le_refl 2)⟩
  · rintro i ⟨n, mem, rfl⟩
    cases mem
  · intro o mem
    obtain ⟨numbers, count⟩ := first o mem
    rw [numbers, count]
    exact one
  · intro o mem
    obtain ⟨numbers, count⟩ := first o mem
    have length := congrArg List.length numbers
    rw [List.length_map] at length
    rw [length, count]
    rfl
  · rw [Database.orderIds_eq]
    intro l mem
    revert l mem
    decide

/-- An order, one with an unused item, and a Delivery. -/
def threeCalls : List (Request × List (Sqlite.Action Database)) :=
  [(.newOrder (oneItem 1 2), [.execute oneOrder, .commit true]),
    (.newOrder (oneItem 0 1), [.execute oneOrder, .rollback true]),
    (.delivery { wId := 1, oCarrierId := 3 }, [.execute oneOrder, .commit true])]

theorem order_ids_delivered : ∃ db', run (nonspStep ⟨0, ⟨0, 0⟩⟩) oneOrder threeCalls = some db' ∧
    OrderConsistent db' := by
  have accepted : (run (nonspStep ⟨0, ⟨0, 0⟩⟩) oneOrder threeCalls).isSome = true := by
    decide
  obtain ⟨db', ran⟩ := Option.isSome_iff_exists.mp accepted
  exact ⟨db', ran, (order_ids oneOrder_consistent ran).1⟩

end Dbt2
