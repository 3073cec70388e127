import Dbt2.OrderIds

/-!
# Delivery states

An order's `NEW_ORDER` row, its carrier and the dates of its lines record the same: whether it is
delivered. Delivery changes all three and credits the customer. New-Order is to add an order
that is not delivered, but the lines that `Nonsp` inserts are dated.

* `DeliveryStates`: the three records agree;
* `Credits`: every customer is credited for the orders delivered;
* `delivery_state`: runs keep the records in agreement where no New-Order adds lines.
-/

namespace Dbt2

open Table Transition

/-- The records of an order's delivery agree. -/
structure DeliveryStates (db : Database) : Prop where
  orders : (db.orders.map Order.key).Nodup
  owned : ∀ l ∈ db.orderLine, l.order ∈ db.orders.map Order.key
  outstanding : ∀ o ∈ db.orders, db.Outstanding o ↔ o.oCarrierId = none
  lines : ∀ o ∈ db.orders, o.oCarrierId = none ↔ ∀ l ∈ db.linesOf o, l.olDeliveryD = none

theorem Database.outstanding_iff {db : Database} {o : Order} :
    db.Outstanding o ↔ o.key ∈ db.newOrder.map NewOrder.key := by
  simp only [Outstanding, newOrderIds, newOrdersOf, Set.mem_ofPred_eq, List.mem_filter,
    decide_eq_true_eq, List.mem_map, NewOrder.key, Order.key, Prod.mk.injEq]
  constructor
  · rintro ⟨n, ⟨mem, w, d⟩, i⟩
    exact ⟨n, mem, w, d, i⟩
  · rintro ⟨n, mem, w, d, i⟩
    exact ⟨n, ⟨mem, w, d⟩, i⟩

instance (db : Database) (o : Order) : Decidable (db.Outstanding o) :=
  decidable_of_iff _ Database.outstanding_iff.symm

theorem Database.mem_linesOf {db : Database} {o : Order} {l : OrderLine} :
    l ∈ db.linesOf o ↔ l ∈ db.orderLine ∧ l.order = o.key := by
  simp only [linesOf, orderLinesOf, List.mem_filter, decide_eq_true_eq, OrderLine.order, Order.key,
    Prod.mk.injEq, and_assoc]

/-! ## Credits -/

/-- The orders of a customer that have been delivered since `db`. -/
def deliveredSince (db db' : Database) (customer : Int × Int × Int) : List Order :=
  db.orders.filter fun o => o.customer = customer ∧ db.Outstanding o ∧ ¬ db'.Outstanding o

def Database.amountOf (db : Database) (o : Order) : ℚ :=
  ((db.linesOf o).map OrderLine.olAmount).sum

/-- A customer is credited the amount of every order delivered, and each is counted. -/
structure Credited (db db' : Database) (c c' : Customer) : Prop where
  key : c'.key = c.key
  balance : c'.cBalance =
    c.cBalance + ((deliveredSince db db' c.key).map db.amountOf).sum
  deliveryCnt : c'.cDeliveryCnt = c.cDeliveryCnt + (deliveredSince db db' c.key).length

def Credits (db db' : Database) : Prop := Rowwise (Credited db db') db.customer db'.customer

/-! ## Delivery -/

section Delivery

variable {E : Type} {code : DeliveryCode E} {data : DeliveryData} {db db' : Database}
  {ds : Int → Option Delivered}

theorem deliver_outstanding {o o' : Order} (same : o'.key = o.key) :
    (deliver data ds db).Outstanding o' ↔
      db.Outstanding o ∧ isDelivered data.wId ds o.key = false := by
  rw [Database.outstanding_iff, Database.outstanding_iff, same]
  simp only [deliver, Table.delete, List.mem_map, List.mem_filter, Bool.not_eq_true']
  constructor
  · rintro ⟨n, ⟨mem, kept⟩, key⟩
    rw [key] at kept
    exact ⟨⟨n, mem, key⟩, kept⟩
  · rintro ⟨⟨n, mem, key⟩, kept⟩
    rw [← key] at kept
    exact ⟨n, ⟨mem, kept⟩, key⟩

/-- An order delivered has lines. -/
theorem isDelivered_lines {n : Nat} {o : Order}
    (now : isDelivered data.wId (deliveredBelow code data db n) o.key = true) :
    ∃ l ∈ db.orderLine, l.order = o.key := by
  obtain ⟨d, is, key⟩ := isDelivered_iff.mp now
  obtain ⟨-, -, amount⟩ := deliveredBelow_some is
  unfold Database.sumAmount at amount
  cases lines : db.selectLines data.wId o.key.2.1 d.oId with
  | nil =>
    rw [lines] at amount
    cases amount
  | cons l ls =>
    have mem : l ∈ db.selectLines data.wId o.key.2.1 d.oId := by
      rw [lines]
      exact List.mem_cons_self
    obtain ⟨there, order⟩ := List.mem_filter.mp mem
    exact ⟨l, there, (of_decide_eq_true order).trans key.symm⟩

theorem isDelivered_outstanding {n : Nat} {o : Order}
    (now : isDelivered data.wId (deliveredBelow code data db n) o.key = true) :
    db.Outstanding o := by
  obtain ⟨d, is, key⟩ := isDelivered_iff.mp now
  obtain ⟨chose, -, -⟩ := deliveredBelow_some is
  obtain ⟨row, mem, rowKey⟩ := chosen_outstanding chose
  rw [Database.outstanding_iff, key, ← rowKey]
  exact List.mem_map_of_mem mem

theorem delivery_states (states : DeliveryStates db) {rs : List (Option Int)}
    (h : delivery code data db = .ok (db', rs)) : DeliveryStates db' := by
  obtain ⟨rfl, -⟩ := delivery_effect h
  have keys : (deliver data (deliveredBelow code data db 10) db).orders.map Order.key =
      db.orders.map Order.key := update_keeps Order.key fun o => rfl
  have lineKeys : (deliver data (deliveredBelow code data db 10) db).orderLine.map
      OrderLine.order = db.orderLine.map OrderLine.order := update_keeps OrderLine.order fun l => rfl
  constructor
  · rw [keys]
    exact states.orders
  · intro l mem
    have before : l.order ∈ db.orderLine.map OrderLine.order := by
      rw [← lineKeys]
      exact List.mem_map_of_mem mem
    obtain ⟨l', mem', same⟩ := List.mem_map.mp before
    rw [keys, ← same]
    exact states.owned l' mem'
  · intro o' mem
    obtain ⟨o, before, is⟩ := mem_update.mp mem
    have same : o'.key = o.key := by
      rw [← is]
      split <;> rfl
    rw [deliver_outstanding same]
    cases now : isDelivered data.wId (deliveredBelow code data db 10) o.key with
    | true =>
      rw [if_pos now] at is
      simp [← is]
    | false =>
      rw [if_neg (by simp [now])] at is
      rw [← is, states.outstanding o before]
      simp
  · intro o' mem
    obtain ⟨o, before, is⟩ := mem_update.mp mem
    have same : o'.key = o.key := by
      rw [← is]
      split <;> rfl
    have lines : (deliver data (deliveredBelow code data db 10) db).linesOf o' =
        Table.update (fun _ => isDelivered data.wId (deliveredBelow code data db 10) o.key)
          (fun l => { l with olDeliveryD := some .currentTimestamp }) (db.linesOf o) := by
      have here : db.linesOf o' = db.linesOf o := by
        obtain ⟨w, d, i⟩ : o'.oWId = o.oWId ∧ o'.oDId = o.oDId ∧ o'.oId = o.oId := by
          simpa [Order.key] using same
        rw [Database.linesOf_eq w d i]
        rfl
      rw [deliver_linesOf, here]
      apply update_congr
      intro l there
      rw [(Database.mem_linesOf.mp there).2]
    rw [lines]
    cases now : isDelivered data.wId (deliveredBelow code data db 10) o.key with
    | true =>
      rw [if_pos now] at is
      obtain ⟨l, there⟩ := isDelivered_lines now
      constructor
      · intro none'
        rw [← is] at none'
        cases none'
      · intro undated
        cases undated _ (mem_update.mpr ⟨l, Database.mem_linesOf.mpr there, rfl⟩)
    | false =>
      rw [if_neg (by simp [now])] at is
      rw [update_nothing fun _ _ => rfl, ← is]
      exact states.lines o before

theorem Database.linesOf_eq_selectLines (db : Database) (o : Order) :
    db.linesOf o = db.selectLines o.oWId o.oDId o.oId := by
  unfold Database.linesOf Database.orderLinesOf Database.selectLines
  rw [List.filter_filter]
  apply List.filter_congr
  intro l _
  simp only [OrderLine.order, Prod.mk.injEq, ← Bool.decide_and]
  rw [decide_eq_decide]
  tauto

/-- The orders a Delivery delivers to a customer: the one credited, or none. -/
theorem deliveredSince_deliver (data : DeliveryData)
    (picks : ∀ os o, code.order os = some o → o ∈ os) (orders : (db.orders.map Order.key).Nodup)
    (n : Nat) (customer : Int × Int × Int) :
    (deliveredSince db (deliver data (deliveredBelow code data db n) db) customer).map
        db.amountOf =
      (credited data.wId (deliveredBelow code data db n) customer).toList := by
  have select : deliveredSince db (deliver data (deliveredBelow code data db n) db) customer =
      db.orders.filter fun o => isDelivered data.wId (deliveredBelow code data db n) o.key &&
        db.ordered customer o.key := by
    apply List.filter_congr
    intro o mem
    rw [Bool.eq_iff_iff, decide_eq_true_eq, deliver_outstanding rfl, Bool.and_eq_true]
    constructor
    · rintro ⟨mine, outstanding, gone⟩
      refine ⟨?_, decide_eq_true ⟨o, mem, rfl, mine⟩⟩
      by_contra not
      exact gone ⟨outstanding, Bool.eq_false_of_not_eq_true not⟩
    · rintro ⟨now, mine⟩
      obtain ⟨o', mem', key, mine⟩ := of_decide_eq_true mine
      rw [List.inj_on_of_nodup_map orders mem' mem key] at mine
      refine ⟨mine, isDelivered_outstanding now, ?_⟩
      rintro ⟨-, kept⟩
      rw [now] at kept
      cases kept
  rw [select]
  cases credit : credited data.wId (deliveredBelow code data db n) customer with
  | none =>
    have nothing : (db.orders.filter fun o =>
        isDelivered data.wId (deliveredBelow code data db n) o.key &&
          db.ordered customer o.key) = [] := by
      apply List.filter_eq_nil_iff.mpr
      intro o _ both
      obtain ⟨d, is, mine, -⟩ := (isDelivered_ordered picks orders).mp both
      rw [credited_eq_some.mpr ⟨d, is, mine, rfl⟩] at credit
      cases credit
    rw [nothing]
    rfl
  | some olAmount =>
    obtain ⟨d, is, mine, rfl⟩ := credited_eq_some.mp credit
    obtain ⟨-, ⟨order, picked, -⟩, amount⟩ := deliveredBelow_some is
    obtain ⟨mem, key⟩ : order ∈ db.orders ∧ order.key = (data.wId, customer.2.1, d.oId) := by
      simpa [Database.selectOrders] using picks _ _ picked
    have one : (db.orders.filter fun o =>
        isDelivered data.wId (deliveredBelow code data db n) o.key &&
          db.ordered customer o.key) = [order] := by
      rw [← filter_unique orders mem]
      apply List.filter_congr
      intro o _
      rw [Bool.eq_iff_iff, isDelivered_ordered picks orders, decide_eq_true_eq, key]
      constructor
      · rintro ⟨d', is', -, key'⟩
        obtain rfl : d' = d := Option.some.inj (is'.symm.trans is)
        exact key'
      · exact fun key' => ⟨d, is, mine, key'⟩
    obtain ⟨w, e, i⟩ : order.oWId = data.wId ∧ order.oDId = customer.2.1 ∧ order.oId = d.oId := by
      simpa [Order.key] using key
    rw [one]
    simp [Database.amountOf, Database.linesOf_eq_selectLines, w, e, i, sumAmount_eq_some amount]

theorem creditIn_deliveryCnt (wId : Int) (c : Customer) : (creditIn wId ds c).cDeliveryCnt =
    c.cDeliveryCnt + (credited wId ds c.key).toList.length := by
  unfold creditIn
  split
  · rename_i is
    rw [is]
    rfl
  · rename_i is
    rw [is]
    exact (add_zero _).symm

theorem delivery_credits (picks : ∀ os o, code.order os = some o → o ∈ os)
    (orders : (db.orders.map Order.key).Nodup) {rs : List (Option Int)}
    (h : delivery code data db = .ok (db', rs)) : Credits db db' := by
  obtain ⟨rfl, -⟩ := delivery_effect h
  apply List.forall₂_map_right_iff.mpr
  apply List.forall₂_same.mpr
  intro c _
  have since := deliveredSince_deliver data picks orders 10 c.key
  constructor
  · exact creditIn_key c
  · rw [creditIn_balance, since]
    cases credited data.wId (deliveredBelow code data db 10) c.key <;> simp
  · rw [creditIn_deliveryCnt, ← since, List.length_map]

/-- Nothing is delivered, and nobody credited. -/
theorem Credits.refl (db : Database) : Credits db db := by
  apply List.forall₂_same.mpr
  intro c _
  have nothing : deliveredSince db db c.key = [] := by
    apply List.filter_eq_nil_iff.mpr
    intro o _ both
    obtain ⟨-, outstanding, gone⟩ := of_decide_eq_true both
    exact gone outstanding
  constructor
  · rfl
  · simp [nothing]
  · simp [nothing]

end Delivery

/-! ## New-Order -/

section NewOrder

variable {data : NewOrderData} {db db' : Database}

/-- Whether a New-Order finds every row it asks for, and a free key. -/
def Nonsp.completes (data : NewOrderData) (db : Database) : Bool :=
  (db.selectDistrict data.wId data.dId).any fun x =>
    (db.selectWarehouse data.wId).isSome ∧
    (db.selectCustomer data.wId data.dId data.cId).isSome ∧
    (data.wId, data.dId, x.dNextOId) ∉ db.newOrder.map NewOrder.key ∧
    (data.wId, data.dId, x.dNextOId) ∉ db.orders.map Order.key ∧
    ∀ i < data.oOlCnt, (data.line i).olIId ≠ 0 ∧ (db.selectItem (data.line i).olIId).isSome ∧
      ((data.line i).olIId, data.wId) ∈ db.stock.map Stock.key

theorem newOrder_completes {r : NewOrderResult}
    (h : newOrder Nonsp.newOrderCode data db = .ok (db', r)) : Nonsp.completes data db := by
  obtain ⟨district, opening, -, loop⟩ := newOrder_opened h
  let Found (n : Nat) (t : Database) : Prop :=
    t.item = db.item ∧ t.stock.map Stock.key = db.stock.map Stock.key ∧
      ∀ i < n, (data.line i).olIId ≠ 0 ∧ (db.selectItem (data.line i).olIId).isSome ∧
        ((data.line i).olIId, data.wId) ∈ db.stock.map Stock.key
  have opened : Found 0 (ordered data district.dNextOId db) := by
    refine ⟨rfl, rfl, ?_⟩
    intro i bound
    omega
  have round (n : Nat) (t t' : Database) (r : OrderLineResult) (_ : n < data.oOlCnt)
      (ran : newOrderLine Nonsp.newOrderCode data db district.dNextOId n t = .ok (t', r))
      (before : Found n t) : Found (n + 1) t' := by
    obtain ⟨items, stocks, earlier⟩ := before
    obtain ⟨used, item⟩ := newOrderLine_item ran
    obtain ⟨stock, olAmount, olDistInfo, found, rfl⟩ := newOrderLine_effect ran
    have here : ((data.line n).olIId, data.wId) ∈ db.stock.map Stock.key := by
      rw [← stocks]
      have found : t.selectStock (data.line n).olIId data.wId = some stock := found
      have key : stock.key = ((data.line n).olIId, data.wId) := by
        simpa using List.find?_some found
      rw [← key]
      exact List.mem_map_of_mem (List.mem_of_find?_eq_some found)
    have item' : (db.selectItem (data.line n).olIId).isSome := by
      unfold Database.selectItem
      rw [← items]
      exact item
    refine ⟨items, ?_, ?_⟩
    · rw [← stocks]
      exact update_keeps Stock.key fun s => rfl
    · intro i bound
      obtain below | rfl := Nat.lt_succ_iff_lt_or_eq.mp bound
      · exact earlier i below
      · exact ⟨of_decide_eq_false used, item', here⟩
  obtain ⟨-, -, found⟩ := Fallible.rounds_invariant round loop opened
  unfold Nonsp.completes
  rw [opening.found]
  exact decide_eq_true
    ⟨opening.warehouse, opening.customer, opening.newOrder, opening.orders, found⟩

/-- An order without lines is not delivered. -/
theorem newOrder_states {E : Type} {code : NewOrderCode E} (states : DeliveryStates db)
    (empty : data.oOlCnt = 0) {r : NewOrderResult} (h : newOrder code data db = .ok (db', r)) :
    DeliveryStates db' := by
  obtain ⟨district, opening, ls, lines, same⟩ := newOrder_effect h
  have none' : ls = [] := by
    apply List.eq_nil_iff_forall_not_mem.mpr
    intro l mem
    obtain ⟨i, olAmount, olDistInfo, bound, -⟩ := lines.rows l mem
    omega
  have orders : db'.orders = db.orders ++ [orderRow data district.dNextOId] := by
    rw [same]
    rfl
  have newOrder : db'.newOrder.map NewOrder.key =
      db.newOrder.map NewOrder.key ++ [(data.wId, data.dId, district.dNextOId)] := by
    rw [same]
    exact List.map_append
  have orderLine : db'.orderLine = db.orderLine := by
    rw [same, none']
    exact List.append_nil _
  have linesOf (o : Order) : db'.linesOf o = db.linesOf o := by
    unfold Database.linesOf Database.orderLinesOf
    rw [orderLine]
  have key : (orderRow data district.dNextOId).key = (data.wId, data.dId, district.dNextOId) := rfl
  have other {o : Order} (mem : o ∈ db.orders) :
      o.key ≠ (data.wId, data.dId, district.dNextOId) := by
    intro is
    exact opening.orders (is ▸ List.mem_map_of_mem mem)
  constructor
  · rw [orders, List.map_append, List.nodup_append]
    refine ⟨states.orders, List.nodup_singleton _, ?_⟩
    intro k mem k' mem'
    obtain ⟨o, before, rfl⟩ := List.mem_map.mp mem
    rw [List.mem_singleton.mp mem', key]
    exact other before
  · intro l mem
    rw [orderLine] at mem
    rw [orders, List.map_append]
    exact List.mem_append_left _ (states.owned l mem)
  · intro o mem
    rw [orders] at mem
    rw [Database.outstanding_iff, newOrder, List.mem_append, List.mem_singleton]
    obtain before | new := List.mem_append.mp mem
    · rw [← states.outstanding o before, Database.outstanding_iff]
      exact or_iff_left (other before)
    · rw [List.mem_singleton.mp new]
      exact iff_of_true (.inr rfl) rfl
  · intro o mem
    rw [orders] at mem
    rw [linesOf]
    obtain before | new := List.mem_append.mp mem
    · exact states.lines o before
    · rw [List.mem_singleton.mp new]
      apply iff_of_true rfl
      intro l there
      obtain ⟨here, order⟩ := Database.mem_linesOf.mp there
      exact absurd (order ▸ states.owned l here) (key ▸ opening.orders)

end NewOrder

/-! ## Runs -/

/-- No lines are inserted. -/
def undated (db : Database) (r : Request × List (Sqlite.Action Database)) : Bool :=
  match r.1 with
  | .newOrder data => data.oOlCnt = 0 ∨ ¬ Nonsp.completes data db
  | .delivery _ => true

section Runs

variable {dbc : DbContext} {db db' : Database} {r : Request × List (Sqlite.Action Database)}

theorem nonspStep_states (stepped : nonspStep dbc db r = some db') (good : undated db r)
    (states : DeliveryStates db) : DeliveryStates db' := by
  obtain rfl | ran := nonspStep_cases stepped
  · exact states
  · obtain ⟨request, actions⟩ := r
    cases request with
    | newOrder data =>
      obtain ⟨result, ran⟩ := Request.execute_newOrder ran
      obtain empty | cannot := of_decide_eq_true good
      · exact newOrder_states states empty ran
      · exact absurd (newOrder_completes ran) cannot
    | delivery data =>
      obtain ⟨results, ran⟩ := Request.execute_delivery ran
      exact delivery_states states ran

theorem nonspStep_credits {data : DeliveryData} {actions : List (Sqlite.Action Database)}
    (stepped : nonspStep dbc db (.delivery data, actions) = some db')
    (states : DeliveryStates db) : Credits db db' := by
  obtain rfl | ran := nonspStep_cases stepped
  · exact Credits.refl db'
  · obtain ⟨results, ran⟩ := Request.execute_delivery ran
    exact delivery_credits (fun os o is => List.mem_of_mem_head? is) states.orders ran

end Runs

/-- Calls of New-Order and Delivery keep the records of every order in agreement, and credit what
is delivered, as long as no New-Order comes to insert a line. -/
theorem delivery_state {dbc : DbContext} {db db' : Database}
    {rs : List (Request × List (Sqlite.Action Database))} (states : DeliveryStates db)
    (ran : run (nonspStep dbc) db rs = some db') (good : Along (nonspStep dbc) undated db rs) :
    DeliveryStates db' ∧ ∀ data actions db'',
      nonspStep dbc db' (.delivery data, actions) = some db'' → Credits db' db'' := by
  have final : DeliveryStates db' := by
    induction rs generalizing db with
    | nil =>
      obtain rfl : db = db' := by simpa [run] using ran
      exact states
    | cons r rs ih =>
      obtain ⟨u, stepped, later⟩ := run_cons.mp ran
      obtain ⟨here, further⟩ := along_cons good stepped
      exact ih (nonspStep_states stepped here states) later further
  constructor
  · exact final
  · intro data actions db'' stepped
    exact nonspStep_credits stepped final

theorem oneOutstanding_states : DeliveryStates oneOutstanding := by
  constructor
  · decide
  · decide
  · decide
  · decide

/-- An order with an unused item, and a Delivery. -/
def twoCalls : List (Request × List (Sqlite.Action Database)) :=
  [(.newOrder (oneItem 0 1), [.execute oneOutstanding, .rollback true]),
    (.delivery { wId := 1, oCarrierId := 3 }, [.execute oneOutstanding, .commit true])]

theorem delivery_state_delivered : ∃ db',
    run (nonspStep ⟨0, ⟨0, 0⟩⟩) oneOutstanding twoCalls = some db' ∧ DeliveryStates db' := by
  have accepted : (run (nonspStep ⟨0, ⟨0, 0⟩⟩) oneOutstanding twoCalls).isSome = true := by
    decide
  obtain ⟨db', ran⟩ := Option.isSome_iff_exists.mp accepted
  have good : Along (nonspStep ⟨0, ⟨0, 0⟩⟩) undated oneOutstanding twoCalls = true := by
    decide
  exact ⟨db', ran, (delivery_state oneOutstanding_states ran good).1⟩

/-- The line of a new order is dated. -/
theorem delivery_state_fails : ¬ ∀ (dbc : DbContext) (db db' : Database)
    (rs : List (Request × List (Sqlite.Action Database))), DeliveryStates db →
      run (nonspStep dbc) db rs = some db' → DeliveryStates db' := by
  intro keeps
  let calls : List (Request × List (Sqlite.Action Database)) :=
    [(.newOrder (oneItem 1 1), [.execute oneOutstanding, .commit true])]
  let disagrees (db : Database) : Bool :=
    ∃ o ∈ db.orders, o.oCarrierId = none ∧ ∃ l ∈ db.linesOf o, l.olDeliveryD ≠ none
  have outcome : (run (nonspStep ⟨0, ⟨0, 0⟩⟩) oneOutstanding calls).map disagrees =
      some true := by
    decide
  obtain ⟨db', ran, disagree⟩ := Option.map_eq_some_iff.mp outcome
  obtain ⟨o, mem, none', l, there, dated⟩ := of_decide_eq_true disagree
  have states := keeps _ _ db' calls oneOutstanding_states ran
  exact dated ((states.lines o mem).mp none' l there)

end Dbt2
