import Dbt2.Backends
import Dbt2.Lib.Numbered

/-!
# What a committed transaction does

Each transaction is some statements in a loop or without, and each that succeeds has one effect on
the database it found:

* `newOrder_effect`: the next order id is taken, and an order, its `NEW_ORDER` row and its lines
  are added;
* `payment_effect`: three rows are updated and one is added;
* `delivery_effect`: in ten districts at once, the oldest outstanding order is delivered.
-/

namespace Dbt2

open Table Fallible

variable {E : Type}

/-! ## New-Order -/

section NewOrder

variable {code : NewOrderCode E} {data : NewOrderData} {start db db' : Database}

/-- One round adds a line and updates a stock row that exists. -/
theorem newOrderLine_effect {oId : Int} {i : Nat} {r : OrderLineResult}
    (h : newOrderLine code data start oId i db = .ok (db', r)) :
    ∃ stock olAmount olDistInfo,
      (if code.snapshot then start else db).selectStock (data.line i).olIId
        (code.stockWarehouse data.wId (data.line i).olSupplyWId) = some stock ∧
      db' = { db.updateStock (data.line i).olIId
          (code.stockWarehouse data.wId (data.line i).olSupplyWId)
          (takeStock code data (data.line i) (code.quantity stock.sQuantity)) with
        orderLine := db.orderLine ++ [orderLineRow code data oId i olAmount olDistInfo] } := by
  obtain ⟨item, _, h⟩ := bind_eq_ok.mp h
  obtain ⟨stock, found, h⟩ := bind_eq_ok.mp h
  obtain ⟨olDistInfo, _, h⟩ := bind_eq_ok.mp h
  obtain ⟨inserted, insertion, h⟩ := bind_eq_ok.mp h
  cases h
  rw [orFail_eq_ok] at found insertion
  obtain ⟨t, accepted, rfl⟩ := Option.map_eq_some_iff.mp insertion
  obtain ⟨-, rfl⟩ := insert_eq_some.mp accepted
  exact ⟨stock, _, olDistInfo, found, rfl⟩

/-- A round finds its item. -/
theorem newOrderLine_item {oId : Int} {i : Nat} {r : OrderLineResult}
    (h : newOrderLine code data start oId i db = .ok (db', r)) :
    code.unused (data.line i).olIId = false ∧
      ((if code.snapshot then start else db).selectItem (data.line i).olIId).isSome := by
  obtain ⟨item, found, -⟩ := bind_eq_ok.mp h
  rw [orFail_eq_ok] at found
  split at found
  · cases found
  · rename_i used
    exact ⟨Bool.eq_false_of_not_eq_true used, Option.isSome_of_eq_some found⟩

/-- The database when the loop over the lines starts. -/
def ordered (data : NewOrderData) (oId : Int) (start : Database) : Database :=
  { start.incrementNextOId data.wId data.dId with
    newOrder := start.newOrder ++ [{ noOId := oId, noDId := data.dId, noWId := data.wId }]
    orders := start.orders ++ [orderRow data oId] }

/-- What is there, and what is not, when the loop starts. -/
structure Opening (data : NewOrderData) (start : Database) (district : District) : Prop where
  warehouse : (start.selectWarehouse data.wId).isSome
  found : start.selectDistrict data.wId data.dId = some district
  customer : (start.selectCustomer data.wId data.dId data.cId).isSome
  newOrder : (data.wId, data.dId, district.dNextOId) ∉ start.newOrder.map NewOrder.key
  orders : (data.wId, data.dId, district.dNextOId) ∉ start.orders.map Order.key

theorem newOrder_opened {r : NewOrderResult} (h : newOrder code data start = .ok (db', r)) :
    ∃ district, Opening data start district ∧ r.oId = district.dNextOId ∧
      rounds (newOrderLine code data start district.dNextOId) data.oOlCnt
        (ordered data district.dNextOId start) = .ok (db', r.orderLine) := by
  obtain ⟨warehouse, foundWarehouse, h⟩ := bind_eq_ok.mp h
  obtain ⟨district, foundDistrict, h⟩ := bind_eq_ok.mp h
  obtain ⟨customer, foundCustomer, h⟩ := bind_eq_ok.mp h
  obtain ⟨opened, opening, h⟩ := bind_eq_ok.mp h
  obtain ⟨ordered, ordering, h⟩ := bind_eq_ok.mp h
  obtain ⟨placed, loop, h⟩ := bind_eq_ok.mp h
  cases h
  rw [orFail_eq_ok] at foundWarehouse foundDistrict foundCustomer opening ordering
  obtain ⟨t, accepted, rfl⟩ := Option.map_eq_some_iff.mp opening
  obtain ⟨newOrder, rfl⟩ := insert_eq_some.mp accepted
  obtain ⟨t, accepted, rfl⟩ := Option.map_eq_some_iff.mp ordering
  obtain ⟨orders, rfl⟩ := insert_eq_some.mp accepted
  refine ⟨district, ?_, rfl, loop⟩
  constructor
  · exact Option.isSome_of_eq_some foundWarehouse
  · exact foundDistrict
  · exact Option.isSome_of_eq_some foundCustomer
  · exact newOrder
  · exact orders

/-- The two insertions before the lines, of an id that is not in use. -/
theorem inserted_header {oId : Int}
    (newOrder : (data.wId, data.dId, oId) ∉ start.newOrder.map NewOrder.key)
    (orders : (data.wId, data.dId, oId) ∉ start.orders.map Order.key) :
    ∃ db, (start.incrementNextOId data.wId data.dId).insertNewOrder
        { noOId := oId, noDId := data.dId, noWId := data.wId } = some db ∧
      db.insertOrder (orderRow data oId) = some (ordered data oId start) := by
  have first : insert NewOrder.key start.newOrder
      { noOId := oId, noDId := data.dId, noWId := data.wId } = some _ :=
    insert_eq_some.mpr ⟨newOrder, rfl⟩
  have second : insert Order.key start.orders (orderRow data oId) = some _ :=
    insert_eq_some.mpr ⟨orders, rfl⟩
  exact ⟨_, congrArg (Option.map _) first, congrArg (Option.map _) second⟩

theorem newOrder_succeeds {district : District} (opening : Opening data start district)
    {results : List OrderLineResult}
    (loop : rounds (newOrderLine code data start district.dNextOId) data.oOlCnt
      (ordered data district.dNextOId start) = .ok (db', results)) :
    ∃ r, newOrder code data start = .ok (db', r) := by
  obtain ⟨warehouse, foundWarehouse⟩ := Option.isSome_iff_exists.mp opening.warehouse
  obtain ⟨customer, foundCustomer⟩ := Option.isSome_iff_exists.mp opening.customer
  have known : (start.incrementNextOId data.wId data.dId).selectCustomer data.wId data.dId
      data.cId = some customer := foundCustomer
  obtain ⟨db, opened, header⟩ := inserted_header opening.newOrder opening.orders
  unfold newOrder
  simp only [foundWarehouse, opening.found, known, orFail_some_bind]
  rw [opened, orFail_some_bind, header, orFail_some_bind, loop]
  exact ⟨_, rfl⟩

/-- The lines of an order, numbered from one. -/
structure LinesOf (code : NewOrderCode E) (data : NewOrderData) (oId : Int) (n : Nat)
    (ls : List OrderLine) : Prop where
  numbers : Numbered (ls.map OrderLine.olNumber) 1 (n + 1)
  rows : ∀ l ∈ ls, ∃ i olAmount olDistInfo, i < n ∧
    l = orderLineRow code data oId i olAmount olDistInfo

theorem LinesOf.order {oId : Int} {n : Nat} {ls : List OrderLine} {l : OrderLine}
    (h : LinesOf code data oId n ls) (mem : l ∈ ls) : l.order = (data.wId, data.dId, oId) := by
  obtain ⟨i, olAmount, olDistInfo, -, rfl⟩ := h.rows l mem
  rfl

theorem LinesOf.append {oId : Int} {n : Nat} {ls : List OrderLine} (h : LinesOf code data oId n ls)
    (olAmount : ℚ) (olDistInfo : String) :
    LinesOf code data oId (n + 1) (ls ++ [orderLineRow code data oId n olAmount olDistInfo]) := by
  constructor
  · rw [List.map_append]
    have numbers := h.numbers.append (by omega)
    push_cast
    exact numbers
  · intro l mem
    obtain mem | last := List.mem_append.mp mem
    · obtain ⟨i, a, d, bound, row⟩ := h.rows l mem
      exact ⟨i, a, d, Nat.lt_succ_of_lt bound, row⟩
    · exact ⟨n, olAmount, olDistInfo, Nat.lt_succ_self n, List.mem_singleton.mp last⟩

/-- The database after `n` rounds. -/
def Placing (code : NewOrderCode E) (data : NewOrderData) (oId : Int) (start : Database) (n : Nat)
    (db : Database) : Prop :=
  ∃ ls, LinesOf code data oId n ls ∧
    db = { ordered data oId start with stock := db.stock, orderLine := start.orderLine ++ ls }

theorem newOrder_effect {r : NewOrderResult} (h : newOrder code data start = .ok (db', r)) :
    ∃ district, Opening data start district ∧
      Placing code data district.dNextOId start data.oOlCnt db' := by
  obtain ⟨district, opening, -, loop⟩ := newOrder_opened h
  have round (n : Nat) (db t : Database) (r : OrderLineResult) (_ : n < data.oOlCnt)
      (ran : newOrderLine code data start district.dNextOId n db = .ok (t, r))
      (before : Placing code data district.dNextOId start n db) :
      Placing code data district.dNextOId start (n + 1) t := by
    obtain ⟨ls, lines, same⟩ := before
    obtain ⟨stock, olAmount, olDistInfo, -, rfl⟩ := newOrderLine_effect ran
    refine ⟨_, lines.append olAmount olDistInfo, ?_⟩
    rw [same]
    simp [Database.updateStock]
  have none' : Placing code data district.dNextOId start 0 (ordered data district.dNextOId start) := by
    refine ⟨[], ⟨Numbered.empty (by simp), by simp⟩, ?_⟩
    simp [ordered, Database.incrementNextOId]
  exact ⟨district, opening, rounds_invariant round loop none'⟩

end NewOrder

/-! ## Payment -/

section Payment

variable {code : PaymentCode E} {data : PaymentData} {start db' : Database}

/-- What a payment leaves, for the customer found and the texts of the history row. -/
def paid (code : PaymentCode E) (data : PaymentData) (customer : Customer) (hData : String)
    (start : Database) : Database :=
  (((start.payWarehouse data.wId data.hAmount).payDistrict data.wId data.dId
    data.hAmount).updateCustomer data.cWId data.cDId customer.cId
      (paymentUpdate code data customer.cId customer.goodCredit)).insertHistory
        (historyRow data customer.cId hData)

theorem payment_effect {r : PaymentResult} (h : payment code data start = .ok (db', r)) :
    ∃ warehouse district customer hData, start.selectWarehouse data.wId = some warehouse ∧
      start.selectDistrict data.wId data.dId = some district ∧
      start.selectCustomer data.cWId data.cDId customer.cId = some customer ∧
      db' = paid code data customer hData start := by
  obtain ⟨warehouse, foundWarehouse, h⟩ := bind_eq_ok.mp h
  obtain ⟨district, foundDistrict, h⟩ := bind_eq_ok.mp h
  obtain ⟨cId, -, h⟩ := bind_eq_ok.mp h
  obtain ⟨customer, foundCustomer, h⟩ := bind_eq_ok.mp h
  cases h
  rw [orFail_eq_ok] at foundWarehouse foundDistrict foundCustomer
  have key : customer.key = (data.cWId, data.cDId, cId) := by
    simpa using List.find?_some foundCustomer
  obtain rfl : customer.cId = cId := congrArg (fun k => k.2.2) key
  exact ⟨warehouse, district, customer, _, foundWarehouse, foundDistrict, foundCustomer, rfl⟩

end Payment

/-! ## Delivery -/

/-- One order, delivered in its district. -/
structure Delivered where
  oId : Int
  oCId : Int
  olAmount : ℚ

section Delivery

/-- Whether a key is that of an order delivered; `ds` is by district. -/
def isDelivered (wId : Int) (ds : Int → Option Delivered) (key : Int × Int × Int) : Bool :=
  key.1 = wId ∧ (ds key.2.1).map Delivered.oId = some key.2.2

/-- The credit to the customer with a key. -/
def credited (wId : Int) (ds : Int → Option Delivered) (key : Int × Int × Int) : Option ℚ :=
  if key.1 = wId then
    ((ds key.2.1).filter fun d => d.oCId = key.2.2).map Delivered.olAmount
  else none

def creditIn (wId : Int) (ds : Int → Option Delivered) (c : Customer) : Customer :=
  match credited wId ds c.key with
  | some olAmount => c.credit olAmount
  | none => c

/-- All orders delivered at once. -/
def deliver (data : DeliveryData) (ds : Int → Option Delivered) (db : Database) : Database :=
  { db with
    newOrder := delete (fun n => isDelivered data.wId ds n.key) db.newOrder
    orders := update (fun o => isDelivered data.wId ds o.key)
      (fun o => { o with oCarrierId := some data.oCarrierId }) db.orders
    orderLine := update (fun l => isDelivered data.wId ds l.order)
      (fun l => { l with olDeliveryD := some .currentTimestamp }) db.orderLine
    customer := db.customer.map (creditIn data.wId ds) }

variable (code : DeliveryCode E) (data : DeliveryData)

/-- The order a Delivery chooses in a district. -/
def chosen (start : Database) (dId : Int) : Option Int :=
  (start.selectOldest data.wId dId).filter code.deliverable

def delivered (start : Database) (dId : Int) : Option Delivered := do
  let oId ← chosen code data start dId
  let order ← code.order (start.selectOrders data.wId dId oId)
  let olAmount ← start.sumAmount data.wId dId oId
  some { oId, oCId := order.oCId, olAmount }

/-- Those of the first `n` districts. -/
def deliveredBelow (start : Database) (n : Nat) (dId : Int) : Option Delivered :=
  if 1 ≤ dId ∧ dId ≤ n then delivered code data start dId else none

variable {code data} {start db db' : Database} {wId : Int} {ds : Int → Option Delivered}

theorem chosen_oldest {dId oId : Int} (is : chosen code data db dId = some oId) :
    db.selectOldest data.wId dId = some oId :=
  (Option.filter_eq_some_iff.mp is).1

/-- An order delivered was outstanding. -/
theorem chosen_outstanding {dId oId : Int} (is : chosen code data db dId = some oId) :
    ∃ n ∈ db.newOrder, n.key = (data.wId, dId, oId) := by
  obtain ⟨mem, -⟩ := List.min?_eq_some_iff.mp (chosen_oldest is)
  obtain ⟨n, selected, rfl⟩ := List.mem_map.mp mem
  obtain ⟨there, w, d⟩ : n ∈ db.newOrder ∧ n.noWId = data.wId ∧ n.noDId = dId := by
    simpa using selected
  exact ⟨n, there, by rw [NewOrder.key, w, d]⟩

theorem deliveredBelow_some {n : Nat} {dId : Int} {d : Delivered}
    (is : deliveredBelow code data db n dId = some d) :
    chosen code data db dId = some d.oId ∧
      (∃ order, code.order (db.selectOrders data.wId dId d.oId) = some order ∧
        order.oCId = d.oCId) ∧
      db.sumAmount data.wId dId d.oId = some d.olAmount := by
  unfold deliveredBelow at is
  split at is
  · obtain ⟨oId, chose, is⟩ := Option.bind_eq_some_iff.mp is
    obtain ⟨order, ordered, is⟩ := Option.bind_eq_some_iff.mp is
    obtain ⟨olAmount, amount, is⟩ := Option.bind_eq_some_iff.mp is
    cases is
    exact ⟨chose, ⟨order, ordered, rfl⟩, amount⟩
  · cases is

theorem isDelivered_other {dId oId : Int} (none' : ds dId = none) :
    isDelivered wId ds (wId, dId, oId) = false := by
  simp [isDelivered, none']

theorem selectOldest_deliver {dId : Int} (none' : ds dId = none) :
    (deliver data ds db).selectOldest data.wId dId = db.selectOldest data.wId dId := by
  unfold Database.selectOldest deliver delete
  dsimp only
  rw [List.filter_filter]
  congr 2
  refine List.filter_congr fun n _ => ?_
  by_cases here : n.noWId = data.wId ∧ n.noDId = dId
  · have kept : isDelivered data.wId ds n.key = false := by
      rw [NewOrder.key, here.1, here.2]
      exact isDelivered_other none'
    simp [here, kept]
  · simp [here]

theorem selectOrders_deliver (data : DeliveryData) {dId : Int} (oId : Int)
    (none' : ds dId = none) :
    (deliver data ds db).selectOrders data.wId dId oId =
      db.selectOrders data.wId dId oId := by
  unfold Database.selectOrders deliver
  dsimp only
  rw [filter_update, update_nothing]
  · intro o mem
    have key : o.key = (data.wId, dId, oId) := by simpa using (List.mem_filter.mp mem).2
    rw [key]
    exact isDelivered_other none'
  · exact fun o => rfl

theorem selectLines_deliver (data : DeliveryData) {dId : Int} (oId : Int)
    (none' : ds dId = none) :
    (deliver data ds db).selectLines data.wId dId oId = db.selectLines data.wId dId oId := by
  unfold Database.selectLines deliver
  dsimp only
  rw [filter_update, update_nothing]
  · intro l mem
    have key : l.order = (data.wId, dId, oId) := by simpa using (List.mem_filter.mp mem).2
    rw [key]
    exact isDelivered_other none'
  · exact fun l => rfl

theorem sumAmount_eq_some {wId dId oId : Int} {olAmount : ℚ}
    (is : db.sumAmount wId dId oId = some olAmount) :
    ((db.selectLines wId dId oId).map OrderLine.olAmount).sum = olAmount := by
  unfold Database.sumAmount at is
  cases lines : db.selectLines wId dId oId with
  | nil =>
    rw [lines] at is
    cases is
  | cons l ls =>
    rw [lines] at is
    exact Option.some.inj is

/-- The sum reads no column that a delivery writes. -/
theorem sumAmount_congr {db db' : Database} {wId dId oId : Int}
    (same : (db.selectLines wId dId oId).map OrderLine.olAmount =
      (db'.selectLines wId dId oId).map OrderLine.olAmount) :
    db.sumAmount wId dId oId = db'.sumAmount wId dId oId := by
  unfold Database.sumAmount
  cases first : db.selectLines wId dId oId with
  | nil =>
    rw [first] at same
    rw [List.map_eq_nil_iff.mp same.symm]
  | cons l ls =>
    rw [first] at same
    cases second : db'.selectLines wId dId oId with
    | nil =>
      rw [second] at same
      cases same
    | cons l' ls' =>
      rw [second] at same
      simp only [same]

theorem sumAmount_setDeliveryD {wId dId oId wId' dId' oId' : Int} :
    (db.setDeliveryD wId dId oId).sumAmount wId' dId' oId' = db.sumAmount wId' dId' oId' := by
  apply sumAmount_congr
  unfold Database.selectLines Database.setDeliveryD
  dsimp only
  rw [filter_update, update_keeps]
  · exact fun l => rfl
  · exact fun l => rfl

/-- One more order, in a district where none was delivered yet. -/
theorem isDelivered_update {dId : Int} {d : Delivered} (none' : ds dId = none)
    (key : Int × Int × Int) :
    isDelivered wId (Function.update ds dId (some d)) key =
      (isDelivered wId ds key || decide (key = (wId, dId, d.oId))) := by
  obtain ⟨w, e, oId⟩ := key
  by_cases here : e = dId
  · subst here
    simp [isDelivered, none', eq_comm]
  · simp [isDelivered, here]

theorem isDelivered_iff {key : Int × Int × Int} : isDelivered wId ds key = true ↔
    ∃ d, ds key.2.1 = some d ∧ key = (wId, key.2.1, d.oId) := by
  obtain ⟨w, e, oId⟩ := key
  cases here : ds e with
  | none => simp [isDelivered, here]
  | some d =>
    simp only [isDelivered, here, Option.map_some, Option.some.injEq, decide_eq_true_eq,
      exists_eq_left', Prod.mk.injEq, true_and]
    rw [@eq_comm Int d.oId]

theorem credited_eq_some {key : Int × Int × Int} {olAmount : ℚ} :
    credited wId ds key = some olAmount ↔
      ∃ d, ds key.2.1 = some d ∧ key = (wId, key.2.1, d.oCId) ∧ d.olAmount = olAmount := by
  obtain ⟨w, e, cId⟩ := key
  by_cases own : w = wId
  · cases here : ds e with
    | none => simp [credited, here]
    | some d =>
      by_cases mine : d.oCId = cId
      · simp [credited, here, own, mine]
      · simp [credited, here, own, mine, Option.filter, Ne.symm mine]
  · simp [credited, own]

theorem isDelivered_apart {dId oId : Int} (none' : ds dId = none) {key : Int × Int × Int}
    (earlier : isDelivered wId ds key = true) : decide (key = (wId, dId, oId)) = false := by
  rw [decide_eq_false_iff_not]
  rintro rfl
  rw [isDelivered_other none'] at earlier
  cases earlier

theorem creditIn_key (c : Customer) : (creditIn wId ds c).key = c.key := by
  unfold creditIn
  split <;> rfl

theorem creditIn_balance (c : Customer) : (creditIn wId ds c).cBalance =
    c.cBalance + (credited wId ds c.key).getD 0 := by
  unfold creditIn
  split
  · rename_i olAmount is
    rw [is]
    rfl
  · rename_i is
    rw [is]
    exact (add_zero _).symm

theorem creditIn_update {dId : Int} {d : Delivered} (none' : ds dId = none) (c : Customer) :
    creditIn wId (Function.update ds dId (some d)) c =
      if c.key = (wId, dId, d.oCId) then (creditIn wId ds c).credit d.olAmount
      else creditIn wId ds c := by
  by_cases here : c.cDId = dId
  · have before : credited wId ds c.key = none := by
      simp [credited, Customer.key, here, none']
    have unchanged : creditIn wId ds c = c := by
      rw [creditIn, before]
    rw [unchanged]
    by_cases mine : c.cWId = wId ∧ c.cId = d.oCId
    · have now : credited wId (Function.update ds dId (some d)) c.key = some d.olAmount := by
        simp [credited, Customer.key, here, mine]
      rw [creditIn, now, if_pos (by simp [Customer.key, here, mine])]
    · have now : credited wId (Function.update ds dId (some d)) c.key = none := by
        simp only [credited, Customer.key, here, Function.update_self]
        by_cases w : c.cWId = wId
        · have other : d.oCId ≠ c.cId := fun is => mine ⟨w, is.symm⟩
          simp [w, Option.filter, other]
        · simp [w]
      have otherKey : c.key ≠ (wId, dId, d.oCId) := by
        intro is
        obtain ⟨w, -, cId⟩ : c.cWId = wId ∧ c.cDId = dId ∧ c.cId = d.oCId := by
          simpa [Customer.key] using is
        exact mine ⟨w, cId⟩
      rw [creditIn, now, if_neg otherKey]
  · have same : credited wId (Function.update ds dId (some d)) c.key = credited wId ds c.key := by
      have at' : Function.update ds dId (some d) c.key.2.1 = ds c.key.2.1 :=
        Function.update_of_ne here _ _
      unfold credited
      rw [at']
    have otherKey : c.key ≠ (wId, dId, d.oCId) := by
      intro is
      exact here (congrArg (fun k => k.2.1) is)
    rw [if_neg otherKey, creditIn, creditIn, same]

/-- The six statements of a district, after the districts `ds`. -/
theorem deliver_update {dId : Int} {d : Delivered} (none' : ds dId = none) :
    deliver data (Function.update ds dId (some d)) start =
      ((((deliver data ds start).deleteNewOrder data.wId dId d.oId).setCarrier data.wId dId d.oId
        data.oCarrierId).setDeliveryD data.wId dId d.oId).updateCustomer data.wId dId d.oCId
          (Customer.credit d.olAmount) := by
  have delivers (key : Int × Int × Int) :
      isDelivered data.wId (Function.update ds dId (some d)) key =
        (isDelivered data.wId ds key || decide (key = (data.wId, dId, d.oId))) :=
    isDelivered_update none' key
  simp only [deliver, Database.deleteNewOrder, Database.setCarrier, Database.setDeliveryD,
    Database.updateCustomer, Database.mk.injEq, true_and, and_true]
  refine ⟨?_, ?_, ?_, ?_⟩
  · unfold update
    rw [List.map_map]
    refine List.map_congr_left fun c _ => ?_
    rw [creditIn_update none', Function.comp_apply]
    simp only [decide_eq_true_eq, creditIn_key]
  · rw [delete_delete]
    simp only [delivers]
  · rw [update_update]
    · simp only [delivers]
    · exact fun o earlier => isDelivered_apart none' earlier
    · exact fun o => rfl
  · rw [update_update]
    · simp only [delivers]
    · exact fun l earlier => isDelivered_apart none' earlier
    · exact fun l => rfl

/-- The database after the first `n` districts, none of which stopped the transaction. -/
def Delivering (code : DeliveryCode E) (data : DeliveryData) (start : Database) (n : Nat)
    (db : Database) : Prop :=
  db = deliver data (deliveredBelow code data start n) start ∧ ∀ dId : Int, 1 ≤ dId → dId ≤ n →
    (delivered code data start dId).map Delivered.oId = chosen code data start dId

theorem deliveredBelow_succ (n : Nat) : deliveredBelow code data start (n + 1) =
    Function.update (deliveredBelow code data start n) (n + 1)
      (delivered code data start (n + 1)) := by
  funext dId
  by_cases here : dId = n + 1
  · subst here
    simp [deliveredBelow]
  · rw [Function.update_of_ne here]
    have same : (1 ≤ dId ∧ dId ≤ (n + 1 : Nat)) ↔ (1 ≤ dId ∧ dId ≤ (n : Nat)) := by
      push_cast
      omega
    simp only [deliveredBelow, same]

theorem deliveredBelow_next (n : Nat) : deliveredBelow code data start n (n + 1) = none := by
  rw [deliveredBelow, if_neg]
  omega

theorem deliveryDistrict_effect {n : Nat} {r : Option Int}
    (h : deliveryDistrict code data start n db = .ok (db', r))
    (before : Delivering code data start n db) : Delivering code data start (n + 1) db' := by
  obtain ⟨rfl, chose⟩ := before
  have fresh : deliveredBelow code data start n (n + 1) = none := deliveredBelow_next n
  have oldest : ((deliver data (deliveredBelow code data start n) start).selectOldest data.wId
      (n + 1)).filter code.deliverable = chosen code data start (n + 1) := by
    rw [selectOldest_deliver fresh, chosen]
  have later {d : Option Delivered} (is : delivered code data start (n + 1) = d)
      (same : d.map Delivered.oId = chosen code data start (n + 1)) (dId : Int) (low : 1 ≤ dId)
      (high : dId ≤ (n + 1 : Nat)) :
      (delivered code data start dId).map Delivered.oId = chosen code data start dId := by
    by_cases here : dId = n + 1
    · rw [here, is, same]
    · exact chose dId low (by omega)
  unfold deliveryDistrict at h
  dsimp only at h
  rw [oldest] at h
  cases choice : chosen code data start (n + 1) with
  | none =>
    rw [choice] at h
    cases h
    have skipped : delivered code data start (n + 1) = none := by
      simp [delivered, choice]
    refine ⟨?_, later skipped (by rw [choice]; rfl)⟩
    rw [deliveredBelow_succ, skipped, ← fresh, Function.update_eq_self]
  | some oId =>
    rw [choice] at h
    obtain ⟨order, ordered, h⟩ := bind_eq_ok.mp h
    obtain ⟨olAmount, amount, h⟩ := bind_eq_ok.mp h
    cases h
    rw [orFail_eq_ok] at ordered amount
    have order' : code.order (start.selectOrders data.wId (n + 1) oId) = some order := by
      rw [← selectOrders_deliver data oId fresh]
      exact ordered
    have amount' : start.sumAmount data.wId (n + 1) oId = some olAmount := by
      cases snapshot : code.snapshot with
      | true =>
        rw [if_pos snapshot] at amount
        exact amount
      | false =>
        rw [if_neg (by simp [snapshot]), sumAmount_setDeliveryD] at amount
        rw [← amount]
        refine sumAmount_congr (congrArg (List.map OrderLine.olAmount) ?_)
        exact (selectLines_deliver data oId fresh).symm
    have now : delivered code data start (n + 1) = some { oId, oCId := order.oCId, olAmount } := by
      simp [delivered, choice, order', amount']
    refine ⟨?_, later now (by rw [choice]; rfl)⟩
    rw [deliveredBelow_succ, now, deliver_update fresh]

theorem delivery_effect {rs : List (Option Int)} (h : delivery code data start = .ok (db', rs)) :
    Delivering code data start 10 db' := by
  have none' : Delivering code data start 0 start := by
    constructor
    · have nobody : deliveredBelow code data start 0 = fun _ => none := by
        funext dId
        rw [deliveredBelow, if_neg]
        omega
      have uncredited : creditIn data.wId (fun _ => none) = id := by
        funext c
        simp [creditIn, credited]
      rw [nobody]
      simp [deliver, isDelivered, uncredited, update, delete]
    · intro dId low high
      omega
  exact rounds_invariant (fun _ _ _ _ _ ran before => deliveryDistrict_effect ran before) h none'

/-! ### The customers credited -/

/-- Whether an order is a customer's. -/
def Database.ordered (db : Database) (customer order : Int × Int × Int) : Bool :=
  ∃ o ∈ db.orders, o.key = order ∧ o.customer = customer

theorem deliver_ordered (ds : Int → Option Delivered) (customer order : Int × Int × Int) :
    (deliver data ds db).ordered customer order = db.ordered customer order := by
  have rows : (deliver data ds db).orders.map (fun o => (o.key, o.customer)) =
      db.orders.map fun o => (o.key, o.customer) := update_keeps _ fun o => rfl
  have among (t : List Order) : (∃ o ∈ t, o.key = order ∧ o.customer = customer) ↔
      (order, customer) ∈ t.map fun o => (o.key, o.customer) := by
    simp [and_comm]
  unfold Database.ordered
  rw [decide_eq_decide, among, among, rows]

/-- An order delivered is that of the customer credited. -/
theorem delivered_ordered (picks : ∀ os o, code.order os = some o → o ∈ os)
    (orders : (db.orders.map Order.key).Nodup) {n : Nat} {dId : Int} {d : Delivered}
    (is : deliveredBelow code data db n dId = some d) (customer : Int × Int × Int) :
    db.ordered customer (data.wId, dId, d.oId) = decide (customer = (data.wId, dId, d.oCId)) := by
  obtain ⟨-, ⟨order, picked, oCId⟩, -⟩ := deliveredBelow_some is
  obtain ⟨mem, key⟩ : order ∈ db.orders ∧ order.key = (data.wId, dId, d.oId) := by
    simpa [Database.selectOrders] using picks _ _ picked
  have owner : order.customer = (data.wId, dId, d.oCId) := by
    obtain ⟨w, d', -⟩ : order.oWId = data.wId ∧ order.oDId = dId ∧ order.oId = d.oId := by
      simpa [Order.key] using key
    rw [Order.customer, w, d', oCId]
  unfold Database.ordered
  rw [decide_eq_decide]
  constructor
  · rintro ⟨o, mem', key', rfl⟩
    rw [List.inj_on_of_nodup_map orders mem' mem (key'.trans key.symm), owner]
  · rintro rfl
    exact ⟨order, mem, key, owner⟩

theorem isDelivered_ordered (picks : ∀ os o, code.order os = some o → o ∈ os)
    (orders : (db.orders.map Order.key).Nodup) {n : Nat} {customer order : Int × Int × Int} :
    (isDelivered data.wId (deliveredBelow code data db n) order && db.ordered customer order) =
        true ↔
      ∃ d, deliveredBelow code data db n customer.2.1 = some d ∧
        customer = (data.wId, customer.2.1, d.oCId) ∧
        order = (data.wId, customer.2.1, d.oId) := by
  rw [Bool.and_eq_true, isDelivered_iff]
  constructor
  · rintro ⟨⟨d, is, key⟩, mine⟩
    rw [key, delivered_ordered picks orders is, decide_eq_true_eq] at mine
    have dId : customer.2.1 = order.2.1 := congrArg (fun k => k.2.1) mine
    rw [dId]
    exact ⟨d, is, mine, key⟩
  · rintro ⟨d, is, mine, key⟩
    have dId : order.2.1 = customer.2.1 := congrArg (fun k => k.2.1) key
    rw [dId]
    refine ⟨⟨d, is, key⟩, ?_⟩
    rw [key, delivered_ordered picks orders is]
    exact decide_eq_true mine

/-- The lines delivered just now to a customer total what the customer is credited. -/
theorem credited_lines (picks : ∀ os o, code.order os = some o → o ∈ os)
    (orders : (db.orders.map Order.key).Nodup) (n : Nat) (customer : Int × Int × Int) :
    ((db.orderLine.filter fun l => isDelivered data.wId (deliveredBelow code data db n) l.order &&
      db.ordered customer l.order).map OrderLine.olAmount).sum =
        (credited data.wId (deliveredBelow code data db n) customer).getD 0 := by
  cases credit : credited data.wId (deliveredBelow code data db n) customer with
  | none =>
    have nothing : (db.orderLine.filter fun l =>
        isDelivered data.wId (deliveredBelow code data db n) l.order &&
          db.ordered customer l.order) = [] := by
      apply List.filter_eq_nil_iff.mpr
      intro l _ both
      obtain ⟨d, is, mine, -⟩ := (isDelivered_ordered picks orders).mp both
      rw [credited_eq_some.mpr ⟨d, is, mine, rfl⟩] at credit
      cases credit
    rw [nothing]
    rfl
  | some olAmount =>
    obtain ⟨d, is, mine, rfl⟩ := credited_eq_some.mp credit
    have lines : (db.orderLine.filter fun l =>
        isDelivered data.wId (deliveredBelow code data db n) l.order &&
          db.ordered customer l.order) = db.selectLines data.wId customer.2.1 d.oId := by
      apply List.filter_congr
      intro l _
      rw [Bool.eq_iff_iff, isDelivered_ordered picks orders, decide_eq_true_eq]
      constructor
      · rintro ⟨d', is', -, key⟩
        obtain rfl : d' = d := Option.some.inj (is'.symm.trans is)
        exact key
      · exact fun key => ⟨d, is, mine, key⟩
    obtain ⟨-, -, amount⟩ := deliveredBelow_some is
    rw [lines]
    exact sumAmount_eq_some amount

end Delivery

/-! ## A small database -/

def oneDistrict : District := { (default : District) with dId := 1, dWId := 1, dNextOId := 2 }

/-- One district with one order, of one line and delivered. -/
def oneOrder : Database where
  warehouse := [{ (default : Warehouse) with wId := 1 }]
  district := [oneDistrict]
  customer := [{ (default : Customer) with cId := 1, cDId := 1, cWId := 1, cCredit := "GC" }]
  history := []
  newOrder := []
  orders := [{ (default : Order) with
    oId := 1, oDId := 1, oWId := 1, oCId := 1, oCarrierId := some 7, oOlCnt := 1 }]
  orderLine := [{ (default : OrderLine) with
    olOId := 1, olDId := 1, olWId := 1, olNumber := 1, olDeliveryD := some .currentTimestamp }]
  item := [{ (default : Item) with iId := 1 }]
  stock := [{ (default : Stock) with sIId := 1, sWId := 1, sQuantity := 50 }]

/-- The order, not delivered yet. -/
def oneOutstanding : Database :=
  { oneOrder with
    newOrder := [{ noOId := 1, noDId := 1, noWId := 1 }]
    orders := oneOrder.orders.map fun o => { o with oCarrierId := none }
    orderLine := oneOrder.orderLine.map fun l => { l with olDeliveryD := none, olAmount := 7 } }

instance neZero_sixteen : NeZero 16 := ⟨by decide⟩

/-- A New-Order of `n` lines, all of one item. -/
def oneItem (olIId : Int) (n : Fin 16) : NewOrderData where
  wId := 1
  dId := 1
  cId := 1
  oOlCnt := n
  orderLine := Vector.replicate 15 { olIId, olSupplyWId := 1, olQuantity := 5 }
  dId_bounds := by decide
  oOlCnt_le := Nat.le_of_lt_succ n.isLt

end Dbt2
