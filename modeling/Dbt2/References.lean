import Dbt2.Lib.Keys
import Dbt2.Throughput

/-!
# Keys and references of the database

The primary keys of the tables, and which rows name rows of other tables. Few of the references are
declared in any schema: it is the transactions that keep them.

* `Keys`, `References`: the keys are unique and the rows named exist;
* `execute_keys`, `execute_references`: every transaction that commits keeps both, whatever its
  input is;
* `Backend.attempt`: a transaction that is or is not committed, the step of a run.
-/

namespace Dbt2

open Table Fallible Transition

def Customer.district (c : Customer) : Int × Int := (c.cWId, c.cDId)
def History.district (h : History) : Int × Int := (h.hWId, h.hDId)

structure Keys (db : Database) : Prop where
  warehouse : Keyed Warehouse.wId db.warehouse
  district : Keyed District.key db.district
  customer : Keyed Customer.key db.customer
  newOrder : Keyed NewOrder.key db.newOrder
  orders : Keyed Order.key db.orders
  orderLine : Keyed OrderLine.key db.orderLine
  item : Keyed Item.iId db.item
  stock : Keyed Stock.key db.stock

structure References (db : Database) : Prop where
  district : Refers District.dWId db.district Warehouse.wId db.warehouse
  customer : Refers Customer.district db.customer District.key db.district
  payer : Refers History.customer db.history Customer.key db.customer
  paid : Refers History.district db.history District.key db.district
  outstanding : Refers NewOrder.key db.newOrder Order.key db.orders
  orders : Refers Order.customer db.orders Customer.key db.customer
  orderLine : Refers OrderLine.order db.orderLine Order.key db.orders
  item : Refers OrderLine.olIId db.orderLine Item.iId db.item
  stock : Refers Stock.sIId db.stock Item.iId db.item
  supply : Refers Stock.sWId db.stock Warehouse.wId db.warehouse

/-! ## New-Order -/

section NewOrder

variable {E : Type} {code : NewOrderCode E} {data : NewOrderData} {start db db' : Database}

/-- What is not changed of a row of stock. -/
def Stock.fixed (s : Stock) : (Int × Int) × Vector String 10 := (s.key, s.sDist)

/-- The stock row is updated in other columns, and only item 0 is given up unseen. -/
structure NewOrderCode.Sound (code : NewOrderCode E) : Prop where
  fixed : ∀ decr quantity remoteCnt s, (code.updateStock decr quantity remoteCnt s).fixed = s.fixed
  supply : ∀ wId olSupplyWId, code.stockWarehouse wId olSupplyWId = wId ∨
    code.stockWarehouse wId olSupplyWId = olSupplyWId
  unused : ∀ iId, code.unused iId = true → iId = 0

/-- A loop over lines has added lines of items, with keys of their own. -/
structure Lined (start db : Database) : Prop where
  item : db.item = start.item
  keys : Keyed OrderLine.key start.orderLine → Keyed OrderLine.key db.orderLine
  items : Refers OrderLine.olIId start.orderLine Item.iId start.item →
    Refers OrderLine.olIId db.orderLine Item.iId start.item
  stock : db.stock.map Stock.fixed = start.stock.map Stock.fixed

theorem selectItem_isSome {iId : Int} :
    (db.selectItem iId).isSome ↔ iId ∈ db.item.map Item.iId := by
  simp [Database.selectItem, List.find?_isSome]

theorem selectStock_isSome {iId wId : Int} :
    (db.selectStock iId wId).isSome ↔ (iId, wId) ∈ db.stock.map Stock.key := by
  simp [Database.selectStock, List.find?_isSome]

theorem updateStock_fixed (sound : code.Sound) (l : NoOrderLine) (iId wId sQuantity : Int) :
    (db.updateStock iId wId (takeStock code data l sQuantity)).stock.map Stock.fixed =
      db.stock.map Stock.fixed :=
  update_keeps Stock.fixed fun s => sound.fixed _ _ _ s

theorem newOrderLine_lined (sound : code.Sound) {oId : Int} {i : Nat} {r : OrderLineResult}
    (h : newOrderLine code data start oId i db = .ok (db', r)) (before : Lined start db) :
    Lined start db' := by
  obtain ⟨used, item⟩ := newOrderLine_item h
  have known : (data.line i).olIId ∈ start.item.map Item.iId := by
    split at item
    · exact selectItem_isSome.mp item
    · rw [← before.item]
      exact selectItem_isSome.mp item
  obtain ⟨_, -, h⟩ := bind_eq_ok.mp h
  obtain ⟨stock, -, h⟩ := bind_eq_ok.mp h
  obtain ⟨olDistInfo, -, h⟩ := bind_eq_ok.mp h
  obtain ⟨inserted, insertion, h⟩ := bind_eq_ok.mp h
  cases h
  rw [orFail_eq_ok] at insertion
  obtain ⟨t, accepted, rfl⟩ := Option.map_eq_some_iff.mp insertion
  constructor
  · exact before.item
  · exact fun keys => (before.keys keys).insert accepted
  · intro items
    obtain ⟨-, rfl⟩ := insert_eq_some.mp accepted
    exact (before.items items).append (refers_of_forall (by simpa [orderLineRow] using known))
  · exact (updateStock_fixed sound _ _ _ _).trans before.stock

theorem newOrder_lined (sound : code.Sound) {r : NewOrderResult}
    (h : newOrder code data start = .ok (db', r)) : Lined start db' := by
  obtain ⟨district, -, -, loop⟩ := newOrder_opened h
  have round (n : Nat) (s t : Database) (a : OrderLineResult) (_ : n < data.oOlCnt)
      (ran : newOrderLine code data start district.dNextOId n s = .ok (t, a))
      (before : Lined start s) : Lined start t :=
    newOrderLine_lined sound ran before
  exact rounds_invariant round loop ⟨rfl, id, id, rfl⟩

theorem keys_of_fixed (same : db'.stock.map Stock.fixed = db.stock.map Stock.fixed) :
    db'.stock.map Stock.key = db.stock.map Stock.key := by
  have keys := congrArg (List.map Prod.fst) same
  rwa [List.map_map, List.map_map] at keys

theorem newOrder_keys (sound : code.Sound) {r : NewOrderResult}
    (h : newOrder code data start = .ok (db', r)) (keys : Keys start) : Keys db' := by
  have lined := newOrder_lined sound h
  obtain ⟨district, opening, ls, -, same⟩ := newOrder_effect h
  constructor
  · rw [same]
    exact keys.warehouse
  · rw [same]
    exact keys.district.update fun x => rfl
  · rw [same]
    exact keys.customer
  · rw [same]
    exact keys.newOrder.append_one opening.newOrder
  · rw [same]
    exact keys.orders.append_one opening.orders
  · exact lined.keys keys.orderLine
  · exact lined.item ▸ keys.item
  · exact keys.stock.congr (keys_of_fixed lined.stock)

theorem selectCustomer_isSome {wId dId cId : Int} :
    (db.selectCustomer wId dId cId).isSome ↔ (wId, dId, cId) ∈ db.customer.map Customer.key := by
  simp [Database.selectCustomer, List.find?_isSome]

theorem newOrder_references (sound : code.Sound) {r : NewOrderResult}
    (h : newOrder code data start = .ok (db', r)) (refs : References start) : References db' := by
  have lined := newOrder_lined sound h
  obtain ⟨district, opening, ls, lines, same⟩ := newOrder_effect h
  have districts : db'.district.map District.key = start.district.map District.key := by
    rw [same]
    exact update_keeps District.key fun x => rfl
  have numbers : db'.district.map District.dWId = start.district.map District.dWId := by
    rw [same]
    exact update_keeps District.dWId fun x => rfl
  have stock := keys_of_fixed lined.stock
  have iIds : db'.stock.map Stock.sIId = start.stock.map Stock.sIId := by
    have first := congrArg (List.map Prod.fst) stock
    rwa [List.map_map, List.map_map] at first
  have wIds : db'.stock.map Stock.sWId = start.stock.map Stock.sWId := by
    have second := congrArg (List.map Prod.snd) stock
    rwa [List.map_map, List.map_map] at second
  have customer := selectCustomer_isSome.mp opening.customer
  have order : ∀ l ∈ ls, l.order ∈ (start.orders ++ [orderRow data district.dNextOId]).map
      Order.key := by
    intro l mem
    rw [lines.order mem]
    simp [Order.key, orderRow]
  rw [same] at districts numbers stock iIds wIds ⊢
  have items := lined.items refs.item
  rw [same] at items
  constructor
  · exact refs.district.congr numbers rfl
  · exact refs.customer.congr rfl districts
  · exact refs.payer
  · exact refs.paid.congr rfl districts
  · refine (refs.outstanding.grow _).append (refers_of_forall ?_)
    simp [NewOrder.key, Order.key, orderRow]
  · exact refs.orders.append (refers_of_forall (by simpa [Order.customer, orderRow] using customer))
  · exact (refs.orderLine.grow _).append (refers_of_forall order)
  · exact items
  · exact refs.stock.congr iIds rfl
  · exact refs.supply.congr wIds rfl

end NewOrder

/-! ## Payment -/

section Payment

variable {E : Type} {code : PaymentCode E} {rates : Rates} {data : PaymentData}
  {start : Database} {customer : Customer} {hData : String}

theorem paid_warehouse :
    (paid code data customer hData start).warehouse.map Warehouse.wId =
      start.warehouse.map Warehouse.wId :=
  update_keeps Warehouse.wId fun _ => rfl

theorem paid_district {C : Type} (column : District → C)
    (other : ∀ x ytd, column { x with dYtd := ytd } = column x) :
    (paid code data customer hData start).district.map column = start.district.map column :=
  update_keeps column fun _ => other _ _

theorem paid_customer {C : Type} (column : Customer → C)
    (other : ∀ c, column (paymentUpdate code data customer.cId customer.goodCredit c) = column c) :
    (paid code data customer hData start).customer.map column = start.customer.map column :=
  update_keeps column other

theorem payment_keys (posts : Posts rates code) (keys : Keys start) :
    Keys (paid code data customer hData start) := by
  constructor
  · exact keys.warehouse.congr paid_warehouse
  · exact keys.district.congr (paid_district _ fun _ _ => rfl)
  · exact keys.customer.congr (paid_customer _ fun c => (posts.update data _ _ c).key)
  · exact keys.newOrder
  · exact keys.orders
  · exact keys.orderLine
  · exact keys.item
  · exact keys.stock

theorem district_of_key {c c' : Customer} (same : c'.key = c.key) : c'.district = c.district := by
  rw [Customer.district, Customer.district, show c'.cWId = c.cWId from congrArg Prod.fst same,
    show c'.cDId = c.cDId from congrArg (fun k => k.2.1) same]

theorem payment_references (posts : Posts rates code) (refs : References start)
    (district : (data.wId, data.dId) ∈ start.district.map District.key)
    (payer : (data.cWId, data.cDId, customer.cId) ∈ start.customer.map Customer.key) :
    References (paid code data customer hData start) := by
  let after := paid code data customer hData start
  have districts : after.district.map District.key = start.district.map District.key :=
    paid_district _ fun _ _ => rfl
  have numbers : after.district.map District.dWId = start.district.map District.dWId :=
    paid_district _ fun _ _ => rfl
  have customers : after.customer.map Customer.key = start.customer.map Customer.key :=
    paid_customer _ fun c => (posts.update data _ _ c).key
  have homes : after.customer.map Customer.district = start.customer.map Customer.district :=
    paid_customer _ fun c => district_of_key (posts.update data _ _ c).key
  have warehouses : after.warehouse.map Warehouse.wId = start.warehouse.map Warehouse.wId :=
    paid_warehouse
  constructor
  · exact refs.district.congr numbers warehouses
  · exact refs.customer.congr homes districts
  · refine (refs.payer.congr rfl customers).append (refers_of_forall ?_)
    rw [customers]
    simpa [History.customer, historyRow] using payer
  · refine (refs.paid.congr rfl districts).append (refers_of_forall ?_)
    rw [districts]
    simpa [History.district, historyRow] using district
  · exact refs.outstanding
  · exact refs.orders.congr rfl customers
  · exact refs.orderLine
  · exact refs.item
  · exact refs.stock
  · exact refs.supply.congr rfl warehouses

end Payment

/-! ## Delivery -/

section Delivery

variable {data : DeliveryData} {ds : Int → Option Delivered} {start : Database}

theorem deliver_orders {C : Type} (column : Order → C)
    (other : ∀ o carrier, column { o with oCarrierId := carrier } = column o) :
    (deliver data ds start).orders.map column = start.orders.map column :=
  update_keeps column fun _ => other _ _

theorem deliver_orderLine {C : Type} (column : OrderLine → C)
    (other : ∀ l date, column { l with olDeliveryD := date } = column l) :
    (deliver data ds start).orderLine.map column = start.orderLine.map column :=
  update_keeps column fun _ => other _ _

theorem creditIn_keeps {C : Type} (column : Customer → C)
    (other : ∀ olAmount c, column (Customer.credit olAmount c) = column c) (wId : Int)
    (c : Customer) : column (creditIn wId ds c) = column c := by
  unfold creditIn
  split
  · exact other _ _
  · rfl

theorem deliver_customer {C : Type} (column : Customer → C)
    (other : ∀ olAmount c, column (Customer.credit olAmount c) = column c) :
    (deliver data ds start).customer.map column = start.customer.map column := by
  unfold deliver
  rw [List.map_map]
  exact List.map_congr_left fun c _ => creditIn_keeps column other data.wId c

theorem delivery_keys (keys : Keys start) : Keys (deliver data ds start) := by
  constructor
  · exact keys.warehouse
  · exact keys.district
  · exact keys.customer.congr (deliver_customer _ fun _ _ => rfl)
  · exact keys.newOrder.delete
  · exact keys.orders.congr (deliver_orders _ fun _ _ => rfl)
  · exact keys.orderLine.congr (deliver_orderLine _ fun _ _ => rfl)
  · exact keys.item
  · exact keys.stock

theorem delivery_references (refs : References start) : References (deliver data ds start) := by
  let after := deliver data ds start
  have customers : after.customer.map Customer.key = start.customer.map Customer.key :=
    deliver_customer _ fun _ _ => rfl
  have orders : after.orders.map Order.key = start.orders.map Order.key :=
    deliver_orders _ fun _ _ => rfl
  constructor
  · exact refs.district
  · exact refs.customer.congr (deliver_customer _ fun _ _ => rfl) rfl
  · exact refs.payer.congr rfl customers
  · exact refs.paid
  · exact refs.outstanding.delete.congr rfl orders
  · exact refs.orders.congr (deliver_orders _ fun _ _ => rfl) customers
  · exact refs.orderLine.congr (deliver_orderLine _ fun _ _ => rfl) orders
  · exact refs.item.congr (deliver_orderLine _ fun _ _ => rfl) rfl
  · exact refs.stock
  · exact refs.supply

end Delivery

/-! ## Runs -/

variable {b : Backend} {db db' : Database}

theorem nonsp_sound : Nonsp.newOrderCode.Sound where
  fixed _ _ _ _ := rfl
  supply _ _ := .inl rfl
  unused _ is := of_decide_eq_true is

theorem cockroach_sound : Cockroach.newOrderCode.Sound where
  fixed _ _ _ _ := rfl
  supply _ _ := .inl rfl
  unused _ is := by cases is

theorem pgsql_sound : Pgsql.newOrderCode.Sound where
  fixed _ _ _ _ := rfl
  supply _ _ := .inr rfl
  unused _ is := of_decide_eq_true is

theorem newOrder_sound {data : NewOrderData} (done : b.newOrder data db = some db') :
    ∃ (E : Type) (code : NewOrderCode E) (r : NewOrderResult),
      code.Sound ∧ newOrder code data db = .ok (db', r) := by
  cases b with
  | nonsp =>
    obtain ⟨r, ran⟩ := committed_eq_some.mp done
    exact ⟨_, _, r, nonsp_sound, Fallible.mapError_eq_ok.mp ran⟩
  | cockroach =>
    obtain ⟨r, ran⟩ := committed_eq_some.mp done
    exact ⟨_, _, r, cockroach_sound, ran⟩
  | pgsql =>
    obtain ⟨r, ran⟩ := committed_eq_some.mp done
    unfold Pgsql.newOrder at ran
    split at ran
    · cases ran
    · exact ⟨_, _, r, pgsql_sound, ran⟩

theorem execute_keys {data : NonspData} (done : b.execute data db = some db') (keys : Keys db) :
    Keys db' := by
  cases data with
  | newOrder data =>
    obtain ⟨E, code, r, sound, ran⟩ := newOrder_sound done
    exact newOrder_keys sound ran keys
  | payment data =>
    obtain ⟨E, code, r, posts, ran⟩ := payment_committed done
    obtain ⟨warehouse, district, customer, hData, -, -, -, rfl⟩ := payment_effect ran
    exact payment_keys posts keys
  | delivery data =>
    obtain ⟨E, code, rs, -, ran⟩ := delivery_committed done
    obtain ⟨rfl, -⟩ := delivery_effect ran
    exact delivery_keys keys
  | integrity | orderStatus | stockLevel =>
    obtain rfl := Option.some.inj done
    exact keys

theorem selectDistrict_isSome {wId dId : Int} :
    (db.selectDistrict wId dId).isSome ↔ (wId, dId) ∈ db.district.map District.key := by
  simp [Database.selectDistrict, List.find?_isSome]

theorem execute_references {data : NonspData} (done : b.execute data db = some db')
    (refs : References db) : References db' := by
  cases data with
  | newOrder data =>
    obtain ⟨E, code, r, sound, ran⟩ := newOrder_sound done
    exact newOrder_references sound ran refs
  | payment data =>
    obtain ⟨E, code, r, posts, ran⟩ := payment_committed done
    obtain ⟨warehouse, district, customer, hData, -, home, payer, rfl⟩ := payment_effect ran
    exact payment_references posts refs
      (selectDistrict_isSome.mp (Option.isSome_of_eq_some home))
      (selectCustomer_isSome.mp (Option.isSome_of_eq_some payer))
  | delivery data =>
    obtain ⟨E, code, rs, -, ran⟩ := delivery_committed done
    obtain ⟨rfl, -⟩ := delivery_effect ran
    exact delivery_references refs
  | integrity | orderStatus | stockLevel =>
    obtain rfl := Option.some.inj done
    exact refs

/-- One that is not committed, for whatever reason, leaves the database as it is. -/
def Backend.attempt (b : Backend) (db : Database) (e : NonspData × Bool) : Option Database :=
  if e.2 then b.execute e.1 db else some db

theorem attempt_cases {e : NonspData × Bool} (stepped : b.attempt db e = some db') :
    db' = db ∨ b.execute e.1 db = some db' := by
  unfold Backend.attempt at stepped
  split at stepped
  · exact .inr stepped
  · exact .inl (Option.some.inj stepped).symm

theorem run_keys {es : List (NonspData × Bool)} (ran : run b.attempt db es = some db')
    (keys : Keys db) : Keys db' := by
  refine run_invariant (fun s e t stepped before => ?_) ran keys
  obtain rfl | done := attempt_cases stepped
  · exact before
  · exact execute_keys done before

theorem run_references {es : List (NonspData × Bool)} (ran : run b.attempt db es = some db')
    (refs : References db) : References db' := by
  refine run_invariant (fun s e t stepped before => ?_) ran refs
  obtain rfl | done := attempt_cases stepped
  · exact before
  · exact execute_references done before

end Dbt2
