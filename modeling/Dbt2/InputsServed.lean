import Dbt2.LineContent
import Dbt2.PopulationKeys

/-!
# Inputs that are served

From a generated population on, whatever the drivers sent before, a transaction whose inputs are in
range commits, unless it is a New-Order that is to be rolled back.

* `Standing`, `OrderNumbers`: the rows that inputs in range name, and order ids not used yet;
* `newOrder_commits_iff`, `payment_commits`, `delivery_commits`: what each transaction needs;
* `inputs_served`: every run leaves it there.
-/

namespace Dbt2

open Draws Table Fallible Transition

/-! ## What has to be there -/

def Customer.identity (c : Customer) : (Int × Int × Int) × String := (c.key, c.cLast)
def District.numbering (x : District) : (Int × Int) × Int := (x.key, x.dNextOId)

/-- What no transaction changes of the rows that others look for. -/
structure Unmoved (db db' : Database) : Prop where
  warehouse : db'.warehouse.map Warehouse.wId = db.warehouse.map Warehouse.wId
  district : db'.district.map District.key = db.district.map District.key
  customer : db'.customer.map Customer.identity = db.customer.map Customer.identity
  item : db'.item = db.item
  stock : db'.stock.map Stock.fixed = db.stock.map Stock.fixed

theorem Unmoved.refl (db : Database) : Unmoved db db := ⟨rfl, rfl, rfl, rfl, rfl⟩

/-- Every row that inputs in range name. -/
structure Standing (card : TableCardinality) (db : Database) : Prop where
  warehouse : ∀ w, 1 ≤ w ∧ w ≤ card.warehouses → w ∈ db.warehouse.map Warehouse.wId
  district : ∀ w d, 1 ≤ w ∧ w ≤ card.warehouses → 1 ≤ d ∧ d ≤ 10 →
    (w, d) ∈ db.district.map District.key
  customer : ∀ w d c, 1 ≤ w ∧ w ≤ card.warehouses → 1 ≤ d ∧ d ≤ 10 → 1 ≤ c ∧ c ≤ 3000 →
    ∃ x ∈ db.customer.map Customer.identity, x.1 = (w, d, c)
  last : ∀ w d k, 1 ≤ w ∧ w ≤ card.warehouses → 1 ≤ d ∧ d ≤ 10 → 0 ≤ k ∧ k ≤ 999 →
    ∃ x ∈ db.customer.map Customer.identity, ∃ c, x = ((w, d, c), getCLast k)
  numbered : ∀ x ∈ db.customer.map Customer.identity, 1 ≤ x.1.2.2
  item : ∀ i, i ∈ db.item.map Item.iId ↔ 1 ≤ i ∧ i ≤ card.items
  stock : ∀ i w, 1 ≤ i ∧ i ≤ card.items → 1 ≤ w ∧ w ≤ card.warehouses →
    ∃ x ∈ db.stock.map Stock.fixed, x.1 = (i, w)
  dist : ∀ x ∈ db.stock.map Stock.fixed, ∀ d, Datagen.Ascii (x.2.get d)

theorem Standing.unmoved {card : TableCardinality} {db db' : Database} (h : Standing card db)
    (u : Unmoved db db') : Standing card db' := by
  constructor
  · rw [u.warehouse]
    exact h.warehouse
  · rw [u.district]
    exact h.district
  · rw [u.customer]
    exact h.customer
  · rw [u.customer]
    exact h.last
  · rw [u.customer]
    exact h.numbered
  · rw [u.item]
    exact h.item
  · rw [u.stock]
    exact h.stock
  · rw [u.stock]
    exact h.dist

/-- Order ids in use are below the next one of their district, and no order is without lines. -/
structure OrderNumbers (db : Database) : Prop where
  below : ∀ x ∈ db.district.map District.numbering, ∀ oId,
    (x.1.1, x.1.2, oId) ∈ db.orders.map Order.key → oId < x.2
  lines : Refers Order.key db.orders OrderLine.order db.orderLine

structure Ready (card : TableCardinality) (db : Database) : Prop where
  keys : Keys db
  references : References db
  standing : Standing card db
  numbers : OrderNumbers db

theorem selectWarehouse_isSome {db : Database} {wId : Int} :
    (db.selectWarehouse wId).isSome ↔ wId ∈ db.warehouse.map Warehouse.wId := by
  simp [Database.selectWarehouse, List.find?_isSome]

section

variable {card : TableCardinality} {db : Database}

theorem Standing.hasCustomer (h : Standing card db) {w d c : Int}
    (warehouse : 1 ≤ w ∧ w ≤ card.warehouses) (district : 1 ≤ d ∧ d ≤ 10)
    (customer : 1 ≤ c ∧ c ≤ 3000) : (db.selectCustomer w d c).isSome := by
  obtain ⟨x, mem, key⟩ := h.customer w d c warehouse district customer
  obtain ⟨row, inside, rfl⟩ := List.mem_map.mp mem
  exact selectCustomer_isSome.mpr (List.mem_map.mpr ⟨row, inside, key⟩)

/-- Somebody in the district has the name. -/
theorem Standing.named (h : Standing card db) {w d k : Int} {cLast : String}
    (warehouse : 1 ≤ w ∧ w ≤ card.warehouses) (district : 1 ≤ d ∧ d ≤ 10) (drawn : 0 ≤ k ∧ k ≤ 999)
    (last : cLast = getCLast k) :
    ∃ c ∈ db.customer, c.cWId = w ∧ c.cDId = d ∧ c.cLast = cLast := by
  obtain ⟨x, mem, n, rfl⟩ := h.last w d k warehouse district drawn
  obtain ⟨c, inside, same⟩ := List.mem_map.mp mem
  have key : c.key = (w, d, n) := congrArg Prod.fst same
  refine ⟨c, inside, congrArg Prod.fst key, congrArg (fun key => key.2.1) key, ?_⟩
  exact (congrArg Prod.snd same).trans last.symm

theorem Standing.hasStock (h : Standing card db) {i w : Int} (item : 1 ≤ i ∧ i ≤ card.items)
    (warehouse : 1 ≤ w ∧ w ≤ card.warehouses) : (db.selectStock i w).isSome := by
  obtain ⟨x, mem, key⟩ := h.stock i w item warehouse
  obtain ⟨row, inside, rfl⟩ := List.mem_map.mp mem
  exact selectStock_isSome.mpr (List.mem_map.mpr ⟨row, inside, key⟩)

end

/-! ## New-Order -/

section NewOrder

variable {E : Type} {code : NewOrderCode E} {data : NewOrderData} {start db : Database}
  {card : TableCardinality}

/-- One byte for each character is never cut through. -/
theorem takeBytes_ascii (n : Nat) {cs : List Char} (ascii : ∀ c ∈ cs, c.utf8Size = 1) :
    takeBytes n cs = cs.take n := by
  induction cs generalizing n with
  | nil => cases n <;> rfl
  | cons c cs ih =>
    have size := ascii c List.mem_cons_self
    cases n with
    | zero => simp [takeBytes, size]
    | succ n =>
      simp [takeBytes, size, ih n fun c mem => ascii c (List.mem_cons_of_mem _ mem)]

theorem sum_ascii {cs : List Char} (ascii : ∀ c ∈ cs, c.utf8Size = 1) :
    (cs.map Char.utf8Size).sum = cs.length := by
  rw [List.map_congr_left ascii, List.map_const', List.sum_replicate, smul_eq_mul, mul_one]

theorem snprintf_ascii (n : Nat) {s : String} (ascii : Datagen.Ascii s) :
    (snprintf n s).isSome := by
  have size : s.utf8ByteSize = s.toList.length := by
    rw [utf8ByteSize_eq, sum_ascii ascii]
  have kept := sum_ascii fun c mem => ascii c (List.mem_of_mem_take (i := n) mem)
  rw [snprintf, takeBytes_ascii n ascii, kept, size, List.length_take, if_pos rfl]
  rfl

/-- What a round leaves as it was, and the lines so far. -/
structure LinesPlaced (code : NewOrderCode E) (data : NewOrderData) (start : Database) (oId : Int)
    (n : Nat) (db : Database) : Prop where
  unmoved : Unmoved start db
  lines : ∃ ls, LinesOf code data oId n ls ∧ db.orderLine = start.orderLine ++ ls

/-- What the statements of a backend accept. -/
structure NewOrderCode.Accepts (code : NewOrderCode E) : Prop where
  sound : code.Sound
  text : ∀ s, Datagen.Ascii s → (code.olDistInfo s).isSome

/-- What a round looks for. -/
structure Suppliable (card : TableCardinality) (data : NewOrderData) (i : Nat) : Prop where
  supply : 1 ≤ (data.line i).olSupplyWId ∧ (data.line i).olSupplyWId ≤ card.warehouses
  item : (data.line i).olIId ≠ 0 → 1 ≤ (data.line i).olIId ∧ (data.line i).olIId ≤ card.items

theorem newOrderLine_commits (accepts : code.Accepts) (standing : Standing card start) {oId : Int}
    {i : Nat} (before : LinesPlaced code data start oId i db)
    (home : 1 ≤ data.wId ∧ data.wId ≤ card.warehouses) (line : Suppliable card data i)
    (used : (data.line i).olIId ≠ 0)
    (fresh : ∀ l ∈ start.orderLine, l.order ≠ (data.wId, data.dId, oId)) :
    ∃ t r, newOrderLine code data start oId i db = .ok (t, r) ∧
      LinesPlaced code data start oId (i + 1) t := by
  have inRange := line.item used
  have reads : Standing card (if code.snapshot then start else db) := by
    split
    · exact standing
    · exact standing.unmoved before.unmoved
  have known : ¬ code.unused (data.line i).olIId = true := fun is =>
    used (accepts.sound.unused _ is)
  have warehouse : 1 ≤ code.stockWarehouse data.wId (data.line i).olSupplyWId ∧
      code.stockWarehouse data.wId (data.line i).olSupplyWId ≤ card.warehouses := by
    obtain is | is := accepts.sound.supply data.wId (data.line i).olSupplyWId
    · rw [is]
      exact home
    · rw [is]
      exact line.supply
  obtain ⟨item, foundItem⟩ := Option.isSome_iff_exists.mp
    (selectItem_isSome.mpr ((reads.item _).mpr inRange))
  obtain ⟨stock, foundStock⟩ := Option.isSome_iff_exists.mp (reads.hasStock inRange warehouse)
  have row := List.mem_map_of_mem (f := Stock.fixed) (List.mem_of_find?_eq_some foundStock)
  obtain ⟨olDistInfo, text⟩ := Option.isSome_iff_exists.mp
    (accepts.text (stock.sDist.get data.dist) (reads.dist _ row data.dist))
  obtain ⟨ls, lines, all⟩ := before.lines
  let added := orderLineRow code data oId i (code.olAmount item.iPrice (data.line i).olQuantity)
    olDistInfo
  have new : added.key ∉ db.orderLine.map OrderLine.key := by
    rw [all, List.map_append, List.mem_append, not_or]
    constructor
    · intro mem
      obtain ⟨l, old, same⟩ := List.mem_map.mp mem
      exact fresh l old (congrArg Prod.fst same)
    · intro mem
      obtain ⟨l, own, same⟩ := List.mem_map.mp mem
      have number := (lines.numbers.mem l.olNumber).mp (List.mem_map_of_mem own)
      have last : l.olNumber = i + 1 := congrArg Prod.snd same
      omega
  have accepted : Table.insert OrderLine.key db.orderLine added = some (db.orderLine ++ [added]) :=
    insert_eq_some.mpr ⟨new, rfl⟩
  let updated := db.updateStock (data.line i).olIId
    (code.stockWarehouse data.wId (data.line i).olSupplyWId)
    (takeStock code data (data.line i) (code.quantity stock.sQuantity))
  have inserted : updated.insertOrderLine added =
      some { updated with orderLine := db.orderLine ++ [added] } :=
    congrArg (Option.map _) accepted
  have ran : ∃ r, newOrderLine code data start oId i db =
      .ok ({ updated with orderLine := db.orderLine ++ [added] }, r) := by
    unfold newOrderLine
    simp only [known, Bool.false_eq_true, if_false, foundItem, foundStock, text, orFail_some_bind]
    rw [inserted, orFail_some_bind]
    exact ⟨_, rfl⟩
  obtain ⟨r, ran⟩ := ran
  refine ⟨_, r, ran, ?_, ?_⟩
  · have u := before.unmoved
    exact ⟨u.warehouse, u.district, u.customer, u.item,
      (updateStock_fixed accepts.sound _ _ _ _).trans u.stock⟩
  · refine ⟨ls ++ [added], lines.append _ olDistInfo, ?_⟩
    dsimp only
    rw [all, List.append_assoc]

theorem newOrderLine_missing (standing : Standing card start) {oId : Int} {i : Nat}
    (before : LinesPlaced code data start oId i db) (unused : (data.line i).olIId = 0) :
    ∃ e, newOrderLine code data start oId i db = .error e := by
  cases ran : newOrderLine code data start oId i db with
  | error e => exact ⟨e, rfl⟩
  | ok result =>
    obtain ⟨-, item⟩ := newOrderLine_item ran
    have reads : Standing card (if code.snapshot then start else db) := by
      split
      · exact standing
      · exact standing.unmoved before.unmoved
    have range := (reads.item _).mp (selectItem_isSome.mp item)
    omega

theorem Ready.opening (ready : Ready card start)
    (home : 1 ≤ data.wId ∧ data.wId ≤ card.warehouses) (customer : 1 ≤ data.cId ∧ data.cId ≤ 3000) :
    ∃ district, Opening data start district := by
  obtain ⟨district, found⟩ := Option.isSome_iff_exists.mp
    (selectDistrict_isSome.mpr (ready.standing.district _ _ home data.dId_bounds))
  have key : district.key = (data.wId, data.dId) := by simpa using List.find?_some found
  have numbering : ((data.wId, data.dId), district.dNextOId) ∈
      start.district.map District.numbering := by
    rw [← key]
    exact List.mem_map_of_mem (f := District.numbering) (List.mem_of_find?_eq_some found)
  have new : (data.wId, data.dId, district.dNextOId) ∉ start.orders.map Order.key :=
    fun mem => lt_irrefl _ (ready.numbers.below _ numbering _ mem)
  refine ⟨district, ?_⟩
  constructor
  · exact selectWarehouse_isSome.mpr (ready.standing.warehouse _ home)
  · exact found
  · exact ready.standing.hasCustomer home data.dId_bounds customer
  · exact fun mem => new (ready.references.outstanding mem)
  · exact new

/-- An order is placed unless one of its lines asks for item 0. -/
theorem newOrder_commits_iff (accepts : code.Accepts) (ready : Ready card start)
    (home : 1 ≤ data.wId ∧ data.wId ≤ card.warehouses) (customer : 1 ≤ data.cId ∧ data.cId ≤ 3000)
    (lines : ∀ i < data.oOlCnt, Suppliable card data i) :
    (committed (newOrder code data start)).isSome ↔
      ∀ i < data.oOlCnt, (data.line i).olIId ≠ 0 := by
  obtain ⟨district, opening⟩ := ready.opening home customer
  have fresh : ∀ l ∈ start.orderLine, l.order ≠ (data.wId, data.dId, district.dNextOId) := by
    intro l mem same
    exact opening.orders (same ▸ ready.references.orderLine.mem mem)
  have header : LinesPlaced code data start district.dNextOId 0
      (ordered data district.dNextOId start) := by
    refine ⟨⟨rfl, update_keeps District.key fun _ => rfl, rfl, rfl, rfl⟩, [], ?_, ?_⟩
    · exact ⟨Numbered.empty (by simp), by simp⟩
    · exact (List.append_nil _).symm
  have round (i : Nat) (db : Database) (inside : i < data.oOlCnt)
      (before : LinesPlaced code data start district.dNextOId i db) :
      ((data.line i).olIId ≠ 0 ∧ ∃ t r,
        newOrderLine code data start district.dNextOId i db = .ok (t, r) ∧
          LinesPlaced code data start district.dNextOId (i + 1) t) ∨
      (¬ (data.line i).olIId ≠ 0 ∧ ∃ e,
        newOrderLine code data start district.dNextOId i db = .error e) := by
    by_cases unused : (data.line i).olIId = 0
    · exact .inr ⟨not_not.mpr unused, newOrderLine_missing ready.standing before unused⟩
    · exact .inl ⟨unused, newOrderLine_commits accepts ready.standing before home
        (lines i inside) unused fresh⟩
  obtain ⟨all, t, rs, loop, -⟩ | ⟨⟨i, inside, unused⟩, e, failed⟩ := rounds_cases round header
  · obtain ⟨r, done⟩ := newOrder_succeeds opening loop
    exact iff_of_true (Option.isSome_of_eq_some (committed_eq_some.mpr ⟨r, done⟩)) all
  · have never (r : Database × NewOrderResult) : newOrder code data start ≠ .ok r := by
      intro ran
      obtain ⟨district', opening', -, loop⟩ := newOrder_opened ran
      obtain rfl : district' = district := Option.some.inj (opening'.found.symm.trans opening.found)
      cases failed.symm.trans loop
    refine iff_of_false (fun done => ?_) fun all => unused (all i inside)
    obtain ⟨db', done⟩ := Option.isSome_iff_exists.mp done
    obtain ⟨r, ran⟩ := committed_eq_some.mp done
    exact never _ ran

end NewOrder

/-! ## Payment -/

section Payment

variable {E : Type} {code : PaymentCode E} {data : PaymentData} {start : Database}
  {card : TableCardinality} {wId : Int}

/-- Customers keep their ids and names, and are found whatever positive id they have. -/
structure PaymentCode.Accepts (code : PaymentCode E) : Prop where
  good : ∀ hAmount c, (code.updateGoodCredit hAmount c).identity = c.identity
  bad : ∀ hAmount text c, (code.updateBadCredit hAmount text c).identity = c.identity
  found : ∀ cId, 1 ≤ cId → code.found cId = true

theorem PaymentCode.Accepts.update (accepts : code.Accepts) (cId : Int) (good : Bool)
    (c : Customer) : (paymentUpdate code data cId good c).identity = c.identity := by
  unfold paymentUpdate
  cases good with
  | true => exact accepts.good data.hAmount c
  | false => exact accepts.bad data.hAmount _ c

/-- The customer in the middle of those with a name that somebody has. -/
theorem Standing.byName (standing : Standing card start) {k : Int}
    (warehouse : 1 ≤ data.cWId ∧ data.cWId ≤ card.warehouses)
    (district : 1 ≤ data.cDId ∧ data.cDId ≤ 10) (low : 0 ≤ k ∧ k ≤ 999)
    (last : data.cLast = getCLast k) :
    ∃ c, middle (start.selectByName data.cWId data.cDId data.cLast) = some c ∧ 1 ≤ c.cId ∧
      (data.cWId, data.cDId, c.cId) ∈ start.customer.map Customer.key := by
  obtain ⟨row, inside, fields⟩ := standing.named warehouse district low last
  let rows := start.selectByName data.cWId data.cDId data.cLast
  have selected (c : Customer) : c ∈ rows ↔ c ∈ start.customer ∧ c.cWId = data.cWId ∧
      c.cDId = data.cDId ∧ c.cLast = data.cLast := by
    simp [rows, Database.selectByName]
  have some' : row ∈ rows := (selected row).mpr ⟨inside, fields⟩
  have bound : (rows.length - 1) / 2 < rows.length := by
    have := List.length_pos_of_mem some'
    omega
  have own := List.getElem_mem bound
  obtain ⟨mem, warehouse, district, -⟩ := (selected _).mp own
  refine ⟨rows[(rows.length - 1) / 2], List.getElem?_eq_getElem bound, ?_, ?_⟩
  · exact standing.numbered _ (List.mem_map_of_mem mem)
  · rw [← warehouse, ← district]
    exact List.mem_map_of_mem (f := Customer.key) mem

theorem payment_commits (accepts : code.Accepts) (standing : Standing card start)
    (home : 1 ≤ wId ∧ wId ≤ card.warehouses) (inRange : data.InRange card wId) :
    (committed (payment code data start)).isSome := by
  have here : 1 ≤ data.wId ∧ data.wId ≤ card.warehouses := inRange.home ▸ home
  obtain ⟨warehouse, foundWarehouse⟩ := Option.isSome_iff_exists.mp
    (selectWarehouse_isSome.mpr (standing.warehouse _ here))
  obtain ⟨district, foundDistrict⟩ := Option.isSome_iff_exists.mp
    (selectDistrict_isSome.mpr (standing.district _ _ here inRange.district))
  have customer : ∃ cId, paymentCustomer code data start = some cId ∧
      (start.selectCustomer data.cWId data.cDId cId).isSome := by
    unfold paymentCustomer
    obtain ⟨unknown, k, range, last⟩ | ⟨range, -⟩ := inRange.customer
    · obtain ⟨c, found, positive, mem⟩ :=
        standing.byName inRange.customerWarehouse inRange.customerDistrict range last
      refine ⟨c.cId, ?_, selectCustomer_isSome.mpr mem⟩
      rw [if_pos (show data.cId = 0 from unknown), found, Option.map_some, Option.filter_some,
        if_pos (accepts.found _ positive)]
    · refine ⟨data.cId, if_neg (by omega), ?_⟩
      exact standing.hasCustomer inRange.customerWarehouse inRange.customerDistrict range
  obtain ⟨cId, named, there⟩ := customer
  obtain ⟨customer, foundCustomer⟩ := Option.isSome_iff_exists.mp there
  -- the updates in between are of other columns
  let warehousePaid := start.payWarehouse data.wId data.hAmount
  let districtPaid := warehousePaid.payDistrict data.wId data.dId data.hAmount
  have district' : warehousePaid.selectDistrict data.wId data.dId = some district := foundDistrict
  have named' : paymentCustomer code data districtPaid = some cId := named
  have customer' : districtPaid.selectCustomer data.cWId data.cDId cId = some customer :=
    foundCustomer
  have ran : ∃ r, payment code data start = .ok r := by
    unfold payment
    simp only [foundWarehouse, warehousePaid, districtPaid, district', named', customer',
      orFail_some_bind]
    exact ⟨_, rfl⟩
  obtain ⟨r, done⟩ := ran
  exact Option.isSome_of_eq_some (committed_eq_some.mpr ⟨r.2, done⟩)

end Payment

/-! ## Delivery -/

section Delivery

variable {E : Type} {code : DeliveryCode E} {data : DeliveryData} {start db : Database}

/-- What a round leaves as it was, and the outstanding orders it leaves. -/
structure Delivers (start db : Database) : Prop where
  newOrder : db.newOrder.map NewOrder.key ⊆ start.newOrder.map NewOrder.key
  orders : db.orders.map Order.key = start.orders.map Order.key
  orderLine : db.orderLine.map OrderLine.order = start.orderLine.map OrderLine.order

theorem sumAmount_isSome {wId dId oId : Int} :
    (db.sumAmount wId dId oId).isSome ↔ (wId, dId, oId) ∈ db.orderLine.map OrderLine.order := by
  unfold Database.sumAmount
  split
  case h_1 none =>
    have nobody : ∀ l ∈ db.orderLine, l.order ≠ (wId, dId, oId) := by
      simpa [Database.selectLines, List.filter_eq_nil_iff] using none
    refine iff_of_false (by simp) fun mem => ?_
    obtain ⟨l, inside, same⟩ := List.mem_map.mp mem
    exact nobody l inside same
  case h_2 some' =>
    obtain ⟨l, own⟩ := List.exists_mem_of_ne_nil _ some'
    have row : l ∈ db.orderLine ∧ l.order = (wId, dId, oId) := by
      simpa [Database.selectLines] using own
    exact iff_of_true rfl (List.mem_map.mpr ⟨l, row⟩)

theorem selectOldest_mem {wId dId oId : Int} (oldest : db.selectOldest wId dId = some oId) :
    (wId, dId, oId) ∈ db.newOrder.map NewOrder.key := by
  have mem := List.min?_mem oldest
  obtain ⟨n, own, rfl⟩ := List.mem_map.mp mem
  obtain ⟨inside, here⟩ := List.mem_filter.mp own
  have own : n.noWId = wId ∧ n.noDId = dId := by simpa using here
  exact List.mem_map.mpr ⟨n, inside, by rw [NewOrder.key, own.1, own.2]⟩

theorem deliveryDistrict_commits (single : ∀ o, code.order [o] = some o) (keys : Keys start)
    (references : References start) (numbers : OrderNumbers start) (i : Nat)
    (before : Delivers start db) :
    ∃ t r, deliveryDistrict code data start i db = .ok (t, r) ∧ Delivers start t := by
  unfold deliveryDistrict
  dsimp only
  split
  case h_1 => exact ⟨db, none, rfl, before⟩
  case h_2 oId found =>
    let dId : Int := i + 1
    have oldest : db.selectOldest data.wId dId = some oId := (Option.filter_eq_some_iff.mp found).1
    have known : (data.wId, dId, oId) ∈ start.orders.map Order.key :=
      references.outstanding (before.newOrder (selectOldest_mem oldest))
    have listed := before.orders ▸ known
    obtain ⟨order, inside, key⟩ := List.mem_map.mp listed
    have orders : Keyed Order.key db.orders := keys.orders.congr before.orders
    have alone : (db.deleteNewOrder data.wId dId oId).selectOrders data.wId dId oId = [order] :=
      filter_matching orders (fun o is => of_decide_eq_true is) inside (decide_eq_true key)
    let opened := db.deleteNewOrder data.wId dId oId
    let carried := opened.setCarrier data.wId dId oId data.oCarrierId
    let delivered := carried.setDeliveryD data.wId dId oId
    have keptOrders : delivered.orders.map Order.key = db.orders.map Order.key :=
      update_keeps Order.key fun _ => rfl
    have keptLines : delivered.orderLine.map OrderLine.order = db.orderLine.map OrderLine.order :=
      update_keeps OrderLine.order fun _ => rfl
    have lines := numbers.lines known
    have amount : ((if code.snapshot then start else delivered).sumAmount data.wId dId
        oId).isSome := by
      split
      · exact sumAmount_isSome.mpr lines
      · exact sumAmount_isSome.mpr (keptLines ▸ before.orderLine ▸ lines)
    obtain ⟨olAmount, sum⟩ := Option.isSome_iff_exists.mp amount
    rw [alone, single, orFail_some_bind, sum, orFail_some_bind]
    refine ⟨_, _, rfl, ?_⟩
    constructor
    · exact List.Subset.trans (List.filter_sublist.map NewOrder.key).subset before.newOrder
    · exact keptOrders.trans before.orders
    · exact keptLines.trans before.orderLine

theorem delivery_commits (single : ∀ o, code.order [o] = some o) (keys : Keys start)
    (references : References start) (numbers : OrderNumbers start) :
    (committed (delivery code data start)).isSome := by
  have round (i : Nat) (db : Database) (rs : List (Option Int)) (_ : i < 10)
      (before : Delivers start db) :
      ∃ t r, deliveryDistrict code data start i db = .ok (t, r) ∧ Delivers start t :=
    deliveryDistrict_commits single keys references numbers i before
  obtain ⟨t, rs, done, -⟩ := rounds_succeed round ⟨List.Subset.refl _, rfl, rfl⟩
  exact Option.isSome_of_eq_some (committed_eq_some.mpr ⟨rs, done⟩)

end Delivery

/-! ## What every transaction keeps -/

section Kept

variable {b : Backend} {db db' : Database} {card : TableCardinality}

theorem committed_mapError {E F R : Type} (f : E → F) (execution : Except E (Database × R)) :
    committed (execution.mapError f) = committed execution := by
  cases execution <;> rfl

theorem nonsp_accepts : Nonsp.newOrderCode.Accepts := ⟨nonsp_sound, fun _ _ => rfl⟩
theorem cockroach_accepts : Cockroach.newOrderCode.Accepts :=
  ⟨cockroach_sound, fun _ => snprintf_ascii _⟩
theorem pgsql_accepts : Pgsql.newOrderCode.Accepts := ⟨pgsql_sound, fun _ _ => rfl⟩

theorem newOrder_code (b : Backend) : ∃ (E : Type) (code : NewOrderCode E), code.Accepts ∧
    ∀ (data : NewOrderData) (db : Database), 1 ≤ data.oOlCnt →
      b.newOrder data db = committed (newOrder code data db) := by
  cases b with
  | nonsp => exact ⟨_, _, nonsp_accepts, fun data db _ => committed_mapError _ _⟩
  | cockroach => exact ⟨_, _, cockroach_accepts, fun _ _ _ => rfl⟩
  | pgsql =>
    refine ⟨_, _, pgsql_accepts, fun data db some' => ?_⟩
    rw [Backend.newOrder, Pgsql.newOrder, if_neg (by omega)]

theorem payment_code (b : Backend) : ∃ (E : Type) (code : PaymentCode E), code.Accepts ∧
    ∀ (data : PaymentData) (db : Database),
      b.payment data db = committed (payment code data db) := by
  cases b with
  | nonsp =>
    refine ⟨_, Nonsp.paymentCode, ⟨fun _ _ => rfl, fun _ _ _ => rfl, fun cId positive => ?_⟩,
      fun data db => committed_mapError _ _⟩
    exact decide_eq_true (by omega)
  | cockroach =>
    exact ⟨_, Cockroach.paymentCode, ⟨fun _ _ => rfl, fun _ _ _ => rfl, fun _ _ => rfl⟩,
      fun _ _ => rfl⟩
  | pgsql =>
    exact ⟨_, Pgsql.paymentCode, ⟨fun _ _ => rfl, fun _ _ _ => rfl, fun _ _ => rfl⟩,
      fun _ _ => rfl⟩

theorem delivery_code (b : Backend) : ∃ (E : Type) (code : DeliveryCode E),
    (∀ o, code.order [o] = some o) ∧
    ∀ (data : DeliveryData) (db : Database),
      b.delivery data db = committed (delivery code data db) := by
  cases b with
  | nonsp => exact ⟨_, Nonsp.deliveryCode, fun _ => rfl, fun data db => committed_mapError _ _⟩
  | cockroach => exact ⟨_, Cockroach.deliveryCode, fun _ => rfl, fun _ _ => rfl⟩
  | pgsql => exact ⟨_, Pgsql.deliveryCode, fun _ => rfl, fun _ _ => rfl⟩

theorem OrderNumbers.congr (h : OrderNumbers db)
    (districts : db'.district.map District.numbering = db.district.map District.numbering)
    (orders : db'.orders.map Order.key = db.orders.map Order.key)
    (lines : db'.orderLine.map OrderLine.order = db.orderLine.map OrderLine.order) :
    OrderNumbers db' := by
  constructor
  · rw [districts, orders]
    exact h.below
  · exact h.lines.congr orders lines

theorem newOrder_unmoved {E : Type} {code : NewOrderCode E} {data : NewOrderData}
    {r : NewOrderResult} (sound : code.Sound) (some' : 1 ≤ data.oOlCnt) (keys : Keys db)
    (numbers : OrderNumbers db) (ran : newOrder code data db = .ok (db', r)) :
    Unmoved db db' ∧ OrderNumbers db' := by
  have lined := newOrder_lined sound ran
  obtain ⟨district, opening, ls, lines, same⟩ := newOrder_effect ran
  refine ⟨?_, ?_, ?_⟩
  · constructor
    · rw [same]
      rfl
    · rw [same]
      exact update_keeps District.key fun _ => rfl
    · rw [same]
      rfl
    · exact lined.item
    · exact lined.stock
  · intro x mem oId used
    rw [same] at mem used
    obtain ⟨y, inY, rfl⟩ := List.mem_map.mp mem
    obtain ⟨z, inZ, rfl⟩ := mem_update.mp inY
    have before := numbers.below _ (List.mem_map_of_mem inZ) oId
    have used : (z.dWId, z.dId, oId) ∈ (db.orders ++ [orderRow data district.dNextOId]).map
        Order.key := by
      split at used <;> exact used
    rw [List.map_append, List.mem_append] at used
    obtain old | new := used
    · have below : oId < z.dNextOId := before old
      split
      · exact Int.lt_add_one_of_le below.le
      · exact below
    · have key : z.key = (data.wId, data.dId) ∧ oId = district.dNextOId := by
        simpa [orderRow, Order.key, District.key, and_assoc] using new
      have own : district.key = (data.wId, data.dId) := by
        simpa using List.find?_some opening.found
      obtain rfl : z = district := keys.district.eq inZ (List.mem_of_find?_eq_some opening.found)
        (key.1.trans own.symm)
      rw [if_pos (decide_eq_true key.1), key.2]
      exact Int.lt_succ _
  · rw [same]
    refine (numbers.lines.grow ls).append (refers_of_forall ?_)
    have first : (1 : Int) ∈ ls.map OrderLine.olNumber := (lines.numbers.mem 1).mpr (by omega)
    obtain ⟨l, own, -⟩ := List.mem_map.mp first
    have order := lines.order own
    simp only [List.mem_singleton, forall_eq]
    rw [List.map_append, List.mem_append]
    exact .inr (List.mem_map.mpr ⟨l, own, order⟩)

theorem payment_unmoved {E : Type} {code : PaymentCode E} {data : PaymentData} {r : PaymentResult}
    (accepts : code.Accepts) (numbers : OrderNumbers db)
    (ran : payment code data db = .ok (db', r)) : Unmoved db db' ∧ OrderNumbers db' := by
  obtain ⟨warehouse, district, customer, hData, -, -, -, rfl⟩ := payment_effect ran
  refine ⟨⟨paid_warehouse, paid_district _ fun _ _ => rfl, ?_, rfl, rfl⟩, ?_⟩
  · exact paid_customer _ fun c => accepts.update _ _ c
  · exact numbers.congr (paid_district _ fun _ _ => rfl) rfl rfl

theorem delivery_unmoved {E : Type} {code : DeliveryCode E} {data : DeliveryData}
    {rs : List (Option Int)} (numbers : OrderNumbers db)
    (ran : delivery code data db = .ok (db', rs)) : Unmoved db db' ∧ OrderNumbers db' := by
  obtain ⟨rfl, -⟩ := delivery_effect ran
  refine ⟨⟨rfl, rfl, deliver_customer _ fun _ _ => rfl, rfl, rfl⟩, ?_⟩
  exact numbers.congr rfl (deliver_orders _ fun _ _ => rfl) (deliver_orderLine _ fun _ _ => rfl)

/-- Drawn for a terminal of one of the warehouses. -/
def NonspData.Valid (card : TableCardinality) (data : NonspData) : Prop :=
  ∃ wId, (1 ≤ wId ∧ wId ≤ card.warehouses) ∧ data.InRange card wId

/-- The generators draw such inputs only, in any source of draws. -/
theorem Drawn.generateInputData_valid {σ : Type} [Source σ] (items : 1 ≤ card.items)
    (modeAltered : Int) {wId : Int} (home : 1 ≤ wId ∧ wId ≤ card.warehouses) {type : Int}
    (known : HasInputs type) (data : NonspData) :
    Yields (generateInputData card modeAltered wId type data : StateT σ Option _) fun p =>
      p.2.Valid card := by
  refine (generateInputData_yields items home.1 home.2 type data).mono ?_
  rintro p (⟨-, -, -, inRange⟩ | ⟨unknown, -⟩)
  · exact ⟨wId, home, inRange⟩
  · exact absurd known unknown

theorem execute_unmoved {data : NonspData} (valid : data.Valid card) (ready : Ready card db)
    (done : b.execute data db = some db') : Unmoved db db' ∧ OrderNumbers db' := by
  obtain ⟨wId, home, inRange⟩ := valid
  cases data with
  | newOrder data =>
    obtain ⟨rollback, order⟩ := inRange
    have some' : 1 ≤ data.oOlCnt := by have := order.count; omega
    obtain ⟨E, code, accepts, is⟩ := newOrder_code b
    obtain ⟨r, ran⟩ := committed_eq_some.mp ((is data db some').symm.trans done)
    exact newOrder_unmoved accepts.sound some' ready.keys ready.numbers ran
  | payment data =>
    obtain ⟨E, code, accepts, is⟩ := payment_code b
    obtain ⟨r, ran⟩ := committed_eq_some.mp ((is data db).symm.trans done)
    exact payment_unmoved accepts ready.numbers ran
  | delivery data =>
    obtain ⟨E, code, -, is⟩ := delivery_code b
    obtain ⟨rs, ran⟩ := committed_eq_some.mp ((is data db).symm.trans done)
    exact delivery_unmoved ready.numbers ran
  | integrity | orderStatus | stockLevel =>
    obtain rfl := Option.some.inj done
    exact ⟨.refl _, ready.numbers⟩

theorem execute_ready {data : NonspData} (valid : data.Valid card) (ready : Ready card db)
    (done : b.execute data db = some db') : Ready card db' := by
  obtain ⟨unmoved, numbers⟩ := execute_unmoved valid ready done
  constructor
  · exact execute_keys done ready.keys
  · exact execute_references done ready.references
  · exact ready.standing.unmoved unmoved
  · exact numbers

theorem run_ready {es : List (NonspData × Bool)} (sent : ∀ e ∈ es, e.1.Valid card)
    (ran : run b.attempt db es = some db') (ready : Ready card db) : Ready card db' := by
  have kept (s : Database) (before : List (NonspData × Bool)) (e : NonspData × Bool)
      (t : Database) (stepped : b.attempt s e = some t) (valid : e.1.Valid card)
      (held : Ready card s) : Ready card t := by
    obtain rfl | done := attempt_cases stepped
    · exact held
    · exact execute_ready valid held done
  exact @run_history _ _ _ _ _ kept _ _ [] _ ran sent ready

/-- One of the lines of a New-Order asks for item 0. -/
def NonspData.RollsBack : NonspData → Prop
  | newOrder data => ∃ i < data.oOlCnt, (data.line i).olIId = 0
  | _ => False

theorem execute_isSome_iff {data : NonspData} (valid : data.Valid card) (ready : Ready card db) :
    (b.execute data db).isSome ↔ ¬ data.RollsBack := by
  obtain ⟨wId, home, inRange⟩ := valid
  cases data with
  | newOrder data =>
    obtain ⟨rollback, order⟩ := inRange
    have some' : 1 ≤ data.oOlCnt := by have := order.count; omega
    obtain ⟨E, code, accepts, is⟩ := newOrder_code b
    have lines : ∀ i < data.oOlCnt, Suppliable card data i := by
      refine fun i inside => ⟨order.supply i inside, fun used => order.item i inside ?_⟩
      rintro ⟨rolledBack, rfl⟩
      exact used (order.noItem rolledBack)
    rw [Backend.execute, is data db some',
      newOrder_commits_iff accepts ready (order.home ▸ home) order.customer lines]
    simp only [NonspData.RollsBack, not_exists, not_and, ne_eq]
  | payment data =>
    obtain ⟨E, code, accepts, is⟩ := payment_code b
    refine iff_of_true ?_ not_false
    rw [Backend.execute, is data db]
    exact payment_commits accepts ready.standing home inRange
  | delivery data =>
    obtain ⟨E, code, single, is⟩ := delivery_code b
    refine iff_of_true ?_ not_false
    rw [Backend.execute, is data db]
    exact delivery_commits single ready.keys ready.references ready.numbers
  | integrity | orderStatus | stockLevel => exact iff_of_true rfl not_false

end Kept

/-! ## The generated population -/

namespace Datagen.Filled

variable {d : Datagen} {db : Database} {card : TableCardinality} (f : Filled d db)

include f

theorem customerRow {w n c : Int} (warehouse : 1 ≤ w ∧ w ≤ d.warehouses)
    (district : 1 ≤ n ∧ n ≤ 10) (customer : 1 ≤ c ∧ c ≤ d.customers) :
    ∃ r ∈ db.customer, r.key = (w, n, c) ∧ (c ≤ 1000 → r.cLast = getCLast (c - 1)) := by
  have row := f.generatedCustomer (w - 1) (n - 1) (c - 1) (by omega) (by omega) (by omega)
    (by omega) (by omega) (by omega)
  refine ⟨f.customer (w - 1) (n - 1) (c - 1), ?_, ?_, fun early => row.last (by omega)⟩
  · rw [f.customers]
    refine mem_grid.mpr ⟨w - 1, n - 1, c - 1, ?_⟩
    exact ⟨by omega, by omega, by omega, by omega, by omega, by omega, rfl⟩
  · rw [Customer.key, row.warehouse, row.district, row.id]
    simp only [sub_add_cancel]

theorem stockRow {i w : Int} (item : 1 ≤ i ∧ i ≤ d.items) (warehouse : 1 ≤ w ∧ w ≤ d.warehouses) :
    ∃ r ∈ db.stock, r.key = (i, w) := by
  have row := f.generatedStock (w - 1) (i - 1) (by omega) (by omega) (by omega) (by omega)
  refine ⟨f.stock (w - 1) (i - 1), ?_, ?_⟩
  · rw [f.stocks]
    refine List.mem_flatMap.mpr ⟨w - 1, Int.mem_range_iff.mpr ⟨by omega, by omega⟩, ?_⟩
    exact List.mem_map_of_mem (Int.mem_range_iff.mpr ⟨by omega, by omega⟩)
  · rw [Stock.key, row.item, row.warehouse]
    simp only [sub_add_cancel]

theorem standing (same : Configured d card) (items : d.items = card.items)
    (enough : 3000 ≤ d.customers) : Standing card db := by
  have warehouses := same.warehouses
  constructor
  · intro w warehouse
    have there := f.hasWarehouse (i := w - 1) (by omega)
    rwa [sub_add_cancel] at there
  · intro w n warehouse district
    have there := f.hasDistrict (i := w - 1) (j := n - 1) (by omega) (by omega)
    rwa [sub_add_cancel, sub_add_cancel] at there
  · intro w n c warehouse district customer
    obtain ⟨r, mem, key, -⟩ := f.customerRow (w := w) (n := n) (c := c) (by omega) district
      (by omega)
    exact ⟨r.identity, List.mem_map_of_mem mem, key⟩
  · intro w n k warehouse district range
    obtain ⟨r, mem, key, last⟩ := f.customerRow (w := w) (n := n) (c := k + 1) (by omega) district
      (by omega)
    refine ⟨r.identity, List.mem_map_of_mem mem, k + 1, ?_⟩
    rw [Customer.identity, key, last (by omega), add_sub_cancel_right]
  · intro x mem
    obtain ⟨r, inside, rfl⟩ := List.mem_map.mp mem
    obtain ⟨i, j, k, hi, hj, hk, rfl⟩ := f.customerOf inside
    have number := (f.generatedCustomer i j k hi.1 hi.2 hj.1 hj.2 hk.1 hk.2).id
    change 1 ≤ (f.customer i j k).cId
    omega
  · intro i
    constructor
    · intro mem
      rw [f.items, List.map_map] at mem
      obtain ⟨k, range, rfl⟩ := List.mem_map.mp mem
      rw [Int.mem_range_iff] at range
      have number := f.generatedItem k range.1 range.2
      change 1 ≤ (f.item k).iId ∧ (f.item k).iId ≤ card.items
      omega
    · intro range
      have there := f.hasItem (i := i - 1) (by omega)
      rwa [sub_add_cancel] at there
  · intro i w item warehouse
    obtain ⟨r, mem, key⟩ := f.stockRow (i := i) (w := w) (by omega) (by omega)
    exact ⟨r.fixed, List.mem_map_of_mem mem, key⟩
  · intro x mem
    obtain ⟨s, inside, rfl⟩ := List.mem_map.mp mem
    obtain ⟨i, j, hi, hj, rfl⟩ := f.stockOf inside
    exact (f.generatedStock i j hi.1 hi.2 hj.1 hj.2).dist

theorem orderNumbers (orders : d.orders ≤ 3000) : OrderNumbers db := by
  constructor
  · intro x mem oId used
    obtain ⟨y, inside, rfl⟩ := List.mem_map.mp mem
    obtain ⟨i, j, hi, hj, rfl⟩ := f.districtOf inside
    obtain ⟨o, placed, same⟩ := List.mem_map.mp used
    obtain ⟨i', j', k, hi', hj', hk, rfl⟩ := f.orderOf placed
    have number : k + 1 = oId :=
      congrArg (fun key => key.2.2) ((f.orderKey hi' hj' hk).symm.trans same)
    have next := (f.generatedDistrict i j hi.1 hi.2 hj.1 hj.2).nextOrder
    change oId < (f.district i j).dNextOId
    omega
  · refine refers_of_forall fun o mem => ?_
    obtain ⟨i, j, k, hi, hj, hk, rfl⟩ := f.orderOf mem
    obtain ⟨l, own⟩ := List.exists_mem_of_ne_nil _
      ((f.generatedOrders i j hi.1 hi.2 hj.1 hj.2).order k hk.1 hk.2).nonempty
    have row : f.order i j k ∈ grid d.warehouses 10 0 d.orders f.order :=
      mem_grid.mpr ⟨i, j, k, hi.1, hi.2, hj.1, hj.2, hk.1, hk.2, rfl⟩
    rw [f.orderKey hi hj hk, f.orderLines, ← f.lineOrder hi hj hk own]
    exact List.mem_map_of_mem (List.mem_flatMap.mpr ⟨_, row, own⟩)

theorem ready (same : Configured d card) (items : d.items = card.items)
    (newOrders : d.newOrders ≤ d.orders) (orders : d.orders ≤ 3000) (enough : 3000 ≤ d.customers) :
    Ready card db := by
  constructor
  · exact f.keys
  · exact f.references newOrders (orders.trans enough)
  · exact f.standing same items enough
  · exact f.orderNumbers orders

end Datagen.Filled

/-- The default population of one warehouse. -/
def oneWarehouse : Datagen := { warehouses := 1, seed := 1 }

/-- Five pieces of item 1 on each of five lines, and a payment by the customer. -/
def orderThenPayment : List (NonspData × Bool) :=
  [(.newOrder (oneItem 1 5), true), (.payment onePayment, true)]

theorem orderThenPayment_valid : ∀ e ∈ orderThenPayment, e.1.Valid {} := by
  have line : ∀ i < 5, (oneItem 1 5).line i = { olIId := 1, olSupplyWId := 1, olQuantity := 5 } := by
    decide
  intro e mem
  simp only [orderThenPayment, List.mem_cons, List.not_mem_nil, or_false] at mem
  obtain rfl | rfl := mem
  · refine ⟨1, ⟨le_rfl, le_rfl⟩, False, ?_⟩
    constructor
    · rfl
    · exact ⟨le_rfl, by decide⟩
    · exact ⟨le_rfl, by decide⟩
    · exact ⟨by decide, by decide⟩
    · intro i bound
      rw [line i bound]
      exact ⟨le_rfl, le_rfl⟩
    · intro i bound
      rw [line i bound]
      exact ⟨by decide, by decide⟩
    · intro i bound _
      rw [line i bound]
      exact ⟨le_rfl, by decide⟩
    · exact False.elim
  · refine ⟨1, ⟨le_rfl, le_rfl⟩, ?_⟩
    constructor
    · rfl
    · exact ⟨le_rfl, by decide⟩
    · exact ⟨le_rfl, by decide⟩
    · exact ⟨le_rfl, le_rfl⟩
    · exact .inr ⟨⟨le_rfl, by decide⟩, rfl⟩
    · exact ⟨by norm_num [onePayment], by norm_num [onePayment]⟩

/-- Each backend commits both. -/
theorem orderThenPayment_commits (b : Backend) : ∃ db db' : Database,
    (oneWarehouse.withPart 0 1).genTables = some db ∧
      run b.attempt db orderThenPayment = some db' := by
  obtain ⟨db, generated⟩ := Datagen.genTables_returns (d := oneWarehouse) (by decide) (by decide)
  obtain ⟨f⟩ := Datagen.genTables_filled (by decide) generated
  have ready : Ready {} db := f.ready ⟨rfl, rfl⟩ rfl (by decide) (by decide) (by decide)
  have orderValid := orderThenPayment_valid _ List.mem_cons_self
  have paymentValid := orderThenPayment_valid _ (List.mem_cons_of_mem _ List.mem_cons_self)
  have used : ¬ (NonspData.newOrder (oneItem 1 5)).RollsBack := by
    simp only [NonspData.RollsBack]
    decide
  obtain ⟨ordered, order⟩ := Option.isSome_iff_exists.mp
    ((execute_isSome_iff (b := b) orderValid ready).mpr used)
  obtain ⟨paid, payment⟩ := Option.isSome_iff_exists.mp
    ((execute_isSome_iff (b := b) paymentValid (execute_ready orderValid ready order)).mpr id)
  refine ⟨db, paid, generated, ?_⟩
  exact run_cons.mpr ⟨ordered, order, run_cons.mpr ⟨paid, payment, rfl⟩⟩
end Dbt2
