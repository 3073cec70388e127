import Dbt2.Drawn
import Dbt2.NonspClient
import Dbt2.ProcessTransaction

/-!
# Generated inputs

What the drivers draw for a transaction of a terminal whose home warehouse is `wId`.

* `generateInputData`: the generators, in any source of draws;
* `NonspData.InRange`: the ranges of the inputs;
* `generated_in_range`: the inputs are in range, a remote warehouse is any but the home one, and
  `o_all_local` says whether all lines are supplied from home.
-/

namespace Dbt2

open Draws

/-- The fields of `table_cardinality` are of type `int`. The number of customers is an option of the
drivers, and no generator reads it. -/
structure TableCardinality where
  warehouses : Int := 1
  customers : Int := 3000
  items : Int := 100000
  warehouses_lt : warehouses < 2 ^ 31 := by decide
  items_lt : items < 2 ^ 31 := by decide

def C_ID_UNKNOWN : Int := 0
def D_ID_MAX : Int := 10
def O_CARRIER_ID_MAX : Int := 10

/-- The lines after `memset`. -/
def noLines : Vector NoOrderLine 15 := Vector.replicate 15 ⟨0, 0, 0⟩

/-- The last line asks for an item that does not exist. -/
def NewOrderData.rollbackLine (data : NewOrderData) : NewOrderData :=
  let last := data.oOlCnt - 1
  { data with
    orderLine := data.orderLine.setIfInBounds last { data.line last with olIId := 0 } }

/-- A number from `1` to `warehouses - 1` skips over the home warehouse. -/
def skipHome (wId n : Int) : Int := if n ≥ wId then n + 1 else n

namespace Drawn

section Generators

variable {σ : Type} [Source σ] (card : TableCardinality) (modeAltered wId : Int)

def generateDeliveryData : StateT σ Option DeliveryData := do
  let r ← getRandom O_CARRIER_ID_MAX
  pure { wId, oCarrierId := r + 1 }

def remoteWarehouse : StateT σ Option Int := do
  let r ← getRandom (card.warehouses - 1)
  pure (skipHome wId (r + 1))

/-- Altered mode draws nothing. -/
def staysHome (test : Int → Bool) : StateT σ Option Bool :=
  if modeAltered = 1 then pure true else do
    let r ← getRandom 100
    pure (test r)

def supplyWarehouse : StateT σ Option Int :=
  if card.warehouses > 1 then do
    let home ← staysHome modeAltered fun r => r > 0
    if home then pure wId else remoteWarehouse card wId
  else pure 1

def generateOrderLine : StateT σ Option NoOrderLine := do
  let olIId ← getNurand 8191 1 card.items
  let olSupplyWId ← supplyWarehouse card modeAltered wId
  let r ← getRandom 10
  pure { olIId, olSupplyWId, olQuantity := r + 1 }

/-- So many rounds of the loop, from line `i` on. -/
def generateOrderLines : Nat → Nat → Vector NoOrderLine 15 → StateT σ Option (Vector NoOrderLine 15)
  | 0, _, lines => pure lines
  | rounds + 1, i, lines => do
    let l ← generateOrderLine card modeAltered wId
    generateOrderLines rounds (i + 1) (lines.setIfInBounds i l)

/-- An order before the last draw, which decides whether it is to be rolled back. -/
def generateOrder : StateT σ Option NewOrderData := do
  let d ← getRandomBelow D_ID_MAX (by decide)
  let cId ← getNurand 1023 1 3000
  let r ← getRandomBelow 11 (by decide)
  let oOlCnt := (r.1 + 5).toNat
  let orderLine ← generateOrderLines card modeAltered wId oOlCnt 0 noLines
  pure {
    wId, cId, oOlCnt, orderLine
    dId := d.1 + 1
    dId_bounds := by have := d.2; simp only [D_ID_MAX] at this; omega
    oOlCnt_le := by have := r.2; omega }

def generateNewOrderData : StateT σ Option NewOrderData := do
  let data ← generateOrder card modeAltered wId
  let r ← getRandom 100
  pure (if r = 0 then data.rollbackLine else data)

/-- A customer by last name or by id; the other one is left empty. -/
def selectCustomer : StateT σ Option (Int × String) := do
  let r ← getRandom 100
  if r < 60 then do
    let i ← getNurand 255 0 999
    pure (C_ID_UNKNOWN, getCLast i)
  else do
    let cId ← getNurand 1023 1 3000
    pure (cId, "")

def generateOrderStatusData : StateT σ Option OrderStatusData := do
  let r ← getRandom D_ID_MAX
  let c ← selectCustomer
  pure { cWId := wId, cDId := r + 1, cId := c.1, cLast := c.2 }

def otherWarehouse : StateT σ Option Int :=
  if card.warehouses > 1 then remoteWarehouse card wId else pure 1

/-- The district and the warehouse of the customer who pays at a terminal of the district. -/
def customerDistrict (dId : Int) : StateT σ Option (Int × Int) := do
  let home ← staysHome modeAltered fun r => r < 85
  if home then pure (dId, wId) else do
    let r ← getRandom D_ID_MAX
    let cWId ← otherWarehouse card wId
    pure (r + 1, cWId)

def generatePaymentData : StateT σ Option PaymentData := do
  let r ← getRandom D_ID_MAX
  let c ← selectCustomer
  let place ← customerDistrict card modeAltered wId (r + 1)
  let amount ← getRandom 499901
  pure {
    wId, dId := r + 1, cId := c.1, cLast := c.2, cDId := place.1, cWId := place.2
    hAmount := (amount + 100) / 100 }

def generateStockLevelData (dId : Int) : StateT σ Option StockLevelData := do
  let r ← getRandom 11
  pure { wId, dId, threshold := r + 10 }

/-- Generates the data of every transaction but Stock-Level. -/
def generateInputData (type : Int) (data : NonspData) : StateT σ Option (Int × NonspData) :=
  if type = DELIVERY then do
    let data ← generateDeliveryData wId
    pure (OK, .delivery data)
  else if type = NEW_ORDER then do
    let data ← generateNewOrderData card modeAltered wId
    pure (OK, .newOrder data)
  else if type = ORDER_STATUS then do
    let data ← generateOrderStatusData wId
    pure (OK, .orderStatus data)
  else if type = PAYMENT then do
    let data ← generatePaymentData card modeAltered wId
    pure (OK, .payment data)
  else if type = INTEGRITY then pure (OK, .integrity wId)
  else pure (ERROR, data)

def generateInputData2 (dId : Int) : StateT σ Option (Int × NonspData) := do
  let data ← generateStockLevelData wId dId
  pure (OK, .stockLevel data)

end Generators

end Drawn

/-- The loop of `process_transaction` over the lines, which ends at the first one from elsewhere. -/
def NewOrderData.allLocal (data : NewOrderData) : Nat → Nat → Int
  | 0, _ => 1
  | rounds + 1, i =>
    if (data.line i).olSupplyWId ≠ data.wId then 0 else data.allLocal rounds (i + 1)

/-! ## Ranges -/

/-- The transactions that `generate_input_data` knows. -/
def HasInputs (type : Int) : Prop :=
  type = DELIVERY ∨ type = NEW_ORDER ∨ type = ORDER_STATUS ∨ type = PAYMENT ∨ type = INTEGRITY

structure NoOrderLine.InRange (card : TableCardinality) (l : NoOrderLine) : Prop where
  item : 1 ≤ l.olIId ∧ l.olIId ≤ card.items
  supply : 1 ≤ l.olSupplyWId ∧ l.olSupplyWId ≤ card.warehouses
  quantity : 1 ≤ l.olQuantity ∧ l.olQuantity ≤ 10

/-- Only the last line of an order that is to be rolled back has an item out of range. -/
structure NewOrderData.InRange (card : TableCardinality) (wId : Int) (rollback : Prop)
    (data : NewOrderData) : Prop where
  home : data.wId = wId
  district : 1 ≤ data.dId ∧ data.dId ≤ 10
  customer : 1 ≤ data.cId ∧ data.cId ≤ 3000
  count : 5 ≤ data.oOlCnt ∧ data.oOlCnt ≤ 15
  supply : ∀ i < data.oOlCnt, 1 ≤ (data.line i).olSupplyWId ∧
    (data.line i).olSupplyWId ≤ card.warehouses
  quantity : ∀ i < data.oOlCnt, 1 ≤ (data.line i).olQuantity ∧ (data.line i).olQuantity ≤ 10
  item : ∀ i < data.oOlCnt, ¬ (rollback ∧ i = data.oOlCnt - 1) →
    1 ≤ (data.line i).olIId ∧ (data.line i).olIId ≤ card.items
  noItem : rollback → (data.line (data.oOlCnt - 1)).olIId = 0

/-- A customer is given by one of the last names that the generator draws, or by id. -/
def Selects (cId : Int) (cLast : String) : Prop :=
  (cId = C_ID_UNKNOWN ∧ ∃ k, (0 ≤ k ∧ k ≤ 999) ∧ cLast = getCLast k) ∨
    (1 ≤ cId ∧ cId ≤ 3000) ∧ cLast = ""

structure OrderStatusData.InRange (wId : Int) (data : OrderStatusData) : Prop where
  home : data.cWId = wId
  district : 1 ≤ data.cDId ∧ data.cDId ≤ 10
  customer : Selects data.cId data.cLast

structure PaymentData.InRange (card : TableCardinality) (wId : Int) (data : PaymentData) :
    Prop where
  home : data.wId = wId
  district : 1 ≤ data.dId ∧ data.dId ≤ 10
  customerDistrict : 1 ≤ data.cDId ∧ data.cDId ≤ 10
  customerWarehouse : 1 ≤ data.cWId ∧ data.cWId ≤ card.warehouses
  customer : Selects data.cId data.cLast
  amount : 1 ≤ data.hAmount ∧ data.hAmount ≤ 5000

def NonspData.InRange (card : TableCardinality) (wId : Int) : NonspData → Prop
  | integrity home => home = wId
  | delivery data => data.wId = wId ∧ 1 ≤ data.oCarrierId ∧ data.oCarrierId ≤ 10
  | newOrder data => ∃ rollback, data.InRange card wId rollback
  | orderStatus data => data.InRange wId
  | payment data => data.InRange card wId
  | stockLevel data => data.wId = wId ∧ 10 ≤ data.threshold ∧ data.threshold ≤ 20

theorem getD_setIfInBounds {lines : Vector NoOrderLine 15} {i : Nat} (inside : i < 15) (k : Nat)
    (l : NoOrderLine) :
    (lines.setIfInBounds i l).getD k default = if k = i then l else lines.getD k default := by
  simp only [Vector.getD, Vector.toArray_setIfInBounds, Array.getD_eq_getD_getElem?,
    Array.getElem?_setIfInBounds, Vector.size_toArray]
  grind

theorem NewOrderData.line_rollbackLine (data : NewOrderData) (some : 1 ≤ data.oOlCnt) (k : Nat) :
    data.rollbackLine.line k =
      if k = data.oOlCnt - 1 then { data.line k with olIId := 0 } else data.line k := by
  have inside := data.oOlCnt_le
  refine (getD_setIfInBounds (by omega) k _).trans ?_
  split
  case isTrue last => rw [last]
  case isFalse => rfl

theorem NewOrderData.InRange.rollbackLine {card : TableCardinality} {wId : Int}
    {data : NewOrderData} (inRange : data.InRange card wId False) :
    data.rollbackLine.InRange card wId True := by
  have line := data.line_rollbackLine (by have := inRange.count; omega)
  exact {
    home := inRange.home
    district := inRange.district
    customer := inRange.customer
    count := inRange.count
    supply := fun i lt => by
      rw [line]
      split
      · exact inRange.supply i lt
      · exact inRange.supply i lt
    quantity := fun i lt => by
      rw [line]
      split
      · exact inRange.quantity i lt
      · exact inRange.quantity i lt
    item := fun i lt before => by
      have earlier : i ≠ data.oOlCnt - 1 := fun last => before ⟨trivial, last⟩
      rw [line, if_neg earlier]
      exact inRange.item i lt fun never => never.1
    noItem := fun _ => by
      rw [line]
      exact congrArg NoOrderLine.olIId (if_pos rfl) }

/-! ## The remote choice -/

/-- One draw for each of the other warehouses. -/
theorem skipHome_bijOn {warehouses wId : Int} (low : 1 ≤ wId) (high : wId ≤ warehouses) :
    Set.BijOn (fun r => skipHome wId (r + 1)) (Set.Ico 0 (warehouses - 1))
      {w | (1 ≤ w ∧ w ≤ warehouses) ∧ w ≠ wId} := by
  refine ⟨?_, ?_, ?_⟩
  · rintro r ⟨nonneg, bounded⟩
    simp only [skipHome, Set.mem_ofPred_eq]
    split <;> omega
  · rintro r - r' - same
    simp only [skipHome] at same
    split at same <;> split at same <;> omega
  · rintro w ⟨⟨first, last⟩, other⟩
    by_cases above : wId < w
    · refine ⟨w - 2, ⟨by omega, by omega⟩, ?_⟩
      simp only [skipHome]
      split <;> omega
    · refine ⟨w - 1, ⟨by omega, by omega⟩, ?_⟩
      simp only [skipHome]
      split <;> omega

namespace Drawn

section Yields

variable {σ : Type} [Source σ] {card : TableCardinality} {modeAltered wId : Int}

theorem remoteWarehouse_yields (many : 1 < card.warehouses) (low : 1 ≤ wId)
    (high : wId ≤ card.warehouses) :
    Yields (remoteWarehouse card wId : StateT σ Option Int) fun w =>
      (1 ≤ w ∧ w ≤ card.warehouses) ∧ w ≠ wId := by
  refine (getRandom_yields (by omega)).bind fun r hr => Yields.pure ?_
  exact (skipHome_bijOn low high).mapsTo hr

theorem otherWarehouse_yields (low : 1 ≤ wId) (high : wId ≤ card.warehouses) :
    Yields (otherWarehouse card wId : StateT σ Option Int) fun w =>
      1 ≤ w ∧ w ≤ card.warehouses := by
  unfold otherWarehouse
  split
  case isTrue many => exact (remoteWarehouse_yields many low high).mono fun w hw => hw.1
  case isFalse => exact Yields.pure ⟨le_rfl, by omega⟩

theorem staysHome_yields (test : Int → Bool) :
    Yields (staysHome modeAltered test : StateT σ Option Bool) fun _ => True := by
  unfold staysHome
  split
  · exact Yields.pure trivial
  · exact (getRandom_yields (by decide)).bind fun _ _ => Yields.pure trivial

theorem supplyWarehouse_yields (low : 1 ≤ wId) (high : wId ≤ card.warehouses) :
    Yields (supplyWarehouse card modeAltered wId : StateT σ Option Int) fun w =>
      1 ≤ w ∧ w ≤ card.warehouses := by
  unfold supplyWarehouse
  split
  case isTrue many =>
    refine (staysHome_yields _).bind fun home _ => ?_
    split
    · exact Yields.pure ⟨low, high⟩
    · exact (remoteWarehouse_yields many low high).mono fun w hw => hw.1
  case isFalse => exact Yields.pure ⟨le_rfl, by omega⟩

theorem generateOrderLine_yields (items : 1 ≤ card.items) (low : 1 ≤ wId)
    (high : wId ≤ card.warehouses) :
    Yields (generateOrderLine card modeAltered wId : StateT σ Option NoOrderLine)
      (NoOrderLine.InRange card) := by
  refine (getNurand_yields (by decide) (by decide) items).bind fun i hi =>
    (supplyWarehouse_yields low high).bind fun w hw =>
      (getRandom_yields (by decide)).bind fun r hr => Yields.pure ?_
  exact ⟨hi, hw, show 1 ≤ r + 1 ∧ r + 1 ≤ 10 by omega⟩

/-- A round writes its own line, and the lines before it stay. -/
theorem generateOrderLines_yields {P : NoOrderLine → Prop}
    (each : Yields (generateOrderLine card modeAltered wId : StateT σ Option NoOrderLine) P)
    (rounds i : Nat) (lines : Vector NoOrderLine 15) (fits : i + rounds ≤ 15) :
    Yields (generateOrderLines card modeAltered wId rounds i lines : StateT σ Option _)
      fun lines' => (∀ k < i, lines'.getD k default = lines.getD k default) ∧
        ∀ k, i ≤ k → k < i + rounds → P (lines'.getD k default) := by
  induction rounds generalizing i lines with
  | zero => exact Yields.pure ⟨fun _ _ => rfl, fun k l u => by omega⟩
  | succ rounds ih =>
    refine each.bind fun l hl => (ih (i + 1) _ (by omega)).mono ?_
    rintro lines' ⟨before, after⟩
    constructor
    · intro k lt
      rw [before k (by omega), getD_setIfInBounds (by omega), if_neg (by omega)]
    · intro k low high
      by_cases here : k = i
      · subst here
        rw [before k (by omega), getD_setIfInBounds (by omega), if_pos rfl]
        exact hl
      · exact after k (by omega) (by omega)

theorem generateOrder_yields (items : 1 ≤ card.items) (low : 1 ≤ wId)
    (high : wId ≤ card.warehouses) :
    Yields (generateOrder card modeAltered wId : StateT σ Option NewOrderData)
      (NewOrderData.InRange card wId False) := by
  refine (getRandomBelow_yields _).bind fun d _ =>
    (getNurand_yields (by decide) (by decide) (by decide)).bind fun cId customer =>
      (getRandomBelow_yields _).bind fun r _ => ?_
  have drawn := r.2
  refine (generateOrderLines_yields (generateOrderLine_yields items low high) _ 0 noLines
    (by omega)).bind fun lines hlines => Yields.pure ?_
  have each (i : Nat) (lt : i < (r.1 + 5).toNat) : (lines.getD i default).InRange card :=
    hlines.2 i i.zero_le (by omega)
  have district := d.2
  simp only [D_ID_MAX] at district
  exact {
    home := rfl
    district := show 1 ≤ d.1 + 1 ∧ d.1 + 1 ≤ 10 by omega
    customer
    count := show 5 ≤ (r.1 + 5).toNat ∧ (r.1 + 5).toNat ≤ 15 by omega
    supply := fun i lt => (each i lt).supply
    quantity := fun i lt => (each i lt).quantity
    item := fun i lt _ => (each i lt).item
    noItem := False.elim }

theorem customerDistrict_yields {dId : Int} (low : 1 ≤ wId) (high : wId ≤ card.warehouses)
    (district : 1 ≤ dId ∧ dId ≤ 10) :
    Yields (customerDistrict card modeAltered wId dId : StateT σ Option (Int × Int)) fun p =>
      (1 ≤ p.1 ∧ p.1 ≤ 10) ∧ 1 ≤ p.2 ∧ p.2 ≤ card.warehouses := by
  refine (staysHome_yields _).bind fun home _ => ?_
  split
  · exact Yields.pure ⟨district, low, high⟩
  · refine (getRandom_yields (by decide)).bind fun r hr => ?_
    have within : 1 ≤ r + 1 ∧ r + 1 ≤ 10 := by
      simp only [D_ID_MAX] at hr
      omega
    exact (otherWarehouse_yields low high).bind fun w hw => Yields.pure ⟨within, hw⟩

/-- The last draw decides whether the order is rolled back. -/
theorem generateNewOrderData_yields (items : 1 ≤ card.items) (low : 1 ≤ wId)
    (high : wId ≤ card.warehouses) (s : σ) :
    ∃ order s' r t, generateOrder card modeAltered wId s = some (order, s') ∧
      getRandom 100 s' = some (r, t) ∧ (0 ≤ r ∧ r < 100) ∧
      ∃ data, generateNewOrderData card modeAltered wId s = some (data, t) ∧
        data.InRange card wId (r = 0) := by
  have orders : Yields (generateOrder card modeAltered wId : StateT σ Option NewOrderData)
      (NewOrderData.InRange card wId False) := generateOrder_yields items low high
  obtain ⟨order, s', ordered, inRange⟩ := orders s
  obtain ⟨r, t, drawn, bounds⟩ := getRandom_yields (show (0 : Int) < 100 by decide) s'
  refine ⟨order, s', r, t, ordered, drawn, bounds, if r = 0 then order.rollbackLine else order,
    ?_, ?_⟩
  · rw [generateNewOrderData, bind_apply ordered, bind_apply drawn]
    rfl
  · by_cases zero : r = 0
    · simpa only [zero, if_true, eq_self_iff_true] using inRange.rollbackLine
    · simpa only [zero, if_false] using inRange

theorem selectCustomer_yields :
    Yields (selectCustomer : StateT σ Option (Int × String)) fun c => Selects c.1 c.2 := by
  refine (getRandom_yields (by decide)).bind fun r _ => ?_
  split
  · exact (getNurand_yields (by decide) (by decide) (by decide)).bind fun k hk =>
      Yields.pure (.inl ⟨rfl, k, hk, rfl⟩)
  · exact (getNurand_yields (by decide) (by decide) (by decide)).bind fun cId hc =>
      Yields.pure (.inr ⟨hc, rfl⟩)

theorem district_yields :
    Yields (getRandom D_ID_MAX : StateT σ Option Int) fun r => 1 ≤ r + 1 ∧ r + 1 ≤ 10 :=
  (getRandom_yields (by decide)).mono fun r hr => by
    simp only [D_ID_MAX] at hr
    omega

theorem generateDeliveryData_yields :
    Yields (generateDeliveryData wId : StateT σ Option DeliveryData) fun data =>
      data.wId = wId ∧ 1 ≤ data.oCarrierId ∧ data.oCarrierId ≤ 10 :=
  -- a carrier has a number in the range of those of districts
  district_yields.bind fun _ carrier => Yields.pure ⟨rfl, carrier⟩

theorem generateStockLevelData_yields {dId : Int} :
    Yields (generateStockLevelData wId dId : StateT σ Option StockLevelData) fun data =>
      data.wId = wId ∧ 10 ≤ data.threshold ∧ data.threshold ≤ 20 :=
  (getRandom_yields (by decide)).bind fun r hr =>
    Yields.pure ⟨rfl, show 10 ≤ r + 10 ∧ r + 10 ≤ 20 by omega⟩

theorem generateOrderStatusData_yields :
    Yields (generateOrderStatusData wId : StateT σ Option OrderStatusData)
      (OrderStatusData.InRange wId) :=
  district_yields.bind fun _ district => selectCustomer_yields.bind fun _ customer =>
    Yields.pure { home := rfl, district, customer }

theorem generatePaymentData_yields (low : 1 ≤ wId) (high : wId ≤ card.warehouses) :
    Yields (generatePaymentData card modeAltered wId : StateT σ Option PaymentData)
      (PaymentData.InRange card wId) := by
  refine district_yields.bind fun _ district => selectCustomer_yields.bind fun _ customer =>
    (customerDistrict_yields low high district).bind fun _ place =>
      (getRandom_yields (by decide)).bind fun amount bounds => Yields.pure ?_
  have drawn : (0 : ℚ) ≤ amount ∧ (amount : ℚ) ≤ 499900 := by
    constructor
    · exact_mod_cast bounds.1
    · exact_mod_cast Int.lt_add_one_iff.mp bounds.2
  exact {
    home := rfl
    district
    customerDistrict := place.1
    customerWarehouse := place.2
    customer
    amount := by
      constructor <;> linarith [drawn.1, drawn.2] }

theorem generateInputData_yields (items : 1 ≤ card.items) (low : 1 ≤ wId)
    (high : wId ≤ card.warehouses) (type : Int) (data : NonspData) :
    Yields (generateInputData card modeAltered wId type data : StateT σ Option _) fun p =>
      HasInputs type ∧ p.1 = OK ∧ p.2.transaction = type ∧ p.2.InRange card wId ∨
        ¬ HasInputs type ∧ p = (ERROR, data) := by
  unfold generateInputData
  split
  case isTrue same =>
    subst same
    exact generateDeliveryData_yields.bind fun _ inRange =>
      Yields.pure (.inl ⟨.inl rfl, rfl, rfl, inRange⟩)
  split
  case isTrue same =>
    subst same
    intro s
    obtain ⟨order, s', r, t, -, -, -, data, returned, inRange⟩ :
        ∃ order s' r t, generateOrder card modeAltered wId s = some (order, s') ∧ _ :=
      generateNewOrderData_yields items low high s
    exact ⟨_, t, bind_apply returned _, .inl ⟨.inr (.inl rfl), rfl, rfl, _, inRange⟩⟩
  split
  case isTrue same =>
    subst same
    exact generateOrderStatusData_yields.bind fun _ inRange =>
      Yields.pure (.inl ⟨.inr (.inr (.inl rfl)), rfl, rfl, inRange⟩)
  split
  case isTrue same =>
    subst same
    exact (generatePaymentData_yields low high).bind fun _ inRange =>
      Yields.pure (.inl ⟨.inr (.inr (.inr (.inl rfl))), rfl, rfl, inRange⟩)
  split
  case isTrue same =>
    subst same
    exact Yields.pure (.inl ⟨.inr (.inr (.inr (.inr rfl))), rfl, rfl, rfl⟩)
  case isFalse =>
    refine Yields.pure (.inr ⟨?_, rfl⟩)
    rintro (same | same | same | same | same) <;> contradiction

theorem generateInputData2_yields (dId : Int) :
    Yields (generateInputData2 wId dId : StateT σ Option (Int × NonspData)) fun p =>
      p.1 = OK ∧ p.2.transaction = STOCK_LEVEL ∧ p.2.InRange card wId :=
  generateStockLevelData_yields.bind fun _ inRange => Yields.pure ⟨rfl, rfl, inRange⟩

end Yields

/-! ## Every other warehouse is attained -/

section Attains

variable {card : TableCardinality} {modeAltered wId w : Int}

theorem remoteWarehouse_attains (low : 1 ≤ wId) (high : wId ≤ card.warehouses)
    (other : (1 ≤ w ∧ w ≤ card.warehouses) ∧ w ≠ wId) : Attains (remoteWarehouse card wId) w := by
  have fits := card.warehouses_lt
  obtain ⟨r, bounds, rfl⟩ := (skipHome_bijOn low high).surjOn other
  exact (getRandom_attains bounds.1 bounds.2 (by omega)).bind (Attains.pure _)

theorem staysHome_attains (unaltered : modeAltered ≠ 1) (test : Int → Bool) {r : Int}
    (nonneg : 0 ≤ r) (bounded : r < 100) : Attains (staysHome modeAltered test) (test r) := by
  rw [staysHome, if_neg unaltered]
  exact (getRandom_attains nonneg bounded (by decide)).bind (Attains.pure _)

theorem generateOrderLine_attains (unaltered : modeAltered ≠ 1) (items : 1 ≤ card.items)
    (low : 1 ≤ wId) (high : wId ≤ card.warehouses)
    (other : (1 ≤ w ∧ w ≤ card.warehouses) ∧ w ≠ wId) :
    Attains (generateOrderLine card modeAltered wId) ⟨1, w, 1⟩ := by
  have fits := card.items_lt
  have many : card.warehouses > 1 := by omega
  have away : Attains (supplyWarehouse card modeAltered wId) w := by
    rw [supplyWarehouse, if_pos many]
    exact (staysHome_attains unaltered _ (r := 0) le_rfl (by decide)).bind
      (remoteWarehouse_attains low high other)
  exact (getNurand_attains (by decide) (by decide) (by decide) le_rfl items (by omega)).bind
    (away.bind ((getRandom_attains (r := 0) le_rfl (by decide) (by decide)).bind (Attains.pure _)))

theorem generateOrderLines_attains {l : NoOrderLine}
    (each : Attains (generateOrderLine card modeAltered wId) l) (rounds i : Nat)
    (lines : Vector NoOrderLine 15) (fits : i + rounds ≤ 15) :
    ∃ lines', Attains (generateOrderLines card modeAltered wId rounds i lines) lines' ∧
      (∀ k < i, lines'.getD k default = lines.getD k default) ∧
        ∀ k, i ≤ k → k < i + rounds → lines'.getD k default = l := by
  induction rounds generalizing i lines with
  | zero => exact ⟨lines, Attains.pure lines, fun _ _ => rfl, fun k l u => by omega⟩
  | succ rounds ih =>
    obtain ⟨lines', attains, before, after⟩ := ih (i + 1) (lines.setIfInBounds i l) (by omega)
    refine ⟨lines', each.bind attains, fun k lt => ?_, fun k low high => ?_⟩
    · rw [before k (by omega), getD_setIfInBounds (by omega), if_neg (by omega)]
    · by_cases here : k = i
      · subst here
        rw [before k (by omega), getD_setIfInBounds (by omega), if_pos rfl]
      · exact after k (by omega) (by omega)

/-- An order of any size, all of it from one other warehouse. -/
theorem generateOrder_attains (unaltered : modeAltered ≠ 1) (items : 1 ≤ card.items)
    (low : 1 ≤ wId) (high : wId ≤ card.warehouses)
    (other : (1 ≤ w ∧ w ≤ card.warehouses) ∧ w ≠ wId) {n : Nat} (few : 5 ≤ n) (many : n ≤ 15) :
    ∃ data, Attains (generateOrder card modeAltered wId) data ∧ data.oOlCnt = n ∧
      ∀ i < n, (data.line i).olSupplyWId = w := by
  have size : ((n : Int) - 5 + 5).toNat = n := by omega
  obtain ⟨lines, attains, -, each⟩ := generateOrderLines_attains
    (generateOrderLine_attains unaltered items low high other) n 0 noLines (by omega)
  rw [← size] at attains
  refine ⟨_, (getRandomBelow_attains le_rfl (by decide) (by decide)).bind
    ((getNurand_attains (by decide) (by decide) (by decide) le_rfl (by decide) (by decide)).bind
      ((getRandomBelow_attains (r := n - 5) (by omega) (by omega) (by decide)).bind
        (attains.bind (Attains.pure _)))), size, fun i lt => ?_⟩
  exact congrArg NoOrderLine.olSupplyWId (each i i.zero_le (by omega))

theorem generateNewOrderData_attains (unaltered : modeAltered ≠ 1) (items : 1 ≤ card.items)
    (low : 1 ≤ wId) (high : wId ≤ card.warehouses)
    (other : (1 ≤ w ∧ w ≤ card.warehouses) ∧ w ≠ wId) {n : Nat} (few : 5 ≤ n) (many : n ≤ 15) :
    ∃ data, Attains (generateNewOrderData card modeAltered wId) data ∧ data.oOlCnt = n ∧
      ∀ i < n, (data.line i).olSupplyWId = w := by
  obtain ⟨data, attains, size, lines⟩ :=
    generateOrder_attains unaltered items low high other few many
  exact ⟨data, attains.bind ((getRandom_attains (r := 1) (by decide) (by decide)
    (by decide)).bind (Attains.pure data)), size, lines⟩

/-- A customer with id 1, selected by the id. -/
theorem selectCustomer_attains : Attains selectCustomer (1, "") :=
  (getRandom_attains (r := 60) (by decide) (by decide) (by decide)).bind
    ((getNurand_attains (by decide) (by decide) (by decide) le_rfl (by decide) (by decide)).bind
      (Attains.pure _))

theorem generatePaymentData_attains (unaltered : modeAltered ≠ 1) (low : 1 ≤ wId)
    (high : wId ≤ card.warehouses) (other : (1 ≤ w ∧ w ≤ card.warehouses) ∧ w ≠ wId) :
    ∃ data, Attains (generatePaymentData card modeAltered wId) data ∧ data.cWId = w := by
  have away : Attains (otherWarehouse card wId) w := by
    rw [otherWarehouse, if_pos (by omega)]
    exact remoteWarehouse_attains low high other
  have place : Attains (customerDistrict card modeAltered wId 1) (1, w) :=
    (staysHome_attains unaltered _ (r := 85) (by decide) (by decide)).bind
      ((getRandom_attains le_rfl (by decide) (by decide)).bind (away.bind (Attains.pure _)))
  exact ⟨_, (getRandom_attains le_rfl (by decide) (by decide)).bind
    (selectCustomer_attains.bind (place.bind
      ((getRandom_attains le_rfl (by decide) (by decide)).bind (Attains.pure _)))), rfl⟩

end Attains

end Drawn

/-! ## Lines from home -/

theorem NewOrderData.allLocal_eq (data : NewOrderData) (rounds i : Nat) :
    data.allLocal rounds i =
      if ∀ k, i ≤ k → k < i + rounds → (data.line k).olSupplyWId = data.wId then 1 else 0 := by
  induction rounds generalizing i with
  | zero => exact (if_pos fun k l u => by omega).symm
  | succ rounds ih =>
    rw [allLocal, ih]
    by_cases here : (data.line i).olSupplyWId = data.wId
    · rw [if_neg (not_not_intro here)]
      refine if_congr ⟨fun later k low high => ?_, fun all k low high => ?_⟩ rfl rfl
      · by_cases same : k = i
        · exact same ▸ here
        · exact later k (by omega) (by omega)
      · exact all k (by omega) (by omega)
    · rw [if_pos here, if_neg fun all => here (all i le_rfl (by omega))]

theorem NewOrderData.allLocal_iff (data : NewOrderData) :
    data.allLocal data.oOlCnt 0 = 1 ↔
      ∀ i < data.oOlCnt, (data.line i).olSupplyWId = data.wId := by
  rw [allLocal_eq]
  split
  case isTrue home => exact iff_of_true rfl fun i lt => home i i.zero_le (by omega)
  case isFalse away =>
    exact iff_of_false (by decide) fun home => away fun k _ high => home k (by omega)

/-- The loop computes the value that the transactions were given before. -/
theorem NewOrderData.allLocal_eq_oAllLocal (data : NewOrderData) :
    data.allLocal data.oOlCnt 0 = data.oAllLocal := by
  rw [allLocal_eq, oAllLocal]
  refine if_congr ?_ rfl rfl
  simp only [lines, List.forall_mem_map, List.mem_range, zero_add, Nat.zero_le, true_implies]

/-! ## The inputs -/

/-- Whatever the draws: the inputs are in range, and the last draw of an order makes its last line
one without an item. A remote warehouse is never the home one, and every other warehouse has one
value of the draw. -/
theorem generated_in_range (card : TableCardinality) (modeAltered wId : Int)
    (items : 1 ≤ card.items) (low : 1 ≤ wId) (high : wId ≤ card.warehouses) :
    (∀ (σ : Type) [Source σ] (type : Int) (data : NonspData),
      Yields (Drawn.generateInputData card modeAltered wId type data : StateT σ Option _) fun p =>
        HasInputs type ∧ p.1 = OK ∧ p.2.transaction = type ∧ p.2.InRange card wId ∨
          ¬ HasInputs type ∧ p = (ERROR, data)) ∧
    (∀ (σ : Type) [Source σ] (s : σ), ∃ order s' r t,
      Drawn.generateOrder card modeAltered wId s = some (order, s') ∧
      Drawn.getRandom 100 s' = some (r, t) ∧ (0 ≤ r ∧ r < 100) ∧
      ∃ data, Drawn.generateNewOrderData card modeAltered wId s = some (data, t) ∧
        data.InRange card wId (r = 0)) ∧
    (1 < card.warehouses →
      (∀ (σ : Type) [Source σ], Yields (Drawn.remoteWarehouse card wId : StateT σ Option Int)
        fun w => (1 ≤ w ∧ w ≤ card.warehouses) ∧ w ≠ wId) ∧
      Set.BijOn (fun r => skipHome wId (r + 1)) (Set.Ico 0 (card.warehouses - 1))
        {w | (1 ≤ w ∧ w ≤ card.warehouses) ∧ w ≠ wId} ∧
      (modeAltered ≠ 1 → ∀ w, (1 ≤ w ∧ w ≤ card.warehouses) ∧ w ≠ wId →
        (∀ n, 5 ≤ n → n ≤ 15 →
          ∃ data, Attains (Drawn.generateNewOrderData card modeAltered wId) data ∧
            data.oOlCnt = n ∧ ∀ i < n, (data.line i).olSupplyWId = w) ∧
        ∃ data, Attains (Drawn.generatePaymentData card modeAltered wId) data ∧ data.cWId = w)) ∧
    ∀ data : NewOrderData, data.allLocal data.oOlCnt 0 = 1 ↔
      ∀ i < data.oOlCnt, (data.line i).olSupplyWId = data.wId := by
  refine ⟨fun σ _ type data => Drawn.generateInputData_yields items low high type data,
    fun σ _ s => Drawn.generateNewOrderData_yields items low high s, fun many => ⟨fun σ _ =>
      Drawn.remoteWarehouse_yields many low high, skipHome_bijOn low high, ?_⟩,
    NewOrderData.allLocal_iff⟩
  intro unaltered w other
  constructor
  · intro n few many
    exact Drawn.generateNewOrderData_attains unaltered items low high other few many
  · exact Drawn.generatePaymentData_attains unaltered low high other

/-- Three warehouses, the terminal at the second one: the others are the first and the third. -/
theorem generated_in_range_three :
    Set.BijOn (fun r => skipHome 2 (r + 1)) (Set.Ico 0 2) {w | (1 ≤ w ∧ w ≤ 3) ∧ w ≠ 2} :=
  ((generated_in_range { warehouses := 3 } 0 2 (by decide) (by decide) (by decide)).2.2.1
    (by decide)).2.1

end Dbt2
