import Dbt2.InputData
import Dbt2.Population

/-!
# Customers that exist

The drivers select customers of a database that the data generator has filled. They draw ids up to
3000 and the thousand last names, whatever number of customers both programs were given:
`selectors_exist_iff` says for which numbers every selected customer exists.
-/

namespace Dbt2

open Draws

/-- What the customers that come from a round of the generator have in common. -/
structure GeneratedCustomer (i j k : Int) (c : Customer) : Prop where
  warehouse : c.cWId = i + 1
  district : c.cDId = j + 1
  id : c.cId = k + 1
  last : k < 1000 → c.cLast = getCLast k

namespace Datagen

theorem customerLast_emits (k : Int) :
    Emits (customerLast k) fun last => k < 1000 → last = getCLast k := by
  unfold customerLast
  split
  · exact Emits.pure fun _ => rfl
  · exact (Emits.trivial _).bind fun i _ => Emits.pure fun early => absurd early ‹_›

theorem customerRow_emits (i j k : Int) : Emits (customerRow i j k) (GeneratedCustomer i j k) :=
  (Emits.trivial _).bind fun _ _ => (customerLast_emits k).bind fun _ last =>
    (Emits.trivial _).bind fun _ _ => (Emits.trivial _).bind fun _ _ =>
    (Emits.trivial _).bind fun _ _ => (Emits.trivial _).bind fun _ _ =>
    (Emits.trivial _).bind fun _ _ => (Emits.trivial _).bind fun _ _ =>
    (Emits.trivial _).bind fun _ _ => (Emits.trivial _).bind fun _ _ =>
    (Emits.trivial _).bind fun _ _ => Emits.pure ⟨rfl, rfl, rfl, last⟩

theorem genCustomers_rows {d : Datagen} {out : List Customer}
    (generated : (d.withPart 0 1).genCustomers = some out) :
    ∃ row : Int → Int → Int → Customer,
      (∀ i j k, 0 ≤ i → i < d.warehouses → 0 ≤ j → j < 10 → 0 ≤ k → k < d.customers →
        GeneratedCustomer i j k (row i j k)) ∧
      out = grid d.warehouses 10 0 d.customers row := by
  have emits : Emits (forRange 0 d.warehouses (forDistricts fun i j =>
      forRange 0 d.customers fun k => do
        let row ← customerRow i j k
        pure [row])) _ :=
    forRange_emits_grid fun i j => forRange_emits_map fun k _ _ =>
      (customerRow_emits i j k).bind fun row h => Emits.pure ⟨row, rfl, h⟩
  rw [genCustomers, generate_whole] at generated
  exact emits.output generated

/-- The rows loaded from the files of `P` parts. -/
def Loads (d : Datagen) (P : Nat) (rows : List Customer) : Prop :=
  1 ≤ P ∧ joinParts (fun p => (d.withPart p P).genCustomers) P = some rows

theorem Loads.whole {d : Datagen} {P : Nat} {rows : List Customer} (loads : d.Loads P rows)
    (some : 1 ≤ d.warehouses) : (d.withPart 0 1).genCustomers = Option.some rows := by
  obtain ⟨rows', whole, joined⟩ := d.genCustomers_partitions some loads.1
  obtain rfl := Option.some.inj (joined.symm.trans loads.2)
  exact whole

end Datagen

/-! ## Selected customers -/

def IdExists (rows : List Customer) (wId dId cId : Int) : Prop :=
  ∃ c ∈ rows, c.cWId = wId ∧ c.cDId = dId ∧ c.cId = cId

def NameExists (rows : List Customer) (wId dId : Int) (cLast : String) : Prop :=
  ∃ c ∈ rows, c.cWId = wId ∧ c.cDId = dId ∧ c.cLast = cLast

def SelectorExists (rows : List Customer) (wId dId cId : Int) (cLast : String) : Prop :=
  if cId = C_ID_UNKNOWN then NameExists rows wId dId cLast else IdExists rows wId dId cId

/-- The addressed district has the customer of the transaction. -/
def NonspData.CustomerExists (rows : List Customer) : NonspData → Prop
  | newOrder data => IdExists rows data.wId data.dId data.cId
  | payment data => SelectorExists rows data.cWId data.cDId data.cId data.cLast
  | orderStatus data => SelectorExists rows data.cWId data.cDId data.cId data.cLast
  | integrity _ | delivery _ | stockLevel _ => True

/-- The data generator and the driver run with the same options. -/
structure Configured (d : Datagen) (card : TableCardinality) : Prop where
  warehouses : d.warehouses = card.warehouses
  customers : d.customers = card.customers

/-- Whatever is drawn, the customers of the transactions exist. -/
def SelectorsExist (d : Datagen) (card : TableCardinality) (modeAltered wId : Int) : Prop :=
  ∀ P rows, d.Loads P rows → ∀ (σ : Type) [Source σ] (type : Int) (data : NonspData),
    HasInputs type →
      Yields (Drawn.generateInputData card modeAltered wId type data : StateT σ Option _)
        fun p => p.2.CustomerExists rows

/-! ## Enough customers -/

section

variable {d : Datagen} {rows : List Customer} {wId dId : Int}

theorem exists_customer (whole : (d.withPart 0 1).genCustomers = some rows)
    (warehouse : 1 ≤ wId ∧ wId ≤ d.warehouses) (district : 1 ≤ dId ∧ dId ≤ 10) {k : Int}
    (low : 0 ≤ k) (high : k < d.customers) :
    ∃ c ∈ rows, GeneratedCustomer (wId - 1) (dId - 1) k c := by
  obtain ⟨row, generated, rfl⟩ := Datagen.genCustomers_rows whole
  refine ⟨row (wId - 1) (dId - 1) k, mem_grid.mpr ⟨wId - 1, dId - 1, k, ?_⟩,
    generated _ _ _ (by omega) (by omega) (by omega) (by omega) low high⟩
  exact ⟨by omega, by omega, by omega, by omega, low, high, rfl⟩

theorem idExists (whole : (d.withPart 0 1).genCustomers = some rows)
    (warehouse : 1 ≤ wId ∧ wId ≤ d.warehouses) (district : 1 ≤ dId ∧ dId ≤ 10) {cId : Int}
    (low : 1 ≤ cId) (high : cId ≤ d.customers) : IdExists rows wId dId cId := by
  obtain ⟨c, mem, facts⟩ :=
    exists_customer whole warehouse district (k := cId - 1) (by omega) (by omega)
  refine ⟨c, mem, ?_, ?_, ?_⟩
  · rw [facts.warehouse, sub_add_cancel]
  · rw [facts.district, sub_add_cancel]
  · rw [facts.id, sub_add_cancel]

/-- The first thousand customers of a district have all the names. -/
theorem nameExists (whole : (d.withPart 0 1).genCustomers = some rows)
    (warehouse : 1 ≤ wId ∧ wId ≤ d.warehouses) (district : 1 ≤ dId ∧ dId ≤ 10)
    (enough : 1000 ≤ d.customers) {k : Int} (low : 0 ≤ k) (high : k ≤ 999) :
    NameExists rows wId dId (getCLast k) := by
  obtain ⟨c, mem, facts⟩ := exists_customer whole warehouse district low (by omega)
  refine ⟨c, mem, ?_, ?_, facts.last (by omega)⟩
  · rw [facts.warehouse, sub_add_cancel]
  · rw [facts.district, sub_add_cancel]

theorem selectorExists (whole : (d.withPart 0 1).genCustomers = some rows)
    (enough : 3000 ≤ d.customers) (warehouse : 1 ≤ wId ∧ wId ≤ d.warehouses)
    (district : 1 ≤ dId ∧ dId ≤ 10) {cId : Int} {cLast : String} (selects : Selects cId cLast) :
    SelectorExists rows wId dId cId cLast := by
  obtain ⟨rfl, k, within, rfl⟩ | ⟨within, rfl⟩ := selects
  · rw [SelectorExists, if_pos rfl]
    exact nameExists whole warehouse district (by omega) within.1 within.2
  · have known : cId ≠ C_ID_UNKNOWN := by
      simp only [C_ID_UNKNOWN]
      omega
    rw [SelectorExists, if_neg known]
    exact idExists whole warehouse district within.1 (by omega)

/-- Inputs in range name customers of a large enough database. -/
theorem NonspData.InRange.customerExists {card : TableCardinality} {data : NonspData}
    (inRange : data.InRange card wId) (whole : (d.withPart 0 1).genCustomers = some rows)
    (enough : 3000 ≤ d.customers) (same : d.warehouses = card.warehouses)
    (home : 1 ≤ wId ∧ wId ≤ d.warehouses) : data.CustomerExists rows := by
  cases data with
  | integrity | delivery | stockLevel => trivial
  | newOrder data =>
    obtain ⟨rollback, order⟩ := inRange
    refine idExists whole (by rw [order.home]; exact home) order.district order.customer.1 ?_
    have := order.customer
    omega
  | payment data =>
    exact selectorExists whole enough (same ▸ inRange.customerWarehouse)
      inRange.customerDistrict inRange.customer
  | orderStatus data =>
    exact selectorExists whole enough (by rw [inRange.home]; exact home) inRange.district
      inRange.customer

/-! ## Too few customers -/

/-- Whatever its home, a terminal may ask for the last order of customer 3000. -/
theorem Drawn.orderStatus_attains (card : TableCardinality) (modeAltered wId : Int)
    (data : NonspData) :
    Attains (Drawn.generateInputData card modeAltered wId ORDER_STATUS data)
      (OK, .orderStatus { cWId := wId, cDId := 1, cId := 3000, cLast := "" }) := by
  have selected : Attains Drawn.selectCustomer (3000, "") :=
    (Drawn.getRandom_attains (r := 60) (by decide) (by decide) (by decide)).bind
      ((Drawn.getNurand_attains (by decide) (by decide) (by decide) (by decide) le_rfl
        (by decide)).bind (Attains.pure _))
  have generated : Attains (Drawn.generateOrderStatusData wId)
      { cWId := wId, cDId := 1, cId := 3000, cLast := "" } :=
    (Drawn.getRandom_attains le_rfl (by decide) (by decide)).bind
      (selected.bind (Attains.pure _))
  exact generated.bind (Attains.pure _)

theorem not_selectorsExist (some : 1 ≤ d.warehouses) (few : d.customers < 3000)
    (card : TableCardinality) (modeAltered wId : Int) :
    ¬ SelectorsExist d card modeAltered wId := by
  intro exist
  obtain ⟨rows, whole, joined⟩ := d.genCustomers_partitions some le_rfl
  have yields := exist 1 rows ⟨le_rfl, joined⟩ (Stream' (BitVec 64)) ORDER_STATUS (.integrity 0)
    (.inr (.inr (.inl rfl)))
  obtain ⟨c, mem, -, -, id⟩ : IdExists rows wId 1 3000 :=
    (Drawn.orderStatus_attains card modeAltered wId (.integrity 0)).of_yields yields
  obtain ⟨row, generated, rfl⟩ := Datagen.genCustomers_rows whole
  obtain ⟨i, j, k, li, ui, lj, uj, lk, uk, rfl⟩ := mem_grid.mp mem
  rw [(generated i j k li ui lj uj lk uk).id] at id
  omega

end

/-! ## The condition -/

/-- Every selected customer exists just if there are at least the 3000 customers of the default. -/
theorem selectors_exist_iff (d : Datagen) (card : TableCardinality) (modeAltered wId : Int)
    (configured : Configured d card) (items : 1 ≤ card.items) (low : 1 ≤ wId)
    (high : wId ≤ card.warehouses) :
    SelectorsExist d card modeAltered wId ↔ 3000 ≤ d.customers := by
  have same := configured.warehouses
  constructor
  · intro exist
    by_contra few
    exact not_selectorsExist (by omega) (by omega) card modeAltered wId exist
  · intro enough P rows loads σ _ type data known
    refine (Drawn.generateInputData_yields items low high type data).mono ?_
    rintro p (⟨-, -, -, inRange⟩ | ⟨unknown, -⟩)
    · exact inRange.customerExists (loads.whole (by omega)) enough same ⟨low, by omega⟩
    · exact absurd known unknown

theorem selectors_exist_iff_default :
    SelectorsExist { warehouses := 1, seed := 1 } {} 0 1 ↔ (3000 : Int) ≤ 3000 :=
  selectors_exist_iff { warehouses := 1, seed := 1 } {} 0 1 ⟨rfl, rfl⟩ (by decide) (by decide)
    (by decide)

/-- With a thousand customers in both programs some selected customer does not exist. -/
theorem selectors_missing : ¬ ∀ (d : Datagen) (card : TableCardinality) (modeAltered wId : Int),
    Configured d card → 1 ≤ card.items → 1 ≤ wId → wId ≤ card.warehouses →
      SelectorsExist d card modeAltered wId := by
  intro always
  exact not_selectorsExist (d := { warehouses := 1, customers := 1000, orders := 1000, seed := 1 })
    (by decide) (by decide) { customers := 1000 } 0 1
    (always _ { customers := 1000 } 0 1 ⟨rfl, rfl⟩ (by decide) (by decide) (by decide))

end Dbt2
