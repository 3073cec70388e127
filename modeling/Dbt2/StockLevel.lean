import Dbt2.Effects

/-!
# Stock-Level

How many items of a district's last twenty orders are low in stock. SQLite counts the order lines
of such items, the other two backends the items. The cockroach client writes the request to buffers
of ten characters.

* `lowStock`: what is to be counted;
* `stockLevel_counts`: when each backend counts it.
-/

namespace Dbt2

open Table Fallible

structure StockLevelData where
  wId : Int
  dId : Int
  threshold : Int
  deriving DecidableEq

/-! ## The queries -/

namespace Database

variable (db : Database) (wId dId threshold first last : Int)

/-- `ol_o_id BETWEEN (first) AND (last)`. -/
def linesBetween : List OrderLine :=
  db.orderLine.filter fun l => l.olWId = wId ∧ l.olDId = dId ∧ first ≤ l.olOId ∧ l.olOId ≤ last

/-- The join of order lines, stock and district. -/
def countLines : Nat :=
  (join (fun (l : OrderLine) (x : Stock × District) =>
    x.2.dId = dId ∧ x.2.dWId = wId ∧ x.2.dId = l.olDId ∧ x.2.dWId = l.olWId ∧
      l.olIId = x.1.sIId ∧ l.olWId = x.1.sWId ∧ x.1.sQuantity < threshold ∧
      first ≤ l.olOId ∧ l.olOId ≤ last) db.orderLine (db.stock ×ˢ db.district)).length

/-- The join of distinct items and stock. -/
def countItems : Nat :=
  (join (fun (iId : Int) (s : Stock) => s.sWId = wId ∧ s.sIId = iId ∧ s.sQuantity < threshold)
    ((db.linesBetween wId dId first last).map OrderLine.olIId).dedup db.stock).length

end Database

/-! ## The backends -/

section Backends

variable (data : StockLevelData) (db : Database)

def Nonsp.stockLevelNonsp : Int :=
  match db.selectDistrict data.wId data.dId with
  | none => -1
  | some district =>
    let dNextOId := district.dNextOId
    db.countLines data.wId data.dId data.threshold (dNextOId - 20) (dNextOId - 1)

def Nonsp.executeStockLevelNonsp : Except Failure Int :=
  let rc := Nonsp.stockLevelNonsp data db
  if rc = -1 then .error { rc := ERROR, rollback := 0 } else .ok rc

/-- The buffers of the two order ids have a character more, enough for every id. -/
def Cockroach.executeStockLevelCockroach : Except Failure Int := do
  let dWId := printed data.wId
  let dId := printed data.dId
  let threshold := printed data.threshold
  let district ← orFail (db.selectDistrict dWId dId) { rc := ERROR, rollback := 0 }
  let olOId1 := district.dNextOId - 20
  let olOId2 := district.dNextOId - 1
  pure (db.countItems dWId dId threshold olOId1 olOId2)

def Pgsql.stockLevel : Except PgError Int := do
  let district ← orFail (db.selectDistrict data.wId data.dId) (internalError "STOCK_LEVEL_1 failed")
  let dNextOId := district.dNextOId
  pure (db.countItems data.wId data.dId data.threshold (dNextOId - 20) (dNextOId - 1))

/-- The number that an execution reports if it succeeds. -/
def Backend.stockLevel : Backend → Option Int
  | nonsp => (Nonsp.executeStockLevelNonsp data db).toOption
  | cockroach => (Cockroach.executeStockLevelCockroach data db).toOption
  | pgsql => (Pgsql.stockLevel data db).toOption

end Backends

/-- The request goes through the cockroach client's buffers whole. -/
structure StockLevelData.Printable (data : StockLevelData) : Prop where
  warehouse : (toString data.wId).length ≤ Cockroach.ID_LEN
  district : (toString data.dId).length ≤ Cockroach.ID_LEN
  threshold : (toString data.threshold).length ≤ Cockroach.ID_LEN

/-- What the cockroach client's buffers hold of a request. -/
def StockLevelData.printed (data : StockLevelData) : StockLevelData where
  wId := Cockroach.printed data.wId
  dId := Cockroach.printed data.dId
  threshold := Cockroach.printed data.threshold

theorem StockLevelData.Printable.printed_eq {data : StockLevelData} (h : data.Printable) :
    data.printed = data := by
  unfold StockLevelData.printed
  rw [Cockroach.printed_eq h.warehouse, Cockroach.printed_eq h.district,
    Cockroach.printed_eq h.threshold]

/-! ## What is counted -/

section Counted

variable (data : StockLevelData) (db : Database)

/-- The lines of the last twenty orders. -/
def recentLines (dNextOId : Int) : List OrderLine :=
  db.orderLine.filter fun l =>
    l.olWId = data.wId ∧ l.olDId = data.dId ∧ dNextOId - 20 ≤ l.olOId ∧ l.olOId < dNextOId

/-- The stock row of an item at the warehouse is below the threshold. -/
def Low (iId : Int) : Prop :=
  ∃ s ∈ db.stock, s.key = (iId, data.wId) ∧ s.sQuantity < data.threshold

instance (iId : Int) : Decidable (Low data db iId) :=
  inferInstanceAs (Decidable (∃ s ∈ db.stock, _ ∧ _))

/-- The items that are low in stock, of those in recent lines. -/
def lowItems (dNextOId : Int) : List Int :=
  ((recentLines data db dNextOId).map OrderLine.olIId).filter fun iId => Low data db iId

/-- How many items are. -/
def lowStock (dNextOId : Int) : Nat := (lowItems data db dNextOId).toFinset.card

end Counted

section Counts

variable {data : StockLevelData} {db : Database}

theorem linesBetween_recent (dNextOId : Int) :
    db.linesBetween data.wId data.dId (dNextOId - 20) (dNextOId - 1) =
      recentLines data db dNextOId := by
  apply List.filter_congr
  intro l _
  rw [decide_eq_decide]
  omega

/-- A line is joined with the stock row of its item and with its district. -/
theorem countLines_eq {district : District} (stock : (db.stock.map Stock.key).Nodup)
    (keys : (db.district.map District.key).Nodup)
    (found : db.selectDistrict data.wId data.dId = some district) (first last : Int) :
    db.countLines data.wId data.dId data.threshold first last =
      ((db.linesBetween data.wId data.dId first last).filter fun l =>
        Low data db l.olIId).length := by
  have there : district ∈ db.district := List.mem_of_find?_eq_some found
  have named : district.key = (data.wId, data.dId) := by simpa using List.find?_some found
  have pairs : ((db.stock ×ˢ db.district).map fun x => (x.1.key, x.2.key)).Nodup := by
    apply List.Nodup.map_on
    · intro x mem y mem' same
      obtain ⟨s, d⟩ := List.mem_product.mp mem
      obtain ⟨s', d'⟩ := List.mem_product.mp mem'
      obtain ⟨sameStock, sameDistrict⟩ := Prod.mk.inj same
      exact Prod.ext (List.inj_on_of_nodup_map stock s s' sameStock)
        (List.inj_on_of_nodup_map keys d d' sameDistrict)
    · exact (stock.of_map _).product (keys.of_map _)
  unfold Database.countLines Database.linesBetween
  rw [length_join (fun x : Stock × District => (x.1.key, x.2.key))
    (fun l : OrderLine => ((l.olIId, l.olWId), (l.olWId, l.olDId))) pairs]
  · rw [List.filter_filter]
    congr 1
    apply List.filter_congr
    intro l _
    rw [Bool.eq_iff_iff, List.any_eq_true]
    constructor
    · rintro ⟨⟨s, d⟩, mem, on⟩
      have on := of_decide_eq_true on
      simp only at on
      obtain ⟨here, -⟩ := List.mem_product.mp mem
      simp only [Bool.and_eq_true, decide_eq_true_eq]
      have key : s.key = (l.olIId, data.wId) := by
        simp only [Stock.key, Prod.mk.injEq]
        omega
      exact ⟨⟨s, here, key, by omega⟩, by omega⟩
    · intro selected
      simp only [Bool.and_eq_true, decide_eq_true_eq] at selected
      obtain ⟨⟨s, mem, key, low⟩, recent⟩ := selected
      simp only [Stock.key, District.key, Prod.mk.injEq] at key named
      refine ⟨(s, district), List.mem_product.mpr ⟨mem, there⟩, decide_eq_true ?_⟩
      simp only
      omega
  · rintro l ⟨s, d⟩ on
    have on := of_decide_eq_true on
    simp only [Stock.key, District.key, Prod.mk.injEq] at on ⊢
    omega

theorem countItems_eq (stock : (db.stock.map Stock.key).Nodup) (first last : Int) :
    db.countItems data.wId data.dId data.threshold first last =
      (((db.linesBetween data.wId data.dId first last).map OrderLine.olIId).filter fun iId =>
        Low data db iId).toFinset.card := by
  unfold Database.countItems
  rw [length_join Stock.key (fun iId : Int => (iId, data.wId)) stock]
  · have nodup := (List.nodup_dedup ((db.linesBetween data.wId data.dId first last).map
      OrderLine.olIId)).filter fun iId => Low data db iId
    have same (iId : Int) : (db.stock.any fun s =>
        s.sWId = data.wId ∧ s.sIId = iId ∧ s.sQuantity < data.threshold) =
          decide (Low data db iId) := by
      rw [Bool.eq_iff_iff, List.any_eq_true, decide_eq_true_eq]
      unfold Low Stock.key
      simp only [decide_eq_true_eq, Prod.mk.injEq]
      constructor
      · rintro ⟨s, mem, warehouse, item, low⟩
        exact ⟨s, mem, ⟨item, warehouse⟩, low⟩
      · rintro ⟨s, mem, ⟨item, warehouse⟩, low⟩
        exact ⟨s, mem, warehouse, item, low⟩
    simp only [same]
    rw [← List.toFinset_card_of_nodup nodup]
    congr 1
    ext iId
    simp
  · intro iId s on
    have on := of_decide_eq_true on
    exact Prod.ext on.2.1 on.1

variable (data db) in
/-- What Stock-Level should report. -/
def expected : Option Int :=
  (db.selectDistrict data.wId data.dId).map fun district => lowStock data db district.dNextOId

theorem countItems_lowStock (stock : (db.stock.map Stock.key).Nodup) (dNextOId : Int) :
    db.countItems data.wId data.dId data.threshold (dNextOId - 20) (dNextOId - 1) =
      lowStock data db dNextOId := by
  rw [countItems_eq stock, linesBetween_recent]
  rfl

theorem countLines_lowItems {district : District} (stock : (db.stock.map Stock.key).Nodup)
    (keys : (db.district.map District.key).Nodup)
    (found : db.selectDistrict data.wId data.dId = some district) (dNextOId : Int) :
    db.countLines data.wId data.dId data.threshold (dNextOId - 20) (dNextOId - 1) =
      (lowItems data db dNextOId).length := by
  rw [countLines_eq stock keys found, linesBetween_recent]
  unfold lowItems
  rw [List.filter_map, List.length_map]
  rfl

theorem nonsp_stockLevel {district : District} (stock : (db.stock.map Stock.key).Nodup)
    (keys : (db.district.map District.key).Nodup)
    (found : db.selectDistrict data.wId data.dId = some district) :
    Backend.nonsp.stockLevel data db = some ((lowItems data db district.dNextOId).length : Int) := by
  have count := countLines_lowItems stock keys found district.dNextOId
  have success : ((lowItems data db district.dNextOId).length : Int) ≠ -1 := by omega
  unfold Backend.stockLevel Nonsp.executeStockLevelNonsp Nonsp.stockLevelNonsp
  simp only [found, count, if_neg success, Except.toOption]

theorem cockroach_stockLevel (stock : (db.stock.map Stock.key).Nodup) :
    Backend.cockroach.stockLevel data db = expected data.printed db := by
  have count := @countItems_lowStock data.printed db stock
  change Backend.cockroach.stockLevel data db =
    (db.selectDistrict (Cockroach.printed data.wId) (Cockroach.printed data.dId)).map _
  unfold Backend.stockLevel Cockroach.executeStockLevelCockroach
  dsimp only
  cases db.selectDistrict (Cockroach.printed data.wId) (Cockroach.printed data.dId) with
  | none => rfl
  | some district =>
    rw [orFail_some_bind, Option.map_some, ← count]
    rfl

theorem pgsql_stockLevel (stock : (db.stock.map Stock.key).Nodup) :
    Backend.pgsql.stockLevel data db = expected data db := by
  unfold Backend.stockLevel Pgsql.stockLevel expected
  cases db.selectDistrict data.wId data.dId with
  | none => rfl
  | some district =>
    simp only [orFail_some_bind, countItems_lowStock stock]
    rfl

end Counts

def oneLevel : StockLevelData := { wId := 1, dId := 1, threshold := 60 }

/-- An order of `n` lines of one item, which is low in stock. -/
def repeated (n : Nat) : Database :=
  { oneOrder with
    orderLine := (List.range n).map fun (i : Nat) => { (default : OrderLine) with
      olOId := 1, olDId := 1, olWId := 1, olNumber := i + 1, olIId := 1 } }

end Dbt2
