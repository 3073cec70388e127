import Dbt2.NewOrderAgreement
import Dbt2.Rows

/-!
# The rows of a complete order

What the rows are after a New-Order has placed some lines, each with the stock quantity that it
finds.

* `placedRows`: the rows after the header and the first `k` lines;
* `placedRows_succ`: a line that takes from its stock row and is inserted;
* `Complete`: an order with all of its lines.
-/

namespace Dbt2

open Locking Prog

section Placed

variable (data : NewOrderData) (rows : Rows) (oId : Int)

/-- A stock row after the first `k` lines. -/
def soldRow (k : Nat) (stock : Int × Int) (s : Stock) : Stock :=
  let qs := data.quantities k stock
  { s with
    sQuantity := freshLeft s.sQuantity qs
    sYtd := s.sYtd + qs.sum
    sOrderCnt := s.sOrderCnt + qs.length
    sRemoteCnt := s.sRemoteCnt + if stock.2 ≠ data.wId then qs.length else 0 }

def lineRow (i : Nat) : OrderLine :=
  Plpgsql.orderLineRow data oId i
    (((rows (.item (data.line i).olIId)).map Item.iPrice).getD 0 * (data.line i).olQuantity)
    ((rows (.stock (data.line i).olIId (data.line i).olSupplyWId)).map
      fun s => s.sDist.get data.dist)

/-- The lines in the order, of which the first `k` are new. -/
def placedLines (k : Nat) : Option (List OrderLine) :=
  if k = 0 then rows (.lines data.wId data.dId oId)
  else some ((rows (.lines data.wId data.dId oId)).getD [] ++
    (List.range k).map (lineRow data rows oId))

/-- The rows after the header and the first `k` lines. -/
def placedRows (k : Nat) : Rows
  | .district wId dId =>
    if (wId, dId) = (data.wId, data.dId) then (rows (.district wId dId)).map District.advance
    else rows (.district wId dId)
  | .newOrder wId dId o =>
    if (wId, dId, o) = (data.wId, data.dId, oId) then
      some { noOId := oId, noDId := data.dId, noWId := data.wId }
    else rows (.newOrder wId dId o)
  | .orders wId dId o =>
    if (wId, dId, o) = (data.wId, data.dId, oId) then some (orderRow data oId)
    else rows (.orders wId dId o)
  | .lines wId dId o =>
    if (wId, dId, o) = (data.wId, data.dId, oId) then placedLines data rows oId k
    else rows (.lines wId dId o)
  | .stock iId wId => (rows (.stock iId wId)).map (soldRow data k (iId, wId))
  | .warehouse wId => rows (.warehouse wId)
  | .customer wId dId cId => rows (.customer wId dId cId)
  | .item iId => rows (.item iId)

/-- No order and no outstanding order has the id. -/
def NewOrderData.idUnused : Prop :=
  rows (.newOrder data.wId data.dId oId) = none ∧ rows (.orders data.wId data.dId oId) = none

/-- The number of a line is not in use in its order. -/
def NewOrderData.numberFree (k : Nat) : Prop :=
  numberUsed (lineRow data rows oId k) (rows (.lines data.wId data.dId oId)) = false

/-- A new order with all that belongs to it. -/
def Complete (left : Rows) : Prop :=
  ∃ district, rows (.district data.wId data.dId) = some district ∧
    data.idUnused rows district.dNextOId ∧
      left = placedRows data rows district.dNextOId data.oOlCnt

end Placed

section Lines

variable {data : NewOrderData} {rows : Rows} {oId : Int} {k : Nat}

theorem soldRow_succ (stock : Int × Int) (s : Stock) : soldRow data (k + 1) stock s =
    if stock = data.stockKey k then
      leaveStock data (data.line k) ((soldRow data k stock s).sQuantity -
        decrQuantity (soldRow data k stock s).sQuantity (data.line k).olQuantity)
        (soldRow data k stock s)
    else soldRow data k stock s := by
  by_cases here : stock = data.stockKey k
  · have supply : stock.2 = (data.line k).olSupplyWId := congrArg Prod.snd here
    rw [if_pos here]
    unfold soldRow leaveStock
    rw [quantities_succ, if_pos here.symm]
    simp only [List.sum_append, List.sum_singleton, List.length_append, List.length_singleton,
      supply, freshLeft_append]
    congr 1
    · ring
    · push_cast
      ring
    · split <;> push_cast <;> ring
  · rw [if_neg here]
    unfold soldRow
    rw [quantities_succ, if_neg (Ne.symm here), List.append_nil]

theorem placedLines_succ : placedLines data rows oId (k + 1) =
    some ((placedLines data rows oId k).getD [] ++ [lineRow data rows oId k]) := by
  unfold placedLines
  rw [if_neg (Nat.succ_ne_zero k), List.range_succ, List.map_append]
  by_cases zero : k = 0
  · subst zero
    simp
  · rw [if_neg zero, Option.getD_some, List.append_assoc]
    rfl

theorem placedLines_length : ((placedLines data rows oId k).getD []).length =
    ((rows (.lines data.wId data.dId oId)).getD []).length + k := by
  unfold placedLines
  by_cases zero : k = 0
  · subst zero
    rw [if_pos rfl, Nat.add_zero]
  · rw [if_neg zero, Option.getD_some, List.length_append, List.length_map, List.length_range]

/-- The lines before have other numbers. -/
theorem placedLines_used : numberUsed (lineRow data rows oId k) (placedLines data rows oId k) =
    numberUsed (lineRow data rows oId k) (rows (.lines data.wId data.dId oId)) := by
  unfold placedLines
  by_cases zero : k = 0
  · rw [if_pos zero]
  · rw [if_neg zero]
    unfold numberUsed
    rw [Option.getD_some, List.any_append]
    have earlier : ((List.range k).map (lineRow data rows oId)).any
        (fun l => l.olNumber = (lineRow data rows oId k).olNumber) = false := by
      rw [List.any_eq_false]
      intro l mem
      obtain ⟨i, below, rfl⟩ := List.mem_map.mp mem
      have bound : i < k := List.mem_range.mp below
      have other : ((i : Int) + 1) ≠ k + 1 := by omega
      simpa [lineRow, Plpgsql.orderLineRow] using other
    rw [earlier, Bool.or_false]

variable (data rows oId) in
/-- The header: the counter is advanced and two rows are inserted. -/
theorem placedRows_zero : Function.update (Function.update (Function.update rows
      (.district data.wId data.dId) ((rows (.district data.wId data.dId)).map District.advance))
      (.newOrder data.wId data.dId oId)
      (some { noOId := oId, noDId := data.dId, noWId := data.wId }))
      (.orders data.wId data.dId oId) (some (orderRow data oId)) =
    placedRows data rows oId 0 := by
  funext key
  cases key with
  | district wId dId =>
    by_cases here : (wId, dId) = (data.wId, data.dId)
    · cases here
      simp [placedRows]
    · have other : Key.district wId dId ≠ .district data.wId data.dId := by
        rintro ⟨⟩
        exact here rfl
      simp [placedRows, here, other]
  | newOrder wId dId o =>
    by_cases here : (wId, dId, o) = (data.wId, data.dId, oId)
    · cases here
      simp [placedRows]
    · have other : Key.newOrder wId dId o ≠ .newOrder data.wId data.dId oId := by
        rintro ⟨⟩
        exact here rfl
      simp [placedRows, here, other]
  | orders wId dId o =>
    by_cases here : (wId, dId, o) = (data.wId, data.dId, oId)
    · cases here
      simp [placedRows]
    · have other : Key.orders wId dId o ≠ .orders data.wId data.dId oId := by
        rintro ⟨⟩
        exact here rfl
      simp [placedRows, here, other]
  | lines wId dId o =>
    by_cases here : (wId, dId, o) = (data.wId, data.dId, oId)
    · cases here
      simp [placedRows, placedLines]
    · simp [placedRows, here]
  | stock iId wId =>
    have nothing : soldRow data 0 (iId, wId) = id := by
      funext s
      simp [soldRow, NewOrderData.quantities, freshLeft]
    simp [placedRows, nothing]
  | warehouse wId => rfl
  | customer wId dId cId => rfl
  | item iId => rfl

/-- A line: its stock row is updated and it is inserted. -/
theorem placedRows_succ {s : Stock}
    (found : rows (.stock (data.line k).olIId (data.line k).olSupplyWId) = some s) :
    Function.update (Function.update (placedRows data rows oId k)
      (.stock (data.line k).olIId (data.line k).olSupplyWId)
      (some (soldRow data (k + 1) (data.stockKey k) s)))
      (.lines data.wId data.dId oId)
      (some ((placedLines data rows oId k).getD [] ++ [lineRow data rows oId k])) =
    placedRows data rows oId (k + 1) := by
  funext key
  cases key with
  | lines wId dId o =>
    by_cases here : (wId, dId, o) = (data.wId, data.dId, oId)
    · cases here
      simp [placedRows, placedLines_succ]
    · have other : Key.lines wId dId o ≠ .lines data.wId data.dId oId := by
        rintro ⟨⟩
        exact here rfl
      simp [placedRows, here, other]
  | stock iId wId =>
    by_cases here : (iId, wId) = data.stockKey k
    · cases here
      simp [placedRows, found]
      rfl
    · have other : Key.stock iId wId ≠
          .stock (data.line k).olIId (data.line k).olSupplyWId := by
        rintro ⟨⟩
        exact here rfl
      have same : soldRow data (k + 1) (iId, wId) = soldRow data k (iId, wId) := by
        funext s
        rw [soldRow_succ, if_neg here]
      simp [placedRows, same, other]
  | district wId dId => rfl
  | newOrder wId dId o => rfl
  | orders wId dId o => rfl
  | warehouse wId => rfl
  | customer wId dId cId => rfl
  | item iId => rfl

end Lines

end Dbt2
