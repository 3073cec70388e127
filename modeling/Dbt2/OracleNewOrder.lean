import Dbt2.Oracle
import Dbt2.OrderRows

/-!
# Whether Oracle's New-Order is all or nothing

A call of `neworder` either places the whole order, or raises an error that undoes it, or ends
with a `NO_DATA_FOUND` that undoes nothing and is committed.

* `neworder_ends`: which of these happens;
* `all_or_nothing`: when what is committed is the whole order or nothing.
-/

namespace Dbt2.Oracle

open Locking Prog

section Line

variable {data : NewOrderData} {rows : Rows} {oId : Int} {k : Nat}

/-- A line that can be placed. -/
structure Placeable (data : NewOrderData) (rows : Rows) (oId : Int) (k : Nat) : Prop where
  item : (rows (.item (data.line k).olIId)).isSome
  stock : (rows (.stock (data.line k).olIId (data.line k).olSupplyWId)).isSome
  number : data.numberFree rows oId k

/-- How a line that cannot be placed ends; `left` is what it leaves. -/
inductive LineFailed (data : NewOrderData) (rows : Rows) (oId : Int) (k : Nat) : Int → Rows → Prop
  | item (left : Rows) (missing : rows (.item (data.line k).olIId) = none) :
      LineFailed data rows oId k ITEM_NOT_VALID left
  | stock (item : (rows (.item (data.line k).olIId)).isSome)
      (missing : rows (.stock (data.line k).olIId (data.line k).olSupplyWId) = none) :
      LineFailed data rows oId k NO_DATA_FOUND (placedRows data rows oId k)
  | number (left : Rows)
      (stock : (rows (.stock (data.line k).olIId (data.line k).olSupplyWId)).isSome) :
      LineFailed data rows oId k DUP_VAL_ON_INDEX left

section Calls

variable {called : Rows} {s : Rows × List Empty}

theorem selectItemInto_found {olIId : Int} {item : Item} (found : s.1 (.item olIId) = some item) :
    exec (alone called) (selectItemInto olIId) s = (.ok item, s) := by
  unfold selectItemInto into selectItem
  simp only [send_bind, handle_issue, exec_issue, alone, found, orRaise_some, handle_pure,
    exec_pure]

theorem selectItemInto_missing {olIId : Int} (missing : s.1 (.item olIId) = none) :
    exec (alone called) (selectItemInto olIId) s = (.error ITEM_NOT_VALID, s) := by
  unfold selectItemInto into selectItem
  simp only [send_bind, handle_issue, exec_issue, alone, missing, orRaise_none, handle_raise,
    if_true, exec_raise]

theorem newOrder2_missing {i : Nat} {item : Item} {olAmount : ℚ}
    (missing : s.1 (.stock (data.line i).olIId (data.line i).olSupplyWId) = none) :
    exec (alone called) (newOrder2 data oId i item olAmount) s = (.error NO_DATA_FOUND, s) := by
  unfold newOrder2 into selectStockForUpdate
  simp only [send_bind, issue_bind, exec_issue, alone, missing, orRaise_none, raise_bind,
    exec_raise]

variable (called oId) in
/-- Either branch takes what `decrQuantity` says off the quantity. -/
theorem newOrder2_found (item : Item) (olAmount : ℚ) {i : Nat} {stock : Stock}
    (found : s.1 (.stock (data.line i).olIId (data.line i).olSupplyWId) = some stock) :
    ∃ result, exec (alone called) (newOrder2 data oId i item olAmount) s =
      exec (alone called) (insertLine (Plpgsql.orderLineRow data oId i olAmount
          (some (stock.sDist.get data.dist))) DUP_VAL_ON_INDEX >>= fun _ => pure result)
        (Function.update s.1 (.stock (data.line i).olIId (data.line i).olSupplyWId)
          (some (leaveStock data (data.line i)
            (stock.sQuantity - decrQuantity stock.sQuantity (data.line i).olQuantity) stock)),
          s.2) := by
  unfold newOrder2 into selectStockForUpdate Dbt2.update decrQuantity
  simp only [send_bind, issue_bind, exec_issue, alone, found, orRaise_some, pure_bind]
  split
  · simp only [exec_issue, alone, found, Option.map_some]
    exact ⟨_, rfl⟩
  · simp only [exec_issue, alone, found, Option.map_some]
    rw [sub_sub_eq_add_sub, sub_add_eq_add_sub]
    exact ⟨_, rfl⟩

end Calls

theorem newOrderLine_ends :
    (Placeable data rows oId k ∧ ∃ a t,
      exec (alone rows) (newOrderLine data oId k) (placedRows data rows oId k, []) = (.ok a, t) ∧
        t = (placedRows data rows oId (k + 1), [])) ∨
      (¬ Placeable data rows oId k ∧ ∃ e t,
        exec (alone rows) (newOrderLine data oId k) (placedRows data rows oId k, []) =
          (.error e, t) ∧ LineFailed data rows oId k e t.1) := by
  unfold newOrderLine
  cases item : rows (.item (data.line k).olIId) with
  | none =>
    right
    refine ⟨fun placeable => by simpa [item] using placeable.item, _, _,
      exec_bind_error (selectItemInto_missing item), .item _ item⟩
  | some item' =>
    have there : (rows (.item (data.line k).olIId)).isSome := Option.isSome_of_eq_some item
    rw [exec_bind_ok (selectItemInto_found item)]
    cases found : rows (.stock (data.line k).olIId (data.line k).olSupplyWId) with
    | none =>
      right
      have missing : placedRows data rows oId k
          (.stock (data.line k).olIId (data.line k).olSupplyWId) = none := by
        simp [placedRows, found]
      exact ⟨fun placeable => by simpa [found] using placeable.stock, _, _,
        newOrder2_missing missing, .stock there found⟩
    | some stock =>
      have sold : placedRows data rows oId k
          (.stock (data.line k).olIId (data.line k).olSupplyWId) =
            some (soldRow data k (data.stockKey k) stock) := by
        simp only [placedRows, found, Option.map_some]
        rfl
      have row : Plpgsql.orderLineRow data oId k (item'.iPrice * (data.line k).olQuantity)
          (some ((soldRow data k (data.stockKey k) stock).sDist.get data.dist)) =
            lineRow data rows oId k := by
        simp [lineRow, item, found, soldRow]
      obtain ⟨result, same⟩ := newOrder2_found (s := (placedRows data rows oId k, [])) oId rows
        item' (item'.iPrice * (data.line k).olQuantity) sold
      have left : leaveStock data (data.line k)
          ((soldRow data k (data.stockKey k) stock).sQuantity -
            decrQuantity (soldRow data k (data.stockKey k) stock).sQuantity
              (data.line k).olQuantity) (soldRow data k (data.stockKey k) stock) =
            soldRow data (k + 1) (data.stockKey k) stock := by
        rw [soldRow_succ, if_pos rfl]
      rw [same, row, left]
      have lines : Function.update (placedRows data rows oId k)
          (.stock (data.line k).olIId (data.line k).olSupplyWId)
          (some (soldRow data (k + 1) (data.stockKey k) stock))
          (.lines data.wId data.dId oId) = placedLines data rows oId k := by
        simp [placedRows]
      cases used : numberUsed (lineRow data rows oId k) (rows (.lines data.wId data.dId oId)) with
      | true =>
        right
        have taken := placedLines_used.trans used
        rw [← lines] at taken
        refine ⟨fun placeable => Bool.noConfusion (used.symm.trans placeable.number), _, _,
          exec_bind_error (insertLine_used taken), ?_⟩
        exact .number _ (Option.isSome_of_eq_some found)
      | false =>
        left
        have fresh := placedLines_used.trans used
        rw [← lines] at fresh
        refine ⟨⟨there, Option.isSome_of_eq_some found, used⟩, result, _,
          (exec_bind_ok (insertLine_fresh fresh)).trans (exec_pure _ _), ?_⟩
        rw [← placedRows_succ found, ← lines]
        rfl

end Line

section Order

variable (data : NewOrderData) (rows : Rows)

/-- A row that the procedure needs is missing after it has changed others, and the error is not
handled. -/
def Strands : Prop :=
  (rows (.warehouse data.wId)).isSome ∧ ∃ district,
    rows (.district data.wId data.dId) = some district ∧
      (rows (.customer data.wId data.dId data.cId) = none ∨
        (data.idUnused rows district.dNextOId ∧ ∃ k < data.oOlCnt,
          (∀ j < k, Placeable data rows district.dNextOId j) ∧
          (rows (.item (data.line k).olIId)).isSome ∧
          rows (.stock (data.line k).olIId (data.line k).olSupplyWId) = none))

/-- The rows with nothing changed but the counter. -/
def advancedRows : Rows :=
  Function.update rows (.district data.wId data.dId)
    ((rows (.district data.wId data.dId)).map District.advance)

/-- How the procedure ends. -/
inductive Ends : OciStatus → Rows → Prop
  | nothing {status : OciStatus} (final : executeNewOrderOracle status ≠ .again)
      (whole : ¬ Strands data rows) : Ends status rows
  | customer {district : District} (found : rows (.district data.wId data.dId) = some district)
      (stranded : Strands data rows) : Ends .success (advancedRows data rows)
  | line {district : District} (found : rows (.district data.wId data.dId) = some district)
      (unused : data.idUnused rows district.dNextOId) (stranded : Strands data rows) {k : Nat}
      (bound : k < data.oOlCnt) : Ends .success (placedRows data rows district.dNextOId k)
  | complete (whole : ¬ Strands data rows) {left : Rows} (complete : Complete data rows left) :
      Ends .success left

variable {data rows}

theorem call_ok {A : Type} {p : Proc A} {a : A} {t : Rows × List Empty}
    (ran : exec (alone rows) p (rows, []) = (.ok a, t)) : call p rows = (.success, t.1) := by
  unfold call
  rw [ran]

theorem call_noData {A : Type} {p : Proc A} {t : Rows × List Empty}
    (ran : exec (alone rows) p (rows, []) = (.error NO_DATA_FOUND, t)) :
    call p rows = (.success, t.1) := by
  unfold call
  rw [ran]
  rfl

theorem call_error {A : Type} {p : Proc A} {e : Int} {t : Rows × List Empty}
    (ran : exec (alone rows) p (rows, []) = (.error e, t)) (other : e ≠ NO_DATA_FOUND) :
    call p rows = (.error e e, rows) := by
  unfold call
  rw [ran]
  exact if_neg other

theorem neworder_unread (missing : rows (.warehouse data.wId) = none ∨
    rows (.district data.wId data.dId) = none) :
    exec (alone rows) (neworder data) (rows, []) = (.error NO_DATA_FOUND, rows, []) := by
  unfold neworder into selectWarehouse selectDistrictForUpdate
  simp only [send_bind, issue_bind, exec_issue, alone]
  cases warehouse : rows (.warehouse data.wId) with
  | none => rfl
  | some _ =>
    simp only [orRaise_some, pure_bind, exec_issue, alone, missing.resolve_left (by simp [warehouse])]
    rfl

theorem neworder_customer {district : District} (warehouse : (rows (.warehouse data.wId)).isSome)
    (found : rows (.district data.wId data.dId) = some district)
    (missing : rows (.customer data.wId data.dId data.cId) = none) :
    exec (alone rows) (neworder data) (rows, []) =
      (.error NO_DATA_FOUND, advancedRows data rows, []) := by
  obtain ⟨warehouse, there⟩ := Option.isSome_iff_exists.mp warehouse
  have unknown : advancedRows data rows (.customer data.wId data.dId data.cId) = none := missing
  unfold advancedRows at unknown ⊢
  rw [found] at unknown ⊢
  unfold neworder into selectWarehouse selectDistrictForUpdate Dbt2.update selectCustomer
  simp only [send_bind, issue_bind, exec_issue, alone, there, found, orRaise_some, pure_bind,
    unknown, orRaise_none, raise_bind, exec_raise]

/-- With the three rows found, the header is inserted and the lines are placed. -/
theorem neworder_found {district : District} (warehouse : (rows (.warehouse data.wId)).isSome)
    (found : rows (.district data.wId data.dId) = some district)
    (customer : (rows (.customer data.wId data.dId data.cId)).isSome) :
    ∃ result : List OrderLineResult → NewOrderResult,
      exec (alone rows) (neworder data) (rows, []) = exec (alone rows) (do
        insert (.newOrder data.wId data.dId district.dNextOId)
          { noOId := district.dNextOId, noDId := data.dId, noWId := data.wId } DUP_VAL_ON_INDEX
        insert (.orders data.wId data.dId district.dNextOId) (orderRow data district.dNextOId)
          DUP_VAL_ON_INDEX
        let lines ← loop (newOrderLine data district.dNextOId) data.oOlCnt
        pure (result lines)) (advancedRows data rows, []) := by
  obtain ⟨warehouse, there⟩ := Option.isSome_iff_exists.mp warehouse
  obtain ⟨customer, known⟩ := Option.isSome_iff_exists.mp customer
  have known : advancedRows data rows (.customer data.wId data.dId data.cId) = some customer := known
  unfold advancedRows at known ⊢
  rw [found] at known ⊢
  unfold neworder into selectWarehouse selectDistrictForUpdate Dbt2.update selectCustomer
  simp only [send_bind, issue_bind, exec_issue, alone, there, found, orRaise_some, pure_bind, known]
  exact ⟨_, rfl⟩

/-- If the procedure strands at a line, it is the first that cannot be placed. -/
theorem Strands.first {district : District} (h : Strands data rows)
    (found : rows (.district data.wId data.dId) = some district)
    (known : (rows (.customer data.wId data.dId data.cId)).isSome) :
    data.idUnused rows district.dNextOId ∧
      ∀ k, (∀ j < k, Placeable data rows district.dNextOId j) →
        (k < data.oOlCnt → ¬ Placeable data rows district.dNextOId k) → k ≤ data.oOlCnt →
          k < data.oOlCnt ∧ (rows (.item (data.line k).olIId)).isSome ∧
            rows (.stock (data.line k).olIId (data.line k).olSupplyWId) = none := by
  obtain ⟨-, district', found', unknown | ⟨unused, k, bound, below, item, stock⟩⟩ := h
  · simp [unknown] at known
  · obtain rfl : district' = district := Option.some.inj (found'.symm.trans found)
    have bad : ¬ Placeable data rows district'.dNextOId k := by
      intro placeable
      simpa [stock] using placeable.stock
    refine ⟨unused, ?_⟩
    intro k' below' bad' bound'
    obtain lt | rfl | gt := Nat.lt_trichotomy k k'
    · exact absurd (below' k lt) bad
    · exact ⟨bound, item, stock⟩
    · exact absurd (below k' gt) (bad' (Nat.lt_trans gt bound))

variable (data rows) in
theorem lines_end (oId : Int) :
    ((∀ k < data.oOlCnt, Placeable data rows oId k) ∧ ∃ as t,
      exec (alone rows) (loop (newOrderLine data oId) data.oOlCnt) (placedRows data rows oId 0, []) =
        (.ok as, t) ∧ t = (placedRows data rows oId data.oOlCnt, [])) ∨
      (∃ k < data.oOlCnt, (∀ j < k, Placeable data rows oId j) ∧ ¬ Placeable data rows oId k ∧
        ∃ e t, exec (alone rows) (loop (newOrderLine data oId) data.oOlCnt)
          (placedRows data rows oId 0, []) = (.error e, t) ∧ LineFailed data rows oId k e t.1) := by
  have round (k : Nat) (s : Rows × List Empty) (_ : k < data.oOlCnt)
      (inv : s = (placedRows data rows oId k, [])) :
      (Placeable data rows oId k ∧ ∃ a t, exec (alone rows) (newOrderLine data oId k) s =
        (.ok a, t) ∧ t = (placedRows data rows oId (k + 1), [])) ∨
      (¬ Placeable data rows oId k ∧ ∃ e t, exec (alone rows) (newOrderLine data oId k) s =
        (.error e, t) ∧ LineFailed data rows oId k e t.1) := by
    subst inv
    exact newOrderLine_ends
  exact @exec_loop _ _ _ _ _ _ _ (fun k s => s = (placedRows data rows oId k, [])) _
    (fun k e t => LineFailed data rows oId k e t.1) _ round _ rfl

variable (data rows) in
theorem neworder_ends : ∃ status left, call (neworder data) rows = (status, left) ∧
    Ends data rows status left := by
  by_cases warehouse : (rows (.warehouse data.wId)).isSome
  swap
  · have missing := Option.not_isSome_iff_eq_none.mp warehouse
    exact ⟨_, _, call_noData (neworder_unread (.inl missing)),
      .nothing (by decide) fun stranded => warehouse stranded.1⟩
  cases found : rows (.district data.wId data.dId) with
  | none =>
    refine ⟨_, _, call_noData (neworder_unread (.inr found)), .nothing (by decide) ?_⟩
    rintro ⟨-, district, there, -⟩
    simp [found] at there
  | some district =>
    cases known : rows (.customer data.wId data.dId data.cId) with
    | none =>
      exact ⟨_, _, call_noData (neworder_customer warehouse found known),
        .customer found ⟨warehouse, district, found, .inl known⟩⟩
    | some customer =>
      have customer := Option.isSome_of_eq_some known
      obtain ⟨result, same⟩ := neworder_found warehouse found customer
      have duplicate {t : Rows × List Empty} (used : ¬ data.idUnused rows district.dNextOId)
          (ran : exec (alone rows) (neworder data) (rows, []) = (.error DUP_VAL_ON_INDEX, t)) :
          ∃ status left, call (neworder data) rows = (status, left) ∧ Ends data rows status left :=
        ⟨_, _, call_error ran (by decide), .nothing (by decide) fun strands =>
          used (strands.first found customer).1⟩
      by_cases outstanding : (rows (.newOrder data.wId data.dId district.dNextOId)).isSome
      · apply duplicate
        · intro unused
          simp [unused.1] at outstanding
        · rw [same]
          exact exec_bind_error (insert_used outstanding)
      by_cases ordered : (rows (.orders data.wId data.dId district.dNextOId)).isSome
      · apply duplicate
        · intro unused
          simp [unused.2] at ordered
        · rw [same, exec_bind_ok (insert_fresh (Option.not_isSome_iff_eq_none.mp outstanding))]
          exact exec_bind_error (insert_used ordered)
      rw [Option.not_isSome_iff_eq_none] at outstanding ordered
      rw [exec_bind_ok (insert_fresh outstanding), exec_bind_ok (insert_fresh ordered)] at same
      have header := placedRows_zero data rows district.dNextOId
      unfold advancedRows at same
      dsimp only at same
      rw [header] at same
      obtain ⟨all, as, t, ran, rfl⟩ | ⟨k, bound, below, bad, e, t, ran, failed⟩ :=
        lines_end data rows district.dNextOId
      · rw [exec_bind_ok ran, exec_pure] at same
        refine ⟨_, _, call_ok same, .complete ?_ ⟨district, found, ⟨outstanding, ordered⟩, rfl⟩⟩
        intro strands
        have last := (strands.first found customer).2 data.oOlCnt all
        exact absurd (last (fun lt => absurd lt (lt_irrefl _)) (le_refl _)).1 (lt_irrefl _)
      · rw [exec_bind_error ran] at same
        have first (strands : Strands data rows) :=
          (strands.first found customer).2 k below (fun _ => bad) bound.le
        obtain ⟨left, out⟩ := t
        cases failed with
        | item _ missing =>
          refine ⟨_, _, call_error same (by decide), .nothing (by decide) fun strands => ?_⟩
          simpa [missing] using (first strands).2.1
        | stock item missing =>
          have strands : Strands data rows := ⟨warehouse, district, found,
            .inr ⟨⟨outstanding, ordered⟩, k, bound, below, item, missing⟩⟩
          exact ⟨_, _, call_noData same, .line found ⟨outstanding, ordered⟩ strands bound⟩
        | number _ stock =>
          refine ⟨_, _, call_error same (by decide), .nothing (by decide) fun strands => ?_⟩
          simp [(first strands).2.2] at stock

theorem advancedRows_ne {district : District}
    (found : rows (.district data.wId data.dId) = some district) :
    advancedRows data rows ≠ rows := by
  intro same
  have row := congrFun same (.district data.wId data.dId)
  simp only [advancedRows, Function.update_self, found, Option.map_some, Option.some.injEq] at row
  have next : district.dNextOId + 1 = district.dNextOId := congrArg District.dNextOId row
  omega

/-- Fewer lines are not the whole order. -/
theorem placedRows_incomplete {district : District} {k : Nat} (bound : k < data.oOlCnt)
    (found : rows (.district data.wId data.dId) = some district) :
    ¬ Complete data rows (placedRows data rows district.dNextOId k) := by
  rintro ⟨district', found', -, same⟩
  obtain rfl : district' = district := Option.some.inj (found'.symm.trans found)
  have lines := congrFun same (.lines data.wId data.dId district'.dNextOId)
  simp only [placedRows, if_true] at lines
  have count := congrArg (fun ls => (ls.getD []).length) lines
  simp only [placedLines_length] at count
  omega

theorem executeNewOrderOracle_ends {status : OciStatus} {left : Rows}
    (ends : Ends data rows status left) : executeNewOrderOracle status ≠ .again := by
  cases ends with
  | nothing final _ => exact final
  | customer _ _ => decide
  | line _ _ _ _ => decide
  | complete _ _ => decide

/-- One execution leaves the whole order or nothing exactly if the procedure does not strand. -/
theorem all_or_nothing (data : NewOrderData) (rows : Rows) :
    ∃ v left, attempts executeNewOrderOracle [call (neworder data)] rows = some (v, left) ∧
      ((left = rows ∨ Complete data rows left) ↔ ¬ Strands data rows) := by
  obtain ⟨status, left, called, ends⟩ := neworder_ends data rows
  refine ⟨executeNewOrderOracle status, left, ?_, ?_⟩
  · unfold attempts
    rw [called, if_neg (executeNewOrderOracle_ends ends)]
  cases ends with
  | nothing _ whole => exact ⟨fun _ => whole, fun _ => .inl rfl⟩
  | complete whole complete => exact ⟨fun _ => whole, fun _ => .inr complete⟩
  | customer found stranded =>
    constructor
    · rintro (same | ⟨district, -, unused, same⟩)
      · exact absurd same (advancedRows_ne found)
      · have order := congrFun same (.orders data.wId data.dId district.dNextOId)
        have none : rows (.orders data.wId data.dId district.dNextOId) = none := unused.2
        simp [advancedRows, placedRows, none] at order
    · exact fun whole => absurd stranded whole
  | line found unused stranded bound =>
    constructor
    · rintro (same | complete)
      · rename_i district k
        have order := congrFun same (.orders data.wId data.dId district.dNextOId)
        simp [placedRows, unused.2] at order
      · exact absurd complete (placedRows_incomplete bound found)
    · exact fun whole => absurd stranded whole

end Order

/-- One district without customers. -/
def noCustomer : Rows := { oneOrder with customer := [] }.rows

/-- Without its customer, an order advances the counter and is committed. -/
theorem not_all_or_nothing : ¬ ∀ (data : NewOrderData) (rows : Rows) (v : Verdict) (left : Rows),
    attempts executeNewOrderOracle [call (neworder data)] rows = some (v, left) →
      left = rows ∨ Complete data rows left := by
  intro whole
  have outcome : (attempts executeNewOrderOracle [call (neworder (oneItem 1 1))] noCustomer).map
      (fun ended => ((ended.2 (.district 1 1)).map District.dNextOId,
        (ended.2 (.newOrder 1 1 2)).isSome)) = some (some 3, false) := by
    decide
  obtain ⟨⟨v, left⟩, ended, seen⟩ := Option.map_eq_some_iff.mp outcome
  obtain ⟨counter, inserted⟩ := Prod.mk.inj seen
  obtain rfl | ⟨district, found, -, rfl⟩ := whole _ noCustomer v left ended
  · have same : (noCustomer (.district 1 1)).map District.dNextOId = some 2 := rfl
    exact absurd (same.symm.trans counter) (by decide)
  · obtain rfl : oneDistrict = district := Option.some.inj found
    simp [placedRows, oneItem, oneDistrict] at inserted

end Dbt2.Oracle
