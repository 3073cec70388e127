import Dbt2.ConcurrentTransfers

/-!
# The books

After any run of Payments and Deliveries, what has been paid is in the rows of the warehouses, the
districts and the customers, and what has been delivered to a customer is in its balance. Numbers
are exact here: no column rounds.

* `Balanced`: the rows before and after, with the rows of `HISTORY` that have been inserted;
* `Balanced.pay`, `Balanced.deliverRows`: a Payment and a Delivery as single steps keep it;
* `books_balanced`: every run does.
-/

namespace Dbt2

open Locking Prog Transition

/-! ## Amounts -/

def atWarehouse (wId : Int) (h : HistoryRow) : Bool := h.hWId = wId

def atDistrict (wId dId : Int) (h : HistoryRow) : Bool := h.hWId = wId ∧ h.hDId = dId

def byCustomer (wId dId cId : Int) (h : HistoryRow) : Bool :=
  h.hCWId = wId ∧ h.hCDId = dId ∧ h.hCId = some cId

/-- What the payments of a kind amount to. -/
def paidIn (kind : HistoryRow → Bool) (hs : List HistoryRow) : ℚ :=
  ((hs.filter kind).map HistoryRow.hAmount).sum

/-- What the lines of orders of a district amount to. -/
def orderedAmount (rows : Rows) (wId dId : Int) (oIds : List Int) : ℚ :=
  (oIds.map fun oId => (sumAmount (rows (.lines wId dId oId))).getD 0).sum

/-- `oIds` are the customer's orders that have disappeared from `NEW_ORDER`. -/
structure CustomerBalanced (rows store : Rows) (hs : List HistoryRow) (wId dId cId : Int)
    (x y : CustomerRow) (oIds : List Int) : Prop where
  nodup : oIds.Nodup
  mem : ∀ oId, oId ∈ oIds ↔
    gone rows store wId dId oId ∧ orderCustomer rows wId dId oId = some cId
  ytdPayment : y.cYtdPayment = x.cYtdPayment + paidIn (byCustomer wId dId cId) hs
  paymentCnt : y.cPaymentCnt = x.cPaymentCnt + (hs.filter (byCustomer wId dId cId)).length
  deliveryCnt : y.cDeliveryCnt = x.cDeliveryCnt + oIds.length
  balance : y.cBalance =
    x.cBalance + orderedAmount rows wId dId oIds - paidIn (byCustomer wId dId cId) hs

structure Balanced (rows store : Rows) (hs : List HistoryRow) : Prop where
  known : ∀ h ∈ hs, (rows (.district h.hWId h.hDId)).isSome
  warehouse : ∀ wId, store (.warehouse wId) =
    (rows (.warehouse wId)).map (Warehouse.pay (paidIn (atWarehouse wId) hs))
  district : ∀ wId dId, store (.district wId dId) =
    (rows (.district wId dId)).map (District.pay (paidIn (atDistrict wId dId) hs))
  customer : ∀ wId dId cId x, rows (.customer wId dId cId) = some x →
    ∃ y oIds, store (.customer wId dId cId) = some y ∧
      CustomerBalanced rows store hs wId dId cId x y oIds

section Steps

variable {rows store : Rows} {hs : List HistoryRow}

theorem paidIn_append (kind : HistoryRow → Bool) (hs : List HistoryRow) (h : HistoryRow) :
    paidIn kind (hs ++ [h]) = paidIn kind hs + if kind h then h.hAmount else 0 := by
  unfold paidIn
  rw [List.filter_append, List.map_append, List.sum_append]
  cases which : kind h <;> simp [which]

theorem Balanced.start : Balanced rows rows [] where
  known h mem := by cases mem
  warehouse wId := by
    have same : Warehouse.pay (paidIn (atWarehouse wId) []) = id := by
      funext w
      simp [Warehouse.pay, paidIn]
    rw [same, Option.map_id, id_eq]
  district wId dId := by
    have same : District.pay (paidIn (atDistrict wId dId) []) = id := by
      funext d
      simp [District.pay, paidIn]
    rw [same, Option.map_id, id_eq]
  customer wId dId cId x there := by
    refine ⟨x, [], there, List.nodup_nil, ?_, ?_, ?_, ?_, ?_⟩
    · intro oId
      unfold gone
      cases rows (.newOrder wId dId oId) <;> simp
    · simp [paidIn]
    · simp
    · simp
    · simp [paidIn, orderedAmount]

/-! ## A Payment -/

variable {cIds ids : Int → Int → List Int}

theorem Warehouse.pay_pay (a b : ℚ) (w : Warehouse) : (w.pay a).pay b = w.pay (a + b) := by
  simp [Warehouse.pay, add_assoc]

theorem District.pay_pay (a b : ℚ) (d : District) : (d.pay a).pay b = d.pay (a + b) := by
  simp [District.pay, add_assoc]

theorem Warehouse.pay_zero (w : Warehouse) : w.pay 0 = w := by simp [Warehouse.pay]

theorem District.pay_zero (d : District) : d.pay 0 = d := by simp [District.pay]

/-- What a Payment does with a customer's row, whatever the credit. -/
theorem CustomerRow.paid_columns (data : PaymentData) (cId : Int) (c : CustomerRow) :
    (c.paid data cId).cBalance = c.cBalance - data.hAmount ∧
      (c.paid data cId).cYtdPayment = c.cYtdPayment + data.hAmount ∧
      (c.paid data cId).cPaymentCnt = c.cPaymentCnt + 1 ∧
      (c.paid data cId).cDeliveryCnt = c.cDeliveryCnt := by
  unfold CustomerRow.paid
  split <;> exact ⟨rfl, rfl, rfl, rfl⟩

theorem payRows_warehouse (data : PaymentData) (cId wId : Int) :
    payRows data cId store (.warehouse wId) =
      (store (.warehouse wId)).map
        (Warehouse.pay (if data.wId = wId then data.hAmount else 0)) := by
  unfold payRows paidYtd
  rw [Rows.modify_ne _ (by simp), Rows.modify_ne _ (by simp)]
  by_cases here : data.wId = wId
  · subst here
    rw [Rows.modify_self, if_pos rfl]
  · have same : Warehouse.pay 0 = id := funext Warehouse.pay_zero
    rw [Rows.modify_ne _ (by simpa using Ne.symm here), if_neg here, same, Option.map_id, id_eq]

theorem payRows_district (data : PaymentData) (cId wId dId : Int) :
    payRows data cId store (.district wId dId) =
      (store (.district wId dId)).map
        (District.pay (if data.wId = wId ∧ data.dId = dId then data.hAmount else 0)) := by
  unfold payRows paidYtd
  rw [Rows.modify_ne _ (by simp)]
  by_cases here : data.wId = wId ∧ data.dId = dId
  · obtain ⟨rfl, rfl⟩ := here
    rw [Rows.modify_self, Rows.modify_ne _ (by simp), if_pos ⟨rfl, rfl⟩]
  · have other : Key.district wId dId ≠ .district data.wId data.dId := by
      intro same
      cases same
      exact here ⟨rfl, rfl⟩
    have same : District.pay 0 = id := funext District.pay_zero
    rw [Rows.modify_ne _ other, Rows.modify_ne _ (by simp), if_neg here, same, Option.map_id, id_eq]

theorem payRows_newOrder (data : PaymentData) (cId wId dId oId : Int) :
    payRows data cId store (.newOrder wId dId oId) = store (.newOrder wId dId oId) := by
  unfold payRows paidYtd
  rw [Rows.modify_ne _ (by simp), Rows.modify_ne _ (by simp), Rows.modify_ne _ (by simp)]

theorem payRows_customer_ne {data : PaymentData} {cId' wId dId cId : Int}
    (other : ¬ (data.cWId = wId ∧ data.cDId = dId ∧ cId' = cId)) :
    payRows data cId' store (.customer wId dId cId) = store (.customer wId dId cId) := by
  have ne : Key.customer wId dId cId ≠ .customer data.cWId data.cDId cId' := by
    intro same
    cases same
    exact other ⟨rfl, rfl, rfl⟩
  unfold payRows paidYtd
  rw [Rows.modify_ne _ ne, Rows.modify_ne _ (by simp), Rows.modify_ne _ (by simp)]

/-- The row of `HISTORY` that a Payment inserts says what it has done. -/
theorem Balanced.pay (b : Balanced rows store hs) {data : PaymentData}
    (found : Payable cIds data store) (dialect : Dialect) :
    Balanced rows (payRows data found.cId store) (hs ++ [(found.payment dialect).history]) where
  known h mem := by
    obtain before | rfl := List.mem_append.mp mem |>.imp_right List.mem_singleton.mp
    · exact b.known h before
    · have there := congrArg Option.isSome found.district
      rwa [b.district, Option.isSome_map] at there
  warehouse wId := by
    have amount : (if atWarehouse wId (found.payment dialect).history then
        (found.payment dialect).history.hAmount else 0) =
          if data.wId = wId then data.hAmount else 0 := by
      by_cases here : data.wId = wId <;> simp [Payable.payment, paymentHistory, atWarehouse, here]
    rw [payRows_warehouse, b.warehouse, paidIn_append, amount, Option.map_map]
    exact congrArg (Option.map · _) (funext (Warehouse.pay_pay _ _))
  district wId dId := by
    have amount : (if atDistrict wId dId (found.payment dialect).history then
        (found.payment dialect).history.hAmount else 0) =
          if data.wId = wId ∧ data.dId = dId then data.hAmount else 0 := by
      by_cases here : data.wId = wId ∧ data.dId = dId <;>
        simp [Payable.payment, paymentHistory, atDistrict, here]
    rw [payRows_district, b.district, paidIn_append, amount, Option.map_map]
    exact congrArg (Option.map · _) (funext (District.pay_pay _ _))
  customer wId dId cId x there := by
    obtain ⟨y, oIds, here, c⟩ := b.customer wId dId cId x there
    have mem (oId : Int) : oId ∈ oIds ↔ gone rows (payRows data found.cId store) wId dId oId ∧
        orderCustomer rows wId dId oId = some cId := by
      rw [c.mem, gone, gone, payRows_newOrder]
    have history : byCustomer wId dId cId (found.payment dialect).history = true ↔
        data.cWId = wId ∧ data.cDId = dId ∧ found.cId = cId := by
      simp [Payable.payment, paymentHistory, byCustomer]
    by_cases paid : data.cWId = wId ∧ data.cDId = dId ∧ found.cId = cId
    · have amount : (found.payment dialect).history.hAmount = data.hAmount := rfl
      obtain ⟨balance, ytdPayment, paymentCnt, deliveryCnt⟩ := y.paid_columns data found.cId
      have after : payRows data found.cId store (.customer wId dId cId) =
          some (y.paid data found.cId) := by
        obtain ⟨rfl, rfl, rfl⟩ := paid
        obtain rfl : found.c = y := Option.some.inj (found.customer.symm.trans here)
        exact found.customer_after
      refine ⟨_, oIds, after, c.nodup, mem, ?_, ?_, ?_, ?_⟩
      · rw [ytdPayment, c.ytdPayment, paidIn_append, if_pos (history.mpr paid), amount, add_assoc]
      · rw [paymentCnt, c.paymentCnt, List.filter_append, List.length_append,
          List.filter_cons_of_pos (history.mpr paid)]
        simp [add_assoc]
      · rw [deliveryCnt, c.deliveryCnt]
      · rw [balance, c.balance, paidIn_append, if_pos (history.mpr paid), amount, sub_sub]
    · have none' : byCustomer wId dId cId (found.payment dialect).history = false :=
        Bool.eq_false_of_not_eq_true (history.not.mpr paid)
      refine ⟨y, oIds, (payRows_customer_ne paid).trans here, c.nodup, mem, ?_, ?_, c.deliveryCnt,
        ?_⟩
      · rw [paidIn_append, none', c.ytdPayment]
        simp
      · rw [List.filter_append, List.length_append, c.paymentCnt]
        simp [none']
      · rw [paidIn_append, none', c.balance]
        simp

/-! ## A Delivery -/

section Delivery

variable {dialect : Dialect} {data : DeliveryData} {dId oId : Int}

theorem takeOrder_other {k : Key} (order : k.ofOrder = false) :
    takeOrder data dId oId store k = store k := by
  unfold takeOrder
  rw [Rows.modify_ne _ (by rintro rfl; cases order), Rows.modify_ne _ (by rintro rfl; cases order),
    Function.update_of_ne (by rintro rfl; cases order)]

theorem takeOrder_newOrder (wId dId' oId' : Int) :
    takeOrder data dId oId store (.newOrder wId dId' oId') =
      if wId = data.wId ∧ dId' = dId ∧ oId' = oId then none else store (.newOrder wId dId' oId') := by
  unfold takeOrder
  rw [Rows.modify_ne _ (by simp), Rows.modify_ne _ (by simp)]
  by_cases here : wId = data.wId ∧ dId' = dId ∧ oId' = oId
  · obtain ⟨rfl, rfl, rfl⟩ := here
    rw [Function.update_self, if_pos ⟨rfl, rfl, rfl⟩]
  · rw [Function.update_of_ne (by simpa using here), if_neg here]

theorem Balanced.deliverOrder (b : Balanced rows store hs)
    (later : dialect.evolution.Later rows store) (locks : dialect ≠ .oracle)
    (order : Outstanding data dId oId store) :
    Balanced rows (deliverOrder data dId oId store) hs := by
  have untouched {k : Key} (kept : k.ofOrder = false)
      (other : k ≠ .customer data.wId dId order.order.oCId) :
      Dbt2.deliverOrder data dId oId store k = store k := by
    rw [← order.delivered, Rows.modify_ne _ other, takeOrder_other kept]
  have newOrder (wId dId' oId' : Int) :
      Dbt2.deliverOrder data dId oId store (.newOrder wId dId' oId') =
        if wId = data.wId ∧ dId' = dId ∧ oId' = oId then none
        else store (.newOrder wId dId' oId') := by
    rw [← order.delivered, Rows.modify_ne _ (by simp), takeOrder_newOrder]
  -- the order has been there from the beginning, and has not disappeared before
  have initial : (rows (.newOrder data.wId dId oId)).isSome := by
    obtain oracle | same | none' := later (.newOrder data.wId dId oId)
    · exact absurd oracle locks
    · exact same ▸ order.newOrder
    · have there := order.newOrder
      rw [none'] at there
      cases there
  have present : gone rows store data.wId dId oId = false := by
    obtain ⟨n, there⟩ := Option.isSome_iff_exists.mp order.newOrder
    simp [gone, there]
  have gone_iff (wId dId' oId' : Int) :
      gone rows (Dbt2.deliverOrder data dId oId store) wId dId' oId' ↔
        gone rows store wId dId' oId' ∨ wId = data.wId ∧ dId' = dId ∧ oId' = oId := by
    unfold gone
    rw [newOrder]
    by_cases here : wId = data.wId ∧ dId' = dId ∧ oId' = oId
    · obtain ⟨rfl, rfl, rfl⟩ := here
      simp [initial]
    · simp [here]
  have whose : orderCustomer rows data.wId dId oId = some order.order.oCId := by
    have same := (later (.orders data.wId dId oId)).resolve_left locks
    rw [order.orders] at same
    obtain ⟨o, there, lasts⟩ := Option.map_eq_some_iff.mp same
    have customer := congrArg Order.oCId lasts
    unfold orderCustomer
    rw [there]
    exact congrArg some customer
  have amount : sumAmount (rows (.lines data.wId dId oId)) = some order.olAmount :=
    (lines_amount locks (later (.lines data.wId dId oId))).trans order.amount
  refine ⟨b.known, ?_, ?_, ?_⟩
  · intro wId
    rw [untouched rfl (by simp), b.warehouse]
  · intro wId dId'
    rw [untouched rfl (by simp), b.district]
  · intro wId dId' cId x there
    obtain ⟨y, oIds, here, c⟩ := b.customer wId dId' cId x there
    by_cases credited : Key.customer wId dId' cId = .customer data.wId dId order.order.oCId
    · cases credited
      refine ⟨y.credit (some order.olAmount), oIds ++ [oId], ?_, ?_, ?_, c.ytdPayment, c.paymentCnt,
        ?_, ?_⟩
      · rw [← order.delivered, Rows.modify_self, takeOrder_other rfl, here, Option.map_some]
      · apply c.nodup.append (List.nodup_singleton oId)
        rw [List.disjoint_singleton, c.mem, present]
        simp
      · intro oId'
        rw [List.mem_append, List.mem_singleton, c.mem, gone_iff]
        constructor
        · rintro (before | rfl)
          · exact ⟨.inl before.1, before.2⟩
          · exact ⟨.inr ⟨rfl, rfl, rfl⟩, whose⟩
        · rintro ⟨before | ⟨-, -, rfl⟩, mine⟩
          · exact .inl ⟨before, mine⟩
          · exact .inr rfl
      · have count : (y.credit (some order.olAmount)).cDeliveryCnt = y.cDeliveryCnt + 1 := rfl
        rw [count, c.deliveryCnt, List.length_append, List.length_singleton]
        push_cast
        ring
      · have added : orderedAmount rows data.wId dId (oIds ++ [oId]) =
            orderedAmount rows data.wId dId oIds + order.olAmount := by
          simp [orderedAmount, amount]
        have balance : (y.credit (some order.olAmount)).cBalance = y.cBalance + order.olAmount := rfl
        rw [balance, c.balance, added]
        ring
    · refine ⟨y, oIds, (untouched rfl credited).trans here, c.nodup, ?_, c.ytdPayment, c.paymentCnt,
        c.deliveryCnt, c.balance⟩
      intro oId'
      rw [c.mem, gone_iff]
      constructor
      · exact fun before => ⟨.inl before.1, before.2⟩
      · rintro ⟨before | ⟨rfl, rfl, rfl⟩, mine⟩
        · exact ⟨before, mine⟩
        · -- the order is another customer's
          obtain rfl := Option.some.inj (whose.symm.trans mine)
          exact absurd rfl credited

theorem Balanced.deliverRows (b : Balanced rows store hs)
    (later : dialect.evolution.Later rows store) (locks : dialect ≠ .oracle)
    (h : Deliverable store) : Balanced rows (deliverRows ids data store) hs := by
  have below (n : Nat) : Balanced rows (deliverBelow ids data store n) hs := by
    induction n with
    | zero => exact b
    | succ n ih =>
      have there := h.below ids data n
      have evolved : dialect.evolution.Later rows (deliverBelow ids data store n) :=
        later.trans (deliverBelow_later n)
      rw [deliverBelow]
      cases found : noOId (oldest (ids data.wId (n + 1)) data.wId (n + 1)
          (deliverBelow ids data store n)) with
      | none =>
        rw [deliverDistrict_none found]
        exact ih
      | some oId =>
        obtain ⟨order⟩ := there.outstanding found
        rw [deliverDistrict_found found]
        exact ih.deliverOrder evolved locks order
  exact below 10

end Delivery

end Steps

/-! ## Runs -/

/-- What the committed Payments have inserted into `HISTORY`. -/
def Dialect.history (cIds ids : Int → Int → List Int) (dialect : Dialect)
    (results : List (Committed Key Row (dialect.transfers cIds ids).Error
      (dialect.transfers cIds ids).Value (PaymentData ⊕ DeliveryData))) : List HistoryRow :=
  results.filterMap fun r => (dialect.paid cIds ids r.value).map Payment.history

section Runs

variable {cIds ids : Int → Int → List Int} {rows : Rows}

theorem Balanced.transfer {dialect : Dialect} {store : Rows} {hs : List HistoryRow}
    {x : PaymentData ⊕ DeliveryData}
    {value : Except (dialect.transfers cIds ids).Error (dialect.transfers cIds ids).Value}
    (b : Balanced rows store hs) (later : dialect.evolution.Later rows store)
    (locks : x.isRight → dialect ≠ .oracle) (h : Served cIds store x)
    (reports : dialect.Reports cIds ids store value x) :
    Balanced rows (transferRows cIds ids x store)
      (hs ++ ((dialect.paid cIds ids value).map Payment.history).toList) := by
  cases x with
  | inl data =>
    obtain ⟨found, paid⟩ := reports
    rw [found.transferRows, paid]
    exact b.pay found dialect
  | inr data =>
    have none' : dialect.paid cIds ids value = none := reports
    rw [none', Option.map_none, Option.toList_none, List.append_nil]
    exact b.deliverRows later (locks rfl) h

/-- What the districts of a warehouse have been paid. -/
def districtsYtd (rows : Rows) (wId : Int) (dIds : List Int) : ℚ :=
  (dIds.map fun dId => ((rows (.district wId dId)).map District.dYtd).getD 0).sum

theorem paidIn_cons (kind : HistoryRow → Bool) (h : HistoryRow) (hs : List HistoryRow) :
    paidIn kind (h :: hs) = (if kind h then h.hAmount else 0) + paidIn kind hs := by
  unfold paidIn
  cases which : kind h <;> simp [which]

theorem paidIn_districts {wId : Int} {dIds : List Int} {hs : List HistoryRow} (nodup : dIds.Nodup)
    (all : ∀ h ∈ hs, h.hWId = wId → h.hDId ∈ dIds) :
    (dIds.map fun dId => paidIn (atDistrict wId dId) hs).sum = paidIn (atWarehouse wId) hs := by
  induction hs with
  | nil => simp [paidIn]
  | cons h hs ih =>
    have rest := ih fun h' mem => all h' (List.mem_cons_of_mem h mem)
    have here : (dIds.map fun dId => if atDistrict wId dId h then h.hAmount else 0).sum =
        if atWarehouse wId h then h.hAmount else 0 := by
      by_cases mine : h.hWId = wId
      · have mem := all h List.mem_cons_self mine
        rw [List.sum_map_eq_nsmul_single h.hDId, List.count_eq_one_of_mem nodup mem]
        · simp [atDistrict, atWarehouse, mine]
        · intro dId other _
          simp [atDistrict, Ne.symm other]
      · simp [atDistrict, atWarehouse, mine]
    simp only [paidIn_cons]
    rw [List.sum_map_add, rest, here]

theorem Balanced.districts {store : Rows} {hs : List HistoryRow} (b : Balanced rows store hs)
    {wId : Int} {dIds : List Int} (nodup : dIds.Nodup)
    (all : ∀ dId, (rows (.district wId dId)).isSome ↔ dId ∈ dIds) :
    districtsYtd store wId dIds = districtsYtd rows wId dIds + paidIn (atWarehouse wId) hs := by
  have paid : ∀ h ∈ hs, h.hWId = wId → h.hDId ∈ dIds := by
    rintro h mem rfl
    exact (all _).mp (b.known h mem)
  rw [← paidIn_districts nodup paid]
  unfold districtsYtd
  rw [← List.sum_map_add]
  congr 1
  apply List.map_congr_left
  intro dId mem
  obtain ⟨d, there⟩ := Option.isSome_iff_exists.mp ((all dId).mpr mem)
  rw [b.district, there]
  rfl

end Runs

end Dbt2
