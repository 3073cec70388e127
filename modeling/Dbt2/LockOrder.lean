import Dbt2.PaymentStatements
import Dbt2.Money
import Dbt2.Lib.Deadlock

/-!
# The order of locks

Whether New-Orders, Payments and Deliveries may wait for each other in a circle. A Payment locks a
warehouse, a district and a customer, a Delivery for one district after the other an outstanding
order and a customer, and a New-Order a district, its order and one stock row after the other.

* `Implementation.sum`: two kinds of calls on one database;
* `lockOrder`: the order of the rows, in which the rows of an order may be guarded by that in
  `NEW_ORDER`;
* `NewOrderData.Ascending`: the stock rows of the lines come in this order;
* `calls_settle`: executions of all three kinds never stand still, and end.
-/

namespace Dbt2

open Locking Prog Transition Pgsql

/-! ## Calls of several procedures -/

def Implementation.sum {X Y : Type} (a : Implementation X) (b : Implementation Y) :
    Implementation (X ⊕ Y) where
  Output := a.Output ⊕ b.Output
  Error := a.Error ⊕ b.Error
  Value := a.Value ⊕ b.Value
  program := Sum.elim (fun x => relabel .inl .inl .inl (a.program x))
    fun y => relabel .inr .inr .inr (b.program y)
  commits
    | .ok (.inl v) => a.commits (.ok v)
    | .ok (.inr v) => b.commits (.ok v)
    | .error (.inl e) => a.commits (.error e)
    | .error (.inr e) => b.commits (.error e)

namespace Dialect

def payment (cIds : Int → Int → List Int) : Dialect → Implementation PaymentData
  | plpgsql => ⟨DeliveryRow, _, _, Plpgsql.paymentStatements cIds, Except.isOk⟩
  | c => ⟨Empty, _, _, Pgsql.paymentStatements cIds, Except.isOk⟩
  | mysql => ⟨_, _, _, MySql.payment cIds, Except.isOk⟩
  | oracle => ⟨_, _, _, Oracle.payment cIds, Oracle.commits⟩

/-- New-Orders, Payments and Deliveries. -/
def calls (cIds ids : Int → Int → List Int) (dialect : Dialect) :
    Implementation (NewOrderData ⊕ PaymentData ⊕ DeliveryData) :=
  dialect.newOrder.sum ((dialect.payment cIds).sum (dialect.delivery ids))

end Dialect

/-! ## The rows in order -/

namespace Key

def rank : Key → List Int
  | warehouse wId => [0, wId]
  | district wId dId => [1, wId, dId]
  | newOrder wId dId oId => [2, wId, dId, 0, oId]
  | orders wId dId oId => [2, wId, dId, 1, oId]
  | lines wId dId oId => [2, wId, dId, 2, oId]
  | customer wId dId cId => [2, wId, dId, 3, cId]
  | stock iId wId => [3, iId, wId]
  | item iId => [4, iId]

theorem rank_distinct (k k' : Key) (same : k.rank = k'.rank) : k = k' := by
  cases k <;> cases k' <;> simp [rank] at same ⊢ <;> exact same

/-- The row in `NEW_ORDER` is locked before the others of the order. -/
def guard : Key → Option Key
  | orders wId dId oId | lines wId dId oId => some (newOrder wId dId oId)
  | _ => none

end Key

def lockOrder (guarded : Bool) : Ranking Key (List Int) where
  rank := Key.rank
  guard k := if guarded then k.guard else none
  distinct := Key.rank_distinct

theorem rank_cons_le (a b : Int) (as bs : List Int) :
    a :: as ≤ b :: bs ↔ a < b ∨ a = b ∧ as ≤ bs := by
  rw [le_iff_lt_or_eq, le_iff_lt_or_eq, List.cons_lt_cons_iff, List.cons.injEq]
  tauto

section Programs

variable {guarded : Bool} {O E : Type} {p : Climb Key (List Int)}

/-- A row that may come next. -/
def Below (p : Climb Key (List Int)) (k : Key) : Prop := p.top ≤ k.rank

theorem below_start (k : Key) : Below ⟨⊥, ∅⟩ k := bot_le

theorem below_of_top {k k' : Key} (at_k : p.top = k.rank) (le : k.rank ≤ k'.rank) :
    Below p k' := by
  unfold Below
  rw [at_k]
  exact WithBot.coe_le_coe.mpr le

theorem unguarded {k : Key} (free : k.guard = none) : (lockOrder guarded).guard k = none := by
  cases guarded
  · rfl
  · exact free

theorem climbing_update {k : Key} {f : Row k → Row k} (free : k.guard = none) (below : Below p k) :
    Climbing (lockOrder guarded)
      (fun p' r => p'.top = k.rank ∧ p.held ⊆ p'.held ∧ (r.isSome → k ∈ p'.held)) p
      (update k f : Procedure Key Row O E _) := by
  apply (climbing_write (unguarded free) below).mono
  rintro p' r ⟨top, held, locked⟩
  exact ⟨top, held, fun there => locked (.inl there)⟩

theorem climbing_value {A : Type} (a : Option A) (e : E) :
    Climbing (lockOrder guarded) (fun p' _ => p' = p) p
      (orRaise a e : Procedure Key Row O E A) := climbing_orRaise fun _ _ => rfl

theorem climbing_into {A : Type} {e : E} {Q : Climb Key (List Int) → Option A → Prop}
    {query : Procedure Key Row O E (Option A)} (h : Climbing (lockOrder guarded) Q p query) :
    Climbing (lockOrder guarded) (fun p' a => Q p' (some a)) p (into query e) := by
  apply h.bind
  intro p' r here
  apply climbing_orRaise
  rintro a rfl
  exact here

section Payment

variable (cIds : Int → Int → List Int) (data : PaymentData)

theorem climbing_selectMiddle (mode : Mode) :
    Climbing (lockOrder guarded) (fun p' _ => p' = p) p
      (selectMiddle cIds data mode : Procedure Key Row O E _) := by
  apply (climbing_find mode _).bind
  rintro p' found rfl
  exact climbing_pure rfl

theorem climbing_selectPerson (mode : Mode) (cId : Int) :
    Climbing (lockOrder guarded) (fun p' _ => p' = p) p
      (selectPerson data mode cId : Procedure Key Row O E _) := by
  apply (climbing_read mode _).bind
  rintro p' found rfl
  exact climbing_pure rfl

/-- The customer's id, given or found. -/
theorem climbing_payer (mode : Mode) :
    Climbing (lockOrder guarded) (fun p' _ => p' = p) p
      (if data.cId = 0 then selectMiddle cIds data mode
        else pure (some data.cId) : Procedure Key Row O E _) := by
  split
  · exact climbing_selectMiddle cIds data mode
  · exact climbing_pure rfl

theorem climbing_payerInto (mode : Mode) (e : E) :
    Climbing (lockOrder guarded) (fun p' _ => p' = p) p
      (if data.cId = 0 then into (selectMiddle cIds data mode) e
        else pure data.cId : Procedure Key Row O E _) := by
  split
  · exact climbing_into (climbing_selectMiddle cIds data mode)
  · exact climbing_pure rfl

theorem warehouse_le_district (wId wId' dId : Int) :
    (Key.warehouse wId).rank ≤ (Key.district wId' dId).rank := by
  simp [Key.rank, rank_cons_le]

theorem district_le_customer (wId dId wId' dId' cId : Int) :
    (Key.district wId dId).rank ≤ (Key.customer wId' dId' cId).rank := by
  simp [Key.rank, rank_cons_le]

theorem Plpgsql.payment_ascends :
    Ascends (lockOrder guarded) ⟨⊥, ∅⟩
      (Plpgsql.paymentStatements cIds data : Procedure Key Row O PgError _) := by
  apply Climbing.ascends (Q := fun _ _ => True)
  apply (climbing_update rfl (below_start _)).bind
  rintro p _ ⟨top, -⟩
  apply (climbing_update rfl (below_of_top top (warehouse_le_district _ _ _))).bind
  rintro p _ ⟨top, -⟩
  apply (climbing_payer cIds data .latest).bind
  rintro p' cId rfl
  cases cId with
  | none => exact climbing_pure trivial
  | some cId =>
    apply Climbing.bind (Q := fun _ _ => True) _ fun _ _ _ => climbing_pure trivial
    apply (climbing_selectPerson data .latest cId).bind
    rintro p _ rfl
    apply (climbing_update rfl (below_of_top top (district_le_customer _ _ _ _ _))).bind
    exact fun _ _ _ => climbing_pure trivial

theorem Pgsql.payment_ascends :
    Ascends (lockOrder guarded) ⟨⊥, ∅⟩
      (Pgsql.paymentStatements cIds data : Procedure Key Row O PgError _) := by
  apply Climbing.ascends (Q := fun _ _ => True)
  apply (climbing_update rfl (below_start _)).bind
  rintro p _ ⟨top, -⟩
  apply (climbing_value _ _).bind
  rintro p' _ rfl
  apply (climbing_update rfl (below_of_top top (warehouse_le_district _ _ _))).bind
  rintro p _ ⟨top, -⟩
  apply (climbing_value _ _).bind
  rintro p' _ rfl
  apply (climbing_payerInto cIds data .call _).bind
  rintro p cId rfl
  apply (climbing_into (climbing_selectPerson data .call cId)).bind
  rintro p customer rfl
  have below := below_of_top top (district_le_customer data.wId data.dId data.cWId data.cDId cId)
  dsimp only
  split
  · apply (climbing_update rfl below).bind
    intro p _ _
    exact (climbing_value _ _).bind fun _ _ _ => climbing_pure trivial
  · apply (climbing_update rfl below).bind
    intro p _ _
    exact (climbing_value _ _).bind fun _ _ _ => climbing_pure trivial

theorem climbing_selectForUpdate {k : Key} (free : k.guard = none) (below : Below p k) :
    Climbing (lockOrder guarded) (fun p' _ => p'.top = k.rank ∧ p.held ⊆ p'.held) p
      (lock k : Procedure Key Row O E _) := by
  apply (climbing_lock (unguarded free) below).mono
  exact fun p' r h => ⟨h.1, h.2.1⟩

theorem MySql.payment_ascends :
    Ascends (lockOrder guarded) ⟨⊥, ∅⟩ (MySql.payment cIds data) := by
  apply Climbing.ascends (Q := fun _ _ => True)
  apply (climbing_selectForUpdate rfl (below_start _)).bind
  rintro p _ ⟨top, -⟩
  apply (climbing_update rfl (below_of_top top le_rfl)).bind
  rintro p _ ⟨top, -⟩
  apply (climbing_selectForUpdate rfl (below_of_top top (warehouse_le_district _ _ _))).bind
  rintro p _ ⟨top, -⟩
  apply (climbing_update rfl (below_of_top top le_rfl)).bind
  rintro p _ ⟨top, -⟩
  apply (climbing_payer cIds data .repeatable).bind
  rintro p' cId rfl
  cases cId with
  | none => exact climbing_pure trivial
  | some cId =>
    apply Climbing.bind (Q := fun _ _ => True) _ fun _ _ _ => climbing_pure trivial
    apply (climbing_selectForUpdate rfl (below_of_top top (district_le_customer _ _ _ _ _))).bind
    rintro p found ⟨top, -⟩
    split
    · apply (climbing_update rfl (below_of_top top le_rfl)).bind
      intro p _ _
      exact (climbing_read _ _).bind fun _ _ _ => climbing_pure trivial
    · exact (climbing_update rfl (below_of_top top le_rfl)).bind fun _ _ _ => climbing_pure trivial

theorem Oracle.payment_ascends :
    Ascends (lockOrder guarded) ⟨⊥, ∅⟩ (Oracle.payment cIds data) := by
  apply Climbing.ascends (Q := fun _ _ => True)
  apply (climbing_into (climbing_selectForUpdate rfl (below_start _))).bind
  rintro p _ ⟨top, -⟩
  apply (climbing_update rfl (below_of_top top le_rfl)).bind
  rintro p _ ⟨top, -⟩
  have below := below_of_top top (warehouse_le_district data.wId data.wId data.dId)
  apply (climbing_into (climbing_selectForUpdate rfl below)).bind
  rintro p _ ⟨top, -⟩
  apply (climbing_update rfl (below_of_top top le_rfl)).bind
  rintro p _ ⟨top, -⟩
  apply (climbing_payerInto cIds data .latest _).bind
  rintro p' cId rfl
  apply Climbing.bind (Q := fun _ _ => True) _ fun _ _ _ => climbing_pure trivial
  have below := below_of_top top (district_le_customer data.wId data.dId data.cWId data.cDId cId)
  apply (climbing_into (climbing_selectForUpdate rfl below)).bind
  rintro p customer ⟨top, -⟩
  split
  · apply (climbing_update rfl (below_of_top top le_rfl)).bind
    intro p _ _
    exact (climbing_into (climbing_read _ _)).bind fun _ _ _ => climbing_pure trivial
  · exact (climbing_update rfl (below_of_top top le_rfl)).bind fun _ _ _ => climbing_pure trivial

end Payment

section Delivery

variable (ids : Int → Int → List Int) (data : DeliveryData)

/-- The locks are those of the first `i` districts. -/
def Visited (i : Nat) (p : Climb Key (List Int)) : Prop :=
  ∀ oId, Below p (.newOrder data.wId (i + 1) oId)

variable {data} {i : Nat}

theorem visited_of_top {k : Key} (top : p.top = k.rank)
    (le : ∀ oId, k.rank ≤ (Key.newOrder data.wId (i + 1) oId).rank) : Visited data i p :=
  fun oId => below_of_top top (le oId)

theorem newOrder_le_next (wId oId oId' : Int) (i : Nat) :
    (Key.newOrder wId (i + 1) oId).rank ≤ (Key.newOrder wId ((i + 1 : Nat) + 1) oId').rank := by
  simp [Key.rank, rank_cons_le]

theorem customer_le_next (wId cId oId : Int) (i : Nat) :
    (Key.customer wId (i + 1) cId).rank ≤ (Key.newOrder wId ((i + 1 : Nat) + 1) oId).rank := by
  simp [Key.rank, rank_cons_le]

theorem newOrder_le_customer (wId dId oId cId : Int) :
    (Key.newOrder wId dId oId).rank ≤ (Key.customer wId dId cId).rank := by
  simp [Key.rank, rank_cons_le]

theorem Visited.next (h : Visited data i p) : Visited data (i + 1) p := by
  intro oId
  apply le_trans (h oId)
  exact WithBot.coe_le_coe.mpr (newOrder_le_next _ _ _ _)

theorem oldest_newOrder {oIds : List Int} {wId dId : Int} {rows : Rows} {k : Key}
    (found : oldest oIds wId dId rows = some k) : ∃ oId, k = .newOrder wId dId oId := by
  obtain ⟨oId, -, same⟩ := Option.map_eq_some_iff.mp found
  exact ⟨oId, same.symm⟩

theorem climbing_delete {k : Key} (free : k.guard = none) (below : Below p k) :
    Climbing (lockOrder guarded) (fun p' _ => p'.top = k.rank ∧ p.held ⊆ p'.held) p
      (delete k : Procedure Key Row O E _) := by
  apply (climbing_write (unguarded free) below).mono
  rintro p' r ⟨top, held, -⟩
  exact ⟨top, held⟩

/-- The row of the oldest order is locked, if there is one. -/
theorem climbing_oldest (h : Visited data i p) :
    Climbing (lockOrder true)
      (fun p' found => (noOId found = none → p'.top = p.top) ∧
        ∀ oId, noOId found = some oId → p'.top = (Key.newOrder data.wId (i + 1) oId).rank ∧
          Key.newOrder data.wId (i + 1) oId ∈ p'.held) p
      (lockFound (oldest (ids data.wId (i + 1)) data.wId (i + 1)) : Procedure Key Row O E _) := by
  apply (climbing_lockFound _).mono
  · rintro p' found ⟨-, none, some⟩
    cases found with
    | none => exact ⟨fun _ => none rfl, nofun⟩
    | some k =>
      obtain ⟨top, held, rows, found⟩ := some k rfl
      obtain ⟨oId, rfl⟩ := oldest_newOrder found
      constructor
      · exact nofun
      · rintro oId' same
        cases same
        exact ⟨top, held⟩
  · intro rows k found
    obtain ⟨oId, rfl⟩ := oldest_newOrder found
    exact ⟨rfl, h oId⟩

/-- The rows of an order, whose row in `NEW_ORDER` is locked. -/
theorem climbing_order {k g : Key} {f : Option (Row k) → Option (Row k)}
    (guard : k.guard = some g) (held : g ∈ p.held) :
    Climbing (lockOrder true) (fun p' _ => p'.top = p.top ∧ p.held ⊆ p'.held) p
      (write k f : Procedure Key Row O E _) := climbing_write_guarded guard held

theorem Visited.unchanged (h : Visited data i p) {p' : Climb Key (List Int)}
    (top : p'.top = p.top) : Visited data (i + 1) p' := by
  intro oId
  unfold Below
  rw [top]
  exact h.next oId

theorem Plpgsql.deliveryDistrict_climbs (h : Visited data i p) :
    Climbing (lockOrder true) (fun p' _ => Visited data (i + 1) p') p
      (Plpgsql.deliveryDistrictStatements ids data i) := by
  apply (climbing_oldest ids h).bind
  rintro p₁ found ⟨none, some⟩
  cases order : noOId found with
  | none => exact climbing_pure (h.unchanged (none order))
  | some oId =>
    obtain ⟨top, held⟩ := some oId order
    apply (climbing_delete rfl (below_of_top top le_rfl)).bind
    rintro p₂ _ ⟨top, kept⟩
    replace held := kept held
    apply (climbing_order rfl held).bind
    rintro p₃ order ⟨same, kept⟩
    rw [← same] at top
    replace held := kept held
    apply (climbing_order rfl held).bind
    rintro p₄ _ ⟨same, kept⟩
    rw [← same] at top
    apply (climbing_read _ _).bind
    rintro p₅ _ rfl
    cases order with
    | none =>
      apply (climbing_emit _).mono
      rintro p₆ _ rfl
      exact visited_of_top top fun oId' => newOrder_le_next _ _ _ _
    | some order =>
      apply (climbing_update rfl (below_of_top top (newOrder_le_customer _ _ _ _))).bind
      rintro p₆ _ ⟨top, -⟩
      apply (climbing_emit _).mono
      rintro p₇ _ rfl
      exact visited_of_top top fun oId' => customer_le_next _ _ _ _

theorem Pgsql.deliveryDistrict_climbs (h : Visited data i p) :
    Climbing (lockOrder true) (fun p' _ => Visited data (i + 1) p') p
      (Pgsql.deliveryDistrictStatements ids data i) := by
  apply (climbing_oldest ids h).bind
  rintro p₁ found ⟨none, some⟩
  cases order : noOId found with
  | none => exact climbing_pure (h.unchanged (none order))
  | some oId =>
    obtain ⟨top, held⟩ := some oId order
    apply (climbing_delete rfl (below_of_top top le_rfl)).bind
    rintro p₂ _ ⟨top, kept⟩
    replace held := kept held
    apply (climbing_value _ _).bind
    rintro p _ rfl
    apply (climbing_order rfl held).bind
    rintro p₃ _ ⟨same, kept⟩
    rw [← same] at top
    replace held := kept held
    apply (climbing_value _ _).bind
    rintro p order rfl
    apply (climbing_order rfl held).bind
    rintro p₄ _ ⟨same, -⟩
    rw [← same] at top
    apply (climbing_read _ _).bind
    rintro p₅ _ rfl
    apply (climbing_value _ _).bind
    rintro p olAmount rfl
    apply (climbing_update rfl (below_of_top top (newOrder_le_customer _ _ _ _))).bind
    rintro p₆ _ ⟨top, -⟩
    exact climbing_pure (visited_of_top top fun oId' => customer_le_next _ _ _ _)

theorem MySql.deliveryDistrict_climbs (h : Visited data i p) (outCId : Option Int) :
    Climbing (lockOrder true) (fun p' _ => Visited data (i + 1) p') p
      (MySql.deliveryDistrict ids data i outCId) := by
  apply (climbing_oldest ids h).bind
  rintro p₁ found ⟨none, some⟩
  cases order : noOId found with
  | none => exact climbing_pure (h.unchanged (none order))
  | some oId =>
    dsimp only [Option.getD_some]
    split
    · obtain ⟨top, held⟩ := some oId order
      apply (climbing_delete rfl (below_of_top top le_rfl)).bind
      rintro p₂ _ ⟨top, kept⟩
      replace held := kept held
      apply Climbing.bind (climbing_lock_guarded rfl held)
      rintro p₃ order ⟨same, kept⟩
      rw [← same] at top
      replace held := kept held
      apply (climbing_order rfl held).bind
      rintro p₄ _ ⟨same, kept⟩
      rw [← same] at top
      replace held := kept held
      apply (climbing_order rfl held).bind
      rintro p₅ _ ⟨same, kept⟩
      rw [← same] at top
      apply (climbing_read _ _).bind
      rintro p₆ lines rfl
      cases (order.map Order.oCId).or outCId with
      | none => exact climbing_pure (visited_of_top top fun oId' => newOrder_le_next _ _ _ _)
      | some cId =>
        apply (climbing_update rfl (below_of_top top (newOrder_le_customer _ _ _ _))).bind
        rintro p₇ _ ⟨top, -⟩
        exact climbing_pure (visited_of_top top fun oId' => customer_le_next _ _ _ _)
    · obtain ⟨top, -⟩ := some oId order
      exact climbing_pure (visited_of_top top fun oId' => newOrder_le_next _ _ _ _)

theorem climbing_ranked {k : Key} {f : Row k → Row k} (below : Below p k) :
    Climbing (lockOrder false) (fun p' _ => p'.top = k.rank) p
      (update k f : Procedure Key Row O E _) := by
  have climbing := @climbing_write Key Row O E _ _ (lockOrder false) p k (Option.map f) rfl below
  exact climbing.mono fun p' r h => h.1

/-- The rows of an order are locked after that in `NEW_ORDER`, whether there was one or not. -/
theorem Oracle.deliveryDistrict_climbs (h : Visited data i p) :
    Climbing (lockOrder false) (fun p' _ => Visited data (i + 1) p') p
      (Oracle.deliveryDistrict ids data i) := by
  apply (climbing_find _ _).bind
  rintro p found rfl
  cases noOId found with
  | none => exact climbing_pure h.next
  | some oId =>
    have orders : (Key.newOrder data.wId (i + 1) oId).rank ≤
        (Key.orders data.wId (i + 1) oId).rank := by
      simp [Key.rank, rank_cons_le]
    have lines : (Key.orders data.wId (i + 1) oId).rank ≤
        (Key.lines data.wId (i + 1) oId).rank := by
      simp [Key.rank, rank_cons_le]
    apply (climbing_delete rfl (h oId)).bind
    rintro p₁ _ ⟨top, -⟩
    apply (climbing_into (climbing_lock rfl (below_of_top top orders))).bind
    rintro p₂ order ⟨top, -⟩
    apply (climbing_ranked (below_of_top top le_rfl)).bind
    intro p₃ _ top
    apply (climbing_ranked (below_of_top top lines)).bind
    intro p₄ _ top
    apply (climbing_read _ _).bind
    rintro p₅ _ rfl
    have customer : (Key.lines data.wId (i + 1) oId).rank ≤
        (Key.customer data.wId (i + 1) order.oCId).rank := by
      simp [Key.rank, rank_cons_le]
    apply (climbing_ranked (below_of_top top customer)).bind
    intro p₆ _ top
    exact climbing_pure (visited_of_top top fun oId' => customer_le_next _ _ _ _)

theorem visited_start : Visited data 0 ⟨⊥, ∅⟩ := fun _ => below_start _

theorem Plpgsql.delivery_ascends :
    Ascends (lockOrder true) ⟨⊥, ∅⟩ (Plpgsql.deliveryStatements ids data) := by
  apply Climbing.ascends (Q := fun _ _ => True)
  apply (climbing_loop (fun i p _ => Plpgsql.deliveryDistrict_climbs ids) visited_start).bind
  exact fun _ _ _ => climbing_pure trivial

theorem Pgsql.delivery_ascends :
    Ascends (lockOrder true) ⟨⊥, ∅⟩ (Pgsql.deliveryStatements ids data) := by
  apply Climbing.ascends (Q := fun _ _ => True)
  apply (climbing_loop (fun i p _ => Pgsql.deliveryDistrict_climbs ids) visited_start).bind
  exact fun _ _ _ => climbing_pure trivial

theorem MySql.delivery_ascends : Ascends (lockOrder true) ⟨⊥, ∅⟩ (MySql.delivery ids data) := by
  apply Climbing.ascends (Q := fun _ _ => True)
  have rounds : Climbing (lockOrder true) (fun p' _ => Visited data 10 p') ⟨⊥, ∅⟩
      (rounds (MySql.deliveryDistrict ids data) 10 none) :=
    climbing_rounds (fun i p outCId _ h => MySql.deliveryDistrict_climbs ids h outCId)
      visited_start
  apply rounds.bind
  exact fun _ _ _ => climbing_pure trivial

theorem Oracle.delivery_ascends :
    Ascends (lockOrder false) ⟨⊥, ∅⟩ (Oracle.delivery ids data) := by
  apply Climbing.ascends (Q := fun _ _ => True)
  apply (climbing_loop (fun i p _ => Oracle.deliveryDistrict_climbs ids) visited_start).bind
  exact fun _ _ _ => climbing_pure trivial

end Delivery

section NewOrder

variable (data : NewOrderData)

theorem climbing_insert {k : Key} {row : Row k} {e : E} (free : k.guard = none)
    (below : Below p k) :
    Climbing (lockOrder true) (fun p' _ => p'.top = k.rank ∧ k ∈ p'.held) p
      (insert k row e : Procedure Key Row O E _) := by
  apply (climbing_write (unguarded free) below).bind
  rintro p' old ⟨top, -, locked⟩
  split
  · exact climbing_raise e
  · refine climbing_pure ⟨top, locked (.inr ?_)⟩
    cases old <;> rfl

theorem climbing_insert_guarded {k g : Key} {row : Row k} {e : E} (guard : k.guard = some g)
    (held : g ∈ p.held) :
    Climbing (lockOrder true) (fun p' _ => p'.top = p.top ∧ p.held ⊆ p'.held) p
      (insert k row e : Procedure Key Row O E _) := by
  apply (climbing_order guard held).bind
  intro p' old here
  split
  · exact climbing_raise e
  · exact climbing_pure here

theorem climbing_insertLine {l : OrderLine} {e : E}
    (held : Key.newOrder l.olWId l.olDId l.olOId ∈ p.held) :
    Climbing (lockOrder true) (fun p' _ => p'.top = p.top ∧ p.held ⊆ p'.held) p
      (insertLine l e : Procedure Key Row O E _) := by
  apply (climbing_order rfl held).bind
  intro p' old here
  split
  · exact climbing_raise e
  · exact climbing_pure here

/-- The stock row of a line. -/
def NewOrderData.stockRow (j : Nat) : Key := .stock (data.line j).olIId (data.line j).olSupplyWId

/-- The lines come in the order of their items and, of one item, of the warehouses. -/
def NewOrderData.Ascending : Prop :=
  data.lines.Pairwise fun l l' =>
    l.olIId < l'.olIId ∨ l.olIId = l'.olIId ∧ l.olSupplyWId ≤ l'.olSupplyWId

instance : Decidable data.Ascending := inferInstanceAs (Decidable (List.Pairwise _ _))

variable {data}

theorem NewOrderData.Ascending.rank_le (ascending : data.Ascending) {i j : Nat} (le : i ≤ j)
    (bound : j < data.oOlCnt) : (data.stockRow i).rank ≤ (data.stockRow j).rank := by
  obtain rfl | lt := Nat.eq_or_lt_of_le le
  · exact le_rfl
  · have lines := List.pairwise_iff_getElem.mp (List.pairwise_map.mp ascending)
    have before := lines i j (by simp; omega) (by simpa using bound) lt
    simp only [List.getElem_range] at before
    unfold stockRow Key.rank
    rw [rank_cons_le, rank_cons_le, rank_cons_le]
    simpa [le_iff_lt_or_eq] using before

/-- The order is locked, and no stock row beyond that of the line before the `i`-th. -/
structure Taking (data : NewOrderData) (oId : Int) (i : Nat) (p : Climb Key (List Int)) : Prop where
  held : .newOrder data.wId data.dId oId ∈ p.held
  below : ∀ j, i ≤ j → j < data.oOlCnt → Below p (data.stockRow j)

variable {oId : Int} {i : Nat}

theorem Taking.next (h : Taking data oId i p) {p' : Climb Key (List Int)} (top : p'.top = p.top)
    (kept : p.held ⊆ p'.held) : Taking data oId (i + 1) p' := by
  refine ⟨kept h.held, ?_⟩
  intro j le bound
  unfold Below
  rw [top]
  exact h.below j (Nat.le_of_succ_le le) bound

theorem Taking.taken (h : Taking data oId i p) (ascending : data.Ascending)
    {p' : Climb Key (List Int)} (top : p'.top = (data.stockRow i).rank)
    (kept : p.held ⊆ p'.held) : Taking data oId i p' := by
  refine ⟨kept h.held, ?_⟩
  intro j le bound
  exact below_of_top top (ascending.rank_le le bound)

/-- A line is inserted, and something is returned. -/
theorem Taking.line (h : Taking data oId i p) {l : OrderLine} {e : E} {A : Type}
    {rest : Procedure Key Row O E A}
    (own : Key.newOrder l.olWId l.olDId l.olOId = .newOrder data.wId data.dId oId)
    (returns : ∀ p, Climbing (lockOrder true) (fun p' _ => p' = p) p rest) :
    Climbing (lockOrder true) (fun p' _ => Taking data oId (i + 1) p') p
      (insertLine l e >>= fun _ => rest) := by
  apply (climbing_insertLine (own ▸ h.held)).bind
  rintro p₁ _ ⟨top, kept⟩
  apply (returns p₁).mono
  rintro p₂ _ rfl
  exact h.next top kept

theorem Taking.take (h : Taking data oId i p) (ascending : data.Ascending)
    (bound : i < data.oOlCnt) {f : Stock → Stock} :
    Climbing (lockOrder true) (fun p' _ => Taking data oId i p') p
      (update (data.stockRow i) f : Procedure Key Row O E _) := by
  apply (climbing_update rfl (h.below i le_rfl bound)).mono
  rintro p' _ ⟨top, kept, -⟩
  exact h.taken ascending top kept

section Lines

variable (ascending : data.Ascending) (bound : i < data.oOlCnt)

include ascending bound

theorem Plpgsql.newOrderLine_climbs {header : Plpgsql.Header} (h : Taking data header.oId i p) :
    Climbing (lockOrder true) (fun p' _ => Taking data header.oId (i + 1) p') p
      (Plpgsql.newOrderLineStatements data header i) := by
  apply (climbing_into (climbing_read _ _)).bind
  rintro p item rfl
  apply (climbing_read _ _).bind
  rintro p stock rfl
  cases stock with
  | none => exact h.line rfl fun _ => climbing_emit _
  | some s =>
    apply (h.take ascending bound).bind
    intro p _ h
    exact h.line rfl fun _ => climbing_emit _

theorem Pgsql.newOrderLine_climbs (h : Taking data oId i p) :
    Climbing (lockOrder true) (fun p' _ => Taking data oId (i + 1) p') p
      (Pgsql.newOrderLineStatements data oId i) := by
  apply (climbing_read _ _).bind
  rintro p found rfl
  apply (climbing_value _ _).bind
  rintro p item rfl
  apply (climbing_into (climbing_read _ _)).bind
  rintro p stock rfl
  apply (h.take ascending bound).bind
  intro p _ h
  exact h.line rfl fun _ => climbing_pure rfl

theorem MySql.newOrderLine_climbs (h : Taking data oId i p) :
    Climbing (lockOrder true) (fun p' _ => Taking data oId (i + 1) p') p
      (MySql.newOrderLine data oId i) := by
  apply (climbing_into (climbing_read _ _)).bind
  rintro p item rfl
  dsimp only
  split
  · apply Climbing.bind (Q := fun p' _ => Taking data oId (i + 1) p') _ fun _ _ h => climbing_pure h
    apply (climbing_read _ _).bind
    rintro p stock rfl
    dsimp only
    split
    · apply (h.take ascending bound).bind
      intro p _ h
      exact h.line rfl fun _ => climbing_emit _
    · apply (h.take ascending bound).bind
      intro p _ h
      exact h.line rfl fun _ => climbing_emit _
  · exact climbing_pure (h.next rfl subset_rfl)

theorem Oracle.newOrderLine_climbs (h : Taking data oId i p) :
    Climbing (lockOrder true) (fun p' _ => Taking data oId (i + 1) p') p
      (Oracle.newOrderLine data oId i) := by
  have item : Climbing (lockOrder true) (fun p' _ => p' = p) p
      (Oracle.selectItemInto (data.line i).olIId) := by
    unfold Oracle.selectItemInto
    apply Climbing.handle
    · exact climbing_into (climbing_read .latest (.item _))
    · exact fun _ _ => climbing_raise _
  apply item.bind
  rintro p item rfl
  apply (climbing_into (climbing_selectForUpdate rfl (h.below i le_rfl bound))).bind
  rintro p₁ stock ⟨top, kept⟩
  replace h := h.taken ascending top kept
  dsimp only
  split
  · apply (h.take ascending bound).bind
    intro p _ h
    exact h.line rfl fun _ => climbing_pure rfl
  · apply (h.take ascending bound).bind
    intro p _ h
    exact h.line rfl fun _ => climbing_pure rfl

end Lines

theorem district_le_newOrder (wId dId oId : Int) :
    (Key.district wId dId).rank ≤ (Key.newOrder wId dId oId).rank := by
  simp [Key.rank, rank_cons_le]

/-- The order is inserted under the lock of the district. -/
theorem climbing_open {d e : E} {A : Type} {rest : Procedure Key Row O E A}
    (top : p.top = (Key.district data.wId data.dId).rank)
    (lines : ∀ p, Taking data oId 0 p → Climbing (lockOrder true) (fun _ _ => True) p rest)
    {row : NewOrder} {order : Order} :
    Climbing (lockOrder true) (fun _ _ => True) p (do
      insert (.newOrder data.wId data.dId oId) row d
      insert (.orders data.wId data.dId oId) order e
      rest) := by
  apply (climbing_insert rfl (below_of_top top (district_le_newOrder _ _ _))).bind
  rintro p₁ _ ⟨top, held⟩
  apply (climbing_insert_guarded rfl held).bind
  rintro p₂ _ ⟨same, kept⟩
  rw [← same] at top
  apply lines
  refine ⟨kept held, ?_⟩
  intro j _ _
  apply below_of_top top
  simp [NewOrderData.stockRow, Key.rank, rank_cons_le]

theorem Plpgsql.newOrder_ascends (ascending : data.Ascending) :
    Ascends (lockOrder true) ⟨⊥, ∅⟩ (Plpgsql.newOrderStatements data) := by
  apply Climbing.ascends (Q := fun _ _ => True)
  apply (climbing_read _ _).bind
  rintro p warehouse rfl
  apply (climbing_update rfl (below_start _)).bind
  rintro p _ ⟨top, -⟩
  apply (climbing_read _ _).bind
  rintro p customer rfl
  apply (climbing_value _ _).bind
  rintro p district rfl
  apply climbing_open top
  intro p h
  apply (climbing_loop (fun i p bound h => Plpgsql.newOrderLine_climbs ascending bound h) h).bind
  exact fun _ _ _ => climbing_pure trivial

theorem Pgsql.newOrder_ascends (ascending : data.Ascending) :
    Ascends (lockOrder true) ⟨⊥, ∅⟩ (Pgsql.newOrderStatements data) := by
  apply Climbing.ascends (Q := fun _ _ => True)
  unfold Pgsql.newOrderStatements
  split
  · exact climbing_raise _
  · apply (climbing_into (climbing_read _ _)).bind
    rintro p warehouse rfl
    apply (climbing_update rfl (below_start _)).bind
    rintro p _ ⟨top, -⟩
    apply (climbing_value _ _).bind
    rintro p district rfl
    apply (climbing_into (climbing_read _ _)).bind
    rintro p customer rfl
    apply climbing_open top
    intro p h
    apply (climbing_loop (fun i p bound h => Pgsql.newOrderLine_climbs ascending bound h) h).bind
    exact fun _ _ _ => climbing_pure trivial

theorem MySql.newOrder_ascends (ascending : data.Ascending) :
    Ascends (lockOrder true) ⟨⊥, ∅⟩ (MySql.newOrder data) := by
  apply Climbing.ascends (Q := fun _ _ => True)
  apply Climbing.handle
  · apply (climbing_into (climbing_read _ _)).bind
    rintro p warehouse rfl
    apply (climbing_into (climbing_selectForUpdate rfl (below_start _))).bind
    rintro p _ ⟨top, -⟩
    apply (climbing_update rfl (below_of_top top le_rfl)).bind
    rintro p _ ⟨top, -⟩
    apply (climbing_into (climbing_read _ _)).bind
    rintro p customer rfl
    apply climbing_open top
    intro p h
    apply (climbing_loop (fun i p bound h => MySql.newOrderLine_climbs ascending bound h) h).bind
    intro p _ _
    exact (climbing_emit _).bind fun _ _ _ => climbing_pure trivial
  · intro p e
    split
    · exact climbing_pure trivial
    · exact climbing_raise _

theorem Oracle.neworder_ascends (ascending : data.Ascending) :
    Ascends (lockOrder true) ⟨⊥, ∅⟩ (Oracle.neworder data) := by
  apply Climbing.ascends (Q := fun _ _ => True)
  apply (climbing_into (climbing_read _ _)).bind
  rintro p warehouse rfl
  apply (climbing_into (climbing_selectForUpdate rfl (below_start _))).bind
  rintro p _ ⟨top, -⟩
  apply (climbing_update rfl (below_of_top top le_rfl)).bind
  rintro p _ ⟨top, -⟩
  apply (climbing_into (climbing_read _ _)).bind
  rintro p customer rfl
  apply climbing_open top
  intro p h
  apply (climbing_loop (fun i p bound h => Oracle.newOrderLine_climbs ascending bound h) h).bind
  exact fun _ _ _ => climbing_pure trivial

end NewOrder

end Programs

/-! ## All calls -/

section Calls

variable {cIds ids : Int → Int → List Int} {rows : Rows}

theorem newOrder_ascends (dialect : Dialect) {data : NewOrderData} (ascending : data.Ascending) :
    Ascends (lockOrder true) ⟨⊥, ∅⟩ (dialect.newOrder.program data) := by
  cases dialect with
  | plpgsql => exact Plpgsql.newOrder_ascends ascending
  | c => exact Pgsql.newOrder_ascends ascending
  | mysql => exact MySql.newOrder_ascends ascending
  | oracle => exact Oracle.neworder_ascends ascending

theorem payment_ascends (guarded : Bool) (dialect : Dialect) (data : PaymentData) :
    Ascends (lockOrder guarded) ⟨⊥, ∅⟩ ((dialect.payment cIds).program data) := by
  cases dialect with
  | plpgsql => exact Plpgsql.payment_ascends cIds data
  | c => exact Pgsql.payment_ascends cIds data
  | mysql => exact MySql.payment_ascends cIds data
  | oracle => exact Oracle.payment_ascends cIds data

theorem delivery_ascends (dialect : Dialect) (data : DeliveryData) :
    Ascends (lockOrder (dialect ≠ .oracle)) ⟨⊥, ∅⟩ ((dialect.delivery ids).program data) := by
  cases dialect with
  | plpgsql => exact Plpgsql.delivery_ascends ids
  | c => exact Pgsql.delivery_ascends ids
  | mysql => exact MySql.delivery_ascends ids
  | oracle => exact Oracle.delivery_ascends ids

/-- In whatever order New-Orders, Payments and Deliveries go on that are under way, none waits for
ever and all of them end, if the lines of each New-Order come in the order of their stock rows. In
Oracle, where a Delivery may lock an order that it does not deliver, this is about Payments with
New-Orders or with Deliveries. -/
theorem calls_settle (dialect : Dialect) {sys : (dialect.calls cIds ids).System}
    {events : List (Locking.Event (NewOrderData ⊕ PaymentData ⊕ DeliveryData))}
    (ran : run (dialect.calls cIds ids).step (.start rows) events = some sys)
    (ascending : ∀ data, .start (.inl data) ∈ events → data.Ascending)
    (locks : dialect = .oracle → (∀ data, .start (.inl data) ∉ events) ∨
      ∀ data, .start (.inr (.inr data)) ∉ events) :
    Settles (dialect.calls cIds ids).program (dialect.calls cIds ids).commits sys := by
  by_cases delivers : dialect = .oracle ∧ ∀ data, .start (.inl data) ∉ events
  · obtain ⟨rfl, noOrders⟩ := delivers
    refine ((Orderly.start (lockOrder false) rows).run ?_ ran).settles
    rintro (data | data | data) mem
    · exact absurd mem (noOrders data)
    · exact (payment_ascends false .oracle data).relabel.relabel
    · exact (delivery_ascends .oracle data).relabel.relabel
  · refine ((Orderly.start (lockOrder true) rows).run ?_ ran).settles
    rintro (data | data | data) mem
    · exact (newOrder_ascends dialect (ascending data mem)).relabel
    · exact (payment_ascends true dialect data).relabel.relabel
    · have other : dialect ≠ .oracle := by
        intro oracle
        obtain noOrders | noDeliveries := locks oracle
        · exact delivers ⟨oracle, noOrders⟩
        · exact noDeliveries data mem
      have ascends : Ascends (lockOrder (dialect ≠ .oracle)) ⟨⊥, ∅⟩
          ((dialect.delivery ids).program data) := delivery_ascends dialect data
      rw [decide_eq_true other] at ascends
      exact ascends.relabel.relabel

end Calls

/-- All three kinds at once. The Payment and the Delivery have begun, and the New-Order waits. -/
def allThree : List (Locking.Event (NewOrderData ⊕ PaymentData ⊕ DeliveryData)) :=
  [Locking.Event.start (Sum.inl (oneItem 1 1)), Locking.Event.start (Sum.inr (Sum.inl onePayment)),
      Locking.Event.start (Sum.inr (Sum.inr { wId := 1, oCarrierId := 3 }))] ++
    List.replicate 2 (Locking.Event.step 1) ++ List.replicate 2 (Locking.Event.step 2) ++
    [Locking.Event.step 0]

theorem calls_settle_plpgsql : ∃ sys,
    run (Dialect.plpgsql.calls (fun _ _ => [1]) fun _ _ => [1]).step (.start oneOutstanding.rows)
        allThree = some sys ∧
      Settles (Dialect.plpgsql.calls (fun _ _ => [1]) fun _ _ => [1]).program
        (Dialect.plpgsql.calls (fun _ _ => [1]) fun _ _ => [1]).commits sys := by
  have runs : (run (Dialect.plpgsql.calls (fun _ _ => [1]) fun _ _ => [1]).step
      (.start oneOutstanding.rows) allThree).isSome := by
    decide
  obtain ⟨sys, ran⟩ := Option.isSome_iff_exists.mp runs
  refine ⟨sys, ran, calls_settle .plpgsql ran ?_ nofun⟩
  intro data mem
  obtain rfl : data = oneItem 1 1 := by simpa [allThree] using mem
  decide

/-- Rows that are all there, but for those of orders. -/
def noOrders : Rows
  | .warehouse _ | .district _ _ | .item _ | .stock _ _ => some default
  | .customer _ _ _ => some { (default : Customer) with }
  | .newOrder _ _ _ | .orders _ _ _ | .lines _ _ _ => none

def twoItems (dId : Fin 10) (first second : Int) : NewOrderData where
  wId := 1
  dId := dId + 1
  cId := 1
  oOlCnt := 2
  orderLine := (Vector.replicate 15 { olIId := second, olSupplyWId := 1, olQuantity := 5 }).set 0
    { olIId := first, olSupplyWId := 1, olQuantity := 5 }
  dId_bounds := by omega
  oOlCnt_le := by decide

/-- Two New-Orders in two districts, which take two stock rows in opposite orders. -/
def crossed : List (Locking.Event (NewOrderData ⊕ PaymentData ⊕ DeliveryData)) :=
  [Locking.Event.start (Sum.inl (twoItems 0 1 2)),
      Locking.Event.start (Sum.inl (twoItems 1 2 1))] ++
    List.replicate 12 (Locking.Event.step 0) ++ List.replicate 12 (Locking.Event.step 1)

/-- The second line of each waits for the first of the other, and neither ends. -/
theorem crossed_not_settled : ∃ sys,
    run (Dialect.plpgsql.calls (fun _ _ => [1]) fun _ _ => [1]).step (.start noOrders) crossed =
        some sys ∧
      ¬ Settles (Dialect.plpgsql.calls (fun _ _ => [1]) fun _ _ => [1]).program
        (Dialect.plpgsql.calls (fun _ _ => [1]) fun _ _ => [1]).commits sys := by
  have stands : (run (Dialect.plpgsql.calls (fun _ _ => [1]) fun _ _ => [1]).step
      (.start noOrders) crossed).any fun sys => sys.sessions.length = 2 && [0, 1].all fun i =>
        (sys.session i).any Session.issuing &&
          ((Dialect.plpgsql.calls (fun _ _ => [1]) fun _ _ => [1]).step sys (.step i)).isNone := by
    decide
  obtain ⟨sys, ran, stands⟩ := (Option.any_eq_true _ _).mp stands
  simp only [Bool.and_eq_true, List.all_cons, List.all_nil, Bool.and_true, decide_eq_true_eq,
    Option.isNone_iff_eq_none] at stands
  obtain ⟨two, ⟨issued₀, blocked₀⟩, issued₁, blocked₁⟩ := stands
  refine ⟨sys, ran, ?_⟩
  intro settles
  cases settles with
  | settled ended => simp [ended 0] at issued₀
  | goesOn able all =>
    obtain ⟨sys', goes⟩ := able
    refine stuck_of_blocked ?_ sys' goes
    intro i s here
    match i with
    | 0 =>
      rw [here] at issued₀
      exact ⟨issued₀, blocked₀⟩
    | 1 =>
      rw [here] at issued₁
      exact ⟨issued₁, blocked₁⟩
    | i + 2 =>
      unfold System.session at here
      rw [List.getElem?_eq_none (by omega)] at here
      cases here

end Dbt2
