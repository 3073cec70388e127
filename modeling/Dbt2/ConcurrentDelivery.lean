import Dbt2.DeliveryProtocol
import Dbt2.Effects

/-!
# Deliveries at most once

An execution that locks the oldest outstanding order keeps others from it until it ends, and then
they do not find its row. Oracle's does not lock it, and goes on when there was nothing to delete.

* `DeliveredOnce`: each order is delivered by at most one execution;
* `delivers`: the condition on a step that an execution deletes the order it has found;
* `delivered_once`: a run whose steps all meet the condition delivers each order at most once.
-/

namespace Dbt2

open Locking Prog Transition

section Results

variable {E A : Type} (wId dId oId : Int) (r : Committed Key Row E A DeliveryData)

/-- The execution has deleted the order's row in `NEW_ORDER`. -/
def took : Bool := (r.tx.own (.newOrder wId dId oId)).isSome

/-- The execution has set the order's carrier. -/
def carried : Bool := (r.tx.own (.orders wId dId oId)).isSome

end Results

/-- The order's row in `NEW_ORDER` has disappeared. -/
def gone (rows store : Rows) (wId dId oId : Int) : Bool :=
  (rows (.newOrder wId dId oId)).isSome && (store (.newOrder wId dId oId)).isNone

/-- Whose the order is. -/
def orderCustomer (rows : Rows) (wId dId oId : Int) : Option Int :=
  (rows (.orders wId dId oId)).map Order.oCId

/-- The customer's row after orders have been credited, one by one. -/
def creditAll (rows : Rows) (wId dId : Int) (x : CustomerRow) (oIds : List Int) : CustomerRow :=
  oIds.foldl (fun x oId => x.credit (sumAmount (rows (.lines wId dId oId)))) x

/-- `oIds` are the customer's orders that have disappeared, each of which has been credited to it
once. -/
structure CreditedOnce (rows store : Rows) (wId dId cId : Int) (x : CustomerRow)
    (oIds : List Int) : Prop where
  nodup : oIds.Nodup
  mem : ∀ oId, oId ∈ oIds ↔
    gone rows store wId dId oId ∧ orderCustomer rows wId dId oId = some cId
  credited : store (.customer wId dId cId) = some (creditAll rows wId dId x oIds)
  count : (creditAll rows wId dId x oIds).cDeliveryCnt = x.cDeliveryCnt + oIds.length

structure DeliveredOnce {E A : Type} (rows store : Rows)
    (results : List (Committed Key Row E A DeliveryData)) : Prop where
  carriers : ∀ wId dId oId, (results.filter (carried wId dId oId)).length ≤ 1
  customers : ∀ wId dId cId x, rows (.customer wId dId cId) = some x →
    ∃ oIds, CreditedOnce rows store wId dId cId x oIds

/-- An execution deletes the row that it has found, and MySQL's finds the row of the order. -/
def delivers {O : Type} (dialect : Dialect) (store : Rows) (tx : Tx Key Row) :
    Stmt Key Row O → Bool
  | .write (.newOrder wId dId oId) _ =>
    dialect ≠ .oracle || (tx.view store (.newOrder wId dId oId)).isSome
  | .lock k => dialect.findsOrder k (tx.view store k)
  | _ => true

/-! ## Phases -/

/-- What an execution has deleted, carried and credited. -/
structure DeliveryLocal (rows : Rows) (dialect : Dialect) (data : DeliveryData) (p : DeliveryPhase)
    (tx : Tx Key Row) (store : Rows) : Prop where
  newOrder : ∀ wId dId oId, tx.own (.newOrder wId dId oId) =
    if wId = data.wId ∧ p.taken dId = some oId then some none else none
  present : ∀ dId oId, p.taken dId = some oId → (store (.newOrder data.wId dId oId)).isSome
  found : ∀ k, p.found = some k → dialect ≠ .oracle → tx.locked k ∧ (store k).isSome
  orders : ∀ wId dId oId, (tx.own (.orders wId dId oId)).isSome →
    wId = data.wId ∧ p.taken dId = some oId
  due : ∀ dId cId, p.due = some (dId, some cId) →
    ∃ oId, p.taken dId = some oId ∧ orderCustomer rows data.wId dId oId = some cId
  credited : ∀ dId oId cId, p.taken dId = some oId → ¬ p.Owes dId →
    orderCustomer rows data.wId dId oId = some cId →
      (rows (.customer data.wId dId cId)).isSome →
        tx.own (.customer data.wId dId cId) =
          some ((store (.customer data.wId dId cId)).map
            (CustomerRow.credit (sumAmount (rows (.lines data.wId dId oId)))))
  uncredited : ∀ wId dId cId, (tx.own (.customer wId dId cId)).isSome →
    wId = data.wId ∧ ¬ p.Owes dId ∧
      ∃ oId, p.taken dId = some oId ∧ orderCustomer rows data.wId dId oId = some cId

/-- The committed rows: an order has disappeared if and only if one execution took it. -/
structure DeliveryGlobal {E A : Type} (rows store : Rows)
    (results : List (Committed Key Row E A DeliveryData)) : Prop where
  taken : ∀ wId dId oId,
    (results.filter (took wId dId oId)).length = (gone rows store wId dId oId).toNat
  carried : ∀ r ∈ results, ∀ wId dId oId, carried wId dId oId r → took wId dId oId r
  customers : ∀ wId dId cId x, rows (.customer wId dId cId) = some x →
    ∃ oIds, CreditedOnce rows store wId dId cId x oIds

/-! ## One execution -/

section Local

variable {rows store : Rows} {dialect : Dialect} {data : DeliveryData} {p p' : DeliveryPhase}
  {tx tx' : Tx Key Row} {O E A : Type} {results : List (Committed Key Row E A DeliveryData)}

theorem DeliveryLocal.start : DeliveryLocal rows dialect data .start (.start store) store where
  newOrder _ _ _ := by simp [Tx.start, DeliveryPhase.start]
  present := nofun
  found := nofun
  orders := nofun
  due := nofun
  credited := nofun
  uncredited := nofun

/-- A statement that only changes lines and orders that the execution has taken. -/
theorem DeliveryLocal.keep (h : DeliveryLocal rows dialect data p tx store)
    (locked : ∀ k, tx.locked k → tx'.locked k)
    (newOrder : ∀ wId dId oId, tx'.own (.newOrder wId dId oId) = tx.own (.newOrder wId dId oId))
    (customer : ∀ wId dId cId, tx'.own (.customer wId dId cId) = tx.own (.customer wId dId cId))
    (orders : ∀ wId dId oId, (tx'.own (.orders wId dId oId)).isSome →
      wId = data.wId ∧ p.taken dId = some oId) :
    DeliveryLocal rows dialect data p tx' store where
  newOrder wId dId oId := (newOrder wId dId oId).trans (h.newOrder wId dId oId)
  present := h.present
  found k here locks := ⟨locked k (h.found k here locks).1, (h.found k here locks).2⟩
  orders
  due := h.due
  credited dId oId cId taken settled whose there :=
    (customer _ _ _).trans (h.credited dId oId cId taken settled whose there)
  uncredited wId dId cId written := by
    rw [customer] at written
    exact h.uncredited wId dId cId written

theorem DeliveryLocal.same (h : DeliveryLocal rows dialect data p tx store)
    (locked : ∀ k, tx.locked k → tx'.locked k) (own : tx'.own = tx.own) :
    DeliveryLocal rows dialect data p tx' store := by
  apply h.keep locked
  · exact fun _ _ _ => by rw [own]
  · exact fun _ _ _ => by rw [own]
  · rw [own]
    exact h.orders

/-- The row that a query has found, locked unless the procedure is Oracle's. -/
theorem DeliveryLocal.find (h : DeliveryLocal rows dialect data p tx store) {found : Option Key}
    (locked : ∀ k, found = some k → dialect ≠ .oracle → tx.locked k ∧ (store k).isSome) :
    DeliveryLocal rows dialect data (p.afterFind found) tx store :=
  ⟨h.newOrder, h.present, locked, h.orders, h.due, h.credited, h.uncredited⟩

/-- A reply tells whose the order is. -/
theorem DeliveryLocal.learn (h : DeliveryLocal rows dialect data p tx store) {dId oId : Int}
    {r : Option Order} (taken : p.taken dId = some oId) (owes : p.Owes dId)
    (reply : r.map Order.oCId = orderCustomer rows data.wId dId oId) :
    DeliveryLocal rows dialect data (p.afterOrder r) tx store := by
  obtain ⟨cId, due⟩ := owes
  cases cId with
  | some cId =>
    have same : p.afterOrder r = p := by simp [DeliveryPhase.afterOrder, due]
    rw [same]
    exact h
  | none =>
    have after : p.afterOrder r = { p with due := r.map fun o => (dId, some o.oCId) } := by
      simp [DeliveryPhase.afterOrder, due]
    rw [after]
    refine ⟨h.newOrder, h.present, h.found, h.orders, ?_, ?_, ?_⟩
    · intro dId' cId here
      obtain ⟨order, rfl, same⟩ := Option.map_eq_some_iff.mp here
      cases same
      exact ⟨oId, taken, reply.symm⟩
    · intro dId' oId' cId taken' settled whose
      apply h.credited dId' oId' cId taken' _ whose
      -- only this district was owed before, and it still is unless the order is nobody's
      rintro ⟨cId', here⟩
      obtain rfl : dId = dId' := congrArg Prod.fst (Option.some.inj (due.symm.trans here))
      obtain rfl : oId = oId' := Option.some.inj (taken.symm.trans taken')
      obtain ⟨order, rfl, -⟩ := Option.map_eq_some_iff.mp (reply.trans whose)
      exact settled ⟨_, rfl⟩
    · intro wId dId' cId written
      obtain ⟨here, settled, whose⟩ := h.uncredited wId dId' cId written
      refine ⟨here, ?_, whose⟩
      rintro ⟨cId', owed⟩
      obtain ⟨order, rfl, same⟩ := Option.map_eq_some_iff.mp owed
      cases same
      exact settled ⟨none, due⟩

/-- The row that was found is deleted. -/
theorem DeliveryLocal.delete (h : DeliveryLocal rows dialect data p tx store) {dId oId : Int}
    (untaken : p.taken dId = none) (nothing : p.due = none)
    (there : (tx.view store (.newOrder data.wId dId oId)).isSome) :
    DeliveryLocal rows dialect data (p.afterDelete dId oId)
      (tx.perform store (.write (.newOrder data.wId dId oId) (fun _ => none) : Stmt Key Row O))
      store := by
  have untouched : tx.own (.newOrder data.wId dId oId) = none := by
    rw [h.newOrder, if_neg (by simp [untaken])]
  have others (dId' oId' : Int) (before : p.taken dId' = some oId') : dId' ≠ dId := by
    rintro rfl
    rw [untaken] at before
    cases before
  have still (dId' oId' : Int) (before : p.taken dId' = some oId') :
      (p.afterDelete dId oId).taken dId' = some oId' :=
    (Function.update_of_ne (others dId' oId' before) _ _).trans before
  have owes (dId' : Int) : (p.afterDelete dId oId).Owes dId' ↔ dId' = dId := by
    constructor
    · rintro ⟨cId, here⟩
      cases here
      rfl
    · rintro rfl
      exact ⟨none, rfl⟩
  have settled (dId' : Int) : ¬ p.Owes dId' := by
    rintro ⟨cId, here⟩
    rw [nothing] at here
    cases here
  have orders (wId dId' oId' : Int) : (tx.perform store (.write (.newOrder data.wId dId oId)
      (fun _ => none) : Stmt Key Row O)).own (.orders wId dId' oId') =
        tx.own (.orders wId dId' oId') := Tx.perform_write_ne nofun
  have customer (wId dId' cId : Int) : (tx.perform store (.write (.newOrder data.wId dId oId)
      (fun _ => none) : Stmt Key Row O)).own (.customer wId dId' cId) =
        tx.own (.customer wId dId' cId) := Tx.perform_write_ne nofun
  refine ⟨?_, ?_, nofun, ?_, nofun, ?_, ?_⟩
  · intro wId dId' oId'
    by_cases here : (wId, dId', oId') = (data.wId, dId, oId)
    · cases here
      rw [Tx.perform_write_self (.inl there), if_pos ⟨rfl, p.afterDelete_taken dId oId⟩]
    · have other : Key.newOrder wId dId' oId' ≠ .newOrder data.wId dId oId := by
        rintro ⟨⟩
        exact here rfl
      rw [Tx.perform_write_ne other, h.newOrder]
      apply if_congr _ rfl rfl
      apply and_congr_right
      rintro rfl
      constructor
      · exact still dId' oId'
      · intro taken
        by_cases same : dId' = dId
        · subst same
          obtain rfl : oId = oId' := Option.some.inj ((p.afterDelete_taken _ _).symm.trans taken)
          exact absurd rfl here
        · exact (Function.update_of_ne same _ _).symm.trans taken
  · intro dId' oId' taken
    by_cases same : dId' = dId
    · subst same
      obtain rfl : oId = oId' := Option.some.inj ((p.afterDelete_taken _ _).symm.trans taken)
      rwa [Tx.view_untouched untouched] at there
    · exact h.present dId' oId' ((Function.update_of_ne same _ _).symm.trans taken)
  · intro wId dId' oId' written
    rw [orders] at written
    obtain ⟨here, taken⟩ := h.orders wId dId' oId' written
    exact ⟨here, still dId' oId' taken⟩
  · intro dId' oId' cId taken later whose known
    have other : dId' ≠ dId := fun same => later ((owes dId').mpr same)
    have before : p.taken dId' = some oId' := (Function.update_of_ne other _ _).symm.trans taken
    rw [customer]
    exact h.credited dId' oId' cId before (settled dId') whose known
  · intro wId dId' cId written
    rw [customer] at written
    obtain ⟨here, -, oId', taken, whose⟩ := h.uncredited wId dId' cId written
    refine ⟨here, ?_, oId', still dId' oId' taken, whose⟩
    exact fun later => others dId' oId' taken ((owes dId').mp later)

/-- The customer whose order it is is credited. -/
theorem DeliveryLocal.credit (h : DeliveryLocal rows dialect data p tx store)
    (sound : tx.Sound (SameOrders rows) store) {dId oId cId : Int}
    (due : p.due = some (dId, some cId)) (taken : p.taken dId = some oId) :
    DeliveryLocal rows dialect data p.afterCredit
      (tx.perform store (.write (.customer data.wId dId cId) (Option.map
        (CustomerRow.credit (sumAmount (rows (.lines data.wId dId oId))))) : Stmt Key Row O))
      store := by
  have untouched (wId cId' : Int) : tx.own (.customer wId dId cId') = none := by
    rw [← Option.not_isSome_iff_eq_none]
    intro written
    exact (h.uncredited wId dId cId' written).2.1 ⟨_, due⟩
  have settled (dId' : Int) (other : dId' ≠ dId) : ¬ p.Owes dId' := by
    rintro ⟨cId', here⟩
    exact other (congrArg Prod.fst (Option.some.inj (here.symm.trans due)))
  obtain ⟨oId', taken', whose⟩ := h.due dId cId due
  obtain rfl : oId = oId' := Option.some.inj (taken.symm.trans taken')
  have known : (tx.view store (.customer data.wId dId cId)).isSome =
      (rows (.customer data.wId dId cId)).isSome := sound.view (.customer data.wId dId cId)
  have orders (wId dId' oId' : Int) : (tx.perform store (.write (.customer data.wId dId cId)
      (Option.map (CustomerRow.credit (sumAmount (rows (.lines data.wId dId oId))))) :
        Stmt Key Row O)).own (.orders wId dId' oId') = tx.own (.orders wId dId' oId') :=
    Tx.perform_write_ne nofun
  refine ⟨?_, h.present, ?_, ?_, nofun, ?_, ?_⟩
  · intro wId dId' oId'
    rw [Tx.perform_write_ne]
    · exact h.newOrder wId dId' oId'
    · exact nofun
  · intro k here locks
    exact ⟨Tx.perform_keeps (h.found k here locks).1, (h.found k here locks).2⟩
  · intro wId dId' oId' written
    rw [orders] at written
    exact h.orders wId dId' oId' written
  · intro dId' oId' cId' before _ whose' there
    by_cases same : dId' = dId
    · subst same
      obtain rfl : oId = oId' := Option.some.inj (taken.symm.trans before)
      obtain rfl : cId = cId' := Option.some.inj (whose.symm.trans whose')
      rw [Tx.perform_write_self (.inl (known.trans there)), Tx.view_untouched (untouched _ _)]
    · have other : Key.customer data.wId dId' cId' ≠ .customer data.wId dId cId := by
        rintro ⟨⟩
        exact same rfl
      rw [Tx.perform_write_ne other]
      exact h.credited dId' oId' cId' before (settled dId' same) whose' there
  · intro wId dId' cId' written
    by_cases here : (wId, dId', cId') = (data.wId, dId, cId)
    · cases here
      exact ⟨rfl, nofun, oId, taken, whose⟩
    · have other : Key.customer wId dId' cId' ≠ .customer data.wId dId cId := by
        rintro ⟨⟩
        exact here rfl
      rw [Tx.perform_write_ne other] at written
      obtain ⟨same, -, whose'⟩ := h.uncredited wId dId' cId' written
      exact ⟨same, nofun, whose'⟩

/-- Every step that meets the condition keeps what an execution has done. -/
theorem DeliveryLocal.issue {q : Stmt Key Row O} (h : DeliveryLocal rows dialect data p tx store)
    (sound : tx.Sound (SameOrders rows) store) (allowed : DeliveryAllowed dialect rows data p q)
    (good : delivers dialect store tx q) :
    DeliveryLocal rows dialect data (p.next q (tx.reply store q)) (tx.perform store q) store := by
  cases q with
  | read mode k =>
    have phase : p.next (.read mode k : Stmt Key Row O) (tx.sees store mode k) = p := by
      cases k <;> rfl
    show DeliveryLocal rows dialect data
      (p.next (.read mode k : Stmt Key Row O) (tx.sees store mode k)) _ store
    rw [phase]
    exact h.same (fun _ => Tx.perform_keeps) (Tx.perform_read_own mode k)
  | emit o => exact h
  | find mode q =>
    obtain ⟨rfl, -⟩ := allowed
    have looked : DeliveryLocal rows .oracle data p (tx.perform store (.find mode q : Stmt Key Row O))
        store := h.same (fun _ => Tx.perform_keeps) (Tx.perform_find_own mode q)
    apply looked.find
    exact fun _ _ locks => absurd rfl locks
  | lockFound q =>
    obtain ⟨-, ids, dId, rfl⟩ := allowed
    have looked : DeliveryLocal rows dialect data p
        (tx.perform store (.lockFound (oldest ids data.wId dId) : Stmt Key Row O)) store :=
      h.same (fun _ => Tx.perform_keeps) (Tx.perform_lockFound_own _)
    apply looked.find
    intro k found _
    obtain ⟨oId, rfl, there⟩ := oldest_eq_some found
    have untouched : tx.own (.newOrder data.wId dId oId) = none := by
      rw [h.newOrder]
      apply if_neg
      intro taken
      rw [Tx.view_own ((h.newOrder _ _ _).trans (if_pos taken))] at there
      cases there
    rw [Tx.view_untouched untouched] at there
    exact ⟨Tx.perform_lockFound_locked found, there⟩
  | lock k =>
    cases k with
    | orders wId dId oId =>
      obtain ⟨rfl, taken, owes⟩ := allowed
      have locked : DeliveryLocal rows dialect data p
          (tx.perform store (.lock (.orders data.wId dId oId) : Stmt Key Row O)) store :=
        h.same (fun _ => Tx.perform_keeps) (Tx.perform_lock_own _)
      exact locked.learn taken owes (sound.view (.orders data.wId dId oId))
    | warehouse _ => exact absurd allowed id
    | district _ _ => exact absurd allowed id
    | customer _ _ _ => exact absurd allowed id
    | newOrder _ _ _ => exact absurd allowed id
    | lines _ _ _ => exact absurd allowed id
    | item _ => exact absurd allowed id
    | stock _ _ => exact absurd allowed id
  | write k f =>
    cases k with
    | newOrder wId dId oId =>
      obtain ⟨rfl, found, untaken, nothing, rfl⟩ := allowed
      apply h.delete untaken nothing
      by_cases oracle : dialect = .oracle
      · simpa [delivers, oracle] using good
      · rw [Tx.view_untouched]
        · exact (h.found _ found oracle).2
        · rw [h.newOrder, if_neg (by simp [untaken])]
    | orders wId dId oId =>
      obtain ⟨rfl, taken, owes, rfl⟩ := allowed
      apply DeliveryLocal.learn _ taken owes (sound.view (.orders data.wId dId oId))
      apply h.keep (fun _ => Tx.perform_keeps)
      · exact fun _ _ _ => Tx.perform_write_ne nofun
      · exact fun _ _ _ => Tx.perform_write_ne nofun
      · intro wId dId' oId' written
        by_cases here : (wId, dId', oId') = (data.wId, dId, oId)
        · cases here
          exact ⟨rfl, taken⟩
        · have other : Key.orders wId dId' oId' ≠ .orders data.wId dId oId := by
            rintro ⟨⟩
            exact here rfl
          rw [Tx.perform_write_ne other] at written
          exact h.orders wId dId' oId' written
    | lines wId dId oId =>
      have orders (wId' dId' oId' : Int) : (tx.perform store (.write (.lines wId dId oId) f :
          Stmt Key Row O)).own (.orders wId' dId' oId') = tx.own (.orders wId' dId' oId') :=
        Tx.perform_write_ne nofun
      apply h.keep (fun _ => Tx.perform_keeps)
      · exact fun _ _ _ => Tx.perform_write_ne nofun
      · exact fun _ _ _ => Tx.perform_write_ne nofun
      · intro wId' dId' oId' written
        rw [orders] at written
        exact h.orders wId' dId' oId' written
    | customer wId dId cId =>
      obtain ⟨rfl, due, oId, taken, rfl⟩ := allowed
      exact h.credit sound due taken
    | warehouse _ => exact absurd allowed id
    | district _ _ => exact absurd allowed id
    | item _ => exact absurd allowed id
    | stock _ _ => exact absurd allowed id

/-- Another execution's commit leaves the rows that this one has locked. -/
theorem DeliveryLocal.others (h : DeliveryLocal rows dialect data p tx' store)
    (sound : tx.Sound (SameOrders rows) store) (sound' : tx'.Sound (SameOrders rows) store)
    (apart : ∀ k, tx.locked k → tx'.locked k = false) :
    DeliveryLocal rows dialect data p tx' (tx.view store) := by
  have kept {k : Key} {r : Option (Row k)} (written : tx'.own k = some r) :
      tx.view store k = store k := by
    apply sound.untouched apart
    by_contra free
    rw [sound'.guarded k (Bool.eq_false_of_not_eq_true free)] at written
    cases written
  refine ⟨h.newOrder, ?_, ?_, h.orders, h.due, ?_, h.uncredited⟩
  · intro dId oId taken
    rw [kept ((h.newOrder data.wId dId oId).trans (if_pos ⟨rfl, taken⟩))]
    exact h.present dId oId taken
  · intro k found locks
    obtain ⟨locked, there⟩ := h.found k found locks
    rw [sound.untouched apart locked]
    exact ⟨locked, there⟩
  · intro dId oId cId taken settled whose there
    have written := h.credited dId oId cId taken settled whose there
    rw [kept written]
    exact written

variable (v : Except E A)

theorem DeliveryLocal.took (h : DeliveryLocal rows dialect data p tx store) (wId dId oId : Int) :
    took wId dId oId (⟨data, v, tx⟩ : Committed Key Row E A DeliveryData) ↔
      wId = data.wId ∧ p.taken dId = some oId := by
  unfold Dbt2.took
  rw [h.newOrder]
  by_cases taken : wId = data.wId ∧ p.taken dId = some oId
  · rw [if_pos taken]
    exact iff_of_true rfl taken
  · rw [if_neg taken]
    exact iff_of_false nofun taken

/-- An order disappears from the committed rows if the execution took it. -/
theorem DeliveryLocal.gone (h : DeliveryLocal rows dialect data p tx store)
    (sound : tx.Sound (SameOrders rows) store) (wId dId oId : Int) :
    (gone rows (tx.view store) wId dId oId).toNat = (gone rows store wId dId oId).toNat +
      (Dbt2.took wId dId oId (⟨data, v, tx⟩ : Committed Key Row E A DeliveryData)).toNat := by
  unfold Dbt2.gone
  by_cases taken : wId = data.wId ∧ p.taken dId = some oId
  · have view : tx.view store (.newOrder wId dId oId) = none :=
      Tx.view_own ((h.newOrder wId dId oId).trans (if_pos taken))
    obtain ⟨rfl, taken⟩ := taken
    have there := h.present dId oId taken
    have initial : (rows (.newOrder data.wId dId oId)).isSome :=
      sound.store (.newOrder data.wId dId oId) there
    have deleted := (h.took v data.wId dId oId).mpr ⟨rfl, taken⟩
    rw [view, initial, deleted, Option.isNone_eq_false_iff.mpr there]
    rfl
  · have untouched : tx.own (.newOrder wId dId oId) = none :=
      (h.newOrder wId dId oId).trans (if_neg taken)
    have other := Bool.eq_false_of_not_eq_true (mt (h.took v wId dId oId).mp taken)
    rw [Tx.view_untouched untouched, other]
    rfl

theorem creditAll_cnt (wId dId : Int) (x : CustomerRow) (oIds : List Int) :
    (creditAll rows wId dId x oIds).cDeliveryCnt = x.cDeliveryCnt + oIds.length := by
  unfold creditAll
  induction oIds generalizing x with
  | nil => simp
  | cons oId oIds ih =>
    have once (amount : Option ℚ) : (x.credit amount).cDeliveryCnt = x.cDeliveryCnt + 1 := by
      cases amount <;> rfl
    rw [List.foldl_cons, ih, once, List.length_cons]
    push_cast
    ring

/-- What a committed execution leaves of a customer's row. -/
theorem DeliveryLocal.commit_customer (h : DeliveryLocal rows dialect data p tx store)
    (sound : tx.Sound (SameOrders rows) store) (nothing : p.due = none) {wId dId cId : Int}
    {x : CustomerRow} (initial : rows (.customer wId dId cId) = some x) {oIds : List Int}
    (before : CreditedOnce rows store wId dId cId x oIds) :
    ∃ oIds', CreditedOnce rows (tx.view store) wId dId cId x oIds' := by
  have settled : ¬ p.Owes dId := by
    rintro ⟨cId', here⟩
    rw [nothing] at here
    cases here
  have gone_iff (oId : Int) : Dbt2.gone rows (tx.view store) wId dId oId ↔
      Dbt2.gone rows store wId dId oId ∨ wId = data.wId ∧ p.taken dId = some oId := by
    have disappears := h.gone (.ok () : Except Unit Unit) sound wId dId oId
    have deleted := h.took (.ok () : Except Unit Unit) wId dId oId
    rw [← deleted]
    revert disappears
    cases Dbt2.gone rows (tx.view store) wId dId oId <;> cases Dbt2.gone rows store wId dId oId <;>
      cases Dbt2.took wId dId oId (⟨data, .ok (), tx⟩ : Committed Key Row Unit Unit DeliveryData) <;>
      decide
  by_cases credited : (tx.own (.customer wId dId cId)).isSome
  · obtain ⟨rfl, -, oId, taken, whose⟩ := h.uncredited wId dId cId credited
    have there := h.present dId oId taken
    have written := h.credited dId oId cId taken settled whose (initial ▸ rfl)
    refine ⟨oIds ++ [oId], ?_, ?_, ?_, creditAll_cnt _ _ _ _⟩
    · -- the order was still outstanding
      apply List.Nodup.append before.nodup (List.nodup_singleton oId)
      rw [List.disjoint_singleton]
      intro again
      have absent := ((before.mem oId).mp again).1
      unfold Dbt2.gone at absent
      rw [Option.isNone_eq_false_iff.mpr there, Bool.and_false] at absent
      cases absent
    · intro oId'
      rw [List.mem_append, List.mem_singleton, before.mem, gone_iff]
      constructor
      · rintro (⟨absent, whose'⟩ | rfl)
        · exact ⟨.inl absent, whose'⟩
        · exact ⟨.inr ⟨rfl, taken⟩, whose⟩
      · rintro ⟨absent | ⟨-, taken'⟩, whose'⟩
        · exact .inl ⟨absent, whose'⟩
        · exact .inr (Option.some.inj (taken'.symm.trans taken))
    · rw [Tx.view_own written, before.credited]
      unfold creditAll
      rw [List.foldl_append]
      rfl
  · have untouched := Option.not_isSome_iff_eq_none.mp credited
    refine ⟨oIds, before.nodup, ?_, ?_, before.count⟩
    · intro oId
      rw [before.mem, gone_iff]
      constructor
      · exact fun both => ⟨.inl both.1, both.2⟩
      · rintro ⟨absent | ⟨rfl, taken⟩, whose⟩
        · exact ⟨absent, whose⟩
        · have written := h.credited dId oId cId taken settled whose (initial ▸ rfl)
          rw [written] at credited
          exact absurd rfl credited
    · rw [Tx.view_untouched untouched]
      exact before.credited

theorem DeliveryGlobal.commit (global : DeliveryGlobal rows store results)
    (h : DeliveryLocal rows dialect data p tx store) (sound : tx.Sound (SameOrders rows) store)
    (nothing : p.due = none) :
    DeliveryGlobal rows (tx.view store) (results ++ [⟨data, v, tx⟩]) := by
  refine ⟨?_, ?_, ?_⟩
  · intro wId dId oId
    rw [List.filter_append, List.length_append, global.taken, h.gone v sound]
    congr 1
    cases took : Dbt2.took wId dId oId (⟨data, v, tx⟩ : Committed Key Row E A DeliveryData) with
    | true =>
      rw [List.filter_cons_of_pos took]
      rfl
    | false =>
      rw [List.filter_cons_of_neg (by simp [took])]
      rfl
  · intro r mem wId dId oId carried
    obtain before | last := List.mem_append.mp mem
    · exact global.carried r before wId dId oId carried
    · obtain rfl := List.mem_singleton.mp last
      exact (h.took v wId dId oId).mpr (h.orders wId dId oId carried)
  · intro wId dId cId x initial
    obtain ⟨oIds, before⟩ := global.customers wId dId cId x initial
    exact h.commit_customer sound nothing initial before

end Local

/-! ## All executions -/

section Runs

variable {rows : Rows} {dialect : Dialect}

theorem sumAmount_deliverLines (ls : Option (List OrderLine)) :
    sumAmount (ls.map deliverLines) = sumAmount ls := by
  cases ls with
  | none => rfl
  | some ls =>
    cases ls with
    | nil => rfl
    | cons l ls =>
      unfold deliverLines
      simp [sumAmount, Function.comp_def]

theorem delivery_sameOrders {O : Type} {data : DeliveryData} {p : DeliveryPhase} {k : Key}
    {f : Option (Row k) → Option (Row k)}
    (allowed : DeliveryAllowed dialect rows data p (.write k f : Stmt Key Row O))
    (r : Option (Row k)) (same : SameOrders rows k r) : SameOrders rows k (f r) := by
  cases k with
  | newOrder wId dId oId =>
    obtain ⟨-, -, -, -, rfl⟩ := allowed
    exact nofun
  | orders wId dId oId =>
    obtain ⟨-, -, -, rfl⟩ := allowed
    exact (Option.map_map _ _ r).trans same
  | lines wId dId oId =>
    cases allowed
    exact (sumAmount_deliverLines r).trans same
  | customer wId dId cId =>
    obtain ⟨-, -, oId, -, rfl⟩ := allowed
    exact Option.isSome_map.trans same
  | warehouse _ => trivial
  | district _ _ => trivial
  | item _ => trivial
  | stock _ _ => trivial

theorem findsOrder_of_delivers {O : Type} {store : Rows} {tx : Tx Key Row} {q : Stmt Key Row O}
    (sound : tx.Sound (SameOrders rows) store) {data : DeliveryData} {p : DeliveryPhase}
    (allowed : DeliveryAllowed dialect rows data p q) (good : delivers dialect store tx q) :
    q.ReplyOk (fun k r => SameOrders rows k r ∧ dialect.findsOrder k r) (tx.reply store q) := by
  cases q with
  | read mode k =>
    refine ⟨sound.sees mode k, ?_⟩
    cases k with
    | lines _ _ _ => cases dialect <;> rfl
    | orders _ _ _ => exact absurd allowed id
    | newOrder _ _ _ => exact absurd allowed id
    | customer _ _ _ => exact absurd allowed id
    | warehouse _ => exact absurd allowed id
    | district _ _ => exact absurd allowed id
    | item _ => exact absurd allowed id
    | stock _ _ => exact absurd allowed id
  | lock k => exact ⟨sound.view k, good⟩
  | write k f => trivial
  | emit o => trivial
  | find mode q => trivial
  | lockFound q => trivial

theorem looked {O : Type} (store : Rows) (tx : Tx Key Row) (q : Stmt Key Row O) :
    Looked q (tx.reply store q) := by
  cases q with
  | find mode q => exact ⟨_, rfl⟩
  | lockFound q => exact ⟨_, rfl⟩
  | read mode k => trivial
  | lock k => trivial
  | write k f => trivial
  | emit o => trivial

variable (rows dialect) in
theorem delivery_governed (ids : Int → Int → List Int) :
    Governed (dialect.delivery ids).program (dialect.delivery ids).commits (fun _ => True)
      (SameOrders rows) (delivers dialect) (deliveryProtocol dialect rows)
      (fun _ p v => (dialect.delivery ids).commits v → p.due = none)
      (DeliveryLocal rows dialect) (DeliveryGlobal rows) where
  writes _ _ _ _ allowed := delivery_sameOrders allowed
  start data _ _ := ⟨.start, .start, delivery_follows rows ids data dialect⟩
  issue _ _ tx store _ q _ sound h allowed good :=
    ⟨_, ⟨findsOrder_of_delivers sound allowed good, looked store tx q, rfl⟩,
      h.issue sound allowed good⟩
  commit _ _ _ _ _ v global sound h ended committed :=
    global.commit v h sound (ended committed)
  others _ _ _ _ _ _ _ _ _ _ sound sound' _ _ _ h' apart := h'.others sound sound' apart

theorem deliveryGlobal_start {E A : Type} :
    DeliveryGlobal rows rows ([] : List (Committed Key Row E A DeliveryData)) where
  taken wId dId oId := by
    unfold gone
    cases rows (.newOrder wId dId oId) <;> rfl
  carried := nofun
  customers wId dId cId x initial := by
    refine ⟨[], List.nodup_nil, ?_, initial, creditAll_cnt _ _ _ _⟩
    intro oId
    unfold gone
    cases rows (.newOrder wId dId oId) <;> simp

/-- However Deliveries are interleaved, if each deletes the rows that it has found, no order is
delivered twice. -/
theorem delivered_once (ids : Int → Int → List Int) (dialect : Dialect)
    {events : List (Locking.Event DeliveryData)} {sys : (dialect.delivery ids).System}
    (ran : run (dialect.delivery ids).step (.start rows) events = some sys)
    (along : Along (dialect.delivery ids).step (System.permits (delivers dialect)) (.start rows)
      events) :
    DeliveredOnce rows sys.store sys.results := by
  have same (k : Key) : SameOrders rows k (rows k) := by
    cases k <;> first | rfl | trivial | exact id
  have holds := (delivery_governed rows dialect ids).run ran (fun _ _ => trivial) along
    (.start same deliveryGlobal_start)
  refine ⟨?_, holds.global.customers⟩
  intro wId dId oId
  calc (sys.results.filter (carried wId dId oId)).length
      ≤ (sys.results.filter (took wId dId oId)).length := by
        rw [← List.countP_eq_length_filter, ← List.countP_eq_length_filter]
        apply List.countP_mono_left
        exact fun r mem => holds.global.carried r mem wId dId oId
    _ = (gone rows sys.store wId dId oId).toNat := holds.global.taken wId dId oId
    _ ≤ 1 := Bool.toNat_le _

end Runs

def oneDelivery : DeliveryData := { wId := 1, oCarrierId := 3 }

/-- The second execution starts with the first, and waits until that has committed. -/
def deliveredBefore : List (Locking.Event DeliveryData) :=
  [Locking.Event.start oneDelivery, Locking.Event.start oneDelivery] ++
    List.replicate 16 (Locking.Event.step 0) ++ [Locking.Event.commit 0] ++
    List.replicate 10 (Locking.Event.step 1) ++ [Locking.Event.commit 1]

/-- Both executions look for the oldest order before either deletes its row. -/
def foundTwice : List (Locking.Event DeliveryData) :=
  [Locking.Event.start oneDelivery, Locking.Event.start oneDelivery, Locking.Event.step 0,
      Locking.Event.step 1] ++ List.replicate 15 (Locking.Event.step 0) ++
    [Locking.Event.commit 0] ++ List.replicate 15 (Locking.Event.step 1) ++
    [Locking.Event.commit 1]

theorem delivered_once_waiting : ∃ sys,
    run (Dialect.delivery (fun _ _ => [1]) .plpgsql).step (.start oneOutstanding.rows)
        deliveredBefore = some sys ∧
      DeliveredOnce oneOutstanding.rows sys.store sys.results := by
  have runs : (run (Dialect.delivery (fun _ _ => [1]) .plpgsql).step (.start oneOutstanding.rows)
      deliveredBefore).isSome := by
    decide
  obtain ⟨sys, ran⟩ := Option.isSome_iff_exists.mp runs
  exact ⟨sys, ran, delivered_once (fun _ _ => [1]) .plpgsql ran (by decide)⟩

/-- Both of Oracle's executions set the carrier of the only order and credit its customer. -/
theorem delivered_twice : ¬ ∀ (ids : Int → Int → List Int) (dialect : Dialect) (rows : Rows)
    (events : List (Locking.Event DeliveryData)) (sys : (dialect.delivery ids).System),
    (∀ wId dId oId, (rows (.newOrder wId dId oId)).isSome → oId ∈ ids wId dId) →
      run (dialect.delivery ids).step (.start rows) events = some sys →
        DeliveredOnce rows sys.store sys.results := by
  intro once
  have outcome : (run (Dialect.delivery (fun _ _ => [1]) .oracle).step (.start oneOutstanding.rows)
      foundTwice).map (fun sys => (sys.results.filter (carried 1 1 1)).length) = some 2 := by
    decide
  obtain ⟨sys, ran, twice⟩ := Option.map_eq_some_iff.mp outcome
  have covered (wId dId oId : Int) (there : (oneOutstanding.rows (.newOrder wId dId oId)).isSome) :
      oId ∈ [1] := by
    obtain ⟨n, found⟩ := Option.isSome_iff_exists.mp there
    have found : oneOutstanding.newOrder.find? (fun n => n.key = (wId, dId, oId)) = some n := found
    have key := List.find?_some found
    obtain rfl := List.mem_singleton.mp (List.mem_of_find?_eq_some found)
    have same : (1, 1, 1) = (wId, dId, oId) := of_decide_eq_true key
    cases same
    exact List.mem_singleton_self _
  have one :=
    (once (fun _ _ => [1]) .oracle oneOutstanding.rows foundTwice sys covered ran).carriers 1 1 1
  rw [twice] at one
  exact absurd one (by decide)

end Dbt2
