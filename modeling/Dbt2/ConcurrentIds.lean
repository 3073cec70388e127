import Dbt2.NewOrderProtocol

/-!
# Order ids under concurrent New-Orders

The lock on the district row ties the counter to the ids in use: whoever has advanced the counter
holds the row until the order is committed or undone.

* `IdLocal`: what an execution has locked and inserted, in each phase;
* `OrderIdsTaken`: the ids that the committed executions have taken;
* `orderIds_consecutive`: every run takes consecutive ids, and no insertion meets a key in use.
-/

namespace Dbt2

open Locking Prog Transition

/-- The execution has inserted the order. -/
def gave {E A : Type} (wId dId oId : Int) (r : Committed Key Row E A NewOrderData) : Bool :=
  (r.tx.own (.orders wId dId oId)).isSome

/-- The rows that an order is placed for exist. -/
structure AddressedRows (rows : Rows) (data : NewOrderData) : Prop where
  warehouse : (rows (.warehouse data.wId)).isSome
  district : (rows (.district data.wId data.dId)).isSome
  customer : (rows (.customer data.wId data.dId data.cId)).isSome

/-- No order and no outstanding order of a district has an id from its counter on. -/
def IdsBelow (rows : Rows) (wId dId : Int) (x : District) : Prop :=
  ∀ oId, x.dNextOId ≤ oId →
    rows (.newOrder wId dId oId) = none ∧ rows (.orders wId dId oId) = none

/-- Each committed execution has given one id, and each id from the initial counter up to the
present one has been given once. -/
structure OrderIdsTaken {E A : Type} (rows store : Rows)
    (results : List (Committed Key Row E A NewOrderData)) : Prop where
  district : ∀ wId dId x, rows (.district wId dId) = some x →
    ∃ y, store (.district wId dId) = some y ∧ x.dNextOId ≤ y.dNextOId ∧
      ∀ oId, (results.filter (gave wId dId oId)).length =
        if x.dNextOId ≤ oId ∧ oId < y.dNextOId then 1 else 0
  given : ∀ r ∈ results, ∃ oId, ∀ wId dId oId',
    gave wId dId oId' r ↔ (wId, dId, oId') = (r.args.wId, r.args.dId, oId)

/-- An insertion into `NEW_ORDER` or `ORDERS` finds its key free. -/
def keyFree {O : Type} (store : Rows) (tx : Tx Key Row) : Stmt Key Row O → Bool
  | .write (.newOrder wId dId oId) _ => (tx.view store (.newOrder wId dId oId)).isNone
  | .write (.orders wId dId oId) _ => (tx.view store (.orders wId dId oId)).isNone
  | _ => true

/-! ## Phases -/

namespace NewOrderPhase

/-- The phase, without how far the lines have come. -/
def header : NewOrderPhase → NewOrderPhase
  | .line oId _ _ => .line oId 0 .fresh
  | p => p

@[simp]
theorem afterItem_header (skipped : Bool) (p : NewOrderPhase) :
    (p.afterItem skipped).header = p.header := by
  unfold afterItem
  split
  · split <;> rfl
  · rfl

@[simp]
theorem afterStock_header (s : Option Stock) (p : NewOrderPhase) :
    (p.afterStock s).header = p.header := by
  unfold afterStock
  split <;> rfl

@[simp]
theorem afterTake_header (p : NewOrderPhase) : p.afterTake.header = p.header := by
  unfold afterTake
  split <;> rfl

@[simp]
theorem afterLine_header (p : NewOrderPhase) : p.afterLine.header = p.header := by
  unfold afterLine
  split <;> rfl

def oId : NewOrderPhase → Option Int
  | .idle => none
  | .locked oId | .advanced oId | .opened oId | .line oId _ _ => some oId

def isAdvanced : NewOrderPhase → Bool
  | .idle | .locked _ => false
  | .advanced _ | .opened _ | .line _ _ _ => true

def isOpened : NewOrderPhase → Bool
  | .idle | .locked _ | .advanced _ => false
  | .opened _ | .line _ _ _ => true

def isOrdered : NewOrderPhase → Bool
  | .idle | .locked _ | .advanced _ | .opened _ => false
  | .line _ _ _ => true

end NewOrderPhase

/-- What an execution has locked and inserted. While it knows the id the counter stays. -/
structure IdLocal (rows : Rows) (data : NewOrderData) (p : NewOrderPhase) (tx : Tx Key Row)
    (store : Rows) : Prop where
  addressed : AddressedRows rows data
  counter : ∀ oId, p.oId = some oId → tx.locked (.district data.wId data.dId) ∧
    ∃ x, store (.district data.wId data.dId) = some x ∧ x.dNextOId = oId
  district : ∀ wId dId, tx.own (.district wId dId) =
    if p.isAdvanced ∧ (wId, dId) = (data.wId, data.dId) then
      some ((store (.district wId dId)).map District.advance)
    else none
  newOrder : ∀ wId dId oId, (tx.own (.newOrder wId dId oId)).isSome ↔
    p.isOpened ∧ p.oId = some oId ∧ (wId, dId) = (data.wId, data.dId)
  orders : ∀ wId dId oId, (tx.own (.orders wId dId oId)).isSome ↔
    p.isOrdered ∧ p.oId = some oId ∧ (wId, dId) = (data.wId, data.dId)

/-- Rows do not disappear. -/
def Present (rows : Rows) (k : Key) (r : Option (Row k)) : Prop := (rows k).isSome → r.isSome

/-- The committed rows: the ids are those taken, and the next ones are free. -/
structure IdGlobal {E A : Type} (rows store : Rows)
    (results : List (Committed Key Row E A NewOrderData)) : Prop where
  taken : OrderIdsTaken rows store results
  below : ∀ wId dId x, store (.district wId dId) = some x → IdsBelow store wId dId x

/-! ## One execution -/

section Local

variable {rows store : Rows} {data : NewOrderData} {p : NewOrderPhase} {tx tx' : Tx Key Row}
  {O E A : Type} {results : List (Committed Key Row E A NewOrderData)} {dialect : Dialect}

theorem IdLocal.start (addressed : AddressedRows rows data) :
    IdLocal rows data .idle (.start store) store where
  addressed
  counter := nofun
  district _ _ := rfl
  newOrder _ _ _ := by simp [Tx.start, NewOrderPhase.isOpened]
  orders _ _ _ := by simp [Tx.start, NewOrderPhase.isOrdered]

/-- A statement that leaves the rows of the header. -/
theorem IdLocal.keep (h : IdLocal rows data p tx store)
    (locked : ∀ k, tx.locked k → tx'.locked k)
    (district : ∀ wId dId, tx'.own (.district wId dId) = tx.own (.district wId dId))
    (newOrder : ∀ wId dId oId, tx'.own (.newOrder wId dId oId) = tx.own (.newOrder wId dId oId))
    (orders : ∀ wId dId oId, tx'.own (.orders wId dId oId) = tx.own (.orders wId dId oId)) :
    IdLocal rows data p tx' store where
  addressed := h.addressed
  counter oId known := ⟨locked _ (h.counter oId known).1, (h.counter oId known).2⟩
  district wId dId := by rw [district, h.district]
  newOrder wId dId oId := by rw [newOrder, h.newOrder]
  orders wId dId oId := by rw [orders, h.orders]

theorem IdLocal.same (h : IdLocal rows data p tx store) (locked : ∀ k, tx.locked k → tx'.locked k)
    (own : tx'.own = tx.own) : IdLocal rows data p tx' store :=
  h.keep locked (fun _ _ => by rw [own]) (fun _ _ _ => by rw [own]) (fun _ _ _ => by rw [own])

theorem next_read_header (mode : Mode) (k : Key) (r : Option (Row k)) :
    (p.next dialect (.read mode k : Stmt Key Row O) r).header = p.header := by
  cases k with
  | item iId =>
    cases r with
    | none => rfl
    | some item => exact NewOrderPhase.afterItem_header _ p
  | stock iId wId => exact NewOrderPhase.afterStock_header _ p
  | warehouse _ => rfl
  | district _ _ => rfl
  | customer _ _ _ => rfl
  | newOrder _ _ _ => rfl
  | orders _ _ _ => rfl
  | lines _ _ _ => rfl

/-- The district is locked as it is committed. -/
theorem IdLocal.lockDistrict (h : IdLocal rows data .idle tx store) :
    IdLocal rows data
      (NewOrderPhase.afterLock (tx.view store (.district data.wId data.dId)) .idle).header
      (tx.perform store (.lock (.district data.wId data.dId) : Stmt Key Row O)) store := by
  have view : tx.view store (.district data.wId data.dId) =
      store (.district data.wId data.dId) := by
    apply Tx.view_untouched
    rw [h.district, if_neg (by simp [NewOrderPhase.isAdvanced])]
  have same : IdLocal rows data .idle
      (tx.perform store (.lock (.district data.wId data.dId) : Stmt Key Row O)) store :=
    h.same (fun _ => Tx.perform_keeps) (Tx.perform_lock_own _)
  rw [view]
  cases there : store (.district data.wId data.dId) with
  | none => exact same
  | some x =>
    refine ⟨h.addressed, ?_, same.district, ?_, ?_⟩
    · rintro oId ⟨⟩
      refine ⟨Tx.perform_lock_locked ?_, x, there, rfl⟩
      rw [view, there, Option.isSome_some]
    · intro wId dId oId
      rw [same.newOrder]
      simp [NewOrderPhase.afterLock, NewOrderPhase.header, NewOrderPhase.isOpened]
    · intro wId dId oId
      rw [same.orders]
      simp [NewOrderPhase.afterLock, NewOrderPhase.header, NewOrderPhase.isOrdered]

/-- The counter is advanced from its committed value. -/
theorem IdLocal.advanceDistrict (h : IdLocal rows data p tx store)
    (sound : tx.Sound (Present rows) store) (unadvanced : p = .idle ∨ ∃ oId, p = .locked oId) :
    IdLocal rows data
      (NewOrderPhase.afterAdvance (tx.view store (.district data.wId data.dId)) p).header
      (tx.perform store (.write (.district data.wId data.dId) (Option.map District.advance) :
        Stmt Key Row O)) store := by
  have before : p.isAdvanced = false ∧ p.isOpened = false ∧ p.isOrdered = false := by
    obtain rfl | ⟨oId, rfl⟩ := unadvanced
    · exact ⟨rfl, rfl, rfl⟩
    · exact ⟨rfl, rfl, rfl⟩
  have untouched (wId dId : Int) : tx.own (.district wId dId) = none := by
    rw [h.district, if_neg (by simp [before.1])]
  have view : tx.view store (.district data.wId data.dId) =
      store (.district data.wId data.dId) := Tx.view_untouched (untouched _ _)
  obtain ⟨x, there⟩ := Option.isSome_iff_exists.mp (sound.store _ h.addressed.district)
  have phase : (NewOrderPhase.afterAdvance (tx.view store (.district data.wId data.dId)) p).header =
      .advanced x.dNextOId := by
    rw [view, there]
    obtain rfl | ⟨oId, rfl⟩ := unadvanced
    · rfl
    · obtain ⟨-, y, there', rfl⟩ := h.counter oId rfl
      cases there.symm.trans there'
      rfl
  have row : (tx.view store (.district data.wId data.dId)).isSome := by
    rw [view, there, Option.isSome_some]
  rw [phase]
  refine ⟨h.addressed, ?_, ?_, ?_, ?_⟩
  · rintro oId ⟨⟩
    exact ⟨Tx.perform_write_locked (.inl row), x, there, rfl⟩
  · intro wId dId
    by_cases here : (wId, dId) = (data.wId, data.dId)
    · cases here
      rw [Tx.perform_write_self (.inl row), view]
      simp [NewOrderPhase.isAdvanced]
    · have other : Key.district wId dId ≠ .district data.wId data.dId := by
        rintro ⟨⟩
        exact here rfl
      rw [Tx.perform_write_ne other, untouched, if_neg fun both => here both.2]
  · intro wId dId oId
    rw [Tx.perform_write_ne, h.newOrder, before.2.1]
    · simp only [Bool.false_eq_true, false_and, NewOrderPhase.isOpened]
    · exact nofun
  · intro wId dId oId
    rw [Tx.perform_write_ne, h.orders, before.2.2]
    · simp only [Bool.false_eq_true, false_and, NewOrderPhase.isOrdered]
    · exact nofun

/-- An insertion finds its key free, since the id is the counter's. -/
theorem IdLocal.free (h : IdLocal rows data p tx store) (global : IdGlobal rows store results)
    {oId : Int} (known : p.oId = some oId) :
    (p.isOpened = false → tx.view store (.newOrder data.wId data.dId oId) = none) ∧
      (p.isOrdered = false → tx.view store (.orders data.wId data.dId oId) = none) := by
  obtain ⟨-, x, there, rfl⟩ := h.counter oId known
  obtain ⟨newOrder, orders⟩ := global.below _ _ x there _ (le_refl x.dNextOId)
  constructor
  · intro unopened
    rw [Tx.view_untouched, newOrder]
    rw [← Option.not_isSome_iff_eq_none, h.newOrder]
    simp [unopened]
  · intro unordered
    rw [Tx.view_untouched, orders]
    rw [← Option.not_isSome_iff_eq_none, h.orders]
    simp [unordered]

theorem IdLocal.insertNewOrder {oId : Int} (h : IdLocal rows data (.advanced oId) tx store)
    (row : NewOrder) : IdLocal rows data (.opened oId)
      (tx.perform store (.write (.newOrder data.wId data.dId oId) (fun old => old <|> some row) :
        Stmt Key Row O)) store := by
  refine ⟨h.addressed, ?_, ?_, ?_, ?_⟩
  · intro oId known
    exact ⟨Tx.perform_keeps (h.counter oId known).1, (h.counter oId known).2⟩
  · intro wId dId
    rw [Tx.perform_write_ne, h.district]
    · rfl
    · exact nofun
  · intro wId dId oId'
    by_cases here : (wId, dId, oId') = (data.wId, data.dId, oId)
    · cases here
      rw [Tx.perform_write_self (.inr (by simp))]
      simp [NewOrderPhase.isOpened, NewOrderPhase.oId]
    · have other : Key.newOrder wId dId oId' ≠ .newOrder data.wId data.dId oId := by
        rintro ⟨⟩
        exact here rfl
      rw [Tx.perform_write_ne other, h.newOrder]
      simp only [NewOrderPhase.isOpened, NewOrderPhase.oId, Option.some.injEq, Prod.mk.injEq]
        at here ⊢
      constructor
      · exact fun opened => absurd opened.1 (by decide)
      · rintro ⟨-, rfl, rfl, rfl⟩
        exact absurd ⟨rfl, rfl, rfl⟩ here
  · intro wId dId oId'
    rw [Tx.perform_write_ne, h.orders]
    · rfl
    · exact nofun

theorem IdLocal.insertOrders {oId : Int} (h : IdLocal rows data (.opened oId) tx store)
    (row : Order) : IdLocal rows data (.line oId 0 .fresh)
      (tx.perform store (.write (.orders data.wId data.dId oId) (fun old => old <|> some row) :
        Stmt Key Row O)) store := by
  refine ⟨h.addressed, ?_, ?_, ?_, ?_⟩
  · intro oId known
    exact ⟨Tx.perform_keeps (h.counter oId known).1, (h.counter oId known).2⟩
  · intro wId dId
    rw [Tx.perform_write_ne, h.district]
    · rfl
    · exact nofun
  · intro wId dId oId'
    rw [Tx.perform_write_ne, h.newOrder]
    · rfl
    · exact nofun
  · intro wId dId oId'
    by_cases here : (wId, dId, oId') = (data.wId, data.dId, oId)
    · cases here
      rw [Tx.perform_write_self (.inr (by simp))]
      simp [NewOrderPhase.isOrdered, NewOrderPhase.oId]
    · have other : Key.orders wId dId oId' ≠ .orders data.wId data.dId oId := by
        rintro ⟨⟩
        exact here rfl
      rw [Tx.perform_write_ne other, h.orders]
      simp only [NewOrderPhase.isOrdered, NewOrderPhase.oId, Option.some.injEq, Prod.mk.injEq]
        at here ⊢
      constructor
      · exact fun ordered => absurd ordered.1 (by decide)
      · rintro ⟨-, rfl, rfl, rfl⟩
        exact absurd ⟨rfl, rfl, rfl⟩ here

/-- Each statement that the protocol allows keeps what an execution has done. -/
theorem IdLocal.issue {q : Stmt Key Row O} (h : IdLocal rows data p.header tx store)
    (sound : tx.Sound (Present rows) store) (allowed : NewOrderAllowed dialect data p q) :
    IdLocal rows data (p.next dialect q (tx.reply store q)).header (tx.perform store q) store := by
  cases q with
  | read mode k =>
    rw [next_read_header]
    exact h.same (fun _ => Tx.perform_keeps) (Tx.perform_read_own mode k)
  | find mode q => exact absurd allowed id
  | lockFound q => exact absurd allowed id
  | emit o => exact h
  | lock k =>
    cases k with
    | district wId dId =>
      obtain ⟨rfl, here⟩ := allowed
      cases here
      exact h.lockDistrict
    | stock iId wId =>
      have header : (p.next dialect (.lock (.stock iId wId) : Stmt Key Row O)
          (tx.reply store (.lock (.stock iId wId) : Stmt Key Row O))).header = p.header :=
        NewOrderPhase.afterStock_header _ p
      rw [header]
      exact h.same (fun _ => Tx.perform_keeps) (Tx.perform_lock_own _)
    | warehouse _ => exact absurd allowed id
    | customer _ _ _ => exact absurd allowed id
    | newOrder _ _ _ => exact absurd allowed id
    | orders _ _ _ => exact absurd allowed id
    | lines _ _ _ => exact absurd allowed id
    | item _ => exact absurd allowed id
  | write k f =>
    cases k with
    | district wId dId =>
      obtain ⟨unadvanced, here, rfl⟩ := allowed
      cases here
      obtain rfl | ⟨oId, rfl⟩ := unadvanced
      · exact h.advanceDistrict sound (.inl rfl)
      · exact h.advanceDistrict sound (.inr ⟨oId, rfl⟩)
    | newOrder wId dId oId =>
      obtain ⟨rfl, here, row, rfl⟩ := allowed
      cases here
      exact h.insertNewOrder row
    | orders wId dId oId =>
      obtain ⟨rfl, here, row, rfl⟩ := allowed
      cases here
      exact h.insertOrders row
    | stock iId wId =>
      have header : (p.next dialect (.write (.stock iId wId) f : Stmt Key Row O)
          (tx.reply store (.write (.stock iId wId) f : Stmt Key Row O))).header = p.header :=
        NewOrderPhase.afterTake_header p
      rw [header]
      refine h.keep (fun _ => Tx.perform_keeps) ?_ ?_ ?_
      · exact fun _ _ => Tx.perform_write_ne nofun
      · exact fun _ _ _ => Tx.perform_write_ne nofun
      · exact fun _ _ _ => Tx.perform_write_ne nofun
    | lines wId dId oId =>
      have header : (p.next dialect (.write (.lines wId dId oId) f : Stmt Key Row O)
          (tx.reply store (.write (.lines wId dId oId) f : Stmt Key Row O))).header = p.header :=
        NewOrderPhase.afterLine_header p
      rw [header]
      refine h.keep (fun _ => Tx.perform_keeps) ?_ ?_ ?_
      · exact fun _ _ => Tx.perform_write_ne nofun
      · exact fun _ _ _ => Tx.perform_write_ne nofun
      · exact fun _ _ _ => Tx.perform_write_ne nofun
    | warehouse _ => exact absurd allowed id
    | customer _ _ _ => exact absurd allowed id
    | item _ => exact absurd allowed id

/-- Another execution's commit leaves the counter that this one has locked. -/
theorem IdLocal.others (h : IdLocal rows data p tx' store) (sound : tx.Sound (Present rows) store)
    (apart : ∀ k, tx.locked k → tx'.locked k = false) :
    IdLocal rows data p tx' (tx.view store) := by
  have kept (oId : Int) (known : p.oId = some oId) :
      tx.view store (.district data.wId data.dId) = store (.district data.wId data.dId) :=
    sound.untouched apart (h.counter oId known).1
  refine ⟨h.addressed, ?_, ?_, h.newOrder, h.orders⟩
  · intro oId known
    rw [kept oId known]
    exact h.counter oId known
  · intro wId dId
    rw [h.district]
    by_cases here : p.isAdvanced ∧ (wId, dId) = (data.wId, data.dId)
    · obtain ⟨advanced, same⟩ := here
      cases same
      have known : ∃ oId, p.oId = some oId := by
        cases p with
        | idle => cases advanced
        | locked oId => cases advanced
        | advanced oId => exact ⟨oId, rfl⟩
        | opened oId => exact ⟨oId, rfl⟩
        | line oId k stage => exact ⟨oId, rfl⟩
      obtain ⟨oId, known⟩ := known
      rw [kept oId known]
    · rw [if_neg here, if_neg here]

/-- An execution that commits has placed an order, even if Oracle gives up at a line. -/
theorem IdLocal.ended (h : IdLocal rows data p.header tx store)
    (ended : NewOrderEnded dialect (Present rows) data p) : ∃ oId, p.header = .line oId 0 .fresh := by
  obtain ⟨oId, rfl⟩ | ⟨-, missing | missing | missing | ⟨oId, k, rfl, -⟩⟩ := ended
  · exact ⟨oId, rfl⟩
  · exact absurd (missing h.addressed.warehouse) (by simp)
  · exact absurd (missing h.addressed.district) (by simp)
  · exact absurd (missing h.addressed.customer) (by simp)
  · exact ⟨oId, rfl⟩

variable {oId : Int} (v : Except E A)

theorem IdLocal.gave (h : IdLocal rows data (.line oId 0 .fresh) tx store) (wId dId oId' : Int) :
    gave wId dId oId' (⟨data, v, tx⟩ : Committed Key Row E A NewOrderData) ↔
      (wId, dId, oId') = (data.wId, data.dId, oId) := by
  unfold Dbt2.gave
  rw [h.orders]
  simp only [NewOrderPhase.isOrdered, NewOrderPhase.oId, Option.some.injEq, Prod.mk.injEq, true_and]
  constructor
  · rintro ⟨rfl, rfl, rfl⟩
    exact ⟨rfl, rfl, rfl⟩
  · rintro ⟨rfl, rfl, rfl⟩
    exact ⟨rfl, rfl, rfl⟩

theorem count_either {P Q R : Prop} [Decidable P] [Decidable Q] [Decidable R]
    (either : R ↔ P ∨ Q) (apart : ¬ (P ∧ Q)) :
    (if P then 1 else 0) + (if Q then 1 else 0) = if R then 1 else 0 := by
  by_cases first : P
  · have second : ¬ Q := fun q => apart ⟨first, q⟩
    simp [either, first, second]
  · simp [either, first]

theorem IdLocal.gave_length (h : IdLocal rows data (.line oId 0 .fresh) tx store)
    (wId dId oId' : Int) :
    ((results ++ [(⟨data, v, tx⟩ : Committed Key Row E A NewOrderData)]).filter
        (Dbt2.gave wId dId oId')).length =
      (results.filter (Dbt2.gave wId dId oId')).length +
        if (wId, dId, oId') = (data.wId, data.dId, oId) then 1 else 0 := by
  rw [List.filter_append, List.length_append, Nat.add_left_cancel_iff]
  by_cases here : (wId, dId, oId') = (data.wId, data.dId, oId)
  · rw [if_pos here, List.filter_cons_of_pos ((h.gave v wId dId oId').mpr here)]
    rfl
  · have other := mt (h.gave v wId dId oId').mp here
    rw [if_neg here, List.filter_cons_of_neg other]
    rfl

/-- Rows of another id are as they were committed. -/
theorem IdLocal.unwritten (h : IdLocal rows data (.line oId 0 .fresh) tx store)
    {wId dId oId' : Int} (other : (wId, dId, oId') ≠ (data.wId, data.dId, oId)) :
    tx.view store (.newOrder wId dId oId') = store (.newOrder wId dId oId') ∧
      tx.view store (.orders wId dId oId') = store (.orders wId dId oId') := by
  have absent : ¬ (some oId = some oId' ∧ (wId, dId) = (data.wId, data.dId)) := by
    rintro ⟨⟨⟩, same⟩
    cases same
    exact other rfl
  constructor
  · apply Tx.view_untouched
    rw [← Option.not_isSome_iff_eq_none, h.newOrder]
    exact fun written => absent written.2
  · apply Tx.view_untouched
    rw [← Option.not_isSome_iff_eq_none, h.orders]
    exact fun written => absent written.2

/-- A committed order has the id that the counter had. -/
theorem IdGlobal.commit (global : IdGlobal rows store results)
    (h : IdLocal rows data (.line oId 0 .fresh) tx store) :
    IdGlobal rows (tx.view store) (results ++ [⟨data, v, tx⟩]) := by
  obtain ⟨-, z, current, rfl⟩ := h.counter oId rfl
  have advanced : tx.view store (.district data.wId data.dId) = some z.advance := by
    unfold Tx.view
    rw [h.district, if_pos ⟨rfl, rfl⟩, current]
    rfl
  have elsewhere (wId dId : Int) (other : (wId, dId) ≠ (data.wId, data.dId)) :
      tx.view store (.district wId dId) = store (.district wId dId) := by
    apply Tx.view_untouched
    rw [h.district, if_neg fun both => other both.2]
  refine ⟨⟨?_, ?_⟩, ?_⟩
  · intro wId dId x initial
    obtain ⟨y, there, le, count⟩ := global.taken.district wId dId x initial
    by_cases here : (wId, dId) = (data.wId, data.dId)
    · cases here
      obtain rfl : y = z := Option.some.inj (there.symm.trans current)
      refine ⟨y.advance, advanced, Int.le_trans le (Int.le_add_one (le_refl _)), ?_⟩
      intro oId
      rw [h.gave_length, count]
      apply count_either
      · simp only [District.advance, Prod.mk.injEq, true_and]
        omega
      · simp only [Prod.mk.injEq, true_and]
        omega
    · refine ⟨y, (elsewhere wId dId here).trans there, le, ?_⟩
      intro oId
      have other : (wId, dId, oId) ≠ (data.wId, data.dId, z.dNextOId) := by
        intro same
        simp only [Prod.mk.injEq] at same here
        exact here ⟨same.1, same.2.1⟩
      rw [h.gave_length, count]
      exact count_either (by simp [other]) fun both => other both.2
  · intro r mem
    obtain before | last := List.mem_append.mp mem
    · exact global.taken.given r before
    · obtain rfl := List.mem_singleton.mp last
      exact ⟨z.dNextOId, h.gave v⟩
  · intro wId dId x there oId from'
    by_cases here : (wId, dId) = (data.wId, data.dId)
    · cases here
      obtain rfl : x = z.advance := Option.some.inj (there.symm.trans advanced)
      have later : z.dNextOId < oId := Int.lt_of_lt_of_le (Int.lt_add_one_of_le (le_refl _)) from'
      have other : (data.wId, data.dId, oId) ≠ (data.wId, data.dId, z.dNextOId) := by
        intro same
        cases same
        exact lt_irrefl _ later
      rw [(h.unwritten other).1, (h.unwritten other).2]
      exact global.below _ _ z current oId later.le
    · have other : (wId, dId, oId) ≠ (data.wId, data.dId, z.dNextOId) := by
        intro same
        cases same
        exact here rfl
      rw [(h.unwritten other).1, (h.unwritten other).2]
      rw [elsewhere wId dId here] at there
      exact global.below wId dId x there oId from'

end Local

/-! ## All executions -/

section Runs

variable (rows : Rows)

theorem newOrder_keeps {O : Type} {dialect : Dialect} {data : NewOrderData} {p : NewOrderPhase}
    {k : Key} {f : Option (Row k) → Option (Row k)}
    (allowed : NewOrderAllowed dialect data p (.write k f : Stmt Key Row O)) (r : Option (Row k))
    (present : Present rows k r) : Present rows k (f r) := by
  intro initial
  have there := present initial
  cases k with
  | district wId dId =>
    obtain ⟨-, -, rfl⟩ := allowed
    simpa using there
  | newOrder wId dId oId =>
    obtain ⟨-, -, row, rfl⟩ := allowed
    simp
  | orders wId dId oId =>
    obtain ⟨-, -, row, rfl⟩ := allowed
    simp
  | stock iId wId =>
    obtain ⟨-, -, -, -, -, g, rfl, -⟩ := allowed
    simpa using there
  | lines wId dId oId =>
    obtain ⟨-, -, -, -, -, l, rfl⟩ := allowed
    unfold addLine
    split
    · exact there
    · rfl
  | warehouse _ => exact absurd allowed id
  | customer _ _ _ => exact absurd allowed id
  | item _ => exact absurd allowed id

theorem orderIds_governed (dialect : Dialect) :
    Governed dialect.newOrder.program dialect.newOrder.commits (AddressedRows rows) (Present rows)
      (fun _ _ _ => true) (newOrderProtocol dialect (Present rows))
      (fun data p v => dialect.newOrder.commits v → NewOrderEnded dialect (Present rows) data p)
      (fun data p tx store => IdLocal rows data p.header tx store) (IdGlobal rows) where
  writes data p k f allowed := newOrder_keeps rows allowed
  start data store addressed := ⟨.idle, .start addressed, newOrder_follows _ data dialect⟩
  issue data p tx store results q global sound h allowed _ :=
    ⟨_, ⟨sound.reply q, rfl⟩, h.issue sound allowed⟩
  commit data p tx store results v global sound h ended committed := by
    obtain ⟨oId, placed⟩ := h.ended (ended committed)
    rw [placed] at h
    exact global.commit v h
  others data p tx data' p' tx' store results v _ sound _ _ _ _ h' apart :=
    h'.others sound apart

theorem keyFree_of_allowed {O E A : Type} {dialect : Dialect}
    {results : List (Committed Key Row E A NewOrderData)} {data : NewOrderData} {p : NewOrderPhase} {tx : Tx Key Row} {store : Rows}
    {q : Stmt Key Row O} (global : IdGlobal rows store results)
    (h : IdLocal rows data p.header tx store) (allowed : NewOrderAllowed dialect data p q) :
    keyFree store tx q := by
  cases q with
  | write k f =>
    cases k with
    | newOrder wId dId oId =>
      obtain ⟨rfl, here, -⟩ := allowed
      cases here
      exact Option.isNone_iff_eq_none.mpr ((h.free global rfl).1 rfl)
    | orders wId dId oId =>
      obtain ⟨rfl, here, -⟩ := allowed
      cases here
      exact Option.isNone_iff_eq_none.mpr ((h.free global rfl).2 rfl)
    | warehouse _ => rfl
    | district _ _ => rfl
    | customer _ _ _ => rfl
    | lines _ _ _ => rfl
    | item _ => rfl
    | stock _ _ => rfl
  | read _ _ => rfl
  | find _ _ => rfl
  | lock _ => rfl
  | lockFound _ => rfl
  | emit _ => rfl

variable {rows}

theorem idGlobal_start {E A : Type}
    (below : ∀ wId dId x, rows (.district wId dId) = some x → IdsBelow rows wId dId x) :
    IdGlobal rows rows ([] : List (Committed Key Row E A NewOrderData)) := by
  refine ⟨⟨?_, nofun⟩, below⟩
  intro wId dId x initial
  refine ⟨x, initial, le_refl _, ?_⟩
  intro oId
  rw [if_neg (by omega)]
  rfl

/-- However New-Orders are interleaved, the committed ones take the ids from the initial counter
on one by one, and no insertion of an order meets a key in use. -/
theorem orderIds_consecutive (dialect : Dialect)
    (below : ∀ wId dId x, rows (.district wId dId) = some x → IdsBelow rows wId dId x)
    {events : List (Locking.Event NewOrderData)}
    (addressed : ∀ data, .start data ∈ events → AddressedRows rows data)
    {sys : dialect.newOrder.System}
    (ran : run dialect.newOrder.step (.start rows) events = some sys) :
    OrderIdsTaken rows sys.store sys.results ∧
      Along dialect.newOrder.step (System.permits keyFree) (.start rows) events := by
  have governed := orderIds_governed rows dialect
  have start : Holds (Present rows) (newOrderProtocol dialect (Present rows))
      (fun data p v => dialect.newOrder.commits v → NewOrderEnded dialect (Present rows) data p)
      (fun data p tx store => IdLocal rows data p.header tx store) (IdGlobal rows)
      (.start rows : dialect.newOrder.System) :=
    .start (fun _ there => there) (idGlobal_start below)
  have permitted (sys' : dialect.newOrder.System) : Along dialect.newOrder.step
      (System.permits fun _ _ _ => true) sys' events := by
    apply along_of_forall
    exact System.permits_true
  constructor
  · exact (governed.run ran addressed (permitted _) start).global.taken
  · apply governed.along _ addressed (permitted _) start
    intro data p tx store results q global _ h allowed
    exact keyFree_of_allowed rows global h allowed

end Runs

/-- Two executions for one district. The second waits for the first at its second statement. -/
def twoNewOrders : List (Locking.Event NewOrderData) :=
  [Locking.Event.start (oneItem 1 1), Locking.Event.start (oneItem 1 1), Locking.Event.step 1] ++
    List.replicate 10 (Locking.Event.step 0) ++ [Locking.Event.commit 0] ++
    List.replicate 9 (Locking.Event.step 1) ++ [Locking.Event.commit 1]

theorem oneOrder_below (wId dId : Int) (x : District)
    (there : oneOrder.rows (.district wId dId) = some x) : IdsBelow oneOrder.rows wId dId x := by
  have found : oneOrder.district.find? (fun x => x.key = (wId, dId)) = some x := there
  have known : x = oneDistrict := List.mem_singleton.mp (List.mem_of_find?_eq_some found)
  intro oId above
  rw [known] at above
  refine ⟨rfl, List.find?_eq_none.mpr ?_⟩
  intro o mem
  obtain rfl := List.mem_singleton.mp mem
  have other : (1 : Int) ≠ oId := by
    rintro rfl
    exact absurd above (by decide)
  simp [Order.key, other]

theorem orderIds_consecutive_twice : ∃ sys,
    run (Dialect.newOrder .oracle).step (.start oneOrder.rows) twoNewOrders = some sys ∧
      OrderIdsTaken oneOrder.rows sys.store sys.results := by
  have runs : (run (Dialect.newOrder .oracle).step (.start oneOrder.rows) twoNewOrders).isSome := by
    decide
  obtain ⟨sys, ran⟩ := Option.isSome_iff_exists.mp runs
  have addressed (data : NewOrderData) (mem : .start data ∈ twoNewOrders) :
      AddressedRows oneOrder.rows data := by
    have same : data = oneItem 1 1 := by simpa [twoNewOrders] using mem
    subst same
    exact ⟨by decide, by decide, by decide⟩
  exact ⟨sys, ran, (orderIds_consecutive .oracle oneOrder_below addressed ran).1⟩

end Dbt2
