import Dbt2.PaymentStatements
import Dbt2.Money
import Dbt2.Lib.Serial

/-!
# Serializable executions

Payments and Deliveries at once, and Oracle's New-Orders and Payments: what a procedure reads
without a lock, no other changes.

* `lasting`: what of a row no procedure changes;
* `Dialect.evolution`: how the rows of each table may change;
* `transfers_serializable`, `orders_serializable`: runs are serial in the order of the commits.
-/

namespace Dbt2

open Locking Prog Transition Pgsql

/-! ## How rows change -/

/-- A row without the columns that procedures change. -/
def lasting : (k : Key) → Row k → Row k
  | .warehouse _, (w : Warehouse) => { w with wYtd := 0 }
  | .district _ _, (d : District) => { d with dYtd := 0, dNextOId := 0 }
  | .customer _ _ _, (c : CustomerRow) =>
    { c with
      cBalance := 0, cYtdPayment := 0, cPaymentCnt := 0, cDeliveryCnt := 0, cData := ""
      balanceNull := false }
  | .newOrder _ _ _, n => n
  | .orders _ _ _, (o : Order) => { o with oCarrierId := none }
  | .lines _ _ _, (ls : List OrderLine) => ls.map fun l => { l with olDeliveryD := none }
  | .item _, i => i
  | .stock _ _, (s : Stock) => { s with sQuantity := 0, sYtd := 0, sOrderCnt := 0, sRemoteCnt := 0 }

/-- Rows of orders appear among Oracle's transactions only; among the others' they disappear from
`NEW_ORDER`. -/
def Dialect.row (dialect : Dialect) : (k : Key) → Option (Row k) → Option (Row k) → Prop
  | .newOrder _ _ _, r, r' => dialect = .oracle ∨ r' = r ∨ r' = none
  | .orders wId dId oId, r, r' =>
    dialect = .oracle ∨
      r.map (lasting (.orders wId dId oId)) = r'.map (lasting (.orders wId dId oId))
  | .lines wId dId oId, r, r' =>
    dialect = .oracle ∨
      r.map (lasting (.lines wId dId oId)) = r'.map (lasting (.lines wId dId oId))
  | k, r, r' => r.map (lasting k) = r'.map (lasting k)

def Dialect.evolution (dialect : Dialect) : Evolution Key Row where
  row := dialect.row
  refl k r := by cases k <;> simp [Dialect.row]
  trans k r r' r'' first second := by
    cases k with
    | newOrder wId dId oId =>
      obtain oracle | rfl | rfl := second
      · exact .inl oracle
      · exact first
      · exact .inr (.inr rfl)
    | orders wId dId oId =>
      obtain oracle | second := second
      · exact .inl oracle
      · exact first.imp_right fun first => first.trans second
    | lines wId dId oId =>
      obtain oracle | second := second
      · exact .inl oracle
      · exact first.imp_right fun first => first.trans second
    | warehouse wId => exact Eq.trans first second
    | district wId dId => exact Eq.trans first second
    | customer wId dId cId => exact Eq.trans first second
    | item iId => exact Eq.trans first second
    | stock iId wId => exact Eq.trans first second

section Evolution

variable {dialect : Dialect} {E O : Type}

def Key.ofOrder : Key → Bool
  | .newOrder _ _ _ | .orders _ _ _ | .lines _ _ _ => true
  | _ => false

theorem row_of_lasting {k : Key} {r r' : Option (Row k)}
    (same : r.map (lasting k) = r'.map (lasting k)) : dialect.row k r r' := by
  cases k with
  | newOrder wId dId oId =>
    have id : lasting (.newOrder wId dId oId) = id := rfl
    rw [id, Option.map_id, id_eq, id_eq] at same
    exact .inr (.inl same.symm)
  | orders wId dId oId => exact .inr same
  | lines wId dId oId => exact .inr same
  | _ => exact same

theorem lasting_of_row {k : Key} {r r' : Option (Row k)} (later : dialect.evolution.row k r r')
    (kept : k.ofOrder = false) : r.map (lasting k) = r'.map (lasting k) := by
  cases k with
  | newOrder wId dId oId => cases kept
  | orders wId dId oId => cases kept
  | lines wId dId oId => cases kept
  | _ => exact later

theorem evolution_closed {k : Key} (kept : dialect ≠ .oracle ∨ k.ofOrder = false) :
    dialect.evolution.Closed k := by
  intro r later
  cases k with
  | newOrder wId dId oId =>
    obtain locks | kept := kept
    · obtain oracle | same | none := later
      · exact absurd oracle locks
      · exact same
      · exact none
    · cases kept
  | orders wId dId oId =>
    obtain locks | kept := kept
    · exact Option.map_eq_none_iff.mp (later.resolve_left locks).symm
    · cases kept
  | lines wId dId oId =>
    obtain locks | kept := kept
    · exact Option.map_eq_none_iff.mp (later.resolve_left locks).symm
    · cases kept
  | _ => exact Option.map_eq_none_iff.mp (Eq.symm later)

/-- An update of columns that do not last. -/
theorem update_evolves {k : Key} {f : Row k → Row k} (keeps : ∀ r, lasting k (f r) = lasting k r)
    (r : Option (Row k)) : dialect.evolution.row k r (r.map f) := by
  apply row_of_lasting
  cases r with
  | none => rfl
  | some r => exact congrArg some (keeps r).symm

theorem update_steady {k : Key} {f : Row k → Row k} {known : Known Key} {A : Type}
    {next : Option (Row k) → Procedure Key Row O E A} (keeps : ∀ r, lasting k (f r) = lasting k r)
    (kept : dialect ≠ .oracle ∨ k.ofOrder = false)
    (rest : ∀ r, (known.held k → r.isSome) →
      Steady dialect.evolution (known.write k r.isSome r.isSome) (next r)) :
    Steady dialect.evolution known (update k f >>= next) := by
  apply Steady.write (update_evolves keeps) fun _ => evolution_closed kept
  intro r held
  rw [Option.isSome_map]
  exact rest r held

end Evolution

/-! ## Payments -/

section Payments

variable {dialect : Dialect} {E O A : Type} (cIds : Int → Int → List Int) (data : PaymentData)

theorem lasting_wTax {wId : Int} {w w' : Warehouse}
    (same : lasting (.warehouse wId) w = lasting (.warehouse wId) w') : w.wTax = w'.wTax := by
  have tax := congrArg Warehouse.wTax same
  exact tax

theorem lasting_person {wId dId cId : Int} {c c' : CustomerRow}
    (same : lasting (.customer wId dId cId) c = lasting (.customer wId dId cId) c') :
    c.person = c'.person := by
  have person := congrArg (fun c : CustomerRow => c.person) same
  exact person

theorem customer_person {wId dId cId : Int} {r r' : Option CustomerRow}
    (later : dialect.evolution.row (.customer wId dId cId) r r') :
    r.map (fun c => c.person) = r'.map (fun c => c.person) := by
  have lasts := lasting_of_row later rfl
  cases r with
  | none => rw [Option.map_eq_none_iff.mp lasts.symm]
  | some c =>
    obtain ⟨c', rfl, becomes⟩ := Option.map_eq_some_iff.mp lasts.symm
    exact congrArg some (lasting_person becomes.symm)

theorem named_later {ids : List Int} {wId dId : Int} {cLast : String} {rows rows' : Rows}
    (later : dialect.evolution.Later rows rows') :
    named ids wId dId cLast rows = named ids wId dId cLast rows' := by
  unfold named
  congr 1
  congr 1
  funext cId
  have same := customer_person (later (.customer wId dId cId))
  cases before : rows (.customer wId dId cId) with
  | none =>
    rw [before] at same
    rw [Option.map_eq_none_iff.mp same.symm]
  | some c =>
    obtain ⟨c', after, same⟩ := Option.map_eq_some_iff.mp (same.symm.trans (congrArg _ before))
    have first : c'.cFirst = c.cFirst := congrArg Person.cFirst same
    have last : c'.cLast = c.cLast := congrArg Person.cLast same
    simp only [after, Option.map_some, Option.bind_some, first, last]

theorem selectMiddle_steady {mode : Mode} {known : Known Key} :
    Steady dialect.evolution known (selectMiddle cIds data mode : Procedure Key Row O E _) := by
  unfold selectMiddle
  apply Steady.find
  · intro rows rows' later
    simp only [middleNamed, named_later later]
  · exact fun _ => trivial

theorem selectPerson_steady {mode : Mode} {cId : Int} {known : Known Key}
    {next : Option Person → Procedure Key Row O E A}
    (rest : ∀ person, Steady dialect.evolution known (next person)) :
    Steady dialect.evolution known (selectPerson data mode cId >>= next) := by
  apply Steady.read
  · intro r r' later
    exact congrArg next (customer_person later)
  · exact fun r => rest _

theorem Plpgsql.payment_steady : Steady dialect.evolution .nothing
    (Plpgsql.paymentStatements cIds data : Procedure Key Row O PgError Payment) := by
  unfold Plpgsql.paymentStatements
  refine update_steady (fun _ => rfl) (.inr rfl) fun warehouse _ => ?_
  refine update_steady (fun _ => rfl) (.inr rfl) fun district _ => ?_
  apply Steady.bind
  · split
    · exact selectMiddle_steady cIds data
    · trivial
  · intro cId
    apply Steady.bind
    · cases cId with
      | none => trivial
      | some cId =>
        unfold Plpgsql.paymentCustomer
        apply selectPerson_steady
        intro person
        refine update_steady (fun c => ?_) (.inr rfl) fun _ _ => trivial
        split <;> rfl
    · exact fun _ => trivial

theorem Pgsql.payment_steady : Steady dialect.evolution .nothing
    (Pgsql.paymentStatements cIds data : Procedure Key Row O PgError Payment) := by
  unfold Pgsql.paymentStatements
  refine update_steady (fun _ => rfl) (.inr rfl) fun before _ => ?_
  apply Steady.bind (.orRaise _ _)
  intro warehouse
  refine update_steady (fun _ => rfl) (.inr rfl) fun before _ => ?_
  apply Steady.bind (.orRaise _ _)
  intro district
  apply Steady.bind
  · split
    · exact (selectMiddle_steady cIds data).bind fun _ => .orRaise _ _
    · trivial
  · intro cId
    apply Steady.bind
    · exact selectPerson_steady data fun person => .orRaise _ _
    · intro customer
      split
      · refine update_steady (fun _ => rfl) (.inr rfl) fun before _ => ?_
        exact (Steady.orRaise _ _).bind fun _ => trivial
      · refine update_steady (fun _ => rfl) (.inr rfl) fun before _ => ?_
        exact (Steady.orRaise _ _).bind fun _ => trivial

theorem MySql.payment_steady : Steady dialect.evolution .nothing (MySql.payment cIds data) := by
  unfold MySql.payment
  apply Steady.lock (evolution_closed (.inr rfl))
  intro warehouse
  refine update_steady (fun _ => rfl) (.inr rfl) fun _ _ => ?_
  apply Steady.lock (evolution_closed (.inr rfl))
  intro district
  refine update_steady (fun _ => rfl) (.inr rfl) fun _ _ => ?_
  apply Steady.bind
  · split
    · exact selectMiddle_steady cIds data
    · trivial
  · intro outCId
    apply Steady.bind
    · cases outCId with
      | none => trivial
      | some cId =>
        unfold MySql.paymentCustomer
        apply Steady.lock (evolution_closed (.inr rfl))
        intro found
        split
        · rename_i bad
          refine update_steady (fun _ => rfl) (.inr rfl) fun before held => ?_
          -- the row that was locked is the one that is updated
          have there : before.isSome := held (.inr ⟨rfl, Option.isSome_of_any bad⟩)
          exact Steady.readWritten (by decide) (.inr ⟨rfl, .inl there⟩) fun _ => trivial
        · exact update_steady (fun _ => rfl) (.inr rfl) fun _ _ => trivial
    · exact fun _ => trivial

theorem Oracle.payment_steady : Steady dialect.evolution .nothing (Oracle.payment cIds data) := by
  unfold Oracle.payment
  apply Steady.lock (evolution_closed (.inr rfl))
  intro found
  apply Steady.bind (.orRaise _ _)
  intro warehouse
  refine update_steady (fun _ => rfl) (.inr rfl) fun _ _ => ?_
  apply Steady.lock (evolution_closed (.inr rfl))
  intro found
  apply Steady.bind (.orRaise _ _)
  intro district
  refine update_steady (fun _ => rfl) (.inr rfl) fun _ _ => ?_
  apply Steady.bind
  · split
    · exact (selectMiddle_steady cIds data).bind fun _ => .orRaise _ _
    · trivial
  · intro cId
    apply Steady.bind
    · unfold Oracle.paymentCustomer
      apply Steady.lock (evolution_closed (.inr rfl))
      intro found
      cases found with
      | none => trivial
      | some customer =>
        change Steady _ _ (ite ((customer : CustomerRow).cCredit = "BC") _ _)
        split
        · refine update_steady (fun _ => rfl) (.inr rfl) fun before held => ?_
          have there : before.isSome := held (.inr ⟨rfl, rfl⟩)
          refine Steady.readWritten (by decide) (.inr ⟨rfl, .inl there⟩) fun after => ?_
          exact (Steady.orRaise _ _).bind fun _ => trivial
        · exact update_steady (fun _ => rfl) (.inr rfl) fun _ _ => trivial
    · exact fun _ => trivial

end Payments

/-! ## Deliveries -/

section Deliveries

variable {dialect : Dialect} (locks : dialect ≠ .oracle) (ids : Int → Int → List Int)
  (data : DeliveryData)

include locks

/-- Orders only disappear, so that the oldest is the oldest as long as it is there. -/
theorem oldest_stays {oIds : List Int} {wId dId : Int} {rows rows' : Rows}
    (later : dialect.evolution.Later rows rows')
    (kept : ∀ k, oldest oIds wId dId rows = some k → rows' k = rows k) :
    oldest oIds wId dId rows' = oldest oIds wId dId rows := by
  have fewer (oId : Int) (there : (rows' (.newOrder wId dId oId)).isSome) :
      (rows (.newOrder wId dId oId)).isSome := by
    obtain oracle | same | gone := later (.newOrder wId dId oId)
    · exact absurd oracle locks
    · rwa [same] at there
    · rw [gone] at there
      cases there
  cases found : (oIds.filter fun o => (rows (.newOrder wId dId o)).isSome).min? with
  | none =>
    have none' := List.min?_eq_none_iff.mp found
    have none'' : (oIds.filter fun o => (rows' (.newOrder wId dId o)).isSome) = [] := by
      rw [List.filter_eq_nil_iff] at none' ⊢
      exact fun o mem there => none' o mem (fewer o there)
    unfold oldest
    rw [found, none'']
    rfl
  | some oId =>
    have same : rows' (.newOrder wId dId oId) = rows (.newOrder wId dId oId) := by
      apply kept
      unfold oldest
      rw [found]
      rfl
    obtain ⟨mem, least⟩ := List.min?_eq_some_iff.mp found
    have found' : (oIds.filter fun o => (rows' (.newOrder wId dId o)).isSome).min? = some oId := by
      rw [List.min?_eq_some_iff]
      constructor
      · simpa only [List.mem_filter, same] using mem
      · intro o mem'
        obtain ⟨listed, there⟩ := List.mem_filter.mp mem'
        exact least o (List.mem_filter.mpr ⟨listed, fewer o there⟩)
    unfold oldest
    rw [found, found']

theorem lines_amount {wId dId oId : Int} {ls ls' : Option (List OrderLine)}
    (later : dialect.evolution.row (.lines wId dId oId) ls ls') : sumAmount ls = sumAmount ls' := by
  have same := later.resolve_left locks
  cases ls with
  | none => rw [Option.map_eq_none_iff.mp same.symm]
  | some ls =>
    obtain ⟨ls', rfl, same⟩ := Option.map_eq_some_iff.mp same.symm
    have amounts : ls'.map OrderLine.olAmount = ls.map OrderLine.olAmount := by
      have := congrArg (List.map OrderLine.olAmount) (Option.some.inj same)
      simpa only [lasting, List.map_map, Function.comp_def] using this.symm
    cases ls with
    | nil => rw [List.map_eq_nil_iff.mp amounts]
    | cons l ls =>
      cases ls' with
      | nil => cases amounts
      | cons l' ls' =>
        simp only [sumAmount, amounts]

theorem delete_steady {E O A : Type} {known : Known Key} {wId dId oId : Int}
    {next : Option NewOrder → Procedure Key Row O E A}
    (rest : ∀ known r, Steady dialect.evolution known (next r)) :
    Steady dialect.evolution known (delete (.newOrder wId dId oId) >>= next) := by
  apply Steady.write
  · exact fun r => .inr (.inr rfl)
  · exact fun _ => evolution_closed (.inl locks)
  · exact fun r _ => rest _ r

omit locks in
theorem deliverLines_lasting {wId dId oId : Int} (ls : List OrderLine) :
    lasting (.lines wId dId oId) (deliverLines ls) = lasting (.lines wId dId oId) ls := by
  simp only [lasting, deliverLines, List.map_map, Function.comp_def]

omit locks in
theorem credit_lasting {wId dId cId : Int} (olAmount : Option ℚ) (c : CustomerRow) :
    lasting (.customer wId dId cId) (c.credit olAmount) = lasting (.customer wId dId cId) c := by
  cases olAmount <;> rfl

theorem Plpgsql.delivery_steady :
    Steady dialect.evolution .nothing (Plpgsql.deliveryStatements ids data) := by
  unfold Plpgsql.deliveryStatements
  refine Steady.bind (Steady.loop 10 fun i => ?_) fun _ => trivial
  unfold Plpgsql.deliveryDistrictStatements
  apply Steady.lockFound fun _ _ => oldest_stays locks
  intro found
  cases noOId found with
  | none => trivial
  | some oId =>
    apply delete_steady locks
    intro known _
    refine update_steady (fun _ => rfl) (.inl locks) fun order _ => ?_
    refine update_steady deliverLines_lasting (.inl locks) fun _ _ => ?_
    apply Steady.read
    · intro ls ls' later
      rw [lines_amount locks later]
    · intro ls
      cases order with
      | none => trivial
      | some order =>
        exact update_steady (credit_lasting _) (.inl locks) fun _ _ => trivial

theorem Pgsql.delivery_steady :
    Steady dialect.evolution .nothing (Pgsql.deliveryStatements ids data) := by
  unfold Pgsql.deliveryStatements
  refine Steady.bind (Steady.loop 10 fun i => ?_) fun _ => trivial
  unfold Pgsql.deliveryDistrictStatements
  apply Steady.lockFound fun _ _ => oldest_stays locks
  intro found
  cases noOId found with
  | none => trivial
  | some oId =>
    apply delete_steady locks
    intro known deleted
    apply Steady.bind (.orRaise _ _)
    intro _
    refine update_steady (fun _ => rfl) (.inl locks) fun updated _ => ?_
    apply Steady.bind (.orRaise _ _)
    intro order
    refine update_steady deliverLines_lasting (.inl locks) fun _ _ => ?_
    apply Steady.read
    · intro ls ls' later
      rw [lines_amount locks later]
    · intro ls
      apply Steady.bind (.orRaise _ _)
      intro olAmount
      exact update_steady (credit_lasting _) (.inl locks) fun _ _ => trivial

theorem MySql.delivery_steady : Steady dialect.evolution .nothing (MySql.delivery ids data) := by
  unfold MySql.delivery
  refine Steady.bind (Steady.rounds 10 none fun i outCId => ?_) fun _ => trivial
  unfold MySql.deliveryDistrict
  apply Steady.lockFound fun _ _ => oldest_stays locks
  intro found
  dsimp only
  split
  · apply delete_steady locks
    intro known _
    apply Steady.lock (evolution_closed (.inl locks))
    intro order
    refine update_steady (fun _ => rfl) (.inl locks) fun _ _ => ?_
    refine update_steady deliverLines_lasting (.inl locks) fun _ _ => ?_
    apply Steady.read
    · intro ls ls' later
      rw [lines_amount locks later]
    · intro ls
      cases (order.map Order.oCId).or outCId with
      | none => trivial
      | some cId => exact update_steady (credit_lasting _) (.inl locks) fun _ _ => trivial
  · trivial

end Deliveries

/-! ## Oracle's New-Orders -/

namespace Oracle

variable (data : NewOrderData)

theorem insert_steady {k : Key} {row : Row k} {known : Known Key} {E O A : Type} {duplicate : E}
    {next : Unit → Procedure Key Row O E A} (order : k.ofOrder)
    (rest : Steady Dialect.oracle.evolution .nothing (next ())) :
    Steady Dialect.oracle.evolution known (insert k row duplicate >>= next) := by
  apply Steady.bind
  · unfold insert
    apply Steady.write
    · intro r
      cases k with
      | newOrder wId dId oId => exact .inl rfl
      | orders wId dId oId => exact .inl rfl
      | lines wId dId oId => exact .inl rfl
      | _ => cases order
    · exact fun absent => by cases absent
    · intro old _
      split <;> trivial
  · exact fun _ => rest

theorem insertLine_steady {l : OrderLine} {known : Known Key} {E O A : Type} {duplicate : E}
    {next : Unit → Procedure Key Row O E A}
    (rest : Steady Dialect.oracle.evolution .nothing (next ())) :
    Steady Dialect.oracle.evolution known (insertLine l duplicate >>= next) := by
  apply Steady.bind
  · unfold insertLine
    apply Steady.write
    · exact fun _ => .inl rfl
    · exact fun absent => by cases absent
    · intro old _
      split <;> trivial
  · exact fun _ => rest

theorem into_steady {mode : Mode} {k : Key} {known : Known Key} {O A : Type}
    {next : Row k → Procedure Key Row O Int A} (kept : k.ofOrder = false)
    (same : ∀ r r', lasting k r = lasting k r' → next r = next r')
    (rest : ∀ r, Steady Dialect.oracle.evolution known (next r)) :
    Steady Dialect.oracle.evolution known (into (read mode k) NO_DATA_FOUND >>= next) := by
  apply Steady.read
  · intro r r' later
    have lasts := lasting_of_row later kept
    cases r with
    | none => rw [Option.map_eq_none_iff.mp lasts.symm]
    | some r =>
      obtain ⟨r', rfl, becomes⟩ := Option.map_eq_some_iff.mp lasts.symm
      exact same r r' becomes.symm
  · intro r
    cases r with
    | none => trivial
    | some r => exact rest r

theorem lockInto_steady {k : Key} {known : Known Key} {O A : Type}
    {next : Row k → Procedure Key Row O Int A} (kept : k.ofOrder = false)
    (rest : ∀ r, Steady Dialect.oracle.evolution (known.lock k true) (next r)) :
    Steady Dialect.oracle.evolution known (into (lock k) NO_DATA_FOUND >>= next) := by
  apply Steady.lock (evolution_closed (.inr kept))
  intro r
  cases r with
  | none => trivial
  | some r => exact rest r

theorem same_item {iId : Int} {r r' : Option Item}
    (later : Dialect.oracle.evolution.row (.item iId) r r') : r = r' := by
  have same := lasting_of_row later rfl
  have id : lasting (.item iId) = id := rfl
  rwa [id, Option.map_id, id_eq, id_eq] at same

theorem selectItemInto_steady (olIId : Int) :
    Steady Dialect.oracle.evolution .nothing (selectItemInto olIId) := by
  unfold selectItemInto
  apply Steady.handle
  · apply Steady.read
    · intro r r' later
      rw [same_item later]
    · exact fun _ => .orRaise _ _
  · exact fun _ => trivial

theorem newOrderLine_steady (oId : Int) (i : Nat) :
    Steady Dialect.oracle.evolution .nothing (newOrderLine data oId i) := by
  unfold newOrderLine
  apply (selectItemInto_steady _).bind
  intro item
  unfold newOrder2
  apply lockInto_steady rfl
  intro stock
  dsimp only
  split
  · refine update_steady (fun _ => rfl) (.inr rfl) fun _ _ => ?_
    exact insertLine_steady trivial
  · refine update_steady (fun _ => rfl) (.inr rfl) fun _ _ => ?_
    exact insertLine_steady trivial

theorem neworder_steady : Steady Dialect.oracle.evolution .nothing (Oracle.neworder data) := by
  unfold Oracle.neworder
  apply into_steady rfl
  · intro w w' same
    simp only [lasting_wTax same]
  intro warehouse
  apply lockInto_steady rfl
  intro district
  refine update_steady (fun _ => rfl) (.inr rfl) fun _ _ => ?_
  apply into_steady rfl
  · intro c c' same
    have person := lasting_person same
    have discount : c.cDiscount = c'.cDiscount := congrArg Person.cDiscount person
    have last : c.cLast = c'.cLast := congrArg Person.cLast person
    have credit : c.cCredit = c'.cCredit := congrArg Person.cCredit person
    simp only [discount, last, credit]
  intro customer
  apply insert_steady rfl
  apply insert_steady rfl
  exact (Steady.loop _ (newOrderLine_steady data _)).bind fun _ => trivial

end Oracle

/-! ## Executions at once -/

/-- Payments and Deliveries. -/
def Dialect.transfers (cIds ids : Int → Int → List Int) :
    Dialect → Implementation (PaymentData ⊕ DeliveryData)
  | plpgsql =>
    { Output := DeliveryRow, Error := PgError, Value := Payment ⊕ Unit
      program := Sum.elim (fun data => .inl <$> Plpgsql.paymentStatements cIds data)
        fun data => .inr <$> Plpgsql.deliveryStatements ids data
      commits := Except.isOk }
  | c =>
    { Output := Empty, Error := PgError, Value := Payment ⊕ List DeliveryRow
      program := Sum.elim (fun data => .inl <$> Pgsql.paymentStatements cIds data)
        fun data => .inr <$> Pgsql.deliveryStatements ids data
      commits := Except.isOk }
  | mysql =>
    { Output := MySql.ResultSet, Error := String, Value := Payment ⊕ Unit
      program := Sum.elim (fun data => .inl <$> MySql.payment cIds data)
        fun data => .inr <$> MySql.delivery ids data
      commits := Except.isOk }
  | oracle =>
    { Output := Empty, Error := Int, Value := Payment ⊕ Unit
      program := Sum.elim (fun data => .inl <$> Oracle.payment cIds data)
        fun data => .inr <$> Oracle.delivery ids data
      commits := Oracle.commits }

/-- New-Orders and Payments. -/
def Oracle.orders (cIds : Int → Int → List Int) : Implementation (NewOrderData ⊕ PaymentData) where
  Output := Empty
  Error := Int
  Value := NewOrderResult ⊕ Payment
  program := Sum.elim (fun data => .inl <$> Oracle.neworder data)
    fun data => .inr <$> Oracle.payment cIds data
  commits := Oracle.commits

section Runs

variable {cIds ids : Int → Int → List Int} {rows : Rows}

theorem transfers_steady {dialect : Dialect} (x : PaymentData ⊕ DeliveryData)
    (locks : dialect = .oracle → x.isLeft) :
    Steady dialect.evolution .nothing ((dialect.transfers cIds ids).program x) := by
  cases x with
  | inl data =>
    cases dialect with
    | plpgsql => exact (Plpgsql.payment_steady cIds data).bind fun _ => trivial
    | c => exact (Pgsql.payment_steady cIds data).bind fun _ => trivial
    | mysql => exact (MySql.payment_steady cIds data).bind fun _ => trivial
    | oracle => exact (Oracle.payment_steady cIds data).bind fun _ => trivial
  | inr data =>
    cases dialect with
    | plpgsql => exact (Plpgsql.delivery_steady (by decide) ids data).bind fun _ => trivial
    | c => exact (Pgsql.delivery_steady (by decide) ids data).bind fun _ => trivial
    | mysql => exact (MySql.delivery_steady (by decide) ids data).bind fun _ => trivial
    | oracle => cases locks rfl

/-- Payments and Deliveries yield and leave what they would one after the other, in the order in
which they committed; but for Oracle's Deliveries, which do not lock the order they deliver. -/
theorem transfers_serializable (dialect : Dialect)
    {sys : (dialect.transfers cIds ids).System}
    {events : List (Locking.Event (PaymentData ⊕ DeliveryData))}
    (ran : run (dialect.transfers cIds ids).step (.start rows) events = some sys)
    (locks : ∀ data, .start (.inr data) ∈ events → dialect ≠ .oracle) :
    serially (dialect.transfers cIds ids).program rows (sys.results.map Committed.args) =
      (sys.results.map Committed.value, sys.store) := by
  apply serializable ran
  intro x mem
  apply transfers_steady x
  intro oracle
  cases x with
  | inl data => rfl
  | inr data => exact absurd oracle (locks data mem)

/-- Oracle's New-Orders and Payments do so as well. -/
theorem orders_serializable {sys : (Oracle.orders cIds).System}
    {events : List (Locking.Event (NewOrderData ⊕ PaymentData))}
    (ran : run (Oracle.orders cIds).step (.start rows) events = some sys) :
    serially (Oracle.orders cIds).program rows (sys.results.map Committed.args) =
      (sys.results.map Committed.value, sys.store) := by
  apply serializable ran
  intro x _
  cases x with
  | inl data => exact (Oracle.neworder_steady data).bind fun _ => trivial
  | inr data => exact (Oracle.payment_steady cIds data).bind fun _ => trivial

end Runs

/-- Two Payments of one customer and the Delivery of its order. The second Payment waits for the
first, and for the Delivery. -/
def atOnce : List (Locking.Event (PaymentData ⊕ DeliveryData)) :=
  [Locking.Event.start (Sum.inl onePayment), Locking.Event.start (Sum.inl onePayment),
      Locking.Event.start (Sum.inr { wId := 1, oCarrierId := 3 })] ++
    List.replicate 3 (Locking.Event.step 0) ++ List.replicate 4 (Locking.Event.step 2) ++
    [Locking.Event.step 0, Locking.Event.commit 0] ++ List.replicate 3 (Locking.Event.step 1) ++
    List.replicate 12 (Locking.Event.step 2) ++
    [Locking.Event.commit 2, Locking.Event.step 1, Locking.Event.commit 1]

theorem transfers_serializable_plpgsql : ∃ sys,
    run (Dialect.plpgsql.transfers (fun _ _ => [1]) fun _ _ => [1]).step (.start oneOutstanding.rows)
        atOnce = some sys ∧
      serially (Dialect.plpgsql.transfers (fun _ _ => [1]) fun _ _ => [1]).program
          oneOutstanding.rows (sys.results.map Committed.args) =
        (sys.results.map Committed.value, sys.store) := by
  have runs : (run (Dialect.plpgsql.transfers (fun _ _ => [1]) fun _ _ => [1]).step
      (.start oneOutstanding.rows) atOnce).isSome := by
    decide
  obtain ⟨sys, ran⟩ := Option.isSome_iff_exists.mp runs
  exact ⟨sys, ran, transfers_serializable .plpgsql ran fun _ _ => by decide⟩

/-- A New-Order and a Payment that waits for the district. -/
def orderAndPayment : List (Locking.Event (NewOrderData ⊕ PaymentData)) :=
  [Locking.Event.start (Sum.inl (oneItem 1 1)), Locking.Event.start (Sum.inr onePayment)] ++
    List.replicate 3 (Locking.Event.step 0) ++ List.replicate 2 (Locking.Event.step 1) ++
    List.replicate 7 (Locking.Event.step 0) ++ [Locking.Event.commit 0] ++
    List.replicate 4 (Locking.Event.step 1) ++ [Locking.Event.commit 1]

theorem orders_serializable_run : ∃ sys,
    run (Oracle.orders fun _ _ => [1]).step (.start oneOutstanding.rows) orderAndPayment = some sys ∧
      serially (Oracle.orders fun _ _ => [1]).program oneOutstanding.rows
          (sys.results.map Committed.args) = (sys.results.map Committed.value, sys.store) := by
  have runs : (run (Oracle.orders fun _ _ => [1]).step (.start oneOutstanding.rows)
      orderAndPayment).isSome := by
    decide
  obtain ⟨sys, ran⟩ := Option.isSome_iff_exists.mp runs
  exact ⟨sys, ran, orders_serializable ran⟩

end Dbt2
