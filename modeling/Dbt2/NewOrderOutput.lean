import Dbt2.Backends
import Dbt2.ProcessTransaction
import Dbt2.Lib.Program

/-!
# What a New-Order reports

The fields of `new_order_t` that an execution writes, and what `execute_new_order_nonsp` and
`execute_new_order_cockroach` leave in them whatever their statements return.

* `Nonsp.newOrderNonspOutput`: the record is filled in after the last statement;
* `Cockroach.executeNewOrderCockroachOutput`: it is filled in along the way, also by an execution
  that fails;
* `Nonsp.total`, `Cockroach.total`: the total of an execution that succeeds.
-/

namespace Dbt2

open Prog

structure NewOrderOutput where
  wTax : ℚ
  dTax : ℚ
  oId : Int
  cLast : String
  cCredit : String
  cDiscount : ℚ
  totalAmount : ℚ
  rollback : Int
  orderLine : Nat → OrderLineResult

namespace NewOrderOutput

/-- What `process_transaction` does to an order that is not to be rolled back. -/
def adjust (out : NewOrderOutput) : NewOrderOutput :=
  { out with totalAmount := out.totalAmount * (1 - out.cDiscount) * (1 + out.wTax + out.dTax) }

def setLine (out : NewOrderOutput) (i : Nat) (line : OrderLineResult) : NewOrderOutput :=
  { out with orderLine := Function.update out.orderLine i line }

/-- The sum of the amounts of the first `n` lines. -/
def amounts (out : NewOrderOutput) (n : Nat) : ℚ := ∑ i ∈ Finset.range n, (out.orderLine i).olAmount

theorem amounts_setLine {out : NewOrderOutput} {n : Nat} {line : OrderLineResult} :
    (out.setLine n line).amounts (n + 1) = out.amounts n + line.olAmount := by
  have earlier (i : Nat) (mem : i ∈ Finset.range n) :
      (out.setLine n line).orderLine i = out.orderLine i :=
    Function.update_of_ne (Finset.mem_range.mp mem).ne _ _
  have last : (out.setLine n line).orderLine n = line := Function.update_self ..
  unfold amounts
  rw [Finset.sum_range_succ, last, Finset.sum_congr rfl fun i mem => by rw [earlier i mem]]

end NewOrderOutput

/-! ## Statements and their results -/

/-- A query for one row. -/
inductive Found (A : Type) where
  | failed
  | noRow
  | row (a : A)

def Found.row? {A : Type} : Found A → Option A
  | row a => some a
  | failed | noRow => none

structure LineAnswers where
  item : Found Item
  stock : Found Stock
  updateStock : Bool
  insertLine : Bool

/-- What every statement of an execution returns that gets so far. -/
structure OrderAnswers where
  begun : Bool
  warehouse : Found Warehouse
  district : Found District
  updateDistrict : Bool
  customer : Found Customer
  insertNewOrder : Bool
  insertOrder : Bool
  line : Nat → LineAnswers

/-- A function that assigns to the record and may return early. -/
abbrev Filling (A : Type) := Prog (NewOrderOutput → NewOrderOutput) (fun _ => Unit) Int A

def assign (f : NewOrderOutput → NewOrderOutput) : Filling Unit := send f

def assigned (f : NewOrderOutput → NewOrderOutput) (out : NewOrderOutput) :
    Unit × NewOrderOutput := ((), f out)

def require (done : Bool) (rc : Int) : Filling Unit := if done then pure () else raise rc

def lineResult (l : NoOrderLine) (item : Item) (iData : String) (stock : Stock) :
    OrderLineResult where
  iPrice := item.iPrice
  iName := item.iName
  sQuantity := stock.sQuantity
  olAmount := item.iPrice * l.olQuantity
  brandGeneric := if strstr iData "ORIGINAL" && strstr stock.sData "ORIGINAL" then 'B' else 'G'

variable (data : NewOrderData) (answers : OrderAnswers)

/-! ## nonsp -/

namespace Nonsp

def newOrderLineOutput (i : Nat) : Filling OrderLineResult :=
  if (data.line i).olIId ≠ 0 then do
    let item ← orRaise (answers.line i).item.row? (-1)
    let stock ← orRaise (answers.line i).stock.row? 16
    require (answers.line i).updateStock 17
    require (answers.line i).insertLine 18
    pure (lineResult (data.line i) item item.iData stock)
  else do
    assign fun out => { out with rollback := 1 }
    raise 2

/-- The results of a line are copied and its amount is added. -/
def copyLine (lines : List OrderLineResult) (i : Nat) : Filling Unit :=
  match lines[i]? with
  | some line => assign fun out =>
    { out.setLine i line with totalAmount := out.totalAmount + line.olAmount }
  | none => pure ()

def newOrderNonspOutput : Filling Unit := do
  assign fun out => { out with rollback := 0 }
  let warehouse ← orRaise answers.warehouse.row? 10
  let district ← orRaise answers.district.row? 11
  require answers.updateDistrict 12
  let customer ← orRaise answers.customer.row? 13
  require answers.insertNewOrder 14
  require answers.insertOrder 15
  let lines ← loop (newOrderLineOutput data answers) data.oOlCnt
  assign fun out =>
    { out with
      wTax := warehouse.wTax, dTax := district.dTax, oId := district.dNextOId
      cDiscount := customer.cDiscount, cLast := customer.cLast, cCredit := customer.cCredit
      totalAmount := 0 }
  let _ ← loop (copyLine lines) data.oOlCnt
  pure ()

/-- The code it returns, and the record. -/
def executeNewOrderNonspOutput (out : NewOrderOutput) : Int × NewOrderOutput :=
  match exec assigned (newOrderNonspOutput data answers) out with
  | (.ok _, out) => (OK, out)
  | (.error _, out) => (ERROR, out)

end Nonsp

/-! ## cockroach -/

namespace Cockroach

/-- Only an item that is not there sets the flag. -/
def selectItemOutput (i : Nat) : Filling Item :=
  match (answers.line i).item with
  | .row item => pure item
  | .noRow => do
    assign fun out => { out with rollback := 1 }
    raise ERROR
  | .failed => raise ERROR

def setPrice (i : Nat) (item : Item) (olAmount : ℚ) (out : NewOrderOutput) : NewOrderOutput :=
  { out.setLine i
      { out.orderLine i with iPrice := item.iPrice, iName := item.iName, olAmount } with
    totalAmount := out.totalAmount + olAmount }

def setStock (i : Nat) (line : OrderLineResult) (out : NewOrderOutput) : NewOrderOutput :=
  out.setLine i
    { out.orderLine i with sQuantity := line.sQuantity, brandGeneric := line.brandGeneric }

def newOrderLineOutput (i : Nat) : Filling Unit := do
  let item ← selectItemOutput answers i
  assign (setPrice i item (item.iPrice * (data.line i).olQuantity))
  let stock ← orRaise (answers.line i).stock.row? ERROR
  assign (setStock i (lineResult (data.line i) item (newOrderCode.iData item.iData) stock))
  require (answers.line i).updateStock ERROR
  require (answers.line i).insertLine ERROR

def newOrderOutput : Filling Unit := do
  assign fun out => { out with rollback := 0, totalAmount := 0 }
  require answers.begun ERROR
  let warehouse ← orRaise answers.warehouse.row? ERROR
  assign fun out => { out with wTax := warehouse.wTax }
  let district ← orRaise answers.district.row? ERROR
  assign fun out => { out with dTax := district.dTax, oId := district.dNextOId }
  let customer ← orRaise answers.customer.row? ERROR
  assign fun out =>
    { out with
      cDiscount := customer.cDiscount, cLast := customer.cLast, cCredit := customer.cCredit }
  require answers.insertNewOrder ERROR
  require answers.insertOrder ERROR
  let _ ← loop (newOrderLineOutput data answers) data.oOlCnt
  pure ()

def executeNewOrderCockroachOutput (out : NewOrderOutput) : Int × NewOrderOutput :=
  match exec assigned (newOrderOutput data answers) out with
  | (.ok _, out) => (OK, out)
  | (.error _, out) => (ERROR, out)

end Cockroach

/-! ## The total -/

section Total

variable {data answers} {out out' : NewOrderOutput}

theorem require_ok {B : Type} {done : Bool} {rc : Int} {next : Unit → Filling B} {b : B}
    (ran : exec assigned (require done rc >>= next) out = (.ok b, out')) :
    exec assigned (next ()) out = (.ok b, out') := by
  cases done with
  | false => cases ran
  | true => exact ran

theorem orRaise_ok {A B : Type} {o : Option A} {rc : Int} {next : A → Filling B} {b : B}
    (ran : exec assigned (orRaise o rc >>= next) out = (.ok b, out')) :
    ∃ a, exec assigned (next a) out = (.ok b, out') := by
  cases o with
  | none => cases ran
  | some a => exact ⟨a, ran⟩

/-- A round of the loop that copies, when the lines before have been added up. -/
theorem Nonsp.copyLine_ok {lines : List OrderLineResult} {i : Nat} (there : i < lines.length)
    (summed : out.totalAmount = out.amounts i)
    (ran : exec assigned (copyLine lines i) out = (.ok (), out')) :
    out'.totalAmount = out'.amounts (i + 1) := by
  unfold copyLine at ran
  rw [List.getElem?_eq_getElem there] at ran
  cases ran
  have sum : (out.setLine i lines[i]).amounts (i + 1) = out.amounts i + lines[i].olAmount :=
    NewOrderOutput.amounts_setLine
  rw [← summed] at sum
  exact sum.symm

theorem Nonsp.newOrderNonspOutput_ok
    (ran : exec assigned (newOrderNonspOutput data answers) out = (.ok (), out')) :
    out'.totalAmount = out'.amounts data.oOlCnt := by
  unfold newOrderNonspOutput at ran
  obtain ⟨warehouse, ran⟩ := orRaise_ok ran
  obtain ⟨district, ran⟩ := orRaise_ok ran
  obtain ⟨customer, ran⟩ := orRaise_ok (require_ok ran)
  obtain ⟨lines, found, looped, ran⟩ := exec_bind_eq_ok (require_ok (require_ok ran))
  obtain ⟨length, -⟩ := exec_loop_ok (fun _ _ => True) (fun _ _ _ _ _ _ _ => trivial) looped
    trivial
  obtain ⟨_, _, cleared, ran⟩ := exec_bind_eq_ok ran
  cases cleared
  obtain ⟨_, last, copied, ran⟩ := exec_bind_eq_ok ran
  cases ran
  have summed := exec_loop_ok (fun as out => out.totalAmount = out.amounts as.length)
    (fun as out _ out' lt summed ran => by
      rw [List.length_append, List.length_singleton]
      exact copyLine_ok (length.symm ▸ lt) summed ran) copied rfl
  exact summed.1 ▸ summed.2

theorem Nonsp.total {result : Int × NewOrderOutput}
    (executed : executeNewOrderNonspOutput data answers out = result) (ok : result.1 = OK) :
    result.2.totalAmount = result.2.amounts data.oOlCnt := by
  unfold executeNewOrderNonspOutput at executed
  split at executed
  · next ran =>
    subst executed
    exact newOrderNonspOutput_ok ran
  · subst executed
    cases ok

namespace Cockroach

theorem selectItemOutput_ok {B : Type} {i : Nat} {next : Item → Filling B} {b : B}
    (ran : exec assigned (selectItemOutput answers i >>= next) out = (.ok b, out')) :
    ∃ item, exec assigned (next item) out = (.ok b, out') := by
  unfold selectItemOutput at ran
  cases found : (answers.line i).item with
  | failed =>
    rw [found] at ran
    cases ran
  | noRow =>
    rw [found] at ran
    cases ran
  | row item =>
    rw [found] at ran
    exact ⟨item, ran⟩

theorem setPrice_total {i : Nat} {item : Item} {olAmount : ℚ}
    (summed : out.totalAmount = out.amounts i) :
    (setPrice i item olAmount out).totalAmount = (setPrice i item olAmount out).amounts (i + 1) := by
  have sum : (setPrice i item olAmount out).amounts (i + 1) = out.amounts i + olAmount :=
    NewOrderOutput.amounts_setLine
  rw [sum, ← summed]
  rfl

theorem setStock_total {i : Nat} {line : OrderLineResult}
    (summed : out.totalAmount = out.amounts (i + 1)) :
    (setStock i line out).totalAmount = (setStock i line out).amounts (i + 1) := by
  have sum : (setStock i line out).amounts (i + 1) = out.amounts i + (out.orderLine i).olAmount :=
    NewOrderOutput.amounts_setLine
  rw [sum]
  exact summed.trans (Finset.sum_range_succ ..)

theorem newOrderLineOutput_ok {i : Nat} (summed : out.totalAmount = out.amounts i)
    (ran : exec assigned (newOrderLineOutput data answers i) out = (.ok (), out')) :
    out'.totalAmount = out'.amounts (i + 1) := by
  unfold newOrderLineOutput at ran
  obtain ⟨item, ran⟩ := selectItemOutput_ok ran
  obtain ⟨stock, ran⟩ := orRaise_ok ran
  have ran := require_ok ran
  cases inserted : (answers.line i).insertLine with
  | false =>
    rw [inserted] at ran
    cases ran
  | true =>
    rw [inserted] at ran
    cases ran
    exact setStock_total (setPrice_total summed)

theorem newOrderOutput_ok
    (ran : exec assigned (newOrderOutput data answers) out = (.ok (), out')) :
    out'.totalAmount = out'.amounts data.oOlCnt := by
  unfold newOrderOutput at ran
  obtain ⟨warehouse, ran⟩ := orRaise_ok (require_ok ran)
  obtain ⟨district, ran⟩ := orRaise_ok ran
  obtain ⟨customer, ran⟩ := orRaise_ok ran
  have ran := require_ok (require_ok ran)
  obtain ⟨_, last, looped, ran⟩ := exec_bind_eq_ok ran
  cases ran
  have summed := exec_loop_ok (fun as out => out.totalAmount = out.amounts as.length)
    (fun as out _ out' _ summed ran => by
      rw [List.length_append, List.length_singleton]
      exact newOrderLineOutput_ok summed ran) looped rfl
  exact summed.1 ▸ summed.2

theorem total {result : Int × NewOrderOutput}
    (executed : executeNewOrderCockroachOutput data answers out = result) (ok : result.1 = OK) :
    result.2.totalAmount = result.2.amounts data.oOlCnt := by
  unfold executeNewOrderCockroachOutput at executed
  split at executed
  · next ran =>
    subst executed
    exact newOrderOutput_ok ran
  · subst executed
    cases ok

end Cockroach

end Total

end Dbt2
