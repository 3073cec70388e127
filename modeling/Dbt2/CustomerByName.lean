import Dbt2.NonspClient

/-!
# The customer with a last name

A Payment or an Order-Status without a customer id is for the middle one of the customers with a
last name, by first name. Each implementation looks for it in its own way.

* `CIds`: the array in which `payment_nonsp` and `order_status_nonsp` collect the ids;
* `ByName`: what a query by last name may return;
* `Nonsp.literal`: the name that SQLite reads in the text of a query;
* `middle_customer_iff`: when the implementations select the same customer.
-/

namespace Dbt2

open Fallible

/-! ## The array of ids -/

/-- Cells that were not written hold nothing. Counts are exact. -/
structure CIds where
  array : List (Option Int)
  allocCount : Nat
  resultCount : Nat
  deriving DecidableEq

namespace CIds

/-- The 16 cells of `c_ids_static_array`. -/
def start : CIds where
  array := List.replicate 16 none
  allocCount := 0
  resultCount := 0

/-- `realloc` keeps the cells that there are. -/
def grow (s : CIds) : CIds :=
  if s.resultCount ≥ 16 ∧ s.resultCount ≥ s.allocCount then
    if s.allocCount = 0 then
      { s with array := s.array.take 16 ++ List.replicate (32 - 16) none, allocCount := 32 }
    else
      { s with array := s.array ++ List.replicate s.allocCount none
               allocCount := s.allocCount * 2 }
  else s

/-- A fetched row. A write outside the array has no result. -/
def add (s : CIds) (cId : Option Int) : Option CIds :=
  let s := s.grow
  if s.resultCount < s.array.length then
    some { s with array := s.array.set s.resultCount (some (atoiColumn cId))
                  resultCount := s.resultCount + 1 }
  else none

def myCId (s : CIds) : Option Int :=
  if s.resultCount = 0 then some (-1) else (s.array[(s.resultCount - 1) / 2]?).join

/-- The array holds `l`, and has room for it. -/
structure Holds (s : CIds) (l : List Int) : Prop where
  count : s.resultCount = l.length
  room : l.length ≤ s.array.length
  values : s.array.take l.length = l.map some
  capacity : s.array.length = if s.allocCount = 0 then 16 else s.allocCount
  large : s.allocCount = 0 ∨ 32 ≤ s.allocCount

theorem holds_start : start.Holds [] := ⟨rfl, Nat.zero_le _, rfl, rfl, .inl rfl⟩

theorem Holds.grow {s : CIds} {l : List Int} (h : s.Holds l) :
    s.grow.Holds l ∧ l.length < s.grow.array.length := by
  obtain ⟨count, room, values, capacity, large⟩ := h
  unfold CIds.grow
  split
  · next full =>
    split
    · next first =>
      rw [if_pos first] at capacity
      have all : s.array.take 16 = s.array := List.take_of_length_le capacity.le
      rw [all]
      refine ⟨⟨count, ?_, ?_, ?_, .inr le_rfl⟩, ?_⟩
      · rw [List.length_append]
        omega
      · rw [List.take_append_of_le_length room, values]
      · rw [List.length_append, List.length_replicate, capacity]
        rfl
      · simp only [List.length_append, List.length_replicate]
        omega
    · next again =>
      rw [if_neg again] at capacity
      refine ⟨⟨count, ?_, ?_, ?_, .inr ?_⟩, ?_⟩
      · rw [List.length_append]
        omega
      · rw [List.take_append_of_le_length room, values]
      · rw [if_neg (show s.allocCount * 2 ≠ 0 by omega), List.length_append,
          List.length_replicate, capacity, Nat.mul_two]
      · show 32 ≤ s.allocCount * 2
        omega
      · simp only [List.length_append, List.length_replicate]
        omega
  · next more =>
    refine ⟨⟨count, room, values, capacity, large⟩, ?_⟩
    split at capacity <;> omega

theorem Holds.add {s : CIds} {l : List Int} (h : s.Holds l) (cId : Option Int) :
    ∃ t, s.add cId = some t ∧ t.Holds (l ++ [atoiColumn cId]) := by
  obtain ⟨⟨count, room, values, capacity, large⟩, free⟩ := h.grow
  have after : (l ++ [atoiColumn cId]).length = l.length + 1 := List.length_append
  refine ⟨_, if_pos (count ▸ free), ?_, ?_, ?_, ?_, large⟩
  · rw [after]
    exact congrArg (· + 1) count
  · rw [after, List.length_set]
    exact free
  · rw [after, count, List.take_add_one, List.take_set_of_le le_rfl, values, List.map_append,
      List.getElem?_set_self free]
    rfl
  · rw [List.length_set]
    exact capacity

/-- However often the array grows, it holds the ids of the rows in order. -/
theorem Holds.foldlM {s : CIds} {l : List Int} (h : s.Holds l) (cIds : List (Option Int)) :
    ∃ t, cIds.foldlM CIds.add s = some t ∧ t.Holds (l ++ cIds.map atoiColumn) := by
  induction cIds generalizing s l with
  | nil => exact ⟨s, rfl, by simpa using h⟩
  | cons cId cIds ih =>
    obtain ⟨u, added, holds⟩ := h.add cId
    obtain ⟨t, rest, holds⟩ := ih holds
    refine ⟨t, ?_, ?_⟩
    · rw [List.foldlM_cons, added]
      exact rest
    · rwa [List.append_assoc] at holds

theorem Holds.myCId {s : CIds} {l : List Int} (h : s.Holds l) (some' : l ≠ []) :
    s.myCId = l[(l.length - 1) / 2]? := by
  obtain ⟨count, -, values, -, -⟩ := h
  have pos := List.length_pos_iff.mpr some'
  have inside : (l.length - 1) / 2 < l.length := by omega
  have cell : s.array[(l.length - 1) / 2]? = (l.map some)[(l.length - 1) / 2]? := by
    rw [← values, List.getElem?_take_of_lt inside]
  unfold CIds.myCId
  rw [if_neg (by omega), count, cell, List.getElem?_map]
  cases l[(l.length - 1) / 2]? <;> rfl

end CIds

/-! ## The four implementations -/

/-- The rows of a query by last name, in ascending order of the first name. -/
structure ByName (db : Database) (cWId cDId : Int) (cLast : String) (rows : List Customer) :
    Prop where
  perm : rows.Perm
    (db.customer.filter fun c => c.cWId = cWId ∧ c.cDId = cDId ∧ c.cLast = cLast)
  sorted : rows.Pairwise fun c c' => c.cFirst ≤ c'.cFirst

/-- Has rank `k` among the customers, by first name. -/
def Ranked (rows : List Customer) (k : Nat) (c : Customer) : Prop :=
  c ∈ rows ∧ rows.countP (fun c' => c'.cFirst < c.cFirst) < k ∧
    k ≤ rows.countP fun c' => c'.cFirst ≤ c.cFirst

/-- What queries by last name return. A query whose text SQLite reads otherwise may fail, or return
any ids. -/
structure NameAnswers (db : Database) where
  selectByName (wId dId : Int) (cLast : String) : List Customer
  byName : ∀ wId dId cLast, ByName db wId dId cLast (selectByName wId dId cLast)
  misread : String → Option (List (Option Int))

/-- What SQLite reads in place of a name between apostrophes. Two of them are one, and one alone
ends the name. -/
def Nonsp.literal : List Char → Option (List Char)
  | [] => some []
  | c :: cs =>
    if c = Char.ofNat 39 then
      match cs with
      | c' :: rest => if c' = c then (literal rest).map (c :: ·) else none
      | [] => none
    else (literal cs).map (c :: ·)

/-- The rows of PAYMENT_5 and of ORDER_STATUS_1, which have the same text. -/
def Nonsp.selectCIds {db : Database} (answers : NameAnswers db) (wId dId : Int) (cLast : String) :
    Option (List (Option Int)) :=
  match literal cLast.toList with
  | some name =>
    some ((answers.selectByName wId dId (String.ofList name)).map fun c => some c.cId)
  | none => answers.misread cLast

/-- The loop over the rows of PAYMENT_5, and `my_c_id` after it. -/
def Nonsp.paymentMyCId (cIds : List (Option Int)) : Option Int := do
  let s ← cIds.foldlM CIds.add CIds.start
  s.myCId

/-- The same for the rows of ORDER_STATUS_1. -/
def Nonsp.orderStatusMyCId (cIds : List (Option Int)) : Option Int := do
  let s ← cIds.foldlM CIds.add CIds.start
  s.myCId

/-- The loop is entered if there is a row, and -1 is an error. -/
def Nonsp.accept (cIds : List (Option Int)) (myCId : Option Int) : Except Int Int :=
  if cIds = [] then .error (-1)
  else do
    let myCId ← orFail myCId (-1)
    if myCId = -1 then .error (-1) else .ok myCId

def Cockroach.customerByName (cIds : List Int) : Except Int Int :=
  if cIds.length = 0 then .error ERROR else orFail (cIds[(cIds.length - 1) / 2]?) ERROR

def Pgsql.customerByName (cIds : List Int) : Except Pgsql.PgError Int :=
  let count := cIds.length
  if 0 < count then orFail (cIds[(count - 1) / 2]?) (Pgsql.internalError "PAYMENT_5 failed")
  else .error (Pgsql.internalError "PAYMENT_5 failed")

section

variable {db : Database} (answers : NameAnswers db) (cWId cDId : Int) (cLast : String)

def Nonsp.paymentByName : Except Int Int := do
  let cIds ← orFail (selectCIds answers cWId cDId cLast) (-1)
  accept cIds (paymentMyCId cIds)

def Nonsp.orderStatusByName : Except Int Int := do
  let cIds ← orFail (selectCIds answers cWId cDId cLast) (-1)
  accept cIds (orderStatusMyCId cIds)

def Cockroach.paymentByName : Except Int Int := do
  let cId ← customerByName ((answers.selectByName (printed cWId) (printed cDId) cLast).map
    Customer.cId)
  pure (printed cId)

def Pgsql.paymentByName : Except PgError Int :=
  customerByName ((answers.selectByName cWId cDId cLast).map Customer.cId)

/-- All select the customer of rank `⌈n / 2⌉` among the `n` with the name, and if there is none, all
fail and no payment is made. -/
def MiddleEverywhere : Prop :=
  let rows := answers.selectByName cWId cDId cLast
  (rows ≠ [] → ∃ c, rows[⌈(rows.length : ℚ) / 2⌉₊ - 1]? = some c ∧
    Ranked rows ⌈(rows.length : ℚ) / 2⌉₊ c ∧
    Nonsp.paymentByName answers cWId cDId cLast = .ok c.cId ∧
    Nonsp.orderStatusByName answers cWId cDId cLast = .ok c.cId ∧
    Cockroach.paymentByName answers cWId cDId cLast = .ok c.cId ∧
    Pgsql.paymentByName answers cWId cDId cLast = .ok c.cId) ∧
  (rows = [] → Nonsp.paymentByName answers cWId cDId cLast = .error (-1) ∧
    Nonsp.orderStatusByName answers cWId cDId cLast = .error (-1) ∧
    Cockroach.paymentByName answers cWId cDId cLast = .error ERROR ∧
    Pgsql.paymentByName answers cWId cDId cLast =
      .error (Pgsql.internalError "PAYMENT_5 failed") ∧
    ∀ (b : Backend) (data : PaymentData), data.cId = 0 → data.cWId = cWId →
      data.cDId = cDId → data.cLast = cLast → b.payment data db = none)

/-- The ids go through the buffers of the cockroach client uncut, and no apostrophe ends the name. -/
structure Legible : Prop where
  warehouse : (toString cWId).length ≤ Cockroach.ID_LEN
  district : (toString cDId).length ≤ Cockroach.ID_LEN
  customer : ∀ c ∈ answers.selectByName cWId cDId cLast,
    (toString c.cId).length ≤ Cockroach.ID_LEN
  name : Char.ofNat 39 ∉ cLast.toList

end

/-! ## The middle of the rows -/

theorem ceil_half (n : Nat) : ⌈(n : ℚ) / 2⌉₊ = (n + 1) / 2 := by
  apply le_antisymm
  · have twice : (n : ℚ) ≤ 2 * ((n + 1) / 2 : Nat) := by
      exact_mod_cast (by omega : n ≤ 2 * ((n + 1) / 2))
    exact Nat.ceil_le.mpr (by linarith)
  · by_contra less
    have twice : (n : ℚ) ≤ 2 * ⌈(n : ℚ) / 2⌉₊ := by
      have := Nat.le_ceil ((n : ℚ) / 2)
      linarith
    have : n ≤ 2 * ⌈(n : ℚ) / 2⌉₊ := by exact_mod_cast twice
    omega

section

variable {db : Database} {cWId cDId : Int} {cLast : String} {rows : List Customer}

/-- The row at an index is the customer of the rank after it. -/
theorem ByName.ranked (h : ByName db cWId cDId cLast rows) {i : Nat} {c : Customer}
    (at' : rows[i]? = some c) : Ranked rows (i + 1) c := by
  obtain ⟨lt, here⟩ := List.getElem?_eq_some_iff.mp at'
  have next : rows.drop i = c :: rows.drop (i + 1) := here ▸ List.drop_eq_getElem_cons lt
  have sorted := h.sorted
  rw [← List.take_append_drop i rows, next, List.pairwise_append, List.pairwise_cons] at sorted
  obtain ⟨-, ⟨later, -⟩, earlier⟩ := sorted
  refine ⟨List.mem_of_getElem? at', ?_, ?_⟩
  · have none : (rows.drop i).countP (fun c' => c'.cFirst < c.cFirst) = 0 := by
      rw [next, List.countP_eq_zero]
      intro c' mem
      rw [decide_eq_true_eq, not_lt]
      obtain rfl | mem := List.mem_cons.mp mem
      · exact le_rfl
      · exact later c' mem
    calc rows.countP (fun c' => c'.cFirst < c.cFirst)
        = (rows.take i).countP (fun c' => c'.cFirst < c.cFirst) +
            (rows.drop i).countP fun c' => c'.cFirst < c.cFirst := by
          rw [← List.countP_append, List.take_append_drop]
      _ ≤ (rows.take i).length := by
          rw [none, Nat.add_zero]
          exact List.countP_le_length
      _ < i + 1 := Nat.lt_succ_of_le (List.length_take_le i rows)
  · have all : (rows.take (i + 1)).countP (fun c' => c'.cFirst ≤ c.cFirst) = i + 1 := by
      rw [List.countP_eq_length.mpr, List.length_take, min_eq_left lt]
      intro c' mem
      rw [decide_eq_true_eq]
      rw [List.take_succ_eq_append_getElem lt, here] at mem
      obtain mem | mem := List.mem_append.mp mem
      · exact earlier c' mem c List.mem_cons_self
      · rw [List.mem_singleton.mp mem]
    rw [← all]
    exact (List.take_sublist (i + 1) rows).countP_le

theorem middle_getElem (some' : rows ≠ []) : ∃ c,
    rows[(rows.length - 1) / 2]? = some c ∧ rows[⌈(rows.length : ℚ) / 2⌉₊ - 1]? = some c := by
  have pos := List.length_pos_iff.mpr some'
  have same : ⌈(rows.length : ℚ) / 2⌉₊ - 1 = (rows.length - 1) / 2 := by
    rw [ceil_half]
    omega
  rw [same, List.getElem?_eq_getElem (by omega)]
  exact ⟨_, rfl, rfl⟩

/-- The nonsp loop finds the middle row. -/
theorem Nonsp.paymentMyCId_eq (some' : rows ≠ []) :
    Nonsp.paymentMyCId (rows.map fun c => some c.cId) =
      (rows[(rows.length - 1) / 2]?).map Customer.cId := by
  obtain ⟨s, collected, holds⟩ := CIds.holds_start.foldlM (rows.map fun c => some c.cId)
  have ids : ([] ++ (rows.map fun c => some c.cId).map atoiColumn) = rows.map Customer.cId := by
    simp [Function.comp_def, atoiColumn]
  rw [ids] at holds
  unfold Nonsp.paymentMyCId
  rw [collected, Option.bind_eq_bind, Option.bind_some, holds.myCId (by simpa using some'),
    List.length_map, List.getElem?_map]

theorem Cockroach.customerByName_eq (some' : rows ≠ []) {c : Customer}
    (middle : rows[(rows.length - 1) / 2]? = some c) :
    Cockroach.customerByName (rows.map Customer.cId) = .ok c.cId := by
  unfold Cockroach.customerByName
  rw [if_neg (by simpa using some'), List.length_map, List.getElem?_map, middle]
  rfl

theorem Pgsql.customerByName_eq (some' : rows ≠ []) {c : Customer}
    (middle : rows[(rows.length - 1) / 2]? = some c) :
    Pgsql.customerByName (rows.map Customer.cId) = .ok c.cId := by
  have pos := List.length_pos_iff.mpr some'
  unfold Pgsql.customerByName
  rw [List.length_map]
  simp only [pos, if_true, List.getElem?_map, middle]
  rfl

end

/-- The loop over the rows, as it stands in the transactions. -/
theorem Nonsp.accept_paymentMyCId (first : Option Int) (rest : List (Option Int)) :
    (Nonsp.accept (first :: rest) (Nonsp.paymentMyCId (first :: rest))).toOption =
      middleId first rest := by
  obtain ⟨s, collected, holds⟩ := CIds.holds_start.foldlM (first :: rest)
  have read := holds.myCId (by simp)
  unfold Nonsp.paymentMyCId
  rw [collected, Option.bind_eq_bind, Option.bind_some, read]
  unfold middleId Nonsp.accept
  rw [if_neg (List.cons_ne_nil first rest), List.nil_append]
  generalize (first :: rest).map atoiColumn = l
  change _ = (l[(l.length - 1) / 2]?).filter (· ≠ -1)
  generalize l[(l.length - 1) / 2]? = found
  cases found with
  | none => rfl
  | some id =>
    by_cases null : id = -1
    · simp [null, Except.toOption, Option.filter]
    · simp [null, Except.toOption, Option.filter]

/-! ## The payments -/

/-- What the implementations select is what the payments are for. -/
theorem paymentCustomer_byName (data : PaymentData) (byName : data.cId = 0) (db : Database) :
    let rows := db.selectByName data.cWId data.cDId data.cLast
    paymentCustomer Nonsp.paymentCode data db =
        (Nonsp.accept (rows.map fun c => some c.cId)
          (Nonsp.paymentMyCId (rows.map fun c => some c.cId))).toOption ∧
      paymentCustomer Cockroach.paymentCode data db =
        (Cockroach.customerByName (rows.map Customer.cId)).toOption ∧
      paymentCustomer Pgsql.paymentCode data db =
        (Pgsql.customerByName (rows.map Customer.cId)).toOption := by
  intro rows
  have found {E : Type} (code : PaymentCode E) : paymentCustomer code data db =
      ((middle rows).map Customer.cId).filter code.found := if_pos byName
  rw [found, found, found]
  by_cases empty : rows = []
  · rw [empty]
    exact ⟨rfl, rfl, rfl⟩
  · obtain ⟨c, at', -⟩ := middle_getElem empty
    rw [Nonsp.paymentMyCId_eq empty, Cockroach.customerByName_eq empty at',
      Pgsql.customerByName_eq empty at', middle, at']
    refine ⟨?_, rfl, rfl⟩
    by_cases null : c.cId = -1
    · simp [Nonsp.paymentCode, Nonsp.accept, empty, null, Except.toOption]
    · simp [Nonsp.paymentCode, Nonsp.accept, empty, null, Except.toOption]

/-- A payment that succeeds has found its customer. -/
theorem payment_customer {E : Type} {code : PaymentCode E} {data : PaymentData} {db : Database}
    {result : Database × PaymentResult} (paid : payment code data db = .ok result) :
    paymentCustomer code data db = some result.2.cId := by
  obtain ⟨warehouse, -, paid⟩ := bind_eq_ok.mp paid
  obtain ⟨district, -, paid⟩ := bind_eq_ok.mp paid
  obtain ⟨cId, selected, paid⟩ := bind_eq_ok.mp paid
  obtain ⟨customer, -, paid⟩ := bind_eq_ok.mp paid
  cases paid
  exact orFail_eq_ok.mp selected

/-- Without a customer of that name, no backend makes a payment. -/
theorem payment_none {data : PaymentData} (byName : data.cId = 0) {db : Database}
    (missing : db.selectByName data.cWId data.cDId data.cLast = []) (b : Backend) :
    b.payment data db = none := by
  have unfound {E : Type} (code : PaymentCode E) : paymentCustomer code data db = none := by
    unfold paymentCustomer
    rw [if_pos byName, missing]
    rfl
  have unpaid {E : Type} (code : PaymentCode E) : committed (payment code data db) = none := by
    by_contra paid
    obtain ⟨db', paid⟩ := Option.ne_none_iff_exists'.mp paid
    obtain ⟨r, paid⟩ := committed_eq_some.mp paid
    have found := payment_customer paid
    rw [unfound code] at found
    cases found
  cases b with
  | nonsp =>
    have failed := unpaid Nonsp.paymentCode
    change committed ((payment Nonsp.paymentCode data db).mapError _) = none
    revert failed
    cases payment Nonsp.paymentCode data db with
    | ok result => exact id
    | error e => exact fun _ => rfl
  | cockroach => exact unpaid Cockroach.paymentCode
  | pgsql => exact unpaid Pgsql.paymentCode

/-! ## Selections -/

section

variable {db : Database} {answers : NameAnswers db} {cWId cDId : Int} {cLast : String}

theorem Nonsp.literal_eq {cs : List Char} (name : Char.ofNat 39 ∉ cs) :
    Nonsp.literal cs = some cs := by
  induction cs with
  | nil => rfl
  | cons c cs ih =>
    obtain ⟨head, tail⟩ := not_or.mp (List.mem_cons.not.mp name)
    unfold Nonsp.literal
    rw [if_neg (Ne.symm head), ih tail]
    rfl

theorem Nonsp.selectCIds_eq (name : Char.ofNat 39 ∉ cLast.toList) :
    Nonsp.selectCIds answers cWId cDId cLast =
      some ((answers.selectByName cWId cDId cLast).map fun c => some c.cId) := by
  unfold Nonsp.selectCIds
  rw [Nonsp.literal_eq name]
  dsimp only
  rw [String.ofList_toList]

/-- Without an id of -1 in the middle the nonsp functions select what is there. -/
theorem Nonsp.paymentByName_eq (name : Char.ofNat 39 ∉ cLast.toList) {c : Customer}
    (middle : (answers.selectByName cWId cDId cLast)[
      ((answers.selectByName cWId cDId cLast).length - 1) / 2]? = some c) :
    Nonsp.paymentByName answers cWId cDId cLast =
      if c.cId = -1 then .error (-1) else .ok c.cId := by
  have some' : answers.selectByName cWId cDId cLast ≠ [] := by
    intro empty
    rw [empty] at middle
    cases middle
  have myCId := Nonsp.paymentMyCId_eq some'
  rw [middle] at myCId
  unfold Nonsp.paymentByName Nonsp.accept
  rw [Nonsp.selectCIds_eq name, orFail_some_bind, if_neg (by simpa using some'), myCId,
    Option.map_some, orFail_some_bind]

theorem Nonsp.orderStatusByName_eq :
    Nonsp.orderStatusByName answers cWId cDId cLast =
      Nonsp.paymentByName answers cWId cDId cLast := rfl

theorem Cockroach.paymentByName_eq (legible : Legible answers cWId cDId cLast) :
    Cockroach.paymentByName answers cWId cDId cLast =
      Cockroach.customerByName ((answers.selectByName cWId cDId cLast).map Customer.cId) := by
  unfold Cockroach.paymentByName
  rw [printed_eq legible.warehouse, printed_eq legible.district]
  cases selected : Cockroach.customerByName
      ((answers.selectByName cWId cDId cLast).map Customer.cId) with
  | error e => rfl
  | ok cId =>
    have mem : cId ∈ (answers.selectByName cWId cDId cLast).map Customer.cId := by
      unfold Cockroach.customerByName at selected
      split at selected
      · cases selected
      · exact List.mem_of_getElem? (orFail_eq_ok.mp selected)
    obtain ⟨c, there, rfl⟩ := List.mem_map.mp mem
    exact congrArg Except.ok (printed_eq (legible.customer c there))

end

theorem selectByName_byName (db : Database) (wId dId : Int) (cLast : String) :
    ByName db wId dId cLast (db.selectByName wId dId cLast) := by
  constructor
  · exact List.perm_insertionSort _ _
  · exact List.pairwise_insertionSort _ _

/-- Customers with one first name are as they stand in the table, and a misread query fails. -/
def NameAnswers.inOrder (db : Database) : NameAnswers db where
  selectByName := db.selectByName
  byName := selectByName_byName db
  misread _ := none

/-- Customers of one name, with these ids. -/
def namesakes (cIds : List Int) : Database :=
  { (default : Database) with
    customer := cIds.map fun cId =>
      { (default : Customer) with cId, cWId := 1, cDId := 1, cLast := "BARBARBAR" } }

theorem namesakes_cId {cIds : List Int} {c : Customer}
    (mem : c ∈ (namesakes cIds).selectByName 1 1 "BARBARBAR") : c.cId ∈ cIds := by
  have there := (selectByName_byName (namesakes cIds) 1 1 "BARBARBAR").perm.subset mem
  obtain ⟨cId, given, rfl⟩ := List.mem_map.mp (List.mem_filter.mp there).1
  exact given

end Dbt2
