import Dbt2.NonspClient
import Dbt2.Lib.Printf

/-!
# SQL texts in buffers

The functions of the `nonsp` and `mysql` backends write the text of a statement to an array before
they execute it. A record is as a client may have received it, with any 32 bits in each of its
integers, and what the database answers is of the types of the columns, where an `int` has 32 bits
and any column may be null, whose text is empty. An access outside an array ends an execution here,
as nothing is known of the program after it.

* `TextProc`: the functions, as programs that write texts and execute them;
* `Service`: a database that answers, and the arithmetic of prices;
* `queries_fit_iff`: the executions whose texts all fit.
-/

namespace Dbt2.QueryBuffers

open Prog Printf

/-! ## Records -/

/-- A text of at most `n` characters. -/
structure Varchar (n : Nat) where
  chars : List Char
  fits : chars.length ≤ n

structure OrderLineRecord where
  olIId : Int32
  olSupplyWId : Int32
  olQuantity : Int32

structure NewOrderRecord where
  wId : Int32
  dId : Int32
  cId : Int32
  oOlCnt : Int32
  oAllLocal : Int32
  orderLine : Vector OrderLineRecord 15

structure DeliveryRecord where
  wId : Int32
  oCarrierId : Int32

structure OrderStatusRecord where
  cId : Int32
  cWId : Int32
  cDId : Int32
  cLast : Varchar 16

structure StockLevelRecord where
  wId : Int32
  dId : Int32
  threshold : Int32

/-! ## Statements -/

/-- The column that is used of a row. Of a real column that is its text. -/
inductive Columns where
  | unread
  | int
  | real
  | stock

abbrev Columns.Row : Columns → Type
  | unread => Unit
  | int => Option Int32
  | real => Option (List Char)
  | stock => Option Int32 × Option (Varchar 24)

inductive Call where
  | write (buffer : Nat) (text : List Char)
  | execute (text : List Char) (columns : Columns)

abbrev Call.Reply : Call → Type
  | write _ _ => Unit
  | execute _ columns => Answer columns.Row

inductive Stop where
  | rc (rc : Int)
  | undefined

abbrev TextProc (A : Type) := Prog Call Call.Reply Stop A

section

variable {A : Type}

def write (buffer : Nat) (text : List Char) : TextProc Unit := send (Call.write buffer text)

def execute (text : List Char) (columns : Columns) : TextProc (Answer columns.Row) :=
  send (Call.execute text columns)

def sprintf (buffer : Nat) (fmt : List Piece) (args : List Arg) : TextProc (List Char) := do
  write buffer (format fmt args)
  pure (format fmt args)

/-- At most `n` bytes, with the terminator. -/
def snprintf (buffer n : Nat) (fmt : List Piece) (args : List Arg) : TextProc (List Char) := do
  write buffer (takeBytes (n - 1) (format fmt args))
  pure (takeBytes (n - 1) (format fmt args))

/-- A statement that must not fail. -/
def change (text : List Char) (rc : Int) : TextProc Unit := do
  match ← execute text .unread with
  | .failed => raise (.rc rc)
  | .noRow | .row _ _ _ => pure ()

/-- A query that must have a row, and what is read of its rows. -/
def select (text : List Char) (columns : Columns) (rc : Int)
    (read : columns.Row → List columns.Row → Option A) : TextProc A := do
  match ← execute text columns with
  | .failed | .noRow => raise (.rc rc)
  | .row first rest _ => orRaise (read first rest) (.rc (-1))

/-- A query that may fail as well as have no row. -/
def selectIfAny (text : List Char) (columns : Columns) : TextProc (Option columns.Row) := do
  match ← execute text columns with
  | .failed | .noRow => pure none
  | .row first _ _ => pure (some first)

end

def int (n : Int32) : Arg := .int n.toInt

/-- The text of an integer column. -/
def intText (n : Option Int32) : Arg := .text (some (n.elim [] fun n => Decimal.digitsInt n.toInt))

/-- `atoi` of that text. -/
def atoi (n : Option Int32) : Int32 := n.getD 0

def query (lines : List String) : List Piece := joined ['\n'] lines

/-! ## nonsp -/

namespace Nonsp

def DELIVERY_1 : List Piece := query
  ["SELECT no_o_id", "FROM new_order", "WHERE no_w_id = %d", "  AND no_d_id = %d",
    "ORDER BY no_o_id ASC", "LIMIT 1"]

def DELIVERY_2 : List Piece := query
  ["DELETE FROM new_order", "WHERE no_o_id = %s", "  AND no_w_id = %d", "  AND no_d_id = %d"]

def DELIVERY_3 : List Piece := query
  ["SELECT o_c_id", "FROM orders", "WHERE o_id = %s", "  AND o_w_id = %d", "  AND o_d_id = %d"]

def DELIVERY_4 : List Piece := query
  ["UPDATE orders", "SET o_carrier_id = %d", "WHERE o_id = %s", "  AND o_w_id = %d",
    "  AND o_d_id = %d"]

def DELIVERY_5 : List Piece := query
  ["UPDATE order_line", "SET ol_delivery_d = current_timestamp", "WHERE ol_o_id = %s",
    "  AND ol_w_id = %d", "  AND ol_d_id = %d"]

def DELIVERY_6 : List Piece := query
  ["SELECT SUM(ol_amount)", "FROM order_line", "WHERE ol_o_id = %s", "  AND ol_w_id = %d",
    "  AND ol_d_id = %d"]

def DELIVERY_7 : List Piece := query
  ["UPDATE customer", "SET c_delivery_cnt = c_delivery_cnt + 1,",
    "    c_balance = c_balance + %s", "WHERE c_id = %s", "  AND c_w_id = %d", "  AND c_d_id = %d"]

def NEW_ORDER_1 : List Piece := query ["SELECT w_tax", "FROM warehouse", "WHERE w_id = %d"]

def NEW_ORDER_2 : List Piece := query
  ["SELECT d_tax, d_next_o_id", "FROM district ", "WHERE d_w_id = %d", "  AND d_id = %d", ""]

def NEW_ORDER_3 : List Piece := query
  ["UPDATE district", "SET d_next_o_id = d_next_o_id + 1", "WHERE d_w_id = %d", "  AND d_id = %d"]

def NEW_ORDER_4 : List Piece := query
  ["SELECT c_discount, c_last, c_credit", "FROM customer", "WHERE c_w_id = %d",
    "  AND c_d_id = %d", "  AND c_id = %d"]

def NEW_ORDER_5 : List Piece := query
  ["INSERT INTO new_order (no_o_id, no_w_id, no_d_id)", "VALUES (%s, %d, %d)"]

def NEW_ORDER_6 : List Piece := query
  ["INSERT INTO orders (o_id, o_d_id, o_w_id, o_c_id, o_entry_d,",
    "                    o_carrier_id, o_ol_cnt, o_all_local)",
    "VALUES (%s, %d, %d, %d, current_timestamp, NULL, %d, %d)"]

def NEW_ORDER_7 : List Piece := query
  ["SELECT i_price, i_name, i_data", "FROM item", "WHERE i_id = %d"]

def NEW_ORDER_8 : List Piece := query
  ["SELECT s_quantity, %s, s_data", "FROM stock", "WHERE s_i_id = %d", "  AND s_w_id = %d"]

def NEW_ORDER_9 : List Piece := query
  ["UPDATE stock", "SET s_quantity = s_quantity - %d", "WHERE s_i_id = %d", "  AND s_w_id = %d"]

def NEW_ORDER_10 : List Piece := query
  ["INSERT INTO order_line (ol_o_id, ol_d_id, ol_w_id, ol_number,",
    "                        ol_i_id, ol_supply_w_id, ol_delivery_d,",
    "                        ol_quantity, ol_amount, ol_dist_info)",
    "VALUES (%s, %d, %d, %d, %d, %d, current_timestamp, %d, %f, '%s')"]

def ORDER_STATUS_1 : List Piece := query
  ["SELECT c_id", "FROM customer", "WHERE c_w_id = %d", "  AND c_d_id = %d", "  AND c_last = '%s'",
    "ORDER BY c_first ASC"]

def ORDER_STATUS_2 : List Piece := query
  ["SELECT c_first, c_middle, c_last, c_balance", "FROM customer", "WHERE c_w_id = %d",
    "  AND c_d_id = %d", "  AND c_id = %d"]

def ORDER_STATUS_3 : List Piece := query
  ["SELECT o_id, o_carrier_id, o_entry_d, o_ol_cnt", "FROM orders", "WHERE o_w_id = %d",
    "  AND o_d_id = %d ", "  AND o_c_id = %d", "ORDER BY o_id DESC"]

def ORDER_STATUS_4 : List Piece := query
  ["SELECT ol_i_id, ol_supply_w_id, ol_quantity, ol_amount,", "       ol_delivery_d",
    "FROM order_line", "WHERE ol_w_id = %d", "  AND ol_d_id = %d", "  AND ol_o_id = %s"]

def STOCK_LEVEL_1 : List Piece := query
  ["SELECT d_next_o_id", "FROM district", "WHERE d_w_id = %d", "AND d_id = %d"]

def STOCK_LEVEL_2 : List Piece := query
  ["SELECT count(*)", "FROM order_line, stock, district", "WHERE d_id = %d", "  AND d_w_id = %d",
    "  AND d_id = ol_d_id", "  AND d_w_id = ol_w_id", "  AND ol_i_id = s_i_id",
    "  AND ol_w_id = s_w_id", "  AND s_quantity < %d", "  AND ol_o_id BETWEEN (%d)",
    "\t\t  AND (%d)"]

/-- The round for a district. -/
def deliveryDistrict (data : DeliveryRecord) (i : Nat) : TextProc Unit := do
  let dId := Int32.ofNat (i + 1)
  let query ← sprintf 256 DELIVERY_1 [int data.wId, int dId]
  let found ← selectIfAny query .int
  match (found : Option (Option Int32)) with
  | none => pure ()
  | some noOId =>
    if 0 < atoi noOId then do
      let query ← sprintf 256 DELIVERY_2 [intText noOId, int data.wId, int dId]
      change query (-1)
      let query ← sprintf 256 DELIVERY_3 [intText noOId, int data.wId, int dId]
      let oCId ← select query .int (-1) fun oCId _ => some oCId
      let query ← sprintf 256 DELIVERY_4 [int data.oCarrierId, intText noOId, int data.wId, int dId]
      change query (-1)
      let query ← sprintf 256 DELIVERY_5 [intText noOId, int data.wId, int dId]
      change query (-1)
      let query ← sprintf 256 DELIVERY_6 [intText noOId, int data.wId, int dId]
      let olAmount ← select query .real (-1) fun olAmount _ => some (olAmount.getD [])
      let query ← snprintf 256 250 DELIVERY_7
        [.text (some olAmount), intText oCId, int data.wId, int dId]
      change query (-1)
    else pure ()

def deliveryNonsp (data : DeliveryRecord) : TextProc Unit := do
  let _ ← loop (deliveryDistrict data) 10
  pure ()

/-- The array `s_dist`. -/
def sDist : Vector String 10 := #v["s_dist_01", "s_dist_02", "s_dist_03", "s_dist_04", "s_dist_05",
  "s_dist_06", "s_dist_07", "s_dist_08", "s_dist_09", "s_dist_10"]

def sDistOf (dId : Int32) : Option (List Char) :=
  if 0 ≤ dId - 1 then (sDist[(dId - 1).toInt.toNat]?).map String.toList else none

section

-- `atof(i_price) * (float) ol_quantity` as a `float`
variable (times : List Char → Int32 → Number)

def newOrderLine (data : NewOrderRecord) (dNextOId : Option Int32) (i : Nat) : TextProc Unit := do
  let l ← orRaise data.orderLine[i]? .undefined
  let query ← sprintf 1024 NEW_ORDER_7 [int l.olIId]
  if l.olIId ≠ 0 then do
    let iPrice ← select query .real (-1) fun iPrice _ => some (iPrice.getD [])
    let sDist ← orRaise (sDistOf data.dId) .undefined
    let query ← sprintf 1024 NEW_ORDER_8 [.text (some sDist), int l.olIId, int data.wId]
    let (sQuantity, mySDist) ← select query .stock 16 fun stock _ => some stock
    let decrQuantity :=
      if atoi sQuantity ≥ l.olQuantity + 10 then l.olQuantity else l.olQuantity - 91
    let query ← sprintf 1024 NEW_ORDER_9 [int decrQuantity, int l.olIId, int data.wId]
    change query 17
    let query ← sprintf 1024 NEW_ORDER_10
      [intText dNextOId, int data.dId, int data.wId, int (Int32.ofNat (i + 1)), int l.olIId,
        int l.olSupplyWId, int l.olQuantity, .real (times iPrice l.olQuantity),
        .text (some (mySDist.elim [] Varchar.chars))]
    change query 18
  else raise (.rc 2)

def newOrderNonsp (data : NewOrderRecord) : TextProc Unit := do
  let query ← sprintf 1024 NEW_ORDER_1 [int data.wId]
  let _ ← select query .unread 10 fun wTax _ => some wTax
  let query ← sprintf 1024 NEW_ORDER_2 [int data.wId, int data.dId]
  let dNextOId ← select query .int 11 fun dNextOId _ => some dNextOId
  let query ← sprintf 1024 NEW_ORDER_3 [int data.wId, int data.dId]
  change query 12
  let query ← sprintf 1024 NEW_ORDER_4 [int data.wId, int data.dId, int data.cId]
  let _ ← select query .unread 13 fun customer _ => some customer
  let query ← sprintf 1024 NEW_ORDER_5 [intText dNextOId, int data.wId, int data.dId]
  change query 14
  let query ← sprintf 1024 NEW_ORDER_6
    [intText dNextOId, int data.dId, int data.wId, int data.cId, int data.oOlCnt,
      int data.oAllLocal]
  change query 15
  let _ ← loop (newOrderLine times data dNextOId) data.oOlCnt.toInt.toNat
  pure ()

end

/-- The middle one of the ids; none if that is -1. -/
def middleId (first : Option Int32) (rest : List (Option Int32)) : Option Int32 :=
  let cIds := (first :: rest).map atoi
  (cIds[(cIds.length - 1) / 2]?).filter (· ≠ -1)

def orderStatusCustomer (data : OrderStatusRecord) : TextProc Int32 :=
  if data.cId = 0 then do
    let query ← sprintf 512 ORDER_STATUS_1
      [int data.cWId, int data.cDId, .text (some data.cLast.chars)]
    select query .int (-1) middleId
  else pure data.cId

def orderStatusNonsp (data : OrderStatusRecord) : TextProc Unit := do
  let myCId ← orderStatusCustomer data
  let query ← sprintf 512 ORDER_STATUS_2 [int data.cWId, int data.cDId, int myCId]
  let _ ← select query .unread (-1) fun customer _ => some customer
  let query ← sprintf 512 ORDER_STATUS_3 [int data.cWId, int data.cDId, int myCId]
  let oId ← select query .int (-1) fun oId _ => some oId
  let query ← sprintf 512 ORDER_STATUS_4 [int data.cWId, int data.cDId, intText oId]
  let _ ← select query .unread (-1) fun line _ => some line
  pure ()

def stockLevelNonsp (data : StockLevelRecord) : TextProc Unit := do
  let query ← sprintf 256 STOCK_LEVEL_1 [int data.wId, int data.dId]
  let dNextOId ← select query .int (-1) fun dNextOId _ => some (atoi dNextOId)
  let query ← sprintf 256 STOCK_LEVEL_2
    [int data.dId, int data.wId, int data.threshold, int (dNextOId - 20), int (dNextOId - 1)]
  let _ ← select query .int (-1) fun lowStock _ => some (atoi lowStock)
  pure ()

end Nonsp

/-! ## mysql -/

namespace MySql

def NEW_ORDER : List Piece := joined []
  ["call new_order(%d, %d, %d, %d, %d, %d, %d, %d, %d, %d, %d, %d, %d, %d, %d, %d,",
    "                                 %d, %d, %d, %d, %d, %d, %d, %d, ",
    "%d, %d, %d, %d, %d, %d, %d, %d,",
    "                                 %d, %d, %d, %d, %d, %d, %d, %d, ",
    "%d, %d, %d, %d, %d, %d, %d, %d,",
    "                          %d, %d, @rc)"]

def DELIVERY : List Piece := joined [] ["call delivery(%d, %d)"]

def ORDER_STATUS : List Piece := joined [] ["call order_status(%d, %d, %d, '%s')"]

def STOCK_LEVEL : List Piece := joined [] ["call stock_level(%d, %d, %d, @low_stock)"]

/-- The integers of a record in the order of the parameters. -/
def newOrderNumbers (data : NewOrderRecord) : List Int32 :=
  [data.wId, data.dId, data.cId, data.oAllLocal, data.oOlCnt] ++
    data.orderLine.toList.flatMap fun l => [l.olIId, l.olSupplyWId, l.olQuantity]

/-- No text depends on the result sets. -/
def executeNewOrderMysql (data : NewOrderRecord) : TextProc Unit := do
  let stmt ← sprintf 512 NEW_ORDER ((newOrderNumbers data).map int)
  change stmt ERROR

def executeDeliveryMysql (data : DeliveryRecord) : TextProc Unit := do
  let stmt ← sprintf 512 DELIVERY [int data.wId, int data.oCarrierId]
  change stmt ERROR

def executeOrderStatusMysql (data : OrderStatusRecord) : TextProc Unit := do
  let stmt ← sprintf 128 ORDER_STATUS
    [int data.cId, int data.cWId, int data.cDId, .text (some data.cLast.chars)]
  change stmt ERROR

def executeStockLevelMysql (data : StockLevelRecord) : TextProc Unit := do
  let stmt ← sprintf 512 STOCK_LEVEL [int data.wId, int data.dId, int data.threshold]
  change stmt ERROR

end MySql

/-! ## Executions -/

inductive Backend where
  | nonsp
  | mysql

inductive Record where
  | newOrder (data : NewOrderRecord)
  | delivery (data : DeliveryRecord)
  | orderStatus (data : OrderStatusRecord)
  | stockLevel (data : StockLevelRecord)

/-- What is outside: a database that answers, and prices times quantities, which a `float` holds. -/
structure Service (S : Type) where
  answer : List Char → (columns : Columns) → S → Answer columns.Row × S
  times : List Char → Int32 → Number
  times_within : ∀ iPrice olQuantity, (times iPrice olQuantity).Within (2 ^ 128)

/-- A text in a buffer. -/
structure Written where
  buffer : Nat
  text : List Char

/-- With the terminating NUL. -/
def Written.Fits (w : Written) : Prop := byteSize w.text + 1 ≤ w.buffer

variable {S : Type} (service : Service S)

def Service.on (q : Call) (s : S × List Written) : q.Reply × (S × List Written) :=
  match q with
  | .write buffer text => ((), s.1, s.2 ++ [⟨buffer, text⟩])
  | .execute text columns =>
    let result := service.answer text columns s.1
    (result.1, result.2, s.2)

def Service.proc : Backend → Record → TextProc Unit
  | .nonsp, .newOrder data => Nonsp.newOrderNonsp service.times data
  | .nonsp, .delivery data => Nonsp.deliveryNonsp data
  | .nonsp, .orderStatus data => Nonsp.orderStatusNonsp data
  | .nonsp, .stockLevel data => Nonsp.stockLevelNonsp data
  | .mysql, .newOrder data => MySql.executeNewOrderMysql data
  | .mysql, .delivery data => MySql.executeDeliveryMysql data
  | .mysql, .orderStatus data => MySql.executeOrderStatusMysql data
  | .mysql, .stockLevel data => MySql.executeStockLevelMysql data

def Fitting (t : S × List Written) : Prop := ∀ w ∈ t.2, w.Fits

/-- Every text that an execution writes fits its buffer. -/
def Service.AllFit (b : Backend) (data : Record) (s : S) : Prop :=
  Fitting (exec service.on (service.proc b data) (s, [])).2

/-! ## Sizes of arguments -/

/-- The conversion that an argument is for, and how large it can be. -/
def Takes (arg : Arg) (kind : Char × Nat) : Prop := arg.conversion = kind.1 ∧ arg.size ≤ kind.2

theorem natAbs_toInt (n : Int32) : n.toInt.natAbs < 10 ^ 10 := by
  have low := n.le_toInt
  have high := n.toInt_lt
  omega

@[simp]
theorem takes_int (n : Int32) : Takes (int n) ('d', 11) :=
  ⟨rfl, size_int_le (by decide) (natAbs_toInt n)⟩

@[simp]
theorem takes_intText (n : Option Int32) : Takes (intText n) ('s', 44) := by
  have short : ∀ cs ∈ some (n.elim [] fun n => Decimal.digitsInt n.toInt), cs.length ≤ 11 := by
    rintro cs ⟨⟩
    cases n with
    | none => exact Nat.zero_le _
    | some n =>
      change (Decimal.digitsInt n.toInt).length ≤ 11
      rw [← size_int]
      exact (takes_int n).2
  exact ⟨rfl, size_text_le short⟩

theorem takes_varchar {n : Nat} (some' : 2 ≤ n) (s : Option (Varchar n)) :
    Takes (.text (some (s.elim [] Varchar.chars))) ('s', 4 * n) := by
  have short : ∀ cs ∈ some (s.elim [] Varchar.chars), cs.length ≤ n := by
    rintro cs ⟨⟩
    cases s with
    | none => exact Nat.zero_le n
    | some v => exact v.fits
  exact ⟨rfl, (size_text_le short).trans (max_eq_left (by omega)).le⟩

@[simp]
theorem takes_cLast (cLast : Varchar 16) : Takes (.text (some cLast.chars)) ('s', 64) :=
  takes_varchar (by decide) (some cLast)

@[simp]
theorem takes_mySDist (mySDist : Option (Varchar 24)) :
    Takes (.text (some (mySDist.elim [] Varchar.chars))) ('s', 96) := takes_varchar (by decide) mySDist

theorem takes_sDist {dId : Int32} {cs : List Char} (found : Nonsp.sDistOf dId = some cs) :
    Takes (.text (some cs)) ('s', 9) := by
  have all : ∀ column ∈ Nonsp.sDist.toList, byteSize column.toList ≤ 9 := by decide
  unfold Nonsp.sDistOf at found
  split at found
  · obtain ⟨column, there, rfl⟩ := Option.map_eq_some_iff.mp found
    exact ⟨rfl, all column (Vector.mem_toList_iff.mpr (Vector.mem_of_getElem? there))⟩
  · cases found

@[simp]
theorem takes_times (service : Service S) (iPrice : List Char) (olQuantity : Int32) :
    Takes (.real (service.times iPrice olQuantity)) ('f', 47) :=
  ⟨rfl, size_real_le (by decide) (service.times_within iPrice olQuantity) (by decide)⟩

theorem takes_all {args : List Arg} {kinds : List (Char × Nat)}
    (takes : List.Forall₂ Takes args kinds) : args.map Arg.conversion = kinds.map Prod.fst ∧
      (args.map Arg.size).sum ≤ (kinds.map Prod.snd).sum := by
  induction takes with
  | nil => exact ⟨rfl, le_rfl⟩
  | cons first _ ih =>
    obtain ⟨names, sizes⟩ := ih
    simp only [List.map_cons, List.sum_cons, first.1, names, true_and]
    exact Nat.add_le_add first.2 sizes

/-! ## Programs whose texts fit -/

def Call.Fits : Call → Prop
  | .write buffer text => Written.Fits ⟨buffer, text⟩
  | .execute _ _ => True

section

variable {A B : Type}

/-- A text fits if it does with the largest arguments. -/
theorem fits_of_takes {buffer : Nat} {sep : List Char} {parts : List String}
    {css : List (List Char)} {args : List Arg} (kinds : List (Char × Nat))
    (takes : List.Forall₂ Takes args kinds) (spelt : Spelt parts css)
    (enough : conversions (pieces (List.intercalate sep css)) = kinds.map Prod.fst ∧
      literalSize (pieces (List.intercalate sep css)) + (kinds.map Prod.snd).sum + 1 ≤ buffer) :
    Written.Fits ⟨buffer, format (joined sep parts) args⟩ := by
  rw [← joined_eq spelt] at enough
  obtain ⟨names, sizes⟩ := takes_all takes
  have size := byteSize_format (enough.1.trans names.symm)
  have fits : byteSize (format (joined sep parts) args) + 1 ≤ buffer := by omega
  exact fits

theorem always_sprintf {buffer : Nat} {sep : List Char} {parts : List String}
    {css : List (List Char)} {args : List Arg} {f : List Char → TextProc B}
    (kinds : List (Char × Nat)) (takes : List.Forall₂ Takes args kinds) (spelt : Spelt parts css)
    (enough : conversions (pieces (List.intercalate sep css)) = kinds.map Prod.fst ∧
      literalSize (pieces (List.intercalate sep css)) + (kinds.map Prod.snd).sum + 1 ≤ buffer)
    (rest : ∀ text, Always Call.Fits (f text)) :
    Always Call.Fits (sprintf buffer (joined sep parts) args >>= f) :=
  ⟨fits_of_takes kinds takes spelt enough, fun _ => rest _⟩

/-- A text that is cut off fits. -/
theorem always_snprintf {buffer n : Nat} {fmt : List Piece} {args : List Arg}
    {f : List Char → TextProc B} (pos : 0 < n) (room : n ≤ buffer)
    (rest : ∀ text, Always Call.Fits (f text)) :
    Always Call.Fits (snprintf buffer n fmt args >>= f) := by
  have size := takeBytes_size (n - 1) (format fmt args)
  have fits : byteSize (takeBytes (n - 1) (format fmt args)) + 1 ≤ buffer := by
    unfold byteSize
    omega
  exact ⟨fits, fun _ => rest _⟩

theorem always_execute (text : List Char) (columns : Columns) :
    Always Call.Fits (execute text columns) := always_send True.intro

theorem always_change (text : List Char) (rc : Int) : Always Call.Fits (change text rc) := by
  apply always_bind (always_execute text .unread)
  intro answer
  cases answer with
  | failed => exact always_raise _
  | noRow | row first rest broken => exact always_pure _

theorem always_select (text : List Char) (columns : Columns) (rc : Int)
    (read : columns.Row → List columns.Row → Option A) :
    Always Call.Fits (select text columns rc read) := by
  apply always_bind (always_execute text columns)
  intro answer
  cases answer with
  | failed | noRow => exact always_raise _
  | row first rest broken => exact always_orRaise _ _

theorem always_selectIfAny (text : List Char) (columns : Columns) :
    Always Call.Fits (selectIfAny text columns) := by
  apply always_bind (always_execute text columns)
  intro answer
  cases answer with
  | failed | noRow | row first rest broken => exact always_pure _

end

theorem Service.fitting_on (service : Service S) (q : Call) (t : S × List Written)
    (fits : q.Fits) (before : Fitting t) : Fitting (service.on q t).2 := by
  cases q with
  | write buffer text =>
    intro w mem
    obtain old | new := List.mem_append.mp mem
    · exact before w old
    · rw [List.mem_singleton.mp new]
      exact fits
  | execute text columns => exact before

theorem Service.fitting_of_always (service : Service S) {p : TextProc Unit}
    (always : Always Call.Fits p) (s : S) : Fitting (exec service.on p (s, [])).2 :=
  always_exec service.fitting_on always (List.forall_mem_nil _)

/-! ## Texts that always fit -/

namespace Nonsp

theorem deliveryDistrict_fits (data : DeliveryRecord) (i : Nat) :
    Always Call.Fits (deliveryDistrict data i) := by
  unfold deliveryDistrict
  apply always_sprintf [('d', 11), ('d', 11)] (by simp) (by repeat' constructor) (by decide)
  intro query
  apply always_bind (always_selectIfAny _ _)
  intro found
  split
  · exact always_pure _
  · split
    · apply always_sprintf [('s', 44), ('d', 11), ('d', 11)] (by simp) (by repeat' constructor)
        (by decide)
      intro query
      apply always_bind (always_change _ _)
      intro _
      apply always_sprintf [('s', 44), ('d', 11), ('d', 11)] (by simp) (by repeat' constructor)
        (by decide)
      intro query
      apply always_bind (always_select _ _ _ _)
      intro oCId
      apply always_sprintf [('d', 11), ('s', 44), ('d', 11), ('d', 11)] (by simp)
        (by repeat' constructor) (by decide)
      intro query
      apply always_bind (always_change _ _)
      intro _
      apply always_sprintf [('s', 44), ('d', 11), ('d', 11)] (by simp) (by repeat' constructor)
        (by decide)
      intro query
      apply always_bind (always_change _ _)
      intro _
      apply always_sprintf [('s', 44), ('d', 11), ('d', 11)] (by simp) (by repeat' constructor)
        (by decide)
      intro query
      apply always_bind (always_select _ _ _ _)
      intro olAmount
      apply always_snprintf (by decide) (by decide)
      intro query
      exact always_change _ _
    · exact always_pure _

theorem deliveryNonsp_fits (data : DeliveryRecord) : Always Call.Fits (deliveryNonsp data) :=
  always_bind (always_loop (deliveryDistrict_fits data)) fun _ => always_pure _

set_option maxRecDepth 4096 in
theorem newOrderLine_fits (service : Service S) (data : NewOrderRecord) (dNextOId : Option Int32)
    (i : Nat) : Always Call.Fits (newOrderLine service.times data dNextOId i) := by
  unfold newOrderLine
  apply always_bind (always_orRaise _ _)
  intro l
  apply always_sprintf [('d', 11)] (by simp) (by repeat' constructor) (by decide)
  intro query
  split
  · apply always_bind (always_select _ _ _ _)
    intro iPrice
    cases column : sDistOf data.dId with
    | none => exact always_raise _
    | some cs =>
      have name := takes_sDist column
      apply always_sprintf [('s', 9), ('d', 11), ('d', 11)] (by simp [name])
        (by repeat' constructor) (by decide)
      intro query
      apply always_bind (always_select _ _ _ _)
      intro stock
      apply always_sprintf [('d', 11), ('d', 11), ('d', 11)] (by simp) (by repeat' constructor)
        (by decide)
      intro query
      apply always_bind (always_change _ _)
      intro _
      apply always_sprintf [('s', 44), ('d', 11), ('d', 11), ('d', 11), ('d', 11), ('d', 11),
        ('d', 11), ('f', 47), ('s', 96)] (by simp) (by repeat' constructor) (by decide)
      intro query
      exact always_change _ _
  · exact always_raise _

set_option maxRecDepth 4096 in
theorem newOrderNonsp_fits (service : Service S) (data : NewOrderRecord) :
    Always Call.Fits (newOrderNonsp service.times data) := by
  unfold newOrderNonsp
  apply always_sprintf [('d', 11)] (by simp) (by repeat' constructor) (by decide)
  intro query
  apply always_bind (always_select _ _ _ _)
  intro wTax
  apply always_sprintf [('d', 11), ('d', 11)] (by simp) (by repeat' constructor) (by decide)
  intro query
  apply always_bind (always_select _ _ _ _)
  intro dNextOId
  apply always_sprintf [('d', 11), ('d', 11)] (by simp) (by repeat' constructor) (by decide)
  intro query
  apply always_bind (always_change _ _)
  intro _
  apply always_sprintf [('d', 11), ('d', 11), ('d', 11)] (by simp) (by repeat' constructor)
    (by decide)
  intro query
  apply always_bind (always_select _ _ _ _)
  intro customer
  apply always_sprintf [('s', 44), ('d', 11), ('d', 11)] (by simp) (by repeat' constructor)
    (by decide)
  intro query
  apply always_bind (always_change _ _)
  intro _
  apply always_sprintf [('s', 44), ('d', 11), ('d', 11), ('d', 11), ('d', 11), ('d', 11)]
    (by simp) (by repeat' constructor) (by decide)
  intro query
  apply always_bind (always_change _ _)
  intro _
  exact always_bind (always_loop (newOrderLine_fits service data dNextOId)) fun _ => always_pure _

theorem orderStatusCustomer_fits (data : OrderStatusRecord) :
    Always Call.Fits (orderStatusCustomer data) := by
  unfold orderStatusCustomer
  split
  · apply always_sprintf [('d', 11), ('d', 11), ('s', 64)] (by simp) (by repeat' constructor)
      (by decide)
    intro query
    exact always_select _ _ _ _
  · exact always_pure _

set_option maxRecDepth 4096 in
theorem orderStatusNonsp_fits (data : OrderStatusRecord) :
    Always Call.Fits (orderStatusNonsp data) := by
  apply always_bind (orderStatusCustomer_fits data)
  intro myCId
  apply always_sprintf [('d', 11), ('d', 11), ('d', 11)] (by simp) (by repeat' constructor)
    (by decide)
  intro query
  apply always_bind (always_select _ _ _ _)
  intro customer
  apply always_sprintf [('d', 11), ('d', 11), ('d', 11)] (by simp) (by repeat' constructor)
    (by decide)
  intro query
  apply always_bind (always_select _ _ _ _)
  intro oId
  apply always_sprintf [('d', 11), ('d', 11), ('s', 44)] (by simp) (by repeat' constructor)
    (by decide)
  intro query
  exact always_bind (always_select _ _ _ _) fun line => always_pure _

end Nonsp

namespace MySql

theorem executeDeliveryMysql_fits (data : DeliveryRecord) :
    Always Call.Fits (executeDeliveryMysql data) :=
  always_sprintf [('d', 11), ('d', 11)] (by simp) (by repeat' constructor)
    (by decide) fun _ => always_change _ _

theorem executeOrderStatusMysql_fits (data : OrderStatusRecord) :
    Always Call.Fits (executeOrderStatusMysql data) :=
  always_sprintf [('d', 11), ('d', 11), ('d', 11), ('s', 64)] (by simp) (by repeat' constructor)
    (by decide)
    fun _ => always_change _ _

theorem executeStockLevelMysql_fits (data : StockLevelRecord) :
    Always Call.Fits (executeStockLevelMysql data) :=
  always_sprintf [('d', 11), ('d', 11), ('d', 11)] (by simp) (by repeat' constructor) (by decide)
    fun _ => always_change _ _

end MySql

/-! ## Texts that may be too long -/

/-- How many characters an integer takes. -/
def digits (n : Int32) : Nat := (Decimal.digitsInt n.toInt).length

theorem sizes_int (ns : List Int32) : ((ns.map int).map Arg.size).sum = (ns.map digits).sum := by
  rw [List.map_map]
  exact congrArg List.sum (List.map_congr_left fun n _ => size_int n.toInt)

theorem conversions_int (ns : List Int32) :
    (ns.map int).map Arg.conversion = List.replicate ns.length 'd' := by
  rw [List.map_map]
  exact List.map_const' ..

def readOf {Row A : Type} (read : Row → List Row → Option A) : Answer Row → Option A
  | .failed | .noRow => none
  | .row first rest _ => read first rest

/-- What is read of the answer to STOCK_LEVEL_1. -/
def Service.dNextOId (data : StockLevelRecord) (s : S) : Option Int32 :=
  readOf (fun dNextOId _ => some (atoi dNextOId))
    (service.answer (format Nonsp.STOCK_LEVEL_1 [int data.wId, int data.dId]) .int s).1

/-- The integers in the texts for which there may be no room are not too long. -/
def Service.Short : Backend → Record → S → Prop
  | .nonsp, .stockLevel data, s => ∀ dNextOId ∈ service.dNextOId data s,
    digits data.dId + digits data.wId + digits data.threshold + digits (dNextOId - 20) +
      digits (dNextOId - 1) ≤ 31
  | .mysql, .newOrder data, _ => ((MySql.newOrderNumbers data).map digits).sum ≤ 303
  | _, _, _ => True

/-- With integers only, how much room there is for their characters. -/
theorem fits_iff {buffer k n : Nat} {sep : List Char} {parts : List String}
    {css : List (List Char)} {ns : List Int32} (count : ns.length = k) (spelt : Spelt parts css)
    (shape : conversions (pieces (List.intercalate sep css)) = List.replicate k 'd' ∧
      literalSize (pieces (List.intercalate sep css)) = n) :
    Written.Fits ⟨buffer, format (joined sep parts) (ns.map int)⟩ ↔
      n + (ns.map digits).sum + 1 ≤ buffer := by
  rw [← joined_eq spelt, ← count, ← conversions_int] at shape
  rw [← sizes_int, ← shape.2, ← byteSize_format shape.1]
  rfl

/-! ### What is written -/

section

variable {A B : Type}

theorem exec_sprintf (buffer : Nat) (fmt : List Piece) (args : List Arg)
    (f : List Char → TextProc B) (t : S × List Written) :
    exec service.on (sprintf buffer fmt args >>= f) t =
      exec service.on (f (format fmt args)) (t.1, t.2 ++ [⟨buffer, format fmt args⟩]) := rfl

theorem texts_change (text : List Char) (rc : Int) (t : S × List Written) :
    (exec service.on (change text rc) t).2.2 = t.2 := by
  unfold change execute
  rw [send_bind, exec_issue]
  cases (service.on (.execute text .unread) t).1 <;> rfl

theorem texts_select (text : List Char) (columns : Columns) (rc : Int)
    (read : columns.Row → List columns.Row → Option A) (f : A → TextProc B)
    (t : S × List Written) :
    (exec service.on (select text columns rc read >>= f) t).2.2 =
      match readOf read (service.answer text columns t.1).1 with
      | none => t.2
      | some a => (exec service.on (f a) ((service.answer text columns t.1).2, t.2)).2.2 := by
  have executed : exec service.on (select text columns rc read >>= f) t =
      exec service.on ((match (service.answer text columns t.1).1 with
        | .failed | .noRow => raise (.rc rc)
        | .row first rest _ => orRaise (read first rest) (.rc (-1))) >>= f)
        ((service.answer text columns t.1).2, t.2) := rfl
  rw [executed]
  cases (service.answer text columns t.1).1 with
  | failed | noRow => rfl
  | row first rest broken =>
    dsimp only [readOf]
    cases read first rest <;> rfl

end

theorem newOrderMysql_texts (data : NewOrderRecord) (s : S) :
    (exec service.on (MySql.executeNewOrderMysql data) (s, [])).2.2 =
      [⟨512, format MySql.NEW_ORDER ((MySql.newOrderNumbers data).map int)⟩] := by
  unfold MySql.executeNewOrderMysql
  rw [exec_sprintf, texts_change]
  rfl

/-- The integers in STOCK_LEVEL_2. -/
def stockLevelNumbers (data : StockLevelRecord) (dNextOId : Int32) : List Int32 :=
  [data.dId, data.wId, data.threshold, dNextOId - 20, dNextOId - 1]

theorem stockLevelNonsp_texts (data : StockLevelRecord) (s : S) :
    (exec service.on (Nonsp.stockLevelNonsp data) (s, [])).2.2 =
      ⟨256, format Nonsp.STOCK_LEVEL_1 [int data.wId, int data.dId]⟩ ::
        ((service.dNextOId data s).map fun dNextOId => ⟨256, format Nonsp.STOCK_LEVEL_2
          ((stockLevelNumbers data dNextOId).map int)⟩).toList := by
  unfold Nonsp.stockLevelNonsp
  rw [exec_sprintf, texts_select]
  unfold Service.dNextOId
  cases readOf (fun dNextOId _ => some (atoi dNextOId))
    (service.answer (format Nonsp.STOCK_LEVEL_1 [int data.wId, int data.dId]) .int s).1 with
  | none => rfl
  | some dNextOId =>
    dsimp only
    rw [exec_sprintf, texts_select]
    split <;> rfl

theorem newOrderNumbers_length (data : NewOrderRecord) :
    (MySql.newOrderNumbers data).length = 50 := by
  simp [MySql.newOrderNumbers]

set_option maxRecDepth 4096 in
theorem newOrderMysql_fits_iff (data : NewOrderRecord) (s : S) :
    service.AllFit .mysql (.newOrder data) s ↔ service.Short .mysql (.newOrder data) s := by
  have text : Written.Fits ⟨512, format MySql.NEW_ORDER ((MySql.newOrderNumbers data).map int)⟩ ↔
      208 + ((MySql.newOrderNumbers data).map digits).sum + 1 ≤ 512 :=
    fits_iff (newOrderNumbers_length data) (by repeat' constructor) (by decide)
  unfold Service.AllFit Service.Short Fitting Service.proc
  rw [newOrderMysql_texts, List.forall_mem_singleton, text]
  omega

set_option maxRecDepth 4096 in
theorem stockLevelNonsp_fits_iff (data : StockLevelRecord) (s : S) :
    service.AllFit .nonsp (.stockLevel data) s ↔ service.Short .nonsp (.stockLevel data) s := by
  have first : Written.Fits ⟨256, format Nonsp.STOCK_LEVEL_1 [int data.wId, int data.dId]⟩ :=
    fits_of_takes [('d', 11), ('d', 11)] (by simp) (by repeat' constructor) (by decide)
  unfold Service.AllFit Fitting Service.proc
  rw [stockLevelNonsp_texts, List.forall_mem_cons, and_iff_right first, Service.Short]
  cases service.dNextOId data s with
  | none => simp
  | some dNextOId =>
    have count : (stockLevelNumbers data dNextOId).length = 5 := rfl
    have second : Written.Fits ⟨256, format Nonsp.STOCK_LEVEL_2
        ((stockLevelNumbers data dNextOId).map int)⟩ ↔
        224 + ((stockLevelNumbers data dNextOId).map digits).sum + 1 ≤ 256 :=
      fits_iff count (by repeat' constructor) (by decide)
    have sum : ((stockLevelNumbers data dNextOId).map digits).sum =
        digits data.dId + digits data.wId + digits data.threshold + digits (dNextOId - 20) +
          digits (dNextOId - 1) := by
      simp [stockLevelNumbers, Nat.add_assoc]
    simp only [Option.map_some, Option.toList_some, List.forall_mem_singleton, Option.mem_some_iff,
      forall_eq']
    rw [second, sum]
    omega

/-! ## All executions -/

theorem queries_fit_iff (b : Backend) (data : Record) (s : S) :
    service.AllFit b data s ↔ service.Short b data s := by
  have always {p : TextProc Unit} (fits : Always Call.Fits p) :
      Fitting (exec service.on p (s, [])).2 ↔ True :=
    iff_true_intro (service.fitting_of_always fits s)
  cases b with
  | nonsp =>
    cases data with
    | newOrder data => exact always (Nonsp.newOrderNonsp_fits service data)
    | delivery data => exact always (Nonsp.deliveryNonsp_fits data)
    | orderStatus data => exact always (Nonsp.orderStatusNonsp_fits data)
    | stockLevel data => exact stockLevelNonsp_fits_iff service data s
  | mysql =>
    cases data with
    | newOrder data => exact newOrderMysql_fits_iff service data s
    | delivery data => exact always (MySql.executeDeliveryMysql_fits data)
    | orderStatus data => exact always (MySql.executeOrderStatusMysql_fits data)
    | stockLevel data => exact always (MySql.executeStockLevelMysql_fits data)

/-- A database without tables. -/
def emptyDatabase : Service Unit where
  answer _ _ s := (.failed, s)
  times _ _ := .finite 0
  times_within := by
    intro iPrice olQuantity
    simp [Number.Within]

def largest : NewOrderRecord where
  wId := .maxValue
  dId := .maxValue
  cId := .maxValue
  oOlCnt := .maxValue
  oAllLocal := .maxValue
  orderLine := .replicate 15 ⟨.maxValue, .maxValue, .maxValue⟩

theorem queries_too_long : ¬ emptyDatabase.AllFit .mysql (.newOrder largest) () := by
  rw [newOrderMysql_fits_iff]
  have numbers : ((MySql.newOrderNumbers largest).map digits).sum = 500 := by decide
  unfold Service.Short
  omega

end Dbt2.QueryBuffers
