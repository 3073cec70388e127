import Dbt2.Common
import Dbt2.Schema

/-!
# The data generator

One generator of rows for each table, with the draws of the source in their order. The orders of a
district come with their order lines, which go to a second file. A run that meets more orders than
customers exits, and leaves the rows that it has written.
-/

namespace Dbt2

open Draws

/-- What the command line sets. -/
structure Datagen where
  warehouses : Int
  customers : Int := 3000
  items : Int := 100000
  orders : Int := 3000
  newOrders : Int := 900
  seed : BitVec 64
  part : Int := 1
  partitions : Int := 1

namespace Datagen

/-- Rounding to nearest, halves away from zero. -/
def round (q : ℚ) : Int := if 0 ≤ q then ⌊q + 1 / 2⌋ else ⌈q - 1 / 2⌉

theorem round_intCast (n : Int) : round n = n := by
  unfold round
  split
  · exact Int.floor_eq_iff.mpr ⟨by linarith, by linarith⟩
  · exact Int.ceil_eq_iff.mpr ⟨by linarith, by linarith⟩

variable (d : Datagen)

def start (n : Int) : Int := round ((n : ℚ) / d.partitions * (d.part - 1))

def stop (n : Int) : Int := min (round ((n : ℚ) / d.partitions * d.part)) n

/-- What all generators do: cut `n` rounds to this part's, advance the generator by `skip` draws
for the rounds of the parts before it, and emit. -/
def generate {α : Type} (n : Int) (skip : BitVec 128 → BitVec 128)
    (body : Int → Gen (List α)) : Option (List α) :=
  let rng := pcg64fSrandomR d.seed
  let rng := if 1 < d.part then pcg64fAdvanceR rng (skip (BitVec.ofInt 128 (d.start n))) else rng
  output (forRange (d.start n) (d.stop n) body) rng

def forDistricts {α : Type} (row : Int → Int → Gen (List α)) (i : Int) : Gen (List α) :=
  forRange 0 DISTRICT_CARDINALITY fun j => row i j

/-! ## Customers -/

def customerLast (k : Int) : Gen String :=
  if k < 1000 then pure (getCLast k) else do
    let i ← getNurand 255 0 999
    pure (getCLast i)

def customerRow (i j k : Int) : Gen Customer := do
  let first ← getAString 8 16
  let last ← customerLast k
  let street1 ← getAString 10 20
  let street2 ← getAString 10 20
  let city ← getAString 10 20
  let state ← getAString 2 2
  let zip ← getNString 4 4
  let phone ← getNString 16 16
  let credit ← getPercentage
  let discount ← getRandom 5001
  let data ← getAString 300 500
  pure {
    cId := k + 1
    cDId := j + 1
    cWId := i + 1
    cFirst := String.ofList first
    cMiddle := "OE"
    cLast := last
    cStreet1 := String.ofList street1
    cStreet2 := String.ofList street2
    cCity := String.ofList city
    cState := String.ofList state
    cZip := String.ofList zip ++ "11111"
    cPhone := String.ofList phone
    cSince := .currentTimestamp
    cCredit := if credit < 1 / 10 then "BC" else "GC"
    cCreditLim := 50000
    cDiscount := discount / 10000
    cBalance := -10
    cYtdPayment := 10
    cPaymentCnt := 1
    cDeliveryCnt := 0
    cData := String.ofList data }

def genCustomers : Option (List Customer) :=
  d.generate d.warehouses
    (fun start => start * BitVec.ofInt 128 DISTRICT_CARDINALITY *
      BitVec.ofInt 128 (d.customers * 10 +
        if 1000 < d.customers then 2 * (d.customers - 1000) else 0))
    (forDistricts fun i j => forRange 0 d.customers fun k => do
      let row ← customerRow i j k
      pure [row])

/-! ## Districts -/

def districtRow (i j : Int) : Gen District := do
  let name ← getAString 6 10
  let street1 ← getAString 10 20
  let street2 ← getAString 10 20
  let city ← getAString 10 20
  let state ← getAString 2 2
  let zip ← getNString 4 4
  let tax ← getRandom 2001
  pure {
    dId := j + 1
    dWId := i + 1
    dName := String.ofList name
    dStreet1 := String.ofList street1
    dStreet2 := String.ofList street2
    dCity := String.ofList city
    dState := String.ofList state
    dZip := String.ofList zip ++ "11111"
    dTax := tax / 10000
    dYtd := 30000
    dNextOId := 3001 }

def genDistricts : Option (List District) :=
  d.generate d.warehouses
    (fun start => start * BitVec.ofInt 128 DISTRICT_CARDINALITY * 7)
    (forDistricts fun i j => do
      let row ← districtRow i j
      pure [row])

/-! ## History -/

def historyRow (i j k : Int) : Gen History := do
  let data ← getAString 12 24
  pure {
    hCId := k + 1
    hCDId := j + 1
    hCWId := i + 1
    hDId := j + 1
    hWId := i + 1
    hDate := .currentTimestamp
    hAmount := 10
    hData := String.ofList data }

def genHistory : Option (List History) :=
  d.generate d.warehouses
    (fun start => start * BitVec.ofInt 128 DISTRICT_CARDINALITY * BitVec.ofInt 128 d.customers)
    (forDistricts fun i j => forRange 0 d.customers fun k => do
      let row ← historyRow i j k
      pure [row])

/-! ## Items and stock -/

/-- Overwrites `s` from position `j` on. -/
def overwrite (s : List Char) (j : Nat) (word : List Char) : List Char :=
  s.take j ++ word ++ s.drop (j + word.length)

/-- A string of which one in ten contains the word, placed by a generator of its own. -/
def originalData : Gen (List Char) := do
  let data ← getAString 26 50
  let seed ← pcg64fRandomR
  aside (pcg64fSrandomR seed) do
    let percentage ← getPercentage
    if percentage < 1 / 10 then do
      let j ← getRandom ((data.length : Int) - 7)
      pure (overwrite data j.toNat "ORIGINAL".toList)
    else pure data

def itemRow (i : Int) : Gen Item := do
  let imId ← getRandom 10000
  let name ← getAString 14 24
  let price ← getRandom 9901
  let data ← originalData
  pure {
    iId := i + 1
    iImId := imId + 1
    iName := String.ofList name
    iPrice := (price + 100) / 100
    iData := String.ofList data }

def genItems : Option (List Item) :=
  d.generate d.items (fun start => start * 5) fun i => do
    let row ← itemRow i
    pure [row]

def stockRow (i j : Int) : Gen Stock := do
  let quantity ← getRandom 91
  let dist01 ← getLString 24 24
  let dist02 ← getLString 24 24
  let dist03 ← getLString 24 24
  let dist04 ← getLString 24 24
  let dist05 ← getLString 24 24
  let dist06 ← getLString 24 24
  let dist07 ← getLString 24 24
  let dist08 ← getLString 24 24
  let dist09 ← getLString 24 24
  let dist10 ← getLString 24 24
  let data ← originalData
  pure {
    sIId := j + 1
    sWId := i + 1
    sQuantity := quantity + 10
    sDist := #v[dist01, dist02, dist03, dist04, dist05, dist06, dist07, dist08, dist09,
      dist10].map String.ofList
    sYtd := 0
    sOrderCnt := 0
    sRemoteCnt := 0
    sData := String.ofList data }

def genStock : Option (List Stock) :=
  d.generate d.warehouses
    (fun start => start * BitVec.ofInt 128 d.items * 13)
    (fun i => forRange 0 d.items fun j => do
      let row ← stockRow i j
      pure [row])

/-! ## New orders -/

def genNewOrders : Option (List NewOrder) :=
  d.generate d.warehouses (fun _ => 0)
    (forDistricts fun i j => forRange (d.orders - d.newOrders) d.orders fun k =>
      pure [{ noOId := k + 1, noDId := j + 1, noWId := i + 1 }])

/-! ## Orders -/

/-- Follows `iter` links and puts `value` there; at the head too, when the links run out and both
pointers of the walk are null. -/
def insertAt {α : Type} (value : α) (iter : Nat) (list : List α) : List α :=
  if iter = 0 ∨ list.length < iter then value :: list
  else list.take iter ++ value :: list.drop iter

/-- The numbers up to `n + 1` in random order. -/
def permutation : Nat → Gen (List Int)
  | 0 => pure [1]
  | n + 1 => do
    let list ← permutation n
    let iter ← getRandom (n + 2)
    pure (insertAt (n + 2 : Int) iter.toNat list)

def lineAmount (k : Int) : Gen ℚ :=
  if k < 2101 then pure 0 else do
    let amount ← getRandom 999999
    pure ((amount + 1) / 100)

def orderLineRow (items i j k l : Int) : Gen OrderLine := do
  let iId ← getRandom items
  let amount ← lineAmount k
  let distInfo ← getLString 24 24
  pure {
    olOId := k + 1
    olDId := j + 1
    olWId := i + 1
    olNumber := l + 1
    olIId := iId + 1
    olSupplyWId := i + 1
    olDeliveryD := if k < 2101 then some .currentTimestamp else none
    olQuantity := 5
    olAmount := amount
    olDistInfo := some (String.ofList distInfo) }

def carrier (k : Int) : Gen (Option Int) :=
  if k < 2101 then do
    let c ← getRandom 10
    pure (some (c + 1))
  else pure none

/-- An order of customer `cId`, with its lines. -/
def orderRow (items i j k cId : Int) : Gen (Order × List OrderLine) := do
  let carrierId ← carrier k
  let seed ← pcg64fRandomR
  aside (pcg64fSrandomR seed) do
    let r ← getRandom 11
    let olCnt := r + 5
    let lines ← forRange 0 olCnt fun l => do
      let line ← orderLineRow items i j k l
      pure [line]
    pure ({
      oId := k + 1
      oDId := j + 1
      oWId := i + 1
      oCId := cId
      oEntryD := .currentTimestamp
      oCarrierId := carrierId
      oOlCnt := olCnt
      oAllLocal := 1 }, lines)

/-- Order `k` of a district goes to the customer at that place of the list. -/
def nextOrder (items i j : Int) (list : List Int) (k : Int) :
    Gen (List (Order × List OrderLine)) :=
  match list[k.toNat]? with
  | none => failure
  | some cId => do
    let row ← orderRow items i j k cId
    pure [row]

def districtOrders (i j : Int) : Gen (List (Order × List OrderLine)) := do
  let list ← permutation (d.customers - 1).toNat
  forRange 0 d.orders (nextOrder d.items i j list)

/-- The draws of `gen_orders` for the warehouses before. -/
def orderDraws (start : BitVec 128) : BitVec 128 :=
  start * BitVec.ofInt 128 DISTRICT_CARDINALITY *
    BitVec.ofInt 128 ((d.customers - 1) + (if d.orders < 2101 then d.orders else 2101) + d.orders)

def genOrders : Option (List (Order × List OrderLine)) :=
  d.generate d.warehouses d.orderDraws (forDistricts d.districtOrders)

/-- The rows of a district, up to where the list of customers ends. -/
def districtOrdersWritten (i j : Int) : Writing Pcg64f (Order × List OrderLine) :=
  .after (permutation (d.customers - 1).toNat) fun list =>
    .forRange 0 d.orders fun k => .once (nextOrder d.items i j list k)

/-- What `gen_orders` has written when it returns or exits. -/
def ordersWritten : List (Order × List OrderLine) :=
  let rng := pcg64fSrandomR d.seed
  let rng :=
    if 1 < d.part then pcg64fAdvanceR rng (d.orderDraws (BitVec.ofInt 128 (d.start d.warehouses)))
    else rng
  (Writing.forRange (d.start d.warehouses) (d.stop d.warehouses)
    (fun i => .forRange 0 DISTRICT_CARDINALITY fun j => d.districtOrdersWritten i j) rng).1

def orderData : Option (List Order) := d.genOrders.map (List.map Prod.fst)

def orderLineData : Option (List OrderLine) := d.genOrders.map (List.flatMap Prod.snd)

/-! ## Warehouses -/

def warehouseRow (i : Int) : Gen Warehouse := do
  let name ← getAString 6 10
  let street1 ← getAString 10 20
  let street2 ← getAString 10 20
  let city ← getAString 10 20
  let state ← getAString 2 2
  let zip ← getNString 4 4
  let tax ← getRandom 2001
  pure {
    wId := i + 1
    wName := String.ofList name
    wStreet1 := String.ofList street1
    wStreet2 := String.ofList street2
    wCity := String.ofList city
    wState := String.ofList state
    wZip := String.ofList zip ++ "11111"
    wTax := tax / 10000
    wYtd := 300000 }

def genWarehouses : Option (List Warehouse) :=
  d.generate d.warehouses (fun start => start * 7) fun i => do
    let row ← warehouseRow i
    pure [row]

/-- All tables, in the order of the source. -/
def genTables : Option Database := do
  let item ← d.genItems
  let warehouse ← d.genWarehouses
  let stock ← d.genStock
  let district ← d.genDistricts
  let customer ← d.genCustomers
  let history ← d.genHistory
  let orders ← d.genOrders
  let newOrder ← d.genNewOrders
  pure {
    warehouse, district, customer, history, newOrder
    orders := orders.map Prod.fst
    orderLine := orders.flatMap Prod.snd
    item, stock }

/-- What the files hold after a run for all tables, or after runs for one table each. Where
`gen_orders` exits, a run for all tables does not come to `gen_new_orders`. -/
def genFiles (separately : Bool) : Option Database := do
  let item ← d.genItems
  let warehouse ← d.genWarehouses
  let stock ← d.genStock
  let district ← d.genDistricts
  let customer ← d.genCustomers
  let history ← d.genHistory
  let newOrder ← d.genNewOrders
  pure {
    warehouse, district, customer, history
    orders := d.ordersWritten.map Prod.fst
    orderLine := d.ordersWritten.flatMap Prod.snd
    newOrder := if d.genOrders.isSome || separately then newOrder else []
    item, stock }

end Datagen

end Dbt2
