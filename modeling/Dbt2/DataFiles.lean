import Dbt2.Datagen
import Dbt2.Drawn
import Dbt2.Transactions
import Dbt2.Lib.CopyText
import Dbt2.Lib.Decimal

/-!
# The data files

The rows of the data generator with the text of their columns, in any source of draws. The rows are
those of `Datagen` when the source is the vendored generator.
-/

namespace Dbt2

open Draws

/-! ## Columns -/

/-- What `main` sets for PostgreSQL. -/
def copyFormat : CopyText.Format where
  delimiter := '\t'
  null := []

def quoter : List Char := []

def quoted (s : List Char) : List Char := quoter ++ s ++ quoter

/-- The characters whose UTF-8 encoding fits into `n` bytes. -/
def wcstombs (n : Nat) : List Char → List Char
  | [] => []
  | c :: s => if c.utf8Size ≤ n then c :: wcstombs (n - c.utf8Size) s else []

/-- `%d`. -/
def printInt (n : Int) : List Char := Decimal.digitsInt n

/-- `%0nd`, with the sign in the width. -/
def printPadded (width : Nat) : Int → List Char
  | .ofNat n => Decimal.padded width n
  | .negSucc n => '-' :: Decimal.padded (width - 1) (n + 1)

/-- What `localtime` returns. -/
structure Tm where
  tmYear : Int
  tmMon : Int
  tmMday : Int
  tmHour : Int
  tmMin : Int
  tmSec : Int

def printTimestamp (date : Tm) : List Char :=
  printPadded 4 (date.tmYear + 1900) ++ '-' :: printPadded 2 (date.tmMon + 1) ++
    '-' :: printPadded 2 date.tmMday ++ ' ' :: printPadded 2 date.tmHour ++
    ':' :: printPadded 2 date.tmMin ++ ':' :: printPadded 2 date.tmSec

/-- A row, and its columns as they are printed. -/
structure Printed (R : Type) where
  row : R
  columns : List (List Char)

def Printed.line {R : Type} (p : Printed R) : List Char := CopyText.line copyFormat p.columns

/-- The file of a table. -/
def fileText {R : Type} (table : List (Printed R)) : List Char := table.flatMap Printed.line

namespace Drawn

variable {σ : Type} [Source σ]

/-! ## Rows -/

def customerLast (k : Int) : StateT σ Option String :=
  if k < 1000 then pure (getCLast k) else do
    let i ← getNurand 255 0 999
    pure (getCLast i)

def customerRow (now : Tm) (i j k : Int) : StateT σ Option (Printed Customer) := do
  let first ← getAString 8 16
  let last ← customerLast k
  let street1 ← getAString 10 20
  let street2 ← getAString 10 20
  let city ← getAString 10 20
  let state ← getAString 2 2
  let zip ← getNString 4 4
  let phone ← getNString 16 16
  let credit ← getPercentage
  let discount ← getRandom 5001
  let data ← getAString 300 500
  let cCredit := if credit < 1 / 10 then "BC" else "GC"
  pure {
    row := {
      cId := k + 1
      cDId := j + 1
      cWId := i + 1
      cFirst := String.ofList first
      cMiddle := "OE"
      cLast := last
      cStreet1 := String.ofList street1
      cStreet2 := String.ofList street2
      cCity := String.ofList city
      cState := String.ofList state
      cZip := String.ofList zip ++ "11111"
      cPhone := String.ofList phone
      cSince := .currentTimestamp
      cCredit
      cCreditLim := 50000
      cDiscount := discount / 10000
      cBalance := -10
      cYtdPayment := 10
      cPaymentCnt := 1
      cDeliveryCnt := 0
      cData := String.ofList data }
    columns := [
      quoted (printInt (k + 1)), quoted (printInt (j + 1)), quoted (printInt (i + 1)),
      quoted (wcstombs 4096 first), "OE".toList, quoted (wcstombs 4096 last.toList),
      quoted (wcstombs 4096 street1), quoted (wcstombs 4096 street2), quoted (wcstombs 4096 city),
      quoted (wcstombs 4096 state), quoted (wcstombs 4096 zip ++ "11111".toList),
      quoted (wcstombs 4096 phone), printTimestamp now, cCredit.toList, "50000.00".toList,
      quoted ("0.".toList ++ printPadded 4 discount), "-10.00".toList, "10.00".toList, "1".toList,
      "0".toList, quoted (wcstombs 4096 data)] }

def districtRow (i j : Int) : StateT σ Option (Printed District) := do
  let name ← getAString 6 10
  let street1 ← getAString 10 20
  let street2 ← getAString 10 20
  let city ← getAString 10 20
  let state ← getAString 2 2
  let zip ← getNString 4 4
  let tax ← getRandom 2001
  pure {
    row := {
      dId := j + 1
      dWId := i + 1
      dName := String.ofList name
      dStreet1 := String.ofList street1
      dStreet2 := String.ofList street2
      dCity := String.ofList city
      dState := String.ofList state
      dZip := String.ofList zip ++ "11111"
      dTax := tax / 10000
      dYtd := 30000
      dNextOId := 3001 }
    columns := [
      quoted (printInt (j + 1)), quoted (printInt (i + 1)), quoted (wcstombs 192 name),
      quoted (wcstombs 192 street1), quoted (wcstombs 192 street2), quoted (wcstombs 192 city),
      quoted (wcstombs 192 state), quoted (wcstombs 192 zip ++ "11111".toList),
      quoted ("0.".toList ++ printPadded 4 tax), "30000.00".toList, "3001".toList] }

def historyRow (now : Tm) (i j k : Int) : StateT σ Option (Printed History) := do
  let data ← getAString 12 24
  pure {
    row := {
      hCId := k + 1
      hCDId := j + 1
      hCWId := i + 1
      hDId := j + 1
      hWId := i + 1
      hDate := .currentTimestamp
      hAmount := 10
      hData := String.ofList data }
    columns := [
      quoted (printInt (k + 1)), quoted (printInt (j + 1)), quoted (printInt (i + 1)),
      quoted (printInt (j + 1)), quoted (printInt (i + 1)), printTimestamp now, "10.00".toList,
      quoted (wcstombs 256 data)] }

/-- A string of which one in ten contains the word, placed by a generator of its own. -/
def originalData : StateT σ Option (List Char) := do
  let data ← getAString 26 50
  let seed ← word
  aside (Source.seeded seed) do
    let percentage ← getPercentage
    if percentage < 1 / 10 then do
      let j ← getRandom ((data.length : Int) - 7)
      pure (Datagen.overwrite data j.toNat "ORIGINAL".toList)
    else pure data

def itemRow (i : Int) : StateT σ Option (Printed Item) := do
  let imId ← getRandom 10000
  let name ← getAString 14 24
  let price ← getRandom 9901
  let data ← originalData
  let iPrice : ℚ := (price + 100) / 100
  pure {
    row := {
      iId := i + 1
      iImId := imId + 1
      iName := String.ofList name
      iPrice
      iData := String.ofList data }
    columns := [
      quoted (printInt (i + 1)), quoted (printInt (imId + 1)), quoted (wcstombs 512 name),
      quoted (fixed 2 iPrice).toList, quoted (wcstombs 512 data)] }

def newOrderRow (i j k : Int) : Printed NewOrder where
  row := { noOId := k + 1, noDId := j + 1, noWId := i + 1 }
  columns := [quoted (printInt (k + 1)), quoted (printInt (j + 1)), quoted (printInt (i + 1))]

def stockRow (i j : Int) : StateT σ Option (Printed Stock) := do
  let quantity ← getRandom 91
  let dist01 ← getLString 24 24
  let dist02 ← getLString 24 24
  let dist03 ← getLString 24 24
  let dist04 ← getLString 24 24
  let dist05 ← getLString 24 24
  let dist06 ← getLString 24 24
  let dist07 ← getLString 24 24
  let dist08 ← getLString 24 24
  let dist09 ← getLString 24 24
  let dist10 ← getLString 24 24
  let data ← originalData
  pure {
    row := {
      sIId := j + 1
      sWId := i + 1
      sQuantity := quantity + 10
      sDist := #v[String.ofList dist01, String.ofList dist02, String.ofList dist03,
        String.ofList dist04, String.ofList dist05, String.ofList dist06, String.ofList dist07,
        String.ofList dist08, String.ofList dist09, String.ofList dist10]
      sYtd := 0
      sOrderCnt := 0
      sRemoteCnt := 0
      sData := String.ofList data }
    columns := [
      quoted (printInt (j + 1)), quoted (printInt (i + 1)), quoted (printInt (quantity + 10)),
      quoted (wcstombs 512 dist01), quoted (wcstombs 512 dist02), quoted (wcstombs 512 dist03),
      quoted (wcstombs 512 dist04), quoted (wcstombs 512 dist05), quoted (wcstombs 512 dist06),
      quoted (wcstombs 512 dist07), quoted (wcstombs 512 dist08), quoted (wcstombs 512 dist09),
      quoted (wcstombs 512 dist10), "0".toList, "0".toList, "0".toList,
      quoted (wcstombs 512 data)] }

def warehouseRow (i : Int) : StateT σ Option (Printed Warehouse) := do
  let name ← getAString 6 10
  let street1 ← getAString 10 20
  let street2 ← getAString 10 20
  let city ← getAString 10 20
  let state ← getAString 2 2
  let zip ← getNString 4 4
  let tax ← getRandom 2001
  pure {
    row := {
      wId := i + 1
      wName := String.ofList name
      wStreet1 := String.ofList street1
      wStreet2 := String.ofList street2
      wCity := String.ofList city
      wState := String.ofList state
      wZip := String.ofList zip ++ "11111"
      wTax := tax / 10000
      wYtd := 300000 }
    columns := [
      quoted (printInt (i + 1)), quoted (wcstombs 192 name), quoted (wcstombs 192 street1),
      quoted (wcstombs 192 street2), quoted (wcstombs 192 city), quoted (wcstombs 192 state),
      quoted (wcstombs 192 zip ++ "11111".toList), quoted ("0.".toList ++ printPadded 4 tax),
      "300000.00".toList] }

/-! ## Orders -/

def permutation : Nat → StateT σ Option (List Int)
  | 0 => pure [1]
  | n + 1 => do
    let list ← permutation n
    let iter ← getRandom (n + 2)
    pure (Datagen.insertAt (n + 2 : Int) iter.toNat list)

/-- The amount and its text. -/
def lineAmount (k : Int) : StateT σ Option (ℚ × List Char) :=
  if k < 2101 then pure (0, "0.00".toList) else do
    let r ← getRandom 999999
    let amount : ℚ := (r + 1) / 100
    pure (amount, quoted (fixed 6 amount).toList)

def orderLineRow (now : Tm) (items i j k l : Int) : StateT σ Option (Printed OrderLine) := do
  let iId ← getRandom items
  let amount ← lineAmount k
  let distInfo ← getLString 24 24
  pure {
    row := {
      olOId := k + 1
      olDId := j + 1
      olWId := i + 1
      olNumber := l + 1
      olIId := iId + 1
      olSupplyWId := i + 1
      olDeliveryD := if k < 2101 then some .currentTimestamp else none
      olQuantity := 5
      olAmount := amount.1
      olDistInfo := some (String.ofList distInfo) }
    columns := [
      quoted (printInt (k + 1)), quoted (printInt (j + 1)), quoted (printInt (i + 1)),
      quoted (printInt (l + 1)), quoted (printInt (iId + 1)), quoted (printInt (i + 1)),
      if k < 2101 then printTimestamp now else copyFormat.null, "5".toList, amount.2,
      quoted (wcstombs 256 distInfo)] }

def carrier (k : Int) : StateT σ Option (Option Int) :=
  if k < 2101 then do
    let c ← getRandom 10
    pure (some (c + 1))
  else pure none

def printCarrier : Option Int → List Char
  | some c => quoted (printInt c)
  | none => copyFormat.null

/-- The dates are those of the order, then of its lines. -/
def orderRow (now : Tm) (dates : Int → Tm) (items i j k cId : Int) :
    StateT σ Option (Printed Order × List (Printed OrderLine)) := do
  let carrierId ← carrier k
  let seed ← word
  aside (Source.seeded seed) do
    let r ← getRandom 11
    let olCnt := r + 5
    let lines ← forRange 0 olCnt fun l => single (orderLineRow (dates l) items i j k l)
    pure ({
      row := {
        oId := k + 1
        oDId := j + 1
        oWId := i + 1
        oCId := cId
        oEntryD := .currentTimestamp
        oCarrierId := carrierId
        oOlCnt := olCnt
        oAllLocal := 1 }
      columns := [
        quoted (printInt (k + 1)), quoted (printInt (j + 1)), quoted (printInt (i + 1)),
        quoted (printInt cId), printTimestamp now, printCarrier carrierId,
        quoted (printInt olCnt), "1".toList] }, lines)

def nextOrder (now : Tm) (dates : Int → Tm) (items i j : Int) (list : List Int) (k : Int) :
    StateT σ Option (List (Printed Order × List (Printed OrderLine))) :=
  match list[k.toNat]? with
  | none => failure
  | some cId => single (orderRow now dates items i j k cId)

/-! ## Files -/

section Files

variable (d : Datagen) (clock : Int → Int → Int → Tm) (lo hi : Int)

/-- The loop over the districts of the warehouses of a part. -/
def forDistricts {R : Type} (body : Int → Int → StateT σ Option (List R)) :
    StateT σ Option (List R) :=
  forRange lo hi fun i => forRange 0 DISTRICT_CARDINALITY fun j => body i j

def customers : StateT σ Option (List (Printed Customer)) :=
  forDistricts lo hi fun i j => forRange 0 d.customers fun k =>
    single (customerRow (clock i j k) i j k)

def districts : StateT σ Option (List (Printed District)) :=
  forDistricts lo hi fun i j => single (districtRow i j)

def history : StateT σ Option (List (Printed History)) :=
  forDistricts lo hi fun i j => forRange 0 d.customers fun k =>
    single (historyRow (clock i j k) i j k)

def items : StateT σ Option (List (Printed Item)) := forRange lo hi fun i => single (itemRow i)

def newOrders : StateT σ Option (List (Printed NewOrder)) :=
  forDistricts lo hi fun i j => forRange (d.orders - d.newOrders) d.orders fun k =>
    pure [newOrderRow i j k]

/-- The orders, each with its lines, which go to a second file. -/
def orders (dates : Int → Int → Int → Int → Tm) :
    StateT σ Option (List (Printed Order × List (Printed OrderLine))) :=
  forDistricts lo hi fun i j => do
    let list ← permutation (d.customers - 1).toNat
    forRange 0 d.orders fun k => nextOrder (clock i j k) (dates i j k) d.items i j list k

def stock : StateT σ Option (List (Printed Stock)) :=
  forRange lo hi fun i => forRange 0 d.items fun j => single (stockRow i j)

def warehouses : StateT σ Option (List (Printed Warehouse)) :=
  forRange lo hi fun i => single (warehouseRow i)

end Files

/-! ## The rows of the data generator -/

theorem customerLast_pcg64f (k : Int) : customerLast k = Datagen.customerLast k := rfl

theorem customerRow_pcg64f (now : Tm) (i j k : Int) :
    Printed.row <$> customerRow now i j k = Datagen.customerRow i j k := by
  simp only [customerRow, map_bind, map_pure]
  rfl

theorem districtRow_pcg64f (i j : Int) :
    Printed.row <$> districtRow i j = Datagen.districtRow i j := by
  simp only [districtRow, map_bind, map_pure]
  rfl

theorem historyRow_pcg64f (now : Tm) (i j k : Int) :
    Printed.row <$> historyRow now i j k = Datagen.historyRow i j k := by
  simp only [historyRow, map_bind, map_pure]
  rfl

theorem itemRow_pcg64f (i : Int) : Printed.row <$> itemRow i = Datagen.itemRow i := by
  simp only [itemRow, map_bind, map_pure]
  rfl

theorem stockRow_pcg64f (i j : Int) : Printed.row <$> stockRow i j = Datagen.stockRow i j := by
  simp only [stockRow, Datagen.stockRow, map_bind, map_pure, Vector.map_mk, List.map_toArray,
    List.map_cons, List.map_nil]
  rfl

theorem warehouseRow_pcg64f (i : Int) :
    Printed.row <$> warehouseRow i = Datagen.warehouseRow i := by
  simp only [warehouseRow, map_bind, map_pure]
  rfl

theorem lineAmount_pcg64f (k : Int) : Prod.fst <$> lineAmount k = Datagen.lineAmount k := by
  unfold lineAmount Datagen.lineAmount
  split
  · rw [map_pure]
  · simp only [map_bind, map_pure]
    rfl

theorem orderLineRow_pcg64f (now : Tm) (items i j k l : Int) :
    Printed.row <$> orderLineRow now items i j k l = Datagen.orderLineRow items i j k l := by
  simp only [orderLineRow, Datagen.orderLineRow, map_bind, map_pure, ← lineAmount_pcg64f,
    bind_map_left]
  rfl

theorem orderRow_pcg64f (now : Tm) (dates : Int → Tm) (items i j k cId : Int) :
    (fun p => (p.1.row, p.2.map Printed.row)) <$> orderRow now dates items i j k cId =
      Datagen.orderRow items i j k cId := by
  have round (l : Int) : (do
      let line ← Datagen.orderLineRow items i j k l
      pure [line] : Gen (List OrderLine)) = single (Datagen.orderLineRow items i j k l) := rfl
  have lines (hi : Int) :
      List.map Printed.row <$> (forRange 0 hi fun l =>
        single (orderLineRow (dates l) items i j k l)) =
      forRange 0 hi fun l => single (Datagen.orderLineRow items i j k l) := by
    rw [map_forRange]
    congr 1
    funext l
    simp only [single, map_bind, map_pure, List.map_singleton, ← orderLineRow_pcg64f (dates l),
      bind_map_left]
  simp only [orderRow, Datagen.orderRow, map_bind, map_aside, map_pure, round, ← lines,
    bind_map_left]
  rfl

end Drawn

end Dbt2
