import Dbt2.Columns
import Dbt2.Partition

/-!
# Loading the data files

COPY reads the files of the data generator as the rows they were printed from.

* `Customer.load` and its siblings: the columns of a table as a row, if each has a value of the
  column's type;
* `Loads`: the columns of a printed row are those of the table, and give the row back;
* `files_load`: so do all files, whatever is drawn.
-/

namespace Dbt2

open Draws CopyText Column

/-! ## Tables -/

def Customer.load : List Column → Option Customer
  | [cId, cDId, cWId, cFirst, cMiddle, cLast, cStreet1, cStreet2, cCity, cState, cZip, cPhone,
      cSince, cCredit, cCreditLim, cDiscount, cBalance, cYtdPayment, cPaymentCnt, cDeliveryCnt,
      cData] => do
    pure {
      cId := ← int cId
      cDId := ← int cDId
      cWId := ← int cWId
      cFirst := ← text cFirst
      cMiddle := ← text cMiddle
      cLast := ← text cLast
      cStreet1 := ← text cStreet1
      cStreet2 := ← text cStreet2
      cCity := ← text cCity
      cState := ← text cState
      cZip := ← text cZip
      cPhone := ← text cPhone
      cSince := ← timestamp cSince
      cCredit := ← text cCredit
      cCreditLim := ← decimal cCreditLim
      cDiscount := ← decimal cDiscount
      cBalance := ← decimal cBalance
      cYtdPayment := ← decimal cYtdPayment
      cPaymentCnt := ← int cPaymentCnt
      cDeliveryCnt := ← int cDeliveryCnt
      cData := ← text cData }
  | _ => none

def District.load : List Column → Option District
  | [dId, dWId, dName, dStreet1, dStreet2, dCity, dState, dZip, dTax, dYtd, dNextOId] => do
    pure {
      dId := ← int dId
      dWId := ← int dWId
      dName := ← text dName
      dStreet1 := ← text dStreet1
      dStreet2 := ← text dStreet2
      dCity := ← text dCity
      dState := ← text dState
      dZip := ← text dZip
      dTax := ← decimal dTax
      dYtd := ← decimal dYtd
      dNextOId := ← int dNextOId }
  | _ => none

def History.load : List Column → Option History
  | [hCId, hCDId, hCWId, hDId, hWId, hDate, hAmount, hData] => do
    pure {
      hCId := ← int hCId
      hCDId := ← int hCDId
      hCWId := ← int hCWId
      hDId := ← int hDId
      hWId := ← int hWId
      hDate := ← timestamp hDate
      hAmount := ← decimal hAmount
      hData := ← text hData }
  | _ => none

def Item.load : List Column → Option Item
  | [iId, iImId, iName, iPrice, iData] => do
    pure {
      iId := ← int iId
      iImId := ← int iImId
      iName := ← text iName
      iPrice := ← decimal iPrice
      iData := ← text iData }
  | _ => none

def NewOrder.load : List Column → Option NewOrder
  | [noOId, noDId, noWId] => do
    pure { noOId := ← int noOId, noDId := ← int noDId, noWId := ← int noWId }
  | _ => none

def Order.load : List Column → Option Order
  | [oId, oDId, oWId, oCId, oEntryD, oCarrierId, oOlCnt, oAllLocal] => do
    pure {
      oId := ← int oId
      oDId := ← int oDId
      oWId := ← int oWId
      oCId := ← int oCId
      oEntryD := ← timestamp oEntryD
      oCarrierId := ← nullable int oCarrierId
      oOlCnt := ← int oOlCnt
      oAllLocal := ← int oAllLocal }
  | _ => none

def OrderLine.load : List Column → Option OrderLine
  | [olOId, olDId, olWId, olNumber, olIId, olSupplyWId, olDeliveryD, olQuantity, olAmount,
      olDistInfo] => do
    pure {
      olOId := ← int olOId
      olDId := ← int olDId
      olWId := ← int olWId
      olNumber := ← int olNumber
      olIId := ← int olIId
      olSupplyWId := ← int olSupplyWId
      olDeliveryD := ← nullable timestamp olDeliveryD
      olQuantity := ← int olQuantity
      olAmount := ← decimal olAmount
      olDistInfo := ← nullable text olDistInfo }
  | _ => none

def Stock.load : List Column → Option Stock
  | [sIId, sWId, sQuantity, sDist01, sDist02, sDist03, sDist04, sDist05, sDist06, sDist07, sDist08,
      sDist09, sDist10, sYtd, sOrderCnt, sRemoteCnt, sData] => do
    pure {
      sIId := ← int sIId
      sWId := ← int sWId
      sQuantity := ← int sQuantity
      sDist := #v[← text sDist01, ← text sDist02, ← text sDist03, ← text sDist04, ← text sDist05,
        ← text sDist06, ← text sDist07, ← text sDist08, ← text sDist09, ← text sDist10]
      sYtd := ← int sYtd
      sOrderCnt := ← int sOrderCnt
      sRemoteCnt := ← int sRemoteCnt
      sData := ← text sData }
  | _ => none

def Warehouse.load : List Column → Option Warehouse
  | [wId, wName, wStreet1, wStreet2, wCity, wState, wZip, wTax, wYtd] => do
    pure {
      wId := ← int wId
      wName := ← text wName
      wStreet1 := ← text wStreet1
      wStreet2 := ← text wStreet2
      wCity := ← text wCity
      wState := ← text wState
      wZip := ← text wZip
      wTax := ← decimal wTax
      wYtd := ← decimal wYtd }
  | _ => none

section Yields

variable {σ : Type} [Source σ]

/-! ## Drawn columns -/

theorem getAString_reads {x y : Int} {n : Nat} (some : 1 ≤ x) (order : x ≤ y) (fits : 3 * y < n) :
    Yields (Drawn.getAString x y : StateT σ Option (List Char)) fun s =>
      Reads text (quoted (wcstombs n s)) (String.ofList s) :=
  (getAString_yields (by omega) order).mono fun _ word =>
    reads_text word safe_aStringChar some fits

theorem getLString_reads {x y : Int} {n : Nat} (some : 1 ≤ x) (order : x ≤ y) (fits : 3 * y < n) :
    Yields (Drawn.getLString x y : StateT σ Option (List Char)) fun s =>
      Reads text (quoted (wcstombs n s)) (String.ofList s) :=
  (getLString_yields (by omega) order).mono fun _ word =>
    reads_text word safe_lStringChar some fits

theorem getNString_reads {x y : Int} {n : Nat} (some : 1 ≤ x) (order : x ≤ y) (fits : 3 * y < n) :
    Yields (Drawn.getNString x y : StateT σ Option (List Char)) fun s =>
      Reads text (quoted (wcstombs n s)) (String.ofList s) :=
  (getNString_yields (by omega) order).mono fun _ word =>
    reads_text word safe_nStringChar some fits

theorem zip_reads {n : Nat} (fits : 12 < n) :
    Yields (Drawn.getNString 4 4 : StateT σ Option (List Char)) fun s =>
      Reads text (quoted (wcstombs n s ++ "11111".toList)) (String.ofList s ++ "11111") :=
  (getNString_yields (by decide) (by decide)).mono fun _ word => reads_zip word fits

theorem rate_reads {max : Int} (pos : 0 < max) (fits : max ≤ 10000) :
    Yields (Drawn.getRandom max : StateT σ Option Int) fun r =>
      Reads decimal (quoted ("0.".toList ++ printPadded 4 r)) ((r : ℚ) / 10000) :=
  (Drawn.getRandom_yields pos).mono fun _ bounds => reads_rate bounds.1 (by omega)

theorem originalData_reads {n : Nat} (fits : 150 < n) :
    Yields (Drawn.originalData : StateT σ Option (List Char)) fun s =>
      Reads text (quoted (wcstombs n s)) (String.ofList s) :=
  originalData_yields.mono fun _ word => reads_text word safe_aStringChar (by decide) (by omega)

/-! ## Rows -/

/-- The columns of a printed row are those of the table, and give the row back. -/
structure Loads {R : Type} (load : List Column → Option R) (width : Nat) (p : Printed R) :
    Prop where
  width : p.columns.length = width
  chars : ∀ f ∈ p.columns, ∀ c ∈ f, safe c
  load : load (p.columns.map (value copyFormat)) = some p.row

theorem customerRow_yields (now : Tm) (i j : Int) {k : Int} (low : 0 ≤ k) :
    Yields (Drawn.customerRow now i j k : StateT σ Option (Printed Customer))
      (Loads Customer.load 21) := by
  refine (getAString_reads (n := 4096) (by decide) (by decide) (by decide)).bind
      fun _ cFirst =>
    (customerLast_yields low).bind fun last word =>
    (getAString_reads (n := 4096) (by decide) (by decide) (by decide)).bind fun _ cStreet1 =>
    (getAString_reads (n := 4096) (by decide) (by decide) (by decide)).bind fun _ cStreet2 =>
    (getAString_reads (n := 4096) (by decide) (by decide) (by decide)).bind fun _ cCity =>
    (getAString_reads (n := 4096) (by decide) (by decide) (by decide)).bind fun _ cState =>
    (zip_reads (n := 4096) (by decide)).bind fun _ cZip =>
    (getNString_reads (n := 4096) (by decide) (by decide) (by decide)).bind fun _ cPhone =>
    getPercentage_yields.bind fun credit _ =>
    (rate_reads (by decide) (by decide)).bind fun _ cDiscount =>
    (getAString_reads (n := 4096) (by decide) (by decide) (by decide)).bind fun _ cData =>
    Yields.pure ?_
  have cId := reads_int (k + 1)
  have cDId := reads_int (j + 1)
  have cWId := reads_int (i + 1)
  have cMiddle : Reads text "OE".toList "OE" := reads_literal _ (by decide) (by decide)
  have cLast : Reads text (quoted (wcstombs 4096 last.toList)) last := by
    have reads := reads_text word safe_lStringChar (n := 4096) (by decide) (by decide)
    rwa [String.ofList_toList] at reads
  have cSince := reads_timestamp now
  have cCredit : Reads text (if credit < 1 / 10 then "BC" else "GC").toList
      (if credit < 1 / 10 then "BC" else "GC") := by
    split
    · exact reads_literal _ (by decide) (by decide)
    · exact reads_literal _ (by decide) (by decide)
  have cCreditLim : Reads decimal "50000.00".toList 50000 :=
    reads_literal _ (by decide) (by decide +kernel)
  have cBalance : Reads decimal "-10.00".toList (-10) :=
    reads_literal _ (by decide) (by decide +kernel)
  have cYtdPayment : Reads decimal "10.00".toList 10 :=
    reads_literal _ (by decide) (by decide +kernel)
  have cPaymentCnt : Reads int "1".toList 1 := reads_literal _ (by decide) (by decide)
  have cDeliveryCnt : Reads int "0".toList 0 := reads_literal _ (by decide) (by decide)
  exact {
    width := rfl
    chars := by
      simp only [List.forall_mem_cons]
      exact ⟨cId.chars, cDId.chars, cWId.chars, cFirst.chars, cMiddle.chars, cLast.chars,
        cStreet1.chars, cStreet2.chars, cCity.chars, cState.chars, cZip.chars, cPhone.chars,
        cSince.chars, cCredit.chars, cCreditLim.chars, cDiscount.chars, cBalance.chars,
        cYtdPayment.chars, cPaymentCnt.chars, cDeliveryCnt.chars, cData.chars,
        List.forall_mem_nil _⟩
    load := by
      simp only [List.map_cons, List.map_nil, Customer.load, cId.read, cDId.read, cWId.read,
        cFirst.read, cMiddle.read, cLast.read, cStreet1.read, cStreet2.read, cCity.read,
        cState.read, cZip.read, cPhone.read, cSince.read, cCredit.read, cCreditLim.read,
        cDiscount.read, cBalance.read, cYtdPayment.read, cPaymentCnt.read, cDeliveryCnt.read,
        cData.read]
      rfl }

theorem districtRow_yields (i j : Int) :
    Yields (Drawn.districtRow i j : StateT σ Option (Printed District))
      (Loads District.load 11) := by
  refine (getAString_reads (n := 192) (by decide) (by decide) (by decide)).bind fun _ dName =>
    (getAString_reads (n := 192) (by decide) (by decide) (by decide)).bind fun _ dStreet1 =>
    (getAString_reads (n := 192) (by decide) (by decide) (by decide)).bind fun _ dStreet2 =>
    (getAString_reads (n := 192) (by decide) (by decide) (by decide)).bind fun _ dCity =>
    (getAString_reads (n := 192) (by decide) (by decide) (by decide)).bind fun _ dState =>
    (zip_reads (n := 192) (by decide)).bind fun _ dZip =>
    (rate_reads (by decide) (by decide)).bind fun _ dTax => Yields.pure ?_
  have dId := reads_int (j + 1)
  have dWId := reads_int (i + 1)
  have dYtd : Reads decimal "30000.00".toList 30000 :=
    reads_literal _ (by decide) (by decide +kernel)
  have dNextOId : Reads int "3001".toList 3001 := reads_literal _ (by decide) (by decide)
  exact {
    width := rfl
    chars := by
      simp only [List.forall_mem_cons]
      exact ⟨dId.chars, dWId.chars, dName.chars, dStreet1.chars, dStreet2.chars, dCity.chars,
        dState.chars, dZip.chars, dTax.chars, dYtd.chars, dNextOId.chars, List.forall_mem_nil _⟩
    load := by
      simp only [List.map_cons, List.map_nil, District.load, dId.read, dWId.read, dName.read,
        dStreet1.read, dStreet2.read, dCity.read, dState.read, dZip.read, dTax.read, dYtd.read,
        dNextOId.read]
      rfl }

theorem historyRow_yields (now : Tm) (i j k : Int) :
    Yields (Drawn.historyRow now i j k : StateT σ Option (Printed History))
      (Loads History.load 8) := by
  refine (getAString_reads (n := 256) (by decide) (by decide) (by decide)).bind fun _ hData =>
    Yields.pure ?_
  have hCId := reads_int (k + 1)
  have hDId := reads_int (j + 1)
  have hWId := reads_int (i + 1)
  have hDate := reads_timestamp now
  have hAmount : Reads decimal "10.00".toList 10 := reads_literal _ (by decide) (by decide +kernel)
  exact {
    width := rfl
    chars := by
      simp only [List.forall_mem_cons]
      exact ⟨hCId.chars, hDId.chars, hWId.chars, hDId.chars, hWId.chars, hDate.chars,
        hAmount.chars, hData.chars, List.forall_mem_nil _⟩
    load := by
      simp only [List.map_cons, List.map_nil, History.load, hCId.read, hDId.read, hWId.read,
        hDate.read, hAmount.read, hData.read]
      rfl }

theorem itemRow_yields (i : Int) :
    Yields (Drawn.itemRow i : StateT σ Option (Printed Item)) (Loads Item.load 5) := by
  refine (Draws.Yields.bind (Drawn.getRandom_yields (by decide))) fun imId _ =>
    (getAString_reads (n := 512) (by decide) (by decide) (by decide)).bind fun _ iName =>
    (Drawn.getRandom_yields (by decide)).bind fun price bounds =>
    (originalData_reads (n := 512) (by decide)).bind fun _ iData => Yields.pure ?_
  have iId := reads_int (i + 1)
  have iImId := reads_int (imId + 1)
  have iPrice : Reads decimal (quoted (fixed 2 ((price + 100) / 100)).toList)
      (((price : ℚ) + 100) / 100) := by
    obtain ⟨m, rfl⟩ := Int.eq_ofNat_of_zero_le bounds.1
    refine reads_fixed (m := m + 100) (by decide) ?_
    push_cast
    norm_num
  exact {
    width := rfl
    chars := by
      simp only [List.forall_mem_cons]
      exact ⟨iId.chars, iImId.chars, iName.chars, iPrice.chars, iData.chars, List.forall_mem_nil _⟩
    load := by
      simp only [List.map_cons, List.map_nil, Item.load, iId.read, iImId.read, iName.read,
        iPrice.read, iData.read]
      rfl }

theorem newOrderRow_loads (i j k : Int) : Loads NewOrder.load 3 (Drawn.newOrderRow i j k) := by
  have noOId := reads_int (k + 1)
  have noDId := reads_int (j + 1)
  have noWId := reads_int (i + 1)
  exact {
    width := rfl
    chars := by
      simp only [Drawn.newOrderRow, List.forall_mem_cons]
      exact ⟨noOId.chars, noDId.chars, noWId.chars, List.forall_mem_nil _⟩
    load := by
      simp only [Drawn.newOrderRow, List.map_cons, List.map_nil, NewOrder.load, noOId.read,
        noDId.read, noWId.read]
      rfl }

theorem stockRow_yields (i j : Int) :
    Yields (Drawn.stockRow i j : StateT σ Option (Printed Stock)) (Loads Stock.load 17) := by
  refine (Drawn.getRandom_yields (by decide)).bind fun quantity _ =>
    (getLString_reads (n := 512) (by decide) (by decide) (by decide)).bind fun _ sDist01 =>
    (getLString_reads (n := 512) (by decide) (by decide) (by decide)).bind fun _ sDist02 =>
    (getLString_reads (n := 512) (by decide) (by decide) (by decide)).bind fun _ sDist03 =>
    (getLString_reads (n := 512) (by decide) (by decide) (by decide)).bind fun _ sDist04 =>
    (getLString_reads (n := 512) (by decide) (by decide) (by decide)).bind fun _ sDist05 =>
    (getLString_reads (n := 512) (by decide) (by decide) (by decide)).bind fun _ sDist06 =>
    (getLString_reads (n := 512) (by decide) (by decide) (by decide)).bind fun _ sDist07 =>
    (getLString_reads (n := 512) (by decide) (by decide) (by decide)).bind fun _ sDist08 =>
    (getLString_reads (n := 512) (by decide) (by decide) (by decide)).bind fun _ sDist09 =>
    (getLString_reads (n := 512) (by decide) (by decide) (by decide)).bind fun _ sDist10 =>
    (originalData_reads (n := 512) (by decide)).bind fun _ sData => Yields.pure ?_
  have sIId := reads_int (j + 1)
  have sWId := reads_int (i + 1)
  have sQuantity := reads_int (quantity + 10)
  have count : Reads int "0".toList 0 := reads_literal _ (by decide) (by decide)
  exact {
    width := rfl
    chars := by
      simp only [List.forall_mem_cons]
      exact ⟨sIId.chars, sWId.chars, sQuantity.chars, sDist01.chars, sDist02.chars, sDist03.chars,
        sDist04.chars, sDist05.chars, sDist06.chars, sDist07.chars, sDist08.chars, sDist09.chars,
        sDist10.chars, count.chars, count.chars, count.chars, sData.chars, List.forall_mem_nil _⟩
    load := by
      simp only [List.map_cons, List.map_nil, Stock.load, sIId.read, sWId.read, sQuantity.read,
        sDist01.read, sDist02.read, sDist03.read, sDist04.read, sDist05.read, sDist06.read,
        sDist07.read, sDist08.read, sDist09.read, sDist10.read, count.read, sData.read]
      rfl }

theorem warehouseRow_yields (i : Int) :
    Yields (Drawn.warehouseRow i : StateT σ Option (Printed Warehouse))
      (Loads Warehouse.load 9) := by
  refine (getAString_reads (n := 192) (by decide) (by decide) (by decide)).bind fun _ wName =>
    (getAString_reads (n := 192) (by decide) (by decide) (by decide)).bind fun _ wStreet1 =>
    (getAString_reads (n := 192) (by decide) (by decide) (by decide)).bind fun _ wStreet2 =>
    (getAString_reads (n := 192) (by decide) (by decide) (by decide)).bind fun _ wCity =>
    (getAString_reads (n := 192) (by decide) (by decide) (by decide)).bind fun _ wState =>
    (zip_reads (n := 192) (by decide)).bind fun _ wZip =>
    (rate_reads (by decide) (by decide)).bind fun _ wTax => Yields.pure ?_
  have wId := reads_int (i + 1)
  have wYtd : Reads decimal "300000.00".toList 300000 :=
    reads_literal _ (by decide) (by decide +kernel)
  exact {
    width := rfl
    chars := by
      simp only [List.forall_mem_cons]
      exact ⟨wId.chars, wName.chars, wStreet1.chars, wStreet2.chars, wCity.chars, wState.chars,
        wZip.chars, wTax.chars, wYtd.chars, List.forall_mem_nil _⟩
    load := by
      simp only [List.map_cons, List.map_nil, Warehouse.load, wId.read, wName.read, wStreet1.read,
        wStreet2.read, wCity.read, wState.read, wZip.read, wTax.read, wYtd.read]
      rfl }

theorem lineAmount_yields (k : Int) :
    Yields (Drawn.lineAmount k : StateT σ Option (ℚ × List Char)) fun amount =>
      Reads decimal amount.2 amount.1 := by
  unfold Drawn.lineAmount
  split
  · exact Yields.pure (reads_literal _ (by decide) (by decide +kernel))
  · refine (Drawn.getRandom_yields (by decide)).bind fun r bounds => Yields.pure ?_
    obtain ⟨m, rfl⟩ := Int.eq_ofNat_of_zero_le bounds.1
    refine reads_fixed (m := (m + 1) * 10 ^ 4) (by decide) ?_
    push_cast
    ring

theorem getRandom_returns (max : Int) :
    Yields (Drawn.getRandom max : StateT σ Option Int) fun _ => True :=
  word_yields.bind fun _ _ => Yields.pure trivial

theorem orderLineRow_yields (now : Tm) (items i j k l : Int) :
    Yields (Drawn.orderLineRow now items i j k l : StateT σ Option (Printed OrderLine))
      (Loads OrderLine.load 10) := by
  refine (getRandom_returns items).bind fun iId _ => (lineAmount_yields k).bind
    fun amount olAmount => (getLString_reads (n := 256) (by decide) (by decide) (by decide)).bind
      fun distInfo info => Yields.pure ?_
  have olOId := reads_int (k + 1)
  have olDId := reads_int (j + 1)
  have olWId := reads_int (i + 1)
  have olNumber := reads_int (l + 1)
  have olIId := reads_int (iId + 1)
  have olDeliveryD : Reads (nullable timestamp)
      (if k < 2101 then printTimestamp now else copyFormat.null)
      (if k < 2101 then some .currentTimestamp else none) := by
    split
    · exact (reads_timestamp now).nullable rfl
    · exact reads_null timestamp
  have olQuantity : Reads int "5".toList 5 := reads_literal _ (by decide) (by decide)
  have olDistInfo := info.nullable rfl
  exact {
    width := rfl
    chars := by
      simp only [List.forall_mem_cons]
      exact ⟨olOId.chars, olDId.chars, olWId.chars, olNumber.chars, olIId.chars, olWId.chars,
        olDeliveryD.chars, olQuantity.chars, olAmount.chars, olDistInfo.chars,
        List.forall_mem_nil _⟩
    load := by
      simp only [List.map_cons, List.map_nil, OrderLine.load, olOId.read, olDId.read, olWId.read,
        olNumber.read, olIId.read, olDeliveryD.read, olQuantity.read, olAmount.read,
        olDistInfo.read]
      rfl }

theorem carrier_yields (k : Int) :
    Yields (Drawn.carrier k : StateT σ Option (Option Int)) fun c =>
      Reads (nullable int) (Drawn.printCarrier c) c := by
  unfold Drawn.carrier
  split
  · exact (getRandom_returns 10).bind fun c _ => Yields.pure ((reads_int (c + 1)).nullable rfl)
  · exact Yields.pure (reads_null int)

/-- The rows of an order and of its lines. -/
def OrderLoads (p : Printed Order × List (Printed OrderLine)) : Prop :=
  Loads Order.load 8 p.1 ∧ ∀ l ∈ p.2, Loads OrderLine.load 10 l

theorem orderRow_yields (now : Tm) (dates : Int → Tm) (items i j k cId : Int) :
    Yields (Drawn.orderRow now dates items i j k cId : StateT σ Option _) OrderLoads := by
  refine (carrier_yields k).bind fun carrierId oCarrierId => word_yields.bind fun seed _ =>
    Yields.aside ((getRandom_returns 11).bind fun r _ => (forRange_yields_all fun l _ _ =>
      (orderLineRow_yields (dates l) items i j k l).single).bind fun lines each => ?_) _
  have oId := reads_int (k + 1)
  have oDId := reads_int (j + 1)
  have oWId := reads_int (i + 1)
  have oCId := reads_int cId
  have oEntryD := reads_timestamp now
  have oOlCnt := reads_int (r + 5)
  have oAllLocal : Reads int "1".toList 1 := reads_literal _ (by decide) (by decide)
  refine Yields.pure ⟨?_, each⟩
  exact {
    width := rfl
    chars := by
      simp only [List.forall_mem_cons]
      exact ⟨oId.chars, oDId.chars, oWId.chars, oCId.chars, oEntryD.chars, oCarrierId.chars,
        oOlCnt.chars, oAllLocal.chars, List.forall_mem_nil _⟩
    load := by
      simp only [List.map_cons, List.map_nil, Order.load, oId.read, oDId.read, oWId.read,
        oCId.read, oEntryD.read, oCarrierId.read, oOlCnt.read, oAllLocal.read]
      rfl }

theorem nextOrder_emits (now : Tm) (dates : Int → Tm) (items i j : Int) (list : List Int)
    (k : Int) : Emits (Drawn.nextOrder now dates items i j list k : StateT σ Option _) fun out =>
      ∀ p ∈ out, OrderLoads p := by
  unfold Drawn.nextOrder
  split
  · exact Emits.failure
  · exact (orderRow_yields now dates items i j k _).emits.single

theorem nextOrder_yields (now : Tm) (dates : Int → Tm) (items i j : Int) {list : List Int}
    {k : Int} (inside : k.toNat < list.length) :
    Yields (Drawn.nextOrder now dates items i j list k : StateT σ Option _) fun out =>
      ∀ p ∈ out, OrderLoads p := by
  rw [Drawn.nextOrder, List.getElem?_eq_getElem inside]
  exact (orderRow_yields now dates items i j k _).single

theorem permutation_yields (n : Nat) :
    Yields (Drawn.permutation n : StateT σ Option (List Int)) fun list => list.length = n + 1 := by
  induction n with
  | zero => exact Yields.pure rfl
  | succ n ih =>
    refine ih.bind fun list length => (getRandom_returns _).bind fun iter _ => Yields.pure ?_
    rw [Datagen.insertAt_length, length]

end Yields

/-! ## Files -/

/-- Every row of the file has as many columns as the table, COPY reads the columns as printed, and
what it reads is the row. The file as a whole is read row by row. -/
structure FileLoads {R : Type} (load : List Column → Option R) (width : Nat)
    (table : List (Printed R)) : Prop where
  width : ∀ p ∈ table, ((row copyFormat p.columns).splitOn copyFormat.delimiter).length = width
  columns : ∀ p ∈ table,
    decodeRow copyFormat (row copyFormat p.columns) = p.columns.map (value copyFormat)
  loaded : ∀ p ∈ table, load (decodeRow copyFormat (row copyFormat p.columns)) = some p.row
  file : (decode copyFormat (fileText table)).map load = table.map fun p => some p.row

theorem fileLoads {R : Type} {load : List Column → Option R} {width : Nat}
    {table : List (Printed R)} (some : 0 < width) (each : ∀ p ∈ table, Loads load width p) :
    FileLoads load width table := by
  have plain (p : Printed R) (mem : p ∈ table) : ∀ f ∈ p.columns, Plain copyFormat f :=
    fun f column => plain_of_safe ((each p mem).chars f column)
  have columns (p : Printed R) (mem : p ∈ table) : p.columns ≠ [] :=
    List.ne_nil_of_length_pos ((each p mem).width ▸ some)
  have decoded (p : Printed R) (mem : p ∈ table) :
      decodeRow copyFormat (row copyFormat p.columns) = p.columns.map (value copyFormat) :=
    decodeRow_row (by decide) (plain p mem) (columns p mem)
  refine ⟨fun p mem => ?_, decoded, fun p mem => ?_, ?_⟩
  · rw [splitOn_row (plain p mem) (columns p mem)]
    exact (each p mem).width
  · rw [decoded p mem]
    exact (each p mem).load
  · have text : fileText table = (table.map Printed.columns).flatMap (line copyFormat) := by
      rw [List.flatMap_map]
      rfl
    rw [text, decode_lines (by decide) (by decide), List.map_map, List.map_map]
    · exact List.map_congr_left fun p mem => (each p mem).load
    · intro r mem
      obtain ⟨p, inside, rfl⟩ := List.mem_map.mp mem
      exact plain p inside
    · intro r mem
      obtain ⟨p, inside, rfl⟩ := List.mem_map.mp mem
      exact columns p inside

/-- A string within its bounds and without special characters. -/
structure GeneratedString (x y : Int) (s : List Char) : Prop where
  least : x ≤ s.length
  most : s.length ≤ y
  plain : Plain copyFormat s
  notNull : 1 ≤ x → s ≠ copyFormat.null

theorem generatedString {table s : List Char} {x y : Int} (word : Drawn.Word table x y s)
    (chars : ∀ c ∈ table, safe c) : GeneratedString x y s where
  least := word.least
  most := word.most
  plain := plain_of_safe fun c mem => chars c (word.table c mem)
  notNull some := List.ne_nil_of_length_pos (by have := word.least; omega)

/-! ## The files of the data generator -/

theorem forDistricts_yields {σ R : Type} {Q : R → Prop} {lo hi : Int}
    {body : Int → Int → StateT σ Option (List R)}
    (each : ∀ i j, Yields (body i j) fun out => ∀ r ∈ out, Q r) :
    Yields (Drawn.forDistricts lo hi body) fun out => ∀ r ∈ out, Q r :=
  forRange_yields_all fun i _ _ => forRange_yields_all fun j _ _ => each i j

theorem forDistricts_emits {σ R : Type} {Q : R → Prop} {lo hi : Int}
    {body : Int → Int → StateT σ Option (List R)}
    (each : ∀ i j, Emits (body i j) fun out => ∀ r ∈ out, Q r) :
    Emits (Drawn.forDistricts lo hi body) fun out => ∀ r ∈ out, Q r :=
  forRange_emits_all fun i _ _ => forRange_emits_all fun j _ _ => each i j

theorem newOrders_yields {σ : Type} (d : Datagen) (lo hi : Int) :
    Yields (Drawn.newOrders d lo hi : StateT σ Option _) (FileLoads NewOrder.load 3) :=
  (forDistricts_yields fun i j => forRange_yields_all fun k _ _ =>
    Yields.pure (List.forall_mem_singleton.mpr (newOrderRow_loads i j k))).mono
      fun _ => fileLoads (by decide)

/-- The file of the orders and that of their lines. -/
def OrderFilesLoad (out : List (Printed Order × List (Printed OrderLine))) : Prop :=
  FileLoads Order.load 8 (out.map Prod.fst) ∧
    FileLoads OrderLine.load 10 (out.flatMap Prod.snd)

theorem orderFilesLoad {out : List (Printed Order × List (Printed OrderLine))}
    (each : ∀ p ∈ out, OrderLoads p) : OrderFilesLoad out := by
  refine ⟨fileLoads (by decide) (List.forall_mem_map.mpr fun p mem => (each p mem).1),
    fileLoads (by decide) fun l mem => ?_⟩
  obtain ⟨p, order, line⟩ := List.mem_flatMap.mp mem
  exact (each p order).2 l line

section

variable {σ : Type} [Source σ] (d : Datagen) (clock : Int → Int → Int → Tm) (lo hi : Int)

theorem customers_yields : Yields (Drawn.customers d clock lo hi : StateT σ Option _)
    (FileLoads Customer.load 21) :=
  (forDistricts_yields fun i j => forRange_yields_all fun _ low _ =>
    (customerRow_yields _ i j low).single).mono fun _ => fileLoads (by decide)

theorem districts_yields : Yields (Drawn.districts lo hi : StateT σ Option _)
    (FileLoads District.load 11) :=
  (forDistricts_yields fun i j => (districtRow_yields i j).single).mono
    fun _ => fileLoads (by decide)

theorem history_yields : Yields (Drawn.history d clock lo hi : StateT σ Option _)
    (FileLoads History.load 8) :=
  (forDistricts_yields fun i j => forRange_yields_all fun k _ _ =>
    (historyRow_yields _ i j k).single).mono fun _ => fileLoads (by decide)

theorem items_yields : Yields (Drawn.items lo hi : StateT σ Option _) (FileLoads Item.load 5) :=
  (forRange_yields_all fun i _ _ => (itemRow_yields i).single).mono fun _ => fileLoads (by decide)

theorem orders_emits (dates : Int → Int → Int → Int → Tm) :
    Emits (Drawn.orders d clock lo hi dates : StateT σ Option _) OrderFilesLoad :=
  (forDistricts_emits fun i j => (Emits.trivial _).bind fun list _ =>
    forRange_emits_all fun k _ _ => nextOrder_emits _ _ d.items i j list k).mono
      fun _ => orderFilesLoad

/-- With no more orders than customers, the list of a district is never run through. -/
theorem orders_yields (dates : Int → Int → Int → Int → Tm)
    (enough : d.orders ≤ max d.customers 1) :
    Yields (Drawn.orders d clock lo hi dates : StateT σ Option _) OrderFilesLoad :=
  (forDistricts_yields fun i j => (permutation_yields _).bind fun list length =>
    forRange_yields_all fun k _ _ => nextOrder_yields _ _ d.items i j (by omega)).mono
      fun _ => orderFilesLoad

theorem stock_yields : Yields (Drawn.stock d lo hi : StateT σ Option _) (FileLoads Stock.load 17) :=
  (forRange_yields_all fun i _ _ => forRange_yields_all fun j _ _ =>
    (stockRow_yields i j).single).mono fun _ => fileLoads (by decide)

theorem warehouses_yields : Yields (Drawn.warehouses lo hi : StateT σ Option _)
    (FileLoads Warehouse.load 9) :=
  (forRange_yields_all fun i _ _ => (warehouseRow_yields i).single).mono
    fun _ => fileLoads (by decide)

end

/-- Whatever is drawn, every file that is written is loaded as the rows it was written from; the
strings are within their bounds and have no special character; and the word in the data of items
and stock is placed as a whole, in a string of the same length. -/
theorem files_load :
    (∀ (σ : Type) [Source σ] (d : Datagen) (clock : Int → Int → Int → Tm)
        (dates : Int → Int → Int → Int → Tm) (lo hi : Int),
      Yields (Drawn.items lo hi : StateT σ Option _) (FileLoads Item.load 5) ∧
      Yields (Drawn.warehouses lo hi : StateT σ Option _) (FileLoads Warehouse.load 9) ∧
      Yields (Drawn.stock d lo hi : StateT σ Option _) (FileLoads Stock.load 17) ∧
      Yields (Drawn.districts lo hi : StateT σ Option _) (FileLoads District.load 11) ∧
      Yields (Drawn.customers d clock lo hi : StateT σ Option _) (FileLoads Customer.load 21) ∧
      Yields (Drawn.history d clock lo hi : StateT σ Option _) (FileLoads History.load 8) ∧
      Yields (Drawn.newOrders d lo hi : StateT σ Option _) (FileLoads NewOrder.load 3) ∧
      Emits (Drawn.orders d clock lo hi dates : StateT σ Option _) OrderFilesLoad ∧
      (d.orders ≤ max d.customers 1 →
        Yields (Drawn.orders d clock lo hi dates : StateT σ Option _) OrderFilesLoad)) ∧
    (∀ (σ : Type) [Source σ] (x y : Int), 0 ≤ x → x ≤ y →
      Yields (Drawn.getAString x y : StateT σ Option _) (GeneratedString x y) ∧
      Yields (Drawn.getLString x y : StateT σ Option _) (GeneratedString x y) ∧
      Yields (Drawn.getNString x y : StateT σ Option _) (GeneratedString x y)) ∧
    ∀ (σ : Type) [Source σ] (s : σ), ∃ data u, Drawn.getAString 26 50 s = some (data, u) ∧
      ∃ result t, Drawn.originalData s = some (result, t) ∧ Overlaid data result ∧
        result.length = data.length := by
  refine ⟨fun σ _ d clock dates lo hi => ⟨items_yields lo hi, warehouses_yields lo hi,
    stock_yields d lo hi, districts_yields lo hi, customers_yields d clock lo hi,
    history_yields d clock lo hi, newOrders_yields d lo hi, orders_emits d clock lo hi dates,
    orders_yields d clock lo hi dates⟩, fun σ _ x y nonneg order => ⟨?_, ?_, ?_⟩, fun σ _ s => ?_⟩
  · exact (getAString_yields nonneg order).mono fun _ word => generatedString word safe_aStringChar
  · exact (getLString_yields nonneg order).mono fun _ word => generatedString word safe_lStringChar
  · exact (getNString_yields nonneg order).mono fun _ word => generatedString word safe_nStringChar
  · obtain ⟨data, u, drawn, -, result, t, returned, overlaid⟩ := originalData_overlaid s
    exact ⟨data, u, drawn, result, t, returned, overlaid, overlaid.length⟩

/-- Names, and the orders of the default numbers of rows. -/
theorem files_load_default :
    Yields (Drawn.getAString 6 10 : Gen (List Char)) (GeneratedString 6 10) ∧
      Yields (Drawn.orders { warehouses := 1, seed := 0 } (fun _ _ _ => ⟨126, 0, 1, 0, 0, 0⟩) 0 1
        (fun _ _ _ _ => ⟨126, 0, 1, 0, 0, 0⟩) : Gen _) OrderFilesLoad :=
  ⟨(files_load.2.1 Pcg64f 6 10 (by decide) (by decide)).1,
    (files_load.1 Pcg64f _ _ _ 0 1).2.2.2.2.2.2.2.2 (by decide)⟩

end Dbt2
