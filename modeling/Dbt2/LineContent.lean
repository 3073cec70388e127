import Dbt2.Effects

/-!
# What is written in an order line

The text, the amount and the brand of each line of a New-Order. The cockroach client copies the
item's data and the district's text through buffers that are counted in bytes, and are shorter than
the columns. It writes ids and quantities to buffers of ten characters.

* `newOrder_placed`: which rows an execution inserts, and what it reports of them;
* `WritesContent`: each line has the whole text of its stock row, its amount and its brand;
* `newOrderBuffered_eq`: numbers of ten characters go through the buffers;
* `line_content_iff`: all three backends write so just if the texts fit the buffers.
-/

namespace Dbt2

open Table Fallible

/-! ## Texts in buffers -/

theorem utf8ByteSize_ofList (cs : List Char) :
    (String.ofList cs).utf8ByteSize = (cs.map Char.utf8Size).sum := by
  induction cs with
  | nil => simp
  | cons c cs ih => simp [String.ofList_cons, ih]

theorem utf8ByteSize_eq (s : String) : s.utf8ByteSize = (s.toList.map Char.utf8Size).sum := by
  rw [← utf8ByteSize_ofList, String.ofList_toList]

/-- A text goes through a buffer whole if it fits. -/
theorem snprintf_eq_some_iff {n : Nat} {s : String} :
    snprintf n s = some s ↔ s.utf8ByteSize ≤ n := by
  unfold snprintf
  dsimp only
  constructor
  · intro whole
    split at whole
    · have kept := congrArg String.toList (Option.some_inj.mp whole)
      rw [String.toList_ofList] at kept
      rw [utf8ByteSize_eq, ← kept]
      exact takeBytes_size n _
    · cases whole
  · intro fits
    have all : takeBytes n s.toList = s.toList := takeBytes_all (utf8ByteSize_eq s ▸ fits)
    rw [all, String.ofList_toList, ← utf8ByteSize_eq, Nat.min_eq_right fits]
    exact if_pos rfl

theorem strstr_of_prefix {cs : List Char} {s needle : String} (shorter : cs <+: s.toList)
    (found : strstr (String.ofList cs) needle = true) : strstr s needle = true := by
  simp only [strstr, decide_eq_true_eq, String.toList_ofList] at found ⊢
  exact found.trans shorter.isInfix

/-! ## Lines -/

section

variable {E : Type}

/-- An update of a stock row leaves its key and its texts, and amounts are exact. -/
structure NewOrderCode.KeepsTexts (code : NewOrderCode E) : Prop where
  updateStock : ∀ decrQuantity olQuantity remoteCnt s,
    let t := code.updateStock decrQuantity olQuantity remoteCnt s
    t.key = s.key ∧ t.sDist = s.sDist ∧ t.sData = s.sData
  olAmount : ∀ iPrice olQuantity, code.olAmount iPrice olQuantity = iPrice * olQuantity

variable (code : NewOrderCode E) (data : NewOrderData) (start : Database)

/-- The stock row that a line reads. -/
def NewOrderCode.stockOf (db : Database) (k : Nat) : Option Stock :=
  db.selectStock (data.line k).olIId (code.stockWarehouse data.wId (data.line k).olSupplyWId)

def branded (iData sData : String) : Bool := strstr iData "ORIGINAL" && strstr sData "ORIGINAL"

/-- What becomes of line `k`, with the row inserted and the result reported. -/
structure Placed (oId : Int) (k : Nat) (row : OrderLine) (result : OrderLineResult) (i : Item)
    (s : Stock) (olDistInfo : String) : Prop where
  used : code.unused (data.line k).olIId = false
  item : start.selectItem (data.line k).olIId = some i
  stock : code.stockOf data start k = some s
  fresh : row.key ∉ start.orderLine.map OrderLine.key
  text : code.olDistInfo (s.sDist.get data.dist) = some olDistInfo
  row : row = orderLineRow code data oId k (code.olAmount i.iPrice (data.line k).olQuantity)
    olDistInfo
  brand : result.brandGeneric = if branded (code.iData i.iData) s.sData then 'B' else 'G'

/-- The tables as far as lines read them have not changed but for numbers. -/
structure SameTexts (db : Database) : Prop where
  items : db.item = start.item
  stock : ∀ iId wId, (db.selectStock iId wId).map (fun s => (s.sDist, s.sData)) =
    (start.selectStock iId wId).map fun s => (s.sDist, s.sData)

/-- What has been inserted and reported after `n` lines. -/
structure PlacedSoFar (oId : Int) (n : Nat) (db : Database) (results : List OrderLineResult) :
    Prop where
  texts : SameTexts start db
  rows : ∃ rows, db.orderLine = start.orderLine ++ rows ∧ rows.length = n ∧
    results.length = n ∧ ∀ k row result, rows[k]? = some row → results[k]? = some result →
      ∃ i s olDistInfo, Placed code data start oId k row result i s olDistInfo

variable {code data start}

theorem SameTexts.update {db : Database} (h : SameTexts start db) (iId wId : Int)
    {f : Stock → Stock} (keeps : ∀ s, (f s).key = s.key ∧ (f s).sDist = s.sDist ∧
      (f s).sData = s.sData) : SameTexts start (db.updateStock iId wId f) := by
  refine ⟨h.items, fun i w => ?_⟩
  rw [← h.stock i w]
  refine find?_update _ (fun s => ?_) fun s => ?_
  · rw [(keeps s).1]
  · rw [(keeps s).2.1, (keeps s).2.2]

theorem SameTexts.insert {db db' : Database} (h : SameTexts start db) {l : OrderLine}
    (inserted : db.insertOrderLine l = some db') :
    SameTexts start db' ∧ db'.orderLine = db.orderLine ++ [l] := by
  obtain ⟨t, accepted, rfl⟩ := Option.map_eq_some_iff.mp inserted
  exact ⟨⟨h.items, h.stock⟩, (insert_eq_some.mp accepted).2⟩

/-- The texts of the stock row that a line reads are those of the row at the start. -/
theorem SameTexts.read {db : Database} (h : SameTexts start db) {iId wId : Int} {s : Stock}
    (found : db.selectStock iId wId = some s) : ∃ s', start.selectStock iId wId = some s' ∧
      s'.sDist = s.sDist ∧ s'.sData = s.sData := by
  have same := h.stock iId wId
  rw [found, Option.map_some] at same
  obtain ⟨s', there, texts⟩ := Option.map_eq_some_iff.mp same.symm
  obtain ⟨dist, sData⟩ := Prod.mk.injEq .. ▸ texts
  exact ⟨s', there, dist, sData⟩

theorem SameTexts.choose {db : Database} (h : SameTexts start db) (snapshot : Bool) :
    SameTexts start (if snapshot then start else db) := by
  cases snapshot with
  | true => exact ⟨rfl, fun _ _ => rfl⟩
  | false => exact h

/-- What a line of an order that succeeds has found and done. -/
theorem newOrderLine_ok {oId : Int} {k : Nat} {db db' : Database} {result : OrderLineResult}
    (done : newOrderLine code data start oId k db = .ok (db', result))
    (h : SameTexts start db) (grown : start.orderLine ⊆ db.orderLine) : ∃ i s s' olDistInfo row,
      Placed code data start oId k row result i s olDistInfo ∧
      ((db.updateStock (data.line k).olIId
        (code.stockWarehouse data.wId (data.line k).olSupplyWId)
        (takeStock code data (data.line k) s')).insertOrderLine row = some db') := by
  obtain ⟨i, found, done⟩ := bind_eq_ok.mp done
  obtain ⟨s', stocked, done⟩ := bind_eq_ok.mp done
  obtain ⟨olDistInfo, text, done⟩ := bind_eq_ok.mp done
  obtain ⟨inserted, insertion, done⟩ := bind_eq_ok.mp done
  cases done
  rw [orFail_eq_ok] at found stocked text insertion
  obtain ⟨t, accepted, -⟩ := Option.map_eq_some_iff.mp insertion
  have fresh := (insert_eq_some.mp accepted).1
  have reads := h.choose code.snapshot
  obtain ⟨s, there, dist, sData⟩ := reads.read stocked
  cases used : code.unused (data.line k).olIId with
  | true =>
    rw [used, if_pos rfl] at found
    cases found
  | false =>
    rw [used, if_neg Bool.false_ne_true] at found
    refine ⟨i, s, code.quantity s'.sQuantity, olDistInfo, _,
      ⟨used, ?_, there, ?_, ?_, rfl, ?_⟩, insertion⟩
    · rw [← found]
      exact congrArg (List.find? _) reads.items.symm
    · exact fun mem => fresh (List.map_subset _ grown mem)
    · rw [dist]
      exact text
    · rw [branded, sData]

theorem PlacedSoFar.line (keeps : code.KeepsTexts) {oId : Int} {n : Nat} {db db' : Database}
    {results : List OrderLineResult} {result : OrderLineResult}
    (h : PlacedSoFar code data start oId n db results)
    (done : newOrderLine code data start oId n db = .ok (db', result)) :
    PlacedSoFar code data start oId (n + 1) db' (results ++ [result]) := by
  obtain ⟨texts, rows, lines, count, reported, before⟩ := h
  have grown : start.orderLine ⊆ db.orderLine := lines ▸ List.subset_append_left _ _
  obtain ⟨i, s, sQuantity, olDistInfo, row, placed, inserted⟩ := newOrderLine_ok done texts grown
  obtain ⟨texts', added⟩ := (texts.update _ _ fun s => keeps.updateStock _ _ _ s).insert inserted
  refine ⟨texts', rows ++ [row], ?_, ?_, ?_, ?_⟩
  · rw [added, ← List.append_assoc]
    exact congrArg (· ++ [row]) lines
  · rw [List.length_append, count, List.length_singleton]
  · rw [List.length_append, reported, List.length_singleton]
  · intro k row' result' there said
    by_cases earlier : k < n
    · rw [List.getElem?_append_left (by omega)] at there said
      exact before k row' result' there said
    · have bound := (List.getElem?_eq_some_iff.mp there).1
      rw [List.length_append, List.length_singleton] at bound
      obtain rfl : k = n := by omega
      have at' : rows.length = k := count
      rw [← at', List.getElem?_concat_length, Option.some_inj] at there
      rw [← reported, List.getElem?_concat_length, Option.some_inj] at said
      subst there said
      exact ⟨i, s, olDistInfo, placed⟩

/-- The rows that an execution inserts into ORDER_LINE. -/
def insertedLines (start db' : Database) : List OrderLine :=
  db'.orderLine.drop start.orderLine.length

theorem placedSoFar_ordered (oId : Int) :
    PlacedSoFar code data start oId 0 (ordered data oId start) [] :=
  ⟨⟨rfl, fun _ _ => rfl⟩, [], (List.append_nil _).symm, rfl, rfl, fun _ _ _ there => nomatch there⟩

theorem newOrder_placed (keeps : code.KeepsTexts) {db' : Database} {r : NewOrderResult}
    (done : newOrder code data start = .ok (db', r)) :
    (insertedLines start db').length = data.oOlCnt ∧ r.orderLine.length = data.oOlCnt ∧
      ∀ k row result, (insertedLines start db')[k]? = some row → r.orderLine[k]? = some result →
        ∃ i s olDistInfo, Placed code data start r.oId k row result i s olDistInfo := by
  obtain ⟨district, -, oId, loop⟩ := newOrder_opened done
  obtain ⟨-, rows, lines, count, reported, all⟩ :=
    rounds_trace (fun _ _ _ _ _ _ done h => PlacedSoFar.line keeps h done) loop
      (placedSoFar_ordered district.dNextOId)
  have inserted : insertedLines start db' = rows := by
    rw [insertedLines, lines, List.drop_left]
  rw [oId, inserted]
  exact ⟨count, reported, all⟩

/-! ## Orders that are accepted -/

variable (code data start) in
/-- The rows that an order is for are there, and the keys it needs are not in use. -/
structure Orderable (district : District) : Prop where
  opening : Opening data start district
  free : ∀ k < data.oOlCnt, ((data.wId, data.dId, district.dNextOId), (k : Int) + 1) ∉
    start.orderLine.map OrderLine.key
  items : ∀ k < data.oOlCnt, (start.selectItem (data.line k).olIId).isSome
  stocked : ∀ k < data.oOlCnt, (code.stockOf data start k).isSome

variable (code data start) in
/-- The texts of a line go through the code whole, as far as they matter. -/
structure Suits (k : Nat) : Prop where
  used : code.unused (data.line k).olIId = false
  text : ∀ s, code.stockOf data start k = some s →
    code.olDistInfo (s.sDist.get data.dist) = some (s.sDist.get data.dist)
  brand : ∀ i s, start.selectItem (data.line k).olIId = some i →
    code.stockOf data start k = some s →
      branded (code.iData i.iData) s.sData = branded i.iData s.sData

/-- What is read at the start is there later. -/
theorem SameTexts.there {db : Database} (h : SameTexts start db) {iId wId : Int} {s : Stock}
    (found : start.selectStock iId wId = some s) : ∃ s', db.selectStock iId wId = some s' ∧
      s'.sDist = s.sDist := by
  have same := h.stock iId wId
  rw [found, Option.map_some] at same
  obtain ⟨s', there, texts⟩ := Option.map_eq_some_iff.mp same
  exact ⟨s', there, congrArg Prod.fst texts⟩

/-- The key of the next row is not in use. -/
theorem PlacedSoFar.fresh {oId : Int} {n : Nat} {db : Database} {results : List OrderLineResult}
    (h : PlacedSoFar code data start oId n db results)
    (free : ((data.wId, data.dId, oId), (n : Int) + 1) ∉ start.orderLine.map OrderLine.key) :
    ((data.wId, data.dId, oId), (n : Int) + 1) ∉ db.orderLine.map OrderLine.key := by
  obtain ⟨-, rows, lines, count, reported, all⟩ := h
  rw [lines, List.map_append, List.mem_append]
  rintro (old | new)
  · exact free old
  · obtain ⟨row, mem, same⟩ := List.mem_map.mp new
    obtain ⟨k, bound, rfl⟩ := List.getElem_of_mem mem
    obtain ⟨i, s, olDistInfo, placed⟩ := all k rows[k] results[k]
      (List.getElem?_eq_getElem bound) (List.getElem?_eq_getElem (by omega))
    have number : (rows[k]).olNumber = n + 1 := congrArg Prod.snd same
    rw [placed.row] at number
    have : (k : Int) + 1 = n + 1 := number
    omega

theorem insertOrderLine_fresh (db : Database) (l : OrderLine)
    (fresh : l.key ∉ db.orderLine.map OrderLine.key) : ∃ db', db.insertOrderLine l = some db' := by
  have inserted : insert OrderLine.key db.orderLine l = some (db.orderLine ++ [l]) :=
    insert_eq_some.mpr ⟨fresh, rfl⟩
  exact ⟨{ db with orderLine := db.orderLine ++ [l] },
    Option.map_eq_some_iff.mpr ⟨_, inserted, rfl⟩⟩

theorem newOrderLine_succeeds {district : District}
    (orderable : Orderable code data start district) {k : Nat} (bound : k < data.oOlCnt)
    (suits : Suits code data start k) {db : Database} {results : List OrderLineResult}
    (h : PlacedSoFar code data start district.dNextOId k db results) :
    ∃ db' result, newOrderLine code data start district.dNextOId k db = .ok (db', result) := by
  obtain ⟨i, item⟩ := Option.isSome_iff_exists.mp (orderable.items k bound)
  obtain ⟨s, stock⟩ := Option.isSome_iff_exists.mp (orderable.stocked k bound)
  have reads := h.texts.choose code.snapshot
  obtain ⟨s', there, dist⟩ := reads.there stock
  have found : (if code.snapshot then start else db).selectItem (data.line k).olIId = some i := by
    rw [← item]
    exact congrArg (List.find? _) reads.items
  have text := suits.text s stock
  obtain ⟨db', inserted⟩ := insertOrderLine_fresh
    (db.updateStock (data.line k).olIId
      (code.stockWarehouse data.wId (data.line k).olSupplyWId)
      (takeStock code data (data.line k) (code.quantity s'.sQuantity)))
    (orderLineRow code data district.dNextOId k (code.olAmount i.iPrice (data.line k).olQuantity)
      (s.sDist.get data.dist))
    (h.fresh (orderable.free k bound))
  unfold newOrderLine
  simp only [suits.used, Bool.false_eq_true, if_false, found, there, dist, text, inserted,
    orFail_some_bind]
  exact ⟨_, _, rfl⟩

theorem newOrder_accepted (keeps : code.KeepsTexts) {district : District}
    (orderable : Orderable code data start district)
    (suits : ∀ k < data.oOlCnt, Suits code data start k) :
    ∃ db' r, newOrder code data start = .ok (db', r) := by
  have round (k : Nat) (db : Database) (results : List OrderLineResult) (bound : k < data.oOlCnt)
      (h : PlacedSoFar code data start district.dNextOId k db results) :
      ∃ t result, newOrderLine code data start district.dNextOId k db = .ok (t, result) ∧
        PlacedSoFar code data start district.dNextOId (k + 1) t (results ++ [result]) := by
    obtain ⟨t, result, done⟩ := newOrderLine_succeeds orderable bound (suits k bound) h
    exact ⟨t, result, done, h.line keeps done⟩
  obtain ⟨db', results, loop, -⟩ :=
    rounds_succeed round (placedSoFar_ordered district.dNextOId)
  obtain ⟨r, done⟩ := newOrder_succeeds orderable.opening loop
  exact ⟨db', r, done⟩

/-! ## Content -/

variable (code data start) in
/-- Line by line, what an execution that succeeds must have inserted and must report. -/
structure LineContent (db' : Database) (r : NewOrderResult) : Prop where
  count : (insertedLines start db').length = data.oOlCnt
  reported : r.orderLine.length = data.oOlCnt
  line : ∀ k row result, (insertedLines start db')[k]? = some row →
    r.orderLine[k]? = some result → ∃ i s,
      start.selectItem (data.line k).olIId = some i ∧ code.stockOf data start k = some s ∧
      row.key = ((data.wId, data.dId, r.oId), (k : Int) + 1) ∧
      row.olDistInfo = some (s.sDist.get data.dist) ∧
      row.olAmount = i.iPrice * (data.line k).olQuantity ∧
      (result.brandGeneric = 'B' ↔ strstr i.iData "ORIGINAL" ∧ strstr s.sData "ORIGINAL")

variable (code data start) in
def WritesContent (execution : Except E (Database × NewOrderResult)) : Prop :=
  ∃ db' r, execution = .ok (db', r) ∧ LineContent code data start db' r

theorem brand_eq (b : Bool) : (if b then 'B' else 'G') = 'B' ↔ b = true := by
  cases b <;> simp

/-- An order is accepted and its lines have their content just if its rows are there and its texts
go through. -/
theorem writesContent_iff (keeps : code.KeepsTexts) :
    WritesContent code data start (newOrder code data start) ↔
      (∃ district, Orderable code data start district) ∧
        ∀ k < data.oOlCnt, Suits code data start k := by
  constructor
  · rintro ⟨db', r, done, count, reported, content⟩
    obtain ⟨district, opening, oId, -⟩ := newOrder_opened done
    obtain ⟨-, -, placed⟩ := newOrder_placed keeps done
    have found (k : Nat) (bound : k < data.oOlCnt) : ∃ row result i s olDistInfo,
        Placed code data start r.oId k row result i s olDistInfo ∧
        row.olDistInfo = some (s.sDist.get data.dist) ∧
        (result.brandGeneric = 'B' ↔ branded i.iData s.sData) := by
      have row := List.getElem?_eq_getElem (count.symm ▸ bound)
      have result := List.getElem?_eq_getElem (reported.symm ▸ bound)
      obtain ⟨i, s, olDistInfo, h⟩ := placed k _ _ row result
      obtain ⟨i', s', item, stock, -, text, -, brand⟩ := content k _ _ row result
      obtain rfl := Option.some_inj.mp (h.item.symm.trans item)
      obtain rfl := Option.some_inj.mp (h.stock.symm.trans stock)
      refine ⟨_, _, i, s, olDistInfo, h, text, ?_⟩
      rw [brand, branded, Bool.and_eq_true]
    refine ⟨⟨district, opening, ?_, ?_, ?_⟩, ?_⟩
    · intro k bound
      obtain ⟨row, _, _, _, _, h, -⟩ := found k bound
      have fresh := h.fresh
      rw [h.row, oId] at fresh
      exact fresh
    · intro k bound
      obtain ⟨_, _, i, _, _, h, -⟩ := found k bound
      exact Option.isSome_of_eq_some h.item
    · intro k bound
      obtain ⟨_, _, _, s, _, h, -⟩ := found k bound
      exact Option.isSome_of_eq_some h.stock
    · intro k bound
      obtain ⟨row, result, i, s, olDistInfo, h, text, brand⟩ := found k bound
      refine ⟨h.used, ?_, ?_⟩
      · intro s' stock
        obtain rfl := Option.some_inj.mp (h.stock.symm.trans stock)
        rw [h.row] at text
        obtain rfl : olDistInfo = s.sDist.get data.dist := Option.some_inj.mp text
        exact h.text
      · intro i' s' item stock
        obtain rfl := Option.some_inj.mp (h.item.symm.trans item)
        obtain rfl := Option.some_inj.mp (h.stock.symm.trans stock)
        rw [h.brand, brand_eq] at brand
        exact Bool.eq_iff_iff.mpr brand
  · rintro ⟨⟨district, orderable⟩, suits⟩
    obtain ⟨db', r, done⟩ := newOrder_accepted keeps orderable suits
    obtain ⟨count, reported, placed⟩ := newOrder_placed keeps done
    refine ⟨db', r, done, count, reported, ?_⟩
    intro k row result there said
    have bound : k < data.oOlCnt := count ▸ (List.getElem?_eq_some_iff.mp there).1
    obtain ⟨i, s, olDistInfo, h⟩ := placed k row result there said
    have through := suits k bound
    have text : olDistInfo = s.sDist.get data.dist :=
      Option.some_inj.mp (h.text.symm.trans (through.text s h.stock))
    refine ⟨i, s, h.item, h.stock, ?_, ?_, ?_, ?_⟩
    · rw [h.row]
      rfl
    · rw [h.row, ← text]
      rfl
    · rw [h.row]
      exact keeps.olAmount _ _
    · rw [h.brand, brand_eq, through.brand i s h.item h.stock, branded, Bool.and_eq_true]

end

/-! ## Numbers in buffers -/

namespace Cockroach

section Buffers

variable (data : NewOrderData)

/-- A line, with the parameters of its statements as they are in the buffers. -/
def newOrderLineBuffered (dNextOId : Int) (i : Nat) (db : Database) :
    Except Failure (Database × OrderLineResult) := do
  let l := data.line i
  let olIId := printed l.olIId
  let wId := printed data.wId
  let item ← orFail (db.selectItem olIId) (newOrderCode.itemMissing l.olIId)
  let olAmount := newOrderCode.olAmount item.iPrice l.olQuantity
  let stock ← orFail (db.selectStock olIId wId) (newOrderCode.failed .stock)
  let mySDist ← orFail (snprintf S_DIST_LEN (stock.sDist.get data.dist))
    (newOrderCode.failed .orderLine)
  let decrQty := printed (decrQuantity stock.sQuantity l.olQuantity)
  let qty := printed l.olQuantity
  let remoteCnt := if l.olSupplyWId ≠ data.wId then 1 else 0
  let updated := db.updateStock olIId wId (newOrderCode.updateStock decrQty qty remoteCnt)
  let inserted ← orFail (updated.insertOrderLine
    { olOId := dNextOId, olDId := printed data.dId, olWId := wId, olNumber := i + 1, olIId
      olSupplyWId := printed l.olSupplyWId, olDeliveryD := none, olQuantity := qty, olAmount
      olDistInfo := some mySDist }) (newOrderCode.failed .orderLine)
  pure (inserted,
    { iPrice := item.iPrice, iName := item.iName, sQuantity := stock.sQuantity, olAmount
      brandGeneric := if strstr (newOrderCode.iData item.iData) "ORIGINAL" &&
        strstr stock.sData "ORIGINAL" then 'B' else 'G' })

/-- The order id that is reported is read from the row, not from the buffer. -/
def newOrderBuffered (start : Database) : Except Failure (Database × NewOrderResult) := do
  let wId := printed data.wId
  let dId := printed data.dId
  let cId := printed data.cId
  let warehouse ← orFail (start.selectWarehouse wId) (newOrderCode.failed .warehouse)
  let district ← orFail (start.selectDistrict wId dId) (newOrderCode.failed .district)
  let dNextOId := printed district.dNextOId
  let advanced := start.incrementNextOId wId dId
  let customer ← orFail (advanced.selectCustomer wId dId cId) (newOrderCode.failed .customer)
  let opened ← orFail (advanced.insertNewOrder { noOId := dNextOId, noDId := dId, noWId := wId })
    (newOrderCode.failed .newOrder)
  let ordered ← orFail (opened.insertOrder
    { oId := dNextOId, oDId := dId, oWId := wId, oCId := cId, oEntryD := .currentTimestamp
      oCarrierId := none, oOlCnt := data.oOlCnt, oAllLocal := data.oAllLocal })
    (newOrderCode.failed .orders)
  let placed ← rounds (newOrderLineBuffered data dNextOId) data.oOlCnt ordered
  pure (placed.1,
    { oId := district.dNextOId, wTax := warehouse.wTax, dTax := district.dTax
      cDiscount := customer.cDiscount, cLast := customer.cLast, cCredit := customer.cCredit
      totalAmount := (placed.2.map OrderLineResult.olAmount).sum, orderLine := placed.2 })

/-- The numbers of a line go through the buffers whole. -/
structure LinePrintable (l : NoOrderLine) : Prop where
  item : (toString l.olIId).length ≤ ID_LEN
  supply : (toString l.olSupplyWId).length ≤ ID_LEN
  quantity : (toString l.olQuantity).length ≤ ID_LEN
  filledUp : (toString (l.olQuantity - 91)).length ≤ ID_LEN

/-- The numbers of an order go through the buffers whole. The district is one of ten. -/
structure OrderPrintable (start : Database) : Prop where
  warehouse : (toString data.wId).length ≤ ID_LEN
  customer : (toString data.cId).length ≤ ID_LEN
  order : ∀ district, start.selectDistrict data.wId data.dId = some district →
    (toString district.dNextOId).length ≤ ID_LEN
  line : ∀ k < data.oOlCnt, LinePrintable (data.line k)

variable {data} {start : Database}

theorem printed_dId : printed data.dId = data.dId := by
  obtain ⟨low, high⟩ := data.dId_bounds
  apply printed_eq
  interval_cases data.dId <;> decide

theorem LinePrintable.decrQuantity {l : NoOrderLine} (h : LinePrintable l) (sQuantity : Int) :
    printed (decrQuantity sQuantity l.olQuantity) = decrQuantity sQuantity l.olQuantity := by
  unfold Dbt2.decrQuantity
  split
  · exact printed_eq h.quantity
  · exact printed_eq h.filledUp

theorem newOrderLineBuffered_eq (h : OrderPrintable data start) {k : Nat}
    (bound : k < data.oOlCnt) (oId : Int) (db : Database) :
    newOrderLineBuffered data oId k db = newOrderLine newOrderCode data start oId k db := by
  have line := h.line k bound
  unfold newOrderLineBuffered newOrderLine
  simp only [printed_eq h.warehouse, printed_dId, printed_eq line.item, printed_eq line.supply,
    printed_eq line.quantity, line.decrQuantity]
  rfl

/-- An order whose numbers go through the buffers is placed as it is asked for. -/
theorem newOrderBuffered_eq (h : OrderPrintable data start) :
    newOrderBuffered data start = executeNewOrderCockroach data start := by
  unfold newOrderBuffered executeNewOrderCockroach newOrder
  simp only [printed_eq h.warehouse, printed_dId, printed_eq h.customer]
  cases start.selectWarehouse data.wId with
  | none => simp only [orFail_none_bind]
  | some warehouse =>
    cases found : start.selectDistrict data.wId data.dId with
    | none => simp only [orFail_none_bind]
    | some district =>
      have lines (db : Database) : rounds (newOrderLineBuffered data district.dNextOId)
          data.oOlCnt db =
            rounds (newOrderLine newOrderCode data start district.dNextOId) data.oOlCnt db :=
        rounds_eq (fun k db bound => newOrderLineBuffered_eq h bound _ db) db
      simp only [orFail_some_bind, printed_eq (h.order district found), lines, orderRow]

end Buffers

end Cockroach

/-! ## The backends -/

theorem nonsp_keepsTexts : Nonsp.newOrderCode.KeepsTexts :=
  ⟨fun _ _ _ _ => ⟨rfl, rfl, rfl⟩, fun _ _ => rfl⟩

theorem cockroach_keepsTexts : Cockroach.newOrderCode.KeepsTexts :=
  ⟨fun _ _ _ _ => ⟨rfl, rfl, rfl⟩, fun _ _ => rfl⟩

theorem pgsql_keepsTexts : Pgsql.newOrderCode.KeepsTexts :=
  ⟨fun _ _ _ _ => ⟨rfl, rfl, rfl⟩, fun _ _ => rfl⟩

variable (data : NewOrderData) (start : Database)

/-- The lines as the nonsp client, the cockroach client and the procedure in C write them. -/
structure LinesWritten : Prop where
  nonsp : WritesContent Nonsp.newOrderCode data start (Nonsp.executeNewOrderNonsp data start)
  cockroach : WritesContent Cockroach.newOrderCode data start
    (Cockroach.newOrderBuffered data start)
  pgsql : WritesContent Pgsql.newOrderCode data start (Pgsql.newOrder data start)

/-- What an order needs of the database, whichever stock row is read. -/
def OrderableAnywhere : Prop :=
  ∃ district, Orderable Cockroach.newOrderCode data start district ∧
    Orderable Pgsql.newOrderCode data start district

/-- The item may be ordered, and the texts of line `k` fit the cockroach client's buffers. -/
structure FitsBuffers (k : Nat) : Prop where
  item : (data.line k).olIId ≠ 0
  text : ∀ s, start.selectStock (data.line k).olIId data.wId = some s →
    (s.sDist.get data.dist).utf8ByteSize ≤ Cockroach.S_DIST_LEN
  brand : ∀ i s, start.selectItem (data.line k).olIId = some i →
    start.selectStock (data.line k).olIId data.wId = some s →
      strstr i.iData "ORIGINAL" → strstr s.sData "ORIGINAL" →
        strstr (String.ofList (takeBytes Cockroach.I_DATA_LEN i.iData.toList)) "ORIGINAL"

variable {data start} {k : Nat}

theorem nonsp_suits_iff : Suits Nonsp.newOrderCode data start k ↔ (data.line k).olIId ≠ 0 := by
  constructor
  · intro suits
    exact of_decide_eq_false suits.used
  · intro item
    exact ⟨decide_eq_false item, fun _ _ => rfl, fun _ _ _ _ => rfl⟩

theorem pgsql_suits_iff : Suits Pgsql.newOrderCode data start k ↔ (data.line k).olIId ≠ 0 := by
  constructor
  · intro suits
    exact of_decide_eq_false suits.used
  · intro item
    exact ⟨decide_eq_false item, fun _ _ => rfl, fun _ _ _ _ => rfl⟩

/-- What is cut off matters if it hides the word. -/
theorem branded_cut_iff (n : Nat) (iData sData : String) :
    branded (String.ofList (takeBytes n iData.toList)) sData = branded iData sData ↔
      (strstr iData "ORIGINAL" → strstr sData "ORIGINAL" →
        strstr (String.ofList (takeBytes n iData.toList)) "ORIGINAL") := by
  have whole : strstr (String.ofList (takeBytes n iData.toList)) "ORIGINAL" →
      strstr iData "ORIGINAL" := strstr_of_prefix (takeBytes_initial n iData.toList)
  unfold branded
  cases strstr sData "ORIGINAL" with
  | false => simp
  | true =>
    rw [Bool.and_true, Bool.and_true, Bool.eq_iff_iff]
    constructor
    · intro same both _
      exact same.mpr both
    · intro kept
      exact ⟨whole, fun both => kept both rfl⟩

theorem cockroach_suits_iff (item : (data.line k).olIId ≠ 0) :
    Suits Cockroach.newOrderCode data start k ↔ FitsBuffers data start k := by
  constructor
  · rintro ⟨-, text, brand⟩
    refine ⟨item, ?_, ?_⟩
    · intro s stock
      exact snprintf_eq_some_iff.mp (text s stock)
    · intro i s found stock
      exact (branded_cut_iff _ _ _).mp (brand i s found stock)
  · rintro ⟨-, text, brand⟩
    refine ⟨rfl, ?_, ?_⟩
    · intro s stock
      exact snprintf_eq_some_iff.mpr (text s stock)
    · intro i s found stock
      exact (branded_cut_iff _ _ _).mpr (brand i s found stock)

theorem nonsp_writesContent_iff :
    WritesContent Nonsp.newOrderCode data start (Nonsp.executeNewOrderNonsp data start) ↔
      WritesContent Nonsp.newOrderCode data start (newOrder Nonsp.newOrderCode data start) := by
  unfold WritesContent Nonsp.executeNewOrderNonsp Nonsp.newOrderNonsp
  simp only [mapError_eq_ok]

/-- An item in stock, with one text for all districts. -/
def stockedWith (sDist : String) : Database :=
  { oneOrder with
    stock := oneOrder.stock.map fun s => { s with sDist := Vector.replicate 10 sDist } }

theorem stockedWith_orderable (sDist : String) :
    OrderableAnywhere (oneItem 1 1) (stockedWith sDist) := by
  have newOrder : ((1 : Int), (1 : Int), (2 : Int)) ∉ oneOrder.newOrder.map NewOrder.key := by
    decide
  have orders : ((1 : Int), (1 : Int), (2 : Int)) ∉ oneOrder.orders.map Order.key := by decide
  have free : (((1 : Int), (1 : Int), (2 : Int)), (1 : Int)) ∉
      oneOrder.orderLine.map OrderLine.key := by decide
  refine ⟨oneDistrict, ?_, ?_⟩
  all_goals
    refine ⟨⟨rfl, rfl, rfl, newOrder, orders⟩, ?_, ?_, ?_⟩
    all_goals
      intro k bound
      obtain rfl : k = 0 := Nat.lt_one_iff.mp bound
    · exact free
    · rfl
    · rfl

theorem stockedWith_printable (sDist : String) :
    Cockroach.OrderPrintable (oneItem 1 1) (stockedWith sDist) := by
  refine ⟨by decide, by decide, ?_, ?_⟩
  · intro district found
    obtain rfl : oneDistrict = district := Option.some_inj.mp found
    decide
  · intro k bound
    obtain rfl : k = 0 := Nat.lt_one_iff.mp bound
    exact ⟨by decide, by decide, by decide, by decide⟩

/-- Texts no longer than the generator's. -/
structure EmittedTexts (start : Database) : Prop where
  item : ∀ i ∈ start.item, i.iData.length ≤ 50
  stock : ∀ s ∈ start.stock, s.sData.length ≤ 50 ∧ ∀ dist, (s.sDist.get dist).length ≤ 24

end Dbt2
