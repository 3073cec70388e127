import Dbt2.Procedures
import Dbt2.NewOrderAgreement

/-!
# What a New-Order does, in phases

The four procedures differ in how they read a row before they change it, but all go through the
same phases.

* `NewOrderPhase`: how far an execution has come;
* `newOrderProtocol`: what it may do in each phase;
* `newOrder_follows`: the four procedures keep to it, and what has been done when they end.
-/

namespace Dbt2

open Locking Prog

/-- Where an execution is within a line, with the stock row as it was read. -/
inductive LineStage where
  | fresh
  | priced
  | stocked (s : Option Stock)
  | taken

/-- Where an execution is, with the order id that it has read. -/
inductive NewOrderPhase where
  | idle
  | locked (oId : Int)
  | advanced (oId : Int)
  | opened (oId : Int)
  | line (oId : Int) (k : Nat) (stage : LineStage)

namespace NewOrderPhase

/-! ## Moves -/

def afterLock (r : Option District) (p : NewOrderPhase) : NewOrderPhase :=
  r.elim p fun x => .locked x.dNextOId

/-- A row that was locked is as it was read then. -/
def afterAdvance (r : Option District) : NewOrderPhase → NewOrderPhase
  | .locked oId => .advanced oId
  | p => r.elim p fun x => .advanced x.dNextOId

def afterNewOrder : NewOrderPhase → NewOrderPhase
  | .advanced oId => .opened oId
  | p => p

def afterOrders : NewOrderPhase → NewOrderPhase
  | .opened oId => .line oId 0 .fresh
  | p => p

/-- A line whose item is passed over ends where it starts. -/
def afterItem (skipped : Bool) : NewOrderPhase → NewOrderPhase
  | .line oId k .fresh => if skipped then .line oId (k + 1) .fresh else .line oId k .priced
  | p => p

def afterStock (s : Option Stock) : NewOrderPhase → NewOrderPhase
  | .line oId k .priced => .line oId k (.stocked s)
  | p => p

def afterTake : NewOrderPhase → NewOrderPhase
  | .line oId k (.stocked _) => .line oId k .taken
  | p => p

def afterLine : NewOrderPhase → NewOrderPhase
  | .line oId k _ => .line oId (k + 1) .fresh
  | p => p

end NewOrderPhase

/-- MySQL passes over items without a price. -/
def Dialect.skips : Dialect → Item → Bool
  | .mysql, item => ¬ 0 < item.iPrice
  | .plpgsql, _ | .c, _ | .oracle, _ => false

/-- Oracle reads the stock row `FOR UPDATE`. -/
def Dialect.locksStock : Dialect → Bool
  | .oracle => true
  | .plpgsql | .c | .mysql => false

section Protocol

variable {O : Type} (dialect : Dialect) (fine : (k : Key) → Option (Row k) → Prop)
  (data : NewOrderData)

/-- The phase after a statement and its reply. -/
def NewOrderPhase.next (p : NewOrderPhase) : (q : Stmt Key Row O) → q.Reply → NewOrderPhase
  | .read _ (.item _), (r : Option Item) => r.elim p fun item => p.afterItem (dialect.skips item)
  | .read _ (.stock _ _), (r : Option Stock) | .lock (.stock _ _), (r : Option Stock) =>
    p.afterStock r
  | .lock (.district _ _), (r : Option District) => p.afterLock r
  | .write (.district _ _) _, (r : Option District) => p.afterAdvance r
  | .write (.newOrder _ _ _) _, _ => p.afterNewOrder
  | .write (.orders _ _ _) _, _ => p.afterOrders
  | .write (.stock _ _) _, _ => p.afterTake
  | .write (.lines _ _ _) _, _ => p.afterLine
  | _, _ => p

/-- The change takes the ordered quantity off a stock row that is still as it was read. -/
def TakesQuantity (k : Nat) (s : Option Stock) (f : Option Stock → Option Stock) : Prop :=
  ∃ g : Stock → Stock, f = Option.map g ∧ ∀ sr, s = some sr → ∀ x : Stock,
    x.sQuantity = sr.sQuantity →
      (g x).sQuantity = x.sQuantity - decrQuantity x.sQuantity (data.line k).olQuantity

def NewOrderAllowed (p : NewOrderPhase) : Stmt Key Row O → Prop
  | .read _ (.warehouse _) | .read _ (.customer _ _ _) | .emit _ => True
  | .read _ (.item _) => ∃ oId k, p = .line oId k .fresh ∧ k < data.oOlCnt
  | .read _ (.stock iId wId) => dialect.locksStock = false ∧
    ∃ oId k, p = .line oId k .priced ∧ (iId, wId) = data.stockKey k
  | .lock (.stock iId wId) => dialect.locksStock = true ∧
    ∃ oId k, p = .line oId k .priced ∧ (iId, wId) = data.stockKey k
  | .lock (.district wId dId) => p = .idle ∧ (wId, dId) = (data.wId, data.dId)
  | .write (.district wId dId) f =>
    (p = .idle ∨ ∃ oId, p = .locked oId) ∧ (wId, dId) = (data.wId, data.dId) ∧
      f = Option.map District.advance
  | .write (.newOrder wId dId oId) f =>
    p = .advanced oId ∧ (wId, dId) = (data.wId, data.dId) ∧ ∃ row, f = fun old => old <|> some row
  | .write (.orders wId dId oId) f =>
    p = .opened oId ∧ (wId, dId) = (data.wId, data.dId) ∧ ∃ row, f = fun old => old <|> some row
  | .write (.stock iId wId) f => ∃ oId k s, p = .line oId k (.stocked s) ∧
      (iId, wId) = data.stockKey k ∧ TakesQuantity data k s f
  | .write (.lines _ _ _) f => ∃ oId k stage, p = .line oId k stage ∧
      (stage = .taken ∨ stage = .stocked none) ∧ ∃ l, f = addLine l
  | _ => False

/-- The replies to `read` and `lock` are taken to be `fine`. -/
def newOrderProtocol : Protocol (Stmt Key Row O) Stmt.Reply NewOrderPhase where
  allowed := NewOrderAllowed dialect data
  moves p q r p' := q.ReplyOk fine r ∧ p' = p.next dialect q r

/-- An execution that commits has placed its order, unless Oracle misses a row that it is not
promised. -/
def NewOrderEnded (p : NewOrderPhase) : Prop :=
  (∃ oId, p = .line oId data.oOlCnt .fresh) ∨ dialect = .oracle ∧
    (fine (.warehouse data.wId) none ∨ fine (.district data.wId data.dId) none ∨
      fine (.customer data.wId data.dId data.cId) none ∨
        ∃ oId k, p = .line oId k (.stocked none) ∧
          fine (.stock (data.line k).olIId (data.line k).olSupplyWId) none)

end Protocol

section Takes

variable {data : NewOrderData} {k : Nat} {s : Option Stock}

theorem takes_enough (enough : ∀ sr, s = some sr → sr.sQuantity ≥ (data.line k).olQuantity + 10) :
    TakesQuantity data k s (Option.map fun s =>
      leaveStock data (data.line k) (s.sQuantity - (data.line k).olQuantity) s) := by
  refine ⟨_, rfl, ?_⟩
  intro sr read x same
  rw [decrQuantity, if_pos (same ▸ enough sr read)]
  rfl

theorem takes_few (few : ∀ sr, s = some sr → ¬ sr.sQuantity ≥ (data.line k).olQuantity + 10) :
    TakesQuantity data k s (Option.map fun s =>
      leaveStock data (data.line k) (s.sQuantity - (data.line k).olQuantity + 91) s) := by
  refine ⟨_, rfl, ?_⟩
  intro sr read x same
  rw [decrQuantity, if_neg (same ▸ few sr read)]
  simp only [leaveStock]
  ring

end Takes

section Follows

variable {dialect : Dialect} {fine : (k : Key) → Option (Row k) → Prop} {data : NewOrderData}
  {oId : Int} {k : Nat}

section Statements

variable {O E : Type} {duplicate : E}

theorem insertLine_follows (failed : NewOrderPhase → E → Prop) {l : OrderLine} {stage : LineStage}
    (stocked : stage = .taken ∨ stage = .stocked none)
    (raised : ∀ p', failed p' duplicate) :
    (insertLine l duplicate : Procedure Key Row O E Unit).Follows
      (newOrderProtocol dialect fine data)
      (fun p' => Either (failed p') fun _ => p' = .line oId (k + 1) .fresh) (.line oId k stage) := by
  unfold insertLine
  rw [send_bind, follows_issue]
  refine ⟨⟨oId, k, stage, rfl, stocked, l, rfl⟩, ?_⟩
  rintro old p' ⟨-, rfl⟩
  by_cases used : numberUsed l old
  · rw [if_pos used]
    exact raised _
  · rw [if_neg used]
    rfl

theorem insertNewOrder_follows (failed : NewOrderPhase → E → Prop) {row : NewOrder}
    (raised : ∀ p', failed p' duplicate) :
    (insert (.newOrder data.wId data.dId oId) row duplicate : Procedure Key Row O E Unit).Follows
      (newOrderProtocol dialect fine data)
      (fun p' => Either (failed p') fun _ => p' = .opened oId) (.advanced oId) := by
  unfold insert
  rw [send_bind, follows_issue]
  refine ⟨⟨rfl, rfl, row, rfl⟩, ?_⟩
  rintro old p' ⟨-, rfl⟩
  by_cases used : old.isSome
  · rw [if_pos used]
    exact raised _
  · rw [if_neg used]
    rfl

theorem insertOrders_follows (failed : NewOrderPhase → E → Prop) {row : Order}
    (raised : ∀ p', failed p' duplicate) :
    (insert (.orders data.wId data.dId oId) row duplicate : Procedure Key Row O E Unit).Follows
      (newOrderProtocol dialect fine data)
      (fun p' => Either (failed p') fun _ => p' = .line oId 0 .fresh) (.opened oId) := by
  unfold insert
  rw [send_bind, follows_issue]
  refine ⟨⟨rfl, rfl, row, rfl⟩, ?_⟩
  rintro old p' ⟨-, rfl⟩
  by_cases used : old.isSome
  · rw [if_pos used]
    exact raised _
  · rw [if_neg used]
    rfl

/-- The insertions that every procedure makes for an order. -/
theorem insertOrder_follows {A : Type} {ends : NewOrderPhase → Except E A → Prop}
    {header : NewOrder} {row : Order} {lines : Procedure Key Row O E A}
    (raised : ∀ p', ends p' (.error duplicate))
    (rest : lines.Follows (newOrderProtocol dialect fine data) ends (.line oId 0 .fresh)) :
    (do
      insert (.newOrder data.wId data.dId oId) header duplicate
      insert (.orders data.wId data.dId oId) row duplicate
      lines : Procedure Key Row O E A).Follows (newOrderProtocol dialect fine data) ends
        (.advanced oId) := by
  have failed : ∀ p' e, e = duplicate → ends p' (.error e) := by
    rintro p' e rfl
    exact raised p'
  apply follows_bind (insertNewOrder_follows (fun _ e => e = duplicate) fun _ => rfl)
  · exact failed
  · rintro p' a rfl
    apply follows_bind (insertOrders_follows (fun _ e => e = duplicate) fun _ => rfl)
    · exact failed
    · rintro p' a rfl
      exact rest

theorem lines_follow {A : Type} {failed : NewOrderPhase → E → Prop}
    {line : Nat → Procedure Key Row O E A}
    (follows : ∀ k < data.oOlCnt, (line k).Follows (newOrderProtocol dialect fine data)
      (fun p' => Either (failed p') fun _ => p' = .line oId (k + 1) .fresh) (.line oId k .fresh)) :
    (loop line data.oOlCnt).Follows (newOrderProtocol dialect fine data)
      (fun p' => Either (failed p') fun _ => p' = .line oId data.oOlCnt .fresh)
      (.line oId 0 .fresh) := by
  have round (k : Nat) (p : NewOrderPhase) (bound : k < data.oOlCnt)
      (here : p = .line oId k .fresh) : (line k).Follows (newOrderProtocol dialect fine data)
        (fun p' => Either (failed p') fun _ => p' = .line oId (k + 1) .fresh) p := by
    subst here
    exact follows k bound
  exact @follows_loop _ _ _ _ _ _ (fun k p => p = .line oId k .fresh) failed _ _ round _ rfl

end Statements

/-! ## PL/pgSQL -/

theorem Plpgsql.newOrderLine_follows (header : Header)
    (bound : k < data.oOlCnt) :
    (newOrderLineStatements data header k).Follows (newOrderProtocol .plpgsql fine data)
      (fun p' => Either (fun _ => True) fun _ => p' = .line oId (k + 1) .fresh)
      (.line oId k .fresh) := by
  unfold newOrderLineStatements into selectItem selectStock update
  simp only [send_bind, issue_bind]
  refine ⟨⟨oId, k, rfl, bound⟩, ?_⟩
  rintro item p' ⟨-, rfl⟩
  cases item with
  | none => trivial
  | some item =>
    simp only [orRaise_some, pure_bind, NewOrderPhase.next, Option.elim_some,
      NewOrderPhase.afterItem, Dialect.skips, Bool.false_eq_true, if_false]
    refine ⟨⟨rfl, oId, k, rfl, rfl⟩, ?_⟩
    rintro stock p' ⟨-, rfl⟩
    cases stock with
    | none =>
      apply follows_bind (insertLine_follows (fun _ _ => True) (.inr rfl) fun _ => trivial)
      · exact fun _ _ _ => trivial
      · rintro p' a rfl
        refine ⟨trivial, ?_⟩
        rintro r p' ⟨-, rfl⟩
        rfl
    | some stock =>
      refine ⟨⟨oId, k, some stock, rfl, rfl, _, rfl, ?_⟩, ?_⟩
      · rintro _ ⟨⟩ x same
        rw [same]
        rfl
      · rintro r p' ⟨-, rfl⟩
        apply follows_bind (insertLine_follows (fun _ _ => True) (.inl rfl) fun _ => trivial)
        · exact fun _ _ _ => trivial
        · rintro p' a rfl
          refine ⟨trivial, ?_⟩
          rintro r p' ⟨-, rfl⟩
          rfl

theorem Plpgsql.newOrder_follows :
    (newOrderStatements data).Follows (newOrderProtocol .plpgsql fine data)
      (fun p' v => v.isOk → NewOrderEnded .plpgsql fine data p') .idle := by
  unfold newOrderStatements selectWarehouse selectCustomer update
  simp only [send_bind]
  refine ⟨trivial, ?_⟩
  rintro warehouse p' ⟨-, rfl⟩
  refine ⟨⟨.inl rfl, rfl, rfl⟩, ?_⟩
  rintro district p' ⟨-, rfl⟩
  refine ⟨trivial, ?_⟩
  rintro customer p' ⟨-, rfl⟩
  cases district with
  | none => nofun
  | some district =>
    apply insertOrder_follows
    · exact nofun
    · apply follows_bind (lines_follow fun k bound => newOrderLine_follows _ bound)
      · exact fun _ _ _ => nofun
      · rintro p' a rfl _
        exact .inl ⟨_, rfl⟩

/-! ## C -/

theorem Pgsql.newOrderLine_follows (bound : k < data.oOlCnt) :
    (newOrderLineStatements data oId k).Follows (newOrderProtocol .c fine data)
      (fun p' => Either (fun _ => True) fun _ => p' = .line oId (k + 1) .fresh)
      (.line oId k .fresh) := by
  unfold newOrderLineStatements into selectItem selectStock update
  simp only [send_bind, issue_bind]
  refine ⟨⟨oId, k, rfl, bound⟩, ?_⟩
  rintro item p' ⟨-, rfl⟩
  by_cases unused : (data.line k).olIId = 0
  · simp only [if_pos unused]
    trivial
  simp only [if_neg unused]
  cases item with
  | none => trivial
  | some item =>
    simp only [orRaise_some, pure_bind, NewOrderPhase.next, Option.elim_some,
      NewOrderPhase.afterItem, Dialect.skips, Bool.false_eq_true, if_false]
    refine ⟨⟨rfl, oId, k, rfl, rfl⟩, ?_⟩
    rintro stock p' ⟨-, rfl⟩
    cases stock with
    | none => trivial
    | some stock =>
      refine ⟨⟨oId, k, some stock, rfl, rfl, _, rfl, ?_⟩, ?_⟩
      · rintro _ ⟨⟩ x same
        rw [same, ← same]
        rfl
      · rintro r p' ⟨-, rfl⟩
        apply follows_bind (insertLine_follows (fun _ _ => True) (.inl rfl) fun _ => trivial)
        · exact fun _ _ _ => trivial
        · rintro p' a rfl
          rfl

theorem Pgsql.newOrder_follows :
    (newOrderStatements data).Follows (newOrderProtocol .c fine data)
      (fun p' v => v.isOk → NewOrderEnded .c fine data p') .idle := by
  unfold newOrderStatements into selectWarehouse selectCustomer update
  by_cases few : data.oOlCnt < 1
  · rw [if_pos few]
    exact nofun
  · rw [if_neg few]
    simp only [send_bind, issue_bind]
    refine ⟨trivial, ?_⟩
    rintro warehouse p' ⟨-, rfl⟩
    cases warehouse with
    | none => nofun
    | some warehouse =>
      refine ⟨⟨.inl rfl, rfl, rfl⟩, ?_⟩
      rintro district p' ⟨-, rfl⟩
      cases district with
      | none => nofun
      | some district =>
        refine ⟨trivial, ?_⟩
        rintro customer p' ⟨-, rfl⟩
        cases customer with
        | none => nofun
        | some customer =>
          apply insertOrder_follows
          · exact nofun
          · apply follows_bind (lines_follow fun k bound => newOrderLine_follows bound)
            · exact fun _ _ _ => nofun
            · rintro p' a rfl _
              exact .inl ⟨_, rfl⟩

/-! ## Oracle -/

/-- The only error that is committed, and that a line may end with. -/
def Oracle.Strayed (fine : (k : Key) → Option (Row k) → Prop) (data : NewOrderData) (oId : Int)
    (p : NewOrderPhase) (e : Int) : Prop :=
  e = NO_DATA_FOUND → ∃ k, p = .line oId k (.stocked none) ∧
    fine (.stock (data.line k).olIId (data.line k).olSupplyWId) none

theorem Oracle.newOrderLine_follows
    (bound : k < data.oOlCnt) :
    (newOrderLine data oId k).Follows (newOrderProtocol .oracle fine data)
      (fun p' => Either (Strayed fine data oId p') fun _ => p' = .line oId (k + 1) .fresh)
      (.line oId k .fresh) := by
  unfold newOrderLine selectItemInto newOrder2 into selectItem selectStockForUpdate update
  simp only [send_bind, issue_bind, handle_issue]
  refine ⟨⟨oId, k, rfl, bound⟩, ?_⟩
  rintro item p' ⟨-, rfl⟩
  cases item with
  | none => exact fun e => absurd e (by decide)
  | some item =>
    simp only [orRaise_some, handle_pure, pure_bind, NewOrderPhase.next, Option.elim_some,
      NewOrderPhase.afterItem, Dialect.skips, Bool.false_eq_true, if_false]
    refine ⟨⟨rfl, oId, k, rfl, rfl⟩, ?_⟩
    rintro stock p' ⟨there, rfl⟩
    cases stock with
    | none => exact fun _ => ⟨k, rfl, there⟩
    | some stock =>
      have insertion : ((do
          insertLine (Plpgsql.orderLineRow data oId k (item.iPrice * (data.line k).olQuantity)
            (some (stock.sDist.get data.dist))) DUP_VAL_ON_INDEX
          pure
            { iPrice := item.iPrice, iName := item.iName, sQuantity := stock.sQuantity
              olAmount := item.iPrice * (data.line k).olQuantity
              brandGeneric := if strstr item.iData "ORIGINAL" && strstr stock.sData "ORIGINAL"
                then 'B' else 'G' } : Proc OrderLineResult)).Follows
          (newOrderProtocol .oracle fine data)
          (fun p' => Either (Strayed fine data oId p') fun _ => p' = .line oId (k + 1) .fresh)
          (.line oId k .taken) := by
        apply follows_bind (insertLine_follows (Strayed fine data oId) (.inl rfl) fun _ =>
          fun e => absurd e (by decide))
        · exact fun _ _ failed => failed
        · rintro p' a rfl
          rfl
      simp only [orRaise_some, pure_bind]
      by_cases enough : stock.sQuantity ≥ (data.line k).olQuantity + 10
      · rw [if_pos enough]
        refine ⟨⟨oId, k, some stock, rfl, rfl, takes_enough ?_⟩, ?_⟩
        · rintro _ ⟨⟩
          exact enough
        · rintro r p' ⟨-, rfl⟩
          exact insertion
      · rw [if_neg enough]
        refine ⟨⟨oId, k, some stock, rfl, rfl, takes_few ?_⟩, ?_⟩
        · rintro _ ⟨⟩
          exact enough
        · rintro r p' ⟨-, rfl⟩
          exact insertion

theorem Oracle.newOrder_follows :
    (neworder data).Follows (newOrderProtocol .oracle fine data)
      (fun p' v => commits v → NewOrderEnded .oracle fine data p') .idle := by
  unfold neworder into selectWarehouse selectDistrictForUpdate selectCustomer update
  simp only [send_bind, issue_bind]
  refine ⟨trivial, ?_⟩
  rintro warehouse p' ⟨there, rfl⟩
  cases warehouse with
  | none => exact fun _ => .inr ⟨rfl, .inl there⟩
  | some warehouse =>
    refine ⟨⟨rfl, rfl⟩, ?_⟩
    rintro district p' ⟨there, rfl⟩
    cases district with
    | none => exact fun _ => .inr ⟨rfl, .inr (.inl there)⟩
    | some district =>
      refine ⟨⟨.inr ⟨_, rfl⟩, rfl, rfl⟩, ?_⟩
      rintro before p' ⟨-, rfl⟩
      refine ⟨trivial, ?_⟩
      rintro customer p' ⟨there, rfl⟩
      cases customer with
      | none => exact fun _ => .inr ⟨rfl, .inr (.inr (.inl there))⟩
      | some customer =>
        apply insertOrder_follows
        · exact fun _ duplicate => absurd duplicate (by decide)
        · apply follows_bind (lines_follow fun k bound => newOrderLine_follows bound)
          · intro p' e strayed committed
            obtain ⟨k, here, missing⟩ := strayed (of_decide_eq_true committed)
            exact .inr ⟨rfl, .inr (.inr (.inr ⟨_, k, here, missing⟩))⟩
          · rintro p' a rfl _
            exact .inl ⟨_, rfl⟩

/-! ## MySQL -/

theorem MySql.newOrder2_follows {item : Item} (olAmount : ℚ) :
    (newOrder2 data oId k item olAmount).Follows (newOrderProtocol .mysql fine data)
      (fun p' => Either (fun _ => True) fun _ => p' = .line oId (k + 1) .fresh)
      (.line oId k .priced) := by
  unfold newOrder2 selectStock update
  simp only [send_bind]
  refine ⟨⟨rfl, oId, k, rfl, rfl⟩, ?_⟩
  rintro stock p' ⟨-, rfl⟩
  have insertion (row : LineSet) : (do
      insertLine (Plpgsql.orderLineRow data oId k olAmount
        (stock.map fun s => s.sDist.get data.dist)) DUPLICATE_ENTRY
      emit (.line row) : Proc Unit).Follows (newOrderProtocol .mysql fine data)
      (fun p' => Either (fun _ => True) fun _ => p' = .line oId (k + 1) .fresh)
      (.line oId k .taken) := by
    apply follows_bind (insertLine_follows (fun _ _ => True) (.inl rfl) fun _ => trivial)
    · exact fun _ _ _ => trivial
    · rintro p' a rfl
      refine ⟨trivial, ?_⟩
      rintro r p' ⟨-, rfl⟩
      rfl
  by_cases enough : stock.any fun s => s.sQuantity ≥ (data.line k).olQuantity + 10
  · simp only [if_pos enough]
    refine ⟨⟨oId, k, stock, rfl, rfl, takes_enough ?_⟩, ?_⟩
    · rintro sr rfl
      exact of_decide_eq_true enough
    · rintro r p' ⟨-, rfl⟩
      exact insertion _
  · simp only [if_neg enough]
    refine ⟨⟨oId, k, stock, rfl, rfl, takes_few ?_⟩, ?_⟩
    · rintro sr rfl
      exact fun more => enough (decide_eq_true more)
    · rintro r p' ⟨-, rfl⟩
      exact insertion _

theorem MySql.newOrderLine_follows (bound : k < data.oOlCnt) :
    (newOrderLine data oId k).Follows (newOrderProtocol .mysql fine data)
      (fun p' => Either (fun _ => True) fun _ => p' = .line oId (k + 1) .fresh)
      (.line oId k .fresh) := by
  unfold newOrderLine into selectItem
  simp only [send_bind, issue_bind]
  refine ⟨⟨oId, k, rfl, bound⟩, ?_⟩
  rintro item p' ⟨-, rfl⟩
  cases item with
  | none => trivial
  | some item =>
    simp only [orRaise_some, pure_bind, NewOrderPhase.next, Option.elim_some,
      NewOrderPhase.afterItem, Dialect.skips]
    by_cases priced : 0 < item.iPrice
    · simp only [gt_iff_lt, priced, if_true, not_true_eq_false, decide_false, Bool.false_eq_true,
        if_false]
      apply follows_bind (newOrder2_follows _)
      · exact fun _ _ _ => trivial
      · rintro p' a rfl
        rfl
    · simp only [gt_iff_lt, priced, if_false, not_false_eq_true, decide_true, if_true]
      rfl

theorem MySql.newOrderBody_follows :
    (newOrderBody data).Follows (newOrderProtocol .mysql fine data)
      (fun p' => Either (fun _ => True) fun _ => NewOrderEnded .mysql fine data p') .idle := by
  unfold newOrderBody into selectWarehouse selectDistrictForUpdate selectCustomer update
  simp only [send_bind, issue_bind]
  refine ⟨trivial, ?_⟩
  rintro warehouse p' ⟨-, rfl⟩
  cases warehouse with
  | none => trivial
  | some warehouse =>
    refine ⟨⟨rfl, rfl⟩, ?_⟩
    rintro district p' ⟨-, rfl⟩
    cases district with
    | none => trivial
    | some district =>
      refine ⟨⟨.inr ⟨_, rfl⟩, rfl, rfl⟩, ?_⟩
      rintro before p' ⟨-, rfl⟩
      refine ⟨trivial, ?_⟩
      rintro customer p' ⟨-, rfl⟩
      cases customer with
      | none => trivial
      | some customer =>
        apply insertOrder_follows
        · exact fun _ => trivial
        · apply follows_bind (lines_follow fun k bound => newOrderLine_follows bound)
          · exact fun _ _ _ => trivial
          · rintro p' a rfl
            refine ⟨trivial, ?_⟩
            rintro r p' ⟨-, rfl⟩
            exact .inl ⟨_, rfl⟩

theorem MySql.newOrder_follows :
    (newOrder data).Follows (newOrderProtocol .mysql fine data)
      (fun p' v => decide (v.toOption = some 0) → NewOrderEnded .mysql fine data p') .idle := by
  unfold newOrder
  apply follows_handle newOrderBody_follows
  · exact fun p' rc ended _ => ended
  · intro p' e _
    by_cases noData : e = NO_DATA
    · rw [if_pos noData]
      exact fun zero => absurd zero (by decide)
    · rw [if_neg noData]
      exact fun zero => absurd zero (by simp [Except.toOption])

/-! ## All four -/

variable (fine data) in
theorem newOrder_follows (dialect : Dialect) :
    (dialect.newOrder.program data).Follows (newOrderProtocol dialect fine data)
      (fun p' v => dialect.newOrder.commits v → NewOrderEnded dialect fine data p') .idle := by
  cases dialect with
  | plpgsql => exact Plpgsql.newOrder_follows
  | c => exact Pgsql.newOrder_follows
  | mysql => exact MySql.newOrder_follows
  | oracle => exact Oracle.newOrder_follows

end Follows

end Dbt2
