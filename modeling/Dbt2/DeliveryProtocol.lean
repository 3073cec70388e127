import Dbt2.Procedures

/-!
# What a Delivery does, in phases

The four procedures look for the oldest outstanding order of a district, with a lock or without,
and learn whose it is from a query or from the update of its row.

* `DeliveryPhase`: the orders taken so far, and what is due for the last one;
* `deliveryProtocol`: what an execution may do in each phase;
* `delivery_follows`: the four procedures keep to it, and nothing is due when they end.
-/

namespace Dbt2

open Locking Prog

/-- `taken` is the order of each district whose row in `NEW_ORDER` the execution has deleted. For
the last one an update of a customer may be `due`, whose id may not be known yet. -/
structure DeliveryPhase where
  taken : Int → Option Int
  found : Option Key
  due : Option (Int × Option Int)

namespace DeliveryPhase

def start : DeliveryPhase := ⟨fun _ => none, none, none⟩

/-- A customer of the district is still due the order's amount. -/
def Owes (p : DeliveryPhase) (dId : Int) : Prop := ∃ cId, p.due = some (dId, cId)

/-! ## Moves -/

variable (p : DeliveryPhase)

def afterFind (found : Option Key) : DeliveryPhase := { p with found }

def afterDelete (dId oId : Int) : DeliveryPhase where
  taken := Function.update p.taken dId (some oId)
  found := none
  due := some (dId, none)

/-- The first reply tells whose order it is. Without a row it is nobody's. -/
def afterOrder (r : Option Order) : DeliveryPhase :=
  match p.due with
  | some (dId, none) => { p with due := r.map fun o => (dId, some o.oCId) }
  | _ => p

def afterCredit : DeliveryPhase := { p with due := none }

theorem afterDelete_taken (dId oId : Int) : (p.afterDelete dId oId).taken dId = some oId :=
  Function.update_self _ _ _

end DeliveryPhase

section Protocol

variable {O : Type} (dialect : Dialect) (rows : Rows) (data : DeliveryData)

/-- The phase after a statement and its reply. -/
def DeliveryPhase.next (p : DeliveryPhase) : (q : Stmt Key Row O) → q.Reply → DeliveryPhase
  | .find _ _, (found : Option Key) | .lockFound _, (found : Option Key) => p.afterFind found
  | .write (.newOrder _ dId oId) _, _ => p.afterDelete dId oId
  | .lock (.orders _ _ _), (r : Option Order) | .write (.orders _ _ _) _, (r : Option Order) =>
    p.afterOrder r
  | .write (.customer _ _ _) _, _ => p.afterCredit
  | _, _ => p

/-- Oracle looks for the order without a lock. -/
def DeliveryAllowed (p : DeliveryPhase) : Stmt Key Row O → Prop
  | .find _ q => dialect = .oracle ∧ ∃ ids dId, q = oldest ids data.wId dId
  | .lockFound q => dialect ≠ .oracle ∧ ∃ ids dId, q = oldest ids data.wId dId
  | .read _ (.lines _ _ _) | .emit _ => True
  | .lock (.orders wId dId oId) => wId = data.wId ∧ p.taken dId = some oId ∧ p.Owes dId
  | .write (.newOrder wId dId oId) f => wId = data.wId ∧ p.found = some (.newOrder wId dId oId) ∧
      p.taken dId = none ∧ p.due = none ∧ f = fun _ => none
  | .write (.orders wId dId oId) f => wId = data.wId ∧ p.taken dId = some oId ∧ p.Owes dId ∧
      f = Option.map (Order.carry data.oCarrierId)
  | .write (.lines _ _ _) f => f = Option.map deliverLines
  | .write (.customer wId dId cId) f => wId = data.wId ∧ p.due = some (dId, some cId) ∧
      ∃ oId, p.taken dId = some oId ∧
        f = Option.map (CustomerRow.credit (sumAmount (rows (.lines wId dId oId))))
  | _ => False

/-- What no Delivery changes: whose an order is, what its lines amount to, which customers there
are. No outstanding order appears. -/
def SameOrders : (k : Key) → Option (Row k) → Prop
  | .newOrder wId dId oId, r => r.isSome → (rows (.newOrder wId dId oId)).isSome
  | .orders wId dId oId, (r : Option Order) =>
    r.map Order.oCId = (rows (.orders wId dId oId)).map Order.oCId
  | .lines wId dId oId, r => sumAmount r = sumAmount (rows (.lines wId dId oId))
  | .customer wId dId cId, r => r.isSome = (rows (.customer wId dId cId)).isSome
  | _, _ => True

/-- MySQL's procedure finds the row of an order, or else goes on with the customer of the order
before. -/
def Dialect.findsOrder : Dialect → (k : Key) → Option (Row k) → Bool
  | .mysql, .orders _ _ _, r => r.isSome
  | _, _, _ => true

/-- A query for a key has looked for it in some rows. -/
def Looked : (q : Stmt Key Row O) → q.Reply → Prop
  | .find _ q, (found : Option Key) | .lockFound q, (found : Option Key) => ∃ s, found = q s
  | _, _ => True

def deliveryProtocol : Protocol (Stmt Key Row O) Stmt.Reply DeliveryPhase where
  allowed := DeliveryAllowed dialect rows data
  moves p q r p' := q.ReplyOk (fun k r => SameOrders rows k r ∧ dialect.findsOrder k r) r ∧
    Looked q r ∧ p' = p.next q r

/-- Nothing is due, and the districts from number `i + 1` on are untouched. -/
def Between (i : Nat) (p : DeliveryPhase) : Prop :=
  p.due = none ∧ ∀ dId : Int, i < dId → p.taken dId = none

end Protocol

theorem oldest_eq_some {ids : List Int} {wId dId : Int} {rows : Rows} {k : Key}
    (found : oldest ids wId dId rows = some k) :
    ∃ oId, k = .newOrder wId dId oId ∧ (rows k).isSome := by
  obtain ⟨oId, least, rfl⟩ := Option.map_eq_some_iff.mp found
  refine ⟨oId, rfl, ?_⟩
  have mem := List.min?_mem least
  simpa using (List.mem_filter.mp mem).2

/-! ## The four procedures -/

section Follows

variable {rows : Rows} {ids : Int → Int → List Int} {data : DeliveryData} {i : Nat}
  {p : DeliveryPhase}

theorem Between.find (between : Between i p) (found : Option Key) :
    Between (i + 1) (p.afterFind found) := by
  refine ⟨between.1, ?_⟩
  intro dId later
  exact between.2 dId (by omega)

/-- A round that has taken an order. -/
theorem Between.delivered (between : Between i p) {p' : DeliveryPhase} {oId : Int}
    (taken : p'.taken = Function.update p.taken (i + 1) (some oId)) (due : p'.due = none) :
    Between (i + 1) p' := by
  refine ⟨due, ?_⟩
  intro dId later
  rw [taken, Function.update_of_ne (by omega)]
  exact between.2 dId (by omega)

/-- Whose the order is has been learnt, and the customer is credited. -/
theorem credit_follows {O E A : Type} {dialect : Dialect} {ends : DeliveryPhase → Except E A → Prop}
    {dId oId cId : Int} {amount : Option ℚ} {rest : Option CustomerRow → Procedure Key Row O E A}
    (due : p.due = some (dId, some cId)) (taken : p.taken dId = some oId)
    (sum : amount = sumAmount (rows (.lines data.wId dId oId)))
    (follows : ∀ r, (rest r).Follows (deliveryProtocol dialect rows data) ends p.afterCredit) :
    (update (.customer data.wId dId cId) (CustomerRow.credit amount) >>= rest).Follows
      (deliveryProtocol dialect rows data) ends p := by
  refine ⟨⟨rfl, due, oId, taken, ?_⟩, ?_⟩
  · rw [sum]
  · rintro r p' ⟨-, -, rfl⟩
    exact follows r

theorem Plpgsql.deliveryDistrict_follows (between : Between i p) :
    (deliveryDistrictStatements ids data i).Follows (deliveryProtocol .plpgsql rows data)
      (fun p' => Either (fun _ => False) fun _ => Between (i + 1) p') p := by
  unfold deliveryDistrictStatements delete
  simp only [send_bind]
  refine ⟨⟨nofun, _, _, rfl⟩, ?_⟩
  rintro found p' ⟨-, ⟨s, rfl⟩, rfl⟩
  cases looked : oldest (ids data.wId (i + 1)) data.wId (i + 1) s with
  | none => exact between.find none
  | some k =>
    obtain ⟨oId, rfl, -⟩ := oldest_eq_some looked
    refine ⟨⟨rfl, rfl, between.2 _ (by omega), between.1, rfl⟩, ?_⟩
    rintro deleted p' ⟨-, -, rfl⟩
    have taken := p.afterDelete_taken (i + 1) oId
    refine ⟨⟨rfl, taken, ⟨_, rfl⟩, rfl⟩, ?_⟩
    rintro order p' ⟨-, -, rfl⟩
    refine ⟨rfl, ?_⟩
    rintro lines p' ⟨-, -, rfl⟩
    refine ⟨trivial, ?_⟩
    rintro lines p' ⟨⟨sum, -⟩, -, rfl⟩
    cases order with
    | none =>
      refine ⟨trivial, ?_⟩
      rintro r p' ⟨-, -, rfl⟩
      exact between.delivered rfl rfl
    | some order =>
      apply credit_follows rfl _ sum
      · intro r
        refine ⟨trivial, ?_⟩
        rintro r p' ⟨-, -, rfl⟩
        exact between.delivered rfl rfl
      · exact taken

theorem Pgsql.deliveryDistrict_follows (between : Between i p) :
    (deliveryDistrictStatements ids data i).Follows (deliveryProtocol .c rows data)
      (fun p' => Either (fun _ => True) fun _ => Between (i + 1) p') p := by
  unfold deliveryDistrictStatements delete selectLines
  simp only [send_bind]
  refine ⟨⟨nofun, _, _, rfl⟩, ?_⟩
  rintro found p' ⟨-, ⟨s, rfl⟩, rfl⟩
  cases looked : oldest (ids data.wId (i + 1)) data.wId (i + 1) s with
  | none => exact between.find none
  | some k =>
    obtain ⟨oId, rfl, -⟩ := oldest_eq_some looked
    refine ⟨⟨rfl, rfl, between.2 _ (by omega), between.1, rfl⟩, ?_⟩
    rintro deleted p' ⟨-, -, rfl⟩
    cases deleted with
    | none => trivial
    | some deleted =>
      have taken := p.afterDelete_taken (i + 1) oId
      refine ⟨⟨rfl, taken, ⟨_, rfl⟩, rfl⟩, ?_⟩
      rintro order p' ⟨-, -, rfl⟩
      cases order with
      | none => trivial
      | some order =>
        refine ⟨rfl, ?_⟩
        rintro lines p' ⟨-, -, rfl⟩
        refine ⟨trivial, ?_⟩
        rintro lines p' ⟨⟨sum, -⟩, -, rfl⟩
        cases amount : sumAmount lines with
        | none =>
          simp only [amount]
          trivial
        | some olAmount =>
          simp only [amount]
          apply credit_follows rfl _ (amount.symm.trans sum)
          · intro r
            exact between.delivered rfl rfl
          · exact taken

theorem Oracle.deliveryDistrict_follows (between : Between i p) :
    (deliveryDistrict ids data i).Follows (deliveryProtocol .oracle rows data)
      (fun p' => Either (fun _ => p'.due = none) fun _ => Between (i + 1) p') p := by
  unfold deliveryDistrict delete into
  simp only [send_bind]
  refine ⟨⟨rfl, _, _, rfl⟩, ?_⟩
  rintro found p' ⟨-, ⟨s, rfl⟩, rfl⟩
  cases looked : oldest (ids data.wId (i + 1)) data.wId (i + 1) s with
  | none => exact between.find none
  | some k =>
    obtain ⟨oId, rfl, -⟩ := oldest_eq_some looked
    refine ⟨⟨rfl, rfl, between.2 _ (by omega), between.1, rfl⟩, ?_⟩
    rintro deleted p' ⟨-, -, rfl⟩
    have taken := p.afterDelete_taken (i + 1) oId
    refine ⟨⟨rfl, taken, _, rfl⟩, ?_⟩
    rintro order p' ⟨-, -, rfl⟩
    cases order with
    | none => exact rfl
    | some order =>
      refine ⟨⟨rfl, taken, ⟨_, rfl⟩, rfl⟩, ?_⟩
      rintro before p' ⟨-, -, rfl⟩
      refine ⟨rfl, ?_⟩
      rintro lines p' ⟨-, -, rfl⟩
      refine ⟨trivial, ?_⟩
      rintro lines p' ⟨⟨sum, -⟩, -, rfl⟩
      apply credit_follows rfl _ sum
      · intro r
        exact between.delivered rfl rfl
      · exact taken

theorem MySql.deliveryDistrict_follows (outCId : Option Int) (between : Between i p) :
    (deliveryDistrict ids data i outCId).Follows (deliveryProtocol .mysql rows data)
      (fun p' => Either (fun _ => False) fun _ => Between (i + 1) p') p := by
  unfold deliveryDistrict delete
  simp only [send_bind]
  refine ⟨⟨nofun, _, _, rfl⟩, ?_⟩
  rintro found p' ⟨-, ⟨s, rfl⟩, rfl⟩
  by_cases outstanding :
      (noOId (oldest (ids data.wId (i + 1)) data.wId (i + 1) s)).getD 0 > 0
  · simp only [if_pos outstanding]
    cases looked : oldest (ids data.wId (i + 1)) data.wId (i + 1) s with
    | none =>
      rw [looked] at outstanding
      exact absurd outstanding (by decide)
    | some k =>
      obtain ⟨oId, rfl, -⟩ := oldest_eq_some looked
      refine ⟨⟨rfl, rfl, between.2 _ (by omega), between.1, rfl⟩, ?_⟩
      rintro deleted p' ⟨-, -, rfl⟩
      have taken := p.afterDelete_taken (i + 1) oId
      refine ⟨⟨rfl, taken, _, rfl⟩, ?_⟩
      rintro order p' ⟨⟨-, finds⟩, -, rfl⟩
      obtain ⟨order, rfl⟩ := Option.isSome_iff_exists.mp finds
      refine ⟨⟨rfl, taken, ⟨_, rfl⟩, rfl⟩, ?_⟩
      rintro before p' ⟨-, -, rfl⟩
      refine ⟨rfl, ?_⟩
      rintro lines p' ⟨-, -, rfl⟩
      refine ⟨trivial, ?_⟩
      rintro lines p' ⟨⟨sum, -⟩, -, rfl⟩
      apply credit_follows rfl _ sum
      · intro r
        exact between.delivered rfl rfl
      · exact taken
  · simp only [if_neg outstanding]
    exact between.find _

theorem between_start : Between 0 .start := ⟨rfl, fun _ _ => rfl⟩

variable (rows ids data) in
theorem delivery_follows (dialect : Dialect) :
    ((dialect.delivery ids).program data).Follows (deliveryProtocol dialect rows data)
      (fun p' v => (dialect.delivery ids).commits v → p'.due = none) .start := by
  cases dialect with
  | plpgsql =>
    apply follows_bind (follows_loop (fun _ _ _ => Plpgsql.deliveryDistrict_follows) between_start)
    · exact fun _ _ failed => failed.elim
    · exact fun _ _ between _ => between.1
  | c =>
    apply follows_bind (follows_loop (fun _ _ _ => Pgsql.deliveryDistrict_follows) between_start)
    · exact fun _ _ _ => nofun
    · exact fun _ _ between _ => between.1
  | mysql =>
    apply follows_bind (follows_rounds (fun _ _ outCId _ => MySql.deliveryDistrict_follows outCId)
      between_start)
    · exact fun _ _ failed => failed.elim
    · exact fun _ _ between _ => between.1
  | oracle =>
    apply follows_bind (follows_loop (fun _ _ _ => Oracle.deliveryDistrict_follows) between_start)
    · exact fun _ _ failed _ => failed
    · exact fun _ _ between _ => between.1

end Follows

end Dbt2
