import Dbt2.NewOrderProtocol
import Dbt2.StockAccounting

/-!
# Stock under concurrent New-Orders

A New-Order reads a quantity, decides what to take off it and then writes. Between the two another
execution may commit an update of the same row, unless the read locks it.

* `StockKept`: no update is lost and every quantity stays in its range;
* `asRead`: the condition on a step that the quantity written over is the one read;
* `stock_kept`: a run whose steps all meet the condition keeps the stock.
-/

namespace Dbt2

open Locking Prog Transition

/-- What the committed executions have ordered of a stock row. -/
def orderedOf {E A : Type} (results : List (Committed Key Row E A NewOrderData))
    (stock : Int × Int) : Int :=
  (results.map fun r => (r.args.quantities r.args.oOlCnt stock).sum).sum

/-- A quantity that is what was ordered less than before, up to refills, and in its range. -/
def Less (before after : Stock) (ordered : Int) : Prop :=
  after.sQuantity ≡ before.sQuantity - ordered [ZMOD 91] ∧ InRange after.sQuantity

def StockKept {E A : Type} (rows store : Rows)
    (results : List (Committed Key Row E A NewOrderData)) : Prop :=
  ∀ iId wId s, rows (.stock iId wId) = some s →
    ∃ s', store (.stock iId wId) = some s' ∧ Less s s' (orderedOf results (iId, wId))

/-! ## The condition -/

/-- Oracle's procedure finds the rows that it needs, or else commits half an order. MySQL's finds
only items with a price, or else passes over the line. -/
def Dialect.finds : Dialect → (k : Key) → Option (Row k) → Bool
  | .oracle, .warehouse _, r | .oracle, .district _ _, r | .oracle, .customer _ _ _, r
  | .oracle, .stock _ _, r => r.isSome
  | .mysql, .item _, (r : Option Item) => r.all fun item => 0 < item.iPrice
  | _, _, _ => true

/-- An update of a stock row finds the quantity that the execution read last. -/
def asRead {O : Type} (dialect : Dialect) (store : Rows) (tx : Tx Key Row) :
    Stmt Key Row O → Bool
  | .read mode k => dialect.finds k (tx.sees store mode k)
  | .lock k => dialect.finds k (tx.view store k)
  | .write (.stock iId wId) _ => dialect.locksStock ||
      (tx.seen (.stock iId wId)).join.map Stock.sQuantity =
        (tx.view store (.stock iId wId)).map Stock.sQuantity
  | _ => true

/-! ## One execution -/

/-- How many lines have taken from their stock rows. -/
def NewOrderPhase.sold : NewOrderPhase → Nat
  | .line _ k .taken => k + 1
  | .line _ k _ => k
  | _ => 0

/-- The line that the phase is in the middle of, if it has not taken from its stock row. -/
def NewOrderPhase.taking : NewOrderPhase → Option Nat
  | .line _ k .priced | .line _ k (.stocked _) => some k
  | _ => none

/-- No stock row appears or disappears. -/
def SameStock (rows : Rows) : (k : Key) → Option (Row k) → Prop
  | .stock iId wId, r => r.isSome = (rows (.stock iId wId)).isSome
  | _, _ => True

/-- What an execution has taken from the committed stock rows. -/
structure StockLocal (rows : Rows) (dialect : Dialect) (data : NewOrderData) (p : NewOrderPhase)
    (tx : Tx Key Row) (store : Rows) : Prop where
  quantities : ∀ k < data.oOlCnt, 1 ≤ (data.line k).olQuantity ∧ (data.line k).olQuantity ≤ 10
  sold : ∀ iId wId r, tx.own (.stock iId wId) = some r →
    ∃ s s', store (.stock iId wId) = some s ∧ r = some s' ∧
      Less s s' (data.quantities p.sold (iId, wId)).sum
  unsold : ∀ iId wId, tx.own (.stock iId wId) = none → (rows (.stock iId wId)).isSome →
    data.quantities p.sold (iId, wId) = []
  taking : ∀ k, p.taking = some k → k < data.oOlCnt
  read : ∀ oId k s, p = .line oId k (.stocked s) →
    tx.seen (.stock (data.line k).olIId (data.line k).olSupplyWId) = some s ∧
      s.isSome = (rows (.stock (data.line k).olIId (data.line k).olSupplyWId)).isSome ∧
        (dialect.locksStock → s.isSome →
          tx.locked (.stock (data.line k).olIId (data.line k).olSupplyWId) ∧
            tx.view store (.stock (data.line k).olIId (data.line k).olSupplyWId) = s)

section Local

variable {rows store : Rows} {dialect : Dialect} {data : NewOrderData} {p p' : NewOrderPhase}
  {tx tx' : Tx Key Row} {O E A : Type} {results : List (Committed Key Row E A NewOrderData)}

theorem Less.refl {s : Stock} (range : InRange s.sQuantity) : Less s s 0 := by
  refine ⟨?_, range⟩
  rw [sub_zero]

theorem Less.take {before s after : Stock} {ordered q : Int} (less : Less before s ordered)
    (quantity : 1 ≤ q ∧ q ≤ 10)
    (takes : after.sQuantity = s.sQuantity - decrQuantity s.sQuantity q) :
    Less before after (ordered + q) := by
  constructor
  · calc after.sQuantity
        = s.sQuantity - decrQuantity s.sQuantity q := takes
      _ ≡ before.sQuantity - ordered - q [ZMOD 91] := less.1.sub (decrQuantity_modEq _ _)
      _ = before.sQuantity - (ordered + q) := by ring
  · rw [takes]
    exact decrQuantity_inRange less.2 quantity

theorem Less.trans {first second third : Stock} {n m : Int} (less : Less first second n)
    (further : Less second third m) : Less first third (n + m) := by
  refine ⟨?_, further.2⟩
  calc third.sQuantity
      ≡ second.sQuantity - m [ZMOD 91] := further.1
    _ ≡ first.sQuantity - n - m [ZMOD 91] := less.1.sub_right m
    _ = first.sQuantity - (n + m) := by ring

/-- A phase that has no line to take from has not read a stock row. -/
theorem NewOrderPhase.not_stocked {p : NewOrderPhase} (none : p.taking = none) (oId : Int) (k : Nat)
    (s : Option Stock) : p ≠ .line oId k (.stocked s) := by
  rintro rfl
  cases none

theorem StockLocal.start (quantities : ∀ k < data.oOlCnt,
    1 ≤ (data.line k).olQuantity ∧ (data.line k).olQuantity ≤ 10) :
    StockLocal rows dialect data .idle (.start store) store where
  quantities
  sold _ _ _ written := by simp [Tx.start] at written
  unsold _ _ _ _ := rfl
  taking _ here := by cases here
  read oId k s here := absurd here (NewOrderPhase.not_stocked rfl oId k s)

/-- A statement that leaves the stock rows, in a phase with as many lines sold. -/
theorem StockLocal.keep (h : StockLocal rows dialect data p tx store)
    (locked : ∀ k, tx.locked k → tx'.locked k)
    (own : ∀ iId wId, tx'.own (.stock iId wId) = tx.own (.stock iId wId))
    (seen : ∀ iId wId, tx'.seen (.stock iId wId) = tx.seen (.stock iId wId))
    (sold : p'.sold = p.sold) (taking : ∀ k, p'.taking = some k → k < data.oOlCnt)
    (read : ∀ oId k s, p' = .line oId k (.stocked s) → p = .line oId k (.stocked s)) :
    StockLocal rows dialect data p' tx' store where
  quantities := h.quantities
  sold iId wId r written := by
    rw [own] at written
    rw [sold]
    exact h.sold iId wId r written
  unsold iId wId unwritten := by
    rw [own] at unwritten
    rw [sold]
    exact h.unsold iId wId unwritten
  taking
  read oId k s here := by
    obtain ⟨noticed, there, held⟩ := h.read oId k s (read oId k s here)
    refine ⟨(seen _ _).trans noticed, there, ?_⟩
    intro locks some
    obtain ⟨before, view⟩ := held locks some
    refine ⟨locked _ before, ?_⟩
    rw [← view]
    unfold Tx.view
    rw [own]

theorem quantities_missing {k : Nat}
    (missing : rows (.stock (data.line k).olIId (data.line k).olSupplyWId) = none) {iId wId : Int}
    (there : (rows (.stock iId wId)).isSome) :
    data.quantities (k + 1) (iId, wId) = data.quantities k (iId, wId) := by
  have other : data.stockKey k ≠ (iId, wId) := by
    rintro ⟨⟩
    simp [missing] at there
  rw [quantities_succ, if_neg other, List.append_nil]

/-- Without a row there is nothing to take from. -/
theorem StockLocal.miss {k : Nat} (h : StockLocal rows dialect data p tx store)
    (sound : tx.Sound (SameStock rows) store) (before : p.sold = k) (after : p'.sold = k + 1)
    (missing : rows (.stock (data.line k).olIId (data.line k).olSupplyWId) = none)
    (taking : p'.taking = none) : StockLocal rows dialect data p' tx store where
  quantities := h.quantities
  sold iId wId r written := by
    obtain ⟨s, s', there, rfl, less⟩ := h.sold iId wId r written
    have known : (rows (.stock iId wId)).isSome := by
      have same : (store (.stock iId wId)).isSome = (rows (.stock iId wId)).isSome :=
        sound.store (.stock iId wId)
      rw [← same, there, Option.isSome_some]
    rw [after, quantities_missing missing known, ← before]
    exact ⟨s, s', there, rfl, less⟩
  unsold iId wId unwritten known := by
    rw [after, quantities_missing missing known, ← before]
    exact h.unsold iId wId unwritten known
  taking k here := by simp [taking] at here
  read oId k s here := absurd here (p'.not_stocked taking oId k s)

/-- What an execution sees of a stock row is what is committed, less what it has taken. -/
theorem StockLocal.viewed (h : StockLocal rows dialect data p tx store)
    (sound : tx.Sound (SameStock rows) store) (global : StockKept rows store results)
    {iId wId : Int} {x : Stock} (view : tx.view store (.stock iId wId) = some x) :
    ∃ s, store (.stock iId wId) = some s ∧ Less s x (data.quantities p.sold (iId, wId)).sum := by
  cases written : tx.own (.stock iId wId) with
  | some r =>
    obtain ⟨s, s', there, rfl, less⟩ := h.sold iId wId r written
    obtain rfl : s' = x := Option.some.inj ((Tx.view_own written).symm.trans view)
    exact ⟨s, there, less⟩
  | none =>
    have there : store (.stock iId wId) = some x := (Tx.view_untouched written).symm.trans view
    have same : (store (.stock iId wId)).isSome = (rows (.stock iId wId)).isSome :=
      sound.store (.stock iId wId)
    have known : (rows (.stock iId wId)).isSome := by
      rw [← same, there, Option.isSome_some]
    obtain ⟨s₀, initial⟩ := Option.isSome_iff_exists.mp known
    obtain ⟨x', there', less⟩ := global iId wId s₀ initial
    obtain rfl : x = x' := Option.some.inj (there.symm.trans there')
    rw [h.unsold iId wId written known]
    exact ⟨x, there, .refl less.2⟩

/-- An update takes the ordered quantity off the row that was read. -/
theorem StockLocal.take {oId : Int} {k : Nat} {s : Option Stock}
    {f : Option Stock → Option Stock}
    (h : StockLocal rows dialect data (.line oId k (.stocked s)) tx store)
    (sound : tx.Sound (SameStock rows) store) (global : StockKept rows store results)
    (takes : TakesQuantity data k s f)
    (good : asRead dialect store tx
      (.write (.stock (data.line k).olIId (data.line k).olSupplyWId) f : Stmt Key Row O)) :
    StockLocal rows dialect data (.line oId k .taken)
      (tx.perform store
        (.write (.stock (data.line k).olIId (data.line k).olSupplyWId) f : Stmt Key Row O))
      store := by
  obtain ⟨g, rfl, takes⟩ := takes
  obtain ⟨noticed, known, held⟩ := h.read oId k s rfl
  have same : (tx.view store (.stock (data.line k).olIId (data.line k).olSupplyWId)).isSome =
      (rows (.stock (data.line k).olIId (data.line k).olSupplyWId)).isSome :=
    sound.view (.stock (data.line k).olIId (data.line k).olSupplyWId)
  cases view : tx.view store (.stock (data.line k).olIId (data.line k).olSupplyWId) with
  | none =>
    rw [view, Option.isSome_none] at same
    rw [Tx.perform_write_absent view rfl]
    have missing := Option.isNone_iff_eq_none.mp (Option.isSome_eq_false_iff.mp same.symm)
    exact h.miss (k := k) sound rfl rfl missing rfl
  | some x =>
    have read : ∃ sr, s = some sr ∧ x.sQuantity = sr.sQuantity := by
      rw [view, Option.isSome_some] at same
      rw [← same] at known
      by_cases locks : dialect.locksStock
      · have seen := (held locks known).2
        exact ⟨x, seen.symm.trans view, rfl⟩
      · have equal : s.map Stock.sQuantity = some x.sQuantity := by
          simpa [asRead, locks, noticed, view] using good
        obtain ⟨sr, rfl, quantity⟩ := Option.map_eq_some_iff.mp equal
        exact ⟨sr, rfl, quantity.symm⟩
    obtain ⟨sr, rfl, quantity⟩ := read
    obtain ⟨s₀, there, less⟩ := h.viewed sound global view
    have left := less.take (h.quantities k (h.taking k rfl)) (takes sr rfl x quantity)
    have row : (tx.view store (.stock (data.line k).olIId (data.line k).olSupplyWId)).isSome := by
      rw [view, Option.isSome_some]
    refine ⟨h.quantities, ?_, ?_, fun _ here => (by cases here),
      fun oId k s here => absurd here (NewOrderPhase.not_stocked rfl oId k s)⟩
    · intro iId wId r written
      by_cases here : data.stockKey k = (iId, wId)
      · cases here
        rw [Tx.perform_write_self (.inl row), view] at written
        cases written
        refine ⟨s₀, g x, there, rfl, ?_⟩
        show Less s₀ (g x) (data.quantities (k + 1) (data.stockKey k)).sum
        rw [quantities_succ, if_pos rfl, List.sum_append, List.sum_singleton]
        exact left
      · have other : Key.stock iId wId ≠
            .stock (data.line k).olIId (data.line k).olSupplyWId := by
          rintro ⟨⟩
          exact here rfl
        rw [Tx.perform_write_ne other] at written
        obtain ⟨s, s', there, same, less⟩ := h.sold iId wId r written
        refine ⟨s, s', there, same, ?_⟩
        show Less s s' (data.quantities (k + 1) (iId, wId)).sum
        rw [quantities_succ, if_neg here, List.append_nil]
        exact less
    · intro iId wId unwritten known
      by_cases here : data.stockKey k = (iId, wId)
      · cases here
        rw [Tx.perform_write_self (.inl row)] at unwritten
        cases unwritten
      · have other : Key.stock iId wId ≠
            .stock (data.line k).olIId (data.line k).olSupplyWId := by
          rintro ⟨⟩
          exact here rfl
        rw [Tx.perform_write_ne other] at unwritten
        show data.quantities (k + 1) (iId, wId) = []
        rw [quantities_succ, if_neg here, List.append_nil]
        exact h.unsold iId wId unwritten known

/-- A stock row has been read, or locked. -/
theorem StockLocal.stocked {oId : Int} {k : Nat} {s : Option Stock}
    (h : StockLocal rows dialect data (.line oId k .priced) tx store)
    (own : tx'.own = tx.own)
    (seen : tx'.seen (.stock (data.line k).olIId (data.line k).olSupplyWId) = some s)
    (known : s.isSome =
      (rows (.stock (data.line k).olIId (data.line k).olSupplyWId)).isSome)
    (held : dialect.locksStock → s.isSome →
      tx'.locked (.stock (data.line k).olIId (data.line k).olSupplyWId) ∧
        tx'.view store (.stock (data.line k).olIId (data.line k).olSupplyWId) = s) :
    StockLocal rows dialect data (.line oId k (.stocked s)) tx' store where
  quantities := h.quantities
  sold := own ▸ h.sold
  unsold := own ▸ h.unsold
  taking := h.taking
  read := by
    rintro _ _ _ ⟨⟩
    exact ⟨seen, known, held⟩

theorem StockLocal.read_issue {mode : Mode} {k : Key}
    (h : StockLocal rows dialect data p tx store) (sound : tx.Sound (SameStock rows) store)
    (allowed : NewOrderAllowed dialect data p (.read mode k : Stmt Key Row O))
    (good : asRead dialect store tx (.read mode k : Stmt Key Row O)) :
    StockLocal rows dialect data
      (p.next dialect (.read mode k : Stmt Key Row O) (tx.sees store mode k))
      (tx.perform store (.read mode k : Stmt Key Row O)) store := by
  have kept {p'} (other : ∀ iId wId, k ≠ .stock iId wId) (sold : p'.sold = p.sold)
      (taking : ∀ k, p'.taking = some k → k < data.oOlCnt)
      (read : ∀ oId k s, p' = .line oId k (.stocked s) → p = .line oId k (.stocked s)) :
      StockLocal rows dialect data p' (tx.perform store (.read mode k : Stmt Key Row O)) store := by
    apply h.keep (fun _ => Tx.perform_keeps) _ _ sold taking read
    · intro iId wId
      rw [Tx.perform_read_own]
    · intro iId wId
      exact Tx.perform_read_seen_ne (other iId wId).symm
  cases k with
  | item iId =>
    obtain ⟨oId, k, rfl, bound⟩ := allowed
    cases reply : tx.sees store mode (.item iId) with
    | none =>
      exact kept (fun _ _ same => by cases same) rfl h.taking fun _ _ _ here =>
        absurd here (NewOrderPhase.not_stocked rfl _ _ _)
    | some item =>
      have priced : dialect.skips item = false := by
        cases dialect with
        | mysql => simpa [asRead, Dialect.finds, reply, Dialect.skips] using good
        | plpgsql => rfl
        | c => rfl
        | oracle => rfl
      have phase : NewOrderPhase.next dialect (.line oId k .fresh)
          (.read mode (.item iId) : Stmt Key Row O) (some item) = .line oId k .priced := by
        simp [NewOrderPhase.next, NewOrderPhase.afterItem, priced]
      have taking (k' : Nat) (here : NewOrderPhase.taking (.line oId k .priced) = some k') :
          k' < data.oOlCnt := by
        cases here
        exact bound
      rw [phase]
      exact kept (fun _ _ same => by cases same) rfl taking fun _ _ _ here => by cases here
  | stock iId wId =>
    obtain ⟨plain, oId, k, rfl, here⟩ := allowed
    cases here
    apply h.stocked (Tx.perform_read_own _ _)
    · exact Tx.perform_read_seen_self _ _
    · exact sound.sees mode (.stock (data.line k).olIId (data.line k).olSupplyWId)
    · intro locks
      rw [plain] at locks
      cases locks
  | warehouse _ =>
    exact kept (fun _ _ same => by cases same) rfl h.taking fun _ _ _ here => here
  | customer _ _ _ =>
    exact kept (fun _ _ same => by cases same) rfl h.taking fun _ _ _ here => here
  | district _ _ => exact absurd allowed id
  | newOrder _ _ _ => exact absurd allowed id
  | orders _ _ _ => exact absurd allowed id
  | lines _ _ _ => exact absurd allowed id

theorem StockLocal.lock_issue {k : Key}
    (h : StockLocal rows dialect data p tx store) (sound : tx.Sound (SameStock rows) store)
    (allowed : NewOrderAllowed dialect data p (.lock k : Stmt Key Row O)) :
    StockLocal rows dialect data
      (p.next dialect (.lock k : Stmt Key Row O) (tx.view store k))
      (tx.perform store (.lock k : Stmt Key Row O)) store := by
  cases k with
  | district wId dId =>
    obtain ⟨rfl, -⟩ := allowed
    have kept {p'} (sold : p'.sold = 0) (taking : p'.taking = none) :
        StockLocal rows dialect data p'
          (tx.perform store (.lock (.district wId dId) : Stmt Key Row O)) store := by
      apply h.keep (fun _ => Tx.perform_keeps) _ _ sold
      · intro k here
        simp [taking] at here
      · exact fun oId k s here => absurd here (p'.not_stocked taking oId k s)
      · intro iId wId
        rw [Tx.perform_lock_own]
      · exact fun _ _ => Tx.perform_lock_seen_ne nofun
    cases view : tx.view store (.district wId dId) with
    | none => exact kept rfl rfl
    | some x => exact kept rfl rfl
  | stock iId wId =>
    obtain ⟨-, oId, k, rfl, here⟩ := allowed
    cases here
    apply h.stocked (Tx.perform_lock_own _)
    · exact Tx.perform_lock_seen_self _
    · exact sound.view (.stock (data.line k).olIId (data.line k).olSupplyWId)
    · intro _ there
      refine ⟨Tx.perform_lock_locked there, ?_⟩
      unfold Tx.view
      rw [Tx.perform_lock_own]
  | warehouse _ => exact absurd allowed id
  | customer _ _ _ => exact absurd allowed id
  | item _ => exact absurd allowed id
  | newOrder _ _ _ => exact absurd allowed id
  | orders _ _ _ => exact absurd allowed id
  | lines _ _ _ => exact absurd allowed id

theorem StockLocal.write_issue {k : Key} {f : Option (Row k) → Option (Row k)}
    (h : StockLocal rows dialect data p tx store) (sound : tx.Sound (SameStock rows) store)
    (global : StockKept rows store results)
    (allowed : NewOrderAllowed dialect data p (.write k f : Stmt Key Row O))
    (good : asRead dialect store tx (.write k f : Stmt Key Row O)) :
    StockLocal rows dialect data
      (p.next dialect (.write k f : Stmt Key Row O) (tx.view store k))
      (tx.perform store (.write k f : Stmt Key Row O)) store := by
  have kept {p'} (other : ∀ iId wId, k ≠ .stock iId wId) (sold : p'.sold = p.sold)
      (taking : p'.taking = none) :
      StockLocal rows dialect data p' (tx.perform store (.write k f : Stmt Key Row O)) store := by
    apply h.keep (fun _ => Tx.perform_keeps) _ _ sold
    · intro k here
      simp [taking] at here
    · exact fun oId k s here => absurd here (p'.not_stocked taking oId k s)
    · exact fun iId wId => Tx.perform_write_ne (other iId wId).symm
    · intro iId wId
      rw [Tx.perform_write_seen]
  cases k with
  | district wId dId =>
    obtain ⟨rfl | ⟨oId, rfl⟩, -, -⟩ := allowed
    · cases view : tx.view store (.district wId dId) with
      | none => exact kept nofun rfl rfl
      | some x => exact kept nofun rfl rfl
    · exact kept nofun rfl rfl
  | newOrder wId dId oId =>
    obtain ⟨rfl, -⟩ := allowed
    exact kept nofun rfl rfl
  | orders wId dId oId =>
    obtain ⟨rfl, -⟩ := allowed
    exact kept nofun rfl rfl
  | stock iId wId =>
    obtain ⟨oId, k, s, rfl, here, takes⟩ := allowed
    cases here
    exact h.take sound global takes good
  | lines wId dId oId =>
    obtain ⟨oId', k, stage, rfl, rfl | rfl, -⟩ := allowed
    · exact kept nofun rfl rfl
    · have absent := (h.read oId' k none rfl).2.1
      have missing := Option.isNone_iff_eq_none.mp (Option.isSome_eq_false_iff.mp absent.symm)
      have missed : StockLocal rows dialect data (.line oId' (k + 1) .fresh) tx store :=
        h.miss (k := k) sound rfl rfl missing rfl
      apply missed.keep (fun _ => Tx.perform_keeps) _ _ rfl missed.taking
        fun oId k s here => absurd here (NewOrderPhase.not_stocked rfl oId k s)
      · exact fun _ _ => Tx.perform_write_ne nofun
      · intro iId wId
        rw [Tx.perform_write_seen]
  | warehouse _ => exact absurd allowed id
  | customer _ _ _ => exact absurd allowed id
  | item _ => exact absurd allowed id

/-- Every step that meets the condition keeps what an execution has taken. -/
theorem StockLocal.issue {q : Stmt Key Row O} (h : StockLocal rows dialect data p tx store)
    (sound : tx.Sound (SameStock rows) store) (global : StockKept rows store results)
    (allowed : NewOrderAllowed dialect data p q) (good : asRead dialect store tx q) :
    StockLocal rows dialect data (p.next dialect q (tx.reply store q)) (tx.perform store q)
      store := by
  cases q with
  | read mode k => exact h.read_issue sound allowed good
  | lock k => exact h.lock_issue sound allowed
  | write k f => exact h.write_issue sound global allowed good
  | emit o => exact h
  | find mode q => exact absurd allowed id
  | lockFound q => exact absurd allowed id

/-- Another execution's commit leaves the stock rows that this one has locked. -/
theorem StockLocal.others (h : StockLocal rows dialect data p tx' store)
    (sound : tx.Sound (SameStock rows) store) (sound' : tx'.Sound (SameStock rows) store)
    (apart : ∀ k, tx.locked k → tx'.locked k = false) :
    StockLocal rows dialect data p tx' (tx.view store) := by
  refine ⟨h.quantities, ?_, h.unsold, h.taking, ?_⟩
  · intro iId wId r written
    have locked : tx'.locked (.stock iId wId) := by
      by_contra free
      rw [sound'.guarded _ (Bool.eq_false_of_not_eq_true free)] at written
      cases written
    rw [sound.untouched apart locked]
    exact h.sold iId wId r written
  · intro oId k s here
    obtain ⟨noticed, known, held⟩ := h.read oId k s here
    refine ⟨noticed, known, ?_⟩
    intro locks there
    obtain ⟨locked, view⟩ := held locks there
    refine ⟨locked, ?_⟩
    rw [← view]
    exact Tx.view_congr (sound.untouched apart locked)

theorem orderedOf_append (r : Committed Key Row E A NewOrderData) (stock : Int × Int) :
    orderedOf (results ++ [r]) stock =
      orderedOf results stock + (r.args.quantities r.args.oOlCnt stock).sum := by
  unfold orderedOf
  rw [List.map_append, List.sum_append, List.map_singleton, List.sum_singleton]

/-- An execution that ends well has taken what was ordered. -/
theorem StockKept.commit (v : Except E A) (global : StockKept rows store results)
    (h : StockLocal rows dialect data p tx store) (sold : p.sold = data.oOlCnt) :
    StockKept rows (tx.view store) (results ++ [⟨data, v, tx⟩]) := by
  intro iId wId s initial
  obtain ⟨before, there, less⟩ := global iId wId s initial
  rw [orderedOf_append, ← sold]
  cases written : tx.own (.stock iId wId) with
  | none =>
    have known : (rows (.stock iId wId)).isSome := by
      rw [initial, Option.isSome_some]
    rw [h.unsold iId wId written known, List.sum_nil, add_zero, Tx.view_untouched written]
    exact ⟨before, there, less⟩
  | some r =>
    obtain ⟨before', after, there', rfl, taken⟩ := h.sold iId wId r written
    obtain rfl : before = before' := Option.some.inj (there.symm.trans there')
    exact ⟨after, Tx.view_own written, less.trans taken⟩

/-- Where rows are not missing, an execution that ends well is through with its lines. -/
theorem sold_of_ended (ended : NewOrderEnded dialect (fun k r => dialect.finds k r) data p) :
    p.sold = data.oOlCnt := by
  obtain ⟨oId, rfl⟩ | ⟨rfl, missing | missing | missing | ⟨oId, k, rfl, missing⟩⟩ := ended
  · rfl
  · cases missing
  · cases missing
  · cases missing
  · cases missing

end Local

/-! ## All executions -/

section Runs

variable {rows : Rows} {dialect : Dialect}

theorem newOrder_sameStock {O : Type} {data : NewOrderData} {p : NewOrderPhase} {k : Key}
    {f : Option (Row k) → Option (Row k)}
    (allowed : NewOrderAllowed dialect data p (.write k f : Stmt Key Row O)) (r : Option (Row k))
    (same : SameStock rows k r) : SameStock rows k (f r) := by
  cases k with
  | stock iId wId =>
    obtain ⟨-, -, -, -, -, g, rfl, -⟩ := allowed
    exact Option.isSome_map.trans same
  | warehouse _ => trivial
  | district _ _ => trivial
  | customer _ _ _ => trivial
  | newOrder _ _ _ => trivial
  | orders _ _ _ => trivial
  | lines _ _ _ => trivial
  | item _ => trivial

theorem finds_of_asRead {O : Type} {store : Rows} {tx : Tx Key Row} {q : Stmt Key Row O}
    (good : asRead dialect store tx q) :
    q.ReplyOk (fun k r => dialect.finds k r) (tx.reply store q) := by
  cases q with
  | read mode k => exact good
  | lock k => exact good
  | write k f => trivial
  | emit o => trivial
  | find mode q => trivial
  | lockFound q => trivial

/-- Line quantities are from 1 to 10. -/
def ValidQuantities (data : NewOrderData) : Prop :=
  ∀ k < data.oOlCnt, 1 ≤ (data.line k).olQuantity ∧ (data.line k).olQuantity ≤ 10

variable (rows dialect) in
theorem stock_governed :
    Governed dialect.newOrder.program dialect.newOrder.commits ValidQuantities (SameStock rows)
      (asRead dialect) (newOrderProtocol dialect fun k r => dialect.finds k r)
      (fun data p v => dialect.newOrder.commits v →
        NewOrderEnded dialect (fun k r => dialect.finds k r) data p)
      (StockLocal rows dialect) (StockKept rows) where
  writes _ _ _ _ allowed := newOrder_sameStock allowed
  start data _ valid := ⟨.idle, .start valid, newOrder_follows _ data dialect⟩
  issue _ _ _ _ _ _ global sound h allowed good :=
    ⟨_, ⟨finds_of_asRead good, rfl⟩, h.issue sound global allowed good⟩
  commit _ _ _ _ _ v global _ h ended committed :=
    global.commit v h (sold_of_ended (ended committed))
  others _ _ _ _ _ _ _ _ _ _ sound sound' _ _ _ h' apart := h'.others sound sound' apart

/-- However New-Orders are interleaved, if each update of a stock row finds the quantity that the
execution read last, none is lost and every quantity stays in its range. -/
theorem stock_kept (dialect : Dialect)
    (ranges : ∀ iId wId s, rows (.stock iId wId) = some s → InRange s.sQuantity)
    {events : List (Locking.Event NewOrderData)}
    (valid : ∀ data, .start data ∈ events → ValidQuantities data)
    {sys : dialect.newOrder.System}
    (ran : run dialect.newOrder.step (.start rows) events = some sys)
    (along : Along dialect.newOrder.step (System.permits (asRead dialect)) (.start rows) events) :
    StockKept rows sys.store sys.results := by
  have start : StockKept rows rows
      ([] : List (Committed Key Row dialect.newOrder.Error dialect.newOrder.Value NewOrderData)) :=
    fun iId wId s initial => ⟨s, initial, .refl (ranges iId wId s initial)⟩
  have same (k : Key) : SameStock rows k (rows k) := by
    cases k <;> first | rfl | trivial
  exact ((stock_governed rows dialect).run ran valid along (.start same start)).global

end Runs

/-- Two districts whose orders are for one stock row. -/
def twoDistricts : Database :=
  { oneOrder with
    district := [oneDistrict, { oneDistrict with dId := 2 }]
    customer := oneOrder.customer ++ oneOrder.customer.map fun c => { c with cDId := 2 } }

def secondDistrict : NewOrderData := { oneItem 1 1 with dId := 2, dId_bounds := by decide }

theorem twoDistricts_ranges (iId wId : Int) (s : Stock)
    (there : twoDistricts.rows (.stock iId wId) = some s) : InRange s.sQuantity := by
  have found : twoDistricts.stock.find? (fun s => s.key = (iId, wId)) = some s := there
  obtain rfl := List.mem_singleton.mp (List.mem_of_find?_eq_some found)
  unfold InRange
  decide

/-- The second execution goes on to its seventh statement, which reads the stock row, when the
first has committed. -/
def oneAfterTheOther : List (Locking.Event NewOrderData) :=
  [Locking.Event.start (oneItem 1 1), Locking.Event.start secondDistrict] ++
    List.replicate 6 (Locking.Event.step 1) ++ List.replicate 10 (Locking.Event.step 0) ++
    [Locking.Event.commit 0] ++ List.replicate 4 (Locking.Event.step 1) ++ [Locking.Event.commit 1]

/-- Both executions read the stock row before either updates it. -/
def sideBySide : List (Locking.Event NewOrderData) :=
  [Locking.Event.start (oneItem 1 1), Locking.Event.start secondDistrict] ++
    List.replicate 7 (Locking.Event.step 0) ++ List.replicate 7 (Locking.Event.step 1) ++
    List.replicate 3 (Locking.Event.step 0) ++ [Locking.Event.commit 0] ++
    List.replicate 3 (Locking.Event.step 1) ++ [Locking.Event.commit 1]

theorem oneItem_quantities : ValidQuantities (oneItem 1 1) ∧ ValidQuantities secondDistrict := by
  unfold ValidQuantities
  decide

theorem stock_kept_apart : ∃ sys,
    run (Dialect.newOrder .plpgsql).step (.start twoDistricts.rows) oneAfterTheOther = some sys ∧
      StockKept twoDistricts.rows sys.store sys.results := by
  have runs : (run (Dialect.newOrder .plpgsql).step (.start twoDistricts.rows)
      oneAfterTheOther).isSome := by
    decide
  obtain ⟨sys, ran⟩ := Option.isSome_iff_exists.mp runs
  have valid (data : NewOrderData) (mem : .start data ∈ oneAfterTheOther) :
      ValidQuantities data := by
    obtain rfl | rfl : data = oneItem 1 1 ∨ data = secondDistrict := by
      simpa [oneAfterTheOther] using mem
    · exact oneItem_quantities.1
    · exact oneItem_quantities.2
  exact ⟨sys, ran, stock_kept .plpgsql twoDistricts_ranges valid ran (by decide)⟩

/-- Both executions find 50 pieces and leave 45, and both commit. -/
theorem stock_lost : ¬ ∀ (dialect : Dialect) (rows : Rows)
    (events : List (Locking.Event NewOrderData)) (sys : dialect.newOrder.System),
    (∀ iId wId s, rows (.stock iId wId) = some s → InRange s.sQuantity) →
      (∀ data, .start data ∈ events → ValidQuantities data) →
        run dialect.newOrder.step (.start rows) events = some sys →
          StockKept rows sys.store sys.results := by
  intro kept
  have outcome : (run (Dialect.newOrder .plpgsql).step (.start twoDistricts.rows) sideBySide).map
      (fun sys => ((sys.store (.stock 1 1)).map Stock.sQuantity, orderedOf sys.results (1, 1))) =
        some (some 45, 10) := by
    decide
  obtain ⟨sys, ran, left⟩ := Option.map_eq_some_iff.mp outcome
  have valid (data : NewOrderData) (mem : .start data ∈ sideBySide) : ValidQuantities data := by
    obtain rfl | rfl : data = oneItem 1 1 ∨ data = secondDistrict := by
      simpa [sideBySide] using mem
    · exact oneItem_quantities.1
    · exact oneItem_quantities.2
  obtain ⟨s, there, less⟩ := kept .plpgsql twoDistricts.rows sideBySide sys twoDistricts_ranges valid
    ran 1 1 { (default : Stock) with sIId := 1, sWId := 1, sQuantity := 50 } rfl
  obtain ⟨quantity, ordered⟩ := Prod.mk.inj left
  rw [there] at quantity
  have same : s.sQuantity = 45 := Option.some.inj quantity
  have congruent := less.1
  rw [same, ordered] at congruent
  exact absurd congruent (by decide)

end Dbt2
