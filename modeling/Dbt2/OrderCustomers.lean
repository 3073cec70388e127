import Dbt2.Partition
import Dbt2.Lib.Insertions

/-!
# The customers of a district's orders

`gen_orders` links the numbers of the customers in random order, and gives the orders of a district
to them in that order.

* `insertNumber`: the walk to a random place of the list and the insertion there;
* `orderCustomers`: the customers of the orders, for the number of steps of each walk;
* `order_customers`: they are a permutation, and every permutation comes from one sequence of walks;
* `permutation_walks`: the list that the generator draws is one of these.
-/

namespace Dbt2

open Draws Insertions LinkedQueue

/-- The nodes by their addresses; the one of the `k`-th `malloc` has address `k`. -/
structure NodeList where
  value : Nat → Int
  next : Nat → Option Nat
  head : Option Nat

namespace NodeList

def first : NodeList where
  value _ := 1
  next _ := none
  head := some 1

/-- Inserts number `k` after a walk of `iter` steps. -/
def insertNumber (m : NodeList) (k iter : Nat) : Option NodeList := do
  let (current, prev) := walk m.next iter m.head m.head
  let (next, head) ← insertNode m.next m.head current prev k
  pure { value := Function.update m.value k k, next, head }

/-- The numbers up to `n + 1`; the walks are counted from that of number 2. -/
def numbers (iter : Nat → Nat) : Nat → Option NodeList
  | 0 => some first
  | n + 1 => do
    let m ← numbers iter n
    m.insertNumber (n + 2) (iter n)

/-- The customers of so many orders, starting with the node at `current`. The program exits if
there is none left. -/
def customersFrom (m : NodeList) : Nat → Option Nat → Option (List Int)
  | 0, _ => some []
  | _ + 1, none => none
  | orders + 1, some a => do
    let rest ← m.customersFrom orders (m.next a)
    pure (m.value a :: rest)

end NodeList

/-- The lengths of the walks of `n` customers: that of number `k` is less than `k`. -/
abbrev Walks (n : Nat) : Type := (i : Fin (n - 1)) → Fin (i + 2)

def Walks.iter {n : Nat} (w : Walks n) (i : Nat) : Nat :=
  if inside : i < n - 1 then w ⟨i, inside⟩ else 0

def orderCustomers (n : Nat) (w : Walks n) (orders : Nat) : Option (List Int) := do
  let m ← NodeList.numbers w.iter (n - 1)
  m.customersFrom orders m.head

/-! ## The list -/

/-- The position of the `k`-th number; the first has no choice. -/
def position (iter : Nat → Nat) : Nat → Nat
  | 0 => 0
  | k + 1 => iter k

theorem inRange_position {iter : Nat → Nat} {n : Nat} (range : ∀ i < n, iter i < i + 2) :
    InRange (position iter) (n + 1) := by
  intro k lt
  cases k with
  | zero => exact le_rfl
  | succ k => exact Nat.le_of_lt_succ (range k (Nat.lt_of_succ_lt_succ lt))

namespace NodeList

/-- The nodes of a list, each with its own number. -/
def Lists (m : NodeList) (l : List Nat) : Prop :=
  Path m.next m.head l ∧ ∀ a ∈ l, m.value a = a

theorem Lists.insertNumber {m : NodeList} {l : List Nat} {k iter : Nat} (lists : m.Lists l)
    (nodup : l.Nodup) (fresh : k ∉ l) (inside : iter ≤ l.length) :
    ∃ m', m.insertNumber k iter = some m' ∧ m'.Lists (l.insertIdx iter k) := by
  obtain ⟨next, head, linked, path⟩ := path_insertNode lists.1 nodup fresh inside
  refine ⟨{ value := Function.update m.value k k, next, head }, ?_, path, ?_⟩
  · change (insertNode m.next m.head (walk m.next iter m.head m.head).1
      (walk m.next iter m.head m.head).2 k >>= fun r => some (NodeList.mk _ r.1 r.2)) = _
    rw [linked]
    rfl
  · intro a mem
    obtain rfl | old := List.eq_or_mem_of_mem_insertIdx mem
    · exact Function.update_self ..
    · exact (Function.update_of_ne (fun same : a = k => fresh (same ▸ old)) _ _).trans
        (lists.2 a old)

/-- After `n` insertions the list has the numbers up to `n + 1`. -/
theorem numbers_lists {iter : Nat → Nat} {n : Nat} (range : ∀ i < n, iter i < i + 2) :
    ∃ m, numbers iter n = some m ∧
      m.Lists (inserted Nat.succ (position iter) (n + 1)) := by
  induction n with
  | zero =>
    refine ⟨first, rfl, .cons .nil, ?_⟩
    intro a mem
    obtain rfl := List.mem_singleton.mp mem
    rfl
  | succ n ih =>
    have before : InRange (position iter) (n + 1) :=
      inRange_position fun i lt => range i (Nat.lt_succ_of_lt lt)
    obtain ⟨m, built, lists⟩ := ih fun i lt => range i (Nat.lt_succ_of_lt lt)
    have nodup : (inserted Nat.succ (position iter) (n + 1)).Nodup :=
      (inserted_perm before).nodup_iff.mpr (List.nodup_range.map Nat.succ_injective)
    have inside : iter n ≤ (inserted Nat.succ (position iter) (n + 1)).length := by
      rw [length_inserted before]
      exact Nat.le_of_lt_succ (range n n.lt_succ_self)
    obtain ⟨m', inserts, lists'⟩ :=
      lists.insertNumber nodup (notMem_inserted Nat.succ_injective before) inside
    exact ⟨m', by rw [numbers, built]; exact inserts, lists'⟩

theorem customersFrom_path {m : NodeList} {current : Option Nat} {l : List Nat}
    (path : Path m.next current l) (value : ∀ a ∈ l, m.value a = a) {orders : Nat}
    (enough : orders ≤ l.length) :
    m.customersFrom orders current = some ((l.map Nat.cast).take orders) := by
  induction path generalizing orders with
  | nil =>
    obtain rfl := Nat.le_zero.mp enough
    rfl
  | @cons a l rest ih =>
    cases orders with
    | zero => rfl
    | succ orders =>
      have tail := ih (fun b mem => value b (List.mem_cons_of_mem a mem))
        (Nat.le_of_succ_le_succ enough)
      rw [customersFrom, tail, value a List.mem_cons_self]
      rfl

end NodeList

/-! ## Walks and permutations -/

theorem Walks.iter_lt {n : Nat} (w : Walks n) (i : Nat) : w.iter i < i + 2 := by
  unfold Walks.iter
  split
  · exact (w _).isLt
  · omega

theorem Walks.inRange {n : Nat} (w : Walks n) : InRange (position w.iter) n :=
  fun k lt => inRange_position (n := n) (fun i _ => w.iter_lt i) k (Nat.lt_succ_of_lt lt)

/-- The walks to given positions. -/
def Walks.to {n : Nat} (p : Nat → Nat) (range : InRange p n) : Walks n :=
  fun i => ⟨p (i + 1), Nat.lt_succ_of_le (range _ (by omega))⟩

theorem Walks.inserted_to {α : Type} {n : Nat} {p : Nat → Nat} (range : InRange p n)
    (x : Nat → α) : inserted x (position (Walks.to p range).iter) n = inserted x p n := by
  refine inserted_congr fun k lt => ?_
  cases k with
  | zero => exact (Nat.le_zero.mp (range 0 lt)).symm
  | succ k => exact dif_pos (by omega)

/-- The number of a node, counted from one. -/
def number (k : Nat) : Int := k + 1

theorem number_injective : Function.Injective number := by
  intro a b same
  simpa [number] using same

theorem range_map_number (n : Nat) : (List.range n).map number = Int.range 1 (n + 1) := by
  rw [Int.range, show ((n : Int) + 1 - 1).toNat = n by omega]
  exact List.map_congr_left fun k _ => Int.add_comm k 1

/-- The customers of a district in the order of their insertion positions. -/
theorem orderCustomers_eq {n : Nat} (pos : 1 ≤ n) (w : Walks n) {orders : Nat}
    (enough : orders ≤ n) :
    orderCustomers n w orders = some ((inserted number (position w.iter) n).take orders) := by
  obtain ⟨m, built, path, value⟩ :=
    NodeList.numbers_lists (n := n - 1) fun i _ => w.iter_lt i
  rw [Nat.sub_add_cancel pos] at path value
  have length : (inserted Nat.succ (position w.iter) n).length = n := length_inserted w.inRange
  unfold orderCustomers
  rw [built, Option.bind_eq_bind, Option.bind_some,
    NodeList.customersFrom_path path value (by rw [length]; exact enough), map_inserted]
  simp only [Nat.succ_eq_add_one, Nat.cast_add, Nat.cast_one]
  rfl

theorem orderCustomers_all {n : Nat} (pos : 1 ≤ n) (w : Walks n) :
    orderCustomers n w n = some (inserted number (position w.iter) n) := by
  rw [orderCustomers_eq pos w le_rfl, List.take_of_length_le (length_inserted w.inRange).le]

/-- The orders of a district get its customers in an order in which each occurs once, and there is
exactly one sequence of walks for every such order. -/
theorem order_customers (n : Nat) (pos : 1 ≤ n) :
    (∀ w : Walks n, ∃ l : List Int, l.Perm (Int.range 1 (n + 1)) ∧
      ∀ orders ≤ n, orderCustomers n w orders = some (l.take orders)) ∧
    ∀ l : List Int, l.Perm (Int.range 1 (n + 1)) →
      ∃! w : Walks n, orderCustomers n w n = some l := by
  constructor
  · intro w
    refine ⟨_, ?_, fun orders enough => orderCustomers_eq pos w enough⟩
    rw [← range_map_number]
    exact inserted_perm w.inRange
  · intro l perm
    rw [← range_map_number] at perm
    obtain ⟨p, range, rfl⟩ := exists_inserted perm
    refine ⟨Walks.to p range, ?_, ?_⟩
    · change orderCustomers n (Walks.to p range) n = _
      rw [orderCustomers_all pos, Walks.inserted_to]
    · intro w made
      have equal := Option.some_inj.mp ((orderCustomers_all pos w).symm.trans made)
      funext i
      have here := inserted_injective number_injective w.inRange range equal (i + 1) (by omega)
      exact Fin.ext ((dif_pos i.isLt).symm.trans here)

theorem order_customers_three : 1 ≤ 3 ∧
    (∀ w : Walks 3, ∃ l : List Int, l.Perm (Int.range 1 4) ∧
      ∀ orders ≤ 3, orderCustomers 3 w orders = some (l.take orders)) ∧
    ∀ l : List Int, l.Perm (Int.range 1 4) → ∃! w : Walks 3, orderCustomers 3 w 3 = some l :=
  ⟨by decide, order_customers 3 (by decide)⟩

/-! ## The draws -/

theorem insertAt_eq_insertIdx {α : Type} {value : α} {iter : Nat} {list : List α}
    (inside : iter ≤ list.length) :
    Datagen.insertAt value iter list = list.insertIdx iter value := by
  induction iter generalizing list with
  | zero => rfl
  | succ iter ih =>
    cases list with
    | nil => exact absurd inside (Nat.not_succ_le_zero iter)
    | cons head tail =>
      rw [List.insertIdx_succ_cons, ← ih (Nat.le_of_succ_le_succ inside),
        Datagen.insertAt, Datagen.insertAt]
      cases iter with
      | zero => rfl
      | succ iter =>
        have enough : ¬ tail.length ≤ iter :=
          Nat.not_le_of_lt (Nat.le_of_succ_le_succ inside)
        simp [enough]

/-- The draws of `gen_orders` are positions. -/
theorem permutation_inserted (n : Nat) : Emits (Datagen.permutation n) fun list =>
    ∃ p, InRange p (n + 1) ∧ list = inserted number p (n + 1) := by
  induction n with
  | zero => exact Emits.pure ⟨id, fun k _ => le_rfl, rfl⟩
  | succ n ih =>
    refine ih.bind fun list ⟨p, range, made⟩ => (getRandom_emits (by omega)).bind
      fun iter bounds => Emits.pure ?_
    have length : list.length = n + 1 := by rw [made, length_inserted range]
    have unchanged : ∀ k < n + 1, Function.update p (n + 1) iter.toNat k = p k :=
      fun k lt => Function.update_of_ne lt.ne _ _
    refine ⟨Function.update p (n + 1) iter.toNat, ?_, ?_⟩
    · intro k lt
      obtain lt | rfl := Nat.lt_succ_iff_lt_or_eq.mp lt
      · rw [unchanged k lt]
        exact range k lt
      · rw [Function.update_self]
        omega
    · have inside : iter.toNat ≤ list.length := by omega
      rw [insertAt_eq_insertIdx inside, inserted, inserted_congr unchanged, ← made,
        Function.update_self]
      congr 1

theorem permutation_walks (n : Nat) : Emits (Datagen.permutation n) fun list =>
    ∃ w : Walks (n + 1), orderCustomers (n + 1) w (n + 1) = some list := by
  refine (permutation_inserted n).mono ?_
  rintro list ⟨p, range, rfl⟩
  refine ⟨Walks.to p range, ?_⟩
  rw [orderCustomers_all (Nat.le_add_left 1 n), Walks.inserted_to]

end Dbt2
