import Mathlib

/-!
# Memory

Cells at integer addresses, of any content, written and read in runs.

* `store`: a run of cells from an address on, `load`: what a run of cells holds;
* `store_outside`, `load_store`: a run is changed, and nothing else.
-/

namespace Memory

variable {α : Type*}

def store (m : Int → α) (p : Int) : List α → Int → α
  | [] => m
  | c :: s => store (Function.update m p c) (p + 1) s

def load (m : Int → α) (p : Int) : Nat → List α
  | 0 => []
  | n + 1 => m p :: load m (p + 1) n

theorem store_append (m : Int → α) (p : Int) (s t : List α) :
    store m p (s ++ t) = store (store m p s) (p + s.length) t := by
  induction s generalizing m p with
  | nil => simp [store]
  | cons c s ih =>
    rw [List.cons_append, store, ih, store, List.length_cons, Nat.cast_succ]
    congr 1
    omega

theorem store_outside {m : Int → α} {p : Int} {s : List α} {a : Int}
    (outside : a < p ∨ p + s.length ≤ a) : store m p s a = m a := by
  induction s generalizing m p with
  | nil => rfl
  | cons c s ih =>
    rw [List.length_cons, Nat.cast_succ] at outside
    rw [store, ih (by omega), Function.update_of_ne (by omega)]

theorem load_store (m : Int → α) (p : Int) (s : List α) : load (store m p s) p s.length = s := by
  induction s generalizing m p with
  | nil => rfl
  | cons c s ih =>
    rw [List.length_cons, load, store, ih, store_outside (by omega), Function.update_self]

theorem load_take (m : Int → α) (p : Int) {k n : Nat} (le : k ≤ n) :
    (load m p n).take k = load m p k := by
  induction k generalizing p n with
  | zero => rfl
  | succ k ih =>
    obtain ⟨n, rfl⟩ := Nat.exists_eq_add_of_le' le
    change m p :: (load m (p + 1) (n + k)).take k = m p :: load m (p + 1) k
    rw [ih _ (by omega)]

end Memory
