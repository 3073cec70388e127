import Mathlib

/-!
# Byte order

A word of `n` bytes lies in memory with its most or its least significant byte first.

* `bytes`, `word`: a word as it lies in memory, and the word that is read from there;
* `swap`: what becomes of a word that is written in one order and read in the other.
-/

namespace ByteOrder

inductive Endian where
  | big
  | little
  deriving DecidableEq

variable {n : Nat}

/-- The significance of the `i`-th byte. -/
def Endian.place : Endian → Fin n → Fin n
  | big, i => i.rev
  | little, i => i

def bytes (o : Endian) (w : BitVec (8 * n)) (i : Fin n) : BitVec 8 :=
  w.extractLsb' (8 * o.place i) 8

def word (o : Endian) (bs : Fin n → BitVec 8) : BitVec (8 * n) :=
  BitVec.ofFnLE fun k => (bs (o.place ⟨k / 8, by omega⟩)).getLsbD (k % 8)

@[simp]
theorem Endian.place_place (o : Endian) (i : Fin n) : o.place (o.place i) = i := by
  cases o with
  | big => exact Fin.rev_rev i
  | little => rfl

theorem getLsbD_bytes (o : Endian) (w : BitVec (8 * n)) (i : Fin n) {j : Nat} (lt : j < 8) :
    (bytes o w i).getLsbD j = w.getLsbD (8 * o.place i + j) := by
  simp [bytes, lt]

theorem getLsbD_word (o : Endian) (bs : Fin n → BitVec 8) (i : Fin n) {j : Nat} (lt : j < 8) :
    (word o bs).getLsbD (8 * i + j) = (bs (o.place i)).getLsbD j := by
  have within : 8 * i + j < 8 * n := by omega
  have high : (8 * i + j) / 8 = i := by omega
  have low : (8 * i + j) % 8 = j := by omega
  rw [BitVec.getLsbD_eq_getElem within, word, BitVec.getElem_ofFnLE]
  simp only [high, low, Fin.eta]

/-- Words are the same if their bits are, one byte after the other. -/
theorem ext_bytes {w w' : BitVec (8 * n)}
    (same : ∀ (i : Fin n) (j : Nat), j < 8 → w.getLsbD (8 * i + j) = w'.getLsbD (8 * i + j)) :
    w = w' := by
  apply BitVec.eq_of_getLsbD_eq
  intro k lt
  have bit := same ⟨k / 8, by omega⟩ (k % 8) (Nat.mod_lt k (by norm_num))
  rwa [Nat.div_add_mod] at bit

theorem word_bytes (o : Endian) (w : BitVec (8 * n)) : word o (bytes o w) = w := by
  apply ext_bytes
  intro i j lt
  rw [getLsbD_word o _ i lt, getLsbD_bytes o w _ lt, Endian.place_place]

theorem bytes_word (o : Endian) (bs : Fin n → BitVec 8) : bytes o (word o bs) = bs := by
  funext i
  apply BitVec.eq_of_getLsbD_eq
  intro j lt
  rw [getLsbD_bytes o _ i lt, getLsbD_word o bs _ lt, Endian.place_place]

/-! ## The other order -/

def swap (w : BitVec (8 * n)) : BitVec (8 * n) := word .big (bytes .little w)

theorem getLsbD_swap (w : BitVec (8 * n)) (i : Fin n) {j : Nat} (lt : j < 8) :
    (swap w).getLsbD (8 * i + j) = w.getLsbD (8 * i.rev + j) := by
  rw [swap, getLsbD_word .big _ i lt, getLsbD_bytes .little w _ lt]
  rfl

theorem swap_swap (w : BitVec (8 * n)) : swap (swap w) = w := by
  apply ext_bytes
  intro i j lt
  rw [getLsbD_swap _ i lt, getLsbD_swap w _ lt, Fin.rev_rev]

theorem bytes_swap (o : Endian) (w : BitVec (8 * n)) (i : Fin n) :
    bytes o (swap w) i = bytes o w i.rev := by
  have reversed : (o.place i).rev = o.place i.rev := by cases o <;> rfl
  apply BitVec.eq_of_getLsbD_eq
  intro j lt
  rw [getLsbD_bytes o _ i lt, getLsbD_swap w _ lt, getLsbD_bytes o w _ lt, reversed]

end ByteOrder
