import Mathlib

/-!
# Order statistics

* `sorted l`: the elements of a list in their order;
* `isLeast_sorted`: the one at position `k`, counted from zero, is the least that more than `k`
  elements of the list do not exceed;
* `sorted_dedup_eq`: the distinct elements in their order;
* `quantile p l`: the inverse of the empirical distribution at `p`, by the step where the fraction
  of the list passes `p`. `quantile_isLeast` says which element this is, and `quantile_eq` where it
  stands if `p` is a fraction of integers.
-/

namespace OrderStatistic

variable {α : Type} [LinearOrder α]

def sorted (l : List α) : List α := l.mergeSort fun a b => a ≤ b

theorem sorted_perm (l : List α) : (sorted l).Perm l := List.mergeSort_perm l _

theorem sorted_length (l : List α) : (sorted l).length = l.length := (sorted_perm l).length_eq

theorem sorted_pairwise (l : List α) : (sorted l).Pairwise (· ≤ ·) := by
  have pairwise : (l.mergeSort fun a b => decide (a ≤ b)).Pairwise fun a b => decide (a ≤ b) :=
    List.pairwise_mergeSort (fun a b c => by simpa using le_trans)
      (fun a b => by simpa using le_total a b) l
  simpa [sorted] using pairwise

theorem isLeast_sorted {l : List α} {k : Nat} (inside : k < (sorted l).length) :
    IsLeast {x | x ∈ l ∧ k < l.countP (· ≤ x)} (sorted l)[k] := by
  have order := sorted_pairwise l
  have count (x : α) : l.countP (· ≤ x) = (sorted l).countP (· ≤ x) :=
    ((sorted_perm l).countP_eq _).symm
  have split (x : α) : (sorted l).countP (· ≤ x) =
      ((sorted l).take k).countP (· ≤ x) + ((sorted l).drop k).countP (· ≤ x) := by
    rw [← List.countP_append, List.take_append_drop]
  have after : (sorted l).drop k = (sorted l)[k] :: (sorted l).drop (k + 1) :=
    List.drop_eq_getElem_cons inside
  constructor
  · refine ⟨(sorted_perm l).mem_iff.mp (List.getElem_mem inside), ?_⟩
    have before : ((sorted l).take k).countP (· ≤ (sorted l)[k]) = k := by
      rw [List.countP_eq_length.mpr, List.length_take_of_le inside.le]
      intro x mem
      obtain ⟨i, small, rfl⟩ := List.mem_take_iff_getElem.mp mem
      have lt : i < k := by omega
      simpa using List.pairwise_iff_getElem.mp order i k (by omega) inside lt
    rw [count, split, before, after, List.countP_cons_of_pos (by simp)]
    omega
  · rintro x ⟨-, many⟩
    by_contra below
    have above : ((sorted l).drop k).countP (· ≤ x) = 0 := by
      rw [List.countP_eq_zero]
      intro y mem
      rw [after] at mem
      have le : (sorted l)[k] ≤ y := by
        obtain rfl | later := List.mem_cons.mp mem
        · exact le_rfl
        · obtain ⟨i, small, rfl⟩ := List.mem_drop_iff_getElem.mp later
          exact List.pairwise_iff_getElem.mp order k _ inside (by omega) (by omega)
      simpa using (not_le.mp below).trans_le le
    have few : ((sorted l).take k).countP (· ≤ x) ≤ k :=
      List.countP_le_length.trans (List.length_take_le k _)
    rw [count, split, above] at many
    omega

/-- Only the members count. -/
theorem sorted_dedup_eq [DecidableEq α] {l m : List α} (ordered : m.Pairwise (· < ·))
    (same : ∀ x, x ∈ l ↔ x ∈ m) : sorted l.dedup = m := by
  have perm : (sorted l.dedup).Perm m := by
    refine (sorted_perm _).trans ((List.perm_ext_iff_of_nodup l.nodup_dedup ?_).mpr ?_)
    · exact ordered.imp ne_of_lt
    · simp [same]
  exact perm.eq_of_pairwise (fun _ _ _ _ => le_antisymm) (sorted_pairwise _) (ordered.imp le_of_lt)

/-- Position `⌊n p⌋` counted from one, or the next if that is less than `n p`. -/
def quantile (p : ℚ) (l : List α) : Option α :=
  let np := l.length * p
  let j := ⌊np⌋₊
  if np > j then (sorted l)[j]? else (sorted l)[j - 1]?

theorem quantile_eq {a b : Nat} (pos : 0 < b) (l : List α) :
    quantile (a / b : ℚ) l = (sorted l)[(l.length * a + (b - 1)) / b - 1]? := by
  generalize many : l.length * a = m
  have scale : (l.length : ℚ) * (a / b) = (m : ℚ) / b := by
    rw [← many]
    push_cast
    ring
  have floor : ⌊(m : ℚ) / b⌋₊ = m / b := Nat.floor_div_eq_div m b
  have passes : (m : ℚ) / b > (m / b : Nat) ↔ m % b ≠ 0 := by
    have positive : (0 : ℚ) < b := by exact_mod_cast pos
    rw [gt_iff_lt, lt_div_iff₀ positive]
    norm_cast
    have whole := Nat.div_add_mod' m b
    omega
  have whole := Nat.div_add_mod m b
  have rest := Nat.mod_lt m pos
  simp only [quantile, scale, floor, passes]
  by_cases exact' : m % b = 0
  · have step : (m + (b - 1)) / b = m / b := by
      rw [Nat.div_eq_iff pos]
      have cut : m / b * b = b * (m / b) := Nat.mul_comm _ _
      omega
    rw [if_neg (not_not.mpr exact'), step]
  · have step : (m + (b - 1)) / b = m / b + 1 := by
      rw [Nat.div_eq_iff pos]
      have cut : (m / b + 1) * b = b * (m / b) + b := by ring
      omega
    rw [if_pos exact', step, Nat.add_sub_cancel]

/-- It is the least element such that a fraction `a / b` of the list at least does not exceed it. -/
theorem quantile_isLeast {a b : Nat} (pos : 0 < b) (some' : 0 < a) (le : a ≤ b) {l : List α}
    (nonempty : l ≠ []) :
    ∃ x, quantile (a / b : ℚ) l = some x ∧
      IsLeast {x | x ∈ l ∧ a * l.length ≤ b * l.countP (· ≤ x)} x := by
  have length := List.length_pos_iff.mpr nonempty
  have whole : 0 < l.length * a := Nat.mul_pos length some'
  rw [quantile_eq pos]
  obtain ⟨k, position⟩ : ∃ k, (l.length * a + (b - 1)) / b = k + 1 :=
    Nat.exists_eq_succ_of_ne_zero (Nat.div_pos (by omega) pos).ne'
  have high : b * (k + 1) ≤ l.length * a + (b - 1) := position ▸ Nat.mul_div_le _ _
  have low : l.length * a + (b - 1) < b * (k + 1) + b := by
    rw [← position]
    exact Nat.lt_mul_div_succ _ pos
  rw [Nat.mul_succ] at high low
  have inside : k < (sorted l).length := by
    rw [sorted_length]
    by_contra far
    have reach : b * l.length ≤ b * k := Nat.mul_le_mul_left b (not_lt.mp far)
    have share : l.length * a ≤ l.length * b := Nat.mul_le_mul_left _ le
    rw [Nat.mul_comm l.length b] at share
    omega
  have same : {x | x ∈ l ∧ a * l.length ≤ b * l.countP (· ≤ x)} =
      {x | x ∈ l ∧ k < l.countP (· ≤ x)} := by
    ext x
    simp only [Set.mem_ofPred_eq, and_congr_right_iff]
    intro _
    rw [Nat.mul_comm a]
    constructor
    · intro enough
      by_contra few
      have reach : b * l.countP (· ≤ x) ≤ b * k := Nat.mul_le_mul_left b (not_lt.mp few)
      omega
    · intro more
      have reach : b * (k + 1) ≤ b * l.countP (· ≤ x) := Nat.mul_le_mul_left b more
      rw [Nat.mul_succ] at reach
      omega
  rw [position, Nat.add_sub_cancel, same]
  exact ⟨_, List.getElem?_eq_getElem inside, isLeast_sorted inside⟩

end OrderStatistic
