import Mathlib

/-!
# Lists that number an interval

`Numbered ids a b` says that `ids` lists each integer from `a` up to, not including, `b`, once and
in any order. The next number can be appended, and the least is where a queue is taken from.
-/

structure Numbered (ids : List Int) (a b : Int) : Prop where
  nodup : ids.Nodup
  mem : ∀ i, i ∈ ids ↔ a ≤ i ∧ i < b

namespace Numbered

variable {ids : List Int} {a b : Int}

theorem empty (h : b ≤ a) : Numbered [] a b := by
  constructor
  · exact List.nodup_nil
  · intro i
    simp only [List.not_mem_nil, false_iff]
    omega

/-- An empty interval may start at its end. -/
theorem start (h : Numbered ids a b) : Numbered ids (min a b) b := by
  constructor
  · exact h.nodup
  · intro i
    rw [h.mem]
    omega

theorem append (h : Numbered ids a b) (le : a ≤ b) : Numbered (ids ++ [b]) a (b + 1) := by
  have fresh : b ∉ ids := by
    intro mem
    have bounds := (h.mem b).mp mem
    omega
  constructor
  · rw [List.nodup_append]
    refine ⟨h.nodup, List.nodup_singleton b, ?_⟩
    intro i mem j last
    rw [List.mem_singleton.mp last]
    rintro rfl
    exact fresh mem
  · intro i
    rw [List.mem_append, h.mem, List.mem_singleton]
    omega

theorem length (h : Numbered ids a b) : (ids.length : Int) = max (b - a) 0 := by
  have same : ids.toFinset = Finset.Ico a b := by
    ext i
    rw [List.mem_toFinset, h.mem, Finset.mem_Ico]
  rw [← List.toFinset_card_of_nodup h.nodup, same, Int.card_Ico]
  omega

/-- Without its least number. -/
theorem tail (h : Numbered ids a b) : Numbered (ids.filter (· ≠ a)) (a + 1) b := by
  constructor
  · exact h.nodup.filter _
  · intro i
    rw [List.mem_filter, h.mem]
    simp only [ne_eq, decide_eq_true_eq]
    omega

theorem isLeast (h : Numbered ids a b) {i : Int} (least : IsLeast {i | i ∈ ids} i) : i = a := by
  have bounds := (h.mem i).mp least.1
  have first : a ∈ ids := (h.mem a).mpr (by omega)
  have le := least.2 first
  omega

theorem isGreatest (h : Numbered ids a b) (lt : a < b) : IsGreatest {i | i ∈ ids} (b - 1) := by
  constructor
  · exact (h.mem _).mpr (by omega)
  · intro i mem
    have bounds := (h.mem i).mp mem
    omega

end Numbered
