import Mathlib

/-!
# Books that account for a journal

A journal records what has happened, a book has an entry for each thing that its keeper takes to
have happened.

* `Tallies about book journal rest`: each entry of the book stands for one part of the journal, in
  their order, and for `rest` there is no entry yet;
* `Tallies.record`, `Tallies.enter`: what more in the journal, and one more entry, do to this;
* `Tallies.count`: the entries of a kind count the records of a kind;
* `countP_shared`: the same for a journal that several keepers share.
-/

namespace Bookkeeping

variable {E C M : Type} {about : E → List C → Prop} {book : List E} {journal rest : List C}

def Tallies (about : E → List C → Prop) (book : List E) (journal rest : List C) : Prop :=
  ∃ parts, List.Forall₂ about book parts ∧ journal = parts.flatten ++ rest

theorem Tallies.start : Tallies about [] [] [] := ⟨[], .nil, rfl⟩

theorem Tallies.record (h : Tallies about book journal rest) (more : List C) :
    Tallies about book (journal ++ more) (rest ++ more) := by
  obtain ⟨parts, each, rfl⟩ := h
  exact ⟨parts, each, List.append_assoc _ _ _⟩

/-- The new entry stands for all that had none. -/
theorem Tallies.enter (h : Tallies about book journal rest) {e : E} (told : about e rest) :
    Tallies about (book ++ [e]) journal [] := by
  obtain ⟨parts, each, rfl⟩ := h
  exact ⟨parts ++ [rest], List.rel_append each (.cons told .nil), by simp⟩

theorem Tallies.count (h : Tallies about book journal rest) {p : C → Bool} {told : E → Bool}
    (each : ∀ e cs, about e cs → cs.countP p = if told e then 1 else 0) :
    journal.countP p = book.countP told + rest.countP p := by
  obtain ⟨parts, related, rfl⟩ := h
  rw [List.countP_append, Nat.add_right_cancel_iff]
  induction related with
  | nil => rfl
  | cons first _ ih =>
    rw [List.flatten_cons, List.countP_append, List.countP_cons, ih, each _ _ first, Nat.add_comm]

/-- The records of each owner, put together. -/
theorem countP_owners (owner : C → Nat) {n : Nat} (owned : ∀ c ∈ journal, owner c < n)
    (p : C → Bool) :
    journal.countP p = ∑ i : Fin n, (journal.filter fun c => owner c = i).countP p := by
  induction journal with
  | nil => simp
  | cons c journal ih =>
    have here := owned c List.mem_cons_self
    have others := ih fun c mem => owned c (List.mem_cons_of_mem _ mem)
    have each (i : Fin n) : ((c :: journal).filter fun c => owner c = i).countP p =
        (journal.filter fun c => owner c = i).countP p +
          if i = ⟨owner c, here⟩ then (if p c then 1 else 0) else 0 := by
      by_cases is : owner c = i
      · have same : i = ⟨owner c, here⟩ := Fin.ext is.symm
        rw [List.filter_cons_of_pos (by simpa using is), List.countP_cons, if_pos same]
      · have apart : i ≠ ⟨owner c, here⟩ := fun same => is (congrArg Fin.val same).symm
        rw [List.filter_cons_of_neg (by simpa using is), if_neg apart, Nat.add_zero]
    rw [List.countP_cons, others]
    simp only [each, Finset.sum_add_distrib, Finset.sum_ite_eq', Finset.mem_univ, if_true]

theorem countP_shared {ms : List M} (owner : C → Nat) (owned : ∀ c ∈ journal, owner c < ms.length)
    {p : C → Bool} {f : M → Nat}
    (each : ∀ i m, ms[i]? = some m → (journal.filter fun c => owner c = i).countP p = f m) :
    journal.countP p = (ms.map f).sum := by
  rw [countP_owners owner owned, ← Fin.sum_univ_fun_getElem]
  apply Finset.sum_congr rfl
  intro i _
  exact each i _ (List.getElem?_eq_getElem i.isLt)

end Bookkeeping
