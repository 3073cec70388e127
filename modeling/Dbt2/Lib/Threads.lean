import Mathlib

/-!
# Threads in a list

The threads of a process, each in its own state, as a list in which one entry changes at a time.

* `countP_turn`: how many threads are in states of a kind, before and after one thread's turn;
* `filterMap_turn`: what all threads hold, split into one thread's part and the rest;
* `Exclusive`: a mutex is owned by the thread that is in its critical section, and by no other.
-/

namespace Threads

variable {T : Type} {l : List T} {i : Nat} {x : T}

theorem countP_turn (p : T → Bool) (here : l[i]? = some x) (y : T) :
    (l.set i y).countP p + (p x).toNat = l.countP p + (p y).toNat := by
  obtain ⟨lt, rfl⟩ := List.getElem?_eq_some_iff.mp here
  have counted := List.countP_set (p := p) (a := y) lt
  have included : (if p l[i] = true then 1 else 0) ≤ l.countP p := List.boole_getElem_le_countP lt
  have toNat (b : Bool) : b.toNat = if b = true then 1 else 0 := by cases b <;> rfl
  rw [toNat, toNat]
  omega

/-- One thread's part in what all threads of a kind hold. -/
theorem filterMap_turn {H : Type} (f : T → Option H) (at' : l[i]? = some x) (y : T) :
    ∃ rest : Multiset H, (l.filterMap f : Multiset H) = (f x).toList + rest ∧
      ((l.set i y).filterMap f : Multiset H) = (f y).toList + rest := by
  obtain ⟨bound, rfl⟩ := List.getElem?_eq_some_iff.mp at'
  have cons (z : T) : ((z :: l.eraseIdx i).filterMap f : Multiset H) =
      (f z).toList + ((l.eraseIdx i).filterMap f : Multiset H) := by
    cases held : f z <;> simp [held]
  refine ⟨((l.eraseIdx i).filterMap f : List H), ?_, ?_⟩
  · rw [← cons]
    exact Multiset.coe_eq_coe.mpr ((List.getElem_cons_eraseIdx_perm bound).symm.filterMap f)
  · rw [← cons]
    exact Multiset.coe_eq_coe.mpr ((List.set_perm_cons_eraseIdx bound y).filterMap f)

/-- `inside` says of a thread whether it is in its critical section. -/
def Exclusive (inside : T → Bool) (threads : List T) (mutex : Option Nat) : Prop :=
  ∀ (i : Nat) (x : T), threads[i]? = some x → (inside x = true ↔ mutex = some i)

namespace Exclusive

variable {inside : T → Bool} {threads : List T} {mutex mutex' : Option Nat} {y : T}

theorem set (h : Exclusive inside threads mutex) (self : inside y = true ↔ mutex' = some i)
    (others : ∀ j ≠ i, mutex' = some j ↔ mutex = some j) :
    Exclusive inside (threads.set i y) mutex' := by
  intro j z at'
  by_cases same : i = j
  · subst same
    rw [List.getElem?_set_self'] at at'
    obtain ⟨_, -, rfl⟩ := Option.map_eq_some_iff.mp at'
    exact self
  · rw [List.getElem?_set_ne same] at at'
    rw [h j z at', others j (Ne.symm same)]

/-- A step that neither enters the critical section nor leaves it. -/
theorem stay (h : Exclusive inside threads mutex) (here : threads[i]? = some x)
    (same : inside y = inside x) : Exclusive inside (threads.set i y) mutex :=
  h.set (by rw [same]; exact h i x here) fun _ _ => Iff.rfl

theorem enter (h : Exclusive inside threads none) (into : inside y = true) :
    Exclusive inside (threads.set i y) (some i) :=
  h.set (iff_of_true into rfl) fun _ differs =>
    iff_of_false (fun same => differs (Option.some_inj.mp same).symm) (Option.some_ne_none _).symm

/-- The thread that leaves gives the mutex back. -/
theorem leave (h : Exclusive inside threads mutex) (here : threads[i]? = some x)
    (from' : inside x = true) (out : inside y = false) :
    Exclusive inside (threads.set i y) none := by
  have owner := (h i x here).mp from'
  refine h.set ?_ fun j differs => ?_
  · rw [out]
    exact iff_of_false Bool.false_ne_true (Option.some_ne_none _).symm
  · rw [owner]
    exact iff_of_false (Option.some_ne_none _).symm fun same => differs (Option.some_inj.mp same).symm

end Exclusive

end Threads
