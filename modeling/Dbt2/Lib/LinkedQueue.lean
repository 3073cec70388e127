import Mathlib

/-!
# Intrusive queues

A singly linked queue with a head and a tail pointer, whose links are stored in the elements:
`next a` is the element after `a`. One map of links may hold several queues.

* `Linked next q l`: the pointers `q` and the links represent the list `l`;
* `Linked.push`, `Linked.pop`: the pointer operations append and take the first;
* `Linked.frame`, `push_frame`: a queue is represented as long as the links of its own elements
  stay.
-/

namespace LinkedQueue

variable {A : Type} [DecidableEq A]

structure Ends (A : Type) where
  head : Option A
  tail : Option A
  deriving DecidableEq

def empty : Ends A := { head := none, tail := none }

/-- Appends `a`, whose link is overwritten. -/
def push (next : A → Option A) (q : Ends A) (a : A) : (A → Option A) × Ends A :=
  let next := Function.update next a none
  match q.tail with
  | some t => (Function.update next t (some a), { q with tail := some a })
  | none => (next, { head := some a, tail := some a })

/-- Takes the first element, whose link is left as it is. -/
def pop (next : A → Option A) (q : Ends A) : Option (A × Ends A) :=
  match q.head with
  | none => none
  | some a =>
    match next a with
    | none => some (a, empty)
    | some b => some (a, { q with head := some b })

/-- The elements met from a pointer on. -/
inductive Path (next : A → Option A) : Option A → List A → Prop
  | nil : Path next none []
  | cons {a : A} {l : List A} (rest : Path next (next a) l) : Path next (some a) (a :: l)

def Linked (next : A → Option A) (q : Ends A) (l : List A) : Prop :=
  Path next q.head l ∧ q.tail = l.getLast?

omit [DecidableEq A] in
theorem linked_empty (next : A → Option A) : Linked next empty [] := ⟨.nil, rfl⟩

omit [DecidableEq A] in
theorem Path.frame {next next' : A → Option A} {p : Option A} {l : List A} (h : Path next p l)
    (same : ∀ a ∈ l, next' a = next a) : Path next' p l := by
  induction h with
  | nil => exact .nil
  | @cons a l rest ih =>
    refine .cons ?_
    rw [same a List.mem_cons_self]
    exact ih fun b hb => same b (List.mem_cons_of_mem a hb)

omit [DecidableEq A] in
theorem Linked.frame {next next' : A → Option A} {q : Ends A} {l : List A} (h : Linked next q l)
    (same : ∀ a ∈ l, next' a = next a) : Linked next' q l := ⟨h.1.frame same, h.2⟩

theorem Path.append {next : A → Option A} {p : Option A} {l : List A} {a t : A}
    (h : Path next p l) (nodup : l.Nodup) (fresh : a ∉ l) (last : l.getLast? = some t) :
    Path (Function.update (Function.update next a none) t (some a)) p (l ++ [a]) := by
  induction h with
  | nil => cases last
  | @cons b l rest ih =>
    obtain ⟨notIn, later⟩ := List.nodup_cons.mp nodup
    obtain ⟨different, fresh'⟩ := List.ne_and_not_mem_of_not_mem_cons fresh
    refine .cons ?_
    cases l with
    | nil =>
      obtain rfl : b = t := by simpa using last
      rw [Function.update_self]
      refine .cons ?_
      rw [Function.update_of_ne different, Function.update_self]
      exact .nil
    | cons c l =>
      have last' : (c :: l).getLast? = some t := by simpa using last
      have other : b ≠ t := fun same => notIn (same ▸ List.mem_of_getLast? last')
      rw [Function.update_of_ne other, Function.update_of_ne (Ne.symm different)]
      exact ih later fresh' last'

theorem Linked.push {next : A → Option A} {q : Ends A} {l : List A} {a : A}
    (h : Linked next q l) (nodup : l.Nodup) (fresh : a ∉ l) :
    Linked (push next q a).1 (push next q a).2 (l ++ [a]) := by
  obtain ⟨path, tail⟩ := h
  cases last : l.getLast? with
  | none =>
    obtain rfl := List.getLast?_eq_none_iff.mp last
    rw [last] at tail
    simp only [LinkedQueue.push, tail]
    refine ⟨.cons ?_, rfl⟩
    rw [Function.update_self]
    exact .nil
  | some t =>
    rw [last] at tail
    simp only [LinkedQueue.push, tail]
    exact ⟨path.append nodup fresh last, by simp⟩

/-- Only the new element's link and that of the old tail change. -/
theorem push_frame {next : A → Option A} {q : Ends A} {l : List A} {a b : A}
    (h : Linked next q l) (new : b ≠ a) (outside : b ∉ l) : (push next q a).1 b = next b := by
  unfold push
  split
  · rename_i t tail
    have other : b ≠ t := fun same => outside (List.mem_of_getLast? (same ▸ h.2.symm.trans tail))
    simp only [Function.update_of_ne other, Function.update_of_ne new]
  · simp only [Function.update_of_ne new]

omit [DecidableEq A] in
theorem Linked.head {next : A → Option A} {q : Ends A} {l : List A} (h : Linked next q l) :
    q.head = l.head? := by
  obtain ⟨path, -⟩ := h
  generalize q.head = p at path
  cases path with
  | nil => rfl
  | cons => rfl

omit [DecidableEq A] in
theorem Linked.pop {next : A → Option A} {q : Ends A} {a : A} {l : List A}
    (h : Linked next q (a :: l)) : ∃ q', pop next q = some (a, q') ∧ Linked next q' l := by
  obtain ⟨path, tail⟩ := h
  unfold LinkedQueue.pop
  cases head : q.head with
  | none =>
    rw [head] at path
    cases path
  | some b =>
    rw [head] at path
    cases path with
    | cons rest =>
      cases link : next a with
      | none =>
        rw [link] at rest
        cases rest
        exact ⟨empty, by simp [link], linked_empty next⟩
      | some c =>
        rw [link] at rest
        refine ⟨{ q with head := some c }, by simp [link], rest, ?_⟩
        cases rest
        simpa using tail

omit [DecidableEq A] in
theorem Linked.pop_nil {next : A → Option A} {q : Ends A} (h : Linked next q []) :
    LinkedQueue.pop next q = none := by
  obtain ⟨path, -⟩ := h
  unfold LinkedQueue.pop
  cases head : q.head with
  | none => rfl
  | some b =>
    rw [head] at path
    cases path

end LinkedQueue
