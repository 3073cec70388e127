import Dbt2.Lib.LinkedQueue

/-!
# Insertion at given positions

A list that grows by one item at a time, each put at a position among those before it.

* `inserted`: the list, whose `k`-th item goes to position `p k`;
* `inserted_perm`, `inserted_injective`, `exists_inserted`: positions in range give the
  permutations of the items, each exactly once;
* `walk`, `insertNode`: the same on links, by two pointers that follow each other to the position;
* `path_insertNode`: the links afterwards.
-/

namespace Insertions

open scoped List

variable {α : Type}

def inserted (x : Nat → α) (p : Nat → Nat) : Nat → List α
  | 0 => []
  | n + 1 => (inserted x p n).insertIdx (p n) (x n)

/-- No position is beyond the end of the list so far. -/
def InRange (p : Nat → Nat) (n : Nat) : Prop := ∀ k < n, p k ≤ k

section

variable {x : Nat → α} {p q : Nat → Nat} {n : Nat}

theorem InRange.pred (range : InRange p (n + 1)) : InRange p n :=
  fun k lt => range k (Nat.lt_succ_of_lt lt)

theorem length_inserted (range : InRange p n) : (inserted x p n).length = n := by
  induction n with
  | zero => rfl
  | succ n ih =>
    have before := ih range.pred
    rw [inserted, List.length_insertIdx_of_le_length (before.symm ▸ range n (Nat.lt_succ_self n)),
      before]

theorem inserted_perm (range : InRange p n) : (inserted x p n).Perm ((List.range n).map x) := by
  induction n with
  | zero => exact .nil
  | succ n ih =>
    have inside : p n ≤ (inserted x p n).length :=
      (length_inserted range.pred).symm ▸ range n (Nat.lt_succ_self n)
    rw [inserted, List.range_succ, List.map_append, List.map_singleton]
    calc (inserted x p n).insertIdx (p n) (x n)
      _ ~ x n :: inserted x p n := List.perm_insertIdx _ _ inside
      _ ~ x n :: (List.range n).map x := (ih range.pred).cons _
      _ ~ (List.range n).map x ++ [x n] := (List.perm_append_singleton _ _).symm

theorem notMem_inserted (distinct : Function.Injective x) (range : InRange p n) :
    x n ∉ inserted x p n := by
  rw [(inserted_perm range).mem_iff, List.mem_map]
  rintro ⟨k, mem, same⟩
  exact absurd (distinct same) (List.mem_range.mp mem).ne

/-- The last item tells its position, and without it the rest is as before. -/
theorem inserted_injective (distinct : Function.Injective x) (rangeP : InRange p n)
    (rangeQ : InRange q n) (same : inserted x p n = inserted x q n) : ∀ k < n, p k = q k := by
  induction n with
  | zero => exact fun k lt => absurd lt (Nat.not_lt_zero k)
  | succ n ih =>
    have there (r : Nat → Nat) (range : InRange r (n + 1)) (other : List α)
        (eq : inserted x r (n + 1) = other) : other[r n]? = some (x n) ∧
          other.eraseIdx (r n) = inserted x r n := by
      rw [← eq, inserted]
      refine ⟨?_, List.eraseIdx_insertIdx_self _⟩
      have inside : r n ≤ (inserted x r n).length :=
        (length_inserted range.pred).symm ▸ range n (Nat.lt_succ_self n)
      rw [List.getElem?_insertIdx_self, if_pos inside]
    obtain ⟨hereP, restP⟩ := there p rangeP _ rfl
    obtain ⟨hereQ, restQ⟩ := there q rangeQ _ same.symm
    have nodup : (inserted x p (n + 1)).Nodup :=
      (inserted_perm rangeP).nodup_iff.mpr (List.nodup_range.map distinct)
    have last : p n = q n := by
      apply (List.getElem?_inj ?_ nodup).mp (hereP.trans hereQ.symm)
      exact (List.getElem?_eq_some_iff.mp hereP).1
    have before : inserted x p n = inserted x q n := by rw [← restP, ← restQ, last]
    intro k lt
    obtain lt | rfl := Nat.lt_succ_iff_lt_or_eq.mp lt
    · exact ih rangeP.pred rangeQ.pred before k lt
    · exact last

theorem inserted_congr (same : ∀ k < n, p k = q k) : inserted x p n = inserted x q n := by
  induction n with
  | zero => rfl
  | succ n ih =>
    rw [inserted, inserted, ih fun k lt => same k (Nat.lt_succ_of_lt lt),
      same n (Nat.lt_succ_self n)]

theorem map_inserted {β : Type} (f : α → β) :
    (inserted x p n).map f = inserted (fun k => f (x k)) p n := by
  induction n with
  | zero => rfl
  | succ n ih => rw [inserted, List.map_insertIdx, ih, inserted]

/-- Takes the items out again, the last first. -/
theorem exists_inserted {l : List α} (perm : l.Perm ((List.range n).map x)) :
    ∃ p, InRange p n ∧ inserted x p n = l := by
  induction n generalizing l with
  | zero => exact ⟨id, fun k lt => absurd lt (Nat.not_lt_zero k), perm.eq_nil.symm⟩
  | succ n ih =>
    have mem : x n ∈ l :=
      perm.mem_iff.mpr (List.mem_map.mpr ⟨n, List.self_mem_range_succ, rfl⟩)
    obtain ⟨i, inside, there⟩ := List.mem_iff_getElem.mp mem
    have length : l.length = n + 1 := by rw [perm.length_eq, List.length_map, List.length_range]
    have rest : (l.eraseIdx i).Perm ((List.range n).map x) := by
      rw [← List.perm_cons (x n)]
      calc x n :: l.eraseIdx i
        _ ~ l := there ▸ List.getElem_cons_eraseIdx_perm inside
        _ ~ (List.range (n + 1)).map x := perm
        _ ~ x n :: (List.range n).map x := by
          rw [List.range_succ, List.map_append, List.map_singleton]
          exact List.perm_append_comm
    obtain ⟨p, range, eq⟩ := ih rest
    have unchanged : ∀ k < n, Function.update p n i k = p k := fun k lt =>
      Function.update_of_ne lt.ne i p
    refine ⟨Function.update p n i, ?_, ?_⟩
    · intro k lt
      obtain lt | rfl := Nat.lt_succ_iff_lt_or_eq.mp lt
      · rw [unchanged k lt]
        exact range k lt
      · rw [Function.update_self]
        omega
    · rw [inserted, inserted_congr unchanged, eq, Function.update_self, ← there]
      exact List.insertIdx_eraseIdx_getElem inside

end

/-! ## On links -/

section Links

variable {A : Type} [DecidableEq A]

open LinkedQueue

/-- Follows `n` links from `current`, with the pointer before it; a null pointer stays. -/
def walk (next : A → Option A) : Nat → Option A → Option A → Option A × Option A
  | 0, current, prev => (current, prev)
  | n + 1, current, _ => walk next n (current.bind next) current

/-- Puts `a` between the two pointers, or at the head if they are the same. A null `prev` has no
link to set. -/
def insertNode (next : A → Option A) (head current prev : Option A) (a : A) :
    Option ((A → Option A) × Option A) :=
  if current = prev then some (Function.update next a head, some a)
  else prev.map fun b => (Function.update (Function.update next b (some a)) a current, head)

omit [DecidableEq A] in
theorem path_head {next : A → Option A} {head : Option A} {l : List A} (path : Path next head l) :
    head = l.head? := by
  cases path with
  | nil => rfl
  | cons => rfl

omit [DecidableEq A] in
/-- The pointers are at the position and right before it. -/
theorem walk_path {next : A → Option A} {n : Nat} {current prev : Option A} {l : List A}
    (path : Path next current l) (inside : n < l.length) :
    walk next (n + 1) current prev = (l[n + 1]?, l[n]?) := by
  induction n generalizing current prev l with
  | zero =>
    cases path with
    | nil => cases inside
    | cons rest =>
      rw [walk, walk, Option.bind_some, path_head rest, List.head?_eq_getElem?]
      rfl
  | succ n ih =>
    cases path with
    | nil => cases inside
    | cons rest =>
      rw [walk, Option.bind_some, ih rest (Nat.lt_of_succ_lt_succ inside)]
      simp

/-- The links of an item and of the one it is put after. -/
theorem path_insertIdx {next : A → Option A} {head : Option A} {l : List A} {a b : A} {n : Nat}
    (path : Path next head l) (nodup : l.Nodup) (fresh : a ∉ l) (before : l[n]? = some b) :
    Path (Function.update (Function.update next b (some a)) a l[n + 1]?) head
      (l.insertIdx (n + 1) a) := by
  induction n generalizing head l with
  | zero =>
    cases path with
    | nil => cases before
    | @cons c l rest =>
      obtain rfl : c = b := by simpa using before
      obtain ⟨first, -⟩ := List.nodup_cons.mp nodup
      obtain ⟨ne, later⟩ := List.ne_and_not_mem_of_not_mem_cons fresh
      rw [List.insertIdx_succ_cons, List.insertIdx_zero]
      refine .cons ?_
      rw [Function.update_of_ne ne.symm, Function.update_self]
      refine .cons ?_
      have start : (c :: l)[0 + 1]? = next c := by
        rw [path_head rest, List.head?_eq_getElem?]
        rfl
      rw [Function.update_self, start]
      refine rest.frame fun d mem => ?_
      rw [Function.update_of_ne fun same : d = a => later (same ▸ mem),
        Function.update_of_ne fun same : d = c => first (same ▸ mem)]
  | succ n ih =>
    cases path with
    | nil => cases before
    | @cons c l rest =>
      obtain ⟨first, nodup⟩ := List.nodup_cons.mp nodup
      obtain ⟨ne, later⟩ := List.ne_and_not_mem_of_not_mem_cons fresh
      have inside : l[n]? = some b := by simpa using before
      have other : c ≠ b := fun same => first (same ▸ List.mem_of_getElem? inside)
      rw [List.insertIdx_succ_cons]
      refine .cons ?_
      rw [Function.update_of_ne ne.symm, Function.update_of_ne other]
      have end' : (c :: l)[n + 1 + 1]? = l[n + 1]? := by simp
      rw [end']
      exact ih rest nodup later inside

/-- Walking to a position of the list and putting `a` there. -/
theorem path_insertNode {next : A → Option A} {head : Option A} {l : List A} {a : A} {n : Nat}
    (path : Path next head l) (nodup : l.Nodup) (fresh : a ∉ l) (inside : n ≤ l.length) :
    ∃ next' head', insertNode next head (walk next n head head).1 (walk next n head head).2 a =
      some (next', head') ∧ Path next' head' (l.insertIdx n a) := by
  cases n with
  | zero =>
    refine ⟨_, _, if_pos rfl, .cons ?_⟩
    rw [Function.update_self]
    refine path.frame fun b mem => ?_
    exact Function.update_of_ne (fun same : b = a => fresh (same ▸ mem)) _ _
  | succ n =>
    obtain ⟨b, before⟩ : ∃ b, l[n]? = some b := ⟨_, List.getElem?_eq_getElem inside⟩
    have apart : l[n + 1]? ≠ some b := fun same =>
      absurd ((List.getElem?_inj inside nodup).mp (before.trans same.symm)) n.lt_succ_self.ne
    rw [walk_path path inside, before]
    exact ⟨_, _, if_neg apart, path_insertIdx path nodup fresh before⟩

end Links

end Insertions
