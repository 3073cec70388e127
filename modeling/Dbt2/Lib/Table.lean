import Mathlib

/-!
# Tables

Tables as lists of rows, with the statements that change them. A predicate on rows is the `WHERE`
clause.

* `update`, `delete`, `insert`: the statements;
* `update_keeps`, `filter_update`: what an update leaves alone;
* `sum_update`: what an update does to the total of a column;
* `length_join`: how many rows a join on a key has;
* `Rowwise`: one table is another with each row changed.
-/

namespace Table

variable {R K : Type}

def update (p : R → Bool) (f : R → R) (t : List R) : List R :=
  t.map fun r => if p r then f r else r

def delete (p : R → Bool) (t : List R) : List R := t.filter fun r => !p r

/-- An insertion fails if the key is in use. -/
def insert [DecidableEq K] (key : R → K) (t : List R) (r : R) : Option (List R) :=
  if key r ∈ t.map key then none else some (t ++ [r])

theorem insert_eq_some [DecidableEq K] {key : R → K} {t t' : List R} {r : R} :
    insert key t r = some t' ↔ key r ∉ t.map key ∧ t' = t ++ [r] := by
  unfold insert
  split
  · simp_all
  · simp_all [eq_comm]

/-! ## Updates -/

variable {p q : R → Bool} {f g : R → R} {t : List R}

theorem mem_update {r : R} : r ∈ update p f t ↔ ∃ s ∈ t, (if p s then f s else s) = r :=
  List.mem_map

theorem update_congr (same : ∀ r ∈ t, p r = q r) : update p f t = update q f t := by
  apply List.map_congr_left
  intro r mem
  simp only [same r mem]

theorem update_same {g : R → R} (same : ∀ r ∈ t, p r = true → f r = g r) :
    update p f t = update p g t := by
  apply List.map_congr_left
  intro r mem
  by_cases own : p r = true
  · rw [if_pos own, if_pos own, same r mem own]
  · rw [if_neg own, if_neg own]

theorem update_nothing (none : ∀ r ∈ t, p r = false) : update p f t = t := by
  unfold update
  conv_rhs => rw [← List.map_id t]
  refine List.map_congr_left fun r mem => ?_
  simp [none r mem]

/-- Columns that the assignments do not mention. -/
theorem update_keeps {C : Type} (column : R → C) (same : ∀ r, column (f r) = column r) :
    (update p f t).map column = t.map column := by
  unfold update
  rw [List.map_map]
  refine List.map_congr_left fun r _ => ?_
  by_cases here : p r
  · simp [here, same]
  · simp [here]

/-- A selection by columns that the assignments do not mention. -/
theorem filter_update (same : ∀ r, q (f r) = q r) :
    (update p f t).filter q = update p f (t.filter q) := by
  unfold update
  rw [List.filter_map]
  have selects : (q ∘ fun r => if p r then f r else r) = q := by
    funext r
    by_cases here : p r
    · simp [here, same]
    · simp [here]
  rw [selects]

/-- A selection by columns that the assignments mention, of a column that they do not. -/
theorem map_filter_update {C : Type} (column : R → C) (same : ∀ r, column (f r) = column r) :
    ((update p f t).filter q).map column =
      (t.filter fun r => q (if p r then f r else r)).map column := by
  unfold update
  rw [List.filter_map, List.map_map]
  apply List.map_congr_left
  intro r _
  by_cases here : p r
  · simp [here, same]
  · simp [here]

/-- The first row of a selection by columns that the assignments do not mention. -/
theorem find?_update {C : Type} (column : R → C) (selects : ∀ r, q (f r) = q r)
    (same : ∀ r, column (f r) = column r) :
    ((update p f t).find? q).map column = (t.find? q).map column := by
  have stays : (q ∘ fun r => if p r then f r else r) = q := by
    funext r
    by_cases here : p r
    · simp [here, selects]
    · simp [here]
  unfold update
  rw [List.find?_map, Option.map_map, stays]
  congr 1
  funext r
  by_cases here : p r
  · simp [here, same]
  · simp [here]

/-- Two updates of different rows are one. -/
theorem update_update (apart : ∀ r, p r → q r = false) (stable : ∀ r, q (f r) = q r) :
    update q f (update p f t) = update (fun r => p r || q r) f t := by
  unfold update
  rw [List.map_map]
  refine List.map_congr_left fun r _ => ?_
  by_cases here : p r
  · simp [here, stable, apart r here]
  · simp [here]

theorem delete_delete : delete q (delete p t) = delete (fun r => p r || q r) t := by
  unfold delete
  rw [List.filter_filter]
  refine List.filter_congr fun r _ => ?_
  simp [Bool.and_comm]

/-- Updates of a column add up. -/
theorem sum_update {M : Type} [AddCommGroup M] (column : R → M) :
    ((update p f t).map column).sum =
      (t.map column).sum + ((t.filter p).map fun r => column (f r) - column r).sum := by
  unfold update
  induction t with
  | nil => simp
  | cons r t ih =>
    by_cases here : p r
    · simp only [List.map_cons, here, if_true, List.sum_cons, ih, List.filter_cons_of_pos]
      abel
    · simp only [List.map_cons, here, List.sum_cons, ih, Bool.false_eq_true, if_false,
        List.filter_cons_of_neg, not_false_eq_true]
      abel

/-- The total over rows that one of two disjoint conditions selects. -/
theorem sum_filter_or {M : Type} [AddCommMonoid M] (column : R → M)
    (apart : ∀ r ∈ t, p r → q r = false) :
    ((t.filter fun r => p r || q r).map column).sum =
      ((t.filter p).map column).sum + ((t.filter q).map column).sum := by
  induction t with
  | nil => simp
  | cons r t ih =>
    have rest := ih fun s mem => apart s (List.mem_cons_of_mem r mem)
    by_cases first : p r
    · have second : q r = false := apart r List.mem_cons_self first
      simp [first, second, rest, add_assoc]
    · by_cases second : q r
      · simp [first, second, rest, add_left_comm]
      · simp [first, second, rest]

theorem filter_snoc (t : List R) (r : R) :
    (t ++ [r]).filter q = t.filter q ++ if q r then [r] else [] := by
  rw [List.filter_append]
  cases here : q r <;> simp [here]

/-- A key that is in use once selects one row. -/
theorem filter_unique [DecidableEq K] {key : R → K} (nodup : (t.map key).Nodup) {r : R}
    (mem : r ∈ t) : (t.filter fun s => key s = key r) = [r] := by
  induction t with
  | nil => cases mem
  | cons s t ih =>
    obtain ⟨fresh, nodup⟩ := List.nodup_cons.mp nodup
    obtain rfl | mem := List.mem_cons.mp mem
    · rw [List.filter_cons_of_pos (by simp)]
      have others : (t.filter fun s => key s = key r) = [] := by
        refine List.filter_eq_nil_iff.mpr fun s mem => ?_
        have other : key s ≠ key r := fun same => fresh (same ▸ List.mem_map_of_mem mem)
        simpa using other
      rw [others]
    · have other : key s ≠ key r := fun same => fresh (same ▸ List.mem_map_of_mem mem)
      rw [List.filter_cons_of_neg (by simpa using other)]
      exact ih nodup mem

/-! ## Joins -/

/-- `SELECT … FROM t, u WHERE …`. -/
def join {S : Type} (p : R → S → Bool) (t : List R) (u : List S) : List (R × S) :=
  (t ×ˢ u).filter fun x => p x.1 x.2

theorem filter_matching [DecidableEq K] {key : R → K} (nodup : (t.map key).Nodup) {k : K}
    (matching : ∀ r, p r → key r = k) {r : R} (mem : r ∈ t) (here : p r) : t.filter p = [r] := by
  have narrowed : t.filter p = (t.filter fun s => key s = key r).filter p := by
    rw [List.filter_filter]
    apply List.filter_congr
    intro s _
    by_cases there : p s
    · simp [there, matching s there, matching r here]
    · simp [there]
  rw [narrowed, filter_unique nodup mem, List.filter_singleton, here]
  rfl

/-- A join on a key of the second table has each row of the first once, if it matches. -/
theorem length_join [DecidableEq K] {S : Type} {p : R → S → Bool} {u : List S} (key : S → K)
    (on : R → K) (nodup : (u.map key).Nodup) (matching : ∀ r s, p r s → key s = on r) :
    (join p t u).length = (t.filter fun r => u.any (p r)).length := by
  unfold join
  induction t with
  | nil => rfl
  | cons r t ih =>
    have first : ((u.map (Prod.mk r)).filter fun x => p x.1 x.2).length =
        (u.filter (p r)).length := by
      rw [List.filter_map, List.length_map]
      rfl
    rw [List.product_cons, List.filter_append, List.length_append, ih, first]
    by_cases found : u.any (p r)
    · obtain ⟨s, mem, here⟩ := List.any_eq_true.mp found
      rw [filter_matching nodup (matching r) mem here, List.filter_cons, if_pos found,
        List.length_singleton, List.length_cons, Nat.add_comm]
    · have none : u.filter (p r) = [] := by
        rw [List.filter_eq_nil_iff]
        simpa using found
      rw [none, List.filter_cons, if_neg found, List.length_nil, Nat.zero_add]

/-! ## Tables compared row by row -/

/-- Each row of the second table is what became of the row of the first. -/
abbrev Rowwise (change : R → R → Prop) : List R → List R → Prop := List.Forall₂ change

theorem rowwise_update {change : R → R → Prop} (updated : ∀ r ∈ t, p r → change r (f r))
    (others : ∀ r ∈ t, p r = false → change r r) : Rowwise change t (update p f t) := by
  unfold update
  rw [Rowwise, List.forall₂_map_right_iff]
  refine List.forall₂_same.mpr fun r mem => ?_
  by_cases here : p r
  · simpa [here] using updated r mem here
  · simpa [here] using others r mem (by simpa using here)

theorem rowwise_keeps {C : Type} {change : R → R → Prop} {t u : List R} (column : R → C)
    (same : ∀ r s, change r s → column s = column r) (h : Rowwise change t u) :
    u.map column = t.map column := by
  induction h with
  | nil => rfl
  | cons head _ ih => rw [List.map_cons, List.map_cons, same _ _ head, ih]

theorem rowwise_trans {first second both : R → R → Prop} {t u v : List R}
    (ab : Rowwise first t u) (bc : Rowwise second u v)
    (compose : ∀ r s w, first r s → second s w → both r w) : Rowwise both t v := by
  induction ab generalizing v with
  | nil =>
    cases bc
    exact .nil
  | cons head _ ih =>
    cases bc with
    | cons head' rest' => exact .cons (compose _ _ _ head head') (ih rest')

end Table
