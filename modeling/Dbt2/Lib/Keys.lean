import Dbt2.Lib.Table

/-!
# Keys and references

* `Keyed`: no two rows of a table have the same key;
* `Refers`: what a column of a table names is the key of a row of another table.

Updates of other columns keep both, deletions keep the keys and references of the rows that stay,
and insertions need a new key and a row to refer to.
-/

namespace Table

variable {R S K : Type} {t t' : List R} {u u' : List S}

def Keyed (key : R → K) (t : List R) : Prop := (t.map key).Nodup

def Refers (column : R → K) (t : List R) (key : S → K) (u : List S) : Prop :=
  t.map column ⊆ u.map key

section

variable {key : R → K}

theorem Keyed.congr (h : Keyed key t) (same : t'.map key = t.map key) : Keyed key t' := by
  rw [Keyed, same]
  exact h

theorem Keyed.update {p : R → Bool} {f : R → R} (h : Keyed key t)
    (same : ∀ r, key (f r) = key r) : Keyed key (update p f t) :=
  h.congr (update_keeps key same)

theorem Keyed.delete {p : R → Bool} (h : Keyed key t) : Keyed key (delete p t) :=
  h.sublist (List.filter_sublist.map key)

theorem Keyed.append_one {r : R} (h : Keyed key t) (new : key r ∉ t.map key) :
    Keyed key (t ++ [r]) := by
  rw [Keyed, List.map_append]
  refine List.Nodup.append h (List.nodup_singleton _) fun k mem own => ?_
  rw [List.mem_singleton.mp own] at mem
  exact new mem

theorem Keyed.insert [DecidableEq K] {r : R} (h : Keyed key t)
    (inserted : insert key t r = some t') : Keyed key t' := by
  obtain ⟨new, rfl⟩ := insert_eq_some.mp inserted
  exact h.append_one new

/-- A row is known by its key. -/
theorem Keyed.eq {r s : R} (h : Keyed key t) (hr : r ∈ t) (hs : s ∈ t) (same : key r = key s) :
    r = s :=
  List.inj_on_of_nodup_map h hr hs same

/-- Rows made in rounds of a loop, each round with keys of its own. -/
theorem Keyed.flatMap {I : Type} {is : List I} {rows : I → List R} (once : is.Nodup)
    (inner : ∀ i ∈ is, Keyed key (rows i))
    (own : ∀ i ∈ is, ∀ j ∈ is, ∀ r ∈ rows i, ∀ s ∈ rows j, key r = key s → i = j) :
    Keyed key (is.flatMap rows) := by
  rw [Keyed, List.map_flatMap, List.nodup_flatMap]
  refine ⟨inner, once.pairwise_of_forall_ne fun i hi j hj apart k mem mem' => ?_⟩
  obtain ⟨r, hr, rfl⟩ := List.mem_map.mp mem
  obtain ⟨s, hs, same⟩ := List.mem_map.mp mem'
  exact apart (own i hi j hj r hr s hs same.symm)

theorem Keyed.map {I : Type} {is : List I} {row : I → R} (once : is.Nodup)
    (own : ∀ i ∈ is, ∀ j ∈ is, key (row i) = key (row j) → i = j) : Keyed key (is.map row) := by
  rw [Keyed, List.map_map]
  exact List.Nodup.map_on own once

end

section

variable {column : R → K} {key : S → K}

theorem Refers.mono (h : Refers column t key u) (fewer : t'.map column ⊆ t.map column)
    (more : u.map key ⊆ u'.map key) : Refers column t' key u' :=
  fun _ mem => more (h (fewer mem))

theorem Refers.congr (h : Refers column t key u) (columns : t'.map column = t.map column)
    (keys : u'.map key = u.map key) : Refers column t' key u' := by
  rw [Refers, columns, keys]
  exact h

theorem Refers.mem {r : R} (h : Refers column t key u) (mem : r ∈ t) : column r ∈ u.map key :=
  h (List.mem_map_of_mem mem)

theorem refers_of_forall (h : ∀ r ∈ t, column r ∈ u.map key) : Refers column t key u := by
  intro k mem
  obtain ⟨r, inside, rfl⟩ := List.mem_map.mp mem
  exact h r inside

theorem Refers.append (h : Refers column t key u) (added : Refers column t' key u) :
    Refers column (t ++ t') key u := by
  rw [Refers, List.map_append, List.append_subset]
  exact ⟨h, added⟩

theorem Refers.grow (h : Refers column t key u) (u' : List S) : Refers column t key (u ++ u') :=
  h.mono (List.Subset.refl _) (by simp)

theorem Refers.delete {p : R → Bool} (h : Refers column t key u) :
    Refers column (delete p t) key u :=
  h.mono (List.filter_sublist.map column).subset (List.Subset.refl _)

end

end Table
