import Dbt2.Lib.Draws

/-!
# Programs over any source of random words

* `Source σ`: a state that gives one word after another, and that a word can seed;
* `Yields g Q`: from every state `g` returns, and what it returns satisfies `Q`. A fact proved for
  every source holds for every sequence of draws;
* `Attains g a`: over streams of words, some first words make `g` return `a` and use them up. The
  rules put the words of a program together from those of its steps.
-/

namespace Draws

variable {σ α β : Type}

class Source (σ : Type) where
  draw : σ → BitVec 64 × σ
  seeded : BitVec 64 → σ

def word [Source σ] : StateT σ Option (BitVec 64) := fun s => some (Source.draw s)

/-- The words in the order they are drawn; a word seeds the stream that repeats it. -/
instance : Source (Stream' (BitVec 64)) where
  draw s := (s.head, s.tail)
  seeded w := Stream'.const w

/-- A round that emits one row. -/
def single (g : StateT σ Option α) : StateT σ Option (List α) := do
  let a ← g
  pure [a]

/-! ## Projections of what a program returns -/

theorem map_aside (f : α → β) (own : σ) (g : StateT σ Option α) :
    f <$> aside own g = aside own (f <$> g) := by
  funext s
  show ((g own).map fun p => (p.1, s)).bind (fun p => some (f p.1, p.2)) =
    ((g own).bind fun p => some (f p.1, p.2)).map fun p => (p.1, s)
  cases g own <;> rfl

theorem map_forRange (f : α → β) (lo hi : Int) (body : Int → StateT σ Option (List α)) :
    List.map f <$> forRange lo hi body = forRange lo hi fun k => List.map f <$> body k := by
  rw [forRange, forRange]
  generalize (hi - lo).toNat = n
  induction n generalizing lo with
  | zero => simp only [rows, map_pure, List.map_nil]
  | succ n ih =>
    simp only [rows, map_bind, map_pure, List.map_append, ← ih, bind_map_left]

/-! ## What a program always returns -/

def Yields (g : StateT σ Option α) (Q : α → Prop) : Prop := ∀ s, ∃ a t, g s = some (a, t) ∧ Q a

theorem Yields.pure {a : α} {Q : α → Prop} (h : Q a) : Yields (pure a : StateT σ Option α) Q :=
  fun s => ⟨a, s, rfl, h⟩

theorem Yields.bind {g : StateT σ Option α} {f : α → StateT σ Option β} {Q : α → Prop}
    {R : β → Prop} (hg : Yields g Q) (hf : ∀ a, Q a → Yields (f a) R) : Yields (g >>= f) R := by
  intro s
  obtain ⟨a, t, first, holds⟩ := hg s
  obtain ⟨b, u, later, result⟩ := hf a holds t
  exact ⟨b, u, by rw [bind_apply first, later], result⟩

theorem Yields.mono {g : StateT σ Option α} {Q R : α → Prop} (h : Yields g Q)
    (weaken : ∀ a, Q a → R a) : Yields g R := by
  intro s
  obtain ⟨a, t, returned, holds⟩ := h s
  exact ⟨a, t, returned, weaken a holds⟩

theorem Yields.emits {g : StateT σ Option α} {Q : α → Prop} (h : Yields g Q) : Emits g Q := by
  intro s a t returned
  obtain ⟨b, u, same, holds⟩ := h s
  obtain ⟨rfl, -⟩ := Prod.mk.inj (Option.some.inj (same.symm.trans returned))
  exact holds

theorem Yields.aside {g : StateT σ Option α} {Q : α → Prop} (h : Yields g Q) (own : σ) :
    Yields (aside own g) Q := by
  intro s
  obtain ⟨a, t, returned, holds⟩ := h own
  exact ⟨a, s, by simp [Draws.aside, returned], holds⟩

theorem word_yields [Source σ] : Yields (word : StateT σ Option (BitVec 64)) fun _ => True :=
  fun _ => ⟨_, _, rfl, trivial⟩

/-- The loop of a program that emits one row a round. -/
theorem forRange_yields {body : Int → StateT σ Option (List α)} {R : α → Prop} (lo hi : Int)
    (h : ∀ k, Yields (body k) fun out => ∃ x, out = [x] ∧ R x) :
    Yields (forRange lo hi body) fun out => out.length = (hi - lo).toNat ∧ ∀ x ∈ out, R x := by
  rw [forRange]
  generalize (hi - lo).toNat = n
  induction n generalizing lo with
  | zero => exact Yields.pure ⟨rfl, fun x mem => by cases mem⟩
  | succ n ih =>
    refine (h lo).bind fun first single => (ih (lo + 1)).bind fun rest later => Yields.pure ?_
    obtain ⟨x, rfl, holds⟩ := single
    exact ⟨congrArg Nat.succ later.1, List.forall_mem_cons.mpr ⟨holds, later.2⟩⟩

theorem Yields.single {g : StateT σ Option α} {Q : α → Prop} (h : Yields g Q) :
    Yields (single g) fun out => ∀ x ∈ out, Q x :=
  h.bind fun _ holds => Yields.pure (List.forall_mem_singleton.mpr holds)

/-- A loop whose rounds return rows that satisfy `R`, however many. -/
theorem forRange_yields_all {body : Int → StateT σ Option (List α)} {R : α → Prop} {lo hi : Int}
    (h : ∀ k, lo ≤ k → k < hi → Yields (body k) fun out => ∀ x ∈ out, R x) :
    Yields (forRange lo hi body) fun out => ∀ x ∈ out, R x := by
  rw [forRange]
  generalize count : (hi - lo).toNat = n
  induction n generalizing lo with
  | zero => exact Yields.pure (List.forall_mem_nil _)
  | succ n ih =>
    have here := h lo le_rfl (by omega)
    have later : Yields (rows body n (lo + 1)) fun out => ∀ x ∈ out, R x :=
      ih (fun k low high => h k (by omega) high) (by omega)
    exact here.bind fun first holds => later.bind fun rest others =>
      Yields.pure (List.forall_mem_append.mpr ⟨holds, others⟩)

theorem Emits.single {g : StateT σ Option α} {Q : α → Prop} (h : Emits g Q) :
    Emits (single g) fun out => ∀ x ∈ out, Q x :=
  h.bind fun _ holds => Emits.pure (List.forall_mem_singleton.mpr holds)

/-- A loop whose rounds emit only rows that satisfy `R`. -/
theorem forRange_emits_all {body : Int → StateT σ Option (List α)} {R : α → Prop} {lo hi : Int}
    (h : ∀ k, lo ≤ k → k < hi → Emits (body k) fun out => ∀ x ∈ out, R x) :
    Emits (forRange lo hi body) fun out => ∀ x ∈ out, R x := by
  refine (forRange_emits h).mono ?_
  rintro out ⟨f, each, rfl⟩ x mem
  obtain ⟨k, range, here⟩ := List.mem_flatMap.mp mem
  exact each k (Int.mem_range_iff.mp range).1 (Int.mem_range_iff.mp range).2 x here

/-! ## What a program may return -/

def Attains (g : StateT (Stream' (BitVec 64)) Option α) (a : α) : Prop :=
  ∃ first : List (BitVec 64), ∀ rest, g (first ++ₛ rest) = some (a, rest)

section Attains

variable {g : StateT (Stream' (BitVec 64)) Option α}

theorem Attains.pure (a : α) : Attains (Pure.pure a) a := ⟨[], fun _ => rfl⟩

theorem Attains.bind {f : α → StateT (Stream' (BitVec 64)) Option β} {a : α} {b : β}
    (hg : Attains g a) (hf : Attains (f a) b) : Attains (g >>= f) b := by
  obtain ⟨first, returns⟩ := hg
  obtain ⟨second, later⟩ := hf
  refine ⟨first ++ second, fun rest => ?_⟩
  rw [Stream'.append_append_stream, bind_apply (returns _), later]

theorem attains_word (w : BitVec 64) : Attains word w := ⟨[w], fun _ => rfl⟩

/-- Some stream makes a program return what it attains. -/
theorem Attains.exists {a : α} (h : Attains g a) : ∃ s t, g s = some (a, t) := by
  obtain ⟨first, returns⟩ := h
  exact ⟨_, _, returns (Stream'.const 0)⟩

/-- What a program always returns holds of what it attains. -/
theorem Attains.of_yields {a : α} {Q : α → Prop} (h : Attains g a) (yields : Yields g Q) :
    Q a := by
  obtain ⟨s, t, returned⟩ := h.exists
  exact yields.emits s a t returned

end Attains

end Draws
