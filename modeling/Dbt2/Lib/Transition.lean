import Mathlib

/-!
# Runs of partial step functions

A machine is a partial function from a state and an event to the next state; a run is a list of
events it accepts.

* `run_invariant`: what every step preserves, every run preserves; in `run_history` the invariant
  is about the events so far as well;
* `Along`: every step of a run meets a condition on its state and event, without which, in
  `along_exact` and `along_iff`, the step would break the invariant;
* `monitored`: a monitor follows the events of a run beside the machine. If each step, taken in
  states that the invariant relates, is allowed by the monitor and restores the invariant, then
  the whole run is allowed. In `followed` the monitor's conditions are assumed instead.
-/

namespace Transition

variable {σ ε μ : Type} (step : σ → ε → Option σ)

def run : σ → List ε → Option σ
  | s, [] => some s
  | s, e :: es => (step s e).bind fun t => run t es

def Along (good : σ → ε → Bool) : σ → List ε → Bool
  | _, [] => true
  | s, e :: es => good s e && (step s e).elim true fun t => Along good t es

/-- The events a monitor allows, one after the other. -/
def Passes (allowed : μ → ε → Prop) (after : μ → ε → μ) : μ → List ε → Prop
  | _, [] => True
  | m, e :: es => allowed m e ∧ Passes allowed after (after m e) es

variable {step}

theorem run_cons {s t : σ} {e : ε} {es : List ε} :
    run step s (e :: es) = some t ↔ ∃ u, step s e = some u ∧ run step u es = some t := by
  simp only [run, Option.bind_eq_some_iff]

theorem run_invariant {Inv : σ → Prop}
    (preserved : ∀ s e t, step s e = some t → Inv s → Inv t) {s t : σ} {es : List ε}
    (ran : run step s es = some t) (start : Inv s) : Inv t := by
  induction es generalizing s with
  | nil =>
    obtain rfl : s = t := by simpa [run] using ran
    exact start
  | cons e es ih =>
    obtain ⟨u, stepped, later⟩ := run_cons.mp ran
    exact ih later (preserved s e u stepped start)

/-- An invariant of the state and the events so far. -/
theorem run_history {good : ε → Prop} {Inv : σ → List ε → Prop}
    (preserved : ∀ s before e t, step s e = some t → good e → Inv s before → Inv t (before ++ [e]))
    {s t : σ} {before es : List ε} (ran : run step s es = some t) (all : ∀ e ∈ es, good e)
    (start : Inv s before) : Inv t (before ++ es) := by
  induction es generalizing s before with
  | nil =>
    obtain rfl : s = t := by simpa [run] using ran
    rwa [List.append_nil]
  | cons e es ih =>
    obtain ⟨u, stepped, later⟩ := run_cons.mp ran
    have next := preserved s before e u stepped (all e List.mem_cons_self) start
    have rest := ih later (fun f mem => all f (List.mem_cons_of_mem e mem)) next
    rwa [List.append_assoc, List.singleton_append] at rest

/-- The same from the start, whatever the events are. -/
theorem history_of_run (Inv : σ → List ε → Prop)
    (preserved : ∀ s before e t, step s e = some t → Inv s before → Inv t (before ++ [e]))
    {s t : σ} {es : List ε} (ran : run step s es = some t) (start : Inv s []) : Inv t es :=
  run_history (fun s before e t stepped _ => preserved s before e t stepped) ran
    (fun _ _ => trivial) start

theorem along_cons {good : σ → ε → Bool} {s t : σ} {e : ε} {es : List ε}
    (along : Along step good s (e :: es)) (stepped : step s e = some t) :
    good s e ∧ Along step good t es := by
  simpa [Along, stepped] using along

theorem along_append {good : σ → ε → Bool} {s : σ} {es fs : List ε} :
    Along step good s (es ++ fs) = true ↔
      Along step good s es = true ∧ ∀ t, run step s es = some t → Along step good t fs = true := by
  induction es generalizing s with
  | nil => simp [Along, run]
  | cons e es ih =>
    cases stepped : step s e with
    | none => simp [Along, run, stepped]
    | some u => simp [Along, run, stepped, ih, and_assoc]

theorem along_of_forall {good : σ → ε → Bool} (always : ∀ s e, good s e) (s : σ) (es : List ε) :
    Along step good s es := by
  induction es generalizing s with
  | nil => rfl
  | cons e es ih =>
    simp only [Along, always s e, Bool.true_and]
    cases step s e with
    | none => rfl
    | some t => exact ih t

/-- A condition on the events alone. -/
theorem along_events {good : ε → Bool} {s t : σ} {es : List ε} (ran : run step s es = some t) :
    Along step (fun _ => good) s es = true ↔ ∀ e ∈ es, good e = true := by
  induction es generalizing s with
  | nil => simp [Along]
  | cons e es ih =>
    obtain ⟨u, stepped, later⟩ := run_cons.mp ran
    simp [Along, stepped, ih later]

theorem passes_of_forall {allowed : μ → ε → Prop} {after : μ → ε → μ} {m : μ} {es : List ε}
    (always : ∀ m, ∀ e ∈ es, allowed m e) : Passes allowed after m es := by
  induction es generalizing m with
  | nil => trivial
  | cons e es ih =>
    exact ⟨always m e List.mem_cons_self, ih fun m f mem => always m f (List.mem_cons_of_mem e mem)⟩

theorem monitored {good : σ → ε → Bool} {allowed : μ → ε → Prop} {after : μ → ε → μ}
    {Inv : σ → μ → Prop}
    (preserved : ∀ s m e t, Inv s m → step s e = some t → good s e →
      allowed m e ∧ Inv t (after m e))
    {s t : σ} {m : μ} {es : List ε} (ran : run step s es = some t) (along : Along step good s es)
    (start : Inv s m) : Passes allowed after m es ∧ Inv t (es.foldl after m) := by
  induction es generalizing s m with
  | nil =>
    obtain rfl : s = t := by simpa [run] using ran
    exact ⟨trivial, start⟩
  | cons e es ih =>
    obtain ⟨u, stepped, later⟩ := run_cons.mp ran
    obtain ⟨here, further⟩ := along_cons along stepped
    obtain ⟨ok, next⟩ := preserved s m e u start stepped here
    obtain ⟨rest, final⟩ := ih later further next
    exact ⟨⟨ok, rest⟩, final⟩

/-- Two machines run alike as long as each step meets a condition under which they step alike. -/
theorem run_congr_along {step' : σ → ε → Option σ} {good : σ → ε → Bool}
    (same : ∀ s e, good s e → step s e = step' s e) {s : σ} {es : List ε}
    (along : Along step good s es) : run step s es = run step' s es := by
  induction es generalizing s with
  | nil => rfl
  | cons e es ih =>
    have here : good s e = true := by
      simp only [Along, Bool.and_eq_true] at along
      exact along.1
    simp only [run, ← same s e here]
    cases stepped : step s e with
    | none => rfl
    | some t => exact ih (along_cons along stepped).2

/-- What steps preserve that meet a condition, a run preserves whose steps meet it. -/
theorem run_invariant_along {good : σ → ε → Bool} {Inv : σ → Prop}
    (preserved : ∀ s e t, step s e = some t → good s e → Inv s → Inv t) {s t : σ} {es : List ε}
    (ran : run step s es = some t) (along : Along step good s es) (start : Inv s) : Inv t := by
  induction es generalizing s with
  | nil =>
    obtain rfl : s = t := by simpa [run] using ran
    exact start
  | cons e es ih =>
    obtain ⟨u, stepped, later⟩ := run_cons.mp ran
    obtain ⟨here, further⟩ := along_cons along stepped
    exact ih later further (preserved s e u stepped here start)

/-- All states that a run passes through have a property just if all its steps meet a condition,
given an invariant that such steps keep, and under which no other step leads to the property. -/
theorem along_exact {good : σ → ε → Bool} {Inv P : σ → Prop}
    (sound : ∀ s e t, step s e = some t → Inv s → good s e = true → Inv t)
    (exact_step : ∀ s e t, step s e = some t → Inv s → P t → good s e = true)
    (holds : ∀ s, Inv s → P s) {s t : σ} {es : List ε} (ran : run step s es = some t)
    (start : Inv s) :
    (∀ before u, before <+: es → run step s before = some u → P u) ↔
      Along step good s es = true := by
  induction es generalizing s with
  | nil =>
    refine iff_of_true ?_ rfl
    intro before u initial passed
    obtain rfl := List.prefix_nil.mp initial
    exact (Option.some_inj.mp passed) ▸ holds s start
  | cons e es ih =>
    obtain ⟨v, stepped, later⟩ := run_cons.mp ran
    constructor
    · intro always
      have next : P v := always [e] v (by simp) (run_cons.mpr ⟨v, stepped, rfl⟩)
      have here := exact_step s e v stepped start next
      have rest := (ih later (sound s e v stepped start here)).mp fun before u initial passed =>
        always (e :: before) u (List.prefix_cons_inj e |>.mpr initial)
          (run_cons.mpr ⟨v, stepped, passed⟩)
      simp only [Along, stepped, Option.elim_some, here, rest, Bool.and_self]
    · intro along before u initial passed
      obtain ⟨here, further⟩ := along_cons along stepped
      have next := sound s e v stepped start here
      cases before with
      | nil => exact (Option.some_inj.mp passed) ▸ holds s start
      | cons f before =>
        obtain ⟨rfl, shorter⟩ := List.cons_prefix_cons.mp initial
        obtain ⟨w, stepped', passed⟩ := run_cons.mp passed
        obtain rfl := Option.some_inj.mp (stepped.symm.trans stepped')
        exact (ih later next).mpr further before u shorter passed

/-- If a step keeps the invariant just when it meets the condition, all states that a run passes
through have it just when all its steps meet the condition. -/
theorem along_iff {good : σ → ε → Bool} {Inv : σ → Prop}
    (exact_step : ∀ s e t, step s e = some t → Inv s → (Inv t ↔ good s e = true)) {s t : σ}
    {es : List ε} (ran : run step s es = some t) (start : Inv s) :
    (∀ before u, before <+: es → run step s before = some u → Inv u) ↔
      Along step good s es = true :=
  along_exact (fun s e t stepped h => (exact_step s e t stepped h).mpr)
    (fun s e t stepped h => (exact_step s e t stepped h).mp) (fun _ h => h) ran start

/-- A monitor that sees some of the events, under another name. -/
theorem passes_filterMap {φ : Type} {f : ε → Option φ} {allowed : μ → φ → Prop}
    {after : μ → φ → μ} {m : μ} {es : List ε}
    (h : Passes (fun m e => ∀ x, f e = some x → allowed m x)
      (fun m e => (f e).elim m (after m)) m es) :
    Passes allowed after m (es.filterMap f) := by
  induction es generalizing m with
  | nil => trivial
  | cons e es ih =>
    have first := h.1
    have rest : Passes _ _ ((f e).elim m (after m)) es := h.2
    cases seen : f e with
    | none =>
      rw [seen] at rest
      rw [List.filterMap_cons_none seen]
      exact ih rest
    | some x =>
      rw [seen] at rest
      rw [List.filterMap_cons_some seen]
      exact ⟨first x seen, ih rest⟩

/-- An invariant of a machine and a monitor whose conditions a run is known to meet. -/
theorem followed {allowed : μ → ε → Prop} {after : μ → ε → μ} {Inv : σ → μ → Prop}
    (preserved : ∀ s m e t, Inv s m → step s e = some t → allowed m e → Inv t (after m e))
    {s t : σ} {m : μ} {es : List ε} (ran : run step s es = some t)
    (passes : Passes allowed after m es) (start : Inv s m) : Inv t (es.foldl after m) := by
  induction es generalizing s m with
  | nil =>
    obtain rfl : s = t := by simpa [run] using ran
    exact start
  | cons e es ih =>
    obtain ⟨u, stepped, later⟩ := run_cons.mp ran
    exact ih later passes.2 (preserved s m e u start stepped passes.1)

/-- `n` successive transitions of a relation. -/
inductive Iterated {S : Type} (r : S → S → Prop) : Nat → S → S → Prop
  | zero (s : S) : Iterated r 0 s s
  | succ {n : Nat} {s t u : S} : Iterated r n s t → r t u → Iterated r (n + 1) s u

theorem iterated_zero {S : Type} {r : S → S → Prop} {s t : S} : Iterated r 0 s t ↔ t = s := by
  constructor
  · intro h
    cases h
    rfl
  · rintro rfl
    exact .zero t

theorem iterated_one {S : Type} {r : S → S → Prop} {s t : S} : Iterated r 1 s t ↔ r s t := by
  constructor
  · intro h
    cases h with
    | succ first last =>
      cases first
      exact last
  · exact fun h => .succ (.zero s) h

end Transition
