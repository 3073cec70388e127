import Mathlib

/-!
# Quoted literals

A literal is a text between two quotes, in which a quote stands twice. Texts are lists of characters
of any kind, one of which is the quote.

* `doubled`: a text as it stands in a literal;
* `read`: the text a literal at the front of the input stands for, and the input after it;
* `scan_doubled`, `read_literal`: what is read is what was quoted, and the last quote is the end.
-/

namespace Quoting

variable {α : Type*} [DecidableEq α] (q : α)

def doubled : List α → List α
  | [] => []
  | c :: s => if c = q then q :: q :: doubled s else c :: doubled s

/-- The rest of a literal. A quote ends it, unless another one follows. -/
def scan : List α → Option (List α × List α)
  | [] => none
  | [c] => if c = q then some ([], []) else none
  | c :: d :: t =>
    if c = q then
      if d = q then (scan t).map (Prod.map (q :: ·) id) else some ([], d :: t)
    else (scan (d :: t)).map (Prod.map (c :: ·) id)

def read : List α → Option (List α × List α)
  | [] => none
  | c :: t => if c = q then scan q t else none

/-! ## Doubled quotes -/

variable {q}

@[simp]
theorem doubled_nil : doubled q [] = [] := rfl

@[simp]
theorem doubled_quote (s : List α) : doubled q (q :: s) = q :: q :: doubled q s := by
  simp [doubled]

@[simp]
theorem doubled_other {c : α} (other : c ≠ q) (s : List α) :
    doubled q (c :: s) = c :: doubled q s := by
  simp [doubled, other]

theorem doubled_append (s t : List α) : doubled q (s ++ t) = doubled q s ++ doubled q t := by
  induction s with
  | nil => rfl
  | cons c s ih =>
    by_cases own : c = q
    · subst own
      simp [ih]
    · simp [own, ih]

theorem length_doubled (s : List α) : (doubled q s).length = s.length + s.count q := by
  induction s with
  | nil => rfl
  | cons c s ih =>
    by_cases own : c = q
    · subst own
      simp [ih]
      omega
    · simp [own, ih]
      omega

theorem mem_doubled {c : α} {s : List α} : c ∈ doubled q s ↔ c ∈ s := by
  induction s with
  | nil => rfl
  | cons d s ih =>
    by_cases own : d = q
    · subst own
      simp [ih]
    · simp [own, ih]

/-! ## Reading -/

theorem scan_other {c : α} (other : c ≠ q) (t : List α) :
    scan q (c :: t) = (scan q t).map (Prod.map (c :: ·) id) := by
  cases t with
  | nil => simp [scan, other]
  | cons d t => simp [scan, other]

theorem scan_pair (t : List α) : scan q (q :: q :: t) = (scan q t).map (Prod.map (q :: ·) id) := by
  simp [scan]

theorem scan_close {rest : List α} (closed : rest.head? ≠ some q) :
    scan q (q :: rest) = some ([], rest) := by
  cases rest with
  | nil => simp [scan]
  | cons d t =>
    have other : d ≠ q := by simpa using closed
    simp [scan, other]

/-- A doubled text comes back, whatever the literal goes on with. -/
theorem scan_doubled (s t : List α) :
    scan q (doubled q s ++ t) = (scan q t).map (Prod.map (s ++ ·) id) := by
  induction s with
  | nil =>
    rw [doubled_nil, List.nil_append]
    cases scan q t <;> rfl
  | cons c s ih =>
    have step : scan q (doubled q (c :: s) ++ t) =
        (scan q (doubled q s ++ t)).map (Prod.map (c :: ·) id) := by
      by_cases own : c = q
      · subst own
        rw [doubled_quote]
        exact scan_pair _
      · rw [doubled_other own]
        exact scan_other own _
    rw [step, ih, Option.map_map]
    rfl

theorem read_literal (s : List α) {rest : List α} (closed : rest.head? ≠ some q) :
    read q (q :: (doubled q s ++ q :: rest)) = some (s, rest) := by
  rw [read, if_pos rfl, scan_doubled, scan_close closed]
  simp

end Quoting
