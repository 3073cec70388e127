import Dbt2.DataFiles

/-!
# Printed columns

What COPY and the types of the tables make of a column of the data files.

* `Column.int` and its siblings: the types, numbers being exact;
* `Reads`: a printed column uses no special character and is read as its value. There is one lemma
  for each format of the source;
* `originalData_overlaid`: the word in the data of items and stock is placed as a whole.
-/

namespace Dbt2

open Draws CopyText

/-! ## Column types -/

/-- What COPY makes of a column. -/
abbrev Column : Type := Option (List Char)

namespace Column

def int (c : Column) : Option Int := c.bind Decimal.readInt

def decimal (c : Column) : Option ℚ := c.bind Decimal.readDecimal

def text (c : Column) : Option String := c.map String.ofList

def timestamp (c : Column) : Option Timestamp := c.map fun _ => .currentTimestamp

def nullable {α : Type} (read : Column → Option α) : Column → Option (Option α)
  | none => some none
  | some s => (read (some s)).map some

end Column

open Column

/-! ## Characters -/

/-- The character is not special, and takes at most three bytes. -/
def safe (c : Char) : Bool := c ≠ '\t' ∧ c ≠ '\n' ∧ c ≠ '\r' ∧ c ≠ '\\' ∧ c.utf8Size ≤ 3

theorem safe_iff {c : Char} : safe c ↔
    c ≠ '\t' ∧ c ≠ '\n' ∧ c ≠ '\r' ∧ c ≠ '\\' ∧ c.utf8Size ≤ 3 := decide_eq_true_iff

/-- Strings are slow to take apart, unlike the lists of their characters. -/
theorem toList_append₃ {r s t : String} {as bs cs : List Char} (first : r = String.ofList as)
    (second : s = String.ofList bs) (third : t = String.ofList cs) :
    (r ++ s ++ t).toList = as ++ bs ++ cs := by
  rw [first, second, third, String.toList_append, String.toList_append, String.toList_ofList,
    String.toList_ofList, String.toList_ofList]

theorem safe_aStringChar : ∀ c ∈ aStringChar, safe c := by
  have spelt : aStringChar = _ := toList_append₃ rfl rfl rfl
  rw [spelt, ← List.all_eq_true]
  decide +kernel

theorem safe_lStringChar : ∀ c ∈ lStringChar, safe c := List.all_eq_true.mp (by decide)

theorem safe_nStringChar : ∀ c ∈ nStringChar, safe c := List.all_eq_true.mp (by decide)

theorem plain_of_safe {s : List Char} (chars : ∀ c ∈ s, safe c) : Plain copyFormat s where
  delimiter mem := (safe_iff.mp (chars _ mem)).1 rfl
  newline mem := (safe_iff.mp (chars _ mem)).2.1 rfl
  carriageReturn mem := (safe_iff.mp (chars _ mem)).2.2.1 rfl
  backslash mem := (safe_iff.mp (chars _ mem)).2.2.2.1 rfl

theorem bytes_of_safe {s : List Char} (chars : ∀ c ∈ s, safe c) :
    (s.map Char.utf8Size).sum ≤ 3 * s.length := by
  induction s with
  | nil => exact le_rfl
  | cons c s ih =>
    have first := (safe_iff.mp (chars c List.mem_cons_self)).2.2.2.2
    have rest := ih fun e mem => chars e (List.mem_cons_of_mem c mem)
    rw [List.map_cons, List.sum_cons, List.length_cons]
    omega

theorem wcstombs_eq {n : Nat} {s : List Char} (fits : (s.map Char.utf8Size).sum ≤ n) :
    wcstombs n s = s := by
  induction s generalizing n with
  | nil => rfl
  | cons c s ih =>
    rw [List.map_cons, List.sum_cons] at fits
    rw [wcstombs, if_pos (by omega), ih (by omega)]

theorem safe_of_isDigit {c : Char} (digit : c.isDigit) : safe c := by
  refine safe_iff.mpr ⟨?_, ?_, ?_, ?_, ?_⟩
  · rintro rfl
    exact absurd digit (by decide)
  · rintro rfl
    exact absurd digit (by decide)
  · rintro rfl
    exact absurd digit (by decide)
  · rintro rfl
    exact absurd digit (by decide)
  · have ascii : c.utf8Size = 1 := by
      refine Char.utf8Size_eq_one_iff.mpr ?_
      simp only [Char.isDigit, Bool.and_eq_true, decide_eq_true_eq] at digit
      exact UInt32.le_trans digit.2 (by decide)
    omega

/-! ## Formats -/

/-- A printed column is read as a value. -/
structure Reads {α : Type} (read : Column → Option α) (f : List Char) (a : α) : Prop where
  chars : ∀ c ∈ f, safe c
  read : read (value copyFormat f) = some a

theorem value_eq {f : List Char} (some : f ≠ []) : value copyFormat f = Option.some f :=
  if_neg some

theorem quoted_eq (s : List Char) : quoted s = s := List.append_nil s

theorem reads_int (n : Int) : Reads int (quoted (printInt n)) n := by
  rw [quoted_eq, printInt]
  have some : Decimal.digitsInt n ≠ [] := by
    cases n with
    | ofNat n => exact Nat.toDigits_ne_nil
    | negSucc n => exact List.cons_ne_nil _ _
  refine ⟨fun c mem => ?_, ?_⟩
  · cases n with
    | ofNat n => exact safe_of_isDigit (Nat.isDigit_of_mem_toDigits (by decide) (by decide) mem)
    | negSucc n =>
      obtain rfl | digit := List.mem_cons.mp mem
      · decide
      · exact safe_of_isDigit (Nat.isDigit_of_mem_toDigits (by decide) (by decide) digit)
  · rw [value_eq some]
    exact Decimal.readInt_digitsInt n

/-- A string of a table without special characters, in a buffer with room for it. -/
theorem reads_text {table s : List Char} {x y : Int} {n : Nat}
    (word : Drawn.Word table x y s) (chars : ∀ c ∈ table, safe c) (some : 1 ≤ x)
    (fits : 3 * y < n) : Reads text (quoted (wcstombs n s)) (String.ofList s) := by
  have least := word.least
  have most := word.most
  have each : ∀ c ∈ s, safe c := fun c mem => chars c (word.table c mem)
  have bytes := bytes_of_safe each
  rw [quoted_eq, wcstombs_eq (by omega)]
  refine ⟨each, ?_⟩
  rw [value_eq (List.ne_nil_of_length_pos (by omega))]
  rfl

/-- Four digits, followed by the same five in every row. -/
theorem reads_zip {s : List Char} {n : Nat} (word : Drawn.Word nStringChar 4 4 s) (fits : 12 < n) :
    Reads text (quoted (wcstombs n s ++ "11111".toList)) (String.ofList s ++ "11111") := by
  have most := word.most
  have each : ∀ c ∈ s, safe c := fun c mem => safe_nStringChar c (word.table c mem)
  have bytes := bytes_of_safe each
  rw [quoted_eq, wcstombs_eq (by omega)]
  refine ⟨fun c mem => ?_, ?_⟩
  · obtain own | ones := List.mem_append.mp mem
    · exact each c own
    · exact List.all_eq_true.mp (by decide) c ones
  · rw [value_eq (List.append_ne_nil_of_right_ne_nil _ (by decide))]
    show Option.some (String.ofList (s ++ "11111".toList)) = _
    rw [String.ofList_append, String.ofList_toList]

theorem reads_literal {α : Type} {read : Column → Option α} {a : α} (f : List Char)
    (chars : f.all safe = true) (reads : read (value copyFormat f) = some a) : Reads read f a :=
  ⟨List.all_eq_true.mp chars, reads⟩

theorem safe_printPadded {width : Nat} {n : Int} {c : Char} (mem : c ∈ printPadded width n) :
    safe c := by
  cases n with
  | ofNat n => exact safe_of_isDigit (Decimal.isDigit_of_mem_padded mem)
  | negSucc n =>
    obtain rfl | digit := List.mem_cons.mp mem
    · decide
    · exact safe_of_isDigit (Decimal.isDigit_of_mem_padded digit)

/-- Parts of one per ten thousand. -/
theorem reads_rate {n : Int} (low : 0 ≤ n) (high : n < 10000) :
    Reads decimal (quoted ("0.".toList ++ printPadded 4 n)) ((n : ℚ) / 10000) := by
  rw [quoted_eq]
  refine ⟨fun c mem => ?_, ?_⟩
  · obtain point | digits := List.mem_append.mp mem
    · exact List.all_eq_true.mp (by decide) c point
    · exact safe_printPadded digits
  · obtain ⟨m, rfl⟩ := Int.eq_ofNat_of_zero_le low
    rw [value_eq (List.append_ne_nil_of_left_ne_nil (by decide) _)]
    have zero : Decimal.readNat ['0'] = some 0 := by decide
    have digits := Decimal.readDecimal_point zero (Decimal.readNat_padded 4 m)
    rw [Decimal.length_padded (by decide) (by omega)] at digits
    refine digits.trans ?_
    norm_num

theorem reads_timestamp (date : Tm) : Reads timestamp (printTimestamp date) .currentTimestamp := by
  refine ⟨fun c mem => ?_, ?_⟩
  · simp only [printTimestamp, List.mem_append, List.mem_cons] at mem
    rcases mem with ((((mem | rfl | mem) | rfl | mem) | rfl | mem) | rfl | mem) | rfl | mem <;>
      first | decide | exact safe_printPadded mem
  · have some : printTimestamp date ≠ [] := by simp [printTimestamp]
    rw [value_eq some]
    rfl

/-- A column with a value does not look like the null marker. -/
theorem Reads.nullable {α : Type} {read : Column → Option α} {f : List Char} {a : α}
    (reads : Reads read f a) (strict : read none = none) :
    Reads (nullable read) f (Option.some a) := by
  have some : f ≠ [] := by
    rintro rfl
    have never := reads.read
    rw [show value copyFormat [] = none from rfl, strict] at never
    cases never
  refine ⟨reads.chars, ?_⟩
  have own := reads.read
  rw [value_eq some] at own ⊢
  exact congrArg (Option.map Option.some) own

theorem reads_null {α : Type} (read : Column → Option α) :
    Reads (nullable read) copyFormat.null none :=
  ⟨fun _ mem => absurd mem List.not_mem_nil, rfl⟩

theorem toList_fixed {n m : Nat} {q : ℚ} (scaled : q = m / 10 ^ n) :
    (fixed n q).toList =
      Nat.toDigits 10 (m / 10 ^ n) ++ '.' :: Decimal.padded n (m % 10 ^ n) := by
  have nonneg : 0 ≤ q := by
    rw [scaled]
    positivity
  have units : |q| * 10 ^ n = m := by
    rw [abs_of_nonneg nonneg, scaled]
    field_simp
  have padded (k : Nat) : (padLeft n k.repr).toList = Decimal.padded n k := by
    rw [padLeft, String.toList_append, String.toList_ofList, Decimal.padded, Nat.toList_repr,
      ← String.length_toList, Nat.toList_repr]
  have point : ".".toList = ['.'] := rfl
  rw [fixed, units, round_natCast, Int.toNat_natCast, if_neg (not_lt.mpr nonneg)]
  simp only [String.toList_append, String.toList_empty, padded, point, Nat.toString_eq_repr,
    Nat.toList_repr, List.nil_append, List.append_assoc, List.singleton_append]

/-- A number of so many units of the last printed place. -/
theorem reads_fixed {n m : Nat} {q : ℚ} (pos : 0 < n) (scaled : q = m / 10 ^ n) :
    Reads decimal (quoted (fixed n q).toList) q := by
  rw [quoted_eq, toList_fixed scaled]
  refine ⟨fun c mem => ?_, ?_⟩
  · obtain whole | point := List.mem_append.mp mem
    · exact safe_of_isDigit (Nat.isDigit_of_mem_toDigits (by decide) (by decide) whole)
    · obtain rfl | fraction := List.mem_cons.mp point
      · decide
      · exact safe_of_isDigit (Decimal.isDigit_of_mem_padded fraction)
  · rw [value_eq (List.append_ne_nil_of_left_ne_nil Nat.toDigits_ne_nil _), scaled]
    exact Decimal.readDecimal_scaled pos

/-! ## Generated strings -/

theorem word_append {table s t : List Char} {x y x' y' : Int} (hs : Drawn.Word table x y s)
    (ht : Drawn.Word table x' y' t) : Drawn.Word table (x + x') (y + y') (s ++ t) where
  least := by
    rw [List.length_append]
    push_cast
    linarith [hs.least, ht.least]
  most := by
    rw [List.length_append]
    push_cast
    linarith [hs.most, ht.most]
  table c mem := (List.mem_append.mp mem).elim (hs.table c) (ht.table c)

theorem word_syllable (n : Nat) :
    Drawn.Word lStringChar 1 5 (cLastSyl.getD (n % 10) "").toList := by
  have all : (List.range 10).all (fun d =>
      let s := (cLastSyl.getD d "").toList
      decide (1 ≤ s.length) && decide (s.length ≤ 5) && s.all (lStringChar.contains ·)) = true := by
    decide
  have here := List.all_eq_true.mp all (n % 10) (List.mem_range.mpr (Nat.mod_lt _ (by decide)))
  simp only [Bool.and_eq_true, decide_eq_true_eq, List.all_eq_true, List.contains_iff_mem] at here
  exact ⟨by exact_mod_cast here.1.1, by exact_mod_cast here.1.2, here.2⟩

/-- A last name has three syllables. -/
theorem word_getCLast {i : Int} (low : 0 ≤ i) (high : i ≤ 999) :
    Drawn.Word lStringChar 3 15 (getCLast i).toList := by
  rw [getCLast, if_neg (by omega)]
  simp only [String.toList_append]
  exact word_append (word_append (word_syllable _) (word_syllable _)) (word_syllable _)

theorem customerLast_yields {σ : Type} [Source σ] {k : Int} (low : 0 ≤ k) :
    Yields (Drawn.customerLast k : StateT σ Option String) fun last =>
      Drawn.Word lStringChar 3 15 last.toList := by
  unfold Drawn.customerLast
  split
  · exact Yields.pure (word_getCLast low (by omega))
  · exact (Drawn.getNurand_yields (by decide) (by decide) (by decide)).bind fun i bounds =>
      Yields.pure (word_getCLast bounds.1 bounds.2)

/-- The word is in the data as a whole, or not placed at all. -/
def Overlaid (data result : List Char) : Prop :=
  result = data ∨ ∃ j, j + 8 ≤ data.length ∧
    result = data.take j ++ "ORIGINAL".toList ++ data.drop (j + 8)

theorem Overlaid.length {data result : List Char} (overlaid : Overlaid data result) :
    result.length = data.length := by
  obtain rfl | ⟨j, inside, rfl⟩ := overlaid
  · rfl
  · have eight : "ORIGINAL".toList.length = 8 := rfl
    simp only [List.length_append, List.length_take, List.length_drop, eight]
    omega

theorem Overlaid.word {data result : List Char} {x y : Int} (overlaid : Overlaid data result)
    (word : Drawn.Word aStringChar x y data) : Drawn.Word aStringChar x y result where
  least := overlaid.length ▸ word.least
  most := overlaid.length ▸ word.most
  table c mem := by
    obtain rfl | ⟨j, -, rfl⟩ := overlaid
    · exact word.table c mem
    · have spelt : aStringChar = _ := toList_append₃ rfl rfl rfl
      have letters : ("ORIGINAL".toList.all (aStringChar.contains ·)) = true := by
        rw [spelt]
        decide +kernel
      simp only [List.mem_append] at mem
      obtain (before | own) | after := mem
      · exact word.table c (List.mem_of_mem_take before)
      · exact List.contains_iff_mem.mp (List.all_eq_true.mp letters c own)
      · exact word.table c (List.mem_of_mem_drop after)

section Yields

variable {σ : Type} [Source σ]

theorem getAString_yields {x y : Int} (nonneg : 0 ≤ x) (order : x ≤ y) :
    Yields (Drawn.getAString x y : StateT σ Option (List Char)) (Drawn.Word aStringChar x y) := by
  have spelt : aStringChar = _ := toList_append₃ rfl rfl rfl
  have some : aStringChar ≠ [] := by
    rw [spelt]
    exact List.cons_ne_nil _ _
  exact Drawn.getString_yields some nonneg order

theorem getLString_yields {x y : Int} (nonneg : 0 ≤ x) (order : x ≤ y) :
    Yields (Drawn.getLString x y : StateT σ Option (List Char)) (Drawn.Word lStringChar x y) :=
  Drawn.getString_yields (List.ne_nil_of_length_pos (by decide)) nonneg order

theorem getNString_yields {x y : Int} (nonneg : 0 ≤ x) (order : x ≤ y) :
    Yields (Drawn.getNString x y : StateT σ Option (List Char)) (Drawn.Word nStringChar x y) :=
  Drawn.getString_yields (List.ne_nil_of_length_pos (by decide)) nonneg order

theorem getPercentage_yields :
    Yields (Drawn.getPercentage : StateT σ Option ℚ) fun _ => True :=
  word_yields.bind fun _ _ => Yields.pure trivial

/-- What follows the string that the word may be placed in. -/
theorem originalData_overlaid (s : σ) : ∃ data u,
    Drawn.getAString 26 50 s = some (data, u) ∧ Drawn.Word aStringChar 26 50 data ∧
      ∃ result t, Drawn.originalData s = some (result, t) ∧ Overlaid data result := by
  obtain ⟨data, u, drawn, word⟩ :=
    getAString_yields (σ := σ) (x := 26) (y := 50) (by decide) (by decide) s
  have least := word.least
  have rest : Yields (do
      let seed ← Draws.word
      aside (Source.seeded seed) do
        let percentage ← Drawn.getPercentage
        if percentage < 1 / 10 then do
          let j ← Drawn.getRandom ((data.length : Int) - 7)
          pure (Datagen.overwrite data j.toNat "ORIGINAL".toList)
        else pure data : StateT σ Option (List Char)) (Overlaid data) := by
    refine word_yields.bind fun seed _ => Yields.aside (getPercentage_yields.bind fun _ _ => ?_) _
    split
    · refine (Drawn.getRandom_yields (by omega)).bind fun j bounds => Yields.pure (.inr ?_)
      exact ⟨j.toNat, by omega, rfl⟩
    · exact Yields.pure (.inl rfl)
  obtain ⟨result, t, returned, overlaid⟩ := rest u
  exact ⟨data, u, drawn, word, result, t, by rw [Drawn.originalData, bind_apply drawn, returned],
    overlaid⟩

theorem originalData_yields :
    Yields (Drawn.originalData : StateT σ Option (List Char)) (Drawn.Word aStringChar 26 50) := by
  intro s
  obtain ⟨data, u, -, word, result, t, returned, overlaid⟩ := originalData_overlaid s
  exact ⟨result, t, returned, overlaid.word word⟩

end Yields

end Dbt2
