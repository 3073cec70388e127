import Mathlib

/-!
# Decimal numerals

Reading of integers and of decimal fractions, with an optional sign. What a program prints as the
digits of a number, with leading zeros or a fixed number of places after the point, is read as that
number; `readNat_padded` and `readDecimal_point` put the digits together.
-/

namespace Decimal

/-! ## Reading -/

def readNat (s : List Char) : Option Nat :=
  if s ≠ [] ∧ s.all Char.isDigit then some (Nat.ofDigitChars 10 s 0) else none

/-- A minus sign before the numeral. -/
def signed {α : Type} [Neg α] (read : List Char → Option α) : List Char → Option α
  | [] => none
  | c :: s => if c = '-' then (read s).map (- ·) else read (c :: s)

def readInt : List Char → Option Int := signed fun s => (readNat s).map Nat.cast

def readUnsigned (s : List Char) : Option ℚ :=
  match s.splitOn '.' with
  | [whole] => (readNat whole).map Nat.cast
  | [whole, fraction] => do
    let w ← readNat whole
    let f ← readNat fraction
    pure (w + f / 10 ^ fraction.length)
  | _ => none

def readDecimal : List Char → Option ℚ := signed readUnsigned

/-! ## Digits -/

/-- The digits of `n`, with leading zeros up to a width. -/
def padded (width n : Nat) : List Char :=
  List.replicate (width - (Nat.toDigits 10 n).length) '0' ++ Nat.toDigits 10 n

theorem isDigit_of_mem_padded {width n : Nat} {c : Char} (mem : c ∈ padded width n) :
    c.isDigit := by
  obtain zero | digit := List.mem_append.mp mem
  · rw [List.eq_of_mem_replicate zero]
    rfl
  · exact Nat.isDigit_of_mem_toDigits (by decide) (by decide) digit

theorem padded_ne_nil {width n : Nat} : padded width n ≠ [] :=
  List.append_ne_nil_of_right_ne_nil _ Nat.toDigits_ne_nil

theorem length_padded {width n : Nat} (pos : 0 < width) (fits : n < 10 ^ width) :
    (padded width n).length = width := by
  have short := (Nat.length_toDigits_le_iff (b := 10) (by decide) pos).mpr fits
  rw [padded, List.length_append, List.length_replicate]
  omega

theorem padded_zero (n : Nat) : padded 0 n = Nat.toDigits 10 n := by
  rw [padded, Nat.zero_sub, List.replicate_zero, List.nil_append]

theorem readNat_padded (width n : Nat) : readNat (padded width n) = some n := by
  have digits : (padded width n).all Char.isDigit :=
    List.all_eq_true.mpr fun c mem => isDigit_of_mem_padded mem
  rw [readNat, if_pos ⟨padded_ne_nil, digits⟩, padded, Nat.ofDigitChars_append,
    Nat.ofDigitChars_replicate_zero, mul_zero, Nat.ofDigitChars_ten_toDigits]

theorem readNat_toDigits (n : Nat) : readNat (Nat.toDigits 10 n) = some n := by
  rw [← padded_zero, readNat_padded]

theorem isDigit_of_readNat {s : List Char} {n : Nat} (read : readNat s = some n) {c : Char}
    (mem : c ∈ s) : c.isDigit := by
  unfold readNat at read
  split at read
  case isTrue digits => exact List.all_eq_true.mp digits.2 c mem
  case isFalse => cases read

/-! ## Numbers -/

/-- A numeral that starts with a digit has no sign. -/
theorem signed_of_digit {α : Type} [Neg α] (read : List Char → Option α) {s t : List Char}
    {n : Nat} (digits : readNat s = some n) : signed read (s ++ t) = read (s ++ t) := by
  cases s with
  | nil => simp [readNat] at digits
  | cons c s =>
    have first := isDigit_of_readNat digits List.mem_cons_self
    have sign : c ≠ '-' := by
      rintro rfl
      exact absurd first (by decide)
    rw [List.cons_append, signed, if_neg sign]

/-- The digits of an integer, after a minus sign if it is negative. -/
def digitsInt : Int → List Char
  | .ofNat n => Nat.toDigits 10 n
  | .negSucc n => '-' :: Nat.toDigits 10 (n + 1)

theorem readInt_digitsInt (n : Int) : readInt (digitsInt n) = some n := by
  cases n with
  | ofNat n =>
    have plain := signed_of_digit (fun s => (readNat s).map (Nat.cast : Nat → Int)) (t := [])
      (readNat_toDigits n)
    rw [List.append_nil] at plain
    rw [digitsInt, readInt, plain, readNat_toDigits]
    rfl
  | negSucc n =>
    rw [digitsInt, readInt, signed, if_pos rfl, readNat_toDigits]
    rfl

theorem readUnsigned_point {whole fraction : List Char} {w f : Nat}
    (hw : readNat whole = some w) (hf : readNat fraction = some f) :
    readUnsigned (whole ++ '.' :: fraction) = some ((w : ℚ) + f / 10 ^ fraction.length) := by
  have point {s : List Char} {n : Nat} (read : readNat s = some n) : '.' ∉ s := fun mem =>
    absurd (isDigit_of_readNat read mem) (by decide)
  rw [readUnsigned, List.splitOn_append_cons_self_of_not_mem (point hw),
    List.splitOn_eq_singleton (point hf)]
  simp only [hw, hf, Option.bind_eq_bind, Option.bind_some]
  rfl

/-- The digits before and after the point. -/
theorem readDecimal_point {whole fraction : List Char} {w f : Nat}
    (hw : readNat whole = some w) (hf : readNat fraction = some f) :
    readDecimal (whole ++ '.' :: fraction) = some ((w : ℚ) + f / 10 ^ fraction.length) := by
  rw [readDecimal, signed_of_digit readUnsigned hw, readUnsigned_point hw hf]

/-- A number of so many units of the last place. -/
theorem readDecimal_scaled {places n : Nat} (pos : 0 < places) :
    readDecimal (Nat.toDigits 10 (n / 10 ^ places) ++ '.' :: padded places (n % 10 ^ places)) =
      some ((n : ℚ) / 10 ^ places) := by
  have fits : n % 10 ^ places < 10 ^ places := Nat.mod_lt _ (by positivity)
  rw [readDecimal_point (readNat_toDigits _) (readNat_padded _ _), length_padded pos fits]
  have whole : ((n / 10 ^ places * 10 ^ places + n % 10 ^ places : Nat) : ℚ) = n := by
    rw [Nat.div_add_mod']
  push_cast at whole
  rw [← whole]
  field_simp

end Decimal
