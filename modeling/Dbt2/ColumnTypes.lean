import Dbt2.Backends
import Dbt2.Lib.Rounding

/-!
# Column types

What becomes of numbers in `REAL` and `NUMERIC` columns, where the transactions are modelled with
exact numbers. A `REAL` is computed with in double precision and kept in single precision, and from
a million on its text has an exponent. A number is given as its column prints it, and exponents are
not bounded.

* `real`, `atoiReal`: whole numbers in `REAL` columns;
* `Cockroach.storedNewOrderCode`, `Pgsql.storedNewOrderCode`: New-Order with what its columns keep;
* `Arithmetic`, `Pgsql.arithmetic`: sums of money, which `plus_intCast` finds exact for whole
  amounts.
-/

namespace Dbt2

open Rounding

/-! ## Whole numbers -/

/-- What a `REAL` keeps of a number. -/
def inReal (n : Int) : Int := significant 24 n

/-- What it keeps of a sum with another number. -/
def real (n : Int) : Int := inReal (significant 53 n)

theorem inReal_eq {n : Int} (fits : n.natAbs < 2 ^ 24) : inReal n = n := significant_exact fits

theorem real_eq {n : Int} (fits : n.natAbs < 2 ^ 24) : real n = n := by
  have short : significant 53 n = n := significant_exact (fits.trans (by decide))
  rw [real, short, inReal_eq fits]

/-- `atoi` of the text of a `REAL`: of `1e+06` it reads the digits before the exponent. -/
def atoiReal (n : Int) : Int :=
  if n.natAbs < 10 ^ 6 then n else n.sign * (n.natAbs / 10 ^ Nat.log 10 n.natAbs : Nat)

theorem atoiReal_eq {n : Int} (plain : n.natAbs < 10 ^ 6) : atoiReal n = n := if_pos plain

/-- The columns of the row after an update of them. -/
def Stock.stored (s : Stock) : Stock :=
  { s with
    sQuantity := real s.sQuantity
    sOrderCnt := real s.sOrderCnt
    sRemoteCnt := real s.sRemoteCnt }

/-! ## Fractions -/

def float4 (q : ℚ) : ℚ := rounded 2 24 q
def float8 (q : ℚ) : ℚ := rounded 2 53 q

/-- `%.ng`. -/
def significantDigits (n : Nat) (q : ℚ) : ℚ := rounded 10 n q

/-- `NUMERIC(24, 12)` rounds to the nearest, and a tie away from zero. -/
def numeric (q : ℚ) : ℚ :=
  let places : ℚ := ⌊|q| * 10 ^ 12 + 1 / 2⌋ / 10 ^ 12
  if q < 0 then -places else places

/-- The text of a `REAL` has as few digits as tell it from the others. -/
def text4 (q : ℚ) : ℚ :=
  let texts := (List.range 9).map fun n => significantDigits (n + 1) q
  (texts.find? fun t => float4 t = float4 q).getD q

example : text4 (float4 (101 / 100)) = 101 / 100 := by decide +kernel

/-! ## New-Order -/

/-- With stock rows as their columns keep them, and with the text of their quantity. -/
def NewOrderCode.storing {E : Type} (code : NewOrderCode E) : NewOrderCode E :=
  { code with
    quantity := atoiReal
    updateStock := fun decr olQuantity remoteCnt s =>
      (code.updateStock decr olQuantity remoteCnt s).stored }

def Cockroach.storedNewOrderCode : NewOrderCode Failure := Cockroach.newOrderCode.storing

namespace Pgsql

/-- `atof` of the text of the price, times a `float`. -/
def olAmount (iPrice : ℚ) (olQuantity : Int) : ℚ :=
  float4 (float8 (float8 iPrice * inReal olQuantity))

def storedNewOrderCode : NewOrderCode PgError := { newOrderCode.storing with olAmount }

def storedNewOrder (data : NewOrderData) (db : Database) :
    Except PgError (Database × NewOrderResult) :=
  if data.oOlCnt < 1 then
    .error { sqlstate := "22023", errmsg := "o_ol_cnt must be between 1 and 15" }
  else Dbt2.newOrder storedNewOrderCode data db

end Pgsql

/-! ## Sums of money -/

/-- The arithmetic of a database on its columns of money. -/
structure Arithmetic where
  /-- The amount that a `HISTORY` row shows. -/
  amount : ℚ → ℚ
  /-- A column and an amount, and their difference. -/
  plus (column hAmount : ℚ) : ℚ
  minus (column hAmount : ℚ) : ℚ
  /-- A number of payments and one. -/
  next : Int → Int
  /-- A balance and the sum of the amounts of an order's lines. -/
  credit (cBalance : ℚ) (olAmounts : List ℚ) : ℚ

namespace Pgsql

/-- A double in a `NUMERIC` column. -/
def kept (q : ℚ) : ℚ := numeric (significantDigits 15 (float8 q))

/-- `SUM` of a `REAL` column, through its text. -/
def sum (olAmounts : List ℚ) : ℚ :=
  numeric (text4 (olAmounts.foldl (fun s olAmount => float4 (s + float4 olAmount)) 0))

def arithmetic : Arithmetic where
  amount hAmount := text4 (float4 hAmount)
  plus column hAmount := kept (float8 column + float4 hAmount)
  minus column hAmount := kept (float8 column - float4 hAmount)
  next n := real (n + 1)
  credit cBalance olAmounts := numeric (cBalance + sum olAmounts)

theorem numeric_intCast (n : Int) : numeric n = n := by
  have places : ⌊|(n : ℚ)| * 10 ^ 12 + 1 / 2⌋ = |n| * 10 ^ 12 := by
    rw [Int.floor_eq_iff]
    push_cast
    constructor <;> linarith
  have back : ((|n| * 10 ^ 12 : Int) : ℚ) / 10 ^ 12 = |(n : ℚ)| := by
    push_cast
    exact mul_div_cancel_right₀ _ (by norm_num)
  unfold numeric
  simp only [places, back]
  split
  · next negative => rw [abs_of_neg negative, neg_neg]
  · next nonneg => exact abs_of_nonneg (not_lt.mp nonneg)

/-- A whole number of fifteen digits is kept. -/
theorem kept_intCast {n : Int} (short : n.natAbs < 10 ^ 15) : kept n = n := by
  have double : float8 n = n := rounded_int (by decide) (short.trans (by decide))
  have digits : significantDigits 15 n = n := rounded_int (by decide) short
  rw [kept, double, digits, numeric_intCast]

/-- Whole amounts below `2 ^ 24` are added to a column as they are. -/
theorem plus_intCast {column hAmount : Int} (amount : hAmount.natAbs < 2 ^ 24)
    (before : column.natAbs < 10 ^ 15) (after : (column + hAmount).natAbs < 10 ^ 15) :
    arithmetic.plus column hAmount = column + hAmount := by
  have double : float8 column = column := rounded_int (by decide) (before.trans (by decide))
  have single : float4 hAmount = hAmount := rounded_int (by decide) amount
  have sum := kept_intCast after
  push_cast at sum
  rw [← sum]
  simp only [arithmetic, double, single]

theorem minus_intCast {column hAmount : Int} (amount : hAmount.natAbs < 2 ^ 24)
    (before : column.natAbs < 10 ^ 15) (after : (column - hAmount).natAbs < 10 ^ 15) :
    arithmetic.minus column hAmount = column - hAmount := by
  have double : float8 column = column := rounded_int (by decide) (before.trans (by decide))
  have single : float4 hAmount = hAmount := rounded_int (by decide) amount
  have difference := kept_intCast after
  push_cast at difference
  rw [← difference]
  simp only [arithmetic, double, single]

/-- The text of a whole amount is its own. -/
theorem amount_intCast {hAmount : Int} (small : hAmount.natAbs < 2 ^ 23) :
    arithmetic.amount hAmount = hAmount := by
  have exact {n : Int} (fits : n.natAbs < 2 ^ 24) : float4 n = n := rounded_int (by decide) fits
  have single := exact (small.trans (by decide))
  change text4 (float4 hAmount) = hAmount
  rw [single, text4]
  cases found : ((List.range 9).map fun n => significantDigits (n + 1) (hAmount : ℚ)).find?
      fun t => float4 t = float4 hAmount with
  | none => rfl
  | some t =>
    have same : float4 t = float4 hAmount := by simpa using List.find?_some found
    obtain ⟨n, -, rfl⟩ := List.mem_map.mp (List.mem_of_find?_eq_some found)
    have near : |significantDigits (n + 1) (hAmount : ℚ) - hAmount| ≤ |(hAmount : ℚ)| / 2 :=
      rounded_error (by decide) (Nat.le_add_left 1 n) _
    obtain ⟨m, whole⟩ := rounded_intCast (b := 10) (p := n + 1) (by decide) hAmount
    change significantDigits (n + 1) (hAmount : ℚ) = m at whole
    rw [whole] at near same
    have fits : m.natAbs < 2 ^ 24 := by
      have bound : |m - hAmount| * 2 ≤ |hAmount| := by
        have := (le_div_iff₀ (by norm_num : (0 : ℚ) < 2)).mp near
        exact_mod_cast this
      rw [Int.abs_eq_natAbs, Int.abs_eq_natAbs] at bound
      omega
    rw [exact fits, single] at same
    rw [Option.getD_some, whole, same]

/-- One cent is enough to part the columns. -/
example : arithmetic.plus 300000 (101 / 100) = 30000100999999 / 10 ^ 8 ∧
    arithmetic.plus 30000 (101 / 100) = 300010099999905 / 10 ^ 10 ∧
    arithmetic.amount (101 / 100) = 101 / 100 := by decide +kernel

end Pgsql

end Dbt2
