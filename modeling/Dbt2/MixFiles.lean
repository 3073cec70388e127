import Dbt2.Lib.Csv
import Dbt2.Lib.Printf
import Dbt2.MixReport

/-!
# The files of mix logs

The lines that the drivers print, and what the scripts import of them: `files_read` gives the rows
back, so that `MixReport.analyzers_agree` is about the files. R stops at a file without a line.
-/

namespace Dbt2

open Decimal

namespace MixReport

/-! ## Printing -/

namespace Entry

/-- `"%ld,START,,,%d,,\n"`, `"%ld,TERMINATED,,,%d,,\n"` and `"%ld,%c,%c,%f,%d,%d,%d\n"`. -/
def fields : Entry → List (List Char)
  | start time id => [digitsInt time, START, [], [], digitsInt id, [], []]
  | terminated time id => [digitsInt time, TERMINATED, [], [], digitsInt id, [], []]
  | transaction time type code micros id wId dId =>
    [digitsInt time, [shortName type], [code], (Printf.Number.finite (micros / 10 ^ 6)).chars,
      digitsInt id, digitsInt wId, digitsInt dId]

def line (e : Entry) : List Char := Csv.line e.fields

/-- The code is one of those that a driver has for an outcome. -/
def Coded : Entry → Prop
  | transaction _ _ code _ _ _ _ => code = 'C' ∨ code = 'R' ∨ code = 'E' ∨ code = 'X'
  | _ => True

end Entry

/-- The log of a driver. -/
def file (es : List Entry) : List Char := es.flatMap Entry.line

/-! ## Reading -/

/-- An empty field has no value. -/
def cell {α : Type} (read : List Char → Option α) (field : List Char) : Option (Option α) :=
  if field = [] then some none else (read field).map some

def Row.read : List (List Char) → Option Row
  | [time, txn, code, response, id, wId, dId] => do
    let time ← readInt time
    let response ← cell readDecimal response
    let id ← readInt id
    let wId ← cell readInt wId
    let dId ← cell readInt dId
    pure { time, txn, code, response, id, wId, dId }
  | _ => none

/-- All files go into one table. -/
def readFiles (files : List (List Char)) : Option (List Row) :=
  (files.flatMap Csv.records).mapM Row.read

/-- `.import` adds no rows from an empty file. -/
def Sqlite.readFiles : List (List Char) → Option (List Row) := MixReport.readFiles

/-- `read.csv` stops where no lines are available, and nothing can be bound to no table. -/
def R.readFiles (files : List (List Char)) : Option (List Row) :=
  if files = [] ∨ [] ∈ files then none else MixReport.readFiles files

/-! ## What is printed is read -/

theorem isDigit_of_mem_toDigits {n : Nat} {c : Char} (mem : c ∈ Nat.toDigits 10 n) : c.isDigit :=
  Nat.isDigit_of_mem_toDigits (by decide) (by decide) mem

theorem numeral_of_mem_digitsInt {n : Int} {c : Char} (mem : c ∈ digitsInt n) :
    c.isDigit || c == '-' := by
  cases n with
  | ofNat n => simp [isDigit_of_mem_toDigits mem]
  | negSucc n =>
    obtain rfl | mem := List.mem_cons.mp mem
    · rfl
    · simp [isDigit_of_mem_toDigits mem]

theorem plain_digitsInt (n : Int) : Csv.Plain (digitsInt n) :=
  Csv.plain_of_forall (fun _ => numeral_of_mem_digitsInt) rfl rfl

theorem digitsInt_ne_nil (n : Int) : digitsInt n ≠ [] := by
  cases n with
  | ofNat n => exact Nat.toDigits_ne_nil
  | negSucc n => exact List.cons_ne_nil _ _

/-- Microseconds have six places. -/
theorem chars_micros (micros : Int) : (Printf.Number.finite (micros / 10 ^ 6)).chars =
    Printf.sign (micros < 0) ++ (Nat.toDigits 10 (micros.natAbs / 10 ^ 6) ++
      '.' :: padded 6 (micros.natAbs % 10 ^ 6)) := by
  have scaled : round (|(micros / 10 ^ 6 : ℚ)| * 10 ^ 6) = (micros.natAbs : Int) := by
    have whole : |(micros / 10 ^ 6 : ℚ)| * 10 ^ 6 = ((micros.natAbs : Int) : ℚ) := by
      rw [abs_div, abs_of_pos (by norm_num : (0 : ℚ) < 10 ^ 6), div_mul_cancel₀ _ (by norm_num),
        Int.natCast_natAbs, Int.cast_abs]
    rw [whole, round_intCast]
  have negative : ((micros / 10 ^ 6 : ℚ) < 0) = (micros < 0) := by
    rw [div_lt_iff₀ (by norm_num), zero_mul, Int.cast_lt_zero]
  simp only [Printf.Number.chars, scaled, Int.toNat_natCast, negative, List.append_assoc]

theorem readDecimal_micros (micros : Int) :
    readDecimal (Printf.Number.finite (micros / 10 ^ 6)).chars = some (micros / 10 ^ 6 : ℚ) := by
  have whole := @readDecimal_scaled 6 micros.natAbs (by decide)
  have size : ((micros.natAbs : Nat) : ℚ) = |(micros : ℚ)| := by
    rw [← Int.cast_abs, ← Int.natCast_natAbs, Int.cast_natCast]
  rw [chars_micros]
  by_cases negative : micros < 0
  · have unsigned := signed_of_digit readUnsigned (readNat_toDigits (micros.natAbs / 10 ^ 6))
      (t := '.' :: padded 6 (micros.natAbs % 10 ^ 6))
    rw [readDecimal, unsigned] at whole
    have below : (micros : ℚ) < 0 := by exact_mod_cast negative
    rw [Printf.sign, if_pos (decide_eq_true negative), List.singleton_append, readDecimal, signed,
      if_pos rfl, whole, size, abs_of_neg below, Option.map_some, neg_div, neg_neg]
  · have above : 0 ≤ (micros : ℚ) := by exact_mod_cast not_lt.mp negative
    rw [Printf.sign, if_neg (by simpa using negative), List.nil_append, whole, size,
      abs_of_nonneg above]

theorem plain_micros (micros : Int) :
    Csv.Plain (Printf.Number.finite (micros / 10 ^ 6)).chars := by
  rw [chars_micros]
  refine Csv.plain_of_forall (p := fun c => c.isDigit || c == '-' || c == '.') ?_ rfl rfl
  intro c mem
  simp only [List.mem_append, List.mem_cons] at mem
  obtain sign | whole | rfl | fraction := mem
  · unfold Printf.sign at sign
    split at sign
    · rw [List.mem_singleton.mp sign]
      rfl
    · cases sign
  · simp [isDigit_of_mem_toDigits whole]
  · rfl
  · simp [isDigit_of_mem_padded fraction]

theorem micros_ne_nil (micros : Int) : (Printf.Number.finite (micros / 10 ^ 6)).chars ≠ [] := by
  rw [chars_micros]
  simp

theorem plain_fields {e : Entry} (coded : e.Coded) : ∀ f ∈ e.fields, Csv.Plain f := by
  have markers : Csv.Plain START ∧ Csv.Plain TERMINATED := by
    constructor <;> constructor <;> decide
  cases e with
  | start time id => simp [Entry.fields, plain_digitsInt, markers]
  | terminated time id => simp [Entry.fields, plain_digitsInt, markers]
  | transaction time type code micros id wId dId =>
    have name : Csv.Plain [shortName type] := by
      cases type <;> constructor <;> decide
    have outcome : Csv.Plain [code] := by
      obtain rfl | rfl | rfl | rfl := coded <;> constructor <;> decide
    simp [Entry.fields, plain_digitsInt, plain_micros, name, outcome]

theorem cell_some {α : Type} {read : List Char → Option α} {field : List Char} {a : α}
    (some' : field ≠ []) (value : read field = some a) : cell read field = some (some a) := by
  rw [cell, if_neg some', value, Option.map_some]

theorem read_fields (e : Entry) : Row.read e.fields = some e.row := by
  cases e with
  | start time id => simp [Entry.fields, Row.read, readInt_digitsInt, cell, Entry.row]
  | terminated time id => simp [Entry.fields, Row.read, readInt_digitsInt, cell, Entry.row]
  | transaction time type code micros id wId dId =>
    simp [Entry.fields, Row.read, readInt_digitsInt, Entry.row,
      cell_some (micros_ne_nil micros) (readDecimal_micros micros),
      cell_some (digitsInt_ne_nil _) (readInt_digitsInt _)]

theorem records_file {es : List Entry} (coded : ∀ e ∈ es, e.Coded) :
    Csv.records (file es) = es.map Entry.fields := by
  have lines : file es = (es.map Entry.fields).flatMap Csv.line := by
    rw [List.flatMap_map]
    rfl
  rw [lines]
  apply Csv.records_lines
  · intro r mem
    obtain ⟨e, inside, rfl⟩ := List.mem_map.mp mem
    exact plain_fields (coded e inside)
  · intro r mem
    obtain ⟨e, -, rfl⟩ := List.mem_map.mp mem
    cases e <;> exact List.cons_ne_nil _ _

theorem readFiles_eq (logs : List (List Entry)) (coded : ∀ es ∈ logs, ∀ e ∈ es, e.Coded) :
    readFiles (logs.map file) = some (logs.flatten.map Entry.row) := by
  have records : (logs.map file).flatMap Csv.records = logs.flatten.map Entry.fields := by
    rw [List.flatMap_map, List.map_flatten, ← List.flatMap_def]
    exact List.flatMap_congr fun es mem => records_file (coded es mem)
  have each : Row.read ∘ Entry.fields = fun e => pure e.row := funext read_fields
  rw [readFiles, records, List.mapM_map, each]
  exact List.mapM_pure

theorem file_eq_nil (es : List Entry) : file es = [] ↔ es = [] := by
  have line (e : Entry) : e.line ≠ [] := by
    simp [Entry.line, Csv.line]
  cases es with
  | nil => simp [file]
  | cons e es => simp [file, line e]

/-- From the files of the drivers, whatever they logged with one of the codes, come the rows of all
their lines, in R only if each driver logged something. -/
theorem files_read (logs : List (List Entry)) (coded : ∀ es ∈ logs, ∀ e ∈ es, e.Coded) :
    Sqlite.readFiles (logs.map file) = some (logs.flatten.map Entry.row) ∧
      R.readFiles (logs.map file) =
        if logs = [] ∨ [] ∈ logs then none else some (logs.flatten.map Entry.row) := by
  have rows := readFiles_eq logs coded
  have empty : (logs.map file = [] ∨ [] ∈ logs.map file) ↔ (logs = [] ∨ [] ∈ logs) := by
    simp [file_eq_nil]
  constructor
  · exact rows
  · simp only [R.readFiles, empty, rows]

theorem files_read_shortLog :
    Sqlite.readFiles ([shortLog, shortLog].map file) =
        some ([shortLog, shortLog].flatten.map Entry.row) ∧
      R.readFiles ([shortLog, shortLog].map file) =
        some ([shortLog, shortLog].flatten.map Entry.row) := by
  obtain ⟨sqlite, r⟩ := files_read [shortLog, shortLog] (by simp [shortLog, Entry.Coded])
  exact ⟨sqlite, r⟩

end MixReport

end Dbt2
