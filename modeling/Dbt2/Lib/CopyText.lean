import Mathlib

/-!
# The text format of COPY

How PostgreSQL reads a text without carriage returns: rows end at newlines, columns at delimiters, a
backslash protects the character after it and starts an escape sequence, and a column that is the
null marker is null.

`decode_lines`: columns that use none of the special characters are read as they were written.
-/

namespace CopyText

structure Format where
  delimiter : Char
  null : List Char

/-! ## Reading -/

/-- The pieces between the separators that no backslash protects. -/
def pieces (separator : Char) : List Char → List (List Char)
  | [] => [[]]
  | [c] => if c = separator then [[], []] else [[c]]
  | c :: e :: rest =>
    if c = '\\' then (pieces separator rest).modifyHead fun f => c :: e :: f
    else if c = separator then [] :: pieces separator (e :: rest)
    else (pieces separator (e :: rest)).modifyHead (c :: ·)

def isOctal (c : Char) : Bool := '0' ≤ c ∧ c ≤ '7'

def hexDigit (c : Char) : Option Nat :=
  if c.isDigit then some (c.toNat - '0'.toNat)
  else if 'a' ≤ c ∧ c ≤ 'f' then some (c.toNat - 'a'.toNat + 10)
  else if 'A' ≤ c ∧ c ≤ 'F' then some (c.toNat - 'A'.toNat + 10)
  else none

def controls : List (Char × Nat) := [('b', 8), ('f', 12), ('n', 10), ('r', 13), ('t', 9), ('v', 11)]

/-- What a backslash and `e` stand for, and how many characters after `e` belong to them. -/
def escaped (e : Char) (rest : List Char) : Char × Nat :=
  if isOctal e then
    let more := (rest.take 2).takeWhile isOctal
    (Char.ofNat (Nat.ofDigitChars 8 (e :: more) 0 % 256), more.length)
  else if e = 'x' then
    let digits := (rest.take 2).takeWhile fun c => (hexDigit c).isSome
    if digits = [] then (e, 0)
    else (Char.ofNat ((digits.filterMap hexDigit).foldl (16 * · + ·) 0), digits.length)
  else (((controls.lookup e).map Char.ofNat).getD e, 0)

def unescape : List Char → List Char
  | [] => []
  | [c] => if c = '\\' then [] else [c]
  | c :: e :: rest =>
    if c = '\\' then (escaped e rest).1 :: unescape (rest.drop (escaped e rest).2)
    else c :: unescape (e :: rest)
termination_by s => s.length
decreasing_by
  all_goals
    simp only [List.length_drop, List.length_cons]
    omega

/-- The marker is compared before escape sequences are replaced. -/
def decodeColumn (format : Format) (column : List Char) : Option (List Char) :=
  if column = format.null then none else some (unescape column)

def decodeRow (format : Format) (row : List Char) : List (Option (List Char)) :=
  (pieces format.delimiter row).map (decodeColumn format)

/-- The rows up to the end-of-data mark. -/
def rows (text : List Char) : List (List Char) :=
  let lines := pieces '\n' text
  (if lines.getLast? = some [] then lines.dropLast else lines).takeWhile fun row =>
    row ≠ ['\\', '.']

def decode (format : Format) (text : List Char) : List (List (Option (List Char))) :=
  (rows text).map (decodeRow format)

/-! ## Writing -/

def row (format : Format) (columns : List (List Char)) : List Char :=
  [format.delimiter].intercalate columns

def line (format : Format) (columns : List (List Char)) : List Char := row format columns ++ ['\n']

/-- No character of a column is special. -/
structure Plain (format : Format) (column : List Char) : Prop where
  delimiter : format.delimiter ∉ column
  newline : '\n' ∉ column
  carriageReturn : '\r' ∉ column
  backslash : '\\' ∉ column

/-- Every column but the null marker has a value, itself. -/
def value (format : Format) (column : List Char) : Option (List Char) :=
  if column = format.null then none else some column

/-! ## What is written is read -/

theorem pieces_eq_splitOn {separator : Char} {s : List Char} (plain : '\\' ∉ s) :
    pieces separator s = s.splitOn separator := by
  induction s with
  | nil => rfl
  | cons c s ih =>
    have own : c ≠ '\\' := fun same => plain (same ▸ List.mem_cons_self)
    have rest := ih fun mem => plain (List.mem_cons_of_mem c mem)
    rw [List.splitOn_cons_eq_if_modifyHead]
    cases s with
    | nil => by_cases same : c = separator <;> simp [pieces, same]
    | cons e s =>
      rw [pieces, if_neg own, rest]
      by_cases same : c = separator <;> simp [same]

theorem unescape_eq {s : List Char} (plain : '\\' ∉ s) : unescape s = s := by
  induction s with
  | nil => rw [unescape]
  | cons c s ih =>
    have own : c ≠ '\\' := fun same => plain (same ▸ List.mem_cons_self)
    have rest := ih fun mem => plain (List.mem_cons_of_mem c mem)
    cases s with
    | nil => rw [unescape, if_neg own]
    | cons e s => rw [unescape, if_neg own, rest]

section

variable {format : Format} {columns : List (List Char)}

theorem decodeColumn_eq {column : List Char} (plain : Plain format column) :
    decodeColumn format column = value format column := by
  rw [decodeColumn, value, unescape_eq plain.backslash]

/-- A character that is neither in the columns nor the delimiter is not in their row. -/
theorem notMem_row {c : Char} (other : c ≠ format.delimiter) (none : ∀ f ∈ columns, c ∉ f) :
    c ∉ row format columns := by
  induction columns with
  | nil => simp [row]
  | cons f fs ih =>
    have rest := ih fun g mem => none g (List.mem_cons_of_mem f mem)
    have own := none f List.mem_cons_self
    cases fs with
    | nil => simpa [row] using own
    | cons g fs =>
      simp only [row, List.intercalate_cons_cons, List.mem_append, List.mem_singleton] at rest ⊢
      rintro ((mem | same) | mem)
      · exact own mem
      · exact other same
      · exact rest mem

theorem splitOn_row (plain : ∀ f ∈ columns, Plain format f) (some : columns ≠ []) :
    (row format columns).splitOn format.delimiter = columns :=
  List.splitOn_intercalate _ (fun f mem => (plain f mem).delimiter) some

theorem decodeRow_row (special : format.delimiter ≠ '\\')
    (plain : ∀ f ∈ columns, Plain format f) (some : columns ≠ []) :
    decodeRow format (row format columns) = columns.map (value format) := by
  have backslash := notMem_row special.symm fun f mem => (plain f mem).backslash
  rw [decodeRow, pieces_eq_splitOn backslash, splitOn_row plain some]
  exact List.map_congr_left fun f mem => decodeColumn_eq (plain f mem)

theorem splitOn_lines {c : Char} {ls : List (List Char)} (none : ∀ l ∈ ls, c ∉ l) :
    (ls.flatMap (· ++ [c])).splitOn c = ls ++ [[]] := by
  induction ls with
  | nil => rfl
  | cons l ls ih =>
    have own := none l List.mem_cons_self
    have rest := ih fun k mem => none k (List.mem_cons_of_mem l mem)
    rw [List.flatMap_cons, List.append_assoc, List.singleton_append,
      List.splitOn_append_cons_self_of_not_mem own, rest]
    rfl

/-- The lines of plain rows are read as the values of their columns. -/
theorem decode_lines {table : List (List (List Char))} (newline : format.delimiter ≠ '\n')
    (special : format.delimiter ≠ '\\') (plain : ∀ r ∈ table, ∀ f ∈ r, Plain format f)
    (some : ∀ r ∈ table, r ≠ []) :
    decode format (table.flatMap (line format)) = table.map fun r => r.map (value format) := by
  have lines : table.flatMap (line format) = (table.map (row format)).flatMap (· ++ ['\n']) := by
    rw [List.flatMap_map]
    rfl
  have ends : ∀ l ∈ table.map (row format), '\n' ∉ l := by
    intro l mem
    obtain ⟨r, inside, rfl⟩ := List.mem_map.mp mem
    exact notMem_row newline.symm fun f column => (plain r inside f column).newline
  have escapes : ∀ l ∈ table.map (row format), '\\' ∉ l := by
    intro l mem
    obtain ⟨r, inside, rfl⟩ := List.mem_map.mp mem
    exact notMem_row special.symm fun f column => (plain r inside f column).backslash
  have text : '\\' ∉ (table.map (row format)).flatMap (· ++ ['\n']) := by
    intro mem
    obtain ⟨l, inside, here⟩ := List.mem_flatMap.mp mem
    obtain own | last := List.mem_append.mp here
    · exact escapes l inside own
    · exact absurd (List.mem_singleton.mp last) (by decide)
  have kept : rows ((table.map (row format)).flatMap (· ++ ['\n'])) = table.map (row format) := by
    rw [rows, pieces_eq_splitOn text, splitOn_lines ends]
    simp only [List.getLast?_append, List.getLast?_singleton, Option.some_or, if_true,
      List.dropLast_concat]
    refine List.takeWhile_eq_self_iff.mpr fun l mem => decide_eq_true fun same => ?_
    exact escapes l mem (same ▸ List.mem_cons_self)
  rw [decode, lines, kept, List.map_map]
  exact List.map_congr_left fun r mem => decodeRow_row special (plain r mem) (some r mem)

end

end CopyText
