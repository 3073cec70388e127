import Dbt2.Lib.CopyText

/-!
# Comma-separated values

Texts without quotes: records end at newlines, the last one also at the end of the text, and fields
at commas. `records_lines`: the lines of records are read as these records.
-/

namespace Csv

def records (text : List Char) : List (List (List Char)) :=
  let lines := text.splitOn '\n'
  (if lines.getLast? = some [] then lines.dropLast else lines).map (List.splitOn ',')

def line (fields : List (List Char)) : List Char := [','].intercalate fields ++ ['\n']

structure Plain (field : List Char) : Prop where
  comma : ',' ∉ field
  newline : '\n' ∉ field

@[simp] theorem plain_nil : Plain [] := ⟨List.not_mem_nil, List.not_mem_nil⟩

theorem plain_of_forall {p : Char → Bool} {field : List Char} (chars : ∀ c ∈ field, p c)
    (comma : p ',' = false) (newline : p '\n' = false) : Plain field where
  comma mem := by simp [chars _ mem] at comma
  newline mem := by simp [chars _ mem] at newline

theorem records_lines {table : List (List (List Char))} (plain : ∀ r ∈ table, ∀ f ∈ r, Plain f)
    (some : ∀ r ∈ table, r ≠ []) : records (table.flatMap line) = table := by
  have lines : table.flatMap line =
      (table.map [','].intercalate).flatMap (· ++ ['\n']) := by
    rw [List.flatMap_map]
    rfl
  have ends : ∀ l ∈ table.map [','].intercalate, '\n' ∉ l := by
    intro l mem
    obtain ⟨r, inside, rfl⟩ := List.mem_map.mp mem
    exact @CopyText.notMem_row { delimiter := ',', null := [] } r '\n' (by decide)
      fun f field => (plain r inside f field).newline
  rw [records, lines, CopyText.splitOn_lines ends]
  simp only [List.getLast?_append, List.getLast?_singleton, Option.some_or, if_true,
    List.dropLast_concat, List.map_map]
  conv_rhs => rw [← List.map_id table]
  refine List.map_congr_left fun r mem => ?_
  exact List.splitOn_intercalate _ (fun f field => (plain r mem f field).comma) (some r mem)

end Csv
