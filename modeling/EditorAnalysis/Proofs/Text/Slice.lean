import EditorAnalysis.Proofs.Text.Lines
import EditorAnalysis.Text.Position

/-!
# Between two places of a text

What stands between two places of a text that is given by its physical lines: the characters from
the first place on and up to the second one, with one line feed for each row boundary between
them.
-/

namespace EditorAnalysis
namespace Text

/-- The characters of a row; a row that is not there has none. -/
def rowText (lines : List PhysicalLine) (row : Nat) : List Char :=
  (lines[row]?.map PhysicalLine.content).getD []

/-- What a row holds between two places: the first row from the start on, the last one up to the
end. -/
def rowPart (lines : List PhysicalLine) (start stop : Position) (row : Nat) : List Char :=
  let front := if row = stop.line then (rowText lines row).take stop.column else rowText lines row
  if row = start.line then front.drop start.column else front

/-- The characters between two places, with a line feed for each row boundary between them. -/
def textBetween (lines : List PhysicalLine) (start stop : Position) : List Char :=
  joinLines ((List.range' start.line (stop.line + 1 - start.line)).map (rowPart lines start stop))

variable {lines : List PhysicalLine}

theorem rowText_of_getElem? {row : Nat} {line : PhysicalLine} (h : lines[row]? = some line) :
    rowText lines row = line.content := by
  simp [rowText, h]

theorem rowText_of_length_le {row : Nat} (h : lines.length ≤ row) : rowText lines row = [] := by
  simp [rowText, h]

theorem textBetween_row (row from_ upTo : Nat) :
    textBetween lines ⟨row, from_⟩ ⟨row, upTo⟩ = ((rowText lines row).take upTo).drop from_ := by
  simp [textBetween, rowPart, joinLines]

/-- Between a place and one of the row behind. -/
theorem textBetween_nextRow {start : Position} {row : Nat} (h : start.line ≤ row)
    (column : Nat) :
    textBetween lines start ⟨row + 1, column⟩ =
      textBetween lines start ⟨row, (rowText lines row).length⟩ ++
        '\n' :: (rowText lines (row + 1)).take column := by
  have count : row + 1 + 1 - start.line = (row + 1 - start.line) + 1 := by omega
  have last : start.line + 1 * (row + 1 - start.line) = row + 1 := by omega
  have nonempty : List.range' start.line (row + 1 - start.line) ≠ [] := by
    simp
    omega
  -- In the rows up to this one, both ends take the same part.
  have parts : ∀ r ∈ List.range' start.line (row + 1 - start.line),
      rowPart lines start ⟨row + 1, column⟩ r =
        rowPart lines start ⟨row, (rowText lines row).length⟩ r := by
    intro r hr
    have bound := List.mem_range'_1.1 hr
    have other : r ≠ row + 1 := by omega
    by_cases isRow : r = row <;> simp [rowPart, other, isRow]
  -- Of the row behind, only the front up to the column is taken.
  have final : rowPart lines start ⟨row + 1, column⟩ (row + 1) =
      (rowText lines (row + 1)).take column := by
    have other : row + 1 ≠ start.line := by omega
    simp [rowPart, other]
  simp only [textBetween]
  rw [count, List.range'_concat, List.map_append, List.map_singleton, last, final,
    joinLines_append_singleton (by simpa using nonempty), List.map_congr_left parts]

/-- Between a place of an earlier row and one of this row. -/
theorem textBetween_laterRow {start : Position} {row : Nat} (h : start.line < row)
    (column : Nat) :
    textBetween lines start ⟨row, column⟩ =
      textBetween lines start ⟨row, 0⟩ ++ (rowText lines row).take column := by
  cases row with
  | zero => cases h
  | succ row =>
      rw [textBetween_nextRow (Nat.le_of_lt_succ h), textBetween_nextRow (Nat.le_of_lt_succ h)]
      simp

/-- Up to the front of the next row, when the place is in an earlier row. -/
theorem textBetween_pastRow {start : Position} {row : Nat} (h : start.line < row) :
    textBetween lines start ⟨row + 1, 0⟩ =
      textBetween lines start ⟨row, 0⟩ ++ rowText lines row ++ ['\n'] := by
  rw [textBetween_nextRow (Nat.le_of_lt h), textBetween_laterRow h]
  simp

/-- Up to the front of the next row, when the place is in this row. -/
theorem textBetween_restOfRow (row column : Nat) :
    textBetween lines ⟨row, column⟩ ⟨row + 1, 0⟩ =
      (rowText lines row).drop column ++ ['\n'] := by
  rw [textBetween_nextRow (Nat.le_refl row), textBetween_row]
  simp

end Text
end EditorAnalysis
