import EditorAnalysis.Proofs.Text.Bytes
import EditorAnalysis.Syntax.Span

/-!
# Where the diagnostic of a node lies

Wherever a tree places a node, even outside the text, between the bytes of a character or with its
end before its start, the diagnostic about it lies on characters of the text, or behind the last
character of a row, or in the row behind the last one.
-/

namespace EditorAnalysis

open Text

/-- Whether a diagnostic lies on characters of a text with these lines. It may lie behind the last
line, and nothing but the place behind the last character of a line is without a character. -/
structure Diagnostic.LandsIn (lines : List PhysicalLine) (d : Diagnostic) : Prop where
  line_le : d.line ≤ lines.length
  fits : ∀ line, lines[d.line]? = some line → d.start + d.length ≤ line.content.length
  visible : ∀ line, lines[d.line]? = some line → 1 ≤ d.length ∨ d.start = line.content.length

/-! ## Byte offsets -/

namespace Text

/-- Every line feed ends a line. -/
theorem count_le_length_linesAfter (seen rest : List Char) :
    rest.count '\n' ≤ (linesAfter seen rest).length := by
  induction rest generalizing seen with
  | nil => exact Nat.zero_le _
  | cons c rest ih =>
      by_cases hc : c = '\n'
      · simpa [linesAfter, hc] using ih []
      · simpa [linesAfter, hc] using ih (c :: seen)

theorem row_advance_le (base : BytePosition) (offset : Nat) (text : List Char) :
    (advance base offset text).row ≤ base.row + text.count '\n' := by
  induction text generalizing base offset with
  | nil => exact Nat.le_add_right _ _
  | cons c rest ih =>
      unfold advance
      split
      · exact Nat.le_add_right _ _
      · split
        case isTrue isBreak =>
          have later := ih ⟨base.row + 1, 0⟩ (offset - c.utf8Size)
          simpa [isBreak, ← Nat.add_assoc, Nat.add_right_comm] using later
        case isFalse notBreak =>
          have same := ih ⟨base.row, base.byteColumn + c.utf8Size⟩ (offset - c.utf8Size)
          simpa [notBreak] using same

theorem le_row_advance (base : BytePosition) (offset : Nat) (text : List Char) :
    base.row ≤ (advance base offset text).row := by
  induction text generalizing base offset with
  | nil => exact Nat.le_refl _
  | cons c rest ih =>
      unfold advance
      split
      · exact Nat.le_refl _
      · split
        case isTrue => exact Nat.le_trans (Nat.le_succ _) (ih ⟨base.row + 1, 0⟩ _)
        case isFalse => exact ih ⟨base.row, base.byteColumn + c.utf8Size⟩ _

theorem row_advance_mono (base : BytePosition) {offset later : Nat} (inOrder : offset ≤ later)
    (text : List Char) : (advance base offset text).row ≤ (advance base later text).row := by
  induction text generalizing base offset later with
  | nil => exact Nat.le_refl _
  | cons c rest ih =>
      by_cases stops : offset < c.utf8Size
      · -- The first offset stays in front of the character.
        have start : (advance base offset (c :: rest)).row = base.row := by simp [advance, stops]
        rw [start]
        exact le_row_advance base later (c :: rest)
      · have goesOn : ¬later < c.utf8Size := fun small => stops (Nat.lt_of_le_of_lt inOrder small)
        have less : offset - c.utf8Size ≤ later - c.utf8Size := Nat.sub_le_sub_right inOrder _
        rw [advance, if_neg stops, advance, if_neg goesOn]
        split
        case isTrue => exact ih ⟨base.row + 1, 0⟩ less
        case isFalse => exact ih ⟨base.row, base.byteColumn + c.utf8Size⟩ less

/-- A later offset is in no earlier row. -/
theorem row_bytePosition_mono (text : List Char) {offset later : Nat} (inOrder : offset ≤ later) :
    (bytePosition text offset).row ≤ (bytePosition text later).row :=
  row_advance_mono ⟨0, 0⟩ inOrder text

/-- No offset lies below the row behind the last line. -/
theorem row_bytePosition_le (text : List Char) (offset : Nat) :
    (bytePosition text offset).row ≤ (physicalLines text).length := by
  calc
    (bytePosition text offset).row
        ≤ 0 + text.count '\n' := row_advance_le ⟨0, 0⟩ offset text
    _ = text.count '\n' := Nat.zero_add _
    _ ≤ (physicalLines text).length := count_le_length_linesAfter [] text

theorem length_of_splitAtByte? {n : Nat} {text front rest : List Char}
    (h : splitAtByte? n text = some (front, rest)) : front.length ≤ text.length := by
  rw [(splitAtByte?_eq_some_iff.1 h).1, List.length_append]
  exact Nat.le_add_right _ _

theorem charColumn_le_length (line : List Char) (byteColumn : Nat) :
    charColumn line byteColumn ≤ line.length := by
  unfold charColumn
  split
  case h_1 front rest split => exact length_of_splitAtByte? split
  case h_2 => exact Nat.le_refl _

end Text

/-! ## Nodes -/

namespace Syntax

theorem lineContent_of_getElem? {lines : List PhysicalLine} {row : Nat} {line : PhysicalLine}
    (found : lines[row]? = some line) : lineContent lines row = line.content := by
  simp [lineContent, found]

theorem nodeDiagnostic_landsIn (source : List Char) (n : Node) (message : String) :
    (nodeDiagnostic source (physicalLines source) n message).LandsIn (physicalLines source) := by
  let lines := physicalLines source
  let start := bytePosition source n.info.start
  let stop := bytePosition source n.info.stop
  let content := lineContent lines start.row
  let first := charColumn content start.byteColumn
  let last := if stop.row = start.row then charColumn content stop.byteColumn else content.length
  have first_le : first ≤ content.length := charColumn_le_length _ _
  have last_le : last ≤ content.length := by
    by_cases sameRow : stop.row = start.row
    · simpa [last, sameRow] using charColumn_le_length content stop.byteColumn
    · simp [last, sameRow]
  have ofLine (line : PhysicalLine) (h : lines[start.row]? = some line) :
      content = line.content := lineContent_of_getElem? h
  refine ⟨row_bytePosition_le source n.info.start, ?_, ?_⟩
  · intro line h
    change first + (if last - first = 0 ∧ first < content.length then 1 else last - first) ≤ _
    rw [← ofLine line h]
    split <;> omega
  · intro line h
    change 1 ≤ (if last - first = 0 ∧ first < content.length then 1 else last - first) ∨ first = _
    rw [← ofLine line h]
    split <;> omega

end Syntax
end EditorAnalysis
