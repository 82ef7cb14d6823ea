import EditorAnalysis.Report
import EditorAnalysis.Proofs.Text.Trim

/-!
# The columns of a report

In the section of categories each row of a text stands on a line of its own, and the letters of its
classes stand on the next one. In front of the row stand its number and its rank, which take as
many columns as their digits need; in front of the letters stands as much as numbers of a certain
width need. So character and letter have the same distance in the whole row, and stand in the same
column only where the numbers have that width.
-/

namespace EditorAnalysis

open Text

/-! ## Letters -/

namespace CharClass

/-- The only white space among the letters is that of a class without category and error. -/
theorem isWhiteSpace_letter (c : CharClass) :
    isWhiteSpace c.letter = decide (c.letter = ' ') := by
  rw [letter]
  split
  · decide
  · cases c.category <;> decide

theorem letter_ne_lineFeed (c : CharClass) : c.letter ≠ '\n' := by
  rw [letter]
  split
  · decide
  · cases c.category <;> decide

end CharClass

namespace Text

/-- Trimming at the end takes no character away that is not in the class. -/
theorem getElem?_trimEnd {p : Char → Bool} {text : List Char} {i : Nat} {c : Char}
    (here : text[i]? = some c) (outside : p c = false) : (trimEnd p text)[i]? = some c := by
  have whole : trimEnd p text ++ text.rtakeWhile p = text := List.rdropWhile_append_rtakeWhile
  by_cases kept : i < (trimEnd p text).length
  · rwa [← List.getElem?_append_left kept, whole]
  · rw [← whole, List.getElem?_append_right (Nat.le_of_not_lt kept)] at here
    have inClass := List.mem_rtakeWhile_imp (List.mem_of_getElem? here)
    rw [outside] at inClass
    cases inClass

end Text

namespace Report

variable {report : Report}

/-! ## The lines of the section -/

/-- The text of a row, empty for a row that has none. -/
def rowText (report : Report) (row : Nat) : String :=
  report.lines[row]?.getD ""

/-- The rank of a row, zero for a row that has none. -/
def rowRank (report : Report) (row : Nat) : LineRank :=
  report.ranks[row]?.getD ⟨0, 0⟩

/-- The number of lines in front of those of the first row. -/
def linesInFront (report : Report) : Nat :=
  report.diagnostics.length + report.hints.length + 7

theorem length_rowLines (report : Report) (row : Nat) (rows : List (List CharClass)) :
    (report.rowLines row rows).length = 2 * rows.length := by
  induction rows generalizing row with
  | nil => rfl
  | cons classes rest ih =>
      simp only [rowLines, List.length_cons, ih]
      omega

/-- The lines of some rows follow those of the rows in front of them. -/
theorem rowLines_append (report : Report) (row : Nat) (front back : List (List CharClass)) :
    report.rowLines row (front ++ back) =
      report.rowLines row front ++ report.rowLines (row + front.length) back := by
  induction front generalizing row with
  | nil => rfl
  | cons classes rest ih =>
      simp only [rowLines, List.cons_append, ih, List.length_cons]
      rw [Nat.add_assoc, Nat.add_comm 1]

/-- The two lines of a row stand behind those of the rows above it. -/
theorem exists_textLines_eq {row : Nat} {classes : List CharClass}
    (isRow : report.classes[row]? = some classes) :
    ∃ above after, above.length = report.linesInFront + 2 * row ∧
      report.textLines = above ++
        String.ofList (sourceLine row (report.rowRank row) (report.rowText row).toList) ::
          String.ofList (classLine classes) :: after := by
  have inTable : row < report.classes.length := (List.getElem?_eq_some_iff.1 isRow).1
  have rows : report.classes =
      report.classes.take row ++ classes :: report.classes.drop (row + 1) := by
    rw [← (List.getElem?_eq_some_iff.1 isRow).2, ← List.drop_eq_getElem_cons inTable,
      List.take_append_drop]
  have above : (report.classes.take row).length = row := by
    rw [List.length_take, Nat.min_eq_left (Nat.le_of_lt inTable)]
  have lines : ∃ front, front.length = report.linesInFront ∧
      report.textLines = front ++ report.rowLines 0 report.classes := by
    refine ⟨_, ?_, rfl⟩
    simp only [List.length_append, List.length_cons, List.length_map, List.length_nil,
      linesInFront]
    omega
  rcases lines with ⟨front, length, lines⟩
  rw [rows, rowLines_append, above, Nat.zero_add, ← List.append_assoc] at lines
  refine ⟨front ++ report.rowLines 0 (report.classes.take row),
    report.rowLines (row + 1) (report.classes.drop (row + 1)), ?_, lines⟩
  rw [List.length_append, length_rowLines, above, length]

theorem toList_renderText (report : Report) :
    report.renderText.toList = report.textLines.flatMap fun line => line.toList ++ ['\n'] := by
  rw [renderText, String.toList_join, List.flatMap_map]
  refine List.flatMap_congr fun line _ => ?_
  rw [String.toList_append]
  rfl

/-! ## Columns -/

/-- The column in which the text of a row begins. -/
def sourceColumn (row : Nat) (rank : LineRank) : Nat :=
  max 4 (digits (row + 1)).length + (digits rank.enter).length + (digits rank.leave).length + 5

/-- The column in which the letters of a row begin. -/
def letterColumn : Nat := 13

/-- The numbers in front of a row have to take eight columns for character and letter to meet. -/
theorem sourceColumn_eq_letterColumn_iff {row : Nat} {rank : LineRank} :
    sourceColumn row rank = letterColumn ↔
      max 4 (digits (row + 1)).length + (digits rank.enter).length +
        (digits rank.leave).length = 8 := by
  simp only [sourceColumn, letterColumn]
  omega

theorem sourceColumn_of_small {row : Nat} {rank : LineRank} (fewRows : row + 1 < 10000)
    (enter : rank.enter < 10) (leave : rank.leave < 10) : sourceColumn row rank = 11 := by
  have number : (digits (row + 1)).length ≤ 4 :=
    (Nat.length_toDigits_le_iff (by decide) (by decide)).2 fewRows
  have one {n : Nat} (small : n < 10) : (digits n).length = 1 := by
    rw [digits, Nat.toDigits_of_lt_base small, List.length_singleton]
  rw [sourceColumn, Nat.max_eq_left number, one enter, one leave]

theorem lineFeed_not_mem_digits (n : Nat) : '\n' ∉ digits n := by
  intro inDigits
  have isDigit := Nat.isDigit_of_mem_toDigits (by decide) (by decide) inDigits
  cases isDigit

theorem exists_sourceLine_eq (row : Nat) (rank : LineRank) (text : List Char) :
    ∃ front, sourceLine row rank text = front ++ text ∧ front.length = sourceColumn row rank ∧
      '\n' ∉ front := by
  refine ⟨_, rfl, ?_, ?_⟩
  · simp [padLeft, sourceColumn]
    omega
  · simp [padLeft, lineFeed_not_mem_digits]

theorem exists_classLine_eq (classes : List CharClass) :
    ∃ front, classLine classes = front ++ trimEnd isWhiteSpace (classes.map CharClass.letter) ∧
      front.length = letterColumn ∧ '\n' ∉ front :=
  ⟨_, rfl, by decide, by decide⟩

/-- The rows of a text that has no line feed inside a row are shown in two lines each: character
`i` of the row stands in column `sourceColumn + i` of the first line, and its letter, if it has one
that shows, in column `letterColumn + i` of the second. These are the same column only if the
numbers in front of the row take eight columns together; where the row has at most four digits and
the depths have one, all letters stand two columns to the right of their characters. -/
theorem renderText_shows_row (report : Report) {row : Nat} {classes : List CharClass}
    (isRow : report.classes[row]? = some classes)
    (oneLine : '\n' ∉ (report.rowText row).toList) :
    ∃ source letters after,
      report.renderText.toList =
        ((report.textLines.take (report.linesInFront + 2 * row)).flatMap fun line =>
          line.toList ++ ['\n']) ++ (source ++ '\n' :: (letters ++ '\n' :: after)) ∧
      '\n' ∉ source ∧ '\n' ∉ letters ∧
      (∀ i c, (report.rowText row).toList[i]? = some c →
        source[sourceColumn row (report.rowRank row) + i]? = some c) ∧
      (∀ i (c : CharClass), classes[i]? = some c → c.letter ≠ ' ' →
        letters[letterColumn + i]? = some c.letter) ∧
      (sourceColumn row (report.rowRank row) = letterColumn ↔
        max 4 (digits (row + 1)).length + (digits (report.rowRank row).enter).length +
          (digits (report.rowRank row).leave).length = 8) ∧
      (row + 1 < 10000 → (report.rowRank row).enter < 10 → (report.rowRank row).leave < 10 →
        letterColumn = sourceColumn row (report.rowRank row) + 2) := by
  rcases exists_textLines_eq isRow with ⟨above, after, length, lines⟩
  rcases exists_sourceLine_eq row (report.rowRank row) (report.rowText row).toList with
    ⟨front, source, frontLength, frontBreaks⟩
  rcases exists_classLine_eq classes with ⟨padding, letters, paddingLength, paddingBreaks⟩
  rw [source, letters] at lines
  refine ⟨front ++ (report.rowText row).toList,
    padding ++ trimEnd isWhiteSpace (classes.map CharClass.letter),
    after.flatMap fun line => line.toList ++ ['\n'], ?_, ?_, ?_, fun i c here => ?_,
    fun i c here shows => ?_, sourceColumn_eq_letterColumn_iff, fun fewRows enter leave => ?_⟩
  · rw [toList_renderText, lines, List.take_left' length]
    simp only [List.flatMap_append, List.flatMap_cons, String.toList_ofList, List.append_assoc,
      List.singleton_append]
  · exact fun inSource => (List.mem_append.1 inSource).elim frontBreaks oneLine
  · intro inLetters
    rcases List.mem_append.1 inLetters with inPadding | inTrimmed
    · exact paddingBreaks inPadding
    · have inAll := (List.rdropWhile_prefix isWhiteSpace _).subset inTrimmed
      rcases List.mem_map.1 inAll with ⟨c, -, isBreak⟩
      exact c.letter_ne_lineFeed isBreak
  · rwa [← frontLength, List.getElem?_append_right (Nat.le_add_right _ _), Nat.add_sub_cancel_left]
  · rw [← paddingLength, List.getElem?_append_right (Nat.le_add_right _ _),
      Nat.add_sub_cancel_left]
    refine getElem?_trimEnd ?_ ?_
    · rw [List.getElem?_map, here, Option.map_some]
    · rw [c.isWhiteSpace_letter, decide_eq_false shows]
  · rw [sourceColumn_of_small fewRows enter leave, letterColumn]

/-- A report of one row with one name in it. -/
def oneNameReport : Report where
  path := "a.py"
  diagnostics := []
  hints := []
  globals := ⟨[], [], []⟩
  ranks := [⟨0, 0⟩]
  classes := [[.ofCategory .identifier]]
  lines := ["x"]

/-- In the plainest of reports no column holds both the name and its letter. -/
theorem letter_beside_character :
    oneNameReport.textLines.drop oneNameReport.linesInFront =
        ["   1 0>0 | x", "           | i"] ∧
      ∀ column : Nat, ("   1 0>0 | x".toList)[column]? = some 'x' →
        ("           | i".toList)[column]? ≠ some 'i' := by
  refine ⟨by decide +kernel, fun column here => ?_⟩
  have inside : column < 12 := (List.getElem?_eq_some_iff.1 here).1
  have apart : ∀ place < 12, ("   1 0>0 | x".toList)[place]? = some 'x' →
      ("           | i".toList)[place]? ≠ some 'i' := by decide
  exact apart column inside here

/-- The name stands in column 11 and its letter in column 13. -/
theorem renderText_shows_row_oneName :
    oneNameReport.classes[0]? = some [.ofCategory .identifier] ∧
      '\n' ∉ (oneNameReport.rowText 0).toList ∧
      ∃ source letters after,
        oneNameReport.renderText.toList =
          ((oneNameReport.textLines.take 7).flatMap fun line => line.toList ++ ['\n']) ++
            (source ++ '\n' :: (letters ++ '\n' :: after)) ∧
        '\n' ∉ source ∧ '\n' ∉ letters ∧ source[11]? = some 'x' ∧ letters[13]? = some 'i' := by
  have isRow : oneNameReport.classes[0]? = some [.ofCategory .identifier] := rfl
  have oneLine : '\n' ∉ (oneNameReport.rowText 0).toList := by decide
  rcases renderText_shows_row oneNameReport isRow oneLine with
    ⟨source, letters, after, whole, sourceBreaks, letterBreaks, texts, classes, -⟩
  exact ⟨isRow, oneLine, source, letters, after, whole, sourceBreaks, letterBreaks,
    texts 0 'x' (by decide), classes 0 (.ofCategory .identifier) (by decide) (by decide)⟩

end Report
end EditorAnalysis
