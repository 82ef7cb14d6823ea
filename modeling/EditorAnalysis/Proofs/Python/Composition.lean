import EditorAnalysis.Proofs.Classifier.Table
import EditorAnalysis.Proofs.Python.Displacement
import EditorAnalysis.Proofs.Python.Tiling
import EditorAnalysis.Proofs.Text.Lines

/-!
# Texts one after the other

Behind a text that was tokenized to its end, another text whose first statement stands at the
margin is tokenized and classified as it would be alone. What the first text leaves open are
blocks, and the first statement of the second text closes all of them. The tokens of blocks differ
then, but they colour nothing, count for no logical line and report no error.
-/

namespace EditorAnalysis

open Text

/-! ## Tokens of statements -/

namespace Token

/-- Whether a token stands for the border of a block or of the text. -/
def isBorder (t : Token) : Bool :=
  t.kind == .indent || t.kind == .dedent || t.kind == .endMarker

end Token

/-- The tokens but those for the borders of blocks and of the text. -/
def statementTokens (tokens : List Token) : List Token :=
  tokens.filter fun t => !t.isBorder

@[simp] theorem statementTokens_append (front back : List Token) :
    statementTokens (front ++ back) = statementTokens front ++ statementTokens back :=
  List.filter_append front back

theorem statementTokens_eq_nil {tokens : List Token} (h : ∀ t ∈ tokens, t.isBorder = true) :
    statementTokens tokens = [] := by
  apply List.filter_eq_nil_iff.2
  intro t ht
  simp [h t ht]

theorem statementTokens_map_down (k : Nat) (tokens : List Token) :
    statementTokens (tokens.map (Token.down k)) =
      (statementTokens tokens).map (Token.down k) :=
  List.filter_map

/-- All that marks the table is among the tokens of statements. -/
theorem filter_marks_statementTokens (tokens : List Token) :
    (statementTokens tokens).filter Token.marks = tokens.filter Token.marks := by
  rw [statementTokens, List.filter_filter]
  congr 1
  funext t
  cases kind : t.kind <;> simp [Token.marks, Token.isBorder, kind]

theorem colourIn?_statementTokens (keywords : KeywordSet) (tokens : List Token)
    (row column : Nat) :
    colourIn? keywords (statementTokens tokens) row column =
      colourIn? keywords tokens row column :=
  colourIn?_eq_of_filter_marks_eq (filter_marks_statementTokens tokens)

theorem rowError_statementTokens (tokens : List Token) (row length : Nat) :
    rowError (statementTokens tokens) row length = rowError tokens row length :=
  rowError_eq_of_filter_marks_eq (filter_marks_statementTokens tokens) row length

theorem countLogicalLines_statementTokens (tokens : List Token) :
    countLogicalLines (statementTokens tokens) = countLogicalLines tokens := by
  rw [statementTokens, countLogicalLines, countLogicalLines, List.countP_filter]
  congr 1
  funext t
  cases kind : t.kind <;> simp [Token.isBorder, kind]

namespace Python

/-! ## The tokens of texts one after the other -/

/-- Whether the first statement of a text, if there is one, begins at the margin. -/
def StartsAtMargin (lines : List PhysicalLine) : Prop :=
  ∀ line, lines.find? (fun line => !decide (IsBlankRow line)) = some line → rowColumn line = 0

instance (lines : List PhysicalLine) : Decidable (StartsAtMargin lines) :=
  decidable_of_iff
    ((lines.find? fun line => !decide (IsBlankRow line)).all fun line => rowColumn line == 0)
    (by simp [StartsAtMargin, Option.all_eq_true])

theorem statementTokens_indentTokens (row : Nat) (blanks : List Char) (change : IndentChange) :
    statementTokens (indentTokens row blanks change) = [] := by
  apply statementTokens_eq_nil
  intro t ht
  rcases eq_or_eq_of_mem_indentTokens ht with rfl | rfl
  · rfl
  · rfl

theorem statementTokens_closingTokens (rows : Nat) (blocks : OpenBlocks) :
    statementTokens (closingTokens rows blocks) = [] := by
  apply statementTokens_eq_nil
  intro t ht
  rcases eq_or_eq_of_mem_closingTokens ht with rfl | rfl
  · rfl
  · rfl

theorem statementTokens_tokenizeLines (lines : List PhysicalLine) :
    statementTokens (tokenizeLines lines).tokens =
      statementTokens (scanRows 0 .initial lines).1 := by
  by_cases complete : (tokenizeLines lines).isComplete = true
  · rcases isComplete_tokenizeLines_iff.1 complete with ⟨tokens, blocks, scanned⟩
    rw [tokenizeLines_of_complete scanned, scanned, statementTokens_append,
      statementTokens_closingTokens, List.append_nil]
  · rw [tokens_tokenizeLines_of_not_isComplete (by simpa using complete)]

/-- Open blocks do not show in the tokens of statements when the first one is at the margin: the
rows in front of it leave the blocks alone, and it closes all of them. -/
theorem statementTokens_scanRows_of_margin {blocks : OpenBlocks} (nested : blocks.Nested)
    {lines : List PhysicalLine} (margin : StartsAtMargin lines) (row : Nat) :
    statementTokens (scanRows row ⟨blocks, 0, .fresh⟩ lines).1 =
      statementTokens (scanRows row ⟨[], 0, .fresh⟩ lines).1 := by
  induction lines generalizing row with
  | nil => rfl
  | cons line rest ih =>
      by_cases blank : IsBlankRow line
      · -- A row without a statement leaves the blocks to the next one.
        have marginRest : StartsAtMargin rest := by
          intro other found
          apply margin other
          rw [List.find?_cons_of_neg (by simpa using blank)]
          exact found
        have inBlocks : Steps row line ⟨blocks, 0, .fresh⟩ _ _ := Steps.blankRow blank
        have alone : Steps row line ⟨[], 0, .fresh⟩ _ _ := Steps.blankRow blank
        rw [scanRows_cons_of_ok inBlocks.scanRow_eq, scanRows_cons_of_ok alone.scanRow_eq,
          statementTokens_append, statementTokens_append, ih marginRest]
      · -- The first statement closes all blocks, and from there on both scans are the same.
        have atMargin : rowColumn line = 0 := by
          apply margin line
          rw [List.find?_cons_of_pos (by simpa using blank)]
        rcases nested.moveTo?_margin with ⟨change, moved⟩
        rcases OpenBlocks.nested_nil.moveTo?_margin with ⟨change', moved'⟩
        rw [← atMargin] at moved moved'
        have scanned : Scans row line.terminated (line.content.takeWhile isBlank).length 0
          (line.content.dropWhile isBlank) _ := Scans.of_scanRest _ _ _
        have inBlocks := (Steps.statement blank moved scanned).scanRow_eq
        have alone := (Steps.statement blank moved' scanned).scanRow_eq
        rw [scanRows_cons_of_ok inBlocks, scanRows_cons_of_ok alone]
        simp only [statementTokens_append, statementTokens_indentTokens]

/-- The tokens of statements of two texts one after the other. -/
theorem statementTokens_tokenizeLines_append {front back : List PhysicalLine}
    (complete : (tokenizeLines front).isComplete = true) (margin : StartsAtMargin back) :
    statementTokens (tokenizeLines (front ++ back)).tokens =
      statementTokens (tokenizeLines front).tokens ++
        (statementTokens (tokenizeLines back).tokens).map (Token.down front.length) := by
  rcases isComplete_tokenizeLines_iff.1 complete with ⟨tokens, blocks, scanned⟩
  have nested := nested_of_scanRows scanned OpenBlocks.nested_nil
  -- Behind the first text only blocks are open, and those do not show at the margin.
  have behind : statementTokens (scanRows (0 + front.length) ⟨blocks, 0, .fresh⟩ back).1 =
      (statementTokens (scanRows 0 .initial back).1).map (Token.down front.length) :=
    calc
      statementTokens (scanRows (0 + front.length) ⟨blocks, 0, .fresh⟩ back).1
          = statementTokens
              (scanRows (0 + front.length) (Carry.initial.down front.length) back).1 :=
            statementTokens_scanRows_of_margin nested margin _
      _ = statementTokens ((scanRows 0 .initial back).1.map (Token.down front.length)) := by
            rw [tokens_scanRows_down]
      _ = (statementTokens (scanRows 0 .initial back).1).map (Token.down front.length) :=
            statementTokens_map_down _ _
  rw [statementTokens_tokenizeLines, statementTokens_tokenizeLines,
    statementTokens_tokenizeLines, scanRows_append_of_ok scanned, statementTokens_append, behind,
    scanned]

/-! ## The table of texts one after the other -/

/-- The tokens of statements begin and stop in the rows of their text. -/
theorem line_lt_of_mem_statementTokens {lines : List PhysicalLine} {t : Token}
    (ht : t ∈ statementTokens (tokenizeLines lines).tokens) :
    t.start.line < lines.length ∧ t.stop.line < lines.length := by
  rw [statementTokens_tokenizeLines] at ht
  exact line_lt_of_mem_scanRows (List.mem_filter.1 ht).1

theorem start_line_le_of_mem_map_down {k : Nat} {tokens : List Token} {t : Token}
    (ht : t ∈ tokens.map (Token.down k)) : k ≤ t.start.line := by
  rcases List.mem_map.1 ht with ⟨u, -, rfl⟩
  exact Nat.le_add_left k u.start.line

section

variable {front back : List PhysicalLine} {keywords : KeywordSet} {row : Nat}
  (complete : (tokenizeLines front).isComplete = true) (margin : StartsAtMargin back)

include complete margin

/-- The rows of the first text are painted as they would be alone. -/
theorem paintedRow_tokenizeLines_append_front (h : row < front.length) (length : Nat) :
    paintedRow keywords (tokenizeLines (front ++ back)).tokens row length =
      paintedRow keywords (tokenizeLines front).tokens row length := by
  apply paintedRow_congr
  intro column
  have below : ∀ t ∈ (statementTokens (tokenizeLines back).tokens).map (Token.down front.length),
      row < t.start.line := fun t ht =>
    Nat.lt_of_lt_of_le h (start_line_le_of_mem_map_down ht)
  calc
    colourIn? keywords (tokenizeLines (front ++ back)).tokens row column
        = colourIn? keywords (statementTokens (tokenizeLines (front ++ back)).tokens) row column :=
          (colourIn?_statementTokens _ _ _ _).symm
    _ = colourIn? keywords (statementTokens (tokenizeLines front).tokens) row column := by
          rw [statementTokens_tokenizeLines_append complete margin,
            colourIn?_append_of_below below]
    _ = colourIn? keywords (tokenizeLines front).tokens row column :=
          colourIn?_statementTokens _ _ _ _

/-- The rows of the second text are painted as they would be alone. -/
theorem paintedRow_tokenizeLines_append_back (row length : Nat) :
    paintedRow keywords (tokenizeLines (front ++ back)).tokens (row + front.length) length =
      paintedRow keywords (tokenizeLines back).tokens row length := by
  apply paintedRow_congr
  intro column
  have above : ∀ t ∈ statementTokens (tokenizeLines front).tokens,
      t.stop.line < row + front.length := fun t ht =>
    Nat.lt_of_lt_of_le (line_lt_of_mem_statementTokens ht).2 (Nat.le_add_left _ _)
  calc
    colourIn? keywords (tokenizeLines (front ++ back)).tokens (row + front.length) column
        = colourIn? keywords (statementTokens (tokenizeLines (front ++ back)).tokens)
            (row + front.length) column :=
          (colourIn?_statementTokens _ _ _ _).symm
    _ = colourIn? keywords (statementTokens (tokenizeLines back).tokens) row column := by
          rw [statementTokens_tokenizeLines_append complete margin,
            colourIn?_append_of_above above, colourIn?_map_down]
    _ = colourIn? keywords (tokenizeLines back).tokens row column :=
          colourIn?_statementTokens _ _ _ _

/-- The rows of the first text have the errors that they would have alone. -/
theorem rowError_tokenizeLines_append_front (h : row < front.length) (length : Nat) :
    rowError (tokenizeLines (front ++ back)).tokens row length =
      rowError (tokenizeLines front).tokens row length := by
  have below : ∀ t ∈ (statementTokens (tokenizeLines back).tokens).map (Token.down front.length),
      t.start.line ≠ row := fun t ht =>
    Nat.ne_of_gt (Nat.lt_of_lt_of_le h (start_line_le_of_mem_map_down ht))
  calc
    rowError (tokenizeLines (front ++ back)).tokens row length
        = rowError (statementTokens (tokenizeLines (front ++ back)).tokens) row length :=
          (rowError_statementTokens _ _ _).symm
    _ = rowError (statementTokens (tokenizeLines front).tokens) row length := by
          rw [statementTokens_tokenizeLines_append complete margin, rowError_append,
            rowError_eq_none below, Option.or_none]
    _ = rowError (tokenizeLines front).tokens row length :=
          rowError_statementTokens _ _ _

/-- The rows of the second text have the errors that they would have alone, further down. -/
theorem rowError_tokenizeLines_append_back (row length : Nat) :
    rowError (tokenizeLines (front ++ back)).tokens (row + front.length) length =
      (rowError (tokenizeLines back).tokens row length).map (Diagnostic.down front.length) := by
  have above : ∀ t ∈ statementTokens (tokenizeLines front).tokens,
      t.start.line ≠ row + front.length := fun t ht =>
    Nat.ne_of_lt (Nat.lt_of_lt_of_le (line_lt_of_mem_statementTokens ht).1 (Nat.le_add_left _ _))
  calc
    rowError (tokenizeLines (front ++ back)).tokens (row + front.length) length
        = rowError (statementTokens (tokenizeLines (front ++ back)).tokens)
            (row + front.length) length :=
          (rowError_statementTokens _ _ _).symm
    _ = (rowError (statementTokens (tokenizeLines back).tokens) row length).map
          (Diagnostic.down front.length) := by
          rw [statementTokens_tokenizeLines_append complete margin, rowError_append,
            rowError_eq_none above, Option.none_or, rowError_map_down]
    _ = (rowError (tokenizeLines back).tokens row length).map (Diagnostic.down front.length) := by
          rw [rowError_statementTokens]

/-- The logical lines of two texts one after the other are counted together. -/
theorem countLogicalLines_tokenizeLines_append :
    countLogicalLines (tokenizeLines (front ++ back)).tokens =
      countLogicalLines (tokenizeLines front).tokens +
        countLogicalLines (tokenizeLines back).tokens := by
  have moved : ∀ k tokens, countLogicalLines (tokens.map (Token.down k)) = countLogicalLines tokens
    := fun k tokens => List.countP_map
  rw [← countLogicalLines_statementTokens, statementTokens_tokenizeLines_append complete margin,
    countLogicalLines, List.countP_append, ← countLogicalLines, ← countLogicalLines, moved,
    countLogicalLines_statementTokens, countLogicalLines_statementTokens]

end

/-- Loading makes the table of the lines under the tokens of the lines. -/
theorem lineClasses_load (text : String) :
    ((Classifier.new tokenizer).load text).lineClasses =
      (rowTexts (physicalLines text.toList)).mapIdx fun row line =>
        paintedRow keywords (tokenizeLines (physicalLines text.toList)).tokens row line.length :=
  Classifier.lineClasses_classify _ _ _

theorem errors_load (text : String) :
    ((Classifier.new tokenizer).load text).errors =
      ((rowTexts (physicalLines text.toList)).mapIdx fun row line =>
        rowError (tokenizeLines (physicalLines text.toList)).tokens row line.length).filterMap
        id :=
  Classifier.errors_classify _ _ _

theorem lineCount_load (text : String) :
    ((Classifier.new tokenizer).load text).lineCount = (physicalLines text.toList).length := by
  rw [Classifier.lineCount, Classifier.load, Classifier.classify, length_classifiedRows,
    List.length_map]

section

variable {p s : String} (whole : WholeLines p.toList)

include whole

theorem physicalLines_toList_append :
    physicalLines (p ++ s).toList = physicalLines p.toList ++ physicalLines s.toList := by
  rw [String.toList_append, physicalLines_append whole]

theorem rowTexts_toList_append :
    rowTexts (physicalLines (p ++ s).toList) =
      rowTexts (physicalLines p.toList) ++ rowTexts (physicalLines s.toList) := by
  rw [physicalLines_toList_append whole]
  exact List.map_append

variable (complete : (tokenizeLines (physicalLines p.toList)).isComplete = true)
  (margin : StartsAtMargin (physicalLines s.toList))

include complete margin

/-- The classes of two texts one after the other. -/
theorem lineClasses_load_append :
    ((Classifier.new tokenizer).load (p ++ s)).lineClasses =
      ((Classifier.new tokenizer).load p).lineClasses ++
        ((Classifier.new tokenizer).load s).lineClasses := by
  rw [lineClasses_load, lineClasses_load, lineClasses_load, rowTexts_toList_append whole,
    physicalLines_toList_append whole, List.mapIdx_append]
  congr 1
  · apply List.mapIdx_eq_mapIdx_iff.2
    intro row inFront
    rw [length_rowTexts] at inFront
    exact paintedRow_tokenizeLines_append_front complete margin inFront _
  · apply List.mapIdx_eq_mapIdx_iff.2
    intro row _
    rw [length_rowTexts]
    exact paintedRow_tokenizeLines_append_back complete margin row _

/-- The errors of two texts one after the other. -/
theorem errors_load_append :
    ((Classifier.new tokenizer).load (p ++ s)).errors =
      ((Classifier.new tokenizer).load p).errors ++
        ((Classifier.new tokenizer).load s).errors.map
          (Diagnostic.down ((Classifier.new tokenizer).load p).lineCount) := by
  rw [errors_load, errors_load, errors_load, lineCount_load, rowTexts_toList_append whole,
    physicalLines_toList_append whole, List.mapIdx_append, List.filterMap_append]
  congr 1
  · apply congrArg (List.filterMap id)
    apply List.mapIdx_eq_mapIdx_iff.2
    intro row inFront
    rw [length_rowTexts] at inFront
    exact rowError_tokenizeLines_append_front complete margin inFront _
  · rw [List.map_filterMap]
    -- Moving the errors that are there is moving what each row has, an error or none.
    refine Eq.trans (congrArg (List.filterMap id) ?_)
      (List.filterMap_map (f := Option.map (Diagnostic.down _)) (g := id))
    apply List.ext_getElem?
    intro row
    rw [List.getElem?_map, List.getElem?_mapIdx, List.getElem?_mapIdx, Option.map_map,
      length_rowTexts]
    apply Option.map_congr
    intro line _
    exact rowError_tokenizeLines_append_back complete margin row _

/-- The logical lines of two texts one after the other. -/
theorem logicalLines_load_append :
    ((Classifier.new tokenizer).load (p ++ s)).logicalLines =
      ((Classifier.new tokenizer).load p).logicalLines +
        ((Classifier.new tokenizer).load s).logicalLines := by
  have stream := congrArg (fun lines => countLogicalLines (tokenizeLines lines).tokens)
    (physicalLines_toList_append (s := s) whole)
  exact stream.trans (countLogicalLines_tokenizeLines_append complete margin)

end

/-- Behind a text of whole lines that was tokenized to its end, a text whose first statement
stands at the margin is classified as it would be alone. -/
theorem load_append (p s : String) (whole : WholeLines p.toList)
    (complete : (tokenizer.tokenize p).isComplete = true)
    (margin : StartsAtMargin (physicalLines s.toList)) :
    let loaded := (Classifier.new tokenizer).load
    (loaded (p ++ s)).lineClasses = (loaded p).lineClasses ++ (loaded s).lineClasses ∧
      (loaded (p ++ s)).errors =
        (loaded p).errors ++ (loaded s).errors.map (Diagnostic.down (loaded p).lineCount) ∧
      (loaded (p ++ s)).logicalLines = (loaded p).logicalLines + (loaded s).logicalLines := by
  intro loaded
  -- Rows are compared by their numbers: those of the second text are moved by the first.
  refine ⟨?_, ?_, ?_⟩
  · exact lineClasses_load_append whole complete margin
  · exact errors_load_append whole complete margin
  · exact logicalLines_load_append whole complete margin

/-- A block that the first text leaves open is closed by the second one, behind a comment that is
no statement. -/
theorem load_append_openBlock :
    let loaded := (Classifier.new tokenizer).load
    let p := "if x:\n  'a\\\nb'\n"
    let s := "  # c\n$ d"
    (WholeLines p.toList ∧ (tokenizer.tokenize p).isComplete = true ∧
        StartsAtMargin (physicalLines s.toList)) ∧
      (loaded (p ++ s)).lineClasses = (loaded p).lineClasses ++ (loaded s).lineClasses ∧
      (loaded (p ++ s)).errors =
        (loaded p).errors ++ (loaded s).errors.map (Diagnostic.down (loaded p).lineCount) ∧
      (loaded (p ++ s)).logicalLines = (loaded p).logicalLines + (loaded s).logicalLines := by
  intro loaded p s
  have whole : WholeLines p.toList := by decide +kernel
  have complete : (tokenizer.tokenize p).isComplete = true := by decide +kernel
  have margin : StartsAtMargin (physicalLines s.toList) := by decide +kernel
  exact ⟨⟨whole, complete, margin⟩, load_append p s whole complete margin⟩

end Python
end EditorAnalysis
