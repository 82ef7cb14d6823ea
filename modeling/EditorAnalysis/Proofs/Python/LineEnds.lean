import EditorAnalysis.Proofs.Python.Brackets
import EditorAnalysis.Proofs.Python.OpenColumns

/-!
# The ends of rows

A row leaves the tokenizer in one of three ways: with a token for its end, inside a string or with
a continuation backslash, or as the rest of a string that had to close in it. Only in the first way
does its line feed show as a token.
-/

namespace EditorAnalysis
namespace Python

open Text

variable {row : Nat} {line : PhysicalLine} {carry next : Carry} {tokens : List Token}

/-! ## Continuations -/

theorem getLast?_of_append (front : List Char) {back : List Char} {c : Char}
    (h : back.getLast? = some c) : (front ++ back).getLast? = some c := by
  rw [List.getLast?_append, h]
  rfl

/-- What is scanned ends in a backslash when it is continued. -/
theorem Scans.getLast?_of_continued {terminated : Bool} {column depth : Nat} {rest : List Char}
    {scan : RowScan} (h : Scans row terminated column depth rest scan)
    (continued : scan.ending = .continued) : rest.getLast? = some '\\' := by
  induction h with
  | done | comment | openString | brokenString => cases continued
  | @blank _ _ c cs _ _ _ ih => exact getLast?_of_append [c] (ih continued)
  | continuation => rfl
  | @lexeme _ _ c cs _ n _ _ _ _ ih =>
      rw [← List.take_append_drop n (c :: cs)]
      exact getLast?_of_append _ (ih continued)

theorem mode_finishRow_eq_continued_iff {blocks : OpenBlocks} {scan : RowScan} :
    (finishRow row line blocks scan).2.mode = .continued ↔ scan.ending = .continued := by
  rcases scan with ⟨tokens, depth, ending⟩
  cases ending <;> simp [finishRow]

/-- A row that is continued ends in a backslash. -/
theorem Steps.getLast?_of_continued (h : Steps row line carry tokens next)
    (continued : next.mode = .continued) : line.content.getLast? = some '\\' := by
  cases h with
  | blankRow | stringGoesOn | stringBreaks => cases continued
  | statement _ _ scanned =>
      rw [← List.takeWhile_append_dropWhile (p := isBlank) (l := line.content)]
      exact getLast?_of_append _
        (scanned.getLast?_of_continued (mode_finishRow_eq_continued_iff.1 continued))
  | goesOn _ scanned =>
      exact scanned.getLast?_of_continued (mode_finishRow_eq_continued_iff.1 continued)
  | @stringCloses _ _ n _ _ _ scanned =>
      rw [← List.take_append_drop n line.content]
      exact getLast?_of_append _
        (scanned.getLast?_of_continued (mode_finishRow_eq_continued_iff.1 continued))

/-! ## The ends of one row -/

/-- The kind of the token that ends a row. -/
def lineEndKind (line : PhysicalLine) (carry next : Carry) : TokenKind :=
  if 0 < next.depth ∨ (IsBlankRow line ∧ carry.mode = .fresh ∧ carry.depth = 0) then
    .nonLogicalNewline
  else .newline

theorem lineEndKind_of_text (text : ¬ (IsBlankRow line ∧ carry.mode = .fresh ∧ carry.depth = 0)) :
    lineEndKind line carry next = if 0 < next.depth then .nonLogicalNewline else .newline := by
  simp only [lineEndKind, text, or_false]

theorem filter_isLineEnd_lineEnd (row length : Nat) (terminated : Bool) (depth : Nat) :
    (lineEnd row length terminated depth).filter Token.isLineEnd =
      lineEnd row length terminated depth := by
  apply List.filter_eq_self.2
  intro t ht
  rcases eq_of_mem_lineEnd ht with ⟨kind, rfl | rfl, rfl⟩
  · rfl
  · rfl

theorem not_isLineEnd_of_marks {t : Token} (h : t.marks = true) : t.isLineEnd = false := by
  rcases t with ⟨kind, text, start, stop⟩
  cases kind with
  | newline | nonLogicalNewline => cases h
  | _ => rfl

/-- A row whose rest is scanned either has its end for its only line end, or goes on in the next
row and has none. -/
theorem Scans.filter_isLineEnd {column depth : Nat} {rest : List Char} {scan : RowScan}
    (h : Scans row line.terminated column depth rest scan) (carry : Carry)
    (blocks : OpenBlocks) (terminated : line.terminated = true)
    (text : ¬ (IsBlankRow line ∧ carry.mode = .fresh ∧ carry.depth = 0)) :
    ((finishRow row line blocks scan).2.mode ≠ .fresh ∧
        (finishRow row line blocks scan).1.filter Token.isLineEnd = []) ∨
      ((finishRow row line blocks scan).2.mode = .fresh ∧
        (finishRow row line blocks scan).1.filter Token.isLineEnd =
          [lineEndToken (lineEndKind line carry (finishRow row line blocks scan).2) row
            line.content.length true]) := by
  have inside : scan.tokens.filter Token.isLineEnd = [] := by
    apply List.filter_eq_nil_iff.2
    intro t ht
    rw [not_isLineEnd_of_marks (h.marks t ht)]
    exact Bool.false_ne_true
  rcases scan with ⟨tokens, depth, ending⟩
  cases ending with
  | complete =>
      refine .inr ⟨rfl, ?_⟩
      rw [finishRow, List.filter_append, inside, List.nil_append, filter_isLineEnd_lineEnd,
        lineEndKind_of_text text, terminated]
      rfl
  | continued => exact .inl ⟨fun isFresh => (by cases isFresh), inside⟩
  | inString s => exact .inl ⟨fun isFresh => (by cases isFresh), inside⟩

/-- A row that a line feed ends leaves the tokenizer in one of three ways. -/
theorem Steps.lineEnds (h : Steps row line carry tokens next)
    (terminated : line.terminated = true) :
    (next.mode ≠ .fresh ∧ tokens.filter Token.isLineEnd = []) ∨
      (∃ s text, carry.mode = .inString s ∧
        tokens = [⟨.error, text, s.start, ⟨row, line.content.length⟩⟩]) ∨
      (next.mode = .fresh ∧ (∀ t ∈ tokens, t.kind = .error → t.start.line = row) ∧
        tokens.filter Token.isLineEnd =
          [lineEndToken (lineEndKind line carry next) row line.content.length true]) := by
  cases h with
  | blankRow isBlankRow =>
      refine .inr (.inr ⟨rfl, ?_, ?_⟩)
      · intro t ht _
        rcases eq_or_eq_of_mem_blankRowTokens ht with rfl | rfl
        · rfl
        · rfl
      · by_cases empty : line.content.dropWhile isBlank = [] <;>
          simp [blankRowTokens, empty, terminated, lineEndKind, isBlankRow, rowToken,
            lineEndToken, Token.isLineEnd]
  | @statement blocks left change scan notBlank moved scanned =>
      have indentation : (indentTokens row (line.content.takeWhile isBlank) change).filter
          Token.isLineEnd = [] := by
        apply List.filter_eq_nil_iff.2
        intro t ht
        rcases eq_or_eq_of_mem_indentTokens ht with rfl | rfl
        · exact Bool.false_ne_true
        · exact Bool.false_ne_true
      rw [List.filter_append, indentation, List.nil_append]
      rcases scanned.filter_isLineEnd ⟨blocks, 0, .fresh⟩ left terminated
        (fun blank => notBlank blank.1) with open_ | complete
      · exact .inl open_
      · refine .inr (.inr ⟨complete.1, ?_, complete.2⟩)
        intro t ht _
        rcases List.mem_append.1 ht with indent | later
        · rcases eq_or_eq_of_mem_indentTokens indent with rfl | rfl
          · rfl
          · rfl
        · exact start_line_of_mem_finishRow scanned.start_line later
  | @goesOn blocks depth mode _ inside scanned =>
      have notFresh : ¬ (IsBlankRow line ∧ mode = .fresh ∧ depth = 0) := by
        rintro ⟨-, isFresh, closed⟩
        rcases inside with rfl | ⟨-, open_⟩
        · cases isFresh
        · exact open_ closed
      rcases scanned.filter_isLineEnd ⟨blocks, depth, mode⟩ blocks terminated notFresh
        with open_ | complete
      · exact .inl open_
      · refine .inr (.inr ⟨complete.1, ?_, complete.2⟩)
        intro t ht _
        exact start_line_of_mem_finishRow scanned.start_line ht
  | @stringCloses blocks depth n s _ _ scanned =>
      rw [List.filter_cons_of_neg Bool.false_ne_true]
      rcases scanned.filter_isLineEnd ⟨blocks, depth, .inString s⟩ blocks terminated
        (fun blank => by cases blank.2.1) with open_ | complete
      · exact .inl open_
      · refine .inr (.inr ⟨complete.1, ?_, complete.2⟩)
        intro t ht isError
        rcases List.mem_cons.1 ht with rfl | later
        · cases isError
        · exact start_line_of_mem_finishRow scanned.start_line later
  | stringGoesOn => exact .inl ⟨fun isFresh => (by cases isFresh), rfl⟩
  | @stringBreaks _ _ s => exact .inr (.inl ⟨s, _, rfl, rfl⟩)

/-! ## The ends of all rows -/

/-- Whether a row ends in a continuation backslash. -/
def EndsContinued (lines : List PhysicalLine) (row : Nat) : Prop :=
  ∃ line next, lines[row]? = some line ∧ line.content.getLast? = some '\\' ∧
    Enters lines (row + 1) next ∧ next.mode = .continued

/-- Whether a row ends in an error that begins above it. -/
def EndsInError (lines : List PhysicalLine) (row : Nat) : Prop :=
  ∃ t ∈ (tokenizeLines lines).tokens, t.kind = .error ∧ t.start.line < row ∧
    t.stop = ⟨row, (rowText lines row).length⟩

/-- Whether a row has no token for the line feed behind it. -/
def LosesLineEnd (lines : List PhysicalLine) (row : Nat) : Prop :=
  EndsInString (lines.take (row + 1)) ∨ EndsContinued lines row ∨ EndsInError lines row

variable {lines : List PhysicalLine}

theorem Enters.standsOutside_iff (h : Enters lines row carry) :
    StandsOutside lines row ↔ carry.mode = .fresh ∧ carry.depth = 0 := by
  constructor
  · rintro ⟨blocks, outside⟩
    cases h.unique outside
    exact ⟨rfl, rfl⟩
  · rcases carry with ⟨blocks, depth, mode⟩
    rintro ⟨rfl, rfl⟩
    exact ⟨blocks, h⟩

/-- As many brackets are open at the end of a row as it leaves to the next one. -/
theorem Enters.rowBrackets_eq (h : Enters lines (row + 1) next) (inside : row < lines.length) :
    rowBrackets (tokenizeLines lines).tokens row = next.depth := by
  rcases h.exists_tokens inside with ⟨back, tokens, below⟩
  have upTo : (scanRows 0 .initial (lines.take (row + 1))).1.filter
      (fun t => decide (t.stop.line ≤ row)) = (scanRows 0 .initial (lines.take (row + 1))).1 := by
    apply List.filter_eq_self.2
    intro t ht
    exact decide_eq_true (Nat.le_of_lt_succ (Enters.stop_line_lt ht))
  have none_ : back.filter (fun t => decide (t.stop.line ≤ row)) = [] := by
    apply List.filter_eq_nil_iff.2
    intro t ht
    simpa using Nat.lt_of_succ_le (below t ht)
  rw [rowBrackets, tokens, List.filter_append, upTo, none_, List.append_nil]
  exact openBrackets_of_scanRows h.eq_scanRows

theorem start_line_eq_stop_line_of_isLineEnd {t : Token} (ht : t ∈ (tokenizeLines lines).tokens)
    (isEnd : t.isLineEnd = true) : t.start.line = t.stop.line := by
  refine start_line_eq_stop_line ht ?_ ?_
  · intro isString
    simp [Token.isLineEnd, isString] at isEnd
  · intro isError
    simp [Token.isLineEnd, isError] at isEnd

/-- The line ends that stand in a row are those among its own tokens. -/
theorem filter_isLineEnd_of_row {front here back : List Token}
    (whole : (tokenizeLines lines).tokens = front ++ here ++ back)
    (upper : ∀ t ∈ front, t.stop.line < row) (own : ∀ t ∈ here, t.stop.line = row)
    (lower : ∀ t ∈ back, row < t.stop.line) :
    (tokenizeLines lines).tokens.filter (fun t => t.isLineEnd && t.start.line == row) =
      here.filter Token.isLineEnd := by
  have byStop : (tokenizeLines lines).tokens.filter (fun t => t.isLineEnd && t.start.line == row) =
      (tokenizeLines lines).tokens.filter fun t => t.isLineEnd && t.stop.line == row := by
    apply List.filter_congr
    intro t ht
    by_cases isEnd : t.isLineEnd = true
    · rw [start_line_eq_stop_line_of_isLineEnd ht isEnd]
    · simp [isEnd]
  have above : front.filter (fun t => t.isLineEnd && t.stop.line == row) = [] := by
    apply List.filter_eq_nil_iff.2
    intro t ht
    simp [Nat.ne_of_lt (upper t ht)]
  have inRow : here.filter (fun t => t.isLineEnd && t.stop.line == row) =
      here.filter Token.isLineEnd := by
    apply List.filter_congr
    intro t ht
    simp [own t ht]
  have below : back.filter (fun t => t.isLineEnd && t.stop.line == row) = [] := by
    apply List.filter_eq_nil_iff.2
    intro t ht
    simp [Nat.ne_of_gt (lower t ht)]
  rw [byStop, whole, List.filter_append, List.filter_append, above, inRow, below,
    List.append_nil, List.nil_append]

/-- A row that leaves a string or a continuation to the next one loses its line end. -/
theorem losesLineEnd_of_mode (isRow : lines[row]? = some line) (after : Enters lines (row + 1) next)
    (step : Steps row line carry tokens next) (open_ : next.mode ≠ .fresh) :
    LosesLineEnd lines row := by
  cases mode : next.mode with
  | fresh => exact absurd mode open_
  | continued =>
      exact .inr (.inl ⟨line, next, isRow, step.getLast?_of_continued mode, after, mode⟩)
  | inString s => exact .inl ⟨next, s, after, mode⟩

/-- A row whose errors begin in it, and that leaves nothing open, has its line end. -/
theorem not_losesLineEnd (after : Enters lines (row + 1) next) (complete : next.mode = .fresh)
    (errors : ∀ t ∈ (tokenizeLines lines).tokens, t.stop.line = row → t.kind = .error →
      t.start.line = row) : ¬ LosesLineEnd lines row := by
  rintro (⟨other, s, ends, inString⟩ | ⟨line, other, -, -, ends, continued⟩ |
    ⟨t, ht, isError, above, stop⟩)
  · cases after.unique ends
    cases complete.symm.trans inString
  · cases after.unique ends
    cases complete.symm.trans continued
  · have here := errors t ht (congrArg Position.line stop) isError
    exact Nat.ne_of_lt above here

/-- Lines end and blocks open and close outside of brackets only. A row that is scanned and that a
line feed ends has one token for its end, behind its last character. It has none when it ends
inside a string, in a continuation backslash, or in an error that begins above it. The token ends
no logical line just when brackets are open there or the row is blank and stands outside strings,
brackets and continuations. -/
theorem tokenize_lineEnds (text : String) :
    let lines := physicalLines text.toList
    let tokens := (tokenizer.tokenize text).tokens
    (∀ front t back, tokens = front ++ t :: back →
      t.kind = .newline ∨ t.kind = .indent ∨ t.kind = .dedent → openBrackets 0 front = 0) ∧
    ∀ row line, lines[row]? = some line → line.terminated = true → IsScanned lines row →
      let ends := tokens.filter fun t => t.isLineEnd && t.start.line == row
      let staysOpen := 0 < rowBrackets tokens row ∨ (IsBlankRow line ∧ StandsOutside lines row)
      (LosesLineEnd lines row → ends = []) ∧
      (¬ LosesLineEnd lines row → ∃ t, ends = [t] ∧ t.start = ⟨row, line.content.length⟩ ∧
        (staysOpen → t.kind = .nonLogicalNewline) ∧ (¬ staysOpen → t.kind = .newline)) := by
  intro lines tokens
  constructor
  · intro front t back split kind
    rcases bracketed_tokenizeLines lines with ⟨last, bracketed⟩
    have whole : (tokenizeLines lines).tokens = front ++ t :: back := split
    rw [whole] at bracketed
    refine bracketed.openBrackets_eq_zero ?_
    rcases kind with isNewline | isIndent | isDedent
    · simp [Token.isStructural, isNewline]
    · simp [Token.isStructural, Token.isBlockToken, isIndent]
    · simp [Token.isStructural, Token.isBlockToken, isDedent]
  · rintro row line isRow terminated ⟨next, after⟩ ends staysOpen
    rcases after.exists_row isRow with ⟨carry, here, back, above, step, whole, upper, lower⟩
    have inside : row < lines.length := (List.getElem?_eq_some_iff.1 isRow).1
    have ends_eq : ends = here.filter Token.isLineEnd :=
      filter_isLineEnd_of_row whole upper step.stop_line lower
    have staysOpen_iff : staysOpen ↔
        0 < next.depth ∨ (IsBlankRow line ∧ carry.mode = .fresh ∧ carry.depth = 0) := by
      rw [← after.rowBrackets_eq inside, ← above.standsOutside_iff]
      exact Iff.rfl
    rw [ends_eq, staysOpen_iff]
    rcases step.lineEnds terminated with ⟨open_, none_⟩ | ⟨s, text, inString, alone⟩ |
      ⟨complete, errors, one⟩
    · have loses := losesLineEnd_of_mode isRow after step open_
      exact ⟨fun _ => none_, fun keeps => absurd loses keeps⟩
    · have loses : LosesLineEnd lines row := by
        have among : ⟨.error, text, s.start, ⟨row, line.content.length⟩⟩ ∈
            (tokenizeLines lines).tokens := by
          rw [whole, alone]
          simp
        refine .inr (.inr ⟨_, among, rfl, above.start_line_lt inString, ?_⟩)
        rw [rowText_of_getElem? isRow]
      refine ⟨fun _ => ?_, fun keeps => absurd loses keeps⟩
      rw [alone]
      rfl
    · have keeps : ¬ LosesLineEnd lines row := by
        refine not_losesLineEnd after complete ?_
        intro t ht stop isError
        rw [whole] at ht
        rcases List.mem_append.1 ht with inFront | inBack
        · rcases List.mem_append.1 inFront with inUpper | inHere
          · exact absurd stop (Nat.ne_of_lt (upper t inUpper))
          · exact errors t inHere isError
        · exact absurd stop (Nat.ne_of_gt (lower t inBack))
      refine ⟨fun loses => absurd loses keeps, fun _ => ?_⟩
      refine ⟨_, one, rfl, ?_, ?_⟩
      · intro isOpen
        exact if_pos isOpen
      · intro notOpen
        exact if_neg notOpen

/-- A string closes between brackets, and a backslash carries the statement on. -/
example :
    ((tokenize "x = ('''a\nb''' + \\\n1)\n# c\n").tokens.filter Token.isLineEnd).map
      (fun t => (t.kind, t.start)) = [(.newline, ⟨2, 2⟩), (.nonLogicalNewline, ⟨3, 3⟩)] := by
  decide +kernel

/-- A bracket, an empty row, a backslash and a string without an end, above a row that goes astray.
-/
theorem tokenize_lineEnds_astray :
    let text := "f(1,\n2)\n\nx = \\\n'a\\\nb\nif y:\n    z\n  w\n"
    let lines := physicalLines text.toList
    let ends := fun row =>
      (tokenizer.tokenize text).tokens.filter fun t => t.isLineEnd && t.start.line == row
    (∀ row < 8, IsScanned lines row) ∧
      (∃ t, ends 0 = [t] ∧ t.start = ⟨0, 4⟩ ∧ t.kind = .nonLogicalNewline) ∧
      (∃ t, ends 1 = [t] ∧ t.start = ⟨1, 2⟩ ∧ t.kind = .newline) ∧
      (∃ t, ends 2 = [t] ∧ t.start = ⟨2, 0⟩ ∧ t.kind = .nonLogicalNewline) ∧
      (EndsContinued lines 3 ∧ ends 3 = []) ∧
      (EndsInString (lines.take 5) ∧ ends 4 = []) ∧
      EndsInError lines 5 ∧ ends 5 = [] := by
  intro text lines ends
  have astray : (tokenizeLines lines).failure = some (.inconsistentDedent ⟨8, 2⟩) := by
    decide +kernel
  have scanned : ∀ row < 8, IsScanned lines row := by
    intro row above
    refine (isScanned_iff (Nat.lt_trans above (by decide +kernel))).2 fun place fails => ?_
    cases astray.symm.trans fails
    exact above
  have continued : EndsContinued lines 3 :=
    ⟨⟨"x = \\".toList, true⟩, ⟨[], 0, .continued⟩, by decide +kernel⟩
  have inString : EndsInString (lines.take 5) :=
    ⟨⟨[], 0, .inString ⟨⟨4, 0⟩, '\'', false, "'a\\\n".toList⟩⟩, _, by decide +kernel, rfl⟩
  have inError : EndsInError lines 5 :=
    ⟨⟨.error, "'a\\\nb", ⟨4, 0⟩, ⟨5, 1⟩⟩, by decide +kernel⟩
  rcases tokenize_lineEnds text with ⟨-, rows⟩
  have bracket := rows 0 ⟨"f(1,".toList, true⟩ (by decide +kernel) rfl (scanned 0 (by decide))
  have closed := rows 1 ⟨"2)".toList, true⟩ (by decide +kernel) rfl (scanned 1 (by decide))
  have empty := rows 2 ⟨[], true⟩ (by decide +kernel) rfl (scanned 2 (by decide))
  have third := rows 3 ⟨"x = \\".toList, true⟩ (by decide +kernel) rfl (scanned 3 (by decide))
  have fourth := rows 4 ⟨"'a\\".toList, true⟩ (by decide +kernel) rfl (scanned 4 (by decide))
  have fifth := rows 5 ⟨"b".toList, true⟩ (by decide +kernel) rfl (scanned 5 (by decide))
  -- A row that shows a line end has not lost it.
  rcases bracket.2 (mt bracket.1 (by decide +kernel)) with ⟨t₀, one₀, place₀, isOpen₀, -⟩
  rcases closed.2 (mt closed.1 (by decide +kernel)) with ⟨t₁, one₁, place₁, -, notOpen₁⟩
  rcases empty.2 (mt empty.1 (by decide +kernel)) with ⟨t₂, one₂, place₂, isOpen₂, -⟩
  have outside : StandsOutside lines 2 := ⟨[], by decide +kernel⟩
  have stillOpen : ¬ (0 < rowBrackets (tokenizer.tokenize text).tokens 1 ∨
      (IsBlankRow ⟨"2)".toList, true⟩ ∧ StandsOutside lines 1)) := by
    rintro (brackets | ⟨blank, -⟩)
    · exact absurd brackets (by decide +kernel)
    · exact absurd blank (by decide)
  exact ⟨scanned, ⟨t₀, one₀, place₀, isOpen₀ (.inl (by decide +kernel))⟩,
    ⟨t₁, one₁, place₁, notOpen₁ stillOpen⟩,
    ⟨t₂, one₂, place₂, isOpen₂ (.inr ⟨by decide, outside⟩)⟩,
    ⟨continued, third.1 (.inr (.inl continued))⟩, ⟨inString, fourth.1 (.inl inString)⟩,
    inError, fifth.1 (.inr (.inr inError))⟩

end Python
end EditorAnalysis
