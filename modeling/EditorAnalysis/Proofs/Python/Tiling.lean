import EditorAnalysis.Proofs.Python.Rows
import EditorAnalysis.Proofs.Python.Scans
import EditorAnalysis.Proofs.Token.Tiling

/-!
# The Python tokenizer tiles its text

The tokens of a text stand in it in order, hold what it has where they stand, and leave out white
space and continuation backslashes only. A scan that is not at its end may be inside a string. The
tokens then reach up to the start of that string, and the string holds all that was read since.
-/

namespace EditorAnalysis
namespace Python

open Text

variable {lines : List PhysicalLine}

/-- Whether an open string holds what a text has from its start up to the front of a row. -/
structure OpenString.ReachesTo (lines : List PhysicalLine) (row : Nat) (s : OpenString) :
    Prop where
  before : s.start.line < row
  inside : s.start.column < (rowText lines s.start.line).length
  text : s.text = textBetween lines s.start ⟨row, 0⟩

/-- Up to where the tokens of a row's scan reach: the end of the row, or the string that is open
there. -/
def RowEnd.front (row length : Nat) : RowEnd → Position
  | .complete | .continued => ⟨row, length⟩
  | .inString s => s.start

/-- Up to where the tokens in front of a row reach. -/
def Carry.front (row : Nat) (carry : Carry) : Position :=
  match carry.mode with
  | .fresh | .continued => ⟨row, 0⟩
  | .inString s => s.start

/-- Whether a string that is open in front of a row holds what the text has up to there. -/
def Carry.Fits (lines : List PhysicalLine) (row : Nat) (carry : Carry) : Prop :=
  ∀ s, carry.mode = .inString s → s.ReachesTo lines row

/-! ## Tokens of one row -/

/-- A token that is cut out of its row tiles the place where it was. -/
theorem tiles_rowToken (kind : TokenKind) {row column : Nat} (n : Nat) {tokens : List Token}
    {q : Position} (notEnd : kind ≠ .newline ∧ kind ≠ .nonLogicalNewline)
    (inside : column + n ≤ (rowText lines row).length)
    (later : Tiles lines ⟨row, column + n⟩ tokens q) :
    Tiles lines ⟨row, column⟩
      (rowToken kind row column (((rowText lines row).drop column).take n) :: tokens) q := by
  -- The token stops where the characters that it took end.
  have length : (((rowText lines row).drop column).take n).length = n := by
    rw [List.length_take, List.length_drop]
    omega
  have stop : (rowToken kind row column (((rowText lines row).drop column).take n)).stop =
      ⟨row, column + n⟩ := by
    rw [rowToken, length]
  refine Tiles.token (t := rowToken kind row column _) ?_ ?_ (by rw [stop]; exact later)
  · have other : (rowToken kind row column
        (((rowText lines row).drop column).take n)).isLineEnd = false := by
      simp [Token.isLineEnd, rowToken, notEnd]
    rw [Token.StandsIn, if_neg (by simp [other]), stop]
    refine ⟨?_, inside, ?_⟩
    · exact Nat.le_trans (Nat.le_add_right column n) inside
    · simp [rowToken, textBetween_row, List.drop_take]
  · rw [stop]
    exact Or.inr ⟨rfl, Nat.le_add_right column n⟩

/-- A token that takes the rest of its row. -/
theorem tiles_restOfRow (kind : TokenKind) {row column : Nat} {tokens : List Token}
    {q : Position} (notEnd : kind ≠ .newline ∧ kind ≠ .nonLogicalNewline)
    (inside : column ≤ (rowText lines row).length)
    (later : Tiles lines ⟨row, (rowText lines row).length⟩ tokens q) :
    Tiles lines ⟨row, column⟩
      (rowToken kind row column ((rowText lines row).drop column) :: tokens) q := by
  have whole : ((rowText lines row).drop column).take ((rowText lines row).length - column) =
      (rowText lines row).drop column :=
    List.take_of_length_le (by simp)
  have upTo : column + ((rowText lines row).length - column) = (rowText lines row).length :=
    Nat.add_sub_cancel' inside
  have cut := tiles_rowToken kind ((rowText lines row).length - column) notEnd
    (Nat.le_of_eq upTo) (by rw [upTo]; exact later)
  rwa [whole] at cut

theorem isGap_of_isBlank {row column : Nat} {c : Char} (h : isBlank c = true) :
    IsGap lines row column c := by
  simp only [isBlank, Bool.or_eq_true, beq_iff_eq] at h
  rcases h with (space | tab) | feed
  · exact Or.inl space
  · exact Or.inr (Or.inl tab)
  · exact Or.inr (Or.inr (Or.inl feed))

/-- The kinds of the tokens of lexemes are no line ends. -/
theorem not_lineEnd_of_token? {lexeme : Lexeme} {rest : List Char} {kind : TokenKind} {n : Nat}
    (h : lexeme.token? rest = some (kind, n)) :
    kind ≠ .newline ∧ kind ≠ .nonLogicalNewline := by
  have kinds := Lexeme.kind_of_token? h
  simp only [List.mem_cons, List.not_mem_nil, or_false] at kinds
  rcases kinds with rfl | rfl | rfl | rfl | rfl <;> decide

/-- The first character of a row's rest stands in the row, and the others behind it. -/
theorem front_of_drop {cs : List Char} {column : Nat} {c : Char} {row : List Char}
    (h : c :: cs = row.drop column) :
    row[column]? = some c ∧ cs = row.drop (column + 1) ∧ column + (cs.length + 1) = row.length := by
  have first := congrArg (fun l : List Char => l[0]?) h
  have tail := congrArg List.tail h
  have length := congrArg List.length h
  simp only [List.getElem?_cons_zero, List.getElem?_drop, Nat.add_zero] at first
  simp only [List.tail_cons, List.tail_drop] at tail
  simp only [List.length_cons, List.length_drop] at length
  exact ⟨first.symm, tail, by omega⟩

/-- A scan of the rest of a row tiles it up to the row's end, or up to the string that is open
there. That string holds the rest of the row. -/
theorem Scans.tiles {row : Nat} {terminated : Bool} {column depth : Nat} {rest : List Char}
    {scan : RowScan} (h : Scans row terminated column depth rest scan)
    (isRest : rest = (rowText lines row).drop column)
    (inside : column ≤ (rowText lines row).length) :
    Tiles lines ⟨row, column⟩ scan.tokens
        (scan.ending.front row (rowText lines row).length) ∧
      ∀ s, scan.ending = .inString s → s.ReachesTo lines (row + 1) := by
  induction h with
  | @done column =>
      have length := congrArg List.length isRest
      have atEnd : column = (rowText lines row).length := by
        simp at length
        omega
      rw [atEnd]
      exact ⟨Tiles.done, fun s inString => by cases inString⟩
  | blank blankChar _ ih =>
      rcases front_of_drop isRest with ⟨char, isTail, length⟩
      have later := ih isTail (by omega)
      exact ⟨Tiles.skip char (isGap_of_isBlank blankChar) later.1, later.2⟩
  | comment =>
      rw [isRest]
      refine ⟨tiles_restOfRow _ (by decide) inside Tiles.done, fun s inString => by cases inString⟩
  -- A continuation backslash is the last character of its row, so it may lie outside of all tokens.
  | @continuation column =>
      rcases front_of_drop isRest with ⟨char, -, length⟩
      simp only [List.length_nil, Nat.zero_add] at length
      refine ⟨?_, fun s inString => by cases inString⟩
      rw [RowEnd.front, ← length]
      exact Tiles.skip char (Or.inr (Or.inr (Or.inr ⟨rfl, length⟩))) Tiles.done
  | @lexeme column _ c cs kind n _ _ token _ ih =>
      rcases front_of_drop isRest with ⟨-, -, length⟩
      have extent := (Lexeme.length_of_token?_ofFront token).2
      rw [List.length_cons] at extent
      have isLater : (c :: cs).drop n = (rowText lines row).drop (column + n) := by
        rw [isRest, List.drop_drop]
      have later := ih isLater (by omega)
      rw [isRest]
      exact ⟨tiles_rowToken kind n (not_lineEnd_of_token? token) (by omega) later.1, later.2⟩
  -- The run stops in front of the string, which holds the rest of the row and its line feed.
  | @openString column _ c cs opener =>
      rcases front_of_drop isRest with ⟨-, -, length⟩
      refine ⟨Tiles.done, fun s inString => ?_⟩
      cases inString
      refine ⟨Nat.lt_succ_self row, ?_, ?_⟩
      · exact Nat.lt_of_lt_of_eq (Nat.lt_add_of_pos_right (Nat.succ_pos _)) length
      · rw [textBetween_restOfRow, ← isRest]
  | brokenString =>
      rw [isRest]
      exact ⟨tiles_restOfRow _ (by decide) inside Tiles.done, fun s inString => by cases inString⟩

/-! ## Whole rows -/

/-- The white space at the front of a row may lie outside of all tokens. -/
theorem tiles_blanks (lines : List PhysicalLine) (row : Nat) :
    Tiles lines ⟨row, 0⟩ [] ⟨row, ((rowText lines row).takeWhile isBlank).length⟩ := by
  rw [← Nat.zero_add ((rowText lines row).takeWhile isBlank).length]
  refine Tiles.skips fun i c hc => ?_
  have isBlankChar : isBlank c = true :=
    List.all_eq_true.1 List.all_takeWhile c (List.mem_of_getElem? hc)
  have inFront : i < ((rowText lines row).takeWhile isBlank).length :=
    (List.getElem?_eq_some_iff.1 hc).1
  refine ⟨?_, isGap_of_isBlank isBlankChar⟩
  rw [Nat.zero_add, ← List.takeWhile_append_dropWhile (p := isBlank) (l := rowText lines row),
    List.getElem?_append_left inFront, hc]

section Row

variable {row : Nat} {line : PhysicalLine}

/-- The end of a row stands behind its last character, and the next row follows. -/
theorem tiles_lineEndToken (hline : lines[row]? = some line) (kind : TokenKind)
    (isEnd : kind = .newline ∨ kind = .nonLogicalNewline) :
    Tiles lines ⟨row, line.content.length⟩
      [lineEndToken kind row line.content.length line.terminated] ⟨row + 1, 0⟩ := by
  refine Tiles.token (t := lineEndToken kind row line.content.length line.terminated) ?_ ?_ ?_
  · rw [Token.StandsIn, if_pos]
    · exact ⟨line, hline, rfl, rfl⟩
    · rcases isEnd with rfl | rfl <;> rfl
  · exact Position.le_nextColumn row _
  · refine Tiles.rowBreak ?_
    rw [rowText_of_getElem? hline]
    exact Nat.le_succ _

/-- The end of a row without a token for it. -/
theorem tiles_rowBreak (hline : lines[row]? = some line) :
    Tiles lines ⟨row, line.content.length⟩ [] ⟨row + 1, 0⟩ := by
  have length := congrArg List.length (rowText_of_getElem? hline)
  exact Tiles.rowBreak (Nat.le_of_eq length)

theorem tiles_lineEnd (hline : lines[row]? = some line) (depth : Nat) :
    Tiles lines ⟨row, line.content.length⟩
      (lineEnd row line.content.length line.terminated depth) ⟨row + 1, 0⟩ := by
  rw [lineEnd]
  split
  · next terminated =>
      rw [← terminated]
      refine tiles_lineEndToken hline _ ?_
      split
      · exact Or.inr rfl
      · exact Or.inl rfl
  · split
    · next unterminated _ =>
        have isFalse : line.terminated = false := by simpa using unterminated
        have token := tiles_lineEndToken hline .newline (Or.inl rfl)
        rwa [isFalse] at token
    · exact tiles_rowBreak hline

/-- A finished row reaches up to the next one, or to the string that is open behind it. -/
theorem tiles_finishRow (hline : lines[row]? = some line) {p : Position} {scan : RowScan}
    (blocks : OpenBlocks)
    (scanned : Tiles lines p scan.tokens (scan.ending.front row line.content.length))
    (pending : ∀ s, scan.ending = .inString s → s.ReachesTo lines (row + 1)) :
    Tiles lines p (finishRow row line blocks scan).1
        ((finishRow row line blocks scan).2.front (row + 1)) ∧
      (finishRow row line blocks scan).2.Fits lines (row + 1) := by
  cases ending : scan.ending with
  | complete =>
      rw [ending] at scanned
      simp only [finishRow, ending]
      exact ⟨scanned.trans (tiles_lineEnd hline scan.depth), fun s inString => by cases inString⟩
  | continued =>
      rw [ending] at scanned
      simp only [finishRow, ending]
      have next := scanned.trans (tiles_rowBreak hline)
      rw [List.append_nil] at next
      exact ⟨next, fun s inString => by cases inString⟩
  | inString s =>
      rw [ending] at scanned
      simp only [finishRow, ending]
      refine ⟨scanned, fun other inString => ?_⟩
      cases inString
      exact pending s ending

/-- A scan from a column on, finished. -/
theorem Scans.tiles_finishRow {column depth : Nat} {scan : RowScan}
    (h : Scans row line.terminated column depth (line.content.drop column) scan)
    (hline : lines[row]? = some line) (inside : column ≤ line.content.length)
    (blocks : OpenBlocks) :
    Tiles lines ⟨row, column⟩ (finishRow row line blocks scan).1
        ((finishRow row line blocks scan).2.front (row + 1)) ∧
      (finishRow row line blocks scan).2.Fits lines (row + 1) := by
  have text := rowText_of_getElem? hline
  have scanned := h.tiles (by rw [text]) (by rwa [text])
  rw [text] at scanned
  exact Python.tiles_finishRow hline blocks scanned.1 scanned.2

/-- The tokens of a row of white space and perhaps a comment, from the comment on. -/
theorem tiles_blankRowTokens (hline : lines[row]? = some line) :
    Tiles lines ⟨row, (line.content.takeWhile isBlank).length⟩
      (blankRowTokens row line (line.content.takeWhile isBlank).length
        (line.content.dropWhile isBlank)) ⟨row + 1, 0⟩ := by
  have text := rowText_of_getElem? hline
  have inside : (line.content.takeWhile isBlank).length ≤ line.content.length :=
    (List.takeWhile_sublist isBlank).length_le
  have rest := drop_length_takeWhile isBlank line.content
  rw [blankRowTokens]
  -- The row ends behind its blanks, or it has a comment and then its line break.
  by_cases empty : line.content.dropWhile isBlank = []
  · have atEnd : (line.content.takeWhile isBlank).length = line.content.length := by
      have length := congrArg List.length (rest.trans empty)
      rw [List.length_drop, List.length_nil] at length
      omega
    by_cases terminated : line.terminated
    · simp only [empty, terminated, atEnd, ne_eq, not_true_eq_false, false_or, if_true,
        List.nil_append]
      rw [← terminated]
      exact tiles_lineEndToken hline .nonLogicalNewline (Or.inr rfl)
    · simp only [empty, terminated, atEnd, ne_eq, not_true_eq_false, false_or, if_true,
        List.nil_append]
      exact tiles_rowBreak hline
  · simp only [empty, ne_eq, not_false_eq_true, true_or, if_true, if_false, List.cons_append,
      List.nil_append]
    have lineBreak := tiles_lineEndToken hline .nonLogicalNewline (Or.inr rfl)
    rw [← text] at lineBreak inside
    have comment := tiles_restOfRow .comment (by decide) inside lineBreak
    rwa [text, rest] at comment

/-- The tokens of a row's indentation reach up to its first text. -/
theorem tiles_indentTokens (lines : List PhysicalLine) (row : Nat) (change : IndentChange) :
    Tiles lines ⟨row, 0⟩ (indentTokens row ((rowText lines row).takeWhile isBlank) change)
      ⟨row, ((rowText lines row).takeWhile isBlank).length⟩ := by
  have inside : ((rowText lines row).takeWhile isBlank).length ≤ (rowText lines row).length :=
    (List.takeWhile_sublist isBlank).length_le
  cases change with
  | same => exact tiles_blanks lines row
  | opened =>
      have cut : ((rowText lines row).drop 0).take
          ((rowText lines row).takeWhile isBlank).length =
            (rowText lines row).takeWhile isBlank := by
        exact (List.prefix_iff_eq_take.1 (List.takeWhile_prefix isBlank)).symm
      have upTo := Nat.zero_add ((rowText lines row).takeWhile isBlank).length
      have token : Tiles lines ⟨row, 0⟩ _ ⟨row, _⟩ :=
        tiles_rowToken .indent ((rowText lines row).takeWhile isBlank).length (by decide)
          (by rwa [upTo]) Tiles.done
      rwa [cut, upTo] at token
  | closed count =>
      have points : Tiles lines ⟨row, ((rowText lines row).takeWhile isBlank).length⟩
          (indentTokens row ((rowText lines row).takeWhile isBlank) (.closed count))
          ⟨row, ((rowText lines row).takeWhile isBlank).length⟩ :=
        Tiles.replicate (Token.standsIn_point (by decide) inside) count
      exact (tiles_blanks lines row).trans points

/-- The token of a string that began in an earlier row. -/
theorem tiles_stringToken (kind : TokenKind) {s : OpenString} {n : Nat} {tokens : List Token}
    {q : Position} (notEnd : kind ≠ .newline ∧ kind ≠ .nonLogicalNewline)
    (reaches : s.ReachesTo lines row) (inside : n ≤ (rowText lines row).length)
    (later : Tiles lines ⟨row, n⟩ tokens q) :
    Tiles lines s.start
      (⟨kind, String.ofList (s.text ++ (rowText lines row).take n), s.start, ⟨row, n⟩⟩ :: tokens)
      q := by
  refine Tiles.token (t := ⟨kind, _, s.start, ⟨row, n⟩⟩) ?_ (Or.inl reaches.before) later
  rw [Token.StandsIn, if_neg (by simp [Token.isLineEnd, notEnd])]
  refine ⟨Nat.le_of_lt reaches.inside, inside, ?_⟩
  rw [textBetween_laterRow reaches.before, ← reaches.text, String.toList_ofList]

/-- A row takes the tokens on to the next one, or to the string that is open behind it. -/
theorem Steps.tiles (hline : lines[row]? = some line) {carry next : Carry} {tokens : List Token}
    (h : Steps row line carry tokens next) (fits : carry.Fits lines row) :
    Tiles lines (carry.front row) tokens (next.front (row + 1)) ∧ next.Fits lines (row + 1) := by
  have text := rowText_of_getElem? hline
  cases h with
  | blankRow =>
      have blanks := tiles_blanks lines row
      rw [text] at blanks
      exact ⟨blanks.trans (tiles_blankRowTokens hline), fun s inString => by cases inString⟩
  | @statement _ left change _ _ _ scanned =>
      have inside : (line.content.takeWhile isBlank).length ≤ line.content.length :=
        (List.takeWhile_sublist isBlank).length_le
      have indentation := tiles_indentTokens lines row change
      rw [text] at indentation
      rw [← drop_length_takeWhile] at scanned
      rcases scanned.tiles_finishRow hline inside left with ⟨statement, pending⟩
      exact ⟨indentation.trans statement, pending⟩
  | @goesOn blocks depth mode _ inside scanned =>
      -- Nothing of the statement is held back: its earlier rows are tokens already.
      have atFront : Carry.front row ⟨blocks, depth, mode⟩ = ⟨row, 0⟩ := by
        rcases inside with rfl | ⟨rfl, -⟩
        · rfl
        · rfl
      have fromFront : Scans row line.terminated 0 depth (line.content.drop 0) _ := scanned
      rw [atFront]
      exact fromFront.tiles_finishRow hline (Nat.zero_le _) blocks
  | @stringCloses blocks _ n s _ found scanned =>
      have inside := StringEnd.le_of_find_eq_closed found
      rcases scanned.tiles_finishRow hline inside blocks with ⟨behind, pending⟩
      have token := tiles_stringToken .string (by decide) (fits s rfl) (by rwa [text]) behind
      rw [text] at token
      exact ⟨token, pending⟩
  | @stringGoesOn blocks depth s =>
      -- The string takes the whole row and the line feed behind it.
      have reaches := fits s rfl
      refine ⟨Tiles.done, fun other inString => ?_⟩
      cases inString
      refine ⟨Nat.lt_succ_of_lt reaches.before, reaches.inside, ?_⟩
      have upTo : textBetween lines s.start ⟨row + 1, 0⟩ = s.text ++ line.content ++ ['\n'] := by
        rw [textBetween_pastRow reaches.before, text, ← reaches.text]
      exact upTo.symm
  | @stringBreaks _ _ s =>
      -- The error takes the whole row but not the line feed.
      refine ⟨?_, fun other inString => by cases inString⟩
      have token := tiles_stringToken .error (by decide) (fits s rfl)
        (Nat.le_refl (rowText lines row).length) (by rw [text]; exact tiles_rowBreak hline)
      rwa [List.take_length, text] at token

end Row

/-! ## Whole texts -/

/-- The tokens of rows reach somewhere; when no row fails, up to the last one, or to the string
that is open there. -/
theorem tiles_scanRows {row : Nat} {carry : Carry} {rest : List PhysicalLine}
    (isRest : rest = lines.drop row) (fits : carry.Fits lines row) :
    ∃ q, Tiles lines (carry.front row) (scanRows row carry rest).1 q ∧
      ∀ last, (scanRows row carry rest).2 = .ok last →
        q = last.front (row + rest.length) ∧ last.Fits lines (row + rest.length) := by
  -- Along the rows it is `Fits` that carries the induction: what a string holds back is its text.
  induction rest generalizing row carry with
  | nil =>
      refine ⟨carry.front row, Tiles.done, ?_⟩
      intro last outcome
      cases outcome
      exact ⟨rfl, fits⟩
  | cons line rest ih =>
      have hline : lines[row]? = some line := by
        have first := congrArg (fun l : List PhysicalLine => l[0]?) isRest
        simpa using first.symm
      have isLater : rest = lines.drop (row + 1) := by
        have tail := congrArg List.tail isRest
        simpa using tail
      cases scanned : scanRow row line carry with
      | error failure =>
          rw [scanRows_cons_of_error scanned]
          refine ⟨carry.front row, Tiles.done, ?_⟩
          intro last outcome
          cases outcome
      | ok result =>
          rcases result with ⟨tokens, next⟩
          rcases (Steps.of_scanRow scanned).tiles hline fits with ⟨here, fitsNext⟩
          rcases ih isLater fitsNext with ⟨q, later, upTo⟩
          have place : row + (rest.length + 1) = row + 1 + rest.length :=
            Nat.add_right_comm row rest.length 1
          rw [scanRows_cons_of_ok scanned, List.length_cons, place]
          exact ⟨q, here.trans later, upTo⟩

/-- The tokens of a text whose rows are scanned to their end reach up to where these leave off. -/
theorem tiles_of_scanRows {tokens : List Token} {carry : Carry}
    (h : scanRows 0 .initial lines = (tokens, .ok carry)) :
    Tiles lines ⟨0, 0⟩ tokens (carry.front lines.length) ∧ carry.Fits lines lines.length := by
  have isWhole : lines = lines.drop 0 := rfl
  have fits : Carry.initial.Fits lines 0 := fun s inString => by cases inString
  rcases tiles_scanRows isWhole fits with ⟨q, tiled, upTo⟩
  rw [h, Nat.zero_add] at upTo
  rw [h] at tiled
  rcases upTo carry rfl with ⟨rfl, fitsLast⟩
  exact ⟨tiled, fitsLast⟩

/-- The tokens of all rows start and stop in them. -/
theorem line_lt_of_mem_scanRows {t : Token} (ht : t ∈ (scanRows 0 .initial lines).1) :
    t.start.line < lines.length ∧ t.stop.line < lines.length := by
  have isWhole : lines = lines.drop 0 := rfl
  have fits : Carry.initial.Fits lines 0 := fun s inString => by cases inString
  rcases tiles_scanRows isWhole fits with ⟨q, tiled, -⟩
  have ordered := Position.line_le_of_le (tiled.between ht).2.1
  have stops := (stop_line_of_mem_scanRows ht).2
  rw [Nat.zero_add] at stops
  exact ⟨Nat.lt_of_le_of_lt ordered stops, stops⟩

/-- The tokens behind the last row stand behind the last row. -/
theorem tiles_closingTokens (lines : List PhysicalLine) (blocks : OpenBlocks) :
    Tiles lines ⟨lines.length, 0⟩ (closingTokens lines.length blocks) ⟨lines.length, 0⟩ := by
  have dedent : (⟨.dedent, "", ⟨lines.length, 0⟩, ⟨lines.length, 0⟩⟩ : Token).StandsIn lines :=
    Token.standsIn_point (by decide) (Nat.zero_le _)
  have marker : (⟨.endMarker, "", ⟨lines.length, 0⟩, ⟨lines.length, 0⟩⟩ : Token).StandsIn lines :=
    Token.standsIn_point (by decide) (Nat.zero_le _)
  exact (Tiles.replicate dedent blocks.length).trans
    (Tiles.singleton marker (Position.le_refl _))

/-- The tokens of a text tile it from its front on; a complete stream tiles all of it. -/
theorem tiles_tokenizeLines (lines : List PhysicalLine) :
    ∃ q, Tiles lines ⟨0, 0⟩ (tokenizeLines lines).tokens q ∧
      ((tokenizeLines lines).isComplete = true → q = ⟨lines.length, 0⟩) := by
  by_cases complete : (tokenizeLines lines).isComplete = true
  · rcases isComplete_tokenizeLines_iff.1 complete with ⟨tokens, blocks, scanned⟩
    rw [tokenizeLines_of_complete scanned]
    have rows : Tiles lines ⟨0, 0⟩ tokens ⟨lines.length, 0⟩ := (tiles_of_scanRows scanned).1
    exact ⟨_, rows.trans (tiles_closingTokens lines blocks), fun _ => rfl⟩
  · have fits : Carry.initial.Fits lines 0 := fun s inString => by cases inString
    have isWhole : lines = lines.drop 0 := rfl
    rcases tiles_scanRows isWhole fits with ⟨q, tiled, -⟩
    rw [tokens_tokenizeLines_of_not_isComplete (by simpa using complete)]
    exact ⟨q, tiled, fun isComplete => absurd isComplete complete⟩

/-- The rows in which the tokens of a text start are in order. -/
theorem pairwise_start_line (lines : List PhysicalLine) :
    (tokenizeLines lines).tokens.Pairwise fun t u => t.start.line ≤ u.start.line := by
  rcases tiles_tokenizeLines lines with ⟨q, tiled, -⟩
  exact tiled.pairwise_start.imp Position.line_le_of_le

/-- The tokens of a text are in order, hold what the text has where they stand, and together with
white space and continuation backslashes make up the whole text when the stream is complete. -/
theorem tokenize_tiles (text : String) :
    let lines := physicalLines text.toList
    let tokens := (tokenizer.tokenize text).tokens
    (∀ t ∈ tokens, t.start ≤ t.stop) ∧
      (∀ i t u, tokens[i]? = some t → tokens[i + 1]? = some u → t.stop ≤ u.start) ∧
      (∀ t ∈ tokens, t.StandsIn lines) ∧
      ((tokenizer.tokenize text).isComplete = true →
        ∀ row column c, (rowText lines row)[column]? = some c →
          (∀ t ∈ tokens, t.covers row column = false) → IsGap lines row column c) := by
  intro lines tokens
  rcases tiles_tokenizeLines lines with ⟨q, tiled, upTo⟩
  refine ⟨fun t ht => (tiled.between ht).2.1, fun i t u ht hu => tiled.stop_le_start ht hu,
    fun t ht => tiled.standsIn ht, ?_⟩
  intro complete row column c char outside
  refine tiled.isGap char ?_ ?_ outside
  · rw [Position.le_def]
    simp only
    omega
  · have inside : row < lines.length := by
      refine Nat.lt_of_not_le fun past => ?_
      rw [rowText_of_length_le past] at char
      cases char
    -- A complete stream reaches behind the last row, so every place of a row is before its end.
    rw [upTo complete, Position.le_def]
    simp only
    omega

/-- A string over two rows, and a blank and a backslash that no token covers. -/
theorem tokenize_tiles_gaps :
    let text := "a =\\\n '''b\n'''\n"
    let lines := physicalLines text.toList
    let stream := tokenizer.tokenize text
    let string : Token := ⟨.string, "'''b\n'''", ⟨1, 1⟩, ⟨2, 3⟩⟩
    stream.isComplete = true ∧
      (string ∈ stream.tokens ∧ string.StandsIn lines) ∧
      ((rowText lines 0)[1]? = some ' ' ∧ (∀ t ∈ stream.tokens, t.covers 0 1 = false) ∧
        IsGap lines 0 1 ' ') ∧
      (rowText lines 0)[3]? = some '\\' ∧ (∀ t ∈ stream.tokens, t.covers 0 3 = false) ∧
        IsGap lines 0 3 '\\' := by
  intro text lines stream string
  have complete : stream.isComplete = true := by decide +kernel
  have among : string ∈ stream.tokens := by decide +kernel
  have blank : (rowText lines 0)[1]? = some ' ' := by decide +kernel
  have backslash : (rowText lines 0)[3]? = some '\\' := by decide +kernel
  have outside : (∀ t ∈ stream.tokens, t.covers 0 1 = false) ∧
      ∀ t ∈ stream.tokens, t.covers 0 3 = false := by
    decide +kernel
  rcases tokenize_tiles text with ⟨-, -, stands, gaps⟩
  exact ⟨complete, ⟨among, stands string among⟩,
    ⟨blank, outside.1, gaps complete 0 1 ' ' blank outside.1⟩,
    backslash, outside.2, gaps complete 0 3 '\\' backslash outside.2⟩

end Python
end EditorAnalysis
