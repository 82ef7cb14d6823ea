import EditorAnalysis.Proofs.Classifier.Reload
import EditorAnalysis.Proofs.Python.Depth
import EditorAnalysis.Proofs.Python.LastRow
import EditorAnalysis.Proofs.Python.Tiling

/-!
# The line break at the end of a text

The lines of a table, joined, have no line break at their end, whether the text that was loaded
had one or not. So an edit that is taken back leaves the table of the text without its last line
break. That is the table of the text itself unless the break shows: it may keep a string open,
and the empty row in front of it may end a string or a statement or belong to a block.
-/

namespace EditorAnalysis
namespace Python

open Text

/-! ## When the line break shows -/

/-- Whether an empty row shows in this state: it ends a statement, or it belongs to a block. -/
def Carry.ShowsEmptyRow (carry : Carry) : Prop :=
  carry.depth = 0 ∧ (carry.mode = .continued ∨ (carry.mode = .fresh ∧ carry.blocks ≠ []))

/-- Whether the line break at the end of a text shows in its table. An empty last row is there for
the break alone. -/
def FinalBreakShows (lines : List PhysicalLine) : Prop :=
  ∃ rows last carry, lines = rows ++ [⟨last, true⟩] ∧
    (scanRows 0 .initial (if last = [] then rows else lines)).2 = .ok carry ∧
    (carry.InShortString ∨ (last = [] ∧ carry.ShowsEmptyRow))

instance (carry : Carry) : Decidable carry.ShowsEmptyRow :=
  inferInstanceAs (Decidable (carry.depth = 0 ∧
    (carry.mode = .continued ∨ (carry.mode = .fresh ∧ carry.blocks ≠ []))))

/-- The line break of these rows shows when it does so in the state in front of it. -/
theorem finalBreakShows_concat_iff {rows : List PhysicalLine} {last : List Char} :
    FinalBreakShows (rows ++ [⟨last, true⟩]) ↔
      ∃ carry, (scanRows 0 .initial (if last = [] then rows else rows ++ [⟨last, true⟩])).2 =
          .ok carry ∧
        (carry.InShortString ∨ (last = [] ∧ carry.ShowsEmptyRow)) := by
  constructor
  · rintro ⟨rows', last', carry, lines, outcome, shows⟩
    rcases List.append_inj' lines rfl with ⟨rfl, sameLast⟩
    cases sameLast
    exact ⟨carry, outcome, shows⟩
  · rintro ⟨carry, outcome, shows⟩
    exact ⟨rows, last, carry, rfl, outcome, shows⟩

/-- Looks for the line break at the end of a text and for what it shows there. -/
def finalBreakShows (lines : List PhysicalLine) : Bool :=
  match lines.getLast? with
  | some ⟨last, true⟩ =>
    match (scanRows 0 .initial (if last = [] then lines.dropLast else lines)).2 with
    | .ok carry => decide (carry.InShortString ∨ (last = [] ∧ carry.ShowsEmptyRow))
    | .error _ => false
  | _ => false

theorem finalBreakShows_eq_true_iff (lines : List PhysicalLine) :
    finalBreakShows lines = true ↔ FinalBreakShows lines := by
  -- Only a last row that is terminated has a line break to show.
  rcases List.eq_nil_or_concat lines with rfl | ⟨rows, ⟨last, terminated⟩, rfl⟩
  · refine iff_of_false (by decide) ?_
    rintro ⟨rows, last, carry, lines, -, -⟩
    simp at lines
  · rw [List.concat_eq_append]
    cases terminated with
    | true =>
        rw [finalBreakShows_concat_iff, finalBreakShows, List.getLast?_concat,
          List.dropLast_concat]
        cases outcome : (scanRows 0 .initial
          (if last = [] then rows else rows ++ [⟨last, true⟩])).2 <;> simp [outcome]
    | false =>
        refine iff_of_false ?_ ?_
        · rw [finalBreakShows, List.getLast?_concat]
          exact Bool.false_ne_true
        · rintro ⟨rows', last', carry, lines, -, -⟩
          have unterminated := (List.append_inj' lines rfl).2
          cases unterminated

instance (lines : List PhysicalLine) : Decidable (FinalBreakShows lines) :=
  decidable_of_iff _ (finalBreakShows_eq_true_iff lines)

/-! ## The tokens of a text row by row -/

/-- The tokens behind the last row, if the text may end there. -/
def Carry.closing (carry : Carry) (rows : Nat) : List Token :=
  if carry.mode = .fresh ∧ carry.depth = 0 then closingTokens rows carry.blocks else []

theorem not_marks_of_mem_closing {carry : Carry} {rows : Nat} {t : Token}
    (ht : t ∈ carry.closing rows) : t.marks = false := by
  rw [Carry.closing] at ht
  split at ht
  · rcases eq_or_eq_of_mem_closingTokens ht with rfl | rfl
    · rfl
    · rfl
  · cases ht

theorem tokens_tokenizeLines_of_ok {lines : List PhysicalLine} {tokens : List Token}
    {carry : Carry} (h : scanRows 0 .initial lines = (tokens, .ok carry)) :
    (tokenizeLines lines).tokens = tokens ++ carry.closing lines.length := by
  rcases carry with ⟨blocks, depth, mode⟩
  by_cases closed : mode = .fresh ∧ depth = 0
  · rcases closed with ⟨rfl, rfl⟩
    rw [tokenizeLines_of_complete h]
    rfl
  · cases ends : Carry.failure? ⟨blocks, depth, mode⟩ lines.length with
    | none => exact absurd (Carry.failure?_eq_none_iff.1 ends) closed
    | some failure =>
        rw [tokenizeLines_of_failure h ends, Carry.closing, if_neg closed, List.append_nil]

variable {rows : List PhysicalLine} {last : List Char} {tokens : List Token} {carry : Carry}

/-- Without its line break, the last row shows the same unless it ends inside a short string. -/
theorem alike_unterminated
    (long : ∀ carry, (scanRows 0 .initial (rows ++ [⟨last, true⟩])).2 = .ok carry →
      ¬ carry.InShortString) :
    Alike (tokenizeLines (rows ++ [⟨last, true⟩])).tokens
      (tokenizeLines (rows ++ [⟨last, false⟩])).tokens := by
  -- A failure in front hides the last row, and in the last row it does not ask for its end.
  cases front : scanRows 0 .initial rows with
  | mk tokens outcome =>
      cases outcome with
      | error failure =>
          rw [tokenizeLines_of_error (scanRows_append_of_error front _),
            tokenizeLines_of_error (scanRows_append_of_error front _)]
          exact Alike.refl tokens
      | ok carry =>
          cases scanned : scanRow (0 + rows.length) ⟨last, true⟩ carry with
          | error failure =>
              have fails := scanRow_unterminated_eq_error scanned
              rw [tokenizeLines_of_error (scanRows_concat_of_error front scanned),
                tokenizeLines_of_error (scanRows_concat_of_error front fails)]
              exact Alike.refl tokens
          | ok result =>
              rcases result with ⟨more, next⟩
              have whole := scanRows_concat_of_ok front (Steps.of_scanRow scanned)
              rcases (Steps.of_scanRow scanned).unterminated (long next (by rw [whole])) with
                ⟨other, without, alike⟩
              rw [tokens_tokenizeLines_of_ok whole,
                tokens_tokenizeLines_of_ok (scanRows_concat_of_ok front without),
                List.length_append, List.length_append]
              exact ((Alike.refl tokens).append alike).append (Alike.refl _)

/-- Outside strings, an empty row is no more than its line break. -/
theorem Steps.emptyRow {depth : Nat} {mode : RowMode}
    (inside : mode = .continued ∨ (mode = .fresh ∧ depth ≠ 0)) (row : Nat) (blocks : OpenBlocks) :
    Steps row ⟨[], true⟩ ⟨blocks, depth, mode⟩ (lineEnd row 0 true depth)
      ⟨blocks, depth, .fresh⟩ := by
  have steps : Steps row ⟨[], true⟩ ⟨blocks, depth, mode⟩ _ _ := Steps.goesOn inside Scans.done
  exact steps

/-- An empty row where a statement may begin leaves the blocks alone. -/
theorem Steps.emptyRow_of_fresh (row : Nat) (blocks : OpenBlocks) :
    Steps row ⟨[], true⟩ ⟨blocks, 0, .fresh⟩ [lineEndToken .nonLogicalNewline row 0 true]
      ⟨blocks, 0, .fresh⟩ :=
  Steps.blankRow (Or.inl rfl)

theorem closing_of_inBrackets {blocks : OpenBlocks} {depth : Nat} (h : depth ≠ 0)
    (mode : RowMode) (rows : Nat) : Carry.closing ⟨blocks, depth, mode⟩ rows = [] :=
  if_neg fun closed => h closed.2

/-- Between brackets, an empty last row does not show. -/
theorem alike_emptyRow_inBrackets {blocks : OpenBlocks} {depth : Nat} {mode : RowMode}
    (front : scanRows 0 .initial rows = (tokens, .ok ⟨blocks, depth, mode⟩))
    (inside : mode = .continued ∨ mode = .fresh) (inBrackets : depth ≠ 0) :
    Alike (tokenizeLines (rows ++ [⟨[], true⟩])).tokens (tokenizeLines rows).tokens := by
  have step := Steps.emptyRow (inside.imp_right fun isFresh => ⟨isFresh, inBrackets⟩)
    (0 + rows.length) blocks
  have lineBreak : Alike (lineEnd (0 + rows.length) 0 true depth) [] := by
    cases depth with
    | zero => exact absurd rfl inBrackets
    | succ depth => exact ⟨rfl, rfl, rfl⟩
  rw [tokens_tokenizeLines_of_ok (scanRows_concat_of_ok front step),
    tokens_tokenizeLines_of_ok front, closing_of_inBrackets inBrackets,
    closing_of_inBrackets inBrackets, List.append_nil]
  exact (Alike.refl tokens).append lineBreak

/-- In a string that is quoted three times, an empty last row does not show. -/
theorem alike_emptyRow_inString {blocks : OpenBlocks} {depth : Nat} {s : OpenString}
    (front : scanRows 0 .initial rows = (tokens, .ok ⟨blocks, depth, .inString s⟩))
    (triple : s.triple = true) :
    Alike (tokenizeLines (rows ++ [⟨[], true⟩])).tokens (tokenizeLines rows).tokens := by
  have goesOn : OpenString.goesOn s.triple false true = true := by
    rw [triple]
    rfl
  have step : Steps (0 + rows.length) ⟨[], true⟩ ⟨blocks, depth, .inString s⟩ [] _ :=
    Steps.stringGoesOn rfl goesOn
  rw [tokens_tokenizeLines_of_ok (scanRows_concat_of_ok front step),
    tokens_tokenizeLines_of_ok front, List.append_nil]
  exact Alike.refl _

/-- Behind a complete statement that is in no block, an empty last row does not show. -/
theorem alike_emptyRow_outside
    (front : scanRows 0 .initial rows = (tokens, .ok ⟨[], 0, .fresh⟩)) :
    Alike (tokenizeLines (rows ++ [⟨[], true⟩])).tokens (tokenizeLines rows).tokens := by
  have step := Steps.emptyRow_of_fresh (0 + rows.length) []
  rw [tokens_tokenizeLines_of_ok (scanRows_concat_of_ok front step),
    tokens_tokenizeLines_of_ok front, List.append_assoc]
  exact (Alike.refl tokens).append ⟨rfl, rfl, rfl⟩

/-- Without an empty last row, a text shows the same unless the row ends a short string or a
statement or belongs to a block. -/
theorem alike_emptyRow
    (hidden : ∀ carry, (scanRows 0 .initial rows).2 = .ok carry →
      ¬ carry.InShortString ∧ ¬ carry.ShowsEmptyRow) :
    Alike (tokenizeLines (rows ++ [⟨[], true⟩])).tokens (tokenizeLines rows).tokens := by
  cases front : scanRows 0 .initial rows with
  | mk tokens outcome =>
      cases outcome with
      | error failure =>
          rw [tokenizeLines_of_error (scanRows_append_of_error front _),
            tokenizeLines_of_error front]
          exact Alike.refl tokens
      | ok carry =>
          rcases hidden carry (by rw [front]) with ⟨long, noStatement⟩
          rcases carry with ⟨blocks, depth, mode⟩
          -- What the empty row does depends on the state in front of it.
          cases mode with
          | inString s =>
              exact alike_emptyRow_inString front (Carry.triple_of_not_inShortString long rfl)
          | continued =>
              have inBrackets : depth ≠ 0 := fun closed => noStatement ⟨closed, Or.inl rfl⟩
              exact alike_emptyRow_inBrackets front (Or.inl rfl) inBrackets
          | fresh =>
              by_cases closed : depth = 0
              · have noBlock : blocks = [] := by
                  by_cases noBlock : blocks = []
                  · exact noBlock
                  · exact absurd ⟨closed, Or.inr ⟨rfl, noBlock⟩⟩ noStatement
                subst closed noBlock
                exact alike_emptyRow_outside front
              · exact alike_emptyRow_inBrackets front (Or.inr rfl) closed

/-! ## Where the line break shows -/

/-- A place in a row of a text is a place in the row's text. -/
theorem exists_text_of_lt_rowText {lines : List PhysicalLine} {row column : Nat}
    (h : column < (rowText lines row).length) :
    ∃ text, (rowTexts lines)[row]? = some text ∧ column < text.length := by
  cases found : lines[row]? with
  | none =>
      rw [rowText, found] at h
      cases h
  | some line =>
      rw [rowText_of_getElem? found] at h
      refine ⟨String.ofList line.content, ?_, ?_⟩
      · rw [rowTexts, List.getElem?_map, found]
        rfl
      · rwa [String.length_ofList]

/-- An error that takes all of a string colours the place where the string starts, and no token in
front of the string does. -/
theorem classifiedRows_ne_of_breaksOff {first more : List Token} {s : OpenString}
    {stop : Position} {e : Token} {texts : List String} {text : String} (keywords : KeywordSet)
    (before : ∀ t ∈ first, t.stop ≤ s.start) (quoted : s.IsQuoted) (breaksOff : BreaksOff s stop e)
    (extent : s.start.line < stop.line ∨
      (s.start.line = stop.line ∧ s.start.column < stop.column))
    (silent : ∀ t ∈ more, t.marks = false) (htext : texts[s.start.line]? = some text)
    (inside : s.start.column < text.length) :
    classifiedRows keywords first texts ≠ classifiedRows keywords (first ++ e :: more) texts := by
  intro same
  -- Only the error has a word where the string starts: what is in front stops there, and what is
  -- behind marks nothing.
  have uncoloured : colourIn? keywords first s.start.line s.start.column = none := by
    apply colourIn?_eq_none
    intro t ht
    simp [Token.colourAt?, Token.covers_of_stop_le (before t ht)]
  have behind : colourIn? keywords more s.start.line s.start.column = none := by
    apply colourIn?_eq_none
    intro t ht
    exact Token.colourAt?_of_not_marks (silent t ht)
  have covered : e.covers s.start.line s.start.column = true := by
    rw [← breaksOff.start]
    rw [← breaksOff.start, ← breaksOff.stop] at extent
    exact Token.covers_start extent
  have coloured : e.colourAt? keywords s.start.line s.start.column =
      some (CharClass.ofCategory .literal) := by
    simp [Token.colourAt?, covered, Token.colour?, breaksOff.kind,
      isBrokenString_of_isQuoted quoted breaksOff.text]
  have rows := congrArg (fun table : List Row => (table[s.start.line]?).map Row.classes) same
  simp only [getElem?_classifiedRows, htext, Option.map_some, rowOf, classifiedRow,
    paintedRow_eq_map, Option.some.injEq] at rows
  have classes := congrArg (fun classes : List CharClass => classes[s.start.column]?) rows
  simp only [List.getElem?_map, List.getElem?_range inside, Option.map_some,
    colourIn?_append, colourIn?_cons, uncoloured, behind, coloured, Option.none_or,
    Option.some_or, Option.getD_none, Option.getD_some, Option.some.injEq] at classes
  exact absurd classes (by decide)

/-- The string that is open behind rows: the tokens stop before it, it begins as strings do, and
it starts in one of the rows. -/
theorem openString_of_scanRows {lines : List PhysicalLine} {s : OpenString}
    (h : scanRows 0 .initial lines = (tokens, .ok carry)) (inString : carry.mode = .inString s) :
    (∀ t ∈ tokens, t.stop ≤ s.start) ∧ s.IsQuoted ∧ s.ReachesTo lines lines.length := by
  have quoted : Carry.initial.IsQuoted := fun s inString => by cases inString
  rcases tiles_of_scanRows h with ⟨tiled, reaches⟩
  have front : carry.front lines.length = s.start := by
    rw [Carry.front, inString]
  rw [front] at tiled
  refine ⟨fun t ht => (tiled.between ht).2.2, ?_, reaches s inString⟩
  exact scanRows_preserves (fun _ _ _ _ _ step => step.isQuoted) h quoted s inString

theorem closing_of_inString {s : OpenString} (h : carry.mode = .inString s) (rows : Nat) :
    carry.closing rows = [] := by
  refine if_neg fun closed => ?_
  rw [h] at closed
  cases closed.1

/-- The line break shows that lets a short string go on from the last row. -/
theorem classifiedRows_ne_of_inShortString (keywords : KeywordSet)
    (h : scanRows 0 .initial (rows ++ [⟨last, true⟩]) = (tokens, .ok carry))
    (short : carry.InShortString) :
    classifiedRows keywords (tokenizeLines (rows ++ [⟨last, true⟩])).tokens
        (rowTexts (rows ++ [⟨last, true⟩])) ≠
      classifiedRows keywords (tokenizeLines (rows ++ [⟨last, false⟩])).tokens
        (rowTexts (rows ++ [⟨last, true⟩])) := by
  rcases short with ⟨s, inString, once⟩
  rcases openString_of_scanRows h inString with ⟨before, quoted, reaches⟩
  rcases exists_text_of_lt_rowText reaches.inside with ⟨text, htext, inside⟩
  rcases exists_of_scanRows_concat h with ⟨first, middle, more, front, step, rfl⟩
  rcases step.unterminated_of_inString inString once with
    ⟨e, behind, next, without, breaksOff, silent⟩
  rw [tokens_tokenizeLines_of_ok h, closing_of_inString inString, List.append_nil,
    tokens_tokenizeLines_of_ok (scanRows_concat_of_ok front without), ← List.append_assoc,
    List.append_assoc (first ++ more), List.cons_append]
  refine classifiedRows_ne_of_breaksOff keywords before quoted breaksOff ?_ ?_ htext inside
  · -- A string of the last row starts in front of the row's end.
    have inRows := reaches.before
    rw [List.length_append, List.length_singleton] at inRows
    rcases Nat.lt_or_eq_of_le (Nat.le_of_lt_succ inRows) with earlier | here
    · left
      rwa [Nat.zero_add]
    · right
      rw [Nat.zero_add]
      refine ⟨here, ?_⟩
      have column := reaches.inside
      rw [here, rowText_of_getElem? List.getElem?_concat_length] at column
      exact column
  · intro t ht
    rcases List.mem_append.1 ht with inRow | atEnd
    · exact silent t inRow
    · exact not_marks_of_mem_closing atEnd

/-- An empty last row shows in which a short string has to end. -/
theorem classifiedRows_emptyRow_ne_of_inShortString (keywords : KeywordSet)
    (h : scanRows 0 .initial rows = (tokens, .ok carry)) (short : carry.InShortString) :
    classifiedRows keywords (tokenizeLines (rows ++ [⟨[], true⟩])).tokens
        (rowTexts (rows ++ [⟨[], true⟩])) ≠
      classifiedRows keywords (tokenizeLines rows).tokens (rowTexts (rows ++ [⟨[], true⟩])) := by
  rcases short with ⟨s, inString, once⟩
  rcases openString_of_scanRows h inString with ⟨before, quoted, reaches⟩
  rcases exists_text_of_lt_rowText reaches.inside with ⟨text, htext, inside⟩
  rcases carry with ⟨blocks, depth, mode⟩
  cases inString
  have stays : OpenString.goesOn s.triple false true = false := by
    rw [once]
    rfl
  have step : Steps (0 + rows.length) ⟨[], true⟩ ⟨blocks, depth, .inString s⟩ _ _ :=
    Steps.stringBreaks rfl stays
  rw [tokens_tokenizeLines_of_ok h, closing_of_inString rfl, List.append_nil,
    tokens_tokenizeLines_of_ok (scanRows_concat_of_ok h step), List.append_assoc,
    List.singleton_append]
  refine (classifiedRows_ne_of_breaksOff keywords before quoted ⟨rfl, rfl, rfl, Or.inl ?_⟩ ?_
    (fun t => not_marks_of_mem_closing) ?_ inside).symm
  · rw [String.toList_ofList, List.append_nil]
  · left
    rw [Nat.zero_add]
    exact reaches.before
  · have inRows : s.start.line < (rowTexts rows).length := by
      rw [length_rowTexts]
      exact reaches.before
    rw [rowTexts, List.map_append, ← rowTexts, List.getElem?_append_left inRows]
    exact htext

theorem countLogicalLines_closing (carry : Carry) (rows : Nat) :
    countLogicalLines (carry.closing rows) = 0 := by
  apply List.countP_eq_zero.2
  intro t ht isNewline
  rw [Carry.closing] at ht
  split at ht
  · rcases eq_or_eq_of_mem_closingTokens ht with rfl | rfl
    · cases isNewline
    · cases isNewline
  · cases ht

/-- An empty last row shows that ends a statement. -/
theorem countLogicalLines_emptyRow_of_continued {blocks : OpenBlocks}
    (h : scanRows 0 .initial rows = (tokens, .ok ⟨blocks, 0, .continued⟩)) :
    countLogicalLines (tokenizeLines (rows ++ [⟨[], true⟩])).tokens =
      countLogicalLines (tokenizeLines rows).tokens + 1 := by
  have step : Steps (0 + rows.length) ⟨[], true⟩ ⟨blocks, 0, .continued⟩ _ _ :=
    Steps.emptyRow (Or.inl rfl) _ _
  have behind := countLogicalLines_closing ⟨blocks, 0, .fresh⟩
    (rows ++ [(⟨[], true⟩ : PhysicalLine)]).length
  have front := countLogicalLines_closing ⟨blocks, 0, .continued⟩ rows.length
  rw [tokens_tokenizeLines_of_ok (scanRows_concat_of_ok h step), tokens_tokenizeLines_of_ok h]
  rw [countLogicalLines] at behind front ⊢
  rw [List.countP_append, List.countP_append, behind, countLogicalLines, List.countP_append, front]
  rfl

theorem start_line_of_mem_closingTokens {rows : Nat} {blocks : OpenBlocks} {t : Token}
    (ht : t ∈ closingTokens rows blocks) : t.start.line = rows := by
  rcases eq_or_eq_of_mem_closingTokens ht with rfl | rfl
  · rfl
  · rfl

section

variable {blocks : OpenBlocks}
  (h : scanRows 0 .initial rows = (tokens, .ok ⟨blocks, 0, .fresh⟩))

include h

theorem start_line_le_of_scanRows : ∀ t ∈ tokens, t.start.line ≤ rows.length := by
  intro t ht
  have scanned : t ∈ (scanRows 0 .initial rows).1 := by rwa [h]
  exact Nat.le_of_lt (line_lt_of_mem_scanRows scanned).1

/-- Behind the last row all blocks are closed. -/
theorem enterDepth_behind_lastRow :
    enterDepth (depthChanges 0 (tokenizeLines rows).tokens) rows.length = 0 := by
  have ordered := pairwise_start_line rows
  rw [tokens_tokenizeLines_of_ok h] at ordered ⊢
  have upTo : ∀ t ∈ tokens ++ Carry.closing ⟨blocks, 0, .fresh⟩ rows.length,
      t.start.line ≤ rows.length := by
    intro t ht
    rcases List.mem_append.1 ht with inFront | behind
    · exact start_line_le_of_scanRows h t inFront
    · exact Nat.le_of_eq (start_line_of_mem_closingTokens behind)
  calc
    enterDepth (depthChanges 0 (tokens ++ Carry.closing ⟨blocks, 0, .fresh⟩ rows.length))
        rows.length
        = blockDepth 0 (tokens ++ Carry.closing ⟨blocks, 0, .fresh⟩ rows.length) := by
          rw [← List.append_nil (tokens ++ _)] at ordered ⊢
          rw [enterDepth_depthChanges_append ordered upTo (fun t ht => by cases ht),
            List.append_nil]
    _ = blockDepth blocks.length (closingTokens rows.length blocks) := by
          rw [blockDepth_append, show blockDepth 0 tokens = blocks.length from
            blockDepth_of_scanRows h]
          rfl
    _ = 0 := (nests_closingTokens rows.length blocks).blockDepth_eq

/-- An empty last row is in the blocks of the rows in front of it. -/
theorem enterDepth_emptyRow :
    enterDepth (depthChanges 0 (tokenizeLines (rows ++ [⟨[], true⟩])).tokens) rows.length =
      blocks.length := by
  have scanned := scanRows_concat_of_ok h (Steps.emptyRow_of_fresh (0 + rows.length) blocks)
  have ordered := pairwise_start_line (rows ++ [⟨[], true⟩])
  rw [tokenizeLines_of_complete scanned] at ordered ⊢
  have upTo : ∀ t ∈ tokens ++ [lineEndToken .nonLogicalNewline (0 + rows.length) 0 true],
      t.start.line ≤ rows.length := by
    intro t ht
    rcases List.mem_append.1 ht with inFront | here
    · exact start_line_le_of_scanRows h t inFront
    · rcases List.mem_singleton.1 here with rfl
      exact Nat.le_of_eq (Nat.zero_add _)
  have below : ∀ t ∈ closingTokens (rows ++ [(⟨[], true⟩ : PhysicalLine)]).length blocks,
      rows.length < t.start.line := by
    intro t ht
    rw [start_line_of_mem_closingTokens ht, List.length_append, List.length_singleton]
    exact Nat.lt_succ_self _
  calc
    enterDepth (depthChanges 0 (_ ++ closingTokens _ blocks)) rows.length
        = blockDepth 0 (tokens ++ [lineEndToken .nonLogicalNewline (0 + rows.length) 0 true]) :=
          enterDepth_depthChanges_append ordered upTo below
    _ = blockDepth (blockDepth 0 tokens) [lineEndToken .nonLogicalNewline _ 0 true] :=
          blockDepth_append _ _ _
    _ = blocks.length := blockDepth_of_scanRows h

end

/-- An empty last row shows that belongs to a block: with the row, the blocks close behind it, and
without it they close in its place. -/
theorem classifiedRows_emptyRow_ne_of_blocks (keywords : KeywordSet) {blocks : OpenBlocks}
    (h : scanRows 0 .initial rows = (tokens, .ok ⟨blocks, 0, .fresh⟩)) (inBlock : blocks ≠ []) :
    classifiedRows keywords (tokenizeLines (rows ++ [⟨[], true⟩])).tokens
        (rowTexts (rows ++ [⟨[], true⟩])) ≠
      classifiedRows keywords (tokenizeLines rows).tokens (rowTexts (rows ++ [⟨[], true⟩])) := by
  intro same
  have htext : (rowTexts (rows ++ [⟨[], true⟩]))[rows.length]? = some "" := by
    rw [rowTexts, List.getElem?_map, List.getElem?_concat_length]
    rfl
  -- The two tables differ in the rank of the empty row.
  have ranks := congrArg
    (fun table : List Row => (table[rows.length]?).map fun row => row.rank.enter) same
  simp only [getElem?_classifiedRows, htext, Option.map_some, rowOf, classifiedRow, rankOf,
    enterDepth_emptyRow h, enterDepth_behind_lastRow h, Option.some.injEq] at ranks
  exact inBlock (List.length_eq_zero_iff.1 ranks)

/-! ## The table without the line break -/

/-- A line break that does not show can be dropped. -/
theorem alike_withoutBreak (hidden : ¬ FinalBreakShows (rows ++ [⟨last, true⟩])) :
    Alike (tokenizeLines (rows ++ [⟨last, true⟩])).tokens
      (tokenizeLines (rows ++ PhysicalLine.remainder last)).tokens := by
  cases last with
  | nil =>
      rw [PhysicalLine.remainder, List.append_nil]
      apply alike_emptyRow
      intro carry outcome
      constructor
      · intro short
        exact hidden ⟨rows, [], carry, rfl, outcome, Or.inl short⟩
      · intro emptyRow
        exact hidden ⟨rows, [], carry, rfl, outcome, Or.inr ⟨rfl, emptyRow⟩⟩
  | cons c cs =>
      apply alike_unterminated
      intro carry outcome short
      exact hidden ⟨rows, c :: cs, carry, rfl, outcome, Or.inl short⟩

/-- A line break that shows makes a difference to the table or to the number of logical lines. -/
theorem withoutBreak_ne_of_finalBreakShows (keywords : KeywordSet)
    (isShown : FinalBreakShows (rows ++ [⟨last, true⟩]))
    (table : classifiedRows keywords (tokenizeLines (rows ++ PhysicalLine.remainder last)).tokens
        (rowTexts (rows ++ [⟨last, true⟩])) =
      classifiedRows keywords (tokenizeLines (rows ++ [⟨last, true⟩])).tokens
        (rowTexts (rows ++ [⟨last, true⟩]))) :
    countLogicalLines (tokenizeLines (rows ++ PhysicalLine.remainder last)).tokens ≠
      countLogicalLines (tokenizeLines (rows ++ [⟨last, true⟩])).tokens := by
  intro count
  rcases finalBreakShows_concat_iff.1 isShown with ⟨carry, outcome, shows⟩
  cases last with
  | nil =>
      have scanned : scanRows 0 .initial rows = (_, .ok carry) := Prod.ext rfl outcome
      rw [PhysicalLine.remainder, List.append_nil] at table count
      -- Each way in which the break shows makes a difference of its own.
      rcases shows with short | ⟨-, closed, continued | ⟨fresh, inBlock⟩⟩
      · exact classifiedRows_emptyRow_ne_of_inShortString keywords scanned short table.symm
      · rcases carry with ⟨blocks, depth, mode⟩
        cases closed
        cases continued
        rw [countLogicalLines_emptyRow_of_continued scanned] at count
        exact Nat.succ_ne_self _ count.symm
      · rcases carry with ⟨blocks, depth, mode⟩
        cases closed
        cases fresh
        exact classifiedRows_emptyRow_ne_of_blocks keywords scanned inBlock table.symm
  | cons c cs =>
      have scanned : scanRows 0 .initial (rows ++ [⟨c :: cs, true⟩]) = (_, .ok carry) :=
        Prod.ext rfl outcome
      rcases shows with short | ⟨empty, -⟩
      · exact classifiedRows_ne_of_inShortString keywords scanned short table.symm
      · cases empty

/-- Dropping the line break of the last row leaves the table of a text as it is exactly when the
break does not show. -/
theorem classifiedRows_withoutBreak_iff (keywords : KeywordSet) (rows : List PhysicalLine)
    (last : List Char) :
    (classifiedRows keywords (tokenizeLines (rows ++ PhysicalLine.remainder last)).tokens
          (rowTexts (rows ++ [⟨last, true⟩])) =
        classifiedRows keywords (tokenizeLines (rows ++ [⟨last, true⟩])).tokens
          (rowTexts (rows ++ [⟨last, true⟩])) ∧
      countLogicalLines (tokenizeLines (rows ++ PhysicalLine.remainder last)).tokens =
        countLogicalLines (tokenizeLines (rows ++ [⟨last, true⟩])).tokens) ↔
      ¬ FinalBreakShows (rows ++ [⟨last, true⟩]) := by
  constructor
  · rintro ⟨table, count⟩ isShown
    exact withoutBreak_ne_of_finalBreakShows keywords isShown table count
  · intro hidden
    have alike := alike_withoutBreak hidden
    exact ⟨(alike.classifiedRows_eq keywords _).symm, alike.logicalLines.symm⟩

/-! ## Edits that are taken back -/

/-- The table of line texts under the tokens of a text given by its physical lines. -/
theorem classify_tokenizer {c : Classifier} (h : c.tokenizer = tokenizer) (texts : List String)
    (text : String) :
    (c.classify texts text).rows =
        classifiedRows keywords (tokenizeLines (physicalLines text.toList)).tokens texts ∧
      (c.classify texts text).logicalLines =
        countLogicalLines (tokenizeLines (physicalLines text.toList)).tokens := by
  rcases c with ⟨tokenizer', rows, logicalLines⟩
  cases h
  exact ⟨rfl, rfl⟩

/-- An edit that is taken back restores the texts of the lines, and it restores the table and the
number of logical lines exactly when the line break at the end of the text does not show. -/
theorem replaceLine_replaceLine_load_iff (text : String) (plain : '\r' ∉ text.toList) (i : Nat)
    (t o : String) (original : ((Classifier.new tokenizer).load text).lineText? i = some o) :
    let loaded := (Classifier.new tokenizer).load text
    let restored := ((loaded.replaceLine i t).2.replaceLine i o).2
    restored.lineTexts = loaded.lineTexts ∧
      ((restored.rows = loaded.rows ∧ restored.logicalLines = loaded.logicalLines) ↔
        ¬ FinalBreakShows (physicalLines text.toList)) := by
  have back := Classifier.replaceLine_replaceLine _ original t
  have joined := Classifier.toList_text_load (Classifier.new tokenizer) text
  rw [joinLines_map_content plain] at joined
  have ofLoaded := classify_tokenizer (c := Classifier.new tokenizer) rfl
    (rowTexts (physicalLines text.toList)) text
  have ofRestored := classify_tokenizer (c := (Classifier.new tokenizer).load text) rfl
    (rowTexts (physicalLines text.toList)) ((Classifier.new tokenizer).load text).text
  rw [Classifier.lineTexts_load] at back
  intro loaded restored
  have isRestored : restored = _ := back
  have isLoaded : loaded = (Classifier.new tokenizer).classify
    (rowTexts (physicalLines text.toList)) text := rfl
  rw [isRestored, Classifier.lineTexts_classify, ofRestored.1, ofRestored.2, joined]
  refine ⟨(Classifier.lineTexts_load _ _).symm, ?_⟩
  rw [isLoaded, ofLoaded.1, ofLoaded.2]
  -- What is left to compare are the tokens of the text and of its lines joined.
  by_cases ends : text.toList.getLast? = some '\n'
  · rcases exists_concat_of_getLast? ends with ⟨rows, last, lines, terminated⟩
    rw [if_pos ends, physicalLines_dropLast plain ends lines terminated, lines]
    exact classifiedRows_withoutBreak_iff keywords rows last
  · -- A text without a line break at its end is its lines joined.
    rw [if_neg ends]
    refine iff_of_true ⟨rfl, rfl⟩ ?_
    rintro ⟨rows, last, carry, lines, -, -⟩
    exact ends (getLast?_of_terminated lines)

/-- An edit that opens a string is taken back in a text whose last line break does not show. -/
theorem replaceLine_replaceLine_load_block :
    let text := "if x:\n  'a\\\nb'\n"
    let loaded := (Classifier.new tokenizer).load text
    let restored := ((loaded.replaceLine 0 "\"\"\"").2.replaceLine 0 "if x:").2
    ('\r' ∉ text.toList ∧ loaded.lineText? 0 = some "if x:") ∧
      restored.lineTexts = loaded.lineTexts ∧ restored.rows = loaded.rows ∧
      restored.logicalLines = loaded.logicalLines := by
  intro text loaded restored
  have plain : '\r' ∉ text.toList := by decide +kernel
  have original : loaded.lineText? 0 = some "if x:" := by decide +kernel
  have hidden : ¬ FinalBreakShows (physicalLines text.toList) := by decide +kernel
  have taken := replaceLine_replaceLine_load_iff text plain 0 "\"\"\"" "if x:" original
  exact ⟨⟨plain, original⟩, taken.1, taken.2.2 hidden⟩

/-- An edit that is taken back takes the empty row at the end of a text out of its block. -/
theorem lineRanks_replaceLine_replaceLine_load :
    let text := "if x:\n  a\n\n"
    let loaded := (Classifier.new tokenizer).load text
    let restored := ((loaded.replaceLine 1 "  b").2.replaceLine 1 "  a").2
    '\r' ∉ text.toList ∧ '\n' ∉ "  b".toList ∧ '\r' ∉ "  b".toList ∧
      loaded.lineText? 1 = some "  a" ∧ loaded.lineRanks = [⟨0, 1⟩, ⟨1, 1⟩, ⟨1, 0⟩] ∧
      restored.lineRanks = [⟨0, 1⟩, ⟨1, 0⟩, ⟨0, 0⟩] := by
  decide +kernel

end Python
end EditorAnalysis
