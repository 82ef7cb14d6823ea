import EditorAnalysis.Proofs.Python.OpenColumns

/-!
# The offside rule

A row that begins a statement stands in the innermost of the blocks that it leaves open. As long as
no row goes further out, the blocks of an earlier row stay where they are, below those that were
opened since: so rows of the same depth begin at the same column, and a deeper row begins further
right.
-/

namespace EditorAnalysis
namespace Python

open Text

/-! ## Blocks along the rows -/

namespace OpenBlocks

variable {blocks left : OpenBlocks} {column : Nat} {change : IndentChange}

theorem innermost_of_moveTo? (moved : blocks.moveTo? column = some (change, left)) :
    innermost left = column := by
  rcases moveTo?_eq_some_iff.1 moved with ⟨-, -, rfl⟩ | ⟨here, -, rfl⟩ | ⟨-, at_, -⟩
  · rfl
  · exact here.symm
  · exact at_

/-- Of blocks that lie one inside the other, an inner one begins further right. -/
theorem Nested.innermost_lt (h : Nested left) (outer : blocks <:+ left)
    (shorter : blocks.length < left.length) : innermost blocks < innermost left := by
  cases left with
  | nil => cases shorter
  | cons block rest =>
      have outside : blocks <:+ rest := by
        rcases List.suffix_cons_iff.1 outer with rfl | outside
        · exact absurd shorter (Nat.lt_irrefl _)
        · exact outside
      refine (List.pairwise_cons.1 h).1 _ ?_
      cases blocks with
      | nil => exact List.mem_append_right rest (List.mem_singleton.2 rfl)
      | cons other more =>
          exact List.mem_append_left [0] (outside.subset List.mem_cons_self)

end OpenBlocks

variable {row : Nat} {line : PhysicalLine} {carry next : Carry} {tokens : List Token}

/-- Blocks that are open in front of a row stay open when the row leaves as many. -/
theorem Steps.suffix (h : Steps row line carry tokens next) {blocks : OpenBlocks}
    (outer : blocks <:+ carry.blocks) (stay : blocks.length ≤ next.blocks.length) :
    blocks <:+ next.blocks := by
  rcases h.exists_indentation with ⟨change, rest, -, -, ⟨-, moved⟩ | ⟨-, -, same⟩⟩
  · rcases OpenBlocks.moveTo?_eq_some_iff.1 moved with
      ⟨-, -, opened⟩ | ⟨-, -, same⟩ | ⟨-, -, -, closed⟩
    · rw [opened]
      exact outer.trans (List.suffix_cons _ _)
    · rw [same]
      exact outer
    · -- Both are what is left of the same blocks, so the shorter ends the longer.
      have left : next.blocks <:+ carry.blocks := closed ▸ List.dropWhile_suffix _
      exact List.suffix_of_suffix_length_le outer left stay
  · rw [same]
    exact outer

/-! ## Rows that begin a statement -/

/-- Whether a statement begins in a row: the row holds text and is scanned, outside strings,
brackets and continuations. -/
structure BeginsStatement (lines : List PhysicalLine) (row : Nat) (line : PhysicalLine) : Prop where
  isRow : lines[row]? = some line
  notBlank : ¬ IsBlankRow line
  outside : StandsOutside lines row
  scanned : IsScanned lines row

variable {lines : List PhysicalLine}

/-- A row that begins a statement leaves itself innermost. -/
theorem BeginsStatement.innermost (h : BeginsStatement lines row line)
    (after : Enters lines (row + 1) next) :
    OpenBlocks.innermost next.blocks = rowColumn line := by
  rcases h.outside with ⟨blocks, above⟩
  rcases after.exists_steps h.isRow with ⟨carry, tokens, entered, step, -⟩
  cases entered.unique above
  rcases step.exists_indentation with ⟨change, rest, -, -, ⟨-, moved⟩ | ⟨other, -⟩⟩
  · exact OpenBlocks.innermost_of_moveTo? moved
  · exact absurd ⟨rfl, rfl, h.notBlank⟩ other

theorem nested_of_enters (h : Enters lines row carry) : carry.blocks.Nested :=
  nested_of_scanRows h.eq_scanRows OpenBlocks.nested_nil

/-- The blocks that a row leaves stay open as long as no statement goes further out. -/
theorem suffix_of_enters {upper lower : Nat} {first last : Carry} (le : upper ≤ lower)
    (before : Enters lines upper first) (after : Enters lines lower last)
    (inside : lower ≤ lines.length)
    (deep : ∀ row line next, upper ≤ row → row < lower → BeginsStatement lines row line →
      Enters lines (row + 1) next → first.blocks.length ≤ next.blocks.length) :
    first.blocks <:+ last.blocks := by
  -- The induction is on the lower row: no row between the two closes one of the blocks.
  induction lower, le using Nat.le_induction generalizing last with
  | base =>
      cases before.unique after
      exact List.suffix_refl _
  | succ lower le ih =>
      have isRow : lines[lower]? = some lines[lower] := List.getElem?_eq_getElem inside
      rcases after.exists_steps isRow with ⟨carry, tokens, above, step, -⟩
      have outer : first.blocks <:+ carry.blocks := by
        refine ih above (Nat.le_of_succ_le inside) ?_
        intro row line next low high
        exact deep row line next low (Nat.lt_succ_of_lt high)
      -- A row in which no statement begins leaves all blocks as they are.
      rcases step.exists_indentation with ⟨change, rest, -, -, ⟨begins, -⟩ | ⟨-, -, same⟩⟩
      · rcases carry with ⟨blocks, depth, mode⟩
        rcases begins with ⟨rfl, rfl, notBlank⟩
        have statement : BeginsStatement lines lower lines[lower] :=
          ⟨isRow, notBlank, ⟨blocks, above⟩, ⟨last, after⟩⟩
        exact step.suffix outer (deep lower _ last le (Nat.lt_succ_self lower) statement after)
      · rw [same]
        exact outer

/-! ## Depths -/

/-- The depth of a row that is scanned is the number of blocks that it leaves open. -/
theorem rowDepth_of_enters (h : Enters lines (row + 1) next) (inside : row < lines.length) :
    rowDepth (tokenizeLines lines).tokens row = next.blocks.length := by
  rcases nests_tokenizeLines lines with ⟨last, nests, -⟩
  rw [rowDepth_eq_blockDepth (pairwise_start_line lines) nests]
  rcases h.exists_tokens inside with ⟨back, tokens, below⟩
  have upTo : ∀ t ∈ (scanRows 0 .initial (lines.take (row + 1))).1,
      decide (t.start.line ≤ row) = true := by
    intro t ht
    have among : t ∈ (tokenizeLines lines).tokens := by
      rw [tokens]
      exact List.mem_append_left back ht
    have ordered := start_line_le_stop_line among
    exact decide_eq_true (Nat.le_trans ordered (Nat.le_of_lt_succ (Enters.stop_line_lt ht)))
  -- What starts up to the row and stops below it is a string or an error.
  have flat : ∀ t ∈ back.filter (fun t => decide (t.start.line ≤ row)),
      t.isBlockToken = false := by
    intro t ht
    rcases List.mem_filter.1 ht with ⟨inBack, start⟩
    have among : t ∈ (tokenizeLines lines).tokens := by
      rw [tokens]
      exact List.mem_append_right _ inBack
    refine Bool.eq_false_iff.2 fun isBlock => ?_
    have here := start_line_eq_stop_line_of_isBlockToken among isBlock
    have past : row < t.start.line := here ▸ below t inBack
    exact Nat.not_le_of_lt past (of_decide_eq_true start)
  have scanned := blockDepth_of_scanRows h.eq_scanRows
  rw [tokens, List.filter_append, List.filter_eq_self.2 upTo, blockDepth_append,
    blockDepth_of_flat flat]
  exact congrArg Nat.cast scanned

/-- Rows that begin statements, with no row further out between them: at the same depth they begin
at the same column, and the lower one further right if it is deeper. -/
theorem column_of_rowDepth {upper lower : Nat} {line other : PhysicalLine} (below : upper < lower)
    (first : BeginsStatement lines upper line) (second : BeginsStatement lines lower other)
    (deep : ∀ row between, upper < row → row < lower → BeginsStatement lines row between →
      rowDepth (tokenizeLines lines).tokens upper ≤ rowDepth (tokenizeLines lines).tokens row) :
    (rowDepth (tokenizeLines lines).tokens lower = rowDepth (tokenizeLines lines).tokens upper →
      rowColumn other = rowColumn line) ∧
    (rowDepth (tokenizeLines lines).tokens upper < rowDepth (tokenizeLines lines).tokens lower →
      rowColumn line < rowColumn other) := by
  rcases first.scanned with ⟨outer, afterUpper⟩
  rcases second.scanned with ⟨inner, afterLower⟩
  have depth {row : Nat} {between : PhysicalLine} {next : Carry}
      (begins : BeginsStatement lines row between) (after : Enters lines (row + 1) next) :
      rowDepth (tokenizeLines lines).tokens row = next.blocks.length :=
    rowDepth_of_enters after (List.getElem?_eq_some_iff.1 begins.isRow).1
  -- What the upper row leaves open is still open behind the lower one.
  have stay (notOut : outer.blocks.length ≤ inner.blocks.length) :
      outer.blocks <:+ inner.blocks := by
    refine suffix_of_enters (Nat.succ_le_succ (Nat.le_of_lt below)) afterUpper afterLower
      (List.getElem?_eq_some_iff.1 second.isRow).1 ?_
    intro row between next low high begins after
    rcases Nat.lt_or_eq_of_le (Nat.le_of_lt_succ high) with above | rfl
    · have deeper := deep row between low above begins
      rw [depth first afterUpper, depth begins after] at deeper
      exact Int.ofNat_le.1 deeper
    · rw [after.unique afterLower]
      exact notOut
  rw [depth first afterUpper, depth second afterLower, ← first.innermost afterUpper,
    ← second.innermost afterLower]
  constructor
  · intro same
    have lengths := Int.ofNat.inj same
    rw [(stay (Nat.le_of_eq lengths.symm)).eq_of_length lengths.symm]
  · intro deeper
    have shorter := Int.ofNat_lt.1 deeper
    exact (nested_of_enters afterLower).innermost_lt (stay (Nat.le_of_lt shorter)) shorter

/-! ## One block a row -/

theorem indents_indentTokens_le (row : Nat) (blanks : List Char) (change : IndentChange) :
    indents (indentTokens row blanks change) ≤ 1 := by
  cases change with
  | same => exact Nat.zero_le 1
  | opened => exact Nat.le_refl 1
  | closed count => simp [indentTokens, indents, List.countP_replicate]

/-- A row opens at most one block. -/
theorem Steps.indents_le (h : Steps row line carry tokens next) : indents tokens ≤ 1 := by
  rcases h.exists_indentation with ⟨change, rest, rfl, flat, -⟩
  rw [indents_append, indents_of_flat flat]
  exact indents_indentTokens_le row _ change

theorem Steps.start_line_of_isIndent (h : Steps row line carry tokens next) {t : Token}
    (ht : t ∈ tokens) (isIndent : t.kind = .indent) : t.start.line = row := by
  rcases h.start_line ht with here | ⟨s, -, -, isString | isError⟩
  · exact here
  · cases isIndent.symm.trans isString
  · cases isIndent.symm.trans isError

/-- No two blocks open in one row. -/
theorem rowIndents_scanRows_le (row : Nat) (carry : Carry) (lines : List PhysicalLine)
    (place : Nat) : rowIndents (scanRows row carry lines).1 place ≤ 1 := by
  induction lines generalizing row carry with
  | nil => exact Nat.zero_le 1
  | cons line rest ih =>
      cases scanned : scanRow row line carry with
      | error failure =>
          rw [scanRows_cons_of_error scanned]
          exact Nat.zero_le 1
      | ok result =>
          rcases result with ⟨first, middle⟩
          have step := Steps.of_scanRow scanned
          rw [scanRows_cons_of_ok scanned, rowIndents_append]
          by_cases here : row = place
          · have later : rowIndents (scanRows (row + 1) middle rest).1 place = 0 := by
              apply rowIndents_eq_zero
              intro t ht isIndent
              rcases exists_steps_of_mem_scanRows ht with ⟨_, _, _, _, _, low, -, other, inHere⟩
              rw [other.start_line_of_isIndent inHere isIndent, ← here]
              exact Nat.ne_of_gt low
            calc
              rowIndents first place + rowIndents (scanRows (row + 1) middle rest).1 place
                  = rowIndents first place := by rw [later, Nat.add_zero]
              _ ≤ indents first := rowIndents_le_indents first place
              _ ≤ 1 := step.indents_le
          · have above : rowIndents first place = 0 := by
              apply rowIndents_eq_zero
              intro t ht isIndent
              rwa [step.start_line_of_isIndent ht isIndent]
            rw [above, Nat.zero_add]
            exact ih (row + 1) middle

theorem rowDepth_succ_le_tokenizeLines (lines : List PhysicalLine) (row : Nat) :
    rowDepth (tokenizeLines lines).tokens (row + 1) ≤
      rowDepth (tokenizeLines lines).tokens row + 1 := by
  apply rowDepth_succ_le
  rcases exists_tokens_tokenizeLines lines with ⟨behind, tokens, stand⟩
  have closing : rowIndents behind (row + 1) = 0 := by
    apply rowIndents_eq_zero
    intro t ht isIndent
    rcases stand t ht with ⟨kind, rfl | rfl, rfl⟩
    · cases isIndent
    · cases isIndent
  rw [tokens, rowIndents_append, closing, Nat.add_zero]
  exact rowIndents_scanRows_le 0 .initial lines (row + 1)

/-! ## The table -/

/-- Behind the last row of a complete text all blocks are closed. -/
theorem rowDepth_length (complete : (tokenizeLines lines).isComplete = true) :
    rowDepth (tokenizeLines lines).tokens lines.length = 0 := by
  rcases nests_tokenizeLines lines with ⟨last, nests, -⟩
  rcases isComplete_tokenizeLines_iff.1 complete with ⟨tokens, blocks, scanned⟩
  rw [← enterDepth_eq_rowDepth (pairwise_start_line lines) nests,
    enterDepth_behind_lastRow scanned]
  rfl

/-- The ranks of a loaded text are the depths of its rows. -/
theorem lineRanks_load {c : Classifier} (own : c.tokenizer = tokenizer) (text : String) :
    (c.load text).lineRanks =
      (List.range (physicalLines text.toList).length).map
        (rankOf (tokenizer.tokenize text).tokens) := by
  have ranks := c.lineRanks_classify (rowTexts (physicalLines text.toList)) text
  rw [own, length_rowTexts] at ranks
  exact ranks

/-- The tokens of a text obey the offside rule, and the ranks of its table show it. No front of the
tokens closes more blocks than it opens, and a complete stream closes all. Of two rows that begin
statements, with none further out between them, the lower one begins at the same column if it is at
the same depth and further right if it is deeper. The ranks are the depths: they go from row to
row, rise by one at most, and come down to the margin behind a complete text. -/
theorem tokenize_offside (text : String) :
    let lines := physicalLines text.toList
    let stream := tokenizer.tokenize text
    (∀ front, front <+: stream.tokens → dedents front ≤ indents front) ∧
      (stream.isComplete = true → dedents stream.tokens = indents stream.tokens) ∧
      (∀ upper lower line other, upper < lower → BeginsStatement lines upper line →
        BeginsStatement lines lower other →
        (∀ row between, upper < row → row < lower → BeginsStatement lines row between →
          rowDepth stream.tokens upper ≤ rowDepth stream.tokens row) →
        (rowDepth stream.tokens lower = rowDepth stream.tokens upper →
          rowColumn other = rowColumn line) ∧
        (rowDepth stream.tokens upper < rowDepth stream.tokens lower →
          rowColumn line < rowColumn other)) ∧
      ∀ c : Classifier, c.tokenizer = tokenizer →
        (c.load text).lineRanks.length = lines.length ∧
        (∀ row rank, (c.load text).lineRanks[row]? = some rank →
          rank.enter = rowDepth stream.tokens row ∧
          rank.leave = rowDepth stream.tokens (row + 1) ∧
          ∀ below, (c.load text).lineRanks[row + 1]? = some below →
            rank.leave = below.enter ∧ below.enter ≤ rank.enter + 1) ∧
        (stream.isComplete = true →
          ∀ rank, (c.load text).lineRanks.getLast? = some rank → rank.leave = 0) := by
  intro lines stream
  rcases nests_tokenizeLines lines with ⟨last, nests, closed⟩
  have depth (row : Nat) :
      (enterDepth (depthChanges 0 stream.tokens) row : Int) = rowDepth stream.tokens row :=
    enterDepth_eq_rowDepth (pairwise_start_line lines) nests row
  refine ⟨fun front => nests.dedents_le_indents, ?_, ?_, ?_⟩
  · intro complete
    have balance := nests.add_indents
    rw [closed complete, Nat.zero_add, Nat.zero_add] at balance
    exact balance.symm
  · intro upper lower line other below first second deep
    exact column_of_rowDepth below first second deep
  · intro c own
    rw [lineRanks_load own]
    have rank_eq {row : Nat} {rank : LineRank}
        (h : ((List.range lines.length).map (rankOf stream.tokens))[row]? = some rank) :
        rank = rankOf stream.tokens row := by
      rcases List.getElem?_eq_some_iff.1 h with ⟨inside, rfl⟩
      rw [List.getElem_map, List.getElem_range]
    refine ⟨(List.length_map _).trans List.length_range, ?_, ?_⟩
    · intro row rank h
      cases rank_eq h
      refine ⟨depth row, depth (row + 1), ?_⟩
      intro below h'
      cases rank_eq h'
      have rises : rowDepth stream.tokens (row + 1) ≤ rowDepth stream.tokens row + 1 :=
        rowDepth_succ_le_tokenizeLines lines row
      rw [← depth, ← depth] at rises
      exact ⟨rfl, Int.ofNat_le.1 rises⟩
    · intro complete rank h
      have behind : rowDepth stream.tokens lines.length = 0 := rowDepth_length complete
      change ((List.range lines.length).map _).getLast? = _ at h
      cases count : lines.length with
      | zero =>
          rw [count] at h
          cases h
      | succ m =>
          rw [count, List.range_succ, List.map_append, List.map_singleton,
            List.getLast?_concat] at h
          cases h
          rw [count, ← depth] at behind
          exact Int.ofNat.inj behind

/-- Rows at one depth begin at one column whatever blanks lead to it, and the row between them
stands further right. -/
theorem tokenize_offside_tabs :
    let text := "if x:\n\ta\n        if y:\n            b\n  \tc\n"
    let lines := physicalLines text.toList
    let stream := tokenizer.tokenize text
    let ranks := ((Classifier.new tokenizer).load text).lineRanks
    let upper : PhysicalLine := ⟨"\ta".toList, true⟩
    let middle : PhysicalLine := ⟨"            b".toList, true⟩
    let lower : PhysicalLine := ⟨"  \tc".toList, true⟩
    BeginsStatement lines 1 upper ∧ BeginsStatement lines 3 middle ∧
      BeginsStatement lines 4 lower ∧
      (∀ row < 4, 1 < row → rowDepth stream.tokens 1 ≤ rowDepth stream.tokens row) ∧
      (rowDepth stream.tokens 4 = rowDepth stream.tokens 1 ∧ rowColumn lower = rowColumn upper) ∧
      (rowDepth stream.tokens 1 < rowDepth stream.tokens 3 ∧ rowColumn upper < rowColumn middle) ∧
      (ranks[2]? = some ⟨1, 2⟩ ∧ 1 = rowDepth stream.tokens 2 ∧ 2 = rowDepth stream.tokens 3) ∧
      stream.isComplete = true ∧ dedents stream.tokens = indents stream.tokens := by
  intro text lines stream ranks upper middle lower
  have complete : stream.isComplete = true := by decide +kernel
  have scanned : ∀ row < 5, IsScanned lines row := by
    intro row inside
    refine (isScanned_iff (Nat.lt_of_lt_of_le inside (by decide +kernel))).2 fun place fails => ?_
    have noFailure : (tokenizeLines lines).failure = none := by decide +kernel
    cases noFailure.symm.trans fails
  have first : BeginsStatement lines 1 upper :=
    ⟨by decide +kernel, by decide, ⟨[], by decide +kernel⟩, scanned 1 (by decide)⟩
  have second : BeginsStatement lines 3 middle :=
    ⟨by decide +kernel, by decide, ⟨[8], by decide +kernel⟩, scanned 3 (by decide)⟩
  have third : BeginsStatement lines 4 lower :=
    ⟨by decide +kernel, by decide, ⟨[12, 8], by decide +kernel⟩, scanned 4 (by decide)⟩
  have deep : ∀ row < 4, 1 < row → rowDepth stream.tokens 1 ≤ rowDepth stream.tokens row := by
    decide +kernel
  have same : rowDepth stream.tokens 4 = rowDepth stream.tokens 1 := by decide +kernel
  have deeper : rowDepth stream.tokens 1 < rowDepth stream.tokens 3 := by decide +kernel
  have shown : ranks[2]? = some ⟨1, 2⟩ := by decide +kernel
  rcases tokenize_offside text with ⟨-, balanced, rows, table⟩
  have column := (rows 1 4 upper lower (by decide) first third
    fun row _ above below _ => deep row below above).1 same
  have further := (rows 1 3 upper middle (by decide) first second
    fun row _ above below _ => deep row (Nat.lt_succ_of_lt below) above).2 deeper
  rcases (table (Classifier.new tokenizer) rfl).2.1 2 ⟨1, 2⟩ shown with ⟨enter, leave, -⟩
  exact ⟨first, second, third, deep, ⟨same, column⟩, ⟨deeper, further⟩, ⟨shown, enter, leave⟩,
    complete, balanced complete⟩

/-- A tab reaches as far as eight spaces, and an empty row belongs to the block around it. -/
example : ((Classifier.new tokenizer).load "if x:\n\ta\n\n        b\nc\n").lineRanks =
    [⟨0, 1⟩, ⟨1, 1⟩, ⟨1, 1⟩, ⟨1, 0⟩, ⟨0, 0⟩] := by
  decide +kernel

end Python
end EditorAnalysis
