import EditorAnalysis.Proofs.Python.Rows
import EditorAnalysis.Proofs.Token.Nesting

/-!
# The depth of blocks along the rows

The tokens of a row open and close as many blocks as the row does, so the tokens of any rows nest,
and the depth of blocks behind them is the number of blocks that are open there.
-/

namespace EditorAnalysis
namespace Python

open Text

variable {row : Nat} {line : PhysicalLine}

/-- The tokens of a row's rest all mark the table. -/
theorem Scans.marks {terminated : Bool} {column depth : Nat} {rest : List Char} {scan : RowScan}
    (h : Scans row terminated column depth rest scan) : ∀ t ∈ scan.tokens, t.marks = true := by
  induction h with
  | done | continuation | openString =>
      intro t ht
      cases ht
  | blank _ _ ih => exact ih
  | comment | brokenString =>
      intro t ht
      rcases List.mem_singleton.1 ht with rfl
      rfl
  | lexeme _ token _ ih =>
      intro t ht
      rcases List.mem_cons.1 ht with rfl | later
      · have kinds := Lexeme.kind_of_token? token
        simp only [List.mem_cons, List.not_mem_nil, or_false] at kinds
        rcases kinds with rfl | rfl | rfl | rfl | rfl <;> rfl
      · exact ih t later

theorem not_isBlockToken_of_marks {t : Token} (h : t.marks = true) : t.isBlockToken = false := by
  rcases t with ⟨kind, text, start, stop⟩
  cases kind with
  | indent | dedent => cases h
  | _ => rfl

/-- The rest of a row opens and closes no block. -/
theorem not_isBlockToken_of_mem_finishRow {blocks : OpenBlocks} {scan : RowScan} {t : Token}
    (marks : ∀ u ∈ scan.tokens, u.marks = true)
    (ht : t ∈ (finishRow row line blocks scan).1) : t.isBlockToken = false := by
  rcases mem_or_mem_of_mem_finishRow ht with inside | atEnd
  · exact not_isBlockToken_of_marks (marks t inside)
  · rcases eq_of_mem_lineEnd atEnd with ⟨kind, rfl | rfl, rfl⟩
    · rfl
    · rfl

theorem not_isBlockToken_of_mem_blankRowTokens {column : Nat} {rest : List Char} {t : Token}
    (ht : t ∈ blankRowTokens row line column rest) : t.isBlockToken = false := by
  rcases eq_or_eq_of_mem_blankRowTokens ht with rfl | rfl
  · rfl
  · rfl

/-- An indentation has one token for each block that the row opens or closes. -/
theorem nests_indentTokens {blocks left : OpenBlocks} {column : Nat} {change : IndentChange}
    (moved : blocks.moveTo? column = some (change, left)) (row : Nat) (blanks : List Char) :
    Nests blocks.length (indentTokens row blanks change) left.length := by
  rcases OpenBlocks.moveTo?_eq_some_iff.1 moved with
    ⟨-, rfl, rfl⟩ | ⟨-, rfl, rfl⟩ | ⟨-, -, rfl, rfl⟩
  · exact Nests.opens rfl Nests.done
  · exact Nests.done
  · -- The blocks that were open are those that stay and those that are closed.
    have lengths : (blocks.dropWhile (column < ·)).length +
        (blocks.takeWhile (column < ·)).length = blocks.length := by
      rw [Nat.add_comm, ← List.length_append, List.takeWhile_append_dropWhile]
    have closed := Nests.replicate (t := ⟨.dedent, "", ⟨row, blanks.length⟩, ⟨row, blanks.length⟩⟩)
      rfl (blocks.dropWhile (column < ·)).length (blocks.takeWhile (column < ·)).length
    rw [lengths] at closed
    exact closed

/-- Whether a statement begins in a row that starts with this. -/
def Carry.BeginsStatement (carry : Carry) (line : PhysicalLine) : Prop :=
  carry.mode = .fresh ∧ carry.depth = 0 ∧ ¬ IsBlankRow line

/-- The tokens of a row are those of its indentation and others that open and close no block. Only
a row in which a statement begins is indented. -/
theorem Steps.exists_indentation {carry next : Carry} {tokens : List Token}
    (h : Steps row line carry tokens next) :
    ∃ change rest, tokens = indentTokens row (line.content.takeWhile isBlank) change ++ rest ∧
      (∀ t ∈ rest, t.isBlockToken = false) ∧
      ((carry.BeginsStatement line ∧
          carry.blocks.moveTo? (rowColumn line) = some (change, next.blocks)) ∨
        (¬ carry.BeginsStatement line ∧ change = .same ∧ next.blocks = carry.blocks)) := by
  cases h with
  | blankRow isBlankRow =>
      refine ⟨.same, _, rfl, fun t => not_isBlockToken_of_mem_blankRowTokens, .inr ⟨?_, rfl, rfl⟩⟩
      exact fun begins => begins.2.2 isBlankRow
  | @statement _ left change scan notBlank moved scanned =>
      refine ⟨change, _, rfl, fun t => not_isBlockToken_of_mem_finishRow scanned.marks, .inl ?_⟩
      rw [blocks_finishRow]
      exact ⟨⟨rfl, rfl, notBlank⟩, moved⟩
  | goesOn inside scanned =>
      refine ⟨.same, _, rfl, fun t => not_isBlockToken_of_mem_finishRow scanned.marks,
        .inr ⟨?_, rfl, blocks_finishRow _ _⟩⟩
      rintro ⟨isFresh, closed, -⟩
      rcases inside with continued | ⟨-, open_⟩
      · cases continued.symm.trans isFresh
      · exact open_ closed
  | stringCloses _ scanned =>
      refine ⟨.same, _, rfl, ?_, .inr ⟨?_, rfl, blocks_finishRow _ _⟩⟩
      · intro t ht
        rcases List.mem_cons.1 ht with rfl | later
        · rfl
        · exact not_isBlockToken_of_mem_finishRow scanned.marks later
      · rintro ⟨isFresh, -⟩
        cases isFresh
  | stringGoesOn =>
      refine ⟨.same, [], rfl, List.forall_mem_nil _, .inr ⟨?_, rfl, rfl⟩⟩
      rintro ⟨isFresh, -⟩
      cases isFresh
  | stringBreaks =>
      refine ⟨.same, _, rfl, ?_, .inr ⟨?_, rfl, rfl⟩⟩
      · intro t ht
        rcases List.mem_singleton.1 ht with rfl
        rfl
      · rintro ⟨isFresh, -⟩
        cases isFresh

/-- The tokens of a row open and close as many blocks as the row does. -/
theorem Steps.nests {carry next : Carry} {tokens : List Token}
    (h : Steps row line carry tokens next) :
    Nests carry.blocks.length tokens next.blocks.length := by
  rcases h.exists_indentation with ⟨change, rest, rfl, flat, ⟨-, moved⟩ | ⟨-, rfl, same⟩⟩
  · exact (nests_indentTokens moved row _).trans (Nests.of_flat flat _)
  · rw [same]
    exact Nests.of_flat flat _

/-- The tokens of rows nest, and behind rows that are scanned to their end as many blocks are open
as these leave. -/
theorem nests_scanRows (row : Nat) (carry : Carry) (lines : List PhysicalLine) :
    ∃ last, Nests carry.blocks.length (scanRows row carry lines).1 last ∧
      ∀ next, (scanRows row carry lines).2 = .ok next → last = next.blocks.length := by
  exact exists_scanRows_leads (fun carry => carry.blocks.length) (fun _ => Nests.done)
    (fun _ _ _ _ _ => Nests.trans) (fun _ _ _ _ _ => Steps.nests) row carry lines

/-- The depth of blocks behind the tokens of rows is the number of blocks open there. -/
theorem blockDepth_of_scanRows {carry next : Carry} {tokens : List Token}
    {lines : List PhysicalLine} (h : scanRows row carry lines = (tokens, .ok next)) :
    blockDepth carry.blocks.length tokens = next.blocks.length := by
  rcases nests_scanRows row carry lines with ⟨last, nests, upTo⟩
  rw [h] at nests upTo
  exact nests.blockDepth_eq.trans (upTo next rfl)

/-! ## The end of a text -/

/-- The tokens behind the last row close all blocks. -/
theorem nests_closingTokens (rows : Nat) (blocks : OpenBlocks) :
    Nests blocks.length (closingTokens rows blocks) 0 := by
  have closed := Nests.replicate (t := ⟨.dedent, "", ⟨rows, 0⟩, ⟨rows, 0⟩⟩) rfl 0 blocks.length
  rw [Nat.zero_add] at closed
  exact closed.trans (Nests.other rfl Nests.done)

/-- The tokens of a text nest, and those of a complete stream close all that they open. -/
theorem nests_tokenizeLines (lines : List PhysicalLine) :
    ∃ last, Nests 0 (tokenizeLines lines).tokens last ∧
      ((tokenizeLines lines).isComplete = true → last = 0) := by
  rcases nests_scanRows 0 .initial lines with ⟨last, nests, upTo⟩
  by_cases complete : (tokenizeLines lines).isComplete = true
  · rcases isComplete_tokenizeLines_iff.1 complete with ⟨tokens, blocks, scanned⟩
    rw [scanned] at nests upTo
    rcases upTo _ rfl with rfl
    rw [tokenizeLines_of_complete scanned]
    exact ⟨0, Nests.trans nests (nests_closingTokens lines.length blocks), fun _ => rfl⟩
  · rw [tokens_tokenizeLines_of_not_isComplete (by simpa using complete)]
    exact ⟨last, nests, fun isComplete => absurd isComplete complete⟩

end Python
end EditorAnalysis
