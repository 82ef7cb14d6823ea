import EditorAnalysis.Proofs.Python.RowStates

/-!
# The columns of open blocks

The columns at which the open blocks begin are those of the indentation tokens that no dedent token
has closed. A row cannot go back to a column that is none of them; the rows above such a row are a
complete text with the tokens that were found.
-/

namespace EditorAnalysis
namespace Python

open Text

/-! ## Columns in a stream -/

/-- The columns of the blocks that are open behind a token, innermost first. A block begins at the
column to which the blanks of its token reach. -/
def columnsAfter (columns : List Nat) (t : Token) : List Nat :=
  match t.kind with
  | .indent => indentColumn t.text.toList :: columns
  | .dedent => columns.tail
  | _ => columns

/-- The columns of the blocks that are open behind a list of tokens. -/
def openColumns (columns : List Nat) (tokens : List Token) : List Nat :=
  tokens.foldl columnsAfter columns

theorem openColumns_append (columns : List Nat) (front back : List Token) :
    openColumns columns (front ++ back) = openColumns (openColumns columns front) back :=
  List.foldl_append

theorem columnsAfter_of_not_isBlockToken {t : Token} (h : t.isBlockToken = false)
    (columns : List Nat) : columnsAfter columns t = columns := by
  rcases t with ⟨kind, text, start, stop⟩
  cases kind with
  | indent | dedent => cases h
  | _ => rfl

theorem openColumns_of_flat {tokens : List Token} (h : ∀ t ∈ tokens, t.isBlockToken = false)
    (columns : List Nat) : openColumns columns tokens = columns := by
  induction tokens with
  | nil => rfl
  | cons t rest ih =>
      rw [openColumns, List.foldl_cons,
        columnsAfter_of_not_isBlockToken (h t List.mem_cons_self)]
      exact ih fun u hu => h u (List.mem_cons_of_mem t hu)

/-- Each dedent token closes the innermost block. -/
theorem openColumns_replicate_dedent (columns : List Nat) (count : Nat) (p : Position) :
    openColumns columns (List.replicate count ⟨.dedent, "", p, p⟩) = columns.drop count := by
  induction count generalizing columns with
  | zero => rfl
  | succ count ih =>
      rw [List.replicate_succ, ← List.drop_tail]
      exact ih columns.tail

variable {row : Nat} {line : PhysicalLine} {carry next : Carry} {tokens : List Token}

/-- The tokens of an indentation open and close the blocks that the row does. -/
theorem openColumns_indentTokens {blocks left : OpenBlocks} {change : IndentChange}
    (moved : blocks.moveTo? (rowColumn line) = some (change, left)) :
    openColumns blocks (indentTokens row (line.content.takeWhile isBlank) change) = left := by
  rcases OpenBlocks.moveTo?_eq_some_iff.1 moved with
    ⟨-, rfl, rfl⟩ | ⟨-, rfl, rfl⟩ | ⟨-, -, rfl, rfl⟩
  · simp [openColumns, indentTokens, columnsAfter, rowToken, rowColumn]
  · rfl
  · rw [indentTokens, openColumns_replicate_dedent, drop_length_takeWhile]

theorem Steps.openColumns_eq (h : Steps row line carry tokens next) :
    openColumns carry.blocks tokens = next.blocks := by
  rcases h.exists_indentation with ⟨change, rest, rfl, flat, ⟨-, moved⟩ | ⟨-, rfl, same⟩⟩
  · rw [openColumns_append, openColumns_indentTokens moved, openColumns_of_flat flat]
  · rw [openColumns_append, openColumns_of_flat flat, same]
    rfl

/-- Behind rows that are scanned to their end, the blocks that these leave are open. -/
theorem openColumns_of_scanRows {lines : List PhysicalLine}
    (h : scanRows row carry lines = (tokens, .ok next)) :
    openColumns carry.blocks tokens = next.blocks := by
  rcases @exists_scanRows_leads _ (fun columns tokens last => openColumns columns tokens = last)
    Carry.blocks (fun _ => rfl)
    (fun _ _ _ _ _ first second => by rw [openColumns_append, first, second])
    (fun _ _ _ _ _ => Steps.openColumns_eq) row carry lines with ⟨last, columns, upTo⟩
  rw [h] at columns upTo
  exact columns.trans (upTo next rfl)

/-! ## Columns to which no row can go back -/

namespace OpenBlocks

variable {blocks : OpenBlocks} {column : Nat}

theorem innermost_mem (blocks : OpenBlocks) : innermost blocks ∈ blocks ++ [0] := by
  cases blocks with
  | nil => exact List.mem_cons_self
  | cons block rest => exact List.mem_cons_self

/-- When the blocks further right are closed, a block that begins at the column is innermost. -/
theorem Nested.innermost_dropWhile (h : Nested blocks) (mem : column ∈ blocks ++ [0]) :
    innermost (blocks.dropWhile (column < ·)) = column := by
  induction blocks with
  | nil => exact (List.mem_singleton.1 mem).symm
  | cons block rest ih =>
      rcases List.mem_cons.1 mem with rfl | inside
      · rw [List.dropWhile_cons_of_neg (by simp)]
        rfl
      · have further : column < block := (List.pairwise_cons.1 h).1 column inside
        rw [List.dropWhile_cons_of_pos (by simpa using further)]
        exact ih (List.pairwise_cons.1 h).2 inside

/-- Nothing leads to a column that is left of the innermost block and at which none began. -/
theorem Nested.moveTo?_eq_none_iff (h : Nested blocks) :
    blocks.moveTo? column = none ↔ column < innermost blocks ∧ column ∉ blocks ++ [0] := by
  constructor
  · intro stuck
    have never {change : IndentChange} {left : OpenBlocks}
        (moved : blocks.moveTo? column = some (change, left)) : False := by
      rw [stuck] at moved
      cases moved
    rcases Nat.lt_trichotomy (innermost blocks) column with right | here | further
    · exact (never (moveTo?_eq_some_iff.2 (.inl ⟨right, rfl, rfl⟩))).elim
    · exact (never (moveTo?_eq_some_iff.2 (.inr (.inl ⟨here.symm, rfl, rfl⟩)))).elim
    · refine ⟨further, fun mem => ?_⟩
      have at_ := h.innermost_dropWhile mem
      exact never (moveTo?_eq_some_iff.2 (.inr (.inr ⟨further, at_, rfl, rfl⟩)))
  · rintro ⟨further, none_⟩
    refine Option.eq_none_iff_forall_ne_some.2 fun ⟨change, left⟩ moved => none_ ?_
    rcases moveTo?_eq_some_iff.1 moved with ⟨right, -⟩ | ⟨here, -⟩ | ⟨-, at_, -, rfl⟩
    · exact absurd right (Nat.lt_asymm further)
    · exact absurd here (Nat.ne_of_lt further)
    · -- What is innermost of the outer blocks was open before.
      rw [← at_]
      exact ((List.dropWhile_sublist _).append_right [0]).subset (innermost_mem _)

end OpenBlocks

/-! ## Rows that fail -/

/-- Rows that fail are scanned up to the row that does. -/
theorem exists_of_scanRows_error {lines : List PhysicalLine} {failure : TokenizeFailure}
    (h : scanRows row carry lines = (tokens, .error failure)) :
    ∃ front line back middle, lines = front ++ line :: back ∧
      scanRows row carry front = (tokens, .ok middle) ∧
      scanRow (row + front.length) line middle = .error failure := by
  induction lines generalizing row carry tokens with
  | nil => cases h
  | cons line rest ih =>
      cases scanned : scanRow row line carry with
      | error other =>
          rw [scanRows_cons_of_error scanned] at h
          cases h
          exact ⟨[], line, rest, carry, rfl, rfl, scanned⟩
      | ok result =>
          rcases result with ⟨first, middle⟩
          rw [scanRows_cons_of_ok scanned] at h
          rcases Prod.mk.inj h with ⟨rfl, outcome⟩
          rcases ih (Prod.ext rfl outcome) with ⟨front, other, back, last, rfl, above, fails⟩
          refine ⟨line :: front, other, back, last, rfl, ?_, ?_⟩
          · rw [scanRows_cons_of_ok scanned, above]
          · rwa [List.length_cons, Nat.add_comm front.length, ← Nat.add_assoc]

/-- Whether a row goes back to a column at which no block began, and the tokens are those of the
rows above it: these are a complete text, but for the tokens that close it. -/
structure DedentsAstray (lines : List PhysicalLine) (tokens : List Token) (place : Position) :
    Prop where
  row : ∃ line, lines[place.line]? = some line ∧ ¬ IsBlankRow line ∧
    place.column = (line.content.takeWhile isBlank).length ∧
    rowColumn line < OpenBlocks.innermost (openColumns [] tokens) ∧
    rowColumn line ∉ openColumns [] tokens ++ [0]
  above : tokenizeLines (lines.take place.line) =
    ⟨tokens ++ closingTokens place.line (openColumns [] tokens), none⟩

/-- Rows fail where one of them goes astray. -/
theorem dedentsAstray_of_scanRows {lines : List PhysicalLine} {failure : TokenizeFailure}
    (h : scanRows 0 .initial lines = (tokens, .error failure)) :
    ∃ place, failure = .inconsistentDedent place ∧ DedentsAstray lines tokens place := by
  rcases exists_of_scanRows_error h with ⟨front, line, back, ⟨blocks, depth, mode⟩, rfl, above,
    fails⟩
  rcases scanRow_eq_error_iff.1 fails with ⟨rfl, rfl, notBlank, stuck, rfl⟩
  have columns : openColumns [] tokens = blocks := openColumns_of_scanRows above
  have nested : blocks.Nested := nested_of_scanRows above OpenBlocks.nested_nil
  rcases nested.moveTo?_eq_none_iff.1 stuck with ⟨further, none_⟩
  rw [Nat.zero_add]
  refine ⟨_, rfl, ⟨line, ?_, notBlank, rfl, ?_, ?_⟩, ?_⟩
  · rw [List.getElem?_append_right (Nat.le_refl _), Nat.sub_self]
    rfl
  · rwa [columns]
  · rwa [columns]
  · rw [List.take_left, tokenizeLines_of_complete above, columns]

/-- The failure of a text says which of its rows are scanned: those above the place where a row goes
astray, and all of them when none does. -/
theorem isScanned_iff {lines : List PhysicalLine} (inside : row < lines.length) :
    IsScanned lines row ↔
      ∀ place, (tokenizeLines lines).failure = some (.inconsistentDedent place) →
        row < place.line := by
  cases scanned : scanRows 0 .initial lines with
  | mk tokens outcome =>
      cases outcome with
      | error failure =>
          rcases exists_of_scanRows_error scanned with
            ⟨front, line, back, ⟨blocks, depth, mode⟩, rfl, above, fails⟩
          rw [Nat.zero_add] at fails
          rcases scanRow_eq_error_iff.1 fails with ⟨-, -, -, -, rfl⟩
          rw [isScanned_iff_of_error above fails, tokenizeLines_of_error scanned]
          constructor
          · intro higher place astray
            cases astray
            exact higher
          · exact fun higher => higher _ rfl
      | ok carry =>
          refine iff_of_true (isScanned_of_scanRows scanned inside) fun place astray => ?_
          exact absurd astray (failure_ne_inconsistentDedent scanned place)

end Python
end EditorAnalysis
