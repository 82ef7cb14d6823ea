import EditorAnalysis.Proofs.Python.Depth
import EditorAnalysis.Proofs.Python.LongestMatch
import EditorAnalysis.Proofs.Token.Brackets

/-!
# The brackets of a text

The tokenizer counts brackets by the first characters of operators; the count over the tokens is
the same. So the number of brackets that a row leaves open can be read off the stream, and in it
lines end and blocks change outside of brackets only.
-/

namespace EditorAnalysis
namespace Python

open Text

variable {row : Nat} {line : PhysicalLine} {carry next : Carry} {tokens : List Token}

/-! ## Operators -/

/-- An operator is a bracket when its first character is one. -/
theorem brackets_of_operators : ∀ text ∈ operators,
    (String.ofList text ∈ ["(", "[", "\x7b"] ↔ isOpeningBracket (text.headD ' ') = true) ∧
      (String.ofList text ∈ [")", "]", "\x7d"] ↔ isClosingBracket (text.headD ' ') = true) := by
  decide

/-- The operator at the front of a row's rest is one of the list. -/
theorem take_mem_operators {rest : List Char} {n : Nat}
    (h : Lexeme.ofFront rest = .operator n) : rest.take n ∈ operators := by
  have length : n = operatorLength rest ∧ operatorLength rest ≠ 0 := by
    rw [Lexeme.ofFront] at h
    split at h
    · cases h
    · split at h
      · cases h
      · split at h
        · cases h
        · split at h
          · next some_ =>
              cases h
              exact ⟨rfl, some_⟩
          · cases h
  rcases length with ⟨rfl, some_⟩
  exact measures_operator.here rest some_

/-- The token of a lexeme changes the number of open brackets as its first character does. -/
theorem bracketsAfter_of_token? {c : Char} {cs : List Char} {kind : TokenKind} {n : Nat}
    (token : (Lexeme.ofFront (c :: cs)).token? (c :: cs) = some (kind, n)) (column depth : Nat) :
    (rowToken kind row column ((c :: cs).take n)).bracketsAfter depth =
      depthBehind kind depth c := by
  by_cases isOperator : kind = .operator
  · subst isOperator
    have front : Lexeme.ofFront (c :: cs) = .operator n := by
      cases lexeme : Lexeme.ofFront (c :: cs) with
      | operator m =>
          rw [lexeme, Lexeme.token?] at token
          cases token
          rfl
      | string opener =>
          rw [lexeme, Lexeme.token?] at token
          split at token <;> cases token
      | number | name | stray =>
          rw [lexeme, Lexeme.token?] at token
          cases token
    have first : ((c :: cs).take n).headD ' ' = c := by
      have some_ := (Lexeme.length_of_token?_ofFront token).1
      cases n with
      | zero => cases some_
      | succ n => rfl
    rcases brackets_of_operators _ (take_mem_operators front) with ⟨opens, closes⟩
    rw [first] at opens closes
    simp only [Token.bracketsAfter, rowToken, opens, closes, depthBehind, bracketDepth, if_true]
  · rw [Token.bracketsAfter_of_not_isOperator (beq_eq_false_iff_ne.2 isOperator), depthBehind,
      if_neg isOperator]

/-! ## Rows -/

/-- The tokens of a row's rest count the brackets as its scan does. -/
theorem Scans.bracketed {terminated : Bool} {column depth : Nat} {rest : List Char}
    {scan : RowScan} (h : Scans row terminated column depth rest scan) :
    Bracketed depth scan.tokens scan.depth := by
  induction h with
  | done | continuation | openString => exact Bracketed.done
  | blank _ _ ih => exact ih
  | comment => exact Bracketed.plain rfl rfl Bracketed.done
  | brokenString => exact Bracketed.plain rfl rfl Bracketed.done
  | @lexeme column depth c cs kind n _ _ token _ ih =>
      refine Bracketed.token ?_ ?_
      · intro structural
        have kinds := Lexeme.kind_of_token? token
        simp only [List.mem_cons, List.not_mem_nil, or_false] at kinds
        rcases kinds with rfl | rfl | rfl | rfl | rfl <;> cases structural
      · rw [bracketsAfter_of_token? token]
        exact ih

theorem bracketed_lineEnd (row length : Nat) (terminated : Bool) (depth : Nat) :
    Bracketed depth (lineEnd row length terminated depth) depth := by
  cases depth with
  | zero =>
      refine Bracketed.outside ?_
      intro t ht
      rcases eq_of_mem_lineEnd ht with ⟨kind, rfl | rfl, rfl⟩
      · rfl
      · rfl
  | succ depth =>
      -- Between brackets a line feed does not end the logical line.
      cases terminated with
      | true => exact Bracketed.plain rfl rfl Bracketed.done
      | false => exact Bracketed.done

theorem Scans.bracketed_finishRow {column depth : Nat} {rest : List Char} {scan : RowScan}
    (h : Scans row line.terminated column depth rest scan) (blocks : OpenBlocks) :
    Bracketed depth (finishRow row line blocks scan).1
      (finishRow row line blocks scan).2.depth := by
  have scanned := h.bracketed
  rcases scan with ⟨tokens, depth, ending⟩
  cases ending with
  | complete => exact scanned.trans (bracketed_lineEnd row _ line.terminated depth)
  | continued | inString s => exact scanned

/-- The tokens of a row count the brackets as the row does. -/
theorem Steps.bracketed (h : Steps row line carry tokens next) :
    Bracketed carry.depth tokens next.depth := by
  cases h with
  | blankRow =>
      refine Bracketed.outside ?_
      intro t ht
      rcases eq_or_eq_of_mem_blankRowTokens ht with rfl | rfl
      · rfl
      · rfl
  | @statement _ left change _ _ _ scanned =>
      refine Bracketed.trans (Bracketed.outside ?_) (scanned.bracketed_finishRow left)
      intro t ht
      rcases eq_or_eq_of_mem_indentTokens ht with rfl | rfl
      · rfl
      · rfl
  | @goesOn blocks _ _ _ _ scanned => exact scanned.bracketed_finishRow blocks
  | @stringCloses blocks _ _ _ _ _ scanned =>
      exact Bracketed.plain rfl rfl (scanned.bracketed_finishRow blocks)
  | stringGoesOn => exact Bracketed.done
  | stringBreaks => exact Bracketed.plain rfl rfl Bracketed.done

/-! ## Texts -/

/-- Behind rows that are scanned to their end as many brackets are open as these leave. -/
theorem bracketed_scanRows (row : Nat) (carry : Carry) (lines : List PhysicalLine) :
    ∃ last, Bracketed carry.depth (scanRows row carry lines).1 last ∧
      ∀ next, (scanRows row carry lines).2 = .ok next → last = next.depth :=
  exists_scanRows_leads Carry.depth (fun _ => Bracketed.done) (fun _ _ _ _ _ => Bracketed.trans)
    (fun _ _ _ _ _ => Steps.bracketed) row carry lines

theorem bracketed_closingTokens (rows : Nat) (blocks : OpenBlocks) :
    Bracketed 0 (closingTokens rows blocks) 0 := by
  refine Bracketed.outside ?_
  intro t ht
  rcases eq_or_eq_of_mem_closingTokens ht with rfl | rfl
  · rfl
  · rfl

/-- The tokens of a text are bracketed. -/
theorem bracketed_tokenizeLines (lines : List PhysicalLine) :
    ∃ last, Bracketed 0 (tokenizeLines lines).tokens last := by
  rcases bracketed_scanRows 0 .initial lines with ⟨last, rows, upTo⟩
  by_cases complete : (tokenizeLines lines).isComplete = true
  · rcases isComplete_tokenizeLines_iff.1 complete with ⟨tokens, blocks, scanned⟩
    rw [scanned] at rows upTo
    rcases upTo _ rfl with rfl
    rw [tokenizeLines_of_complete scanned]
    exact ⟨0, rows.trans (bracketed_closingTokens lines.length blocks)⟩
  · rw [tokens_tokenizeLines_of_not_isComplete (by simpa using complete)]
    exact ⟨last, rows⟩

theorem openBrackets_of_scanRows {lines : List PhysicalLine}
    (h : scanRows row carry lines = (tokens, .ok next)) :
    openBrackets carry.depth tokens = next.depth := by
  rcases bracketed_scanRows row carry lines with ⟨last, rows, upTo⟩
  rw [h] at rows upTo
  exact rows.openBrackets_eq.trans (upTo next rfl)

end Python
end EditorAnalysis
