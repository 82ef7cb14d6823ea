import EditorAnalysis.Proofs.Python.Scans

/-!
# What one row can do

A row is scanned in one of six ways. `Steps` has one rule for each, and `scanRow_eq_ok_iff` says
that a row is scanned by these rules and no others. A row fails in one way only: it goes back to a
column at which no block began. What every row keeps is read off the rules.
-/

namespace EditorAnalysis
namespace Python

open Text

/-- Whether a row holds nothing but blanks and perhaps a comment. -/
def IsBlankRow (line : PhysicalLine) : Prop :=
  line.content.dropWhile isBlank = [] ∨ (line.content.dropWhile isBlank).head? = some '#'

instance (line : PhysicalLine) : Decidable (IsBlankRow line) :=
  inferInstanceAs (Decidable (_ ∨ _))

/-- The column at which the text of a row begins. -/
def rowColumn (line : PhysicalLine) : Nat :=
  indentColumn (line.content.takeWhile isBlank)

/-- The ways in which a row is scanned: what it starts with, its tokens, and what it leaves. -/
inductive Steps (row : Nat) (line : PhysicalLine) : Carry → List Token → Carry → Prop where
  | blankRow {blocks : OpenBlocks} :
      IsBlankRow line →
      Steps row line ⟨blocks, 0, .fresh⟩
        (blankRowTokens row line (line.content.takeWhile isBlank).length
          (line.content.dropWhile isBlank)) ⟨blocks, 0, .fresh⟩
  | statement {blocks left : OpenBlocks} {change : IndentChange} {scan : RowScan} :
      ¬ IsBlankRow line →
      blocks.moveTo? (rowColumn line) = some (change, left) →
      Scans row line.terminated (line.content.takeWhile isBlank).length 0
        (line.content.dropWhile isBlank) scan →
      Steps row line ⟨blocks, 0, .fresh⟩
        (indentTokens row (line.content.takeWhile isBlank) change ++
          (finishRow row line left scan).1)
        (finishRow row line left scan).2
  /-- A statement goes on, between brackets or after a continuation backslash. -/
  | goesOn {blocks : OpenBlocks} {depth : Nat} {mode : RowMode} {scan : RowScan} :
      mode = .continued ∨ (mode = .fresh ∧ depth ≠ 0) →
      Scans row line.terminated 0 depth line.content scan →
      Steps row line ⟨blocks, depth, mode⟩ (finishRow row line blocks scan).1
        (finishRow row line blocks scan).2
  | stringCloses {blocks : OpenBlocks} {depth n : Nat} {s : OpenString} {scan : RowScan} :
      StringEnd.find s.quote s.triple line.content = .closed n →
      Scans row line.terminated n depth (line.content.drop n) scan →
      Steps row line ⟨blocks, depth, .inString s⟩
        (⟨.string, String.ofList (s.text ++ line.content.take n), s.start, ⟨row, n⟩⟩ ::
          (finishRow row line blocks scan).1)
        (finishRow row line blocks scan).2
  | stringGoesOn {blocks : OpenBlocks} {depth : Nat} {s : OpenString} {escaped : Bool} :
      StringEnd.find s.quote s.triple line.content = .unclosed escaped →
      OpenString.goesOn s.triple escaped line.terminated = true →
      Steps row line ⟨blocks, depth, .inString s⟩ []
        ⟨blocks, depth, .inString (s.extend line.content)⟩
  | stringBreaks {blocks : OpenBlocks} {depth : Nat} {s : OpenString} {escaped : Bool} :
      StringEnd.find s.quote s.triple line.content = .unclosed escaped →
      OpenString.goesOn s.triple escaped line.terminated = false →
      Steps row line ⟨blocks, depth, .inString s⟩
        [⟨.error, String.ofList (s.text ++ line.content), s.start, ⟨row, line.content.length⟩⟩]
        ⟨blocks, depth, .fresh⟩

variable {row : Nat} {line : PhysicalLine}

/-! ## The rest of a row -/

theorem finishRow_cons (blocks : OpenBlocks) (t : Token) (scan : RowScan) :
    finishRow row line blocks (.cons t scan) =
      (t :: (finishRow row line blocks scan).1, (finishRow row line blocks scan).2) := by
  rcases scan with ⟨tokens, depth, ending⟩
  cases ending <;> rfl

@[simp] theorem blocks_finishRow (blocks : OpenBlocks) (scan : RowScan) :
    (finishRow row line blocks scan).2.blocks = blocks := by
  rcases scan with ⟨tokens, depth, ending⟩
  cases ending <;> rfl

/-! ## The rules and the tokenizer -/

namespace Steps

variable {carry next : Carry} {tokens : List Token}

theorem scanRow_eq (h : Steps row line carry tokens next) :
    scanRow row line carry = .ok (tokens, next) := by
  cases h with
  | blankRow isBlankRow =>
      -- The test of the tokenizer is `IsBlankRow` written out.
      have isBlankRow' : line.content.dropWhile isBlank = [] ∨ _ := isBlankRow
      simp only [scanRow, scanStatementRow, if_true, isBlankRow']
  | @statement _ left change scan notBlank moved scanned =>
      have notBlank' : ¬ (line.content.dropWhile isBlank = [] ∨ _) := notBlank
      have moved' : OpenBlocks.moveTo? _ (indentColumn (line.content.takeWhile isBlank)) =
        some (change, left) := moved
      simp only [scanRow, scanStatementRow, if_true, notBlank', if_false, moved',
        scanned.scanRest_eq]
  | goesOn inside scanned =>
      rcases inside with rfl | ⟨rfl, open_⟩
      · simp only [scanRow, scanned.scanRest_eq]
      · simp only [scanRow, open_, if_false, scanned.scanRest_eq]
  | stringCloses found scanned =>
      simp only [scanRow, scanStringRow, found, scanned.scanRest_eq, finishRow_cons]
  | stringGoesOn found goesOn =>
      simp only [scanRow, scanStringRow, found, goesOn, if_true]
  | stringBreaks found stays =>
      simp only [scanRow, scanStringRow, found, stays, Bool.false_eq_true, if_false]

theorem of_scanStatementRow {blocks : OpenBlocks}
    (h : scanStatementRow row line blocks = .ok (tokens, next)) :
    Steps row line ⟨blocks, 0, .fresh⟩ tokens next := by
  simp only [scanStatementRow] at h
  split at h
  · next isBlankRow =>
      cases h
      exact blankRow isBlankRow
  · next notBlank =>
      split at h
      · cases h
      · next change left moved =>
          cases h
          exact statement notBlank moved (Scans.of_scanRest _ _ _)

theorem of_scanStringRow (blocks : OpenBlocks) (depth : Nat) (s : OpenString) :
    Steps row line ⟨blocks, depth, .inString s⟩ (scanStringRow row line blocks depth s).1
      (scanStringRow row line blocks depth s).2 := by
  cases found : StringEnd.find s.quote s.triple line.content with
  | closed n =>
      simp only [scanStringRow, found, finishRow_cons]
      exact stringCloses found (Scans.of_scanRest _ _ _)
  | unclosed escaped =>
      by_cases goesOn : OpenString.goesOn s.triple escaped line.terminated = true
      · simp only [scanStringRow, found, goesOn, if_true]
        exact stringGoesOn found goesOn
      · simp only [scanStringRow, found, goesOn, Bool.false_eq_true, if_false]
        exact stringBreaks found (by simpa using goesOn)

theorem of_scanRow (h : scanRow row line carry = .ok (tokens, next)) :
    Steps row line carry tokens next := by
  -- The mode decides who scans the row; a fresh row between brackets goes on like a continued one.
  rcases carry with ⟨blocks, depth, mode⟩
  cases mode with
  | inString s =>
      have isRow : scanStringRow row line blocks depth s = (tokens, next) := Except.ok.inj h
      have steps : Steps row line ⟨blocks, depth, .inString s⟩ _ _ :=
        of_scanStringRow blocks depth s
      rwa [isRow] at steps
  | continued =>
      have isRow : finishRow row line blocks _ = (tokens, next) := Except.ok.inj h
      have steps : Steps row line ⟨blocks, depth, .continued⟩ _ _ :=
        goesOn (Or.inl rfl) (Scans.of_scanRest _ _ _)
      rwa [isRow] at steps
  | fresh =>
      by_cases closed : depth = 0
      · subst closed
        exact of_scanStatementRow h
      · simp only [scanRow, closed, if_false] at h
        have isRow : finishRow row line blocks _ = (tokens, next) := Except.ok.inj h
        have steps : Steps row line ⟨blocks, depth, .fresh⟩ _ _ :=
          goesOn (Or.inr ⟨rfl, closed⟩) (Scans.of_scanRest _ _ _)
        rwa [isRow] at steps

end Steps

/-- A row that does not fail is scanned by the rules and by no others. -/
theorem scanRow_eq_ok_iff {carry next : Carry} {tokens : List Token} :
    scanRow row line carry = .ok (tokens, next) ↔ Steps row line carry tokens next :=
  ⟨Steps.of_scanRow, Steps.scanRow_eq⟩

/-- A row fails when a statement begins in it at a column that no open block has. -/
theorem scanRow_eq_error_iff {carry : Carry} {failure : TokenizeFailure} :
    scanRow row line carry = .error failure ↔
      carry.mode = .fresh ∧ carry.depth = 0 ∧ ¬ IsBlankRow line ∧
        carry.blocks.moveTo? (rowColumn line) = none ∧
        failure = .inconsistentDedent ⟨row, (line.content.takeWhile isBlank).length⟩ := by
  rcases carry with ⟨blocks, depth, mode⟩
  constructor
  · -- Inside a string and behind a continuation backslash nothing can fail.
    intro h
    cases mode with
    | inString s => cases h
    | continued => cases h
    | fresh =>
        by_cases closed : depth = 0
        · simp only [scanRow, closed, if_true, scanStatementRow] at h
          split at h
          · cases h
          · next notBlank =>
              split at h
              · next stuck =>
                  cases h
                  exact ⟨rfl, closed, notBlank, stuck, rfl⟩
              · cases h
        · simp [scanRow, closed] at h
  · rintro ⟨isFresh, isClosed, notBlank, stuck, rfl⟩
    cases isFresh
    cases isClosed
    have notBlank' : ¬ (line.content.dropWhile isBlank = [] ∨ _) := notBlank
    have stuck' : blocks.moveTo? (indentColumn (line.content.takeWhile isBlank)) = none := stuck
    simp only [scanRow, scanStatementRow, if_true, notBlank', if_false, stuck']

/-! ## The tokens of a row -/

theorem eq_of_mem_lineEnd {length depth : Nat} {terminated : Bool} {t : Token}
    (ht : t ∈ lineEnd row length terminated depth) :
    ∃ kind, (kind = .newline ∨ kind = .nonLogicalNewline) ∧
      t = lineEndToken kind row length terminated := by
  cases terminated with
  | true =>
      rcases List.mem_singleton.1 ht with rfl
      by_cases open_ : 0 < depth
      · exact ⟨_, Or.inr (if_pos open_), rfl⟩
      · exact ⟨_, Or.inl (if_neg open_), rfl⟩
  | false =>
      cases depth with
      | zero =>
          rcases List.mem_singleton.1 ht with rfl
          exact ⟨_, Or.inl rfl, rfl⟩
      | succ depth => cases ht

/-- A finished row has the tokens of its scan and perhaps its end. -/
theorem mem_or_mem_of_mem_finishRow {blocks : OpenBlocks} {scan : RowScan} {t : Token}
    (ht : t ∈ (finishRow row line blocks scan).1) :
    t ∈ scan.tokens ∨ t ∈ lineEnd row line.content.length line.terminated scan.depth := by
  rcases scan with ⟨tokens, depth, ending⟩
  cases ending with
  | complete => exact List.mem_append.1 ht
  | continued | inString s => exact Or.inl ht

theorem eq_or_eq_of_mem_blankRowTokens {column : Nat} {rest : List Char} {t : Token}
    (ht : t ∈ blankRowTokens row line column rest) :
    t = rowToken .comment row column rest ∨
      t = lineEndToken .nonLogicalNewline row line.content.length line.terminated := by
  rcases List.mem_append.1 ht with comment | lineBreak
  · split at comment
    · cases comment
    · exact Or.inl (List.mem_singleton.1 comment)
  · split at lineBreak
    · exact Or.inr (List.mem_singleton.1 lineBreak)
    · cases lineBreak

theorem eq_or_eq_of_mem_indentTokens {blanks : List Char} {change : IndentChange} {t : Token}
    (ht : t ∈ indentTokens row blanks change) :
    t = rowToken .indent row 0 blanks ∨
      t = ⟨.dedent, "", ⟨row, blanks.length⟩, ⟨row, blanks.length⟩⟩ := by
  cases change with
  | same => cases ht
  | opened => exact Or.inl (List.mem_singleton.1 ht)
  | closed count => exact Or.inr (List.mem_replicate.1 ht).2

/-! ## Where tokens stop -/

theorem Scans.stop_line {terminated : Bool} {column depth : Nat} {rest : List Char}
    {scan : RowScan} (h : Scans row terminated column depth rest scan) :
    ∀ t ∈ scan.tokens, t.stop.line = row := by
  induction h with
  | done | continuation | openString =>
      intro t ht
      cases ht
  | blank _ _ ih => exact ih
  | comment | brokenString =>
      intro t ht
      rcases List.mem_singleton.1 ht with rfl
      rfl
  | lexeme _ _ _ ih =>
      intro t ht
      rcases List.mem_cons.1 ht with rfl | later
      · rfl
      · exact ih t later

theorem stop_line_of_mem_finishRow {blocks : OpenBlocks} {scan : RowScan} {t : Token}
    (scanned : ∀ u ∈ scan.tokens, u.stop.line = row)
    (ht : t ∈ (finishRow row line blocks scan).1) : t.stop.line = row := by
  rcases mem_or_mem_of_mem_finishRow ht with inside | atEnd
  · exact scanned t inside
  · rcases eq_of_mem_lineEnd atEnd with ⟨kind, -, rfl⟩
    rfl

/-- The tokens of a row stop in it. -/
theorem Steps.stop_line {carry next : Carry} {tokens : List Token}
    (h : Steps row line carry tokens next) : ∀ t ∈ tokens, t.stop.line = row := by
  intro t ht
  -- A string that closes or breaks starts in an earlier row, but it stops in this one.
  cases h with
  | blankRow =>
      rcases eq_or_eq_of_mem_blankRowTokens ht with rfl | rfl
      · rfl
      · rfl
  | statement _ _ scanned =>
      rcases List.mem_append.1 ht with indentation | later
      · rcases eq_or_eq_of_mem_indentTokens indentation with rfl | rfl
        · rfl
        · rfl
      · exact stop_line_of_mem_finishRow scanned.stop_line later
  | goesOn _ scanned => exact stop_line_of_mem_finishRow scanned.stop_line ht
  | stringCloses _ scanned =>
      rcases List.mem_cons.1 ht with rfl | later
      · rfl
      · exact stop_line_of_mem_finishRow scanned.stop_line later
  | stringGoesOn => cases ht
  | stringBreaks =>
      rcases List.mem_singleton.1 ht with rfl
      rfl

/-! ## Where tokens start -/

theorem Scans.start_line {terminated : Bool} {column depth : Nat} {rest : List Char}
    {scan : RowScan} (h : Scans row terminated column depth rest scan) :
    ∀ t ∈ scan.tokens, t.start.line = row := by
  induction h with
  | done | continuation | openString =>
      intro t ht
      cases ht
  | blank _ _ ih => exact ih
  | comment | brokenString =>
      intro t ht
      rcases List.mem_singleton.1 ht with rfl
      rfl
  | lexeme _ _ _ ih =>
      intro t ht
      rcases List.mem_cons.1 ht with rfl | later
      · rfl
      · exact ih t later

theorem start_line_of_mem_finishRow {blocks : OpenBlocks} {scan : RowScan} {t : Token}
    (scanned : ∀ u ∈ scan.tokens, u.start.line = row)
    (ht : t ∈ (finishRow row line blocks scan).1) : t.start.line = row := by
  rcases mem_or_mem_of_mem_finishRow ht with inside | atEnd
  · exact scanned t inside
  · rcases eq_of_mem_lineEnd atEnd with ⟨kind, -, rfl⟩
    rfl

/-- The tokens of a row start in it, but for the one that holds a string from an earlier row. -/
theorem Steps.start_line {carry next : Carry} {tokens : List Token}
    (h : Steps row line carry tokens next) {t : Token} (ht : t ∈ tokens) :
    t.start.line = row ∨
      ∃ s, carry.mode = .inString s ∧ t.start = s.start ∧ (t.kind = .string ∨ t.kind = .error) := by
  cases h with
  | blankRow =>
      rcases eq_or_eq_of_mem_blankRowTokens ht with rfl | rfl
      · exact .inl rfl
      · exact .inl rfl
  | statement _ _ scanned =>
      rcases List.mem_append.1 ht with indentation | later
      · rcases eq_or_eq_of_mem_indentTokens indentation with rfl | rfl
        · exact .inl rfl
        · exact .inl rfl
      · exact .inl (start_line_of_mem_finishRow scanned.start_line later)
  | goesOn _ scanned => exact .inl (start_line_of_mem_finishRow scanned.start_line ht)
  | @stringCloses _ _ _ s _ _ scanned =>
      rcases List.mem_cons.1 ht with rfl | later
      · exact .inr ⟨s, rfl, rfl, .inl rfl⟩
      · exact .inl (start_line_of_mem_finishRow scanned.start_line later)
  | stringGoesOn => cases ht
  | @stringBreaks _ _ s =>
      rcases List.mem_singleton.1 ht with rfl
      exact .inr ⟨s, rfl, rfl, .inr rfl⟩

end Python
end EditorAnalysis
