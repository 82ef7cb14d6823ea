import EditorAnalysis.Proofs.Classifier.Painting
import EditorAnalysis.Proofs.Python.Rows

/-!
# Rows further down

The rules by which a row is scanned do not ask for its number. A row that stands some rows further
down has the same tokens so many rows further down, and leaves the same to the next one.
-/

namespace EditorAnalysis
namespace Python

open Text

/-! ## What moves along -/

/-- The string so many rows further down. -/
def OpenString.down (k : Nat) (s : OpenString) : OpenString :=
  { s with start := s.start.down k }

/-- The end of a row so many rows further down. -/
def RowEnd.down (k : Nat) : RowEnd → RowEnd
  | .complete => .complete
  | .continued => .continued
  | .inString s => .inString (s.down k)

/-- The scan of a row so many rows further down. -/
def RowScan.down (k : Nat) (scan : RowScan) : RowScan :=
  ⟨scan.tokens.map (Token.down k), scan.depth, scan.ending.down k⟩

/-- The beginning of a row so many rows further down. -/
def RowMode.down (k : Nat) : RowMode → RowMode
  | .fresh => .fresh
  | .continued => .continued
  | .inString s => .inString (s.down k)

/-- What is left to a row so many rows further down. -/
def Carry.down (k : Nat) (carry : Carry) : Carry :=
  { carry with mode := carry.mode.down k }

variable {k row : Nat} {line : PhysicalLine}

@[simp] theorem map_down_lineEnd (length : Nat) (terminated : Bool) (depth : Nat) :
    (lineEnd row length terminated depth).map (Token.down k) =
      lineEnd (row + k) length terminated depth := by
  rw [lineEnd, lineEnd]
  split
  · rfl
  · split <;> rfl

@[simp] theorem map_down_indentTokens (blanks : List Char) (change : IndentChange) :
    (indentTokens row blanks change).map (Token.down k) =
      indentTokens (row + k) blanks change := by
  cases change with
  | same => rfl
  | opened => rfl
  | closed count => simp [indentTokens, Token.down, Position.down]

@[simp] theorem map_down_blankRowTokens (column : Nat) (rest : List Char) :
    (blankRowTokens row line column rest).map (Token.down k) =
      blankRowTokens (row + k) line column rest := by
  rw [blankRowTokens, blankRowTokens, List.map_append]
  congr 1
  · split <;> rfl
  · split <;> rfl

theorem finishRow_down (blocks : OpenBlocks) (scan : RowScan) :
    finishRow (row + k) line blocks (scan.down k) =
      ((finishRow row line blocks scan).1.map (Token.down k),
        (finishRow row line blocks scan).2.down k) := by
  rcases scan with ⟨tokens, depth, ending⟩
  cases ending with
  | complete => simp [finishRow, RowScan.down, RowEnd.down, Carry.down, RowMode.down]
  | continued => rfl
  | inString s => rfl

/-! ## The rules further down -/

theorem Scans.down {terminated : Bool} {column depth : Nat} {rest : List Char} {scan : RowScan}
    (k : Nat) (h : Scans row terminated column depth rest scan) :
    Scans (row + k) terminated column depth rest (scan.down k) := by
  -- No rule asks for the row.
  induction h with
  | done => exact done
  | blank blankChar _ ih => exact blank blankChar ih
  | comment => exact comment
  | continuation => exact continuation
  | lexeme begins token _ ih => exact lexeme begins token ih
  | openString begins front found goesOn => exact openString begins front found goesOn
  | brokenString begins front found stays => exact brokenString begins front found stays

theorem Steps.down {carry next : Carry} {tokens : List Token} (k : Nat)
    (h : Steps row line carry tokens next) :
    Steps (row + k) line (carry.down k) (tokens.map (Token.down k)) (next.down k) := by
  cases h with
  | blankRow isBlankRow =>
      rw [map_down_blankRowTokens]
      exact blankRow isBlankRow
  | statement notBlank moved scanned =>
      have later := statement notBlank moved (scanned.down k)
      rwa [finishRow_down, ← map_down_indentTokens, ← List.map_append] at later
  | @goesOn blocks depth mode _ inside scanned =>
      have inside' : mode.down k = .continued ∨ (mode.down k = .fresh ∧ depth ≠ 0) := by
        rcases inside with rfl | ⟨rfl, open_⟩
        · exact Or.inl rfl
        · exact Or.inr ⟨rfl, open_⟩
      have later : Steps (row + k) line ⟨blocks, depth, mode.down k⟩ _ _ :=
        goesOn inside' (scanned.down k)
      rwa [finishRow_down] at later
  | @stringCloses blocks depth n s _ found scanned =>
      have later : Steps (row + k) line ⟨blocks, depth, .inString (s.down k)⟩ _ _ :=
        stringCloses found (scanned.down k)
      rwa [finishRow_down] at later
  | @stringGoesOn _ _ s _ found goesOn => exact stringGoesOn (s := s.down k) found goesOn
  | @stringBreaks _ _ s _ found stays => exact stringBreaks (s := s.down k) found stays

/-- A row that fails does so further down as well. -/
theorem scanRow_down_eq_error {carry : Carry} {failure : TokenizeFailure}
    (h : scanRow row line carry = .error failure) :
    ∃ other, scanRow (row + k) line (carry.down k) = .error other := by
  -- The failure says where the row is, so it is another one.
  rcases scanRow_eq_error_iff.1 h with ⟨isFresh, isClosed, notBlank, stuck, -⟩
  have isFresh' : (carry.down k).mode = .fresh := by
    rw [Carry.down, isFresh]
    rfl
  exact ⟨_, scanRow_eq_error_iff.2 ⟨isFresh', isClosed, notBlank, stuck, rfl⟩⟩

/-- Rows further down have the same tokens, so many rows further down. -/
theorem tokens_scanRows_down (k row : Nat) (carry : Carry) (lines : List PhysicalLine) :
    (scanRows (row + k) (carry.down k) lines).1 =
      (scanRows row carry lines).1.map (Token.down k) := by
  induction lines generalizing row carry with
  | nil => rfl
  | cons line rest ih =>
      cases scanned : scanRow row line carry with
      | error failure =>
          rcases scanRow_down_eq_error (k := k) scanned with ⟨other, fails⟩
          rw [scanRows_cons_of_error scanned, scanRows_cons_of_error fails]
          rfl
      | ok result =>
          rcases result with ⟨tokens, next⟩
          -- The state moves along with the row: it may hold the start of a string.
          have moved := ((Steps.of_scanRow scanned).down k).scanRow_eq
          have place : row + k + 1 = row + 1 + k := Nat.add_right_comm row k 1
          rw [scanRows_cons_of_ok scanned, scanRows_cons_of_ok moved, List.map_append, ← ih, place]

end Python
end EditorAnalysis
