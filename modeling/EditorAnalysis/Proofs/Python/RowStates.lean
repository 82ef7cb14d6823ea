import EditorAnalysis.Proofs.Python.Locality

/-!
# The state in front of a row

The scan of a text enters its rows one after the other, up to the first that fails. What is said
here of one row is said of its place in the whole text: which tokens of the stream are those of the
row, and what stands in front of them and behind.
-/

namespace EditorAnalysis
namespace Python

open Text

/-- Whether the rows above a row are scanned to their end and leave a state to it. -/
def Enters (lines : List PhysicalLine) (row : Nat) (carry : Carry) : Prop :=
  (scanRows 0 .initial (lines.take row)).2 = .ok carry

instance (lines : List PhysicalLine) (row : Nat) (carry : Carry) :
    Decidable (Enters lines row carry) :=
  inferInstanceAs (Decidable (_ = _))

/-- Whether a row is entered outside strings, brackets and continuations. -/
def StandsOutside (lines : List PhysicalLine) (row : Nat) : Prop :=
  ∃ blocks, Enters lines row ⟨blocks, 0, .fresh⟩

/-- Whether a row is scanned: neither it nor a row above it fails. -/
def IsScanned (lines : List PhysicalLine) (row : Nat) : Prop :=
  ∃ next, Enters lines (row + 1) next

variable {lines : List PhysicalLine} {row : Nat} {line : PhysicalLine} {carry next : Carry}
  {tokens : List Token}

theorem take_succ_of_getElem? (hline : lines[row]? = some line) :
    lines.take (row + 1) = lines.take row ++ [line] := by
  rw [List.take_add_one, hline]
  rfl

namespace Enters

theorem eq_scanRows (h : Enters lines row carry) :
    scanRows 0 .initial (lines.take row) =
      ((scanRows 0 .initial (lines.take row)).1, .ok carry) :=
  Prod.ext rfl h

theorem unique {other : Carry} (h : Enters lines row carry) (also : Enters lines row other) :
    carry = other :=
  Except.ok.inj (h.symm.trans also)

theorem zero (lines : List PhysicalLine) : Enters lines 0 .initial := rfl

/-- The row above one that is entered is scanned. -/
theorem exists_steps (h : Enters lines (row + 1) next) (hline : lines[row]? = some line) :
    ∃ carry tokens, Enters lines row carry ∧ Steps row line carry tokens next ∧
      (scanRows 0 .initial (lines.take (row + 1))).1 =
        (scanRows 0 .initial (lines.take row)).1 ++ tokens := by
  have scanned := h.eq_scanRows
  rw [take_succ_of_getElem? hline] at scanned ⊢
  rcases exists_of_scanRows_concat scanned with ⟨front, carry, tokens, above, step, whole⟩
  have place : 0 + (lines.take row).length = row := by
    rw [Nat.zero_add, List.length_take]
    exact Nat.min_eq_left (Nat.le_of_lt (List.getElem?_eq_some_iff.1 hline).1)
  rw [place] at step
  refine ⟨carry, tokens, congrArg Prod.snd above, step, ?_⟩
  rw [whole, above]

/-- Rows above one that is entered are entered. -/
theorem exists_of_le {upper : Nat} (h : Enters lines row carry) (le : upper ≤ row) :
    ∃ before, Enters lines upper before := by
  cases scanned : scanRows 0 .initial (lines.take upper) with
  | mk tokens outcome =>
      cases outcome with
      | ok before => exact ⟨before, congrArg Prod.snd scanned⟩
      | error failure =>
          have whole : lines.take row = lines.take upper ++ (lines.take row).drop upper := by
            calc
              lines.take row = (lines.take row).take upper ++ (lines.take row).drop upper :=
                (List.take_append_drop upper _).symm
              _ = lines.take upper ++ (lines.take row).drop upper := by
                rw [List.take_take, Nat.min_eq_left le]
          -- A row that fails hides what is behind it.
          rw [Enters, whole, scanRows_append_of_error scanned] at h
          cases h

/-- The tokens of a text are those of the rows above one that is entered, and others that do not
stop above it. -/
theorem exists_tokens (h : Enters lines row carry) (inside : row ≤ lines.length) :
    ∃ back, (tokenizeLines lines).tokens = (scanRows 0 .initial (lines.take row)).1 ++ back ∧
      ∀ t ∈ back, row ≤ t.stop.line := by
  rcases exists_tokens_tokenizeLines lines with ⟨behind, tokens, stand⟩
  have scanned := scanRows_append_of_ok h.eq_scanRows (lines.drop row)
  rw [List.take_append_drop, List.length_take, Nat.min_eq_left inside, Nat.zero_add] at scanned
  rw [scanned, List.append_assoc] at tokens
  refine ⟨_, tokens, ?_⟩
  intro t ht
  rcases List.mem_append.1 ht with below | atEnd
  · exact (stop_line_of_mem_scanRows below).1
  · rcases stand t atEnd with ⟨kind, -, rfl⟩
    exact inside

theorem stop_line_lt {t : Token} (ht : t ∈ (scanRows 0 .initial (lines.take row)).1) :
    t.stop.line < row := by
  have stops := (stop_line_of_mem_scanRows ht).2
  rw [Nat.zero_add, List.length_take] at stops
  exact Nat.lt_of_lt_of_le stops (Nat.min_le_left _ _)

/-- A row that is scanned has its tokens between those that stop above it and those that stop below
it. -/
theorem exists_row (h : Enters lines (row + 1) next) (hline : lines[row]? = some line) :
    ∃ carry tokens back, Enters lines row carry ∧ Steps row line carry tokens next ∧
      (tokenizeLines lines).tokens =
        (scanRows 0 .initial (lines.take row)).1 ++ tokens ++ back ∧
      (∀ t ∈ (scanRows 0 .initial (lines.take row)).1, t.stop.line < row) ∧
      ∀ t ∈ back, row < t.stop.line := by
  rcases h.exists_steps hline with ⟨carry, tokens, above, step, front⟩
  rcases h.exists_tokens (List.getElem?_eq_some_iff.1 hline).1 with ⟨back, whole, below⟩
  rw [front] at whole
  exact ⟨carry, tokens, back, above, step, whole, fun t => stop_line_lt, below⟩

theorem length (h : scanRows 0 .initial lines = (tokens, .ok carry)) :
    Enters lines lines.length carry := by
  rw [Enters, List.take_length, h]

/-- A string that is open in front of a row starts above it. -/
theorem start_line_lt (h : Enters lines row carry) {s : OpenString}
    (inString : carry.mode = .inString s) : s.start.line < row := by
  have reaches := (openString_of_scanRows h.eq_scanRows inString).2.2
  exact Nat.lt_of_lt_of_le reaches.before (List.length_take_le row lines)

end Enters

/-- When no row fails, all rows are scanned. -/
theorem isScanned_of_scanRows (h : scanRows 0 .initial lines = (tokens, .ok carry))
    (inside : row < lines.length) : IsScanned lines row :=
  (Enters.length h).exists_of_le inside

/-- When a row fails, the rows above it are scanned, and neither it nor any row below. -/
theorem isScanned_iff_of_error {front : List PhysicalLine} {failure : TokenizeFailure}
    (above : scanRows 0 .initial front = (tokens, .ok carry))
    (fails : scanRow front.length line carry = .error failure) (back : List PhysicalLine) :
    IsScanned (front ++ line :: back) row ↔ row < front.length := by
  have entered : Enters (front ++ line :: back) front.length carry := by
    rw [Enters, List.take_left, above]
  have isRow : (front ++ line :: back)[front.length]? = some line := by
    rw [List.getElem?_append_right (Nat.le_refl _), Nat.sub_self]
    rfl
  constructor
  · rintro ⟨next, after⟩
    refine Nat.lt_of_not_le fun below => ?_
    -- The scan would have to come past the row that fails.
    rcases after.exists_of_le (Nat.succ_le_succ below) with ⟨last, past⟩
    rcases past.exists_steps isRow with ⟨before, here, stood, step, -⟩
    cases stood.unique entered
    rw [step.scanRow_eq] at fails
    cases fails
  · exact fun higher => entered.exists_of_le higher

/-- Every token but strings and errors stops in the row in which it starts. -/
theorem start_line_eq_stop_line {t : Token} (ht : t ∈ (tokenizeLines lines).tokens)
    (notString : t.kind ≠ .string) (notError : t.kind ≠ .error) : t.start.line = t.stop.line := by
  rcases exists_tokens_tokenizeLines lines with ⟨behind, tokens, stand⟩
  rw [tokens] at ht
  rcases List.mem_append.1 ht with inRows | atEnd
  · rcases exists_steps_of_mem_scanRows inRows with ⟨place, _, _, here, _, -, -, step, inHere⟩
    rw [step.stop_line t inHere]
    rcases step.start_line inHere with own | ⟨s, -, -, isString | isError⟩
    · exact own
    · exact absurd isString notString
    · exact absurd isError notError
  · rcases stand t atEnd with ⟨kind, -, rfl⟩
    rfl

theorem start_line_eq_stop_line_of_isBlockToken {t : Token}
    (ht : t ∈ (tokenizeLines lines).tokens) (isBlock : t.isBlockToken = true) :
    t.start.line = t.stop.line := by
  refine start_line_eq_stop_line ht ?_ ?_
  · intro isString
    simp [Token.isBlockToken, isString] at isBlock
  · intro isError
    simp [Token.isBlockToken, isError] at isBlock

theorem start_line_le_stop_line {t : Token} (ht : t ∈ (tokenizeLines lines).tokens) :
    t.start.line ≤ t.stop.line := by
  rcases tiles_tokenizeLines lines with ⟨q, tiled, -⟩
  exact Position.line_le_of_le (tiled.between ht).2.1

end Python
end EditorAnalysis
