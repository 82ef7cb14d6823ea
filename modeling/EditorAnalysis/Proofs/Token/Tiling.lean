import EditorAnalysis.Classifier
import EditorAnalysis.Proofs.Text.Slice

/-!
# Tokens that tile a text

Tokens tile a text between two places when they stand there in order, each holds what the text has
between its ends, and what lies between them is white space or a continuation backslash. `Tiles`
builds such a run of tokens from the left. The three things that one wants to know of the tokens
(their order, their texts and what they leave out) are read off a run.
-/

namespace EditorAnalysis

open Text

namespace Token

/-- Whether a token is the end of a row. -/
def isLineEnd (t : Token) : Bool :=
  t.kind == .newline || t.kind == .nonLogicalNewline

/-- Whether a token is where it says in a text. The end of a row stands behind the last character
of it and is empty in a row without a line feed. Any other token lies within the rows of its ends
and holds the characters between them. -/
def StandsIn (lines : List PhysicalLine) (t : Token) : Prop :=
  if t.isLineEnd then
    ∃ line, lines[t.start.line]? = some line ∧ t.start.column = line.content.length ∧
      t.text = if line.terminated then "\n" else ""
  else
    t.start.column ≤ (rowText lines t.start.line).length ∧
      t.stop.column ≤ (rowText lines t.stop.line).length ∧
      t.text.toList = textBetween lines t.start t.stop

/-- A token that covers nothing and has no text stands at every place of a row. -/
theorem standsIn_point {lines : List PhysicalLine} {kind : TokenKind} {p : Position}
    (notEnd : kind ≠ .newline ∧ kind ≠ .nonLogicalNewline)
    (inside : p.column ≤ (rowText lines p.line).length) :
    (⟨kind, "", p, p⟩ : Token).StandsIn lines := by
  have other : (⟨kind, "", p, p⟩ : Token).isLineEnd = false := by
    simp [isLineEnd, notEnd]
  rw [StandsIn, if_neg (by simp [other])]
  have nothing : textBetween lines p p = [] := by
    rcases p with ⟨row, column⟩
    rw [textBetween_row]
    simp
  exact ⟨inside, inside, nothing.symm⟩

end Token

/-- Whether a character of a row may lie outside of all tokens: white space within the row, or a
backslash at the end of it. -/
def IsGap (lines : List PhysicalLine) (row column : Nat) (c : Char) : Prop :=
  c = ' ' ∨ c = '\t' ∨ c = '\x0c' ∨ (c = '\\' ∧ column + 1 = (rowText lines row).length)

/-- The tokens that tile a text from one place to another. -/
inductive Tiles (lines : List PhysicalLine) : Position → List Token → Position → Prop where
  | done {p : Position} : Tiles lines p [] p
  | skip {row column : Nat} {c : Char} {tokens : List Token} {q : Position} :
      (rowText lines row)[column]? = some c → IsGap lines row column c →
      Tiles lines ⟨row, column + 1⟩ tokens q → Tiles lines ⟨row, column⟩ tokens q
  | nextRow {row column : Nat} {tokens : List Token} {q : Position} :
      (rowText lines row).length ≤ column →
      Tiles lines ⟨row + 1, 0⟩ tokens q → Tiles lines ⟨row, column⟩ tokens q
  | token {t : Token} {tokens : List Token} {q : Position} :
      t.StandsIn lines → t.start ≤ t.stop →
      Tiles lines t.stop tokens q → Tiles lines t.start (t :: tokens) q

namespace Tiles

variable {lines : List PhysicalLine} {p q r : Position} {tokens more : List Token}

/-! ## Putting runs together -/

theorem trans (first : Tiles lines p tokens q) (second : Tiles lines q more r) :
    Tiles lines p (tokens ++ more) r := by
  induction first with
  | done => exact second
  | skip char gap _ ih => exact skip char gap (ih second)
  | nextRow past _ ih => exact nextRow past (ih second)
  | token stands ordered _ ih => exact token stands ordered (ih second)

theorem singleton {t : Token} (stands : t.StandsIn lines) (ordered : t.start ≤ t.stop) :
    Tiles lines t.start [t] t.stop :=
  token stands ordered done

/-- From the end of a row to the front of the next one. -/
theorem rowBreak {row column : Nat} (h : (rowText lines row).length ≤ column) :
    Tiles lines ⟨row, column⟩ [] ⟨row + 1, 0⟩ :=
  nextRow h done

/-- Over a run of characters that may lie outside of all tokens. -/
theorem skips {row column : Nat} {cs : List Char}
    (text : ∀ i c, cs[i]? = some c →
      (rowText lines row)[column + i]? = some c ∧ IsGap lines row (column + i) c) :
    Tiles lines ⟨row, column⟩ [] ⟨row, column + cs.length⟩ := by
  induction cs generalizing column with
  | nil => exact done
  | cons c cs ih =>
      have here := text 0 c rfl
      have there : ∀ i d, cs[i]? = some d →
          (rowText lines row)[column + 1 + i]? = some d ∧ IsGap lines row (column + 1 + i) d := by
        intro i d hd
        have place : column + (i + 1) = column + 1 + i := by omega
        rw [← place]
        exact text (i + 1) d (by simpa using hd)
      have rest := ih there
      rw [Nat.add_right_comm] at rest
      exact skip here.1 here.2 rest

/-- Tokens that cover nothing, all at one place. -/
theorem replicate {kind : TokenKind}
    (stands : (⟨kind, "", p, p⟩ : Token).StandsIn lines) (count : Nat) :
    Tiles lines p (List.replicate count ⟨kind, "", p, p⟩) p := by
  induction count with
  | zero => exact done
  | succ count ih => exact token (t := ⟨kind, "", p, p⟩) stands (Position.le_refl p) ih

/-! ## Order -/

theorem le (h : Tiles lines p tokens q) : p ≤ q := by
  induction h with
  | done => exact Position.le_refl _
  | skip _ _ _ ih => exact Position.le_trans (Position.le_nextColumn _ _) ih
  | nextRow _ _ ih => exact Position.le_trans (Position.le_nextRow _ _ _) ih
  | token _ ordered _ ih => exact Position.le_trans ordered ih

/-- The tokens of a run lie between its ends. -/
theorem between (h : Tiles lines p tokens q) {t : Token} (ht : t ∈ tokens) :
    p ≤ t.start ∧ t.start ≤ t.stop ∧ t.stop ≤ q := by
  induction h with
  | done => cases ht
  | skip _ _ _ ih =>
      have inside := ih ht
      exact ⟨Position.le_trans (Position.le_nextColumn _ _) inside.1, inside.2⟩
  | nextRow _ _ ih =>
      have inside := ih ht
      exact ⟨Position.le_trans (Position.le_nextRow _ _ _) inside.1, inside.2⟩
  | token _ ordered rest ih =>
      rcases List.mem_cons.1 ht with rfl | later
      · exact ⟨Position.le_refl _, ordered, rest.le⟩
      · have inside := ih later
        exact ⟨Position.le_trans ordered inside.1, inside.2⟩

/-- Of two tokens next to each other the first stops before the second starts. -/
theorem stop_le_start (h : Tiles lines p tokens q) {i : Nat} {t u : Token}
    (ht : tokens[i]? = some t) (hu : tokens[i + 1]? = some u) : t.stop ≤ u.start := by
  induction h generalizing i with
  | done => cases ht
  | skip _ _ _ ih => exact ih ht hu
  | nextRow _ _ ih => exact ih ht hu
  | token _ _ rest ih =>
      cases i with
      | zero =>
          cases ht
          exact (rest.between (List.mem_of_getElem? hu)).1
      | succ i => exact ih ht hu

/-- The tokens of a run start one after the other. -/
theorem pairwise_start (h : Tiles lines p tokens q) :
    tokens.Pairwise fun t u => t.start ≤ u.start := by
  induction h with
  | done => exact List.Pairwise.nil
  | skip _ _ _ ih => exact ih
  | nextRow _ _ ih => exact ih
  | token _ ordered rest ih =>
      refine List.pairwise_cons.2 ⟨fun u hu => ?_, ih⟩
      exact Position.le_trans ordered (rest.between hu).1

/-! ## Texts and gaps -/

theorem standsIn (h : Tiles lines p tokens q) {t : Token} (ht : t ∈ tokens) :
    t.StandsIn lines := by
  induction h with
  | done => cases ht
  | skip _ _ _ ih => exact ih ht
  | nextRow _ _ ih => exact ih ht
  | token stands _ _ ih =>
      rcases List.mem_cons.1 ht with rfl | later
      · exact stands
      · exact ih later

/-- What lies between the ends of a run and in none of its tokens may lie there. -/
theorem isGap (h : Tiles lines p tokens q) {row column : Nat} {c : Char}
    (char : (rowText lines row)[column]? = some c) (behind : p ≤ ⟨row, column⟩)
    (before : ¬ q ≤ ⟨row, column⟩) (outside : ∀ t ∈ tokens, t.covers row column = false) :
    IsGap lines row column c := by
  induction h with
  | done => exact absurd behind before
  -- The character that was skipped is this one, or the rest of the run lies behind it.
  | @skip row' column' c' _ _ char' gap _ ih =>
      by_cases here : (⟨row', column'⟩ : Position) = ⟨row, column⟩
      · cases here
        rw [char] at char'
        cases char'
        exact gap
      · refine ih ?_ before outside
        rw [Position.le_def] at behind ⊢
        simp only [Position.mk.injEq] at here
        simp only at behind ⊢
        omega
  -- Behind the end of a row there is no character of it.
  | @nextRow row' column' _ _ past _ ih =>
      refine ih ?_ before outside
      have inside : column < (rowText lines row).length :=
        (List.getElem?_eq_some_iff.1 char).1
      rw [Position.le_def] at behind ⊢
      simp only at behind ⊢
      rcases behind with earlier | ⟨rfl, _⟩
      · omega
      · omega
  -- A place that is not before the token and not in it is behind it.
  | @token t _ _ _ _ _ ih =>
      refine ih ?_ before fun u hu => outside u (List.mem_cons_of_mem _ hu)
      have notHere := outside t List.mem_cons_self
      rw [Position.le_def] at behind ⊢
      simp only [Token.covers, Bool.and_eq_false_iff, Bool.or_eq_false_iff, bne_eq_false_iff_eq,
        decide_eq_false_iff_not] at notHere
      simp only at behind ⊢
      omega

end Tiles
end EditorAnalysis
