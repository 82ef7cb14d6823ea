import EditorAnalysis.Json.Lexeme

/-!
# Written texts

A text that is written between quotes is read back between them: the spelling of each character is
one piece, and the pieces spell the characters of the text.
-/

namespace EditorAnalysis
namespace Json

variable {rest : List Char}

/-- What a scan comes to when it begins one piece earlier. -/
def withPiece (piece : Piece) (scan : List Piece × Except Fault (List Char)) :
    List Piece × Except Fault (List Char) :=
  (piece :: scan.1, scan.2)

/-! ## The three spellings of a character -/

theorem scanText_short {c e : Char} (notNumber : c ≠ 'u') (means : shortEscape? c = some e) :
    scanText ('\\' :: c :: rest) = withPiece (.char e) (scanText rest) := by
  rw [scanText.eq_4 c rest notNumber, means]
  rfl

theorem scanText_plain {c : Char} (notQuote : c ≠ '"') (notEscape : c ≠ '\\')
    (notControl : ¬ c.toNat < 0x20) :
    scanText (c :: rest) = withPiece (.char c) (scanText rest) := by
  rw [scanText.eq_5 c rest (fun isEscape _ => notEscape isEscape)
    (fun _ isEscape _ => notEscape isEscape) fun _ _ isEscape _ => notEscape isEscape,
    if_neg notQuote, if_neg notControl]
  rfl

/-- The number of a control character takes four digits, the first two of them zeros. -/
theorem hexUnit_hexFour {n : Nat} (control : n < 0x20) (rest : List Char) :
    (hexFour n).length = 4 ∧ hexUnit (hexFour n ++ rest) = .ok n := by
  have each : ∀ k < 0x20, (hexFour k).length = 4 ∧ Text.byteLength (hexFour k) = 4 ∧
      (hexFour k).mapM hexValue? = some [0, 0, k / 16, k % 16] := by decide +kernel
  rcases each n control with ⟨length, bytes, values⟩
  have four : (hexFour n ++ rest).take 4 = hexFour n := List.take_left' length
  refine ⟨length, ?_⟩
  simp only [hexUnit, four, bytes, values, Nat.lt_irrefl, if_false, List.foldl_cons,
    List.foldl_nil, Except.ok.injEq]
  omega

theorem scanText_number {n : Nat} (control : n < 0x20) :
    scanText ('\\' :: 'u' :: hexFour n ++ rest) = withPiece (.unit n) (scanText rest) := by
  rcases hexUnit_hexFour control rest with ⟨length, value⟩
  rw [List.cons_append, List.cons_append, scanText.eq_3, value, List.drop_left' length]
  rfl

/-! ## Whole texts -/

/-- The characters that are written as a backslash and a letter or mark. -/
def shortlyEscaped : List Char :=
  ['"', '\\', '\n', '\r', '\t', '\x08', '\x0c']

/-- The piece that a character is written as: its number if it is a control character without a
short name. -/
def writtenPiece (c : Char) : Piece :=
  if c ∉ shortlyEscaped ∧ c.toNat < 0x20 then .unit c.toNat else .char c

/-- The spelling of a character is scanned as one piece of the text. -/
theorem scanText_renderChar (c : Char) (rest : List Char) :
    scanText (renderChar c ++ rest) = withPiece (writtenPiece c) (scanText rest) := by
  by_cases isShort : c ∈ shortlyEscaped
  · rw [writtenPiece, if_neg fun number => number.1 isShort]
    simp only [shortlyEscaped, List.mem_cons, List.not_mem_nil, or_false] at isShort
    rcases isShort with rfl | rfl | rfl | rfl | rfl | rfl | rfl
    all_goals exact scanText_short (by decide) rfl
  · have spelling : renderChar c =
        if c.toNat < 0x20 then '\\' :: 'u' :: hexFour c.toNat else [c] := by
      simp only [shortlyEscaped, List.mem_cons, List.not_mem_nil, or_false, not_or] at isShort
      simp only [renderChar, isShort, if_false]
    have notMark : c ≠ '"' ∧ c ≠ '\\' := by
      constructor
      · rintro rfl
        exact isShort (by decide)
      · rintro rfl
        exact isShort (by decide)
    rw [spelling, writtenPiece]
    by_cases control : c.toNat < 0x20
    · rw [if_pos control, if_pos ⟨isShort, control⟩]
      exact scanText_number control
    · rw [if_neg control, if_neg fun number => control number.2]
      exact scanText_plain notMark.1 notMark.2 control

theorem scanText_flatMap_renderChar (cs rest : List Char) :
    scanText (cs.flatMap renderChar ++ '"' :: rest) = (cs.map writtenPiece, .ok rest) := by
  induction cs with
  | nil =>
      rw [List.flatMap_nil, List.nil_append, scanText.eq_5 '"' rest (by simp) (by simp) (by simp),
        if_pos rfl]
      rfl
  | cons c cs ih =>
      rw [List.flatMap_cons, List.append_assoc, scanText_renderChar, ih]
      rfl

/-- A unit that is no half of a surrogate pair stands for itself. -/
theorem decode_unit_cons {n : Nat} {pieces : List Piece}
    (notTrailing : ¬ Piece.isTrailing n = true) (notLeading : ¬ Piece.isLeading n = true) :
    Piece.decode (.unit n :: pieces) = (Piece.decode pieces).map (Char.ofNat n :: ·) := by
  rw [Piece.decode.eq_def]
  simp only
  rw [if_neg notTrailing, if_neg notLeading]

/-- The pieces that characters are written as spell these characters. -/
theorem decode_map_writtenPiece (cs : List Char) :
    Piece.decode (cs.map writtenPiece) = some cs := by
  induction cs with
  | nil => rfl
  | cons c cs ih =>
      rw [List.map_cons, writtenPiece]
      split
      case isTrue number =>
        -- A control character is no surrogate.
        have low : c.toNat < 0x20 := number.2
        have notTrailing : ¬ Piece.isTrailing c.toNat = true := by simp [Piece.isTrailing]; omega
        have notLeading : ¬ Piece.isLeading c.toNat = true := by simp [Piece.isLeading]; omega
        rw [decode_unit_cons notTrailing notLeading, ih, Option.map_some, Char.ofNat_toNat]
      case isFalse => rw [Piece.decode, ih, Option.map_some]

/-- A text that is written is the front of the text that it is written into. -/
theorem textLexeme_renderText (s : String) (rest : List Char) :
    textLexeme (s.toList.flatMap renderChar ++ '"' :: rest) = (.text (some s), some rest) := by
  simp only [textLexeme, scanText_flatMap_renderChar, decode_map_writtenPiece, Option.map_some,
    String.ofList_toList]

end Json
end EditorAnalysis
