import EditorAnalysis.Proofs.Text.Bytes
import EditorAnalysis.Proofs.Text.Lines

/-!
# Rows of byte offsets

A byte offset that lies between characters cuts a text in two. In front of the cut are as many
whole lines as the row of the offset says, and then as many bytes as its byte column says. The line
of that row begins behind the whole lines and goes on to the next line feed, or to the carriage
return before it.
-/

namespace EditorAnalysis
namespace Text

/-- Whether a byte offset lies between two characters of a text, or at one of its ends. -/
def IsBoundary (text : List Char) (offset : Nat) : Prop :=
  (splitAtByte? offset text).isSome = true

instance (text : List Char) (offset : Nat) : Decidable (IsBoundary text offset) :=
  inferInstanceAs (Decidable (_ = true))

/-- Whether a text begins with a line feed, or with a carriage return that belongs to one. -/
def BeginsWithBreak (text : List Char) : Prop :=
  ['\n'] <+: text ∨ ['\r', '\n'] <+: text

theorem isBoundary_iff {text : List Char} {offset : Nat} :
    IsBoundary text offset ↔ ∃ front rest, text = front ++ rest ∧ byteLength front = offset := by
  rw [IsBoundary, Option.isSome_iff_exists, Prod.exists]
  simp only [splitAtByte?_eq_some_iff]

/-! ## Characters in front of a byte column -/

/-- Of two texts with which a line begins, the one of fewer bytes begins the other. -/
theorem prefix_of_byteLength_le {line front longer : List Char} (isFront : front <+: line)
    (isLonger : longer <+: line) (fewer : byteLength front ≤ byteLength longer) :
    front <+: longer := by
  rcases List.prefix_or_prefix_of_prefix isFront isLonger with shorter | ⟨rest, rfl⟩
  · exact shorter
  · rw [byteLength_append] at fewer
    have empty : rest = [] := eq_nil_of_byteLength_eq_zero (by omega)
    exact ⟨[], by rw [empty, List.append_nil, List.append_nil]⟩

@[simp] theorem charColumn_append (front rest : List Char) :
    charColumn (front ++ rest) (byteLength front) = front.length := by
  have inside : byteLength front ≤ byteLength (front ++ rest) := by
    rw [byteLength_append]
    exact Nat.le_add_right _ _
  have split : splitAtByte? (byteLength front) (front ++ rest) = some (front, rest) :=
    splitAtByte?_eq_some_iff.2 ⟨rfl, rfl⟩
  rw [charColumn, Nat.min_eq_left inside, split]

/-- A byte column behind the end of a line has the whole line in front. -/
theorem charColumn_of_le {line : List Char} {byteColumn : Nat}
    (behind : byteLength line ≤ byteColumn) : charColumn line byteColumn = line.length := by
  have whole : splitAtByte? (byteLength line) line = some (line, []) :=
    splitAtByte?_eq_some_iff.2 ⟨(List.append_nil line).symm, rfl⟩
  rw [charColumn, Nat.min_eq_right behind, whole]

/-! ## Rows and byte columns -/

@[simp] theorem advance_zero (base : BytePosition) (text : List Char) :
    advance base 0 text = base := by
  cases text with
  | nil => rfl
  | cons c cs => rw [advance, if_pos c.utf8Size_pos]; rfl

/-- Every line feed in front of an offset goes one row down. -/
theorem row_advance_append (base : BytePosition) (front rest : List Char) :
    (advance base (byteLength front) (front ++ rest)).row = base.row + front.count '\n' := by
  induction front generalizing base with
  | nil => rw [byteLength, advance_zero]; rfl
  | cons c cs ih =>
      have notBefore : ¬ c.utf8Size + byteLength cs < c.utf8Size := by omega
      rw [byteLength, List.cons_append, advance, if_neg notBefore, Nat.add_sub_cancel_left]
      split
      case isTrue isBreak =>
        rw [ih, isBreak, List.count_cons_self, Nat.add_right_comm, Nat.add_assoc]
      case isFalse notBreak =>
        rw [ih, List.count_cons_of_ne notBreak]

theorem row_bytePosition_append (front rest : List Char) :
    (bytePosition (front ++ rest) (byteLength front)).row = front.count '\n' := by
  rw [bytePosition, row_advance_append, Nat.zero_add]

/-- Characters without a line feed are passed within the row. -/
theorem advance_line {line : List Char} (noBreak : '\n' ∉ line) (base : BytePosition)
    (offset : Nat) (rest : List Char) :
    advance base (byteLength line + offset) (line ++ rest) =
      advance ⟨base.row, base.byteColumn + byteLength line⟩ offset rest := by
  induction line generalizing base with
  | nil => simp [byteLength]
  | cons c cs ih =>
      rw [List.mem_cons, not_or] at noBreak
      have notBefore : ¬ c.utf8Size + byteLength cs + offset < c.utf8Size := by omega
      have less : c.utf8Size + byteLength cs + offset - c.utf8Size = byteLength cs + offset := by
        omega
      rw [byteLength, List.cons_append, advance, if_neg notBefore, if_neg (Ne.symm noBreak.1), less,
        ih noBreak.2, Nat.add_assoc]

/-- Whole lines are passed to the front of the row behind them. -/
theorem advance_wholeLines {whole : List Char} (isWhole : WholeLines whole) (row offset : Nat)
    (rest : List Char) :
    advance ⟨row, 0⟩ (byteLength whole + offset) (whole ++ rest) =
      advance ⟨row + (physicalLines whole).length, 0⟩ offset rest := by
  induction whole using line_induction generalizing row with
  | last line noBreak =>
      rw [isWhole.eq_nil_of_not_mem noBreak]
      simp [byteLength]
  | step line more noBreak ih =>
      have lineFeed : ('\n' : Char).utf8Size = 1 := rfl
      rw [byteLength_append, byteLength, List.append_assoc, List.cons_append, Nat.add_assoc,
        advance_line noBreak, advance, lineFeed, if_neg (by omega), if_pos rfl, Nat.add_assoc,
        Nat.add_sub_cancel_left, ih isWhole.of_append_cons, physicalLines_append_cons noBreak,
        List.length_cons, Nat.add_assoc, Nat.add_comm 1]

/-- Where an offset lies that has whole lines and a part of a line in front. -/
theorem bytePosition_append {whole line : List Char} (isWhole : WholeLines whole)
    (noBreak : '\n' ∉ line) (rest : List Char) :
    bytePosition (whole ++ (line ++ rest)) (byteLength (whole ++ line)) =
      ⟨(physicalLines whole).length, byteLength line⟩ := by
  rw [bytePosition, byteLength_append, advance_wholeLines isWhole]
  simpa using advance_line noBreak ⟨0 + (physicalLines whole).length, 0⟩ 0 rest

/-! ## The line of a row -/

/-- A text that is not empty has a first line, and behind it the text ends or breaks. -/
theorem exists_firstLine {text : List Char} (notEmpty : text ≠ []) :
    ∃ line back, (physicalLines text)[0]? = some line ∧ text = line.content ++ back ∧
      (back = [] ∨ BeginsWithBreak back) := by
  by_cases hasBreak : '\n' ∈ text
  · rcases List.eq_append_cons_of_mem hasBreak with ⟨first, rest, rfl, noBreak⟩
    rw [physicalLines_append_cons noBreak]
    by_cases isReturn : first.getLast? = some '\r'
    · rcases List.getLast?_eq_some_iff.1 isReturn with ⟨content, rfl⟩
      refine ⟨⟨content, true⟩, '\r' :: '\n' :: rest, ?_, by simp, .inr (.inr ⟨rest, rfl⟩)⟩
      simp [PhysicalLine.beforeLineFeed]
    · refine ⟨⟨first, true⟩, '\n' :: rest, ?_, rfl, .inr (.inl ⟨rest, rfl⟩)⟩
      simp [PhysicalLine.beforeLineFeed, isReturn]
  · rw [physicalLines_of_not_mem hasBreak]
    cases text with
    | nil => exact absurd rfl notEmpty
    | cons c cs => exact ⟨⟨c :: cs, false⟩, [], rfl, (List.append_nil _).symm, .inl rfl⟩

/-- The line of a row begins behind the whole lines above it. -/
theorem exists_lineBehind {whole : List Char} (isWhole : WholeLines whole) (rest : List Char)
    (notEmpty : rest ≠ []) :
    ∃ line back, (physicalLines (whole ++ rest))[(physicalLines whole).length]? = some line ∧
      rest = line.content ++ back ∧ (back = [] ∨ BeginsWithBreak back) := by
  rcases exists_firstLine notEmpty with ⟨line, back, first, split, ends⟩
  refine ⟨line, back, ?_, split, ends⟩
  rw [physicalLines_append isWhole, List.getElem?_append_right (Nat.le_refl _), Nat.sub_self, first]

/-- Behind a place of a row there is the rest of its line and then the line break. The place may
also be inside the line break; nothing of the line is left then. -/
theorem exists_breakBehind {before rest content tail : List Char} (noBreak : '\n' ∉ before)
    (split : before ++ rest = content ++ tail) (breaks : BeginsWithBreak tail) :
    ∃ back, rest = content.drop (charColumn content (byteLength before)) ++ back ∧
      BeginsWithBreak back := by
  rcases List.append_eq_append_iff.1 split with ⟨after, rfl, isRest⟩ | ⟨more, rfl, isTail⟩
  · rw [charColumn_append, List.drop_left]
    exact ⟨tail, isRest, breaks⟩
  · have behind : byteLength content ≤ byteLength (content ++ more) := by
      rw [byteLength_append]
      exact Nat.le_add_right _ _
    rw [charColumn_of_le behind, List.drop_length]
    refine ⟨rest, rfl, ?_⟩
    rw [isTail] at breaks
    -- No line feed is in front of the place, and so no more of the break than its carriage return.
    cases more with
    | nil => exact breaks
    | cons c cs =>
        rw [List.mem_append, not_or, List.mem_cons, not_or] at noBreak
        rcases breaks with ⟨_, isBreak⟩ | ⟨_, isBreak⟩
        · exact absurd (List.cons.inj isBreak).1 noBreak.2.1
        · cases cs with
          | nil => exact .inl ⟨_, (List.cons.inj isBreak).2⟩
          | cons d ds =>
              have isFeed := (List.cons.inj (List.cons.inj isBreak).2).1
              exact absurd (isFeed ▸ List.mem_cons_self) noBreak.2.2

end Text
end EditorAnalysis
