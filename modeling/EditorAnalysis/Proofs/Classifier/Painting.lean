import EditorAnalysis.Classifier

/-!
# What tokens leave in a row

The class of a character is the colour of the last token that covers it and has one, and the error
of a row that of the first error token in it. Tokens of other rows leave nothing, and tokens that
are moved down by some rows leave the same so many rows further down.
-/

namespace EditorAnalysis

open Text

variable {keywords : KeywordSet} {row length column : Nat} {tokens : List Token}

namespace Token

/-- Whether a token can leave something in the table: a colour or an error. -/
def marks (t : Token) : Bool :=
  match t.kind with
  | .name | .string | .number | .comment | .operator | .error => true
  | .newline | .nonLogicalNewline | .indent | .dedent | .endMarker => false

/-- The class that a token gives to one character, if it gives one. -/
def colourAt? (keywords : KeywordSet) (row column : Nat) (t : Token) : Option CharClass :=
  if t.covers row column then t.colour? keywords else none

theorem colourAt?_of_not_marks {t : Token} (h : t.marks = false) :
    t.colourAt? keywords row column = none := by
  rcases t with ⟨kind, text, start, stop⟩
  cases kind <;> simp [marks] at h <;> simp [colourAt?, colour?]

/-- A token that stops before a place does not cover it. -/
theorem covers_of_stop_le {t : Token} (h : t.stop ≤ ⟨row, column⟩) :
    t.covers row column = false := by
  rcases h with above | ⟨here, before⟩
  · have past : ¬ row ≤ t.stop.line := Nat.not_le_of_lt above
    simp [covers, past]
  · have past : ¬ column < t.stop.column := Nat.not_lt_of_le before
    simp only at here
    simp [covers, here, past]

theorem covers_of_stop_line_lt {t : Token} (h : t.stop.line < row) :
    t.covers row column = false :=
  covers_of_stop_le (Or.inl h)

theorem covers_of_lt_start_line {t : Token} (h : row < t.start.line) :
    t.covers row column = false := by
  have ahead : ¬ t.start.line ≤ row := Nat.not_le_of_lt h
  simp [covers, ahead]

/-- A token that is not empty covers the place where it starts. -/
theorem covers_start {t : Token}
    (h : t.start.line < t.stop.line ∨
      (t.start.line = t.stop.line ∧ t.start.column < t.stop.column)) :
    t.covers t.start.line t.start.column = true := by
  rcases h with later | ⟨same, before⟩
  · have other : ¬ t.start.line = t.stop.line := Nat.ne_of_lt later
    simp [covers, Nat.le_of_lt later, other]
  · have upTo : t.start.line ≤ t.stop.line := Nat.le_of_eq same
    simp [covers, upTo, before]

/-- A painted character has the colour of the token, or else keeps its class. -/
theorem getElem?_paint (t : Token) (classes : List CharClass) :
    (t.paint keywords row classes)[column]? =
      classes[column]?.map ((t.colourAt? keywords row column).getD ·) := by
  by_cases meets : t.start.line ≤ row ∧ row ≤ t.stop.line
  · cases colour : t.colour? keywords with
    | none => simp [paint, colourAt?, colour]
    | some class_ =>
        simp only [paint, meets, colour, colourAt?, and_self, if_true, List.getElem?_mapIdx]
        by_cases covered : t.covers row column = true
        · simp [covered]
        · simp [covered]
  · -- A token whose rows do not reach here paints nothing and covers nothing.
    have uncovered : t.covers row column = false := by
      rcases Nat.lt_or_ge row t.start.line with below | notBelow
      · exact covers_of_lt_start_line below
      · exact covers_of_stop_line_lt (Nat.lt_of_not_le fun notAbove => meets ⟨notBelow, notAbove⟩)
    simp [paint, meets, colourAt?, uncovered]

end Token

/-! ## The class of a character -/

/-- The class that tokens give to one character, if one of them does: the last word counts. -/
def colourIn? (keywords : KeywordSet) (tokens : List Token) (row column : Nat) :
    Option CharClass :=
  tokens.reverse.findSome? (Token.colourAt? keywords row column)

theorem colourIn?_append (front back : List Token) :
    colourIn? keywords (front ++ back) row column =
      (colourIn? keywords back row column).or (colourIn? keywords front row column) := by
  simp [colourIn?, List.findSome?_append]

theorem colourIn?_cons (t : Token) (rest : List Token) :
    colourIn? keywords (t :: rest) row column =
      (colourIn? keywords rest row column).or (t.colourAt? keywords row column) := by
  simp [colourIn?, List.findSome?_append]

theorem colourIn?_eq_none (h : ∀ t ∈ tokens, t.colourAt? keywords row column = none) :
    colourIn? keywords tokens row column = none := by
  simpa [colourIn?, List.findSome?_eq_none_iff] using h

theorem getElem?_foldl_paint (tokens : List Token) (classes : List CharClass) :
    (tokens.foldl (fun classes t => t.paint keywords row classes) classes)[column]? =
      classes[column]?.map ((colourIn? keywords tokens row column).getD ·) := by
  induction tokens generalizing classes with
  | nil => simp [colourIn?]
  | cons t rest ih =>
      -- The rest is painted over what the first token left, so its word counts.
      rw [List.foldl_cons, ih, Token.getElem?_paint, Option.map_map]
      congr 1
      funext c
      rw [colourIn?_cons]
      cases colourIn? keywords rest row column <;> simp

/-- A row is painted character by character. -/
theorem paintedRow_eq_map (keywords : KeywordSet) (tokens : List Token) (row length : Nat) :
    paintedRow keywords tokens row length =
      (List.range length).map
        fun column => (colourIn? keywords tokens row column).getD CharClass.empty := by
  apply List.ext_getElem?
  intro column
  rw [paintedRow, getElem?_foldl_paint, List.getElem?_map]
  by_cases inside : column < length
  · simp [inside]
  · simp [inside]

/-- Streams that colour a row alike paint it alike. -/
theorem paintedRow_congr {other : List Token} {otherRow : Nat}
    (h : ∀ column, colourIn? keywords tokens row column =
      colourIn? keywords other otherRow column) (length : Nat) :
    paintedRow keywords tokens row length = paintedRow keywords other otherRow length := by
  rw [paintedRow_eq_map, paintedRow_eq_map]
  exact List.map_congr_left fun column _ => congrArg (·.getD CharClass.empty) (h column)

/-- Tokens without a mark may be left out. -/
theorem colourIn?_filter_marks (tokens : List Token) :
    colourIn? keywords (tokens.filter Token.marks) row column =
      colourIn? keywords tokens row column := by
  induction tokens with
  | nil => rfl
  | cons t rest ih =>
      by_cases marks : t.marks = true
      · rw [List.filter_cons_of_pos marks, colourIn?_cons, colourIn?_cons, ih]
      · -- A token without a mark has no word in it.
        have silent : t.colourAt? keywords row column = none :=
          Token.colourAt?_of_not_marks (Bool.eq_false_iff.2 marks)
        rw [List.filter_cons_of_neg marks, colourIn?_cons, ih, silent, Option.or_none]

theorem colourIn?_eq_of_filter_marks_eq {other : List Token}
    (h : tokens.filter Token.marks = other.filter Token.marks) :
    colourIn? keywords tokens row column = colourIn? keywords other row column := by
  rw [← colourIn?_filter_marks tokens, h, colourIn?_filter_marks]

/-- Tokens of earlier rows do not colour a row. -/
theorem colourIn?_append_of_above {front : List Token} (h : ∀ t ∈ front, t.stop.line < row)
    (back : List Token) :
    colourIn? keywords (front ++ back) row column = colourIn? keywords back row column := by
  have silent : colourIn? keywords front row column = none := by
    apply colourIn?_eq_none
    intro t ht
    simp [Token.colourAt?, Token.covers_of_stop_line_lt (h t ht)]
  rw [colourIn?_append, silent, Option.or_none]

/-- Tokens of later rows do not colour a row. -/
theorem colourIn?_append_of_below {back : List Token} (h : ∀ t ∈ back, row < t.start.line)
    (front : List Token) :
    colourIn? keywords (front ++ back) row column = colourIn? keywords front row column := by
  have silent : colourIn? keywords back row column = none := by
    apply colourIn?_eq_none
    intro t ht
    simp [Token.colourAt?, Token.covers_of_lt_start_line (h t ht)]
  rw [colourIn?_append, silent, Option.none_or]

/-! ## The error of a row -/

theorem rowError_append (front back : List Token) (row length : Nat) :
    rowError (front ++ back) row length =
      (rowError front row length).or (rowError back row length) := by
  simp [rowError, List.find?_append, Option.map_or]

/-- Tokens that begin in other rows leave no error. -/
theorem rowError_eq_none (h : ∀ t ∈ tokens, t.start.line ≠ row) (length : Nat) :
    rowError tokens row length = none := by
  have none_ : tokens.find? (fun t => t.kind == .error && t.start.line == row) = none := by
    apply List.find?_eq_none.2
    intro t ht
    simp [h t ht]
  simp [rowError, none_]

theorem rowError_filter_marks (tokens : List Token) (row length : Nat) :
    rowError (tokens.filter Token.marks) row length = rowError tokens row length := by
  have found : (tokens.filter Token.marks).find?
        (fun t => t.kind == .error && t.start.line == row) =
      tokens.find? (fun t => t.kind == .error && t.start.line == row) := by
    rw [List.find?_filter]
    congr 1
    funext t
    rw [Bool.eq_iff_iff]
    cases kind : t.kind <;> simp [Token.marks, kind]
  rw [rowError, found, rowError]

theorem rowError_eq_of_filter_marks_eq {other : List Token}
    (h : tokens.filter Token.marks = other.filter Token.marks) (row length : Nat) :
    rowError tokens row length = rowError other row length := by
  rw [← rowError_filter_marks tokens, h, rowError_filter_marks]

/-! ## Moving down -/

namespace Text.Position

/-- The place so many rows further down. -/
def down (k : Nat) (p : Position) : Position :=
  ⟨p.line + k, p.column⟩

end Text.Position

namespace Token

/-- The token so many rows further down. -/
def down (k : Nat) (t : Token) : Token :=
  ⟨t.kind, t.text, t.start.down k, t.stop.down k⟩

variable (k : Nat) (t : Token)

theorem covers_down (row column : Nat) :
    (t.down k).covers (row + k) column = t.covers row column := by
  have sameRow (line : Nat) : (row + k != line + k) = (row != line) := by
    rw [Bool.eq_iff_iff]
    simp
  calc
    (t.down k).covers (row + k) column
        = (t.start.line + k ≤ row + k && row + k ≤ t.stop.line + k &&
            (row + k != t.start.line + k || t.start.column ≤ column) &&
            (row + k != t.stop.line + k || column < t.stop.column)) := rfl
    _ = t.covers row column := by
        rw [sameRow, sameRow]
        simp only [Nat.add_le_add_iff_right, covers]

theorem colourAt?_down (keywords : KeywordSet) (row column : Nat) :
    (t.down k).colourAt? keywords (row + k) column = t.colourAt? keywords row column := by
  have isEmpty : (t.down k).isEmpty = t.isEmpty := by
    rcases t with ⟨kind, text, ⟨line, column⟩, ⟨line', column'⟩⟩
    rw [Bool.eq_iff_iff]
    simp [Token.isEmpty, down, Position.down]
  have colour : (t.down k).colour? keywords = t.colour? keywords := by
    rw [colour?, isEmpty]
    rfl
  rw [colourAt?, covers_down, colour, colourAt?]

end Token

namespace Diagnostic

/-- The diagnostic so many rows further down. -/
def down (k : Nat) (d : Diagnostic) : Diagnostic :=
  { d with line := d.line + k }

end Diagnostic

theorem colourIn?_map_down (k : Nat) (tokens : List Token) (row column : Nat) :
    colourIn? keywords (tokens.map (Token.down k)) (row + k) column =
      colourIn? keywords tokens row column := by
  induction tokens with
  | nil => rfl
  | cons t rest ih =>
      rw [List.map_cons, colourIn?_cons, colourIn?_cons, ih, Token.colourAt?_down]

/-- An error says the same further down. -/
theorem rowError_map_down (k : Nat) (tokens : List Token) (row length : Nat) :
    rowError (tokens.map (Token.down k)) (row + k) length =
      (rowError tokens row length).map (Diagnostic.down k) := by
  have found : (tokens.map (Token.down k)).find?
        (fun t => t.kind == .error && t.start.line == row + k) =
      (tokens.find? fun t => t.kind == .error && t.start.line == row).map (Token.down k) := by
    rw [List.find?_map]
    congr 2
    funext t
    rw [Bool.eq_iff_iff]
    simp [Token.down, Position.down]
  have diagnostic (t : Token) :
      (t.down k).diagnosticIn (row + k) length = (t.diagnosticIn row length).down k := by
    simp [Token.diagnosticIn, Diagnostic.down, Token.down, Position.down]
    rfl
  rw [rowError, found, rowError, Option.map_map, Option.map_map]
  exact Option.map_congr fun t _ => diagnostic t

end EditorAnalysis
