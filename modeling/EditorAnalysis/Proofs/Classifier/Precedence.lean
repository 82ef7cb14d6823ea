import EditorAnalysis.Proofs.Classifier.Shape
import EditorAnalysis.Replay

/-!
# Which token counts

Of the tokens that reach over a character, the last one that has a category gives the character its
class; of the errors that begin in a row, the first one is the diagnostic of the row. This holds of
every stream of tokens: they may come in any order, lie outside the table, or stop before they
start.
-/

namespace EditorAnalysis

variable {keywords : KeywordSet} {tokens : List Token} {row column : Nat}

/-! ## One token -/

namespace Token

/-- Whether a token reaches over a place: the rows between its ends are its own from the first
character to the last, the row of its start from the start on, the row of its stop up to the
stop. -/
structure ReachesOver (t : Token) (row column : Nat) : Prop where
  startLine : t.start.line ≤ row
  stopLine : row ≤ t.stop.line
  startColumn : row = t.start.line → t.start.column ≤ column
  stopColumn : row = t.stop.line → column < t.stop.column

/-- The categories that tokens give to characters. -/
inductive HasCategory (keywords : KeywordSet) (t : Token) : Category → Prop where
  | name : t.kind = .name → HasCategory keywords t (keywords.classify t.text)
  | string : t.kind = .string → HasCategory keywords t .literal
  | number : t.kind = .number → HasCategory keywords t .number
  | comment : t.kind = .comment → HasCategory keywords t .comment
  | operator : t.kind = .operator → HasCategory keywords t .operator
  /-- An error that is the text of a string: ASCII letters, perhaps none, and a quote. -/
  | brokenString {letters more : List Char} {quote : Char} :
      t.kind = .error → t.text.toList = letters ++ quote :: more →
      (∀ c ∈ letters, c.isAlpha = true) → quote = '\'' ∨ quote = '"' →
      HasCategory keywords t .literal

variable {t : Token} {category : Category} {c : CharClass}

theorem covers_iff_reachesOver : t.covers row column = true ↔ t.ReachesOver row column := by
  simp only [covers, Bool.and_eq_true, Bool.or_eq_true, bne_iff_ne, decide_eq_true_eq]
  constructor
  · rintro ⟨⟨⟨startLine, stopLine⟩, startColumn⟩, stopColumn⟩
    exact ⟨startLine, stopLine, fun here => startColumn.resolve_left (fun other => other here),
      fun here => stopColumn.resolve_left (fun other => other here)⟩
  · rintro ⟨startLine, stopLine, startColumn, stopColumn⟩
    exact ⟨⟨⟨startLine, stopLine⟩, (Decidable.em (row = t.start.line)).symm.imp_right startColumn⟩,
      (Decidable.em (row = t.stop.line)).symm.imp_right stopColumn⟩

/-- A token that reaches over a place is not empty. -/
theorem ReachesOver.isEmpty_eq_false (h : t.ReachesOver row column) : t.isEmpty = false := by
  refine beq_eq_false_iff_ne.2 ?_
  intro same
  have lines : t.start.line = t.stop.line := congrArg Text.Position.line same
  have columns : t.start.column = t.stop.column := congrArg Text.Position.column same
  have here : row = t.start.line :=
    Nat.le_antisymm (Nat.le_trans h.stopLine (Nat.le_of_eq lines.symm)) h.startLine
  have before := h.stopColumn (here.trans lines)
  exact Nat.not_lt_of_le (h.startColumn here) (columns ▸ before)

theorem isBrokenString_iff :
    t.isBrokenString = true ↔
      ∃ letters quote more, t.text.toList = letters ++ quote :: more ∧
        (∀ c ∈ letters, c.isAlpha = true) ∧ (quote = '\'' ∨ quote = '"') := by
  constructor
  · intro broken
    rw [isBrokenString] at broken
    have whole : t.text.toList.takeWhile Char.isAlpha ++ t.text.toList.dropWhile Char.isAlpha =
        t.text.toList := List.takeWhile_append_dropWhile
    cases tail : t.text.toList.dropWhile Char.isAlpha with
    | nil =>
        rw [tail] at broken
        cases broken
    | cons quote more =>
        rw [tail] at broken whole
        refine ⟨_, quote, more, whole.symm, List.all_eq_true.1 List.all_takeWhile, ?_⟩
        simpa using broken
  · rintro ⟨letters, quote, more, text, isAlpha, isQuote⟩
    -- A quote is no letter, so the letters in front of it are all that is dropped.
    have notAlpha : quote.isAlpha = false := by
      rcases isQuote with rfl | rfl <;> rfl
    have tail : t.text.toList.dropWhile Char.isAlpha = quote :: more := by
      rw [text, List.dropWhile_append_of_pos isAlpha,
        List.dropWhile_cons_of_neg (by simp [notAlpha])]
    rw [isBrokenString, tail]
    simpa using isQuote

/-- A token has a colour when it is not empty and has a category. -/
theorem colour?_eq_some_iff (nonempty : t.isEmpty = false) :
    t.colour? keywords = some c ↔
      ∃ category, t.HasCategory keywords category ∧ c = .ofCategory category := by
  constructor
  · intro colour
    cases kind : t.kind with
    | name =>
        simp only [colour?, kind, nonempty, Bool.false_eq_true, if_false] at colour
        exact ⟨_, .name kind, (Option.some.inj colour).symm⟩
    | string =>
        simp only [colour?, kind] at colour
        exact ⟨_, .string kind, (Option.some.inj colour).symm⟩
    | number =>
        simp only [colour?, kind] at colour
        exact ⟨_, .number kind, (Option.some.inj colour).symm⟩
    | comment =>
        simp only [colour?, kind] at colour
        exact ⟨_, .comment kind, (Option.some.inj colour).symm⟩
    | operator =>
        simp only [colour?, kind] at colour
        exact ⟨_, .operator kind, (Option.some.inj colour).symm⟩
    | error =>
        simp only [colour?, kind] at colour
        split at colour
        · next broken =>
            rcases isBrokenString_iff.1 broken with ⟨letters, quote, more, text, alpha, isQuote⟩
            exact ⟨_, .brokenString kind text alpha isQuote, (Option.some.inj colour).symm⟩
        · cases colour
    | newline | nonLogicalNewline | indent | dedent | endMarker =>
        simp [colour?, kind] at colour
  · rintro ⟨category, own, rfl⟩
    cases own with
    | name kind => simp [colour?, kind, nonempty]
    | string kind | number kind | comment kind | operator kind => simp [colour?, kind]
    | brokenString kind text alpha isQuote =>
        have broken := isBrokenString_iff.2 ⟨_, _, _, text, alpha, isQuote⟩
        simp [colour?, kind, broken]

/-- A token colours a place when it reaches over it and has a category. -/
theorem colourAt?_eq_some_iff :
    t.colourAt? keywords row column = some c ↔
      t.ReachesOver row column ∧
        ∃ category, t.HasCategory keywords category ∧ c = .ofCategory category := by
  by_cases reaches : t.ReachesOver row column
  · rw [colourAt?, if_pos (covers_iff_reachesOver.2 reaches),
      colour?_eq_some_iff reaches.isEmpty_eq_false]
    simp [reaches]
  · rw [colourAt?, if_neg fun covers => reaches (covers_iff_reachesOver.1 covers)]
    simp [reaches]

theorem colourAt?_eq_none
    (h : t.ReachesOver row column → ∀ category, ¬ t.HasCategory keywords category) :
    t.colourAt? keywords row column = none := by
  apply Option.eq_none_iff_forall_not_mem.2
  intro c colour
  rcases colourAt?_eq_some_iff.1 colour with ⟨reaches, category, own, -⟩
  exact h reaches category own

end Token

/-! ## Streams -/

/-- The last token that colours a place has the last word. -/
theorem colourIn?_of_last {front back : List Token} {t : Token} {c : CharClass}
    (colour : t.colourAt? keywords row column = some c)
    (silent : ∀ u ∈ back, u.colourAt? keywords row column = none) :
    colourIn? keywords (front ++ t :: back) row column = some c := by
  rw [colourIn?_append, colourIn?_cons, colourIn?_eq_none silent, colour]
  rfl

/-- The first error that begins in a row is its diagnostic. -/
theorem rowError_of_first {front back : List Token} {t : Token} (isError : t.kind = .error)
    (begins : t.start.line = row) (silent : ∀ u ∈ front, u.kind = .error → u.start.line ≠ row)
    (length : Nat) :
    rowError (front ++ t :: back) row length = some (t.diagnosticIn row length) := by
  have none_ : front.find? (fun u => u.kind == .error && u.start.line == row) = none := by
    apply List.find?_eq_none.2
    intro u hu
    simpa using silent u hu
  rw [rowError, List.find?_append, none_, Option.none_or,
    List.find?_cons_of_pos (by simp [isError, begins]), Option.map_some]

theorem rowError_of_no_error (silent : ∀ t ∈ tokens, t.kind = .error → t.start.line ≠ row)
    (length : Nat) : rowError tokens row length = none := by
  have none_ : tokens.find? (fun t => t.kind == .error && t.start.line == row) = none := by
    apply List.find?_eq_none.2
    intro t ht
    simpa using silent t ht
  rw [rowError, none_, Option.map_none]

/-! ## Tables -/

/-- What a table shows of the tokens of a text, whatever these are. A character has the class of
the last token in the stream that reaches over it and has a category, and no class if there is no
such token. A row has the diagnostic of the first error in the stream that begins in it, cut to the
row, and none if no error begins in it. -/
theorem classify_last_colour_first_error (c : Classifier) (texts : List String) (text : String)
    (row : Nat) (line : String) (hline : texts[row]? = some line) :
    let keywords := c.tokenizer.keywords
    let tokens := (c.tokenizer.tokenize text).tokens
    ∃ r, (c.classify texts text).rows[row]? = some r ∧ r.text = line ∧
      r.classes.length = line.length ∧
      (∀ column, column < line.length →
        (∀ front t back category, tokens = front ++ t :: back → t.ReachesOver row column →
          t.HasCategory keywords category →
          (∀ u ∈ back, u.ReachesOver row column → ∀ other, ¬ u.HasCategory keywords other) →
          r.classes[column]? = some (.ofCategory category)) ∧
        ((∀ t ∈ tokens, t.ReachesOver row column → ∀ category, ¬ t.HasCategory keywords category) →
          r.classes[column]? = some .empty)) ∧
      (∀ front t back, tokens = front ++ t :: back → t.kind = .error → t.start.line = row →
        (∀ u ∈ front, u.kind = .error → u.start.line ≠ row) →
        let start := min t.start.column line.length
        let stop := if t.stop.line = row then min t.stop.column line.length else line.length
        r.diagnostic = some ⟨tokenizerOrigin, row, start, stop - start, t.errorMessage⟩) ∧
      ((∀ t ∈ tokens, t.kind = .error → t.start.line ≠ row) → r.diagnostic = none) := by
  intro keywords tokens
  have shown : (c.classify texts text).rows[row]? = some (rowOf keywords tokens row line) := by
    rw [show (c.classify texts text).rows = classifiedRows keywords tokens texts from rfl,
      getElem?_classifiedRows, hline]
    rfl
  have class_ {column : Nat} (inside : column < line.length) :
      (rowOf keywords tokens row line).classes[column]? =
        some ((colourIn? keywords tokens row column).getD .empty) := by
    rw [show (rowOf keywords tokens row line).classes = paintedRow keywords tokens row line.length
      from rfl, paintedRow_eq_map, List.getElem?_map, List.getElem?_range inside, Option.map_some]
  refine ⟨_, shown, rfl, (isSound_rowOf keywords tokens row line).length_classes, ?_, ?_, ?_⟩
  · intro column inside
    rw [class_ inside]
    constructor
    · intro front t back category split reaches own silent
      have colour := Token.colourAt?_eq_some_iff.2 ⟨reaches, category, own, rfl⟩
      rw [split, colourIn?_of_last colour fun u hu => Token.colourAt?_eq_none (silent u hu)]
      rfl
    · intro silent
      rw [colourIn?_eq_none fun t ht => Token.colourAt?_eq_none (silent t ht)]
      rfl
  · intro front t back split isError begins silent
    have diagnostic : rowError tokens row line.length = some (t.diagnosticIn row line.length) := by
      rw [split, rowError_of_first isError begins silent]
    exact diagnostic
  · intro silent
    exact rowError_of_no_error silent line.length

/-- Tokens that overlap, stop before they start, and reach past the end of the text. -/
def strayStream : List Token :=
  [⟨.name, "ab", ⟨0, 0⟩, ⟨0, 2⟩⟩, ⟨.string, "b", ⟨0, 1⟩, ⟨9, 9⟩⟩, ⟨.error, "$", ⟨0, 1⟩, ⟨7, 0⟩⟩,
    ⟨.number, "1", ⟨1, 1⟩, ⟨0, 0⟩⟩, ⟨.error, "?", ⟨0, 0⟩, ⟨0, 1⟩⟩]

/-- The second character belongs to three tokens, of which the last one has no category; two errors
begin in the row. -/
theorem classify_last_colour_first_error_stray :
    let tokenizer := Replay.tokenizer ⟨[], [], "", ""⟩ [("ab\nc", ⟨strayStream, none⟩)]
    ∃ r, ((Classifier.new tokenizer).classify ["ab", "c"] "ab\nc").rows[0]? = some r ∧
      r.classes[1]? = some (.ofCategory .literal) ∧
      r.diagnostic.map (fun d => (d.line, d.start, d.length)) = some (0, 1, 1) := by
  intro tokenizer
  rcases classify_last_colour_first_error (Classifier.new tokenizer) ["ab", "c"] "ab\nc" 0 "ab" rfl
    with ⟨r, found, -, -, classes, diagnostic, -⟩
  have silent : ∀ u ∈ strayStream.drop 2, u.colourAt? ⟨[], [], "", ""⟩ 0 1 = none := by
    decide +kernel
  refine ⟨r, found, ?_, ?_⟩
  · refine (classes 1 (by decide)).1 (strayStream.take 1) ⟨.string, "b", ⟨0, 1⟩, ⟨9, 9⟩⟩
      (strayStream.drop 2) .literal rfl (Token.covers_iff_reachesOver.1 rfl) (.string rfl) ?_
    intro u hu reaches other own
    cases (silent u hu).symm.trans (Token.colourAt?_eq_some_iff.2 ⟨reaches, other, own, rfl⟩)
  · rw [diagnostic (strayStream.take 2) ⟨.error, "$", ⟨0, 1⟩, ⟨7, 0⟩⟩ (strayStream.drop 3) rfl rfl
      rfl (by decide)]
    rfl

end EditorAnalysis
