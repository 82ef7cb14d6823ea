import EditorAnalysis.Proofs.Python.LineEnds

/-!
# Continuation backslashes

A backslash at the end of a row carries the statement on when it lies in no token: one that ends a
string, a comment or an error is text. So the rows that are carried on can be told from the stream.
-/

namespace EditorAnalysis
namespace Python

open Text

/-- Whether a row ends in a backslash that lies in no token. -/
def EndsInContinuation (lines : List PhysicalLine) (tokens : List Token) (row : Nat) : Prop :=
  ∃ column, column + 1 = (rowText lines row).length ∧ (rowText lines row)[column]? = some '\\' ∧
    ∀ t ∈ tokens, t.covers row column = false

variable {row : Nat} {line : PhysicalLine} {carry next : Carry} {tokens : List Token}

/-! ## Backslashes in tokens -/

/-- A token within a row covers its own last place. -/
theorem covers_last_rowToken (kind : TokenKind) {column last : Nat} {text : List Char}
    (some_ : text ≠ []) (upTo : column + text.length = last + 1) :
    (rowToken kind row column text).covers row last = true := by
  have length := List.length_pos_iff.2 some_
  have inside : column ≤ last := by omega
  simp [Token.covers, rowToken, inside, upTo]

theorem getLast?_drop_of_lt {cs : List Char} {n : Nat} (h : n < cs.length) :
    (cs.drop n).getLast? = cs.getLast? := by
  rw [List.getLast?_drop, if_neg (Nat.not_le_of_lt h)]

/-- When the scan of a row comes to its end, a backslash there is in a token. -/
theorem Scans.exists_covers {terminated : Bool} {column depth last : Nat} {rest : List Char}
    {scan : RowScan} (h : Scans row terminated column depth rest scan)
    (complete : scan.ending = .complete) (upTo : column + rest.length = last + 1)
    (ends : rest.getLast? = some '\\') : ∃ t ∈ scan.tokens, t.covers row last = true := by
  induction h with
  | done => cases ends
  | continuation | openString => cases complete
  | @blank column _ c cs _ blankChar _ ih =>
      cases cs with
      | nil =>
          cases ends
          cases blankChar
      | cons d cs =>
          refine ih complete ?_ (by simpa using ends)
          rwa [List.length_cons, Nat.add_comm _ 1, ← Nat.add_assoc] at upTo
  | comment | brokenString =>
      exact ⟨_, List.mem_cons_self, covers_last_rowToken _ (List.cons_ne_nil _ _) upTo⟩
  | @lexeme column _ c cs kind n _ _ token _ ih =>
      have extent := (Lexeme.length_of_token?_ofFront token).2
      rcases Nat.lt_or_eq_of_le extent with inside | whole
      · have later : column + n + ((c :: cs).drop n).length = last + 1 := by
          rw [List.length_drop, Nat.add_assoc, Nat.add_sub_cancel' extent, upTo]
        rcases ih complete later (by rwa [getLast?_drop_of_lt inside]) with ⟨t, ht, covers⟩
        exact ⟨t, List.mem_cons_of_mem _ ht, covers⟩
      · rw [List.take_of_length_le (Nat.le_of_eq whole.symm)]
        exact ⟨_, List.mem_cons_self, covers_last_rowToken _ (List.cons_ne_nil _ _) upTo⟩

theorem mem_finishRow_of_mem {blocks : OpenBlocks} {scan : RowScan} {t : Token}
    (ht : t ∈ scan.tokens) : t ∈ (finishRow row line blocks scan).1 := by
  rcases scan with ⟨tokens, depth, ending⟩
  cases ending with
  | complete => exact List.mem_append_left _ ht
  | continued | inString s => exact ht

theorem mode_finishRow_eq_fresh_iff {blocks : OpenBlocks} {scan : RowScan} :
    (finishRow row line blocks scan).2.mode = .fresh ↔ scan.ending = .complete := by
  rcases scan with ⟨tokens, depth, ending⟩
  cases ending <;> simp [finishRow]

/-- What is scanned behind the first characters of a row ends where the row does. -/
theorem Scans.exists_covers_finishRow {column depth last : Nat} {scan : RowScan}
    (h : Scans row line.terminated column depth (line.content.drop column) scan)
    (blocks : OpenBlocks) (complete : (finishRow row line blocks scan).2.mode = .fresh)
    (inside : column < line.content.length) (upTo : line.content.length = last + 1)
    (ends : line.content.getLast? = some '\\') :
    ∃ t ∈ (finishRow row line blocks scan).1, t.covers row last = true := by
  have reaches : column + (line.content.drop column).length = last + 1 := by
    rw [List.length_drop, Nat.add_sub_cancel' (Nat.le_of_lt inside), upTo]
  rw [← getLast?_drop_of_lt inside] at ends
  rcases h.exists_covers (mode_finishRow_eq_fresh_iff.1 complete) reaches ends with
    ⟨t, ht, covers⟩
  exact ⟨t, mem_finishRow_of_mem ht, covers⟩

/-- A row that leaves nothing open has a backslash at its end in a token. -/
theorem Steps.exists_covers {last : Nat} (h : Steps row line carry tokens next)
    (complete : next.mode = .fresh) (above : ∀ s, carry.mode = .inString s → s.start.line < row)
    (upTo : line.content.length = last + 1) (ends : line.content.getLast? = some '\\') :
    ∃ t ∈ tokens, t.covers row last = true := by
  have some_ : 0 < line.content.length := upTo ▸ Nat.succ_pos last
  have text : line.content.dropWhile isBlank ≠ [] := by
    intro allBlank
    cases List.dropWhile_eq_nil_iff.1 allBlank '\\' (List.mem_of_getLast? ends)
  have split : (line.content.takeWhile isBlank).length +
      (line.content.dropWhile isBlank).length = last + 1 := by
    rw [← List.length_append, List.takeWhile_append_dropWhile, upTo]
  cases h with
  | blankRow =>
      -- The row has a comment, as the backslash is no blank.
      refine ⟨_, ?_, covers_last_rowToken .comment text split⟩
      rw [blankRowTokens, if_neg text]
      exact List.mem_append_left _ List.mem_cons_self
  | @statement _ left change scan notBlank _ scanned =>
      have inside : (line.content.takeWhile isBlank).length < line.content.length := by
        rw [upTo, ← split]
        exact Nat.lt_add_of_pos_right (List.length_pos_iff.2 text)
      rw [← drop_length_takeWhile] at scanned
      rcases scanned.exists_covers_finishRow left complete inside upTo ends with ⟨t, ht, covers⟩
      exact ⟨t, List.mem_append_right _ ht, covers⟩
  | @goesOn blocks _ _ _ _ scanned =>
      exact scanned.exists_covers_finishRow blocks complete some_ upTo ends
  | @stringCloses blocks _ n s _ found scanned =>
      rcases Nat.lt_or_eq_of_le (StringEnd.le_of_find_eq_closed found) with inside | whole
      · rcases scanned.exists_covers_finishRow blocks complete inside upTo ends with ⟨t, ht, covers⟩
        exact ⟨t, List.mem_cons_of_mem _ ht, covers⟩
      -- The string that closes at the end of the row has the backslash.
      · have before := above s rfl
        refine ⟨_, List.mem_cons_self, ?_⟩
        simp [Token.covers, Nat.le_of_lt before, Nat.ne_of_gt before, whole, upTo]
  | stringGoesOn => cases complete
  | @stringBreaks _ _ s =>
      have before := above s rfl
      refine ⟨_, List.mem_cons_self, ?_⟩
      simp [Token.covers, Nat.le_of_lt before, Nat.ne_of_gt before, upTo]

/-! ## Backslashes outside of tokens -/

/-- Something is left to a scan that is continued: the backslash. -/
theorem Scans.lt_length_of_continued {terminated : Bool} {column depth n : Nat} {cs : List Char}
    {scan : RowScan} (h : Scans row terminated column depth (cs.drop n) scan)
    (continued : scan.ending = .continued) : n < cs.length := by
  refine Nat.lt_of_not_le fun past => ?_
  have ends := h.getLast?_of_continued continued
  rw [List.drop_of_length_le past] at ends
  cases ends

/-- The tokens of a scan that is continued stop in front of its last character. -/
theorem Scans.stop_column_lt {terminated : Bool} {column depth : Nat} {rest : List Char}
    {scan : RowScan} (h : Scans row terminated column depth rest scan)
    (continued : scan.ending = .continued) :
    ∀ t ∈ scan.tokens, t.stop.column < column + rest.length := by
  induction h with
  | done | comment | openString | brokenString => cases continued
  | @blank column _ c cs _ _ _ ih =>
      intro t ht
      rw [List.length_cons, Nat.add_comm cs.length, ← Nat.add_assoc]
      exact ih continued t ht
  | continuation =>
      intro t ht
      cases ht
  | @lexeme column _ c cs kind n _ _ token later ih =>
      have inside := later.lt_length_of_continued continued
      intro t ht
      rcases List.mem_cons.1 ht with rfl | ht
      · simp only [rowToken, List.length_take]
        omega
      · have before := ih continued t ht
        rwa [List.length_drop, Nat.add_assoc, Nat.add_sub_cancel' (Nat.le_of_lt inside)] at before

theorem tokens_finishRow_of_continued {blocks : OpenBlocks} {scan : RowScan}
    (continued : scan.ending = .continued) : (finishRow row line blocks scan).1 = scan.tokens := by
  rcases scan with ⟨tokens, depth, ending⟩
  cases continued
  rfl

theorem Scans.stop_column_lt_finishRow {column depth : Nat} {scan : RowScan}
    (h : Scans row line.terminated column depth (line.content.drop column) scan)
    (blocks : OpenBlocks) (continued : (finishRow row line blocks scan).2.mode = .continued) :
    column < line.content.length ∧
      ∀ t ∈ (finishRow row line blocks scan).1, t.stop.column < line.content.length := by
  have ending := mode_finishRow_eq_continued_iff.1 continued
  have inside := h.lt_length_of_continued ending
  have before := h.stop_column_lt ending
  rw [List.length_drop, Nat.add_sub_cancel' (Nat.le_of_lt inside)] at before
  rw [tokens_finishRow_of_continued ending]
  exact ⟨inside, before⟩

/-- The tokens of a row that is continued stop in front of its last character. -/
theorem Steps.stop_column_lt (h : Steps row line carry tokens next)
    (continued : next.mode = .continued) :
    ∀ t ∈ tokens, t.stop.column < line.content.length := by
  cases h with
  | blankRow | stringGoesOn | stringBreaks => cases continued
  | @statement _ left _ _ _ _ scanned =>
      rw [← drop_length_takeWhile] at scanned
      rcases scanned.stop_column_lt_finishRow left continued with ⟨inside, before⟩
      intro t ht
      rcases List.mem_append.1 ht with indentation | later
      · rcases eq_or_eq_of_mem_indentTokens indentation with rfl | rfl
        · simpa [rowToken] using inside
        · exact inside
      · exact before t later
  | @goesOn blocks _ _ _ _ scanned => exact (scanned.stop_column_lt_finishRow blocks continued).2
  | @stringCloses blocks _ _ _ _ _ scanned =>
      rcases scanned.stop_column_lt_finishRow blocks continued with ⟨inside, before⟩
      intro t ht
      rcases List.mem_cons.1 ht with rfl | later
      · exact inside
      · exact before t later

/-! ## The last row of a text -/

variable {lines : List PhysicalLine}

/-- Outside strings, a row is carried on just when it ends in a backslash that lies in none of the
tokens up to there. -/
theorem Enters.endsInContinuation_iff (h : Enters lines (row + 1) next)
    (isRow : lines[row]? = some line) (outside : ∀ s, next.mode ≠ .inString s) :
    EndsInContinuation lines (scanRows 0 .initial (lines.take (row + 1))).1 row ↔
      next.mode = .continued := by
  rcases h.exists_steps isRow with ⟨carry, tokens, above, step, whole⟩
  have text := rowText_of_getElem? isRow
  rw [whole]
  constructor
  · rintro ⟨column, upTo, char, uncovered⟩
    rw [text] at upTo char
    cases mode : next.mode with
    | continued => rfl
    | inString s => exact absurd mode (outside s)
    | fresh =>
        have ends : line.content.getLast? = some '\\' := by
          rw [List.getLast?_eq_getElem?, ← upTo, Nat.add_sub_cancel, char]
        rcases step.exists_covers mode (fun s => above.start_line_lt) upTo.symm ends with
          ⟨t, ht, covers⟩
        rw [uncovered t (List.mem_append_right _ ht)] at covers
        cases covers
  · intro continued
    have ends := step.getLast?_of_continued continued
    have some_ : 0 < line.content.length := by
      refine List.length_pos_iff.2 fun none_ => ?_
      rw [none_] at ends
      cases ends
    refine ⟨line.content.length - 1, ?_, ?_, ?_⟩
    · rw [text, Nat.sub_add_cancel some_]
    · rw [text, ← List.getLast?_eq_getElem?, ends]
    · intro t ht
      refine Token.covers_of_stop_le ?_
      rcases List.mem_append.1 ht with upper | own
      · exact .inl (Enters.stop_line_lt upper)
      · have before := step.stop_column_lt continued t own
        exact .inr ⟨step.stop_line t own, Nat.le_sub_one_of_lt before⟩

end Python
end EditorAnalysis
