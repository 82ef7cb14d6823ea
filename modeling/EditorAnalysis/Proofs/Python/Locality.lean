import EditorAnalysis.Proofs.Python.FinalBreak

/-!
# Rows above an edit

Every edit tokenizes the whole text again. The rows above it keep their texts, classes and errors
all the same, unless a string reaches from them into the edited row: what the tokenizer says of
rows at whose end no string is open does not depend on the rows below.
-/

namespace EditorAnalysis
namespace Python

open Text

/-! ## Tokens in front of a row -/

/-- Outside strings, the tokens of the rows from one on start there. -/
theorem start_line_le_of_mem_scanRows {row : Nat} {carry : Carry} {rows : List PhysicalLine}
    (outside : ∀ s, carry.mode ≠ .inString s) {t : Token}
    (ht : t ∈ (scanRows row carry rows).1) : row ≤ t.start.line := by
  -- Any rows will do in front, as no token reaches back into them.
  have isRest : rows = (List.replicate row default ++ rows).drop row := by simp
  have fits : carry.Fits (List.replicate row default ++ rows) row := by
    intro s inString
    exact absurd inString (outside s)
  have front : carry.front row = ⟨row, 0⟩ := by
    cases mode : carry.mode with
    | fresh | continued => simp [Carry.front, mode]
    | inString s => exact absurd mode (outside s)
  rcases tiles_scanRows isRest fits with ⟨q, tiled, -⟩
  have ordered : carry.front row ≤ t.start := (tiled.between ht).1
  rw [front] at ordered
  exact Position.line_le_of_le ordered

/-- The tokens of a text are those of its rows and perhaps some behind the last one. -/
theorem exists_tokens_tokenizeLines (lines : List PhysicalLine) :
    ∃ behind, (tokenizeLines lines).tokens = (scanRows 0 .initial lines).1 ++ behind ∧
      ∀ t ∈ behind, ∃ kind, (kind = .dedent ∨ kind = .endMarker) ∧
        t = ⟨kind, "", ⟨lines.length, 0⟩, ⟨lines.length, 0⟩⟩ := by
  by_cases complete : (tokenizeLines lines).isComplete = true
  · rcases isComplete_tokenizeLines_iff.1 complete with ⟨tokens, blocks, scanned⟩
    refine ⟨closingTokens lines.length blocks, ?_, ?_⟩
    · rw [tokenizeLines_of_complete scanned, scanned]
    · intro t ht
      rcases eq_or_eq_of_mem_closingTokens ht with rfl | rfl
      · exact ⟨.dedent, .inl rfl, rfl⟩
      · exact ⟨.endMarker, .inr rfl, rfl⟩
  · refine ⟨[], ?_, fun t ht => by cases ht⟩
    simpa using tokens_tokenizeLines_of_not_isComplete (by simpa using complete)

/-- Whether rows are scanned to their end and a string is open there. -/
def EndsInString (lines : List PhysicalLine) : Prop :=
  ∃ carry s, (scanRows 0 .initial lines).2 = .ok carry ∧ carry.mode = .inString s

theorem EndsInString.exists_failure {lines : List PhysicalLine} (h : EndsInString lines) :
    ∃ start, (tokenizeLines lines).failure = some (.unterminatedString start) := by
  rcases h with ⟨carry, s, outcome, inString⟩
  have scanned : scanRows 0 .initial lines = (_, .ok carry) := Prod.ext rfl outcome
  have ends : carry.failure? lines.length = some (.unterminatedString s.start) := by
    simp [Carry.failure?, inString]
  refine ⟨s.start, ?_⟩
  rw [tokenizeLines_of_failure scanned ends]

section

variable {front : List PhysicalLine} (closed : ¬ EndsInString front)

include closed

/-- Rows behind others at whose end no string is open add tokens, and all of these start in them. -/
theorem exists_tokens_tokenizeLines_append (back : List PhysicalLine) :
    ∃ later, (tokenizeLines (front ++ back)).tokens = (scanRows 0 .initial front).1 ++ later ∧
      ∀ t ∈ later, front.length ≤ t.start.line := by
  rcases exists_tokens_tokenizeLines (front ++ back) with ⟨behind, tokens, stand⟩
  have farBehind : ∀ t ∈ behind, front.length ≤ t.start.line := by
    intro t ht
    rcases stand t ht with ⟨kind, -, rfl⟩
    calc
      front.length ≤ front.length + back.length := Nat.le_add_right _ _
      _ = (front ++ back).length := List.length_append.symm
  cases scanned : scanRows 0 .initial front with
  | mk first outcome =>
      cases outcome with
      | error failure =>
          -- A row that fails hides what is behind it.
          rw [scanRows_append_of_error scanned] at tokens
          exact ⟨behind, tokens, farBehind⟩
      | ok carry =>
          have outside : ∀ s, carry.mode ≠ .inString s := by
            intro s inString
            exact closed ⟨carry, s, by rw [scanned], inString⟩
          rw [scanRows_append_of_ok scanned, List.append_assoc] at tokens
          refine ⟨_, tokens, ?_⟩
          intro t ht
          rcases List.mem_append.1 ht with later | atEnd
          · simpa using start_line_le_of_mem_scanRows outside later
          · exact farBehind t atEnd

variable {row : Nat} (above : row < front.length)

include above

theorem paintedRow_tokenizeLines_above (keywords : KeywordSet) (back : List PhysicalLine)
    (length : Nat) :
    paintedRow keywords (tokenizeLines (front ++ back)).tokens row length =
      paintedRow keywords (scanRows 0 .initial front).1 row length := by
  rcases exists_tokens_tokenizeLines_append closed back with ⟨later, tokens, below⟩
  apply paintedRow_congr
  intro column
  rw [tokens]
  exact colourIn?_append_of_below (fun t ht => Nat.lt_of_lt_of_le above (below t ht)) _

theorem rowError_tokenizeLines_above (back : List PhysicalLine) (length : Nat) :
    rowError (tokenizeLines (front ++ back)).tokens row length =
      rowError (scanRows 0 .initial front).1 row length := by
  rcases exists_tokens_tokenizeLines_append closed back with ⟨later, tokens, below⟩
  have elsewhere : ∀ t ∈ later, t.start.line ≠ row := by
    intro t ht
    exact Nat.ne_of_gt (Nat.lt_of_lt_of_le above (below t ht))
  rw [tokens, rowError_append, rowError_eq_none elsewhere, Option.or_none]

/-- The rows behind leave a row above as it is, but for its rank. -/
theorem rowOf_tokenizeLines_above (keywords : KeywordSet) (back back' : List PhysicalLine)
    (text : String) :
    let before := rowOf keywords (tokenizeLines (front ++ back)).tokens row text
    let after := rowOf keywords (tokenizeLines (front ++ back')).tokens row text
    after.text = before.text ∧ after.classes = before.classes ∧
      after.diagnostic = before.diagnostic := by
  intro before after
  refine ⟨rfl, ?_, ?_⟩
  · exact (paintedRow_tokenizeLines_above closed above keywords back' _).trans
      (paintedRow_tokenizeLines_above closed above keywords back _).symm
  · exact (rowError_tokenizeLines_above closed above back' _).trans
      (rowError_tokenizeLines_above closed above back _).symm

end

/-! ## The lines that a table shows -/

/-- Lines with these texts, each with a line break. -/
def wholeRows (texts : List String) : List PhysicalLine :=
  texts.map fun text => ⟨text.toList, true⟩

/-- The text of these lines, each with a line break. -/
def wholeText (texts : List String) : String :=
  String.ofList ((texts.map String.toList).flatMap (· ++ ['\n']))

@[simp] theorem wholeRows_append (front back : List String) :
    wholeRows (front ++ back) = wholeRows front ++ wholeRows back :=
  List.map_append

@[simp] theorem length_wholeRows (texts : List String) :
    (wholeRows texts).length = texts.length :=
  List.length_map _

section

variable {texts : List String} (plain : ∀ text ∈ texts, IsPlainLine text.toList)

include plain

/-- Plain lines stay lines, whatever text follows them. -/
theorem physicalLines_wholeRows_append (text : List Char) :
    physicalLines ((texts.map String.toList).flatMap (· ++ ['\n']) ++ text) =
      wholeRows texts ++ physicalLines text := by
  have plainLines : ∀ line ∈ texts.map String.toList, IsPlainLine line := by
    simpa using plain
  rw [physicalLines_flatMap_append_text plainLines, List.map_map]
  rfl

theorem physicalLines_wholeText : physicalLines (wholeText texts).toList = wholeRows texts := by
  simpa [wholeText] using physicalLines_wholeRows_append plain []

end

theorem wholeRows_rowTexts {lines : List PhysicalLine}
    (terminated : ∀ line ∈ lines, line.terminated = true) :
    wholeRows (rowTexts lines) = lines := by
  rw [wholeRows, rowTexts, List.map_map]
  refine (List.map_congr_left ?_).trans (List.map_id lines)
  intro line hline
  rcases line with ⟨content, ends⟩
  simpa using (terminated _ hline).symm

/-- Whether lines have these texts and line breaks, but perhaps for the break of the last one; an
empty last line is missing then. -/
def SplitsInto (texts : List String) (lines : List PhysicalLine) : Prop :=
  lines = wholeRows texts ∨
    ∃ front last, texts = front ++ [last] ∧
      lines = wholeRows front ++ PhysicalLine.remainder last.toList

theorem splitsInto_rowTexts (text : List Char) :
    SplitsInto (rowTexts (physicalLines text)) (physicalLines text) := by
  rcases exists_wholeLines_append text with ⟨whole, line, rfl, hwhole, hline⟩
  have again : wholeRows (rowTexts (physicalLines whole)) = physicalLines whole :=
    wholeRows_rowTexts fun row => terminated_of_mem_physicalLines hwhole
  rw [physicalLines_append hwhole, physicalLines_of_not_mem hline]
  cases line with
  | nil =>
      left
      simpa [PhysicalLine.remainder] using again.symm
  | cons c cs =>
      right
      refine ⟨rowTexts (physicalLines whole), String.ofList (c :: cs), ?_, ?_⟩
      · simp [rowTexts, PhysicalLine.remainder]
      · rw [again, String.toList_ofList]

theorem splitsInto_joinLines {texts : List String} (nonempty : texts ≠ [])
    (plain : ∀ text ∈ texts, IsPlainLine text.toList) :
    SplitsInto texts (physicalLines (joinLines (texts.map String.toList))) := by
  rcases List.eq_nil_or_concat texts with rfl | ⟨front, last, rfl⟩
  · exact absurd rfl nonempty
  · rw [List.concat_eq_append] at plain ⊢
    have plainFront : ∀ text ∈ front, IsPlainLine text.toList := by
      intro text htext
      exact plain text (List.mem_append_left _ htext)
    have plainLast : IsPlainLine last.toList := plain last (by simp)
    right
    refine ⟨front, last, rfl, ?_⟩
    rw [List.map_append, List.map_singleton, joinLines_concat,
      physicalLines_wholeRows_append plainFront, physicalLines_of_not_mem plainLast.1]

/-! ## The table in front of an edit -/

open Classifier (Edit editLines)

theorem lineCount_eq_length_lineTexts (c : Classifier) : c.lineCount = c.lineTexts.length :=
  (List.length_map Row.text).symm

theorem exists_editLines_eq (texts : List String) (line : Nat) (text : String) :
    ∃ rest, editLines texts line text = texts.take (min line texts.length) ++ text :: rest := by
  by_cases inside : line < texts.length
  · refine ⟨texts.drop (line + 1), ?_⟩
    rw [editLines, if_pos inside, Nat.min_eq_left (Nat.le_of_lt inside),
      List.set_eq_take_append_cons_drop, if_pos inside]
  · refine ⟨[], ?_⟩
    rw [editLines, if_neg inside, Nat.min_eq_right (Nat.le_of_not_lt inside), List.take_length]

theorem getElem?_editLines_of_lt {texts : List String} {line row : Nat} (text : String)
    (above : row < min line texts.length) : (editLines texts line text)[row]? = texts[row]? := by
  rcases exists_editLines_eq texts line text with ⟨rest, edited⟩
  have inFront : row < (texts.take (min line texts.length)).length := by
    simpa using above
  rw [edited, List.getElem?_append_left inFront, List.getElem?_take_of_lt above]

/-- Whether the rows of a table show the tokens of lines that its texts make. -/
structure Shows (c : Classifier) (lines : List PhysicalLine) : Prop where
  rows : c.rows = classifiedRows keywords (tokenizeLines lines).tokens c.lineTexts
  lines : SplitsInto c.lineTexts lines

/-- Every table that was loaded and edited shows lines of its own. -/
theorem exists_shows_run (edits : List Edit)
    (plain : ∀ text ∈ ((Classifier.new tokenizer).run edits).lineTexts,
      IsPlainLine text.toList) :
    ∃ lines, Shows ((Classifier.new tokenizer).run edits) lines := by
  -- Only the last operation counts, since each one makes the table anew.
  rcases List.eq_nil_or_concat edits with rfl | ⟨before, last, rfl⟩
  · exact ⟨[], rfl, Or.inl rfl⟩
  · rw [List.concat_eq_append, Classifier.run_concat] at plain ⊢
    have own : ((Classifier.new tokenizer).run before).tokenizer = tokenizer :=
      Classifier.tokenizer_run _ before
    generalize (Classifier.new tokenizer).run before = c at own plain ⊢
    cases last with
    | load text =>
        refine ⟨physicalLines text.toList, ?_, ?_⟩
        · rw [Classifier.perform, Classifier.lineTexts_load]
          exact (classify_tokenizer own _ text).1
        · rw [Classifier.perform, Classifier.lineTexts_load]
          exact splitsInto_rowTexts text.toList
    | replaceLine line text =>
        have texts : (c.perform (.replaceLine line text)).lineTexts =
            editLines c.lineTexts line text := Classifier.lineTexts_classify _ _ _
        rw [texts] at plain
        have nonempty : editLines c.lineTexts line text ≠ [] := by
          rcases exists_editLines_eq c.lineTexts line text with ⟨rest, edited⟩
          simp [edited]
        refine ⟨physicalLines (joinLines ((editLines c.lineTexts line text).map String.toList)),
          ?_, ?_⟩
        · rw [texts, Classifier.perform, Classifier.replaceLine_snd,
            (classify_tokenizer own _ _).1, String.toList_ofList]
        · rw [texts]
          exact splitsInto_joinLines nonempty plain

/-- The rows of a table show the tokens of the first lines, each with its line break, and of some
others behind them. -/
theorem Shows.exists_append {c : Classifier} {lines : List PhysicalLine} (shown : Shows c lines)
    {k : Nat} (inside : k ≤ c.lineTexts.length)
    (nonempty : k = c.lineTexts.length → c.lineTexts.getLast? ≠ some "")
    (closed : ¬ EndsInString (wholeRows (c.lineTexts.take k))) :
    ∃ back, c.rows =
      classifiedRows keywords (tokenizeLines (wholeRows (c.lineTexts.take k) ++ back)).tokens
        c.lineTexts := by
  rcases shown with ⟨rows, whole | ⟨front, last, texts, broken⟩⟩
  · refine ⟨wholeRows (c.lineTexts.drop k), ?_⟩
    rw [← wholeRows_append, List.take_append_drop, ← whole]
    exact rows
  · rw [texts] at rows nonempty inside closed ⊢
    rw [rows, broken]
    rcases Nat.lt_or_eq_of_le inside with before | atEnd
    · have upTo : k ≤ front.length := by
        simpa using Nat.le_of_lt_succ (by simpa using before)
      refine ⟨wholeRows (front.drop k) ++ PhysicalLine.remainder last.toList, ?_⟩
      rw [List.take_append_of_le_length upTo, ← List.append_assoc, ← wholeRows_append,
        List.take_append_drop]
    · -- The last row lacks its line break, but no string is open there, so this does not show.
      subst atEnd
      have notEmpty : last.toList ≠ [] := by simpa using nonempty rfl
      have noBreak : PhysicalLine.remainder last.toList = [⟨last.toList, false⟩] := by
        cases chars : last.toList with
        | nil => exact absurd chars notEmpty
        | cons c cs => rfl
      have withBreak : wholeRows (front ++ [last]) = wholeRows front ++ [⟨last.toList, true⟩] :=
        wholeRows_append front [last]
      rw [List.take_length, withBreak] at closed ⊢
      refine ⟨[], ?_⟩
      rw [noBreak, List.append_nil]
      refine (Alike.classifiedRows_eq (alike_unterminated ?_) keywords _).symm
      intro carry outcome short
      rcases short with ⟨s, inString, -⟩
      exact closed ⟨carry, s, outcome, inString⟩

/-- Behind an edit, the rows of the table show the tokens of the lines above it and of others
behind them. -/
theorem exists_rows_replaceLine {c : Classifier} (own : c.tokenizer = tokenizer) (i : Nat)
    (t : String) (plain : ∀ text ∈ c.lineTexts.take (min i c.lineCount), IsPlainLine text.toList) :
    ∃ back, (c.replaceLine i t).2.rows =
      classifiedRows keywords
        (tokenizeLines (wholeRows (c.lineTexts.take (min i c.lineCount)) ++ back)).tokens
        (editLines c.lineTexts i t) := by
  rcases exists_editLines_eq c.lineTexts i t with ⟨rest, edited⟩
  rw [← lineCount_eq_length_lineTexts] at edited
  have joined : joinLines ((editLines c.lineTexts i t).map String.toList) =
      ((c.lineTexts.take (min i c.lineCount)).map String.toList).flatMap (· ++ ['\n']) ++
        joinLines ((t :: rest).map String.toList) := by
    rw [edited, List.map_append, joinLines_append _ (by simp)]
  refine ⟨physicalLines (joinLines ((t :: rest).map String.toList)), ?_⟩
  rw [← physicalLines_wholeRows_append plain, ← joined, Classifier.replaceLine_snd,
    (classify_tokenizer own _ _).1, String.toList_ofList]

/-- An edit leaves the texts, the classes and the errors of the rows above it as they were, unless
a string is open at the end of these rows. What the new text is does not matter. -/
theorem replaceLine_rows_above (edits : List Edit) (i : Nat) (t : String) :
    let c := (Classifier.new tokenizer).run edits
    let k := min i c.lineCount
    (∀ text ∈ c.lineTexts, IsPlainLine text.toList) →
      (c.lineCount ≤ i → c.lineTexts.getLast? ≠ some "") →
      (∀ start, (tokenizer.tokenize (wholeText (c.lineTexts.take k))).failure ≠
        some (.unterminatedString start)) →
      ∀ row, row < k → ∃ before after, c.rows[row]? = some before ∧
        (c.replaceLine i t).2.rows[row]? = some after ∧ after.text = before.text ∧
        after.classes = before.classes ∧ after.diagnostic = before.diagnostic := by
  intro c k plain nonempty whole row above
  have plainAbove : ∀ text ∈ c.lineTexts.take k, IsPlainLine text.toList := by
    intro text htext
    exact plain text (List.mem_of_mem_take htext)
  have closed : ¬ EndsInString (wholeRows (c.lineTexts.take k)) := by
    intro inString
    rcases inString.exists_failure with ⟨start, failure⟩
    rw [← physicalLines_wholeText plainAbove] at failure
    exact whole start failure
  have inside : k ≤ c.lineTexts.length := by
    rw [← lineCount_eq_length_lineTexts]
    exact Nat.min_le_right i c.lineCount
  have lastNonempty : k = c.lineTexts.length → c.lineTexts.getLast? ≠ some "" := by
    intro isLast
    rw [← lineCount_eq_length_lineTexts] at isLast
    exact nonempty (isLast ▸ Nat.min_le_left i c.lineCount)
  -- Both tables show the tokens of the rows above and of others behind them.
  rcases exists_shows_run edits plain with ⟨lines, shown⟩
  rcases shown.exists_append inside lastNonempty closed with ⟨back, rowsBefore⟩
  rcases exists_rows_replaceLine (Classifier.tokenizer_run _ edits) i t plainAbove with
    ⟨back', rowsAfter⟩
  have inFront : row < (wholeRows (c.lineTexts.take k)).length := by
    rwa [length_wholeRows, List.length_take, Nat.min_eq_left inside]
  have inTexts : row < c.lineTexts.length := Nat.lt_of_lt_of_le above inside
  have textBefore : c.lineTexts[row]? = some c.lineTexts[row] :=
    List.getElem?_eq_getElem inTexts
  have textAfter : (editLines c.lineTexts i t)[row]? = some c.lineTexts[row] := by
    rw [getElem?_editLines_of_lt t (lineCount_eq_length_lineTexts c ▸ above), textBefore]
  refine ⟨_, _, ?_, ?_,
    rowOf_tokenizeLines_above closed inFront keywords back back' c.lineTexts[row]⟩
  · rw [rowsBefore, getElem?_classifiedRows, textBefore, Option.map_some]
  · rw [rowsAfter, getElem?_classifiedRows, textAfter, Option.map_some]

/-- Below the edited row stands nothing and in it an unterminated string; above it stand an error
and a string of two rows. -/
theorem replaceLine_rows_above_joinedString :
    let c := (Classifier.new tokenizer).run
      [.load "if x:\n  $ 'a\\\nb'\n  c", .replaceLine 9 "\"\"\""]
    ((∀ text ∈ c.lineTexts, IsPlainLine text.toList) ∧
        (tokenizer.tokenize (wholeText (c.lineTexts.take 4))).failure = none) ∧
      ∃ before after, c.rows[1]? = some before ∧ (c.replaceLine 4 "d").2.rows[1]? = some after ∧
        after.text = before.text ∧ after.classes = before.classes ∧
        after.diagnostic = before.diagnostic := by
  intro c
  have plain : ∀ text ∈ c.lineTexts, IsPlainLine text.toList := by decide +kernel
  have complete : (tokenizer.tokenize (wholeText (c.lineTexts.take 4))).failure = none := by
    decide +kernel
  have k : min 4 c.lineCount = 4 := by decide +kernel
  have inTable : ¬ c.lineCount ≤ 4 := by decide +kernel
  refine ⟨⟨plain, complete⟩, replaceLine_rows_above _ 4 "d" plain ?_ ?_ 1 ?_⟩
  · intro pastEnd
    exact absurd pastEnd inTable
  · intro start
    rw [k, complete]
    simp
  · rw [k]
    decide

end Python
end EditorAnalysis
