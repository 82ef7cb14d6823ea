import EditorAnalysis.Proofs.Python.Continuations
import EditorAnalysis.Proofs.Python.OpenColumns
import EditorAnalysis.Proofs.Python.OpenStrings

/-!
# What a failure says

A stream ends in one of three ways: a row goes astray, the text breaks off inside something, or the
text is complete. Which way it is, and at which place, can be told from the text and the tokens that
were found: a failure leaves these as they are and adds none.
-/

namespace EditorAnalysis
namespace Python

open Text

/-! ## The three ends -/

/-- The streams that the tokenizer makes of a text. -/
inductive StreamOf (lines : List PhysicalLine) : TokenStream → Prop where
  | astray {tokens : List Token} {place : Position} :
      scanRows 0 .initial lines = (tokens, .error (.inconsistentDedent place)) →
      DedentsAstray lines tokens place →
      StreamOf lines ⟨tokens, some (.inconsistentDedent place)⟩
  | breaksOff {tokens : List Token} {carry : Carry} {failure : TokenizeFailure} :
      scanRows 0 .initial lines = (tokens, .ok carry) →
      carry.failure? lines.length = some failure →
      StreamOf lines ⟨tokens, some failure⟩
  | complete {tokens : List Token} {blocks : OpenBlocks} :
      scanRows 0 .initial lines = (tokens, .ok ⟨blocks, 0, .fresh⟩) →
      StreamOf lines ⟨tokens ++ closingTokens lines.length blocks, none⟩

theorem streamOf_tokenizeLines (lines : List PhysicalLine) :
    StreamOf lines (tokenizeLines lines) := by
  cases scanned : scanRows 0 .initial lines with
  | mk tokens outcome =>
      cases outcome with
      | error failure =>
          rcases dedentsAstray_of_scanRows scanned with ⟨place, rfl, astray⟩
          rw [tokenizeLines_of_error scanned]
          exact .astray scanned astray
      | ok carry =>
          cases ends : carry.failure? lines.length with
          | some failure =>
              rw [tokenizeLines_of_failure scanned ends]
              exact .breaksOff scanned ends
          | none =>
              rcases carry with ⟨blocks, depth, mode⟩
              rcases Carry.failure?_eq_none_iff.1 ends with ⟨rfl, rfl⟩
              rw [tokenizeLines_of_complete scanned]
              exact .complete scanned

namespace Carry

variable {carry : Carry} {rows : Nat}

theorem failure?_eq_unterminatedString_iff {start : Position} :
    carry.failure? rows = some (.unterminatedString start) ↔
      ∃ s, carry.mode = .inString s ∧ s.start = start := by
  rcases carry with ⟨blocks, depth, mode⟩
  cases mode <;> simp [failure?]

theorem failure?_eq_unterminatedStatement_iff {row : Nat} :
    carry.failure? rows = some (.unterminatedStatement row) ↔
      (∀ s, carry.mode ≠ .inString s) ∧ (0 < carry.depth ∨ carry.mode = .continued) ∧
        row = rows - 1 := by
  rcases carry with ⟨blocks, depth, mode⟩
  cases mode <;> simp [failure?, eq_comm]

end Carry

/-! ## The end marker -/

variable {lines : List PhysicalLine} {row : Nat} {line : PhysicalLine} {carry next : Carry}
  {tokens : List Token} {stream : TokenStream}

theorem not_isEndMarker_of_mem_finishRow {blocks : OpenBlocks} {scan : RowScan} {t : Token}
    (marks : ∀ u ∈ scan.tokens, u.marks = true)
    (ht : t ∈ (finishRow row line blocks scan).1) : (t.kind == .endMarker) = false := by
  rcases mem_or_mem_of_mem_finishRow ht with inside | atEnd
  · refine beq_eq_false_iff_ne.2 fun isMarker => ?_
    have shows := marks t inside
    simp [Token.marks, isMarker] at shows
  · rcases eq_of_mem_lineEnd atEnd with ⟨kind, rfl | rfl, rfl⟩
    · rfl
    · rfl

/-- No row has an end marker. -/
theorem Steps.not_isEndMarker (h : Steps row line carry tokens next) {t : Token} (ht : t ∈ tokens) :
    (t.kind == .endMarker) = false := by
  cases h with
  | blankRow =>
      rcases eq_or_eq_of_mem_blankRowTokens ht with rfl | rfl
      · rfl
      · rfl
  | statement _ _ scanned =>
      rcases List.mem_append.1 ht with indentation | later
      · rcases eq_or_eq_of_mem_indentTokens indentation with rfl | rfl
        · rfl
        · rfl
      · exact not_isEndMarker_of_mem_finishRow scanned.marks later
  | goesOn _ scanned => exact not_isEndMarker_of_mem_finishRow scanned.marks ht
  | stringCloses _ scanned =>
      rcases List.mem_cons.1 ht with rfl | later
      · rfl
      · exact not_isEndMarker_of_mem_finishRow scanned.marks later
  | stringGoesOn => cases ht
  | stringBreaks =>
      rcases List.mem_singleton.1 ht with rfl
      rfl

theorem kind_ne_endMarker_of_scanRows {outcome : Except TokenizeFailure Carry}
    (h : scanRows 0 .initial lines = (tokens, outcome)) :
    ∀ t ∈ tokens, t.kind ≠ .endMarker := by
  intro t ht
  have among : t ∈ (scanRows 0 .initial lines).1 := h ▸ ht
  rcases exists_steps_of_mem_scanRows among with ⟨_, _, _, _, _, -, -, step, inHere⟩
  exact beq_eq_false_iff_ne.1 (step.not_isEndMarker inHere)

namespace StreamOf

/-- A stream without a failure has one end marker, at its end. -/
theorem endMarker (h : StreamOf lines stream) (noFailure : stream.failure = none) :
    ∃ front, stream.tokens = front ++ [⟨.endMarker, "", ⟨lines.length, 0⟩, ⟨lines.length, 0⟩⟩] ∧
      ∀ t ∈ front, t.kind ≠ .endMarker := by
  cases h with
  | astray | breaksOff => cases noFailure
  | @complete tokens blocks scanned =>
      refine ⟨tokens ++ List.replicate blocks.length _, (List.append_assoc _ _ _).symm, ?_⟩
      intro t ht
      rcases List.mem_append.1 ht with inRows | dedent
      · exact kind_ne_endMarker_of_scanRows scanned t inRows
      · rcases (List.mem_replicate.1 dedent).2 with rfl
        intro isMarker
        cases isMarker

/-- A stream with a failure has no end marker. -/
theorem kind_ne_endMarker (h : StreamOf lines stream) (fails : stream.failure ≠ none) :
    ∀ t ∈ stream.tokens, t.kind ≠ .endMarker := by
  cases h with
  | astray scanned _ => exact kind_ne_endMarker_of_scanRows scanned
  | breaksOff scanned _ => exact kind_ne_endMarker_of_scanRows scanned
  | complete => exact absurd rfl fails

theorem dedentsAstray (h : StreamOf lines stream) {place : Position}
    (fails : stream.failure = some (.inconsistentDedent place)) :
    DedentsAstray lines stream.tokens place := by
  cases h with
  | astray _ astray =>
      cases fails
      exact astray
  | breaksOff _ ends =>
      cases fails
      exact absurd ends (Carry.failure?_ne_inconsistentDedent place)
  | complete => cases fails

end StreamOf

/-! ## Texts that break off -/

/-- Whether a text breaks off inside a string that opens at a place: the string has no closer up to
the end of the text, the tokens stop in front of it, and all that stands in front of it is in a
token or may lie outside of all. -/
structure BreaksOffInString (lines : List PhysicalLine) (tokens : List Token) (start : Position) :
    Prop where
  staysOpen : ∃ quote triple, StaysOpen lines start quote triple lines.length
  stops : ∀ t ∈ tokens, t.stop ≤ start
  gaps : ∀ row column c, (rowText lines row)[column]? = some c → ¬ start ≤ ⟨row, column⟩ →
    (∀ t ∈ tokens, t.covers row column = false) → IsGap lines row column c

/-- Whether a text breaks off inside a statement: brackets are open at its end, or its last row ends
in a continuation backslash. -/
structure BreaksOffInStatement (lines : List PhysicalLine) (tokens : List Token) (row : Nat) :
    Prop where
  isLast : row + 1 = lines.length
  isOpen : 0 < openBrackets 0 tokens ∨ EndsInContinuation lines tokens row

/-- A string begins with a character that has to be in a token. -/
theorem StaysOpen.exists_char {start : Position} {quote : Char} {triple : Bool}
    (h : StaysOpen lines start quote triple row) :
    ∃ c, (rowText lines start.line)[start.column]? = some c ∧
      ¬ IsGap lines start.line start.column c := by
  rcases h.opens with ⟨body, opens, -⟩
  rcases opens.exists_cons with ⟨c, more, front, notGap⟩
  refine ⟨c, (front_of_drop front.symm).1, fun gap => notGap ?_⟩
  rcases gap with rfl | rfl | rfl | ⟨rfl, -⟩ <;> simp

theorem StaysOpen.line_lt {start : Position} {quote : Char} {triple : Bool}
    (h : StaysOpen lines start quote triple row) : start.line < lines.length := by
  rcases h.exists_char with ⟨c, char, -⟩
  refine Nat.lt_of_not_le fun past => ?_
  rw [rowText_of_length_le past] at char
  cases char

/-- A text breaks off inside the string that is open behind its last row, and inside no other. -/
theorem breaksOffInString_iff (h : scanRows 0 .initial lines = (tokens, .ok carry))
    {start : Position} :
    BreaksOffInString lines tokens start ↔ ∃ s, carry.mode = .inString s ∧ s.start = start := by
  have tiled := (tiles_of_scanRows h).1
  constructor
  · intro breaksOff
    rcases breaksOff.staysOpen with ⟨quote, triple, staysOpen⟩
    rcases staysOpen.exists_char with ⟨c, char, notGap⟩
    -- In front of the place up to which the tokens reach there is nothing but gaps.
    have reached : carry.front lines.length ≤ start := by
      refine Decidable.byContradiction fun before => notGap ?_
      exact tiled.isGap char (Position.zero_le start) before
        fun t ht => Token.covers_of_stop_le (breaksOff.stops t ht)
    cases mode : carry.mode with
    | fresh | continued =>
        rw [Carry.front, mode] at reached
        exact absurd staysOpen.line_lt (Nat.not_lt_of_le (Position.line_le_of_le reached))
    | inString s =>
        rw [Carry.front, mode] at reached tiled
        -- And the string that is open there is no gap in front of another one.
        refine ⟨s, rfl, Position.le_antisymm reached (Decidable.byContradiction fun before => ?_)⟩
        rcases ((Enters.length h).staysOpen (Nat.le_refl _) mode).exists_char with
          ⟨d, front, notGap'⟩
        exact notGap' (breaksOff.gaps _ _ d front before
          fun t ht => Token.covers_of_stop_le (tiled.between ht).2.2)
  · rintro ⟨s, inString, rfl⟩
    rw [Carry.front, inString] at tiled
    refine ⟨⟨_, _, (Enters.length h).staysOpen (Nat.le_refl _) inString⟩,
      fun t ht => (tiled.between ht).2.2, ?_⟩
    intro row column c char before outside
    exact tiled.isGap char (Position.zero_le _) before outside

/-- Outside strings a text breaks off, in its last row, when it has brackets open or a statement to
carry on. -/
theorem breaksOffInStatement_iff (h : scanRows 0 .initial lines = (tokens, .ok carry))
    (outside : ∀ s, carry.mode ≠ .inString s) :
    BreaksOffInStatement lines tokens row ↔
      (0 < carry.depth ∨ carry.mode = .continued) ∧ row = lines.length - 1 := by
  have depth : openBrackets 0 tokens = carry.depth := openBrackets_of_scanRows h
  have continuation {row : Nat} (isLast : row + 1 = lines.length) :
      EndsInContinuation lines tokens row ↔ carry.mode = .continued := by
    have entered : Enters lines (row + 1) carry := isLast ▸ Enters.length h
    have inside : row < lines.length := isLast ▸ Nat.lt_succ_self row
    have here := entered.endsInContinuation_iff (List.getElem?_eq_getElem inside) outside
    rwa [isLast, List.take_length, h] at here
  constructor
  · rintro ⟨isLast, isOpen⟩
    rw [depth, continuation isLast] at isOpen
    exact ⟨isOpen, Nat.eq_sub_of_add_eq isLast⟩
  · rintro ⟨isOpen, rfl⟩
    have some_ : lines ≠ [] := by
      rintro rfl
      cases h
      rcases isOpen with brackets | continued
      · cases brackets
      · cases continued
    have isLast := Nat.sub_add_cancel (List.length_pos_iff.2 some_)
    exact ⟨isLast, by rwa [depth, continuation isLast]⟩

/-- No string is open behind the last row just when the text breaks off inside none. -/
theorem not_inString_iff (h : scanRows 0 .initial lines = (tokens, .ok carry)) :
    (∀ s, carry.mode ≠ .inString s) ↔ ∀ start, ¬ BreaksOffInString lines tokens start := by
  constructor
  · intro outside start breaksOff
    rcases (breaksOffInString_iff h).1 breaksOff with ⟨s, inString, -⟩
    exact outside s inString
  · intro noString s inString
    exact noString s.start ((breaksOffInString_iff h).2 ⟨s, inString, rfl⟩)

/-! ## Complete texts -/

/-- No string begins behind the end marker. -/
theorem not_breaksOffInString_closingTokens {blocks : OpenBlocks} {start : Position} :
    ¬ BreaksOffInString lines (tokens ++ closingTokens lines.length blocks) start := by
  rintro ⟨⟨_, _, staysOpen⟩, stops, -⟩
  have marker : (⟨.endMarker, "", ⟨lines.length, 0⟩, ⟨lines.length, 0⟩⟩ : Token) ∈
      tokens ++ closingTokens lines.length blocks :=
    List.mem_append_right _ (List.mem_append_right _ (List.mem_singleton.2 rfl))
  have past := Position.line_le_of_le (stops _ marker)
  exact absurd staysOpen.line_lt (Nat.not_lt_of_le past)

/-- The closing tokens hide nothing that the rows leave open. -/
theorem BreaksOffInStatement.of_closingTokens {blocks : OpenBlocks}
    (h : BreaksOffInStatement lines (tokens ++ closingTokens lines.length blocks) row)
    (closed : openBrackets 0 tokens = 0) : BreaksOffInStatement lines tokens row := by
  refine ⟨h.isLast, .inr ?_⟩
  rcases h.isOpen with brackets | ⟨column, upTo, char, outside⟩
  · rw [openBrackets_append, closed,
      (bracketed_closingTokens lines.length blocks).openBrackets_eq] at brackets
    cases brackets
  · exact ⟨column, upTo, char, fun t ht => outside t (List.mem_append_left _ ht)⟩

theorem not_breaksOffInStatement_closingTokens {blocks : OpenBlocks}
    (h : scanRows 0 .initial lines = (tokens, .ok ⟨blocks, 0, .fresh⟩)) :
    ¬ BreaksOffInStatement lines (tokens ++ closingTokens lines.length blocks) row := by
  intro breaksOff
  have rows := breaksOff.of_closingTokens (openBrackets_of_scanRows h)
  have outside (s : OpenString) : RowMode.fresh ≠ .inString s := fun inString => by cases inString
  rcases ((breaksOffInStatement_iff h outside).1 rows).1 with brackets | continued
  · cases brackets
  · cases continued

/-! ## What the failure names -/

namespace StreamOf

/-- A string is named by the failure when the text breaks off inside it. -/
theorem unterminatedString_iff (h : StreamOf lines stream) {start : Position} :
    stream.failure = some (.unterminatedString start) ↔
      (∀ place, stream.failure ≠ some (.inconsistentDedent place)) ∧
        BreaksOffInString lines stream.tokens start := by
  cases h with
  | @astray _ place =>
      constructor
      · intro fails
        cases fails
      · rintro ⟨notAstray, -⟩
        exact absurd rfl (notAstray place)
  | breaksOff scanned ends =>
      rw [← ends, Carry.failure?_eq_unterminatedString_iff, breaksOffInString_iff scanned]
      exact ⟨fun open_ => ⟨Carry.failure?_ne_inconsistentDedent, open_⟩, And.right⟩
  | complete =>
      constructor
      · intro fails
        cases fails
      · rintro ⟨-, breaksOff⟩
        exact absurd breaksOff not_breaksOffInString_closingTokens

/-- The last row is named by the failure when the text breaks off in it, inside a statement but
inside no string. -/
theorem unterminatedStatement_iff (h : StreamOf lines stream) :
    stream.failure = some (.unterminatedStatement row) ↔
      (∀ place, stream.failure ≠ some (.inconsistentDedent place)) ∧
        (∀ start, ¬ BreaksOffInString lines stream.tokens start) ∧
        BreaksOffInStatement lines stream.tokens row := by
  cases h with
  | @astray _ place =>
      constructor
      · intro fails
        cases fails
      · rintro ⟨notAstray, -⟩
        exact absurd rfl (notAstray place)
  | breaksOff scanned ends =>
      rw [← ends, Carry.failure?_eq_unterminatedStatement_iff, ← not_inString_iff scanned]
      constructor
      · rintro ⟨outside, statement⟩
        exact ⟨Carry.failure?_ne_inconsistentDedent, outside,
          (breaksOffInStatement_iff scanned outside).2 statement⟩
      · rintro ⟨-, outside, statement⟩
        exact ⟨outside, (breaksOffInStatement_iff scanned outside).1 statement⟩
  | complete scanned =>
      constructor
      · intro fails
        cases fails
      · rintro ⟨-, -, breaksOff⟩
        exact absurd breaksOff (not_breaksOffInStatement_closingTokens scanned)

end StreamOf

/-- What a stream says of the end of its text. Without a failure it has one end marker, behind the
last row and behind all other tokens; with a failure it has none. A row that goes astray begins left
of the innermost block, at the column of no open block, and the tokens are those of the rows above
it. When no row goes astray, a string is named just when the text breaks off inside it, and else the
last row is named just when the text breaks off inside a statement. -/
theorem tokenize_failures (text : String) :
    let lines := physicalLines text.toList
    let stream := tokenizer.tokenize text
    let notAstray := ∀ place, stream.failure ≠ some (.inconsistentDedent place)
    (stream.failure = none → ∃ front,
      stream.tokens = front ++ [⟨.endMarker, "", ⟨lines.length, 0⟩, ⟨lines.length, 0⟩⟩] ∧
        ∀ t ∈ front, t.kind ≠ .endMarker) ∧
      (stream.failure ≠ none → ∀ t ∈ stream.tokens, t.kind ≠ .endMarker) ∧
      (∀ place, stream.failure = some (.inconsistentDedent place) →
        DedentsAstray lines stream.tokens place) ∧
      (∀ start, stream.failure = some (.unterminatedString start) ↔
        notAstray ∧ BreaksOffInString lines stream.tokens start) ∧
      ∀ row, stream.failure = some (.unterminatedStatement row) ↔
        notAstray ∧ (∀ start, ¬ BreaksOffInString lines stream.tokens start) ∧
          BreaksOffInStatement lines stream.tokens row := by
  intro lines stream notAstray
  have made : StreamOf lines stream := streamOf_tokenizeLines lines
  exact ⟨made.endMarker, made.kind_ne_endMarker, fun _ => made.dedentsAstray,
    fun _ => made.unterminatedString_iff, fun _ => made.unterminatedStatement_iff⟩

/-- A string that is open hides the bracket that is open in front of it, and a row that goes astray
hides the rows below it. -/
theorem tokenize_failures_hidden :
    let hidden := "f(x, \\\n'''a\\'''\nb"
    let astray := "if x:\n    a\n  b\n'''"
    BreaksOffInString (physicalLines hidden.toList) (tokenizer.tokenize hidden).tokens ⟨1, 0⟩ ∧
      0 < openBrackets 0 (tokenizer.tokenize hidden).tokens ∧
      DedentsAstray (physicalLines astray.toList) (tokenizer.tokenize astray).tokens ⟨2, 2⟩ := by
  intro hidden astray
  have openString : (tokenizer.tokenize hidden).failure = some (.unterminatedString ⟨1, 0⟩) := by
    decide +kernel
  have dedents : (tokenizer.tokenize astray).failure = some (.inconsistentDedent ⟨2, 2⟩) := by
    decide +kernel
  rcases tokenize_failures hidden with ⟨-, -, -, inString, -⟩
  rcases tokenize_failures astray with ⟨-, -, goesAstray, -, -⟩
  exact ⟨((inString ⟨1, 0⟩).1 openString).2, by decide +kernel, goesAstray ⟨2, 2⟩ dedents⟩

end Python
end EditorAnalysis
