import EditorAnalysis.Proofs.Python.LongestMatch
import EditorAnalysis.Proofs.Python.OpenStrings

/-!
# The lexical grammar

What begins at a place of a row is a string, else a number, else a name, else an operator, else a
character alone; and a number, a name or an operator is as long as it can be. Every token of a text
that is one of these follows this grammar at the place where it starts, a string that goes on over
several rows as well as one that does not end.
-/

namespace EditorAnalysis
namespace Python

open Text

/-! ## Strings -/

/-- Whether a string begins at the front of a row's rest: with its quote, or with letters and the
quote. -/
def BeginsString (rest : List Char) : Prop :=
  ∃ letters quote more, letters.map Char.toLower ∈ stringPrefixes ∧ isQuote quote = true ∧
    rest = letters ++ quote :: more

/-- Only a letter has a letter for its lower case. -/
theorem isAlpha_of_isAlpha_toLower {c : Char} (h : c.toLower.isAlpha = true) :
    c.isAlpha = true := by
  by_cases upper : c.val ≥ 'A'.val ∧ c.val ≤ 'Z'.val
  · have isUpper : c.isUpper = true := decide_eq_true upper
    exact Bool.or_eq_true_iff.2 (.inl isUpper)
  · have same : c.toLower = c := dif_neg upper
    rwa [same] at h

theorem isAlpha_of_isPrefix {letters : List Char}
    (isPrefix : letters.map Char.toLower ∈ stringPrefixes) : ∀ c ∈ letters, c.isAlpha = true := by
  have allAlpha : stringPrefixes.all (·.all Char.isAlpha) = true := by decide
  have isAlpha := List.all_eq_true.1 (List.all_eq_true.1 allAlpha _ isPrefix)
  intro c hc
  exact isAlpha_of_isAlpha_toLower (isAlpha _ (List.mem_map_of_mem hc))

theorem not_isAlpha_of_isQuote {quote : Char} (h : isQuote quote = true) :
    quote.isAlpha = false := by
  simp only [isQuote, Bool.or_eq_true, beq_iff_eq] at h
  rcases h with rfl | rfl
  · rfl
  · rfl

/-- The tokenizer finds an opener just where a string begins. -/
theorem beginsString_iff {rest : List Char} :
    BeginsString rest ↔ ∃ opener, StringOpener.ofFront? rest = some opener := by
  constructor
  · rintro ⟨letters, quote, more, isPrefix, isq, rfl⟩
    have front : (letters ++ quote :: more).takeWhile Char.isAlpha = letters := by
      rw [List.takeWhile_append_of_pos (isAlpha_of_isPrefix isPrefix), List.takeWhile_cons,
        not_isAlpha_of_isQuote isq]
      simp
    exact ⟨⟨letters.length, quote, more.take 2 == [quote, quote]⟩, by
      simp [StringOpener.ofFront?, front, isPrefix, isq]⟩
  · rintro ⟨opener, opens⟩
    rcases StringOpener.exists_of_ofFront? opens with ⟨more, behind, isq, -, -⟩
    refine ⟨_, opener.quote, more, StringOpener.prefix_mem_of_ofFront? opens, isq, ?_⟩
    rw [← behind, List.takeWhile_append_dropWhile]

theorem OpensString.beginsString {quote : Char} {triple : Bool} {body rest : List Char}
    (h : OpensString quote triple body rest) : BeginsString rest := by
  rcases h.front with ⟨letters, isPrefix, rfl⟩
  rcases exists_closer_eq_cons quote triple with ⟨quotes, isCloser⟩
  exact ⟨letters, quote, quotes ++ body, isPrefix, h.isQuote, by simp [isCloser]⟩

/-! ## The grammar -/

/-- The tokens that may start at the front of a row's rest, by their kinds and texts. The forms are
tried in order: each one stands only where those before it do not begin. -/
inductive ReadsAs (rest : List Char) : TokenKind → List Char → Prop where
  /-- A string that does not end where it should is an error. -/
  | string {kind : TokenKind} {text : List Char} :
      BeginsString rest → kind = .string ∨ kind = .error → ReadsAs rest kind text
  | number {text : List Char} :
      ¬ BeginsString rest → IsLongest IsNumber text rest → ReadsAs rest .number text
  | name {text : List Char} :
      ¬ BeginsString rest → ¬ Begins IsNumber rest → IsLongest IsName text rest →
      (∀ d, rest[text.length]? = some d → isIdentifierContinue d = false) →
      ReadsAs rest .name text
  | operator {text : List Char} :
      ¬ BeginsString rest → ¬ Begins IsNumber rest → ¬ Begins IsName rest →
      IsLongest (· ∈ operators) text rest → ReadsAs rest .operator text
  | stray {c : Char} {more : List Char} :
      ¬ BeginsString rest → ¬ Begins IsNumber rest → ¬ Begins IsName rest →
      ¬ Begins (· ∈ operators) rest → rest = c :: more → ReadsAs rest .error [c]

theorem begins_number_iff {rest : List Char} : Begins IsNumber rest ↔ numberLength rest ≠ 0 :=
  measures_number.begins_iff fun h => h.ne_nil rfl

theorem begins_name_iff {rest : List Char} : Begins IsName rest ↔ nameLength rest ≠ 0 :=
  measures_name.begins_iff (by rintro ⟨c, more, empty, -⟩; cases empty)

theorem begins_operator_iff {rest : List Char} :
    Begins (· ∈ operators) rest ↔ operatorLength rest ≠ 0 :=
  measures_operator.begins_iff (by decide)

/-- The token of the lexeme at the front follows the grammar. -/
theorem Lexeme.readsAs {c : Char} {cs : List Char} {kind : TokenKind} {n : Nat}
    (token : (ofFront (c :: cs)).token? (c :: cs) = some (kind, n)) :
    ReadsAs (c :: cs) kind ((c :: cs).take n) := by
  rw [ofFront] at token
  split at token
  · next opener opens =>
      have begins := beginsString_iff.2 ⟨opener, opens⟩
      rw [token?] at token
      split at token
      · cases token
        exact .string begins (.inl rfl)
      · cases token
  · next noOpener =>
      have noString : ¬ BeginsString (c :: cs) := by
        rw [beginsString_iff, noOpener]
        rintro ⟨opener, opens⟩
        cases opens
      split at token
      · next number =>
          cases token
          exact .number noString (measures_number.isLongest number (numberLength_le _))
      · next noNumber =>
          rw [← begins_number_iff] at noNumber
          split at token
          · next name =>
              cases token
              have longest := measures_name.isLongest name (nameLength_le _)
              exact .name noString noNumber longest fun d => longest.not_isIdentifierContinue
          · next noName =>
              rw [← begins_name_iff] at noName
              split at token
              · next operator =>
                  cases token
                  exact .operator noString noNumber noName
                    (measures_operator.isLongest operator (operatorLength_le _))
              · next noOperator =>
                  rw [← begins_operator_iff] at noOperator
                  cases token
                  exact .stray noString noNumber noName noOperator rfl

/-! ## The tokens of a row -/

/-- Whether a token is one that the grammar allows where it starts. -/
def FollowsGrammar (lines : List PhysicalLine) (t : Token) : Prop :=
  ReadsAs ((rowText lines t.start.line).drop t.start.column) t.kind t.text.toList

/-- The kinds of tokens that the grammar tells apart. -/
def lexemeKinds : List TokenKind :=
  [.string, .number, .name, .operator, .error]

variable {lines : List PhysicalLine} {row : Nat} {line : PhysicalLine} {carry next : Carry}
  {tokens : List Token}

theorem Scans.followsGrammar {terminated : Bool} {column depth : Nat} {rest : List Char}
    {scan : RowScan} (h : Scans row terminated column depth rest scan)
    (isRest : rest = (rowText lines row).drop column) {t : Token} (ht : t ∈ scan.tokens)
    (isLexeme : t.kind ∈ lexemeKinds) : FollowsGrammar lines t := by
  induction h with
  | done | continuation | openString => cases ht
  | blank _ _ ih => exact ih (front_of_drop isRest).2.1 ht
  | comment =>
      rcases List.mem_singleton.1 ht with rfl
      simp [lexemeKinds, rowToken] at isLexeme
  | @lexeme column _ c cs kind n _ _ token _ ih =>
      rcases List.mem_cons.1 ht with rfl | later
      · have reads := Lexeme.readsAs token
        rw [isRest] at reads
        simpa [FollowsGrammar, rowToken, isRest] using reads
      · refine ih ?_ later
        rw [isRest, List.drop_drop]
  | brokenString _ front _ _ =>
      rcases List.mem_singleton.1 ht with rfl
      have opens := StringOpener.opensString (Lexeme.ofFront?_of_ofFront_eq_string front)
      rw [isRest] at opens
      exact .string opens.beginsString (.inr rfl)

theorem Scans.followsGrammar_finishRow {column depth : Nat} {rest : List Char} {scan : RowScan}
    (h : Scans row line.terminated column depth rest scan)
    (isRest : rest = (rowText lines row).drop column) {blocks : OpenBlocks} {t : Token}
    (ht : t ∈ (finishRow row line blocks scan).1) (isLexeme : t.kind ∈ lexemeKinds) :
    FollowsGrammar lines t := by
  rcases mem_or_mem_of_mem_finishRow ht with inside | atEnd
  · exact h.followsGrammar isRest inside isLexeme
  · rcases eq_of_mem_lineEnd atEnd with ⟨kind, rfl | rfl, rfl⟩
    · simp [lexemeKinds, lineEndToken] at isLexeme
    · simp [lexemeKinds, lineEndToken] at isLexeme

/-- The tokens of a row follow the grammar. One that began in an earlier row began with a string. -/
theorem Steps.followsGrammar (h : Steps row line carry tokens next) (hline : lines[row]? = some line)
    (before : ∀ s, carry.mode = .inString s →
      BeginsString ((rowText lines s.start.line).drop s.start.column))
    {t : Token} (ht : t ∈ tokens) (isLexeme : t.kind ∈ lexemeKinds) : FollowsGrammar lines t := by
  have text := rowText_of_getElem? hline
  cases h with
  | blankRow =>
      rcases eq_or_eq_of_mem_blankRowTokens ht with rfl | rfl
      · simp [lexemeKinds, rowToken] at isLexeme
      · simp [lexemeKinds, lineEndToken] at isLexeme
  | statement _ _ scanned =>
      rcases List.mem_append.1 ht with indentation | later
      · rcases eq_or_eq_of_mem_indentTokens indentation with rfl | rfl
        · simp [lexemeKinds, rowToken] at isLexeme
        · simp [lexemeKinds] at isLexeme
      · refine scanned.followsGrammar_finishRow ?_ later isLexeme
        rw [text, drop_length_takeWhile]
  | goesOn _ scanned => exact scanned.followsGrammar_finishRow text.symm ht isLexeme
  | @stringCloses _ _ _ s _ _ scanned =>
      rcases List.mem_cons.1 ht with rfl | later
      · exact .string (before s rfl) (.inl rfl)
      · refine scanned.followsGrammar_finishRow ?_ later isLexeme
        rw [text]
  | stringGoesOn => cases ht
  | @stringBreaks _ _ s =>
      rcases List.mem_singleton.1 ht with rfl
      exact .string (before s rfl) (.inr rfl)

/-! ## Texts -/

/-- A token of the rows of a text is one of a row that is entered. -/
theorem exists_enters_of_mem {count : Nat} (inside : count ≤ lines.length) {t : Token}
    (ht : t ∈ (scanRows 0 .initial (lines.take count)).1) :
    ∃ row line carry tokens next, row < count ∧ lines[row]? = some line ∧
      Enters lines row carry ∧ Steps row line carry tokens next ∧ t ∈ tokens := by
  induction count with
  | zero => cases ht
  | succ count ih =>
      have hline : lines[count]? = some lines[count] := List.getElem?_eq_getElem inside
      have place : 0 + (lines.take count).length = count := by
        rw [Nat.zero_add, List.length_take_of_le (Nat.le_of_succ_le inside)]
      have above (earlier : t ∈ (scanRows 0 .initial (lines.take count)).1) :
          ∃ row line carry tokens next, row < count + 1 ∧ lines[row]? = some line ∧
            Enters lines row carry ∧ Steps row line carry tokens next ∧ t ∈ tokens := by
        rcases ih (Nat.le_of_succ_le inside) earlier with
          ⟨row, line, carry, tokens, next, before, found⟩
        exact ⟨row, line, carry, tokens, next, Nat.lt_succ_of_lt before, found⟩
      rw [take_succ_of_getElem? hline] at ht
      cases scanned : scanRows 0 .initial (lines.take count) with
      | mk first outcome =>
          cases outcome with
          | error failure =>
              rw [scanRows_append_of_error scanned, ← scanned] at ht
              exact above ht
          | ok carry =>
              rw [scanRows_append_of_ok scanned, place] at ht
              rcases List.mem_append.1 ht with earlier | here
              · rw [scanned] at above
                exact above earlier
              · cases step : scanRow count lines[count] carry with
                | error failure =>
                    rw [scanRows_cons_of_error step] at here
                    cases here
                | ok result =>
                    rcases result with ⟨tokens, next⟩
                    rw [scanRows_cons_of_ok step, scanRows, List.append_nil] at here
                    exact ⟨count, _, carry, tokens, next, Nat.lt_succ_self count, hline,
                      congrArg Prod.snd scanned, Steps.of_scanRow step, here⟩

/-- Every token that the grammar tells apart is the one that it asks for where it starts: a string
or the error that is left of one, else the longest number, else the longest name, else the longest
operator, else one character that is an error. -/
theorem tokenize_followsGrammar (text : String) :
    let lines := physicalLines text.toList
    ∀ t ∈ (tokenizer.tokenize text).tokens, t.kind ∈ lexemeKinds → FollowsGrammar lines t := by
  intro lines t ht isLexeme
  rcases exists_tokens_tokenizeLines lines with ⟨behind, tokens, stand⟩
  have split : (tokenizer.tokenize text).tokens = _ ++ behind := tokens
  rw [split] at ht
  rcases List.mem_append.1 ht with inRows | atEnd
  · have among : t ∈ (scanRows 0 .initial (lines.take lines.length)).1 := by
      rwa [List.take_length]
    rcases exists_enters_of_mem (Nat.le_refl _) among with
      ⟨row, line, carry, here, next, before, hline, above, step, inHere⟩
    refine step.followsGrammar hline ?_ inHere isLexeme
    intro s inString
    rcases (above.staysOpen (Nat.le_of_lt before) inString).opens with ⟨body, opens, -⟩
    exact opens.beginsString
  · rcases stand t atEnd with ⟨kind, rfl | rfl, rfl⟩
    · simp [lexemeKinds] at isLexeme
    · simp [lexemeKinds] at isLexeme

/-- A number with all its parts, an operator of three characters, letters that are no prefix of a
string, and a quote that begins one, with nothing between them. -/
theorem tokenize_followsGrammar_adjoining :
    let text := "1_.5e-3j**=bu'"
    let number : Token := ⟨.number, "1_.5e-3j", ⟨0, 0⟩, ⟨0, 8⟩⟩
    let name : Token := ⟨.name, "bu", ⟨0, 11⟩, ⟨0, 13⟩⟩
    (number ∈ (tokenizer.tokenize text).tokens ∧ FollowsGrammar (physicalLines text.toList) number) ∧
      name ∈ (tokenizer.tokenize text).tokens ∧ FollowsGrammar (physicalLines text.toList) name := by
  intro text number name
  have hasNumber : number ∈ (tokenizer.tokenize text).tokens := by decide +kernel
  have hasName : name ∈ (tokenizer.tokenize text).tokens := by decide +kernel
  exact ⟨⟨hasNumber, tokenize_followsGrammar text number hasNumber (by decide)⟩,
    hasName, tokenize_followsGrammar text name hasName (by decide)⟩

end Python
end EditorAnalysis
