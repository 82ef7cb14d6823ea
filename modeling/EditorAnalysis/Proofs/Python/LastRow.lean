import EditorAnalysis.Proofs.Classifier.Ranks
import EditorAnalysis.Proofs.Python.Rows

/-!
# A row without its line break

The last row of a text may lack its line break. Such a row shows the same in the table as it would
with the break, unless it ends inside a string that is quoted once: the break is what lets the
string go on, and without it the string is an error.
-/

namespace EditorAnalysis
namespace Python

open Text

/-! ## Strings that break off -/

/-- Whether the text of a string begins as a string does: with letters, perhaps, and a quote. -/
def OpenString.IsQuoted (s : OpenString) : Prop :=
  ∃ quote more, s.text.dropWhile Char.isAlpha = quote :: more ∧ isQuote quote = true

/-- Whether a string that is open in front of a row begins as a string does. -/
def Carry.IsQuoted (carry : Carry) : Prop :=
  ∀ s, carry.mode = .inString s → s.IsQuoted

variable {row : Nat} {line : PhysicalLine}

/-- A quote in front stays in front when characters follow. -/
theorem dropWhile_append_of_eq_cons {text more : List Char} {quote : Char}
    (h : text.dropWhile Char.isAlpha = quote :: more) (behind : List Char) :
    (text ++ behind).dropWhile Char.isAlpha = quote :: (more ++ behind) := by
  rw [List.dropWhile_append, h]
  rfl

theorem OpenString.IsQuoted.extend {s : OpenString} (h : s.IsQuoted) (content : List Char) :
    (s.extend content).IsQuoted := by
  rcases h with ⟨quote, more, front, isq⟩
  refine ⟨quote, more ++ (content ++ ['\n']), ?_, isq⟩
  rw [OpenString.extend, List.append_assoc]
  exact dropWhile_append_of_eq_cons front _

theorem Scans.isQuoted {terminated : Bool} {column depth : Nat} {rest : List Char}
    {scan : RowScan} (h : Scans row terminated column depth rest scan) :
    ∀ s, scan.ending = .inString s → s.IsQuoted := by
  induction h with
  | blank _ _ ih | lexeme _ _ _ ih => exact ih
  | openString _ front _ _ =>
      intro s inString
      cases inString
      rcases StringOpener.exists_of_ofFront? (Lexeme.ofFront?_of_ofFront_eq_string front) with
        ⟨more, tail, isq, -, -⟩
      exact ⟨_, _, dropWhile_append_of_eq_cons tail ['\n'], isq⟩
  | done | comment | continuation | brokenString =>
      intro s inString
      cases inString

theorem isQuoted_finishRow (blocks : OpenBlocks) {scan : RowScan}
    (scanned : ∀ s, scan.ending = .inString s → s.IsQuoted) :
    (finishRow row line blocks scan).2.IsQuoted := by
  rcases scan with ⟨tokens, depth, ending⟩
  cases ending with
  | complete | continued =>
      intro s inString
      cases inString
  | inString s =>
      intro other inString
      cases inString
      exact scanned s rfl

/-- A row leaves strings that begin as strings do. -/
theorem Steps.isQuoted {carry next : Carry} {tokens : List Token}
    (h : Steps row line carry tokens next) (quoted : carry.IsQuoted) : next.IsQuoted := by
  cases h with
  | blankRow =>
      intro s inString
      cases inString
  | statement _ _ scanned | goesOn _ scanned | stringCloses _ scanned =>
      exact isQuoted_finishRow _ scanned.isQuoted
  | @stringGoesOn _ _ s =>
      intro other inString
      cases inString
      exact (quoted s rfl).extend _
  | stringBreaks =>
      intro s inString
      cases inString

/-- The error of a string that breaks off takes the colour of strings. -/
theorem isBrokenString_of_isQuoted {s : OpenString} (h : s.IsQuoted) {t : Token}
    (text : s.text = t.text.toList ∨ s.text = t.text.toList ++ ['\n']) :
    t.isBrokenString = true := by
  -- Taking a line feed away leaves the quote in front, as that is not the last character.
  have front : ∃ quote more, t.text.toList.dropWhile Char.isAlpha = quote :: more ∧
      isQuote quote = true := by
    rcases h with ⟨quote, more, front, isq⟩
    rcases text with same | extended
    · exact ⟨quote, more, same ▸ front, isq⟩
    · rw [extended, List.dropWhile_append] at front
      cases tail : t.text.toList.dropWhile Char.isAlpha with
      | nil =>
          -- A line feed is no quote.
          rw [tail] at front
          cases front
          cases isq
      | cons c cs =>
          rw [tail] at front
          cases front
          exact ⟨_, cs, rfl, isq⟩
  rcases front with ⟨quote, more, tail, isq⟩
  rw [Token.isBrokenString, tail]
  exact isq

/-! ## The last row without its line break -/

/-- Whether a row is left inside a string that has to end in the next one. -/
def Carry.InShortString (carry : Carry) : Prop :=
  ∃ s, carry.mode = .inString s ∧ s.triple = false

instance (carry : Carry) : Decidable carry.InShortString :=
  decidable_of_iff ((match carry.mode with | .inString s => !s.triple | _ => false) = true) (by
    rw [Carry.InShortString]
    cases carry.mode <;> simp)

/-- A string that is open without a short one is quoted three times. -/
theorem Carry.triple_of_not_inShortString {carry : Carry} (long : ¬ carry.InShortString)
    {s : OpenString} (inString : carry.mode = .inString s) : s.triple = true := by
  by_cases triple : s.triple = true
  · exact triple
  · exact absurd ⟨s, inString, Bool.eq_false_iff.2 triple⟩ long

/-- Whether an error takes all of a string up to a place. -/
structure BreaksOff (s : OpenString) (stop : Position) (t : Token) : Prop where
  kind : t.kind = .error
  start : t.start = s.start
  stop : t.stop = stop
  text : s.text = t.text.toList ∨ s.text = t.text.toList ++ ['\n']

/-- A string that is not quoted three times goes on only past a line break. -/
theorem goesOn_unterminated (triple escaped : Bool) :
    OpenString.goesOn triple escaped false = triple := by
  cases triple <;> simp [OpenString.goesOn]

theorem not_goesOn_unterminated {triple escaped : Bool}
    (h : OpenString.goesOn triple escaped true = false) :
    OpenString.goesOn triple escaped false = false := by
  rw [goesOn_unterminated]
  cases triple
  · rfl
  · cases h

namespace Scans

variable {column depth : Nat} {rest : List Char} {scan : RowScan}

/-- Without its line break, a row is scanned alike unless it ends inside a short string. -/
theorem unterminated (h : Scans row true column depth rest scan)
    (long : ∀ s, scan.ending = .inString s → s.triple = true) :
    Scans row false column depth rest scan := by
  induction h with
  | done => exact done
  | blank blankChar _ ih => exact blank blankChar (ih long)
  | comment => exact comment
  | continuation => exact continuation
  | lexeme begins token _ ih => exact lexeme begins token (ih long)
  | openString begins front found _ =>
      have triple := long _ rfl
      exact openString begins front found ((goesOn_unterminated _ _).trans triple)
  | brokenString begins front found stays =>
      exact brokenString begins front found (not_goesOn_unterminated stays)

/-- Without its line break, a row that ends inside a short string has the string as an error. -/
theorem unterminated_of_inString (h : Scans row true column depth rest scan) {s : OpenString}
    (ending : scan.ending = .inString s) (short : s.triple = false) :
    ∃ e, Scans row false column depth rest ⟨scan.tokens ++ [e], scan.depth, .complete⟩ ∧
      BreaksOff s ⟨row, column + rest.length⟩ e := by
  induction h with
  | done | comment | continuation | brokenString => cases ending
  | @blank column _ c cs _ blankChar _ ih =>
      -- The error comes behind all tokens of the row and stops at its end.
      rcases ih ending with ⟨e, scanned, breaksOff⟩
      have place : column + 1 + cs.length = column + (c :: cs).length :=
        Nat.add_right_comm column 1 cs.length
      rw [place] at breaksOff
      exact ⟨e, blank blankChar scanned, breaksOff⟩
  | @lexeme column _ c cs kind n _ begins token _ ih =>
      rcases ih ending with ⟨e, scanned, breaksOff⟩
      have extent := (Lexeme.length_of_token?_ofFront token).2
      have place : column + n + ((c :: cs).drop n).length = column + (c :: cs).length := by
        rw [List.length_drop, Nat.add_assoc, Nat.add_sub_cancel' extent]
      rw [place] at breaksOff
      exact ⟨e, lexeme begins token scanned, breaksOff⟩
  | @openString column _ c cs _ _ begins front found _ =>
      cases ending
      refine ⟨rowToken .error row column (c :: cs), ?_, rfl, rfl, rfl, Or.inr ?_⟩
      · exact brokenString begins front found ((goesOn_unterminated _ _).trans short)
      · rw [rowToken, String.toList_ofList]

end Scans

variable {last : List Char}

theorem alike_lineEnd (row length depth : Nat) :
    Alike (lineEnd row length true depth) (lineEnd row length false depth) := by
  cases depth with
  | zero => exact ⟨rfl, rfl, rfl⟩
  | succ depth => exact ⟨rfl, rfl, rfl⟩

theorem alike_blankRowTokens (row column : Nat) (rest : List Char) :
    Alike (blankRowTokens row ⟨last, true⟩ column rest)
      (blankRowTokens row ⟨last, false⟩ column rest) := by
  cases rest with
  | nil => exact ⟨rfl, rfl, rfl⟩
  | cons c cs => exact ⟨rfl, rfl, rfl⟩

theorem alike_finishRow (row : Nat) (blocks : OpenBlocks) (scan : RowScan) :
    Alike (finishRow row ⟨last, true⟩ blocks scan).1 (finishRow row ⟨last, false⟩ blocks scan).1 ∧
      (finishRow row ⟨last, true⟩ blocks scan).2 =
        (finishRow row ⟨last, false⟩ blocks scan).2 := by
  rcases scan with ⟨tokens, depth, ending⟩
  cases ending with
  | complete => exact ⟨(Alike.refl tokens).append (alike_lineEnd row last.length depth), rfl⟩
  | continued | inString s => exact ⟨Alike.refl tokens, rfl⟩

theorem mode_finishRow_eq_inString_iff {blocks : OpenBlocks} {scan : RowScan} {s : OpenString} :
    (finishRow row line blocks scan).2.mode = .inString s ↔ scan.ending = .inString s := by
  rcases scan with ⟨tokens, depth, ending⟩
  cases ending <;> simp [finishRow]

namespace Scans

variable {column depth : Nat} {rest : List Char} {scan : RowScan}

/-- Without its line break, a row is finished alike unless it ends inside a short string. -/
theorem unterminated_finishRow (h : Scans row true column depth rest scan) (blocks : OpenBlocks)
    (long : ¬ (finishRow row ⟨last, true⟩ blocks scan).2.InShortString) :
    Scans row false column depth rest scan ∧
      Alike (finishRow row ⟨last, true⟩ blocks scan).1
        (finishRow row ⟨last, false⟩ blocks scan).1 ∧
      (finishRow row ⟨last, true⟩ blocks scan).2 =
        (finishRow row ⟨last, false⟩ blocks scan).2 := by
  refine ⟨h.unterminated ?_, alike_finishRow row blocks scan⟩
  intro s ending
  exact Carry.triple_of_not_inShortString long (mode_finishRow_eq_inString_iff.2 ending)

/-- Without its line break, a row that ends inside a short string is finished with the string as
an error, and perhaps its end. -/
theorem unterminated_finishRow_of_inString (h : Scans row true column depth rest scan)
    (blocks : OpenBlocks) {s : OpenString}
    (inString : (finishRow row ⟨last, true⟩ blocks scan).2.mode = .inString s)
    (short : s.triple = false) :
    ∃ without e more next, Scans row false column depth rest without ∧
      finishRow row ⟨last, false⟩ blocks without =
        ((finishRow row ⟨last, true⟩ blocks scan).1 ++ e :: more, next) ∧
      BreaksOff s ⟨row, column + rest.length⟩ e ∧ ∀ t ∈ more, t.marks = false := by
  have ending := mode_finishRow_eq_inString_iff.1 inString
  rcases h.unterminated_of_inString ending short with ⟨e, scanned, breaksOff⟩
  refine ⟨_, e, lineEnd row last.length false scan.depth, ⟨blocks, scan.depth, .fresh⟩, scanned,
    ?_, breaksOff, ?_⟩
  · rcases scan with ⟨tokens, depth, ending'⟩
    cases ending
    simp [finishRow]
  · -- The end of a row marks nothing.
    intro t ht
    rcases eq_of_mem_lineEnd ht with ⟨kind, rfl | rfl, rfl⟩
    · rfl
    · rfl

end Scans

/-- Without its line break, a row fails as it does with it. -/
theorem scanRow_unterminated_eq_error {carry : Carry} {failure : TokenizeFailure}
    (h : scanRow row ⟨last, true⟩ carry = .error failure) :
    scanRow row ⟨last, false⟩ carry = .error failure := by
  rcases scanRow_eq_error_iff.1 h with ⟨isFresh, isClosed, notBlank, stuck, which⟩
  exact scanRow_eq_error_iff.2 ⟨isFresh, isClosed, notBlank, stuck, which⟩

namespace Steps

variable {carry next : Carry} {tokens : List Token}

/-- Without its line break, a row shows the same and leaves the same unless it ends inside a short
string. -/
theorem unterminated (h : Steps row ⟨last, true⟩ carry tokens next)
    (long : ¬ next.InShortString) :
    ∃ other, Steps row ⟨last, false⟩ carry other next ∧ Alike tokens other := by
  cases h with
  | blankRow isBlankRow => exact ⟨_, blankRow isBlankRow, alike_blankRowTokens row _ _⟩
  | @statement _ left _ _ notBlank moved scanned =>
      rcases scanned.unterminated_finishRow left long with ⟨without, alike, same⟩
      rw [same]
      exact ⟨_, statement notBlank moved without, (Alike.refl _).append alike⟩
  | @goesOn blocks _ _ _ inside scanned =>
      rcases scanned.unterminated_finishRow blocks long with ⟨without, alike, same⟩
      rw [same]
      exact ⟨_, goesOn inside without, alike⟩
  | @stringCloses blocks _ _ _ _ found scanned =>
      rcases scanned.unterminated_finishRow blocks long with ⟨without, alike, same⟩
      rw [same]
      exact ⟨_, stringCloses found without, (Alike.refl [_]).append alike⟩
  | @stringGoesOn _ _ s _ found goesOn =>
      have triple : (s.extend last).triple = true := Carry.triple_of_not_inShortString long rfl
      exact ⟨_, stringGoesOn found ((goesOn_unterminated _ _).trans triple), Alike.refl _⟩
  | stringBreaks found stays =>
      exact ⟨_, stringBreaks found (not_goesOn_unterminated stays), Alike.refl _⟩

/-- Without its line break, a row that ends inside a short string has the string as an error. -/
theorem unterminated_of_inString (h : Steps row ⟨last, true⟩ carry tokens next) {s : OpenString}
    (inString : next.mode = .inString s) (short : s.triple = false) :
    ∃ e more other, Steps row ⟨last, false⟩ carry (tokens ++ e :: more) other ∧
      BreaksOff s ⟨row, last.length⟩ e ∧ ∀ t ∈ more, t.marks = false := by
  cases h with
  | blankRow | stringBreaks => cases inString
  | @statement _ left _ _ notBlank moved scanned =>
      rcases scanned.unterminated_finishRow_of_inString left inString short with
        ⟨without, e, more, other, scanned', finished, breaksOff, silent⟩
      have steps : Steps row ⟨last, false⟩ _ _ _ := statement notBlank moved scanned'
      have place : (last.takeWhile isBlank).length + (last.dropWhile isBlank).length =
          last.length := by
        rw [← List.length_append, List.takeWhile_append_dropWhile]
      rw [place] at breaksOff
      rw [finished, ← List.append_assoc] at steps
      exact ⟨e, more, other, steps, breaksOff, silent⟩
  | @goesOn blocks depth mode _ inside scanned =>
      rcases scanned.unterminated_finishRow_of_inString blocks inString short with
        ⟨without, e, more, other, scanned', finished, breaksOff, silent⟩
      have steps : Steps row ⟨last, false⟩ ⟨blocks, depth, mode⟩ _ _ := goesOn inside scanned'
      rw [Nat.zero_add] at breaksOff
      rw [finished] at steps
      exact ⟨e, more, other, steps, breaksOff, silent⟩
  | @stringCloses blocks depth n s' _ found scanned =>
      rcases scanned.unterminated_finishRow_of_inString blocks inString short with
        ⟨without, e, more, other, scanned', finished, breaksOff, silent⟩
      have steps : Steps row ⟨last, false⟩ ⟨blocks, depth, .inString s'⟩ _ _ :=
        stringCloses found scanned'
      have inside := StringEnd.le_of_find_eq_closed found
      rw [List.length_drop, Nat.add_sub_cancel' inside] at breaksOff
      rw [finished] at steps
      exact ⟨e, more, other, steps, breaksOff, silent⟩
  | @stringGoesOn _ _ s' _ found _ =>
      -- The error holds the string but not the line feed behind it.
      cases inString
      refine ⟨_, [], _, stringBreaks found ((goesOn_unterminated _ _).trans short),
        ⟨rfl, rfl, rfl, Or.inr ?_⟩, ?_⟩
      · rw [String.toList_ofList, OpenString.extend]
      · intro t ht
        cases ht

end Steps

end Python
end EditorAnalysis
