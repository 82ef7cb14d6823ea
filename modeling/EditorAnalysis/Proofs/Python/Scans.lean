import EditorAnalysis.Proofs.Python.Lexeme

/-!
# The scan of a row as a derivation

The scan of a row's rest goes on in one of seven ways. `Scans` has one rule for each of them, and
`scanRest_eq_iff` says that the scan follows these rules and no others. What holds of every scan
is proved by induction on its derivation; a scan of another row is found by deriving it.
-/

namespace EditorAnalysis
namespace Python

open Text

/-- Where a lexeme begins: not at white space, a comment or a continuation backslash. -/
structure BeginsLexeme (c : Char) (cs : List Char) : Prop where
  notBlank : isBlank c = false
  notComment : c ≠ '#'
  notContinuation : ¬ (c = '\\' ∧ cs = [])

/-- The number of open brackets behind a token of this kind and first character. -/
def depthBehind (kind : TokenKind) (depth : Nat) (c : Char) : Nat :=
  if kind = .operator then bracketDepth depth c else depth

/-- The scans of the rest of a row, from a column on with a number of brackets open. -/
inductive Scans (row : Nat) (terminated : Bool) : Nat → Nat → List Char → RowScan → Prop where
  | done {column depth : Nat} :
      Scans row terminated column depth [] ⟨[], depth, .complete⟩
  | blank {column depth : Nat} {c : Char} {cs : List Char} {scan : RowScan} :
      isBlank c = true → Scans row terminated (column + 1) depth cs scan →
      Scans row terminated column depth (c :: cs) scan
  | comment {column depth : Nat} {cs : List Char} :
      Scans row terminated column depth ('#' :: cs)
        ⟨[rowToken .comment row column ('#' :: cs)], depth, .complete⟩
  | continuation {column depth : Nat} :
      Scans row terminated column depth ['\\'] ⟨[], depth, .continued⟩
  | lexeme {column depth : Nat} {c : Char} {cs : List Char} {kind : TokenKind} {n : Nat}
      {scan : RowScan} :
      BeginsLexeme c cs → (Lexeme.ofFront (c :: cs)).token? (c :: cs) = some (kind, n) →
      Scans row terminated (column + n) (depthBehind kind depth c) ((c :: cs).drop n) scan →
      Scans row terminated column depth (c :: cs)
        (.cons (rowToken kind row column ((c :: cs).take n)) scan)
  /-- A string that goes on in the next row. -/
  | openString {column depth : Nat} {c : Char} {cs : List Char} {opener : StringOpener}
      {escaped : Bool} :
      BeginsLexeme c cs → Lexeme.ofFront (c :: cs) = .string opener →
      StringEnd.find opener.quote opener.triple ((c :: cs).drop opener.length) =
        .unclosed escaped →
      OpenString.goesOn opener.triple escaped terminated = true →
      Scans row terminated column depth (c :: cs)
        ⟨[], depth, .inString
          ⟨⟨row, column⟩, opener.quote, opener.triple, c :: cs ++ ['\n']⟩⟩
  /-- A string that should have closed in the row. -/
  | brokenString {column depth : Nat} {c : Char} {cs : List Char} {opener : StringOpener}
      {escaped : Bool} :
      BeginsLexeme c cs → Lexeme.ofFront (c :: cs) = .string opener →
      StringEnd.find opener.quote opener.triple ((c :: cs).drop opener.length) =
        .unclosed escaped →
      OpenString.goesOn opener.triple escaped terminated = false →
      Scans row terminated column depth (c :: cs)
        ⟨[rowToken .error row column (c :: cs)], depth, .complete⟩

namespace Scans

variable {row : Nat} {terminated : Bool}

/-- The rule for a lexeme, with what the lexeme leaves of the characters behind its first. -/
theorem of_lexeme {column depth : Nat} {c : Char} {cs : List Char} {kind : TokenKind} {n : Nat}
    {scan : RowScan} (begins : BeginsLexeme c cs)
    (token : (Lexeme.ofFront (c :: cs)).token? (c :: cs) = some (kind, n))
    (rest : Scans row terminated (column + n) (depthBehind kind depth c) (cs.drop (n - 1)) scan) :
    Scans row terminated column depth (c :: cs)
      (.cons (rowToken kind row column ((c :: cs).take n)) scan) := by
  have some_ := (Lexeme.length_of_token?_ofFront token).1
  refine lexeme begins token ?_
  rw [List.drop_cons some_]
  exact rest

/-- The tokenizer's scan of a row's rest follows the rules. -/
theorem of_scanRest (column depth : Nat) (rest : List Char) :
    Scans row terminated column depth rest (scanRest row terminated column depth rest) := by
  fun_induction scanRest row terminated column depth rest with
  | case1 => exact done
  | case2 _ _ c cs blankChar ih => exact blank blankChar ih
  | case3 => exact comment
  | case4 _ _ c cs _ _ backslash =>
      rcases backslash with ⟨rfl, rfl⟩
      exact continuation
  -- A string that closes in the row.
  | case5 _ _ c cs rest notBlank notComment notContinuation opener front body found n ih =>
      refine of_lexeme ⟨by simpa using notBlank, notComment, notContinuation⟩ ?_ ih
      rw [show Lexeme.ofFront (c :: cs) = _ from front, Lexeme.token?]
      simp only [show StringEnd.find _ _ ((c :: cs).drop _) = _ from found, n]
  | case6 _ _ c cs rest notBlank notComment notContinuation opener front escaped found goesOn =>
      exact openString ⟨by simpa using notBlank, notComment, notContinuation⟩ front found goesOn
  | case7 _ _ c cs rest notBlank notComment notContinuation opener front escaped found stays =>
      exact brokenString ⟨by simpa using notBlank, notComment, notContinuation⟩ front found
        (by simpa using stays)
  -- Numbers, names and operators know their lengths.
  | case8 _ _ c cs rest notBlank notComment notContinuation n front ih
  | case9 _ _ c cs rest notBlank notComment notContinuation n front ih
  | case10 _ _ c cs rest notBlank notComment notContinuation n front ih =>
      refine of_lexeme ⟨by simpa using notBlank, notComment, notContinuation⟩ ?_ ih
      rw [show Lexeme.ofFront (c :: cs) = _ from front, Lexeme.token?]
  | case11 _ _ c cs rest notBlank notComment notContinuation front ih =>
      refine of_lexeme (n := 1) ⟨by simpa using notBlank, notComment, notContinuation⟩ ?_ ih
      rw [show Lexeme.ofFront (c :: cs) = _ from front, Lexeme.token?]

/-- What follows the rules is the tokenizer's scan. -/
theorem scanRest_eq {column depth : Nat} {rest : List Char} {scan : RowScan}
    (h : Scans row terminated column depth rest scan) :
    scanRest row terminated column depth rest = scan := by
  induction h with
  | done => rw [scanRest]
  | blank blankChar _ ih => rw [scanRest, if_pos blankChar, ih]
  | comment => rw [scanRest, if_neg (by decide), if_pos rfl]
  | continuation => rw [scanRest, if_neg (by decide), if_neg (by decide), if_pos ⟨rfl, rfl⟩]
  | @lexeme column depth c cs kind n scan begins token _ ih =>
      have some_ := (Lexeme.length_of_token?_ofFront token).1
      rw [List.drop_cons some_] at ih
      rw [scanRest, if_neg (by simp [begins.notBlank]), if_neg begins.notComment,
        if_neg begins.notContinuation]
      cases front : Lexeme.ofFront (c :: cs) with
      | string opener =>
          rw [front, Lexeme.token?] at token
          -- Only a string that closes makes a token.
          split at token
          · next body found =>
              cases token
              simp only [found]
              rw [← ih]
              rfl
          · cases token
      | number m | name m | operator m | stray =>
          rw [front, Lexeme.token?] at token
          cases token
          rw [← ih]
          rfl
  | openString begins front found goesOn =>
      rw [scanRest, if_neg (by simp [begins.notBlank]), if_neg begins.notComment,
        if_neg begins.notContinuation]
      simp only [front, found, goesOn, if_true]
  | brokenString begins front found stays =>
      rw [scanRest, if_neg (by simp [begins.notBlank]), if_neg begins.notComment,
        if_neg begins.notContinuation]
      simp [front, found, stays]

end Scans

/-- The tokenizer scans a row's rest by the rules and by no others. -/
theorem scanRest_eq_iff {row : Nat} {terminated : Bool} {column depth : Nat} {rest : List Char}
    {scan : RowScan} :
    scanRest row terminated column depth rest = scan ↔
      Scans row terminated column depth rest scan := by
  constructor
  · intro h
    rw [← h]
    exact Scans.of_scanRest column depth rest
  · exact Scans.scanRest_eq

end Python
end EditorAnalysis
