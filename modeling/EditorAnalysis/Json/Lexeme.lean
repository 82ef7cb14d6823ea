import EditorAnalysis.Json.Value
import EditorAnalysis.Text.Bytes

/-!
# JSON lexemes

A JSON text as a list of lexemes. What is wrong with a lexeme is part of it, and matters only when
a reader comes to it. It can matter in two ways: a value that is *read* must be meaningful, while a
value that is only *skipped* must have the right form and no more. So half of a surrogate pair in
a text is wrong for a reader of the text, and right for a reader who skips it.

The list ends behind a lexeme without a right form.
-/

namespace EditorAnalysis
namespace Json

/-- What is wrong with a JSON text, seen at the first place where something is. -/
inductive Fault where
  /-- It is no JSON. -/
  | malformed
  /-- It ends too early. -/
  | truncated
  /-- It is not the value that was asked for. -/
  | mismatched
  deriving DecidableEq, Repr, Inhabited

/-- A piece of a JSON text between white space. -/
inductive Lexeme where
  | openBrace
  | closeBrace
  | openBracket
  | closeBracket
  | colon
  | comma
  | null
  | bool (b : Bool)
  | number (n : Numeral)
  /-- A text between quotes; its content is missing when an escape in it means no character. -/
  | text (content : Option String)
  /-- A text without a right form, and what is wrong for one who reads or skips it. -/
  | brokenText (read skipped : Fault)
  /-- Anything else without a right form. -/
  | broken (read skipped : Fault)
  deriving DecidableEq, Repr, Inhabited

def isSpace (c : Char) : Bool :=
  c == ' ' || c == '\n' || c == '\t' || c == '\r'

/-! ## Texts -/

/-- A piece of a text between quotes: a character, or an escaped UTF-16 unit. -/
inductive Piece where
  | char (c : Char)
  | unit (n : Nat)
  deriving DecidableEq, Repr, Inhabited

namespace Piece

/-- Whether a unit is the first half of a surrogate pair. -/
def isLeading (n : Nat) : Bool := 0xD800 ≤ n && n ≤ 0xDBFF

/-- Whether a unit is the second half of a surrogate pair. -/
def isTrailing (n : Nat) : Bool := 0xDC00 ≤ n && n ≤ 0xDFFF

/-- The character of a surrogate pair. -/
def ofPair (leading trailing : Nat) : Char :=
  Char.ofNat (0x10000 + (leading - 0xD800) * 0x400 + (trailing - 0xDC00))

/-- The characters that pieces spell: nothing when a surrogate stands alone. -/
def decode : List Piece → Option (List Char)
  | [] => some []
  | .char c :: rest => (decode rest).map (c :: ·)
  | .unit n :: rest =>
    if isTrailing n then none
    else if isLeading n then
      match rest with
      | .unit m :: rest => if isTrailing m then (decode rest).map (ofPair n m :: ·) else none
      | _ => none
    else (decode rest).map (Char.ofNat n :: ·)

/-- Whether pieces go wrong before their end: at a surrogate that stands alone. A leading
surrogate at the very end might have gone on. -/
def isWrongInside (pieces : List Piece) : Bool :=
  match pieces.getLast? with
  | some (.unit n) =>
    if isLeading n then (decode pieces.dropLast).isNone else (decode pieces).isNone
  | _ => (decode pieces).isNone

end Piece

def hexValue? (c : Char) : Option Nat :=
  if '0' ≤ c ∧ c ≤ '9' then some (c.toNat - '0'.toNat)
  else if 'a' ≤ c ∧ c ≤ 'f' then some (c.toNat - 'a'.toNat + 10)
  else if 'A' ≤ c ∧ c ≤ 'F' then some (c.toNat - 'A'.toNat + 10)
  else none

/-- The number that four hexadecimal digits spell. Fewer than four bytes are no digits yet. -/
def hexUnit (cs : List Char) : Except Fault Nat :=
  let four := cs.take 4
  if Text.byteLength four < 4 then .error .truncated
  else
    match four.mapM hexValue? with
    | some values => .ok (values.foldl (fun n d => 16 * n + d) 0)
    | none => .error .malformed

/-- The character of an escape with one letter. -/
def shortEscape? (c : Char) : Option Char :=
  if c = '"' then some '"'
  else if c = '\\' then some '\\'
  else if c = '/' then some '/'
  else if c = 'b' then some '\x08'
  else if c = 'f' then some '\x0c'
  else if c = 'n' then some '\n'
  else if c = 'r' then some '\r'
  else if c = 't' then some '\t'
  else none

/-- The pieces of a text behind its opening quote, and what follows the closing one. Without a
closing quote, or with something in front of it that no text may hold, there is a fault instead. -/
def scanText : List Char → List Piece × Except Fault (List Char)
  | [] => ([], .error .truncated)
  | '\\' :: [] => ([], .error .truncated)
  | '\\' :: 'u' :: rest =>
    match hexUnit rest with
    | .error fault => ([], .error fault)
    | .ok n =>
      let (pieces, ending) := scanText (rest.drop 4)
      (.unit n :: pieces, ending)
  | '\\' :: c :: rest =>
    match shortEscape? c with
    | none => ([], .error .malformed)
    | some e =>
      let (pieces, ending) := scanText rest
      (.char e :: pieces, ending)
  | c :: rest =>
    if c = '"' then ([], .ok rest)
    else if c.toNat < 0x20 then ([], .error .malformed)
    else
      let (pieces, ending) := scanText rest
      (.char c :: pieces, ending)
  termination_by cs => cs.length
  decreasing_by all_goals (simp only [List.length_cons, List.length_drop]; omega)

theorem length_of_scanText {cs rest : List Char} {pieces : List Piece}
    (h : scanText cs = (pieces, .ok rest)) : rest.length < cs.length := by
  fun_induction scanText cs generalizing pieces with
  | case1 => simp at h
  | case2 => simp at h
  | case3 => simp at h
  | case4 rest' n hunit ps ending hscan ih =>
    simp only [Prod.mk.injEq] at h
    have shorter := ih (hscan.trans (by rw [h.2]))
    simp only [List.length_cons, List.length_drop] at *
    omega
  | case5 => simp at h
  | case6 c rest' hc e hesc ps ending hscan ih =>
    simp only [Prod.mk.injEq] at h
    have shorter := ih (hscan.trans (by rw [h.2]))
    simp only [List.length_cons] at *
    omega
  | case7 rest' =>
    simp only [Prod.mk.injEq, Except.ok.injEq] at h
    rw [← h.2]
    exact Nat.lt_succ_self _
  | case8 => simp at h
  | case9 =>
    rename_i ending hscan ih
    simp only [Prod.mk.injEq] at h
    have shorter := ih (hscan.trans (by rw [h.2]))
    simp only [List.length_cons] at *
    omega

/-- The lexeme of a text behind its opening quote, and what follows it if it has a right form. -/
def textLexeme (cs : List Char) : Lexeme × Option (List Char) :=
  match scanText cs with
  | (pieces, .ok rest) => (.text ((Piece.decode pieces).map String.ofList), some rest)
  | (pieces, .error fault) =>
    (.brokenText (if Piece.isWrongInside pieces then .malformed else fault) fault, none)

theorem length_of_textLexeme {cs rest : List Char} {lexeme : Lexeme}
    (h : textLexeme cs = (lexeme, some rest)) : rest.length < cs.length := by
  unfold textLexeme at h
  split at h
  · rename_i pieces found hscan
    simp only [Prod.mk.injEq, Option.some.injEq] at h
    rw [← h.2]
    exact length_of_scanText hscan
  · simp at h

/-! ## Numbers -/

def digitsValue (ds : List Char) : Nat :=
  Nat.ofDigitChars 10 ds 0

def digitOf (c : Char) : Fin 10 :=
  Fin.ofNat 10 (c.toNat - '0'.toNat)

/-- A digit is missing in front of these characters: at the end of the text a reader has read too
little, while one who skips has met something that is no number. -/
def missingDigit (cs : List Char) : Lexeme :=
  if cs = [] then .broken .truncated .malformed else .broken .malformed .malformed

/-- What follows a sign at the front, if there is one. -/
def withoutSign : List Char → List Char
  | [] => []
  | c :: rest => if c = '+' ∨ c = '-' then rest else c :: rest

theorem length_withoutSign (cs : List Char) : (withoutSign cs).length ≤ cs.length := by
  cases cs with
  | nil => exact Nat.le_refl _
  | cons c rest =>
    simp only [withoutSign]
    split <;> simp

/-- The exponent at the front, if there is one, and what follows it. -/
def scanExponent (cs : List Char) : Except Lexeme (Option Int × List Char) :=
  match cs with
  | [] => .ok (none, [])
  | c :: rest =>
    if c = 'e' ∨ c = 'E' then
      let unsigned := withoutSign rest
      let ds := unsigned.takeWhile Char.isDigit
      if ds = [] then .error (missingDigit unsigned)
      else
        let n := digitsValue ds
        .ok (some (if rest.head? = some '-' then -(n : Int) else n), unsigned.drop ds.length)
    else .ok (none, cs)

theorem length_of_scanExponent {cs rest : List Char} {e : Option Int}
    (h : scanExponent cs = .ok (e, rest)) : rest.length ≤ cs.length := by
  unfold scanExponent at h
  split at h
  · simp only [Except.ok.injEq, Prod.mk.injEq] at h
    simp [← h.2]
  · rename_i c tail
    simp only at h
    split at h
    · split at h
      · simp at h
      · simp only [Except.ok.injEq, Prod.mk.injEq] at h
        have unsigned := length_withoutSign tail
        rw [← h.2, List.length_drop, List.length_cons]
        omega
    · simp only [Except.ok.injEq, Prod.mk.injEq] at h
      exact Nat.le_of_eq (congrArg List.length h.2.symm)

/-- The digits of the fraction at the front, none if there is no fraction, and what follows. -/
def scanFraction (cs : List Char) : Except Lexeme (List (Fin 10) × List Char) :=
  match cs with
  | [] => .ok ([], [])
  | c :: rest =>
    if c = '.' then
      let ds := rest.takeWhile Char.isDigit
      if ds = [] then .error (missingDigit rest) else .ok (ds.map digitOf, rest.drop ds.length)
    else .ok ([], cs)

theorem length_of_scanFraction {cs rest : List Char} {ds : List (Fin 10)}
    (h : scanFraction cs = .ok (ds, rest)) : rest.length ≤ cs.length := by
  unfold scanFraction at h
  split at h
  · simp only [Except.ok.injEq, Prod.mk.injEq] at h
    simp [← h.2]
  · simp only at h
    split at h
    · split at h
      · simp at h
      · simp only [Except.ok.injEq, Prod.mk.injEq] at h
        rw [← h.2, List.length_drop, List.length_cons]
        omega
    · simp only [Except.ok.injEq, Prod.mk.injEq] at h
      exact Nat.le_of_eq (congrArg List.length h.2.symm)

/-- The whole part at the front, and what follows it. A zero at the front stands alone. -/
def scanWhole (cs : List Char) : Except Lexeme (Nat × List Char) :=
  let ds := cs.takeWhile Char.isDigit
  if ds = [] then .error (missingDigit cs)
  else if ds.head? = some '0' ∧ ds.length ≠ 1 then .error (.broken .malformed .malformed)
  else .ok (digitsValue ds, cs.drop ds.length)

/-- What follows a whole part is shorter, since a whole part has a digit. -/
theorem length_of_scanWhole {cs rest : List Char} {n : Nat}
    (h : scanWhole cs = .ok (n, rest)) : rest.length < cs.length := by
  simp only [scanWhole] at h
  split at h
  · simp at h
  · rename_i nonempty
    split at h
    · simp at h
    · simp only [Except.ok.injEq, Prod.mk.injEq] at h
      have short : (cs.takeWhile Char.isDigit).length ≤ cs.length :=
        (List.takeWhile_prefix _).length_le
      have positive : 0 < (cs.takeWhile Char.isDigit).length := List.length_pos_iff.2 nonempty
      rw [← h.2, List.length_drop]
      omega

/-- What follows a minus sign at the front, if there is one. -/
def withoutMinus : List Char → List Char
  | [] => []
  | c :: rest => if c = '-' then rest else c :: rest

theorem length_withoutMinus (cs : List Char) : (withoutMinus cs).length ≤ cs.length := by
  cases cs with
  | nil => exact Nat.le_refl _
  | cons c rest =>
    simp only [withoutMinus]
    split <;> simp

/-- The number at the front, and what follows it. -/
def scanNumeral (cs : List Char) : Except Lexeme (Numeral × List Char) := do
  let negative := cs.head? = some '-'
  let (whole, cs) ← scanWhole (withoutMinus cs)
  let (fraction, cs) ← scanFraction cs
  let (exponent, cs) ← scanExponent cs
  return (⟨negative, whole, fraction, exponent⟩, cs)

theorem length_of_scanNumeral {cs rest : List Char} {n : Numeral}
    (h : scanNumeral cs = .ok (n, rest)) : rest.length < cs.length := by
  simp only [scanNumeral, bind, Except.bind, pure, Except.pure] at h
  split at h
  · simp at h
  · rename_i whole hwhole
    split at h
    · simp at h
    · rename_i fraction hfraction
      split at h
      · simp at h
      · rename_i exponent hexponent
        simp only [Except.ok.injEq, Prod.mk.injEq] at h
        have first := length_of_scanWhole hwhole
        have second := length_of_scanFraction hfraction
        have third := length_of_scanExponent hexponent
        have front := length_withoutMinus cs
        rw [h.2] at third
        omega

/-- The lexeme of a number, and what follows it if it has a right form. -/
def numberLexeme (cs : List Char) : Lexeme × Option (List Char) :=
  match scanNumeral cs with
  | .ok (n, rest) => (.number n, some rest)
  | .error broken => (broken, none)

theorem length_of_numberLexeme {cs rest : List Char} {lexeme : Lexeme}
    (h : numberLexeme cs = (lexeme, some rest)) : rest.length < cs.length := by
  unfold numberLexeme at h
  split at h
  · rename_i n found hscan
    simp only [Prod.mk.injEq, Option.some.injEq] at h
    rw [← h.2]
    exact length_of_scanNumeral hscan
  · simp at h

/-! ## Words and marks -/

/-- The lexeme of a word, and what follows it if the word is there in full. -/
def wordLexeme (word : List Char) (lexeme : Lexeme) (cs : List Char) :
    Lexeme × Option (List Char) :=
  if word.isPrefixOf cs then (lexeme, some (cs.drop word.length))
  else
    let fault := if cs.isPrefixOf word then Fault.truncated else .malformed
    (.broken fault fault, none)

theorem length_of_wordLexeme {word cs rest : List Char} {word' lexeme : Lexeme}
    (nonempty : word ≠ []) (h : wordLexeme word word' cs = (lexeme, some rest)) :
    rest.length < cs.length := by
  unfold wordLexeme at h
  split at h
  · rename_i found
    simp only [Prod.mk.injEq, Option.some.injEq] at h
    have fits : word.length ≤ cs.length := (List.isPrefixOf_iff_prefix.1 found).length_le
    have positive : 0 < word.length := List.length_pos_iff.2 nonempty
    rw [← h.2, List.length_drop]
    omega
  · simp at h

/-- The lexeme at the front of a text without white space at its front, and what follows it if it
has a right form. -/
def frontLexeme (c : Char) (rest : List Char) : Lexeme × Option (List Char) :=
  if c = '\x7b' then (.openBrace, some rest)
  else if c = '\x7d' then (.closeBrace, some rest)
  else if c = '[' then (.openBracket, some rest)
  else if c = ']' then (.closeBracket, some rest)
  else if c = ':' then (.colon, some rest)
  else if c = ',' then (.comma, some rest)
  else if c = '"' then textLexeme rest
  else if c = 'n' then wordLexeme ['n', 'u', 'l', 'l'] .null (c :: rest)
  else if c = 't' then wordLexeme ['t', 'r', 'u', 'e'] (.bool true) (c :: rest)
  else if c = 'f' then wordLexeme ['f', 'a', 'l', 's', 'e'] (.bool false) (c :: rest)
  else if c = '-' ∨ c.isDigit then numberLexeme (c :: rest)
  else (.broken .malformed .malformed, none)

theorem of_ite_eq {α : Type} {p : Prop} [Decidable p] {a b found : α} {goal : Prop}
    (ofThen : a = found → goal) (ofElse : b = found → goal) :
    (if p then a else b) = found → goal := by
  split
  · exact ofThen
  · exact ofElse

/-- What follows a lexeme is shorter than the lexeme with it. -/
theorem length_of_frontLexeme {c : Char} {cs rest : List Char} {lexeme : Lexeme}
    (h : frontLexeme c cs = (lexeme, some rest)) : rest.length < (c :: cs).length := by
  have mark : ∀ {l : Lexeme}, (l, some cs) = (lexeme, some rest) →
      rest.length < (c :: cs).length := by
    intro l hl
    simp only [Prod.mk.injEq, Option.some.injEq] at hl
    rw [← hl.2]
    exact Nat.lt_succ_self _
  revert h
  rw [frontLexeme]
  refine of_ite_eq mark (of_ite_eq mark (of_ite_eq mark (of_ite_eq mark (of_ite_eq mark
    (of_ite_eq mark ?_)))))
  refine of_ite_eq (fun h => Nat.lt_succ_of_lt (length_of_textLexeme h)) ?_
  refine of_ite_eq (length_of_wordLexeme (by decide)) ?_
  refine of_ite_eq (length_of_wordLexeme (by decide)) ?_
  refine of_ite_eq (length_of_wordLexeme (by decide)) ?_
  refine of_ite_eq length_of_numberLexeme fun broken => ?_
  simp at broken

/-- The lexemes of a text, up to the first one without a right form. -/
def lexemes : List Char → List Lexeme
  | [] => []
  | c :: cs =>
    if isSpace c then lexemes cs
    else
      match _h : frontLexeme c cs with
      | (lexeme, none) => [lexeme]
      | (lexeme, some rest) => lexeme :: lexemes rest
  termination_by cs => cs.length
  decreasing_by
  · exact Nat.lt_succ_self cs.length
  · exact length_of_frontLexeme _h

end Json
end EditorAnalysis
