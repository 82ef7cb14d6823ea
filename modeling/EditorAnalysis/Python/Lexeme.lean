import EditorAnalysis.Python.StringLiteral
import EditorAnalysis.Text.Identifier

/-!
# Lexemes within a row

What begins at a place of a row, outside strings, comments and white space: a string, else a
number, else a name, else an operator, else a single stray character. Numbers, names and operators
are as long as their form allows. Lengths count characters; no lexeme has length zero, so a length
of zero says that the form does not occur.
-/

namespace EditorAnalysis
namespace Python

open Text

/-- The number of characters of a class at the front. -/
def runLength (p : Char → Bool) (cs : List Char) : Nat :=
  (cs.takeWhile p).length

/-! ## Numbers -/

/-- A digit, or the underscore that groups digits. -/
def isDigitPart (c : Char) : Bool :=
  c.isDigit || c == '_'

/-- A hexadecimal digit, or the underscore that groups digits. -/
def isHexDigitPart (c : Char) : Bool :=
  c.isDigit || ('a' ≤ c && c ≤ 'f') || ('A' ≤ c && c ≤ 'F') || c == '_'

/-- A letter that names a radix after a leading zero. -/
def isRadixLetter (c : Char) : Bool :=
  c == 'x' || c == 'X' || c == 'o' || c == 'O' || c == 'b' || c == 'B'

/-- The length of a point and the digits after it. -/
def fractionLength : List Char → Nat
  | [] => 0
  | c :: rest => if c = '.' then 1 + runLength isDigitPart rest else 0

/-- The length of a mantissa: digits with an optional fraction, or a point in front of digits. -/
def mantissaLength : List Char → Nat
  | [] => 0
  | c :: rest =>
    if c.isDigit then
      let whole := 1 + runLength isDigitPart rest
      whole + fractionLength ((c :: rest).drop whole)
    else if c = '.' then
      -- A point with no digit behind it is an operator.
      match rest with
      | d :: more => if d.isDigit then 2 + runLength isDigitPart more else 0
      | [] => 0
    else 0

/-- The length of a sign. -/
def signLength : List Char → Nat
  | [] => 0
  | c :: _ => if c = '+' || c = '-' then 1 else 0

/-- The length of an exponent: its letter, an optional sign and digits. -/
def exponentLength : List Char → Nat
  | [] => 0
  | c :: rest =>
    if c = 'e' || c = 'E' then
      let sign := signLength rest
      -- Without a digit behind it, the letter begins a name.
      match rest.drop sign with
      | d :: more => if d.isDigit then 2 + sign + runLength isDigitPart more else 0
      | [] => 0
    else 0

/-- The length of the letter that marks an imaginary number. -/
def imaginaryLength : List Char → Nat
  | [] => 0
  | c :: _ => if c = 'j' || c = 'J' then 1 else 0

/-- The length of a decimal number: a mantissa, an optional exponent, an optional imaginary mark. -/
def decimalLength (cs : List Char) : Nat :=
  let mantissa := mantissaLength cs
  if mantissa = 0 then 0
  else
    let real := mantissa + exponentLength (cs.drop mantissa)
    real + imaginaryLength (cs.drop real)

/-- The length of the number at the front, zero if there is none. -/
def numberLength : List Char → Nat
  | [] => 0
  | [c] => decimalLength [c]
  | c :: d :: rest =>
    -- The letter of a radix needs no digit behind it.
    if c = '0' && isRadixLetter d then 2 + runLength isHexDigitPart rest
    else decimalLength (c :: d :: rest)

/-! ## Names and operators -/

/-- The length of the name at the front, zero if there is none. -/
def nameLength : List Char → Nat
  | [] => 0
  | c :: rest => if isIdentifierStart c then 1 + runLength isIdentifierContinue rest else 0

/-- The operators and delimiters, longer ones first. -/
def operators : List (List Char) :=
  [['*', '*', '='], ['.', '.', '.'], ['>', '>', '='], ['<', '<', '='], ['/', '/', '='],
    ['*', '*'], ['/', '/'], ['>', '>'], ['<', '<'], ['<', '='], ['>', '='], ['=', '='],
    ['!', '='], ['-', '>'], ['+', '='], ['-', '='], ['*', '='], ['/', '='], ['%', '='],
    ['&', '='], ['|', '='], ['^', '='], ['@', '='], [':', '='],
    ['+'], ['-'], ['*'], ['/'], ['%'], ['&'], ['|'], ['^'], ['~'], ['<'], ['>'], ['='],
    ['('], [')'], ['['], [']'], ['\x7b'], ['\x7d'], [','], [':'], [';'], ['.'], ['@']]

/-- The length of the operator at the front, zero if there is none. -/
def operatorLength (cs : List Char) : Nat :=
  match operators.find? (·.isPrefixOf cs) with
  | some op => op.length
  | none => 0

/-- Whether a character opens a bracket. -/
def isOpeningBracket (c : Char) : Bool :=
  c == '(' || c == '[' || c == '\x7b'

/-- Whether a character closes a bracket. -/
def isClosingBracket (c : Char) : Bool :=
  c == ')' || c == ']' || c == '\x7d'

/-- The number of open brackets after an operator with this first character. A closing bracket
that nothing opened counts for nothing. -/
def bracketDepth (depth : Nat) (c : Char) : Nat :=
  if isOpeningBracket c then depth + 1
  else if isClosingBracket c then depth - 1
  else depth

/-! ## The lexeme at a place -/

/-- What begins at a place of a row. -/
inductive Lexeme where
  | string (opener : StringOpener)
  | number (length : Nat)
  | name (length : Nat)
  | operator (length : Nat)
  /-- A character that begins nothing. -/
  | stray
  deriving DecidableEq, Repr

/-- What begins at the front of a row's rest: the first form of the list above that occurs. -/
def Lexeme.ofFront (rest : List Char) : Lexeme :=
  -- A letter may open a string, so names come behind strings.
  match StringOpener.ofFront? rest with
  | some opener => .string opener
  | none =>
    if numberLength rest ≠ 0 then .number (numberLength rest)
    else if nameLength rest ≠ 0 then .name (nameLength rest)
    else if operatorLength rest ≠ 0 then .operator (operatorLength rest)
    else .stray

end Python
end EditorAnalysis
