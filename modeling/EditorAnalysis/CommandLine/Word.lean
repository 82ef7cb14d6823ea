import EditorAnalysis.Diagnostic

/-!
# Numbers on the command line

A number on the command line is an optional plus sign and decimal digits, and must fit into a
64-bit word. Digits are read from left to right, and the first trouble is the one reported.
-/

namespace EditorAnalysis
namespace CommandLine

/-- Why an argument is no number. -/
inductive WordFault where
  | empty
  | invalidDigit
  | tooLarge
  deriving DecidableEq, Repr, Inhabited

namespace WordFault

def message : WordFault → String
  | .empty => "cannot parse integer from empty string"
  | .invalidDigit => "invalid digit found in string"
  | .tooLarge => "number too large to fit in target type"

end WordFault

/-- Reads digits behind a number that was read so far. -/
def readDigits (n : Nat) : List Char → Except WordFault Nat
  | [] => .ok n
  | c :: rest =>
    if !c.isDigit then .error .invalidDigit
    else
      let next := 10 * n + (c.toNat - '0'.toNat)
      if maxWord < next then .error .tooLarge else readDigits next rest

def readWord : List Char → Except WordFault Nat
  | [] => .error .empty
  | c :: rest =>
    if rest = [] ∧ (c = '+' ∨ c = '-') then .error .invalidDigit
    else readDigits 0 (if c = '+' then rest else c :: rest)

end CommandLine
end EditorAnalysis
