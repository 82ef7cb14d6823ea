/-!
# String literals

How a string begins and where it ends. A string opens with at most two letters in front of one
quote or three; it closes at the first such quote, or triple of quotes, that no backslash takes
away. A backslash takes away the character after it, whatever that is; a backslash with no
character after it in its row takes away the line break.
-/

namespace EditorAnalysis
namespace Python

/-- The letters that may stand in front of the opening quote, in lower case. -/
def stringPrefixes : List (List Char) :=
  [[], ['r'], ['b'], ['u'], ['f'], ['b', 'r'], ['r', 'b'], ['f', 'r'], ['r', 'f']]

def isQuote (c : Char) : Bool :=
  c == '\'' || c == '"'

structure StringOpener where
  /-- The number of letters in front of the quote. -/
  prefixLength : Nat
  quote : Char
  /-- Whether three quotes open, and close, the string. -/
  triple : Bool
  deriving DecidableEq, Repr

namespace StringOpener

/-- The number of characters in front of the string's body. -/
def length (opener : StringOpener) : Nat :=
  opener.prefixLength + if opener.triple then 3 else 1

/-- The opener at the front of a row's rest, if a string begins there. -/
def ofFront? (rest : List Char) : Option StringOpener :=
  let letters := rest.takeWhile Char.isAlpha
  if letters.map Char.toLower ∈ stringPrefixes then
    match rest.drop letters.length with
    -- Two quotes that no third follows are an empty string, quoted once.
    | quote :: more =>
      if isQuote quote then some ⟨letters.length, quote, more.take 2 == [quote, quote]⟩ else none
    | [] => none
  else none

end StringOpener

/-- Where the search for the end of a string comes to in one row. -/
inductive StringEnd where
  /-- The string closes; so many characters of the row belong to it. -/
  | closed (length : Nat)
  /-- The row runs out first; `escaped` when its last character takes the line break away. -/
  | unclosed (escaped : Bool)
  deriving DecidableEq, Repr

namespace StringEnd

/-- The same end, seen from `n` characters further to the left. -/
def shift (n : Nat) : StringEnd → StringEnd
  | .closed length => .closed (n + length)
  | .unclosed escaped => .unclosed escaped

/-- The end of a string's body within the rest of a row. -/
def find (quote : Char) (triple : Bool) : List Char → StringEnd
  | [] => .unclosed false
  -- A backslash at the end of the row takes the line break away.
  | ['\\'] => .unclosed true
  | '\\' :: _ :: rest => (find quote triple rest).shift 2
  | c :: rest =>
    if c = quote then
      if !triple then .closed 1
      -- One quote or two are text in a string that is quoted three times.
      else if rest.take 2 = [quote, quote] then .closed 3
      else (find quote triple rest).shift 1
    else (find quote triple rest).shift 1

end StringEnd
end Python
end EditorAnalysis
