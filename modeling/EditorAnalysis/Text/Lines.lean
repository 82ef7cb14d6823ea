/-!
# Physical lines

A text is cut into physical lines at its line feeds. A line is *terminated* when a line feed
follows it; of a terminator, a carriage return directly before the line feed is part as well and
does not belong to the line. What follows the last line feed is an unterminated line, unless it
is empty: a text that ends in a line feed has no further line, and the empty text has no line.

Everything that speaks of rows (tokens, the line table, diagnostics) counts these lines.
-/

namespace EditorAnalysis
namespace Text

/-- One physical line of a text: its characters without the terminator. -/
structure PhysicalLine where
  content : List Char
  /-- Whether a line feed follows the line. -/
  terminated : Bool
  deriving DecidableEq, Repr, Inhabited

namespace PhysicalLine

/-- The line in front of a line feed: one carriage return at its end belongs to the terminator. -/
def beforeLineFeed (content : List Char) : PhysicalLine :=
  if content.getLast? = some '\r' then ⟨content.dropLast, true⟩ else ⟨content, true⟩

/-- What follows the last line feed: nothing at all makes no line. -/
def remainder : List Char → List PhysicalLine
  | [] => []
  | c :: cs => [⟨c :: cs, false⟩]

end PhysicalLine

/-- The lines of `seen ++ rest`, where `seen` is the part of a line read so far, last character
first. -/
def linesAfter (seen : List Char) : List Char → List PhysicalLine
  -- What is left at the end of the text is a line without a line feed.
  | [] => PhysicalLine.remainder seen.reverse
  | c :: cs =>
    if c = '\n' then PhysicalLine.beforeLineFeed seen.reverse :: linesAfter [] cs
    else linesAfter (c :: seen) cs

/-- The physical lines of a text, in order. -/
def physicalLines (text : List Char) : List PhysicalLine :=
  linesAfter [] text

/-- Lines put together again, with one line feed between each two neighbours. -/
def joinLines : List (List Char) → List Char
  | [] => []
  | [line] => line
  | line :: next :: rest => line ++ '\n' :: joinLines (next :: rest)

@[simp] theorem physicalLines_nil : physicalLines [] = [] := rfl

/-- A line with others behind it is put in front of them with one line feed. -/
theorem joinLines_cons {line : List Char} {rest : List (List Char)} (h : rest ≠ []) :
    joinLines (line :: rest) = line ++ '\n' :: joinLines rest := by
  cases rest with
  | nil => exact absurd rfl h
  | cons next rest => rfl

end Text
end EditorAnalysis
