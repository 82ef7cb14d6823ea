import EditorAnalysis.Python.Indentation
import EditorAnalysis.Python.Lexeme
import EditorAnalysis.Text.Lines
import EditorAnalysis.Token

/-!
# Scanning one row

The tokens of one physical line, and what the line leaves to the next one: the open blocks, the
number of open brackets, and whether it ends inside a string or with a continuation backslash.

A row at which a statement may begin is measured first: a blank or comment row says nothing, any
other row opens, keeps or closes blocks. A row inside a string looks for the string's end first.
What follows is read lexeme by lexeme.
-/

namespace EditorAnalysis
namespace Python

open Text

/-- A string that was opened and not yet closed. -/
structure OpenString where
  start : Position
  quote : Char
  triple : Bool
  /-- The string so far, with a line feed for each row that it has left behind. -/
  text : List Char
  deriving DecidableEq, Repr

namespace OpenString

/-- Whether the string goes on in the next row when its end is not in this one: a triple-quoted
string always does, another one only past a line break that a backslash takes away. -/
def goesOn (triple escaped terminated : Bool) : Bool :=
  triple || (escaped && terminated)

/-- The string after a whole row without its end. -/
def extend (s : OpenString) (content : List Char) : OpenString :=
  { s with text := s.text ++ content ++ ['\n'] }

end OpenString

/-- How the scan of a row ends. -/
inductive RowEnd where
  /-- The row is complete: its line break is a token. -/
  | complete
  /-- The row's last character is a continuation backslash. -/
  | continued
  | inString (s : OpenString)
  deriving DecidableEq, Repr

/-- The tokens of a row's rest, the number of brackets open after it, and how it ends. -/
structure RowScan where
  tokens : List Token
  depth : Nat
  ending : RowEnd
  deriving DecidableEq, Repr

namespace RowScan

def cons (t : Token) (scan : RowScan) : RowScan :=
  { scan with tokens := t :: scan.tokens }

end RowScan

/-- A token within one row, whose text is given by its characters. -/
def rowToken (kind : TokenKind) (row column : Nat) (text : List Char) : Token :=
  ⟨kind, String.ofList text, ⟨row, column⟩, ⟨row, column + text.length⟩⟩

/-- Scans the rest of a row that begins at a column, outside strings, with `depth` brackets open. -/
def scanRest (row : Nat) (terminated : Bool) (column depth : Nat) : List Char → RowScan
  | [] => ⟨[], depth, .complete⟩
  | c :: cs =>
    let rest := c :: cs
    if isBlank c then scanRest row terminated (column + 1) depth cs
    else if c = '#' then ⟨[rowToken .comment row column rest], depth, .complete⟩
    else if c = '\\' ∧ cs = [] then ⟨[], depth, .continued⟩
    else
      -- The test for a blank comes first, so a lexeme never begins with white space.
      match Lexeme.ofFront rest with
      | .string opener =>
        match StringEnd.find opener.quote opener.triple (rest.drop opener.length) with
        | .closed body =>
          let n := opener.length + body
          .cons (rowToken .string row column (rest.take n))
            (scanRest row terminated (column + n) depth (cs.drop (n - 1)))
        | .unclosed escaped =>
          -- The string takes the rest of the row, and the line break when it goes on.
          if OpenString.goesOn opener.triple escaped terminated then
            ⟨[], depth, .inString ⟨⟨row, column⟩, opener.quote, opener.triple, rest ++ ['\n']⟩⟩
          else ⟨[rowToken .error row column rest], depth, .complete⟩
      | .number n =>
        .cons (rowToken .number row column (rest.take n))
          (scanRest row terminated (column + n) depth (cs.drop (n - 1)))
      | .name n =>
        .cons (rowToken .name row column (rest.take n))
          (scanRest row terminated (column + n) depth (cs.drop (n - 1)))
      | .operator n =>
        .cons (rowToken .operator row column (rest.take n))
          (scanRest row terminated (column + n) (bracketDepth depth c) (cs.drop (n - 1)))
      | .stray =>
        .cons (rowToken .error row column [c])
          (scanRest row terminated (column + 1) depth cs)
  termination_by cs => cs.length
  decreasing_by all_goals (simp only [List.length_cons, List.length_drop]; omega)

/-! ## From row to row -/

/-- How a row begins. -/
inductive RowMode where
  /-- At the start of a statement, or between the brackets of one. -/
  | fresh
  | continued
  | inString (s : OpenString)
  deriving DecidableEq, Repr

/-- What a row leaves to the next one. -/
structure Carry where
  blocks : OpenBlocks
  /-- The number of open brackets. -/
  depth : Nat
  mode : RowMode
  deriving DecidableEq, Repr

namespace Carry

/-- In front of the first row nothing is open. -/
def initial : Carry := ⟨[], 0, .fresh⟩

end Carry

/-- The token of a row's line break: one column wide, behind the last character. -/
def lineEndToken (kind : TokenKind) (row length : Nat) (terminated : Bool) : Token :=
  ⟨kind, if terminated then "\n" else "", ⟨row, length⟩, ⟨row, length + 1⟩⟩

/-- The line break of a complete row. Inside brackets it ends no logical line, and the end of the
text is no line break there. -/
def lineEnd (row length : Nat) (terminated : Bool) (depth : Nat) : List Token :=
  -- A row that no line feed follows is the last one; its end still ends a statement.
  if terminated then
    [lineEndToken (if 0 < depth then .nonLogicalNewline else .newline) row length true]
  else if depth = 0 then [lineEndToken .newline row length false]
  else []

/-- The tokens and the carry of a scanned row with these open blocks. -/
def finishRow (row : Nat) (line : PhysicalLine) (blocks : OpenBlocks) (scan : RowScan) :
    List Token × Carry :=
  match scan.ending with
  | .complete =>
    (scan.tokens ++ lineEnd row line.content.length line.terminated scan.depth,
      ⟨blocks, scan.depth, .fresh⟩)
  | .continued => (scan.tokens, ⟨blocks, scan.depth, .continued⟩)
  | .inString s => (scan.tokens, ⟨blocks, scan.depth, .inString s⟩)

/-- The tokens of a row of nothing but blanks and perhaps a comment. -/
def blankRowTokens (row : Nat) (line : PhysicalLine) (column : Nat) (rest : List Char) :
    List Token :=
  let comment := if rest = [] then [] else [rowToken .comment row column rest]
  let lineBreak :=
    if rest ≠ [] ∨ line.terminated then
      [lineEndToken .nonLogicalNewline row line.content.length line.terminated]
    else []
  comment ++ lineBreak

/-- The tokens by which a row's indentation shows. -/
def indentTokens (row : Nat) (blanks : List Char) : IndentChange → List Token
  | .same => []
  | .opened => [rowToken .indent row 0 blanks]
  | .closed count =>
    List.replicate count ⟨.dedent, "", ⟨row, blanks.length⟩, ⟨row, blanks.length⟩⟩

/-- Scans a row at which a statement may begin. -/
def scanStatementRow (row : Nat) (line : PhysicalLine) (blocks : OpenBlocks) :
    Except TokenizeFailure (List Token × Carry) :=
  let blanks := line.content.takeWhile isBlank
  let rest := line.content.dropWhile isBlank
  if rest = [] ∨ rest.head? = some '#' then
    .ok (blankRowTokens row line blanks.length rest, ⟨blocks, 0, .fresh⟩)
  else
    -- Blank rows and comments are not measured: they may stand anywhere.
    match blocks.moveTo? (indentColumn blanks) with
    | none => .error (.inconsistentDedent ⟨row, blanks.length⟩)
    | some (change, blocks) =>
      let (tokens, carry) :=
        finishRow row line blocks (scanRest row line.terminated blanks.length 0 rest)
      .ok (indentTokens row blanks change ++ tokens, carry)

/-- Scans a row that begins inside a string. A string that had to end in this row and does not is
an error that takes the whole row with it, line break included. -/
def scanStringRow (row : Nat) (line : PhysicalLine) (blocks : OpenBlocks) (depth : Nat)
    (s : OpenString) : List Token × Carry :=
  match StringEnd.find s.quote s.triple line.content with
  -- The token begins where the string does, in an earlier row.
  | .closed n =>
    finishRow row line blocks
      (.cons ⟨.string, String.ofList (s.text ++ line.content.take n), s.start, ⟨row, n⟩⟩
        (scanRest row line.terminated n depth (line.content.drop n)))
  | .unclosed escaped =>
    if OpenString.goesOn s.triple escaped line.terminated then
      ([], ⟨blocks, depth, .inString (s.extend line.content)⟩)
    else
      ([⟨.error, String.ofList (s.text ++ line.content), s.start, ⟨row, line.content.length⟩⟩],
        ⟨blocks, depth, .fresh⟩)

/-- The tokens of one row, and what it leaves to the next one. A row that goes back to a column at
which no block began has no tokens at all. -/
def scanRow (row : Nat) (line : PhysicalLine) (carry : Carry) :
    Except TokenizeFailure (List Token × Carry) :=
  match carry.mode with
  | .inString s => .ok (scanStringRow row line carry.blocks carry.depth s)
  | .continued =>
    .ok (finishRow row line carry.blocks
      (scanRest row line.terminated 0 carry.depth line.content))
  | .fresh =>
    -- Between brackets, rows are not measured either.
    if carry.depth = 0 then scanStatementRow row line carry.blocks
    else
      .ok (finishRow row line carry.blocks
        (scanRest row line.terminated 0 carry.depth line.content))

end Python
end EditorAnalysis
