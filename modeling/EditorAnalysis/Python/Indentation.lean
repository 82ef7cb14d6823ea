/-!
# Indentation

The column at which a row's text begins, and the blocks that are open around it. Open blocks are
listed by their columns, innermost first; the text itself, at column zero, is not listed.

A row that begins further right than the innermost block opens one more. A row that begins further
left closes every block to the right of it, and must then stand exactly where the block that is
left began.
-/

namespace EditorAnalysis
namespace Python

/-- White space within a row: space, tab and form feed. -/
def isBlank (c : Char) : Bool :=
  c == ' ' || c == '\t' || c == '\x0c'

/-- Columns between tab stops. -/
def tabSize : Nat := 8

/-- The column after one blank character: a tab goes on to the next tab stop, a form feed back to
the margin. -/
def columnAfter (column : Nat) (c : Char) : Nat :=
  if c = '\t' then (column / tabSize + 1) * tabSize
  else if c = '\x0c' then 0
  else column + 1

/-- The column at which a row's text begins, given the blank characters in front of it. -/
def indentColumn (blanks : List Char) : Nat :=
  blanks.foldl columnAfter 0

/-- The columns of the open blocks, innermost first. -/
abbrev OpenBlocks := List Nat

/-- What the first text of a row does to the open blocks. -/
inductive IndentChange where
  | same
  | opened
  | closed (count : Nat)
  deriving DecidableEq, Repr

namespace OpenBlocks

def innermost (blocks : OpenBlocks) : Nat :=
  blocks.headD 0

/-- The blocks after a row that begins at a column, and what the row did; nothing when no block
began at that column. -/
def moveTo? (blocks : OpenBlocks) (column : Nat) : Option (IndentChange × OpenBlocks) :=
  if innermost blocks < column then some (.opened, column :: blocks)
  else if column = innermost blocks then some (.same, blocks)
  else
    -- Every block to the right is closed, and a block must have begun right here.
    let left := blocks.dropWhile (column < ·)
    if innermost left = column then
      some (.closed (blocks.takeWhile (column < ·)).length, left)
    else none

end OpenBlocks
end Python
end EditorAnalysis
