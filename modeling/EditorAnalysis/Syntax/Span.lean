import EditorAnalysis.Diagnostic
import EditorAnalysis.Syntax.Tree
import EditorAnalysis.Text.Lines

/-!
# The characters of a node

A diagnostic about a node marks the characters of the node in the row where it starts. A node that
ends in a later row is marked to the end of its first row, and an empty node takes the character
that follows, if its row has one.
-/

namespace EditorAnalysis
namespace Syntax

open Text

/-- The characters of a row of a text; a row past the last has none. -/
def lineContent (lines : List PhysicalLine) (row : Nat) : List Char :=
  ((lines[row]?).map PhysicalLine.content).getD []

/-- A diagnostic about a node, of no origin yet. -/
def nodeDiagnostic (source : List Char) (lines : List PhysicalLine) (n : Node)
    (message : String) : Diagnostic :=
  let start := bytePosition source n.info.start
  let stop := bytePosition source n.info.stop
  let line := lineContent lines start.row
  let first := charColumn line start.byteColumn
  let last := if stop.row = start.row then charColumn line stop.byteColumn else line.length
  let length := if last - first = 0 ∧ first < line.length then 1 else last - first
  ⟨"", start.row, first, length, message⟩

end Syntax
end EditorAnalysis
