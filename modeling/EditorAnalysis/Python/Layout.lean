import EditorAnalysis.Diagnostic
import EditorAnalysis.Python.Indentation
import EditorAnalysis.Text.Lines

/-!
# Layout

The layout rules of PEP 8 that a row can break: it may be too long, be indented with tabs, end in
white space, or be the last one and lack its line break.
-/

namespace EditorAnalysis
namespace Python

open Text

/-- A diagnostic of the layout rules, of no origin yet. -/
def layoutFault (row start length : Nat) (message : String) : Diagnostic :=
  ⟨"", row, start, length, "PEP-8: " ++ message⟩

/-- A row with more characters than it may have: the characters over the limit are marked. -/
def longLineFault (limit row : Nat) (line : List Char) : List Diagnostic :=
  if limit < line.length then
    [layoutFault row limit (line.length - limit)
      s!"E501 line too long ({line.length} > {limit} characters)"]
  else []

/-- A row with a tab among the spaces and tabs at its front: all of them are marked. -/
def tabFault (row : Nat) (line : List Char) : List Diagnostic :=
  let indent := line.takeWhile fun c => c == ' ' || c == '\t'
  if '\t' ∈ indent then [layoutFault row 0 indent.length "W191 indentation contains tabs"] else []

/-- A row that ends in white space: all of it is marked. -/
def trailingBlankFault (row : Nat) (line : List Char) : List Diagnostic :=
  let trailing := (line.reverse.takeWhile isBlank).length
  -- A row of nothing but white space has a message of its own.
  if trailing = 0 then []
  else
    [layoutFault row (line.length - trailing) trailing
      (if trailing = line.length then "W293 whitespace on blank line"
        else "W291 trailing whitespace")]

def rowFaults (limit row : Nat) (line : List Char) : List Diagnostic :=
  longLineFault limit row line ++ tabFault row line ++ trailingBlankFault row line

def rowsFaults (limit row : Nat) : List PhysicalLine → List Diagnostic
  | [] => []
  | line :: rest => rowFaults limit row line.content ++ rowsFaults limit (row + 1) rest

/-- The fault of a text without a line break at its end: its last character is marked. -/
def endOfTextFault (lines : List PhysicalLine) : List Diagnostic :=
  match lines.getLast? with
  | some last =>
    if last.terminated then []
    else
      [layoutFault (lines.length - 1) (last.content.length - 1) (min last.content.length 1)
        "W292 no newline at end of file"]
  | none => []

/-- The layout faults of a text, row by row, and that of its end. -/
def layoutFaults (limit : Nat) (text : String) : List Diagnostic :=
  let lines := physicalLines text.toList
  rowsFaults limit 0 lines ++ endOfTextFault lines

end Python
end EditorAnalysis
