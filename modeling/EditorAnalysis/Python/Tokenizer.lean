import EditorAnalysis.Python.RowScan
import EditorAnalysis.Python.Vocabulary

/-!
# The Python tokenizer

A text is scanned row by row. A text that ends inside a string, inside brackets or after a
continuation backslash is incomplete; any other text that was scanned to its end closes its open
blocks and gets an end marker behind its last row.
-/

namespace EditorAnalysis
namespace Python

open Text

/-- Scans rows one after the other, up to the last one or the first that fails; a failing row
adds no tokens. -/
def scanRows (row : Nat) (carry : Carry) :
    List PhysicalLine → List Token × Except TokenizeFailure Carry
  | [] => ([], .ok carry)
  | line :: lines =>
    match scanRow row line carry with
    -- Rows behind one that fails are not looked at.
    | .error failure => ([], .error failure)
    | .ok (tokens, next) =>
      let (more, outcome) := scanRows (row + 1) next lines
      (tokens ++ more, outcome)

/-- What is wrong with a text that ends in this state after so many rows, if anything is. -/
def Carry.failure? (carry : Carry) (rows : Nat) : Option TokenizeFailure :=
  match carry.mode with
  | .inString s => some (.unterminatedString s.start)
  | .continued => some (.unterminatedStatement (rows - 1))
  | .fresh => if 0 < carry.depth then some (.unterminatedStatement (rows - 1)) else none

/-- The tokens behind the last row of a complete text: one for each block that is still open, and
the end marker. -/
def closingTokens (rows : Nat) (blocks : OpenBlocks) : List Token :=
  List.replicate blocks.length ⟨.dedent, "", ⟨rows, 0⟩, ⟨rows, 0⟩⟩ ++
    [⟨.endMarker, "", ⟨rows, 0⟩, ⟨rows, 0⟩⟩]

/-- The token stream of a text given by its physical lines. -/
def tokenizeLines (lines : List PhysicalLine) : TokenStream :=
  let (tokens, outcome) := scanRows 0 Carry.initial lines
  match outcome with
  | .error failure => ⟨tokens, some failure⟩
  | .ok carry =>
    match carry.failure? lines.length with
    -- Blocks stay open when the text breaks off.
    | some failure => ⟨tokens, some failure⟩
    | none => ⟨tokens ++ closingTokens lines.length carry.blocks, none⟩

def tokenize (text : String) : TokenStream :=
  tokenizeLines (physicalLines text.toList)

def tokenizer : Tokenizer where
  tokenize := tokenize
  keywords := keywords

end Python
end EditorAnalysis
