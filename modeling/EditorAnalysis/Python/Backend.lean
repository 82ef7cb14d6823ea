import EditorAnalysis.Language
import EditorAnalysis.Python.Outline
import EditorAnalysis.Python.ScopeTable
import EditorAnalysis.Python.Tokenizer

/-!
# Python as a language of sessions

The tokenizer, the built-in names and the parse of Python. A text whose tree has a syntax error
does not parse.
-/

namespace EditorAnalysis
namespace Python

open Syntax

/-- Python, by way of a parser. -/
structure Backend where
  parser : Parser

/-- The scopes and hints of a text with this tree, unless the tree has a syntax error. -/
def parseTree (text : String) (root : Node) : Option ParsedSource :=
  if root.hasError then none
  else some ⟨scopeTable text.toList root, functionHints text.toList root⟩

instance : Language Backend where
  tokenizer _ := Python.tokenizer
  hostNames _ := Python.hostNames
  parse backend text := (parseTree text (backend.parser text), backend)

end Python
end EditorAnalysis
