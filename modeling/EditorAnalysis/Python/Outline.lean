import EditorAnalysis.Hint
import EditorAnalysis.Syntax.Tree

/-!
# The outline of a Python tree

One hint for each function definition of a tree, nested ones included, in the order of the text.
-/

namespace EditorAnalysis
namespace Python

open Syntax Text

/-- The hint of a node, if it defines a function and the function has a name. -/
def functionHint? (source : List Char) (n : Node) : Option Hint :=
  if n.info.kind = "function_definition" then
    (n.childByField? "name").map fun name =>
      ⟨.function, (bytePosition source n.info.start).row, String.ofList (name.text source)⟩
  else none

mutual

/-- The hints of a node and of the named nodes inside it. -/
def functionHints (source : List Char) : Node → List Hint
  | .mk info children =>
    (functionHint? source (.mk info children)).toList ++ functionHintsAll source children

/-- The hints of the named ones of some nodes. -/
def functionHintsAll (source : List Char) : List Node → List Hint
  | [] => []
  | n :: rest =>
    if n.info.named then functionHints source n ++ functionHintsAll source rest
    else functionHintsAll source rest

end

end Python
end EditorAnalysis
