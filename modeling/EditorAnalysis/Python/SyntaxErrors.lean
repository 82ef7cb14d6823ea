import EditorAnalysis.Syntax.Span

/-!
# Syntax errors

The error and missing nodes of a tree, in pre-order. What is inside an error node is not looked
at: the outermost error is the one reported.
-/

namespace EditorAnalysis
namespace Python

open Syntax Text

mutual

/-- The error and missing nodes of a tree that lie in no other, each with what is to be said of
it. -/
def errorNodes : Node → List (Node × String)
  | .mk info children =>
    if !info.hasError then []
    else if info.isError then [(.mk info children, "invalid syntax")]
    else if info.isMissing then [(.mk info children, "missing " ++ info.kind)]
    else errorNodesAll children

/-- The error and missing nodes of several trees. -/
def errorNodesAll : List Node → List (Node × String)
  | [] => []
  | n :: rest => errorNodes n ++ errorNodesAll rest

end

/-- The diagnostics of the syntax errors of a text with this tree. -/
def syntaxErrors (text : String) (root : Node) : List Diagnostic :=
  let source := text.toList
  let lines := physicalLines source
  (errorNodes root).map fun (n, message) => nodeDiagnostic source lines n message

end Python
end EditorAnalysis
