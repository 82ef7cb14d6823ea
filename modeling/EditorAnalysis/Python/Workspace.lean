import EditorAnalysis.Python.Backend
import EditorAnalysis.Python.Checkers
import EditorAnalysis.Workspace.Basic

/-!
# Workspaces of Python texts

A workspace in which every session has Python as its language and all the checkers of Python.
-/

namespace EditorAnalysis
namespace Python

open Syntax

/-- A workspace of Python texts, without sessions yet. -/
def workspace (parser : Parser) (config : Config) : Workspace Backend PythonChecker :=
  Workspace.new config (fun _ => .ok ⟨parser⟩) (checkerFactories parser)

end Python
end EditorAnalysis
