import EditorAnalysis.Checker
import EditorAnalysis.Python.Layout
import EditorAnalysis.Python.SyntaxErrors
import EditorAnalysis.Python.UnusedImports

/-!
# The checkers of Python

Three checkers: of syntax errors, of unused imports and of layout. Each keeps the text that it was
given last. None of them fails.
-/

namespace EditorAnalysis
namespace Python

open Syntax

/-- What a checker of Python looks for. -/
inductive Concern where
  | syntaxErrors
  | unusedImports
  | layout
  deriving DecidableEq, Repr, Inhabited

namespace Concern

def checkerName : Concern → String
  | .syntaxErrors => "syntax"
  | .unusedImports => "pyflakes"
  | .layout => "pep8"

/-- Layout is a matter of style. -/
def kind : Concern → CheckerKind
  | .layout => .style
  | .syntaxErrors | .unusedImports => .lint

/-- All concerns, in the order in which they are checked. -/
def all : List Concern := [.syntaxErrors, .unusedImports, .layout]

end Concern

/-- A checker of Python, with the text and the line length that it was given last. -/
structure PythonChecker where
  concern : Concern
  parser : Parser
  text : String
  maxLineLength : Nat

namespace PythonChecker

/-- A checker that was given nothing yet. -/
def new (parser : Parser) (concern : Concern) : PythonChecker :=
  ⟨concern, parser, "", Config.default.maxLineLength⟩

/-- The diagnostics of a checker's text, of no origin yet. -/
def diagnostics (checker : PythonChecker) : List Diagnostic :=
  match checker.concern with
  | .syntaxErrors => Python.syntaxErrors checker.text (checker.parser checker.text)
  | .unusedImports => Python.unusedImports checker.text (checker.parser checker.text)
  | .layout => layoutFaults checker.maxLineLength checker.text

instance : Checker PythonChecker where
  name checker := checker.concern.checkerName
  kind checker := checker.concern.kind
  configure checker text context :=
    { checker with text := text, maxLineLength := context.config.maxLineLength }
  report checker := (.ok checker.diagnostics, checker)

end PythonChecker

/-- The factories of the checkers of Python. They never fail. -/
def checkerFactories (parser : Parser) : List (Checker.Factory PythonChecker) :=
  Concern.all.map fun concern _ => .ok (.new parser concern)

end Python
end EditorAnalysis
