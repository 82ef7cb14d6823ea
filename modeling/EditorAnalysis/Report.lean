import EditorAnalysis.Session
import EditorAnalysis.Text.Blank

/-!
# Reports

Everything that there is to print about one text, and its rendering for a reader. Rows and columns
are counted from one there. In the section of categories every row of the text is followed by a
row of letters, one under each character, that show the classes.
-/

namespace EditorAnalysis

open Text

/-- What is printed about one text. -/
structure Report where
  /-- The name under which the text goes. -/
  path : String
  diagnostics : List Diagnostic
  hints : List Hint
  globals : GlobalNames
  ranks : List LineRank
  classes : List (List CharClass)
  lines : List String
  deriving DecidableEq, Repr, Inhabited

namespace Report

/-- The report of a session as it is now. -/
def ofSession {β σ : Type} (s : Session β σ) (path : String) : Report where
  path := path
  diagnostics := s.diagnostics
  hints := s.hints
  globals := s.scopes.declaredNames
  ranks := s.lineRanks
  classes := s.lineClasses
  lines := s.classifier.lineTexts

/-- A number as readers count it, in a 64-bit word. -/
def oneBased (n : Nat) : Nat :=
  (n + 1) % (maxWord + 1)

/-- A text put to the right end of a field of at least `width` characters. -/
def padLeft (width : Nat) (text : List Char) : List Char :=
  List.replicate (width - text.length) ' ' ++ text

def digits (n : Nat) : List Char :=
  Nat.toDigits 10 n

def diagnosticLine (path : String) (d : Diagnostic) : String :=
  s!"{path}:{oneBased d.line}:{oneBased d.start}: [{d.origin}] {d.message}"

def hintLine (hint : Hint) : String :=
  s!"{oneBased hint.line}: {hint.kind.label} {hint.name}"

/-- The line that shows a row of the text, with its number and rank in front. -/
def sourceLine (row : Nat) (rank : LineRank) (text : List Char) : List Char :=
  padLeft 4 (digits (row + 1)) ++ ' ' :: digits rank.enter ++ '>' :: digits rank.leave ++
    [' ', '|', ' '] ++ text

/-- The line that shows the classes of a row, each by its letter; blanks at its end are left
out. -/
def classLine (classes : List CharClass) : List Char :=
  padLeft 4 [] ++ List.replicate 7 ' ' ++ ['|', ' '] ++
    trimEnd isWhiteSpace (classes.map CharClass.letter)

/-- The two lines of each row of a list of classes, from a row on. -/
def rowLines (report : Report) (row : Nat) : List (List CharClass) → List String
  | [] => []
  | classes :: rest =>
    let text := (report.lines[row]?).getD ""
    let rank := (report.ranks[row]?).getD ⟨0, 0⟩
    String.ofList (sourceLine row rank text.toList) :: String.ofList (classLine classes) ::
      rowLines report (row + 1) rest

/-- The line that lists names of one kind. -/
def namesLine (title : String) (names : List String) : String :=
  title ++ ": " ++ ", ".intercalate names

/-- The lines of a report, section by section. -/
def textLines (report : Report) : List String :=
  s!"== diagnostics ({report.diagnostics.length}) ==" ::
    report.diagnostics.map (diagnosticLine report.path) ++
  "== hints ==" :: report.hints.map hintLine ++
  ["== globals ==",
    namesLine "modules" report.globals.modules,
    namesLine "functions" report.globals.functions,
    namesLine "classes" report.globals.classes,
    "== categories =="] ++
  rowLines report 0 report.classes

/-- The text of a report: each line ends in a line feed. -/
def renderText (report : Report) : String :=
  String.join (report.textLines.map (· ++ "\n"))

end Report
end EditorAnalysis
