import EditorAnalysis.Checker
import EditorAnalysis.Classifier
import EditorAnalysis.Language

/-!
# Sessions

A session holds what is known of one text: the classified lines, the tree of scopes, the hints and
the reports of the checkers. Setting the text analyses it anew. Replacing a line only classifies
the text again: scopes, hints and reports stay those of the text that was set last.

A text with syntax errors leaves the tree of scopes as it was and has no hints.
-/

namespace EditorAnalysis

/-- The state of one text under analysis. -/
structure Session (β σ : Type) where
  backend : β
  classifier : Classifier
  scopes : ScopeContext
  hints : List Hint
  checkers : List σ
  /-- The reports of the checkers on the text that was set last. -/
  reports : List (List Diagnostic)
  sourceDirectory : Option String
  sourceText : String

namespace Session

variable {β σ : Type}

/-- A session of an empty text. -/
def new [Language β] (backend : β) (checkers : List σ) : Session β σ where
  backend := backend
  classifier := Classifier.new (Language.tokenizer backend)
  scopes := ScopeContext.ofHostNames (Language.hostNames backend)
  hints := []
  checkers := checkers
  reports := []
  sourceDirectory := none
  sourceText := ""

/-- Notes the directory of the text's file. Only checkers are told of it. -/
def setSourceDirectory (s : Session β σ) (directory : String) : Session β σ :=
  { s with sourceDirectory := some directory }

/-- Sets the whole text and analyses it. The checkers are not asked about an empty text. -/
def setSourceText [Language β] [Checker σ] (s : Session β σ) (text : String) (config : Config) :
    Session β σ :=
  let (parsed, backend) := Language.parse s.backend text
  let (reports, checkers) :=
    if text.isEmpty then ([], s.checkers)
    else Checker.checkAll text ⟨s.sourceDirectory, config⟩ s.checkers
  { s with
    backend := backend
    classifier := s.classifier.load text
    scopes := (parsed.map fun found => s.scopes.rebuild found.scopes).getD s.scopes
    hints := (parsed.map ParsedSource.hints).getD []
    checkers := checkers
    reports := reports
    sourceText := text }

/-- Replaces a line, or adds one, and gives its classes. -/
def replaceLine (s : Session β σ) (line : Nat) (text : String) :
    List CharClass × Session β σ :=
  let (edited, classifier) := s.classifier.replaceLine line text
  (edited, { s with classifier := classifier, sourceText := classifier.text })

/-- All diagnostics: the tokenizer's, then the checkers', each once. -/
def diagnostics (s : Session β σ) : List Diagnostic :=
  Diagnostic.merge s.classifier.errors s.reports

/-- The classes of all characters with the diagnostics marked on them. -/
def lineClasses (s : Session β σ) : List (List CharClass) :=
  Diagnostic.overlay s.diagnostics s.classifier.lineClasses

def lineRanks (s : Session β σ) : List LineRank :=
  s.classifier.lineRanks

/-- The names of the whole text, those of the host language included. -/
def globalNames (s : Session β σ) : GlobalNames :=
  s.scopes.globalNames

end Session
end EditorAnalysis
