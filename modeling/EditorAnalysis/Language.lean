import EditorAnalysis.Hint
import EditorAnalysis.Scope.Context
import EditorAnalysis.Token

/-!
# Languages

What a session needs of a language: a tokenizer, the names that the language provides, and a
parser that says which names a text declares. A parser may keep a state of its own.
-/

namespace EditorAnalysis

/-- What a parser finds in a text without syntax errors. -/
structure ParsedSource where
  scopes : ScopeTable
  hints : List Hint
  deriving Repr, Inhabited

/-- Why a language cannot be used. -/
inductive BackendError where
  | grammar (reason : String)
  deriving DecidableEq, Repr, Inhabited

namespace BackendError

def message : BackendError → String
  | .grammar reason => s!"failed to load grammar: {reason}"

end BackendError

/-- Values of a type serve as the language of a session. -/
class Language (β : Type) where
  tokenizer : β → Tokenizer
  hostNames : β → HostNames
  /-- Parses a text; a text with syntax errors gives nothing. -/
  parse : β → String → Option ParsedSource × β

end EditorAnalysis
