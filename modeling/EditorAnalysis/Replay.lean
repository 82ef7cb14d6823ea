import EditorAnalysis.Checker
import EditorAnalysis.Language

/-!
# Replaying

Tokenizers, languages and checkers that give answers prepared in advance. They let sessions and
workspaces run without any language behind them.
-/

namespace EditorAnalysis
namespace Replay

/-- The answer prepared for a text: that of the first entry with the text. -/
def answerFor? {α : Type} (text : String) (prepared : List (String × α)) : Option α :=
  (prepared.find? fun entry => entry.1 == text).map (·.2)

/-- A tokenizer with prepared streams; any other text has no tokens. -/
def tokenizer (keywords : KeywordSet) (streams : List (String × TokenStream)) : Tokenizer where
  tokenize text := (answerFor? text streams).getD ⟨[], none⟩
  keywords := keywords

/-! ## Languages -/

/-- A language with prepared parses; any other text has syntax errors. -/
structure Backend where
  tokenizer : Tokenizer
  host : HostNames
  parses : List (String × ParsedSource)

instance : Language Backend where
  tokenizer backend := backend.tokenizer
  hostNames backend := backend.host
  parse backend text := (answerFor? text backend.parses, backend)

/-- The attempts to get a language: each fails for which a reason was prepared. -/
def attempts (backend : Backend) (failures : List (Option String)) (attempt : Nat) :
    Except BackendError Backend :=
  match failures[attempt]?.join with
  | some reason => .error (.grammar reason)
  | none => .ok backend

/-! ## Checkers -/

/-- A prepared answer of a checker. -/
inductive Reaction where
  | diagnostics (list : List Diagnostic)
  | failure (message : String)
  /-- One diagnostic that says what the checker was given last. -/
  | echo
  deriving DecidableEq, Repr

/-- A checker with prepared reactions, one after the other; the last one is repeated. -/
structure Script where
  name : String
  kind : CheckerKind
  reactions : List Reaction
  /-- The calls of its factory that fail. -/
  unavailable : List Nat
  deriving DecidableEq, Repr

/-- A checker that follows a script. -/
structure Actor where
  script : Script
  reports : Nat
  text : String
  context : CheckContext
  deriving DecidableEq, Repr

namespace Actor

/-- A checker at the beginning of its script. -/
def new (script : Script) : Actor := ⟨script, 0, "", ⟨none, Config.default⟩⟩

/-- The diagnostic that says what the checker was given last, and by its length how many reports
it has made. -/
def echo (actor : Actor) : Diagnostic :=
  let directory := actor.context.sourceDirectory.getD "-"
  let config := actor.context.config
  let style := if config.styleCheck then "true" else "false"
  ⟨"unset", 0, 0, actor.reports + 1,
    s!"{directory}|{style}|{config.maxLineLength}|{actor.text}"⟩

/-- What the script says about the next report. -/
def reaction (actor : Actor) : Reaction :=
  let reactions := actor.script.reactions
  (reactions[min actor.reports (reactions.length - 1)]?).getD (.diagnostics [])

def outcome (actor : Actor) : Except CheckerError (List Diagnostic) :=
  match actor.reaction with
  | .diagnostics list => .ok list
  | .failure message => .error (.failed actor.script.name message)
  | .echo => .ok [actor.echo]

instance : Checker Actor where
  name actor := actor.script.name
  kind actor := actor.script.kind
  configure actor text context := { actor with text := text, context := context }
  report actor := (actor.outcome, { actor with reports := actor.reports + 1 })

end Actor

def factory (script : Script) : Checker.Factory Actor := fun call =>
  if call ∈ script.unavailable then .error (.unavailable script.name)
  else .ok (Actor.new script)

end Replay
end EditorAnalysis
