import EditorAnalysis.Config
import EditorAnalysis.Diagnostic

/-!
# Checkers

A checker reports diagnostics about a text that it was given before. It may keep a state of its
own, so each of its operations gives back the checker as it is afterwards. A checker may fail; its
report is then left out, and nothing else changes.

Checkers come from factories. A factory may fail, and its later calls may come out differently
from its first. A catalog calls every factory once and keeps those that gave a checker.
-/

namespace EditorAnalysis

/-- What a checker looks after. -/
inductive CheckerKind where
  /-- Correctness: always checked. -/
  | lint
  /-- Style: checked when the configuration says so. -/
  | style
  deriving DecidableEq, Repr, Inhabited

/-- Why there is no checker, or no report. -/
inductive CheckerError where
  | unavailable (name : String)
  | failed (name message : String)
  deriving DecidableEq, Repr, Inhabited

namespace CheckerError

def message : CheckerError → String
  | .unavailable name => s!"checker '{name}' is unavailable"
  | .failed name reason => s!"checker '{name}' failed: {reason}"

end CheckerError

/-- What a checker is told besides the text. -/
structure CheckContext where
  /-- The directory of the text's file, if it has one. -/
  sourceDirectory : Option String
  config : Config
  deriving DecidableEq, Repr, Inhabited

/-- Values of a type serve as checkers. -/
class Checker (σ : Type) where
  /-- The name under which the reports go. -/
  name : σ → String
  kind : σ → CheckerKind
  configure : σ → String → CheckContext → σ
  /-- Reports on the text taken in last. -/
  report : σ → Except CheckerError (List Diagnostic) × σ

namespace Checker

variable {σ τ : Type} [Checker σ] [Checker τ]

/-- Two types of checkers together. -/
instance : Checker (σ ⊕ τ) where
  name
    | .inl s => name s
    | .inr t => name t
  kind
    | .inl s => kind s
    | .inr t => kind t
  configure
    | .inl s, text, context => .inl (configure s text context)
    | .inr t, text, context => .inr (configure t text context)
  report
    | .inl s => (report s).map id .inl
    | .inr t => (report t).map id .inr

/-- Whether the configuration leaves a checker out. -/
def isSkipped (s : σ) (context : CheckContext) : Bool :=
  kind s == .style && !context.config.styleCheck

/-- Has one checker check a text. Its diagnostics get its name; a failure gives none. -/
def check (s : σ) (text : String) (context : CheckContext) : Option (List Diagnostic) × σ :=
  match report (configure s text context) with
  | (.ok diagnostics, next) => (some (diagnostics.map ({ · with origin := name next })), next)
  | (.error _, next) => (none, next)

/-- Has a list of checkers check a text: one list of diagnostics for each checker that is not left
out and does not fail, in order. A checker that is left out is not touched. -/
def checkAll (text : String) (context : CheckContext) :
    List σ → List (List Diagnostic) × List σ
  | [] => ([], [])
  | s :: rest =>
    -- The results come in the order of the checkers; no checker sees another.
    let (lists, others) := checkAll text context rest
    if isSkipped s context then (lists, s :: others)
    else
      let (list, next) := check s text context
      (list.toList ++ lists, next :: others)

/-! ## Factories -/

/-- What the calls of a factory give, from the first on. -/
abbrev Factory (σ : Type) := Nat → Except CheckerError σ

/-- A factory and the number of its calls so far. -/
structure Source (σ : Type) where
  factory : Factory σ
  calls : Nat

/-- The factories that gave a checker when they were first called. -/
abbrev Catalog (σ : Type) := List (Source σ)

namespace Catalog

/-- Calls each factory once and keeps those that give a checker. -/
def discover (factories : List (Factory σ)) : Catalog σ :=
  (factories.filter fun factory => (factory 0).isOk).map (⟨·, 1⟩)

/-- Calls each factory of the catalog: the checkers that come out, and the catalog after the
calls. -/
def instantiate (catalog : Catalog σ) : List σ × Catalog σ :=
  (catalog.filterMap fun source => (source.factory source.calls).toOption,
    catalog.map fun source => { source with calls := source.calls + 1 })

end Catalog
end Checker
end EditorAnalysis
