import EditorAnalysis.Proofs.Checker
import EditorAnalysis.Proofs.Classifier.Table
import EditorAnalysis.Proofs.Scope.Context
import EditorAnalysis.Proofs.Workspace.Run
import EditorAnalysis.Python.Workspace

/-!
# Sessions of Python texts

What a session keeps from the texts that it was given before comes down to very little: under the
names of its scope tree lie those of Python, and its checkers are new ones but for what they were
told last, which they are told again before they report.
-/

namespace EditorAnalysis

namespace Python

open Syntax Checker

variable {parser : Parser}

/-! ## Checkers -/

namespace PythonChecker

/-- A checker that was given nothing yet and looks for the same. -/
def forget (checker : PythonChecker) : PythonChecker :=
  .new checker.parser checker.concern

theorem isSkipped_forget (checker : PythonChecker) (context : CheckContext) :
    isSkipped checker.forget context = isSkipped checker context := rfl

theorem check_forget (checker : PythonChecker) (text : String) (context : CheckContext) :
    check checker.forget text context = check checker text context := rfl

theorem visit_forget (text : String) (context : CheckContext) (checker : PythonChecker) :
    (visit text context checker.forget).1 = (visit text context checker).1 := by
  rw [visit, visit, isSkipped_forget, check_forget]
  split <;> rfl

theorem forget_visit (text : String) (context : CheckContext) (checker : PythonChecker) :
    (visit text context checker).2.forget = checker.forget := by
  rw [visit]
  split <;> rfl

/-- What checkers were given before does not matter for their reports. -/
theorem checkAll_map_forget (text : String) (context : CheckContext)
    (checkers : List PythonChecker) :
    (checkAll text context (checkers.map forget)).1 = (checkAll text context checkers).1 := by
  rw [checkAll_eq, checkAll_eq, List.filterMap_map]
  simp only [Function.comp_def, visit_forget]

/-- Checking a text leaves the same checkers, but for what they were given. -/
theorem map_forget_checkAll (text : String) (context : CheckContext)
    (checkers : List PythonChecker) :
    (checkAll text context checkers).2.map forget = checkers.map forget := by
  rw [checkAll_eq, List.map_map]
  exact List.map_congr_left fun checker _ => forget_visit text context checker

theorem map_forget_new (parser : Parser) (concerns : List Concern) :
    (concerns.map (new parser)).map forget = concerns.map (new parser) := by
  rw [List.map_map]
  rfl

end PythonChecker

/-! ## Sessions -/

/-- What all sessions of Python texts have, whatever texts they were given. -/
structure SessionOf (parser : Parser) (s : Session Backend PythonChecker) : Prop where
  backend : s.backend = ⟨parser⟩
  tokenizer : s.classifier.tokenizer = Python.tokenizer
  scopes : s.scopes.clear = .ofHostNames hostNames
  checkers : s.checkers.map PythonChecker.forget = Concern.all.map (.new parser)

variable {s t : Session Backend PythonChecker}

theorem sessionOf_new (parser : Parser) :
    SessionOf parser (Session.new ⟨parser⟩ (Concern.all.map (.new parser))) where
  backend := rfl
  tokenizer := rfl
  scopes := ScopeContext.clear_ofHostNames hostNames
  checkers := PythonChecker.map_forget_new parser Concern.all

namespace SessionOf

theorem setSourceDirectory (own : SessionOf parser s) (directory : String) :
    SessionOf parser (s.setSourceDirectory directory) :=
  ⟨own.backend, own.tokenizer, own.scopes, own.checkers⟩

theorem replaceLine (own : SessionOf parser s) (line : Nat) (text : String) :
    SessionOf parser (s.replaceLine line text).2 :=
  ⟨own.backend, own.tokenizer, own.scopes, own.checkers⟩

/-- The scope tree after a text: that of the text alone if it parses, or else the one before. -/
theorem scopes_setSourceText (own : SessionOf parser s) (text : String) (config : Config) :
    (s.setSourceText text config).scopes =
      ((parseTree text (parser text)).map fun found =>
        (ScopeContext.ofHostNames hostNames).fill found.scopes).getD s.scopes := by
  have parsed : (Language.parse s.backend text).1 = parseTree text (parser text) := by
    rw [own.backend]
    rfl
  have rebuilt (table : ScopeTable) :
      s.scopes.rebuild table = (ScopeContext.ofHostNames hostNames).fill table := by
    rw [ScopeContext.rebuild, own.scopes]
  simp only [Session.setSourceText, parsed, rebuilt]

/-- The reports on a text are those of new checkers. -/
theorem reports_setSourceText (own : SessionOf parser s) {text : String}
    (nonempty : text.isEmpty = false) (config : Config) :
    (s.setSourceText text config).reports =
      (checkAll text ⟨s.sourceDirectory, config⟩
        (Concern.all.map (PythonChecker.new parser))).1 := by
  rw [← own.checkers, PythonChecker.checkAll_map_forget]
  simp [Session.setSourceText, nonempty]

theorem setSourceText (own : SessionOf parser s) (text : String) (config : Config) :
    SessionOf parser (s.setSourceText text config) where
  backend := own.backend
  tokenizer := own.tokenizer
  scopes := by
    rw [own.scopes_setSourceText]
    cases parseTree text (parser text) with
    | none => exact own.scopes
    | some found => exact ScopeContext.clear_fill_ofHostNames hostNames found.scopes
  checkers := by
    by_cases empty : text.isEmpty = true
    · simpa [Session.setSourceText, empty] using own.checkers
    · simpa [Session.setSourceText, empty, PythonChecker.map_forget_checkAll] using own.checkers

end SessionOf

/-! ## Workspaces -/

/-- What all workspaces of Python texts have, whatever calls were made. -/
structure WorkspaceOf (parser : Parser) (w : Workspace Backend PythonChecker) : Prop where
  backends : w.backends = fun _ => .ok ⟨parser⟩
  factories : w.catalog.map Source.factory = checkerFactories parser
  sessions : ∀ id s, w.session id = .ok s → SessionOf parser s

theorem workspaceOf_workspace (parser : Parser) (config : Config) :
    WorkspaceOf parser (workspace parser config) where
  backends := rfl
  factories := rfl
  sessions := by
    intro id s found
    cases found

namespace WorkspaceOf

variable {w : Workspace Backend PythonChecker} {id : SessionId} {call : Call}

theorem checkers (own : WorkspaceOf parser w) :
    w.catalog.instantiate.1 = Concern.all.map (.new parser) :=
  Catalog.instantiate_of_factories own.factories

theorem sessionOf_of_leaves (own : WorkspaceOf parser w) (h : w.Leaves id call s) :
    SessionOf parser s := by
  cases h with
  | kept found => exact own.sessions id s found
  | @created backend given =>
      rw [own.backends] at given
      rw [own.checkers, ← Except.ok.inj given]
      exact sessionOf_new parser
  | @sourceDirectory directory before found =>
      exact (own.sessions id before found).setSourceDirectory directory
  | @sourceText text before found =>
      exact (own.sessions id before found).setSourceText text w.config
  | @line line text before found =>
      exact (own.sessions id before found).replaceLine line text

theorem perform (own : WorkspaceOf parser w) (call : Call) :
    WorkspaceOf parser (w.perform call).2 where
  backends := (w.sameSources_perform call).1.trans own.backends
  factories := (w.sameSources_perform call).2.trans own.factories
  sessions := by
    intro id s found
    exact own.sessionOf_of_leaves (Workspace.leaves_of_session_perform found)

end WorkspaceOf

theorem workspaceOf_run (parser : Parser) (config : Config) (calls : List Call) :
    WorkspaceOf parser ((workspace parser config).run calls).2 :=
  Workspace.run_preserves (fun _ call own => own.perform call) calls
    (workspaceOf_workspace parser config)

end Python
end EditorAnalysis
