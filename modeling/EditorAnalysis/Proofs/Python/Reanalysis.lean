import EditorAnalysis.Proofs.Python.Sessions

/-!
# Setting a text anew

A session that is given a text says of it what a new session says: whatever texts, edits and
settings came before, nothing of them is left. Only a text with syntax errors keeps the tree of
scopes that the session had.
-/

namespace EditorAnalysis

/-! ## Equal analyses -/

/-- Whether two sessions hold the same analysis of the same text, but for the tree of scopes. -/
structure Session.SameAnalysis {β σ : Type} (s t : Session β σ) : Prop where
  sourceText : s.sourceText = t.sourceText
  classifier : s.classifier = t.classifier
  hints : s.hints = t.hints
  reports : s.reports = t.reports

namespace Session.SameAnalysis

variable {β σ : Type} {s t : Session β σ}

theorem diagnostics (same : SameAnalysis s t) : s.diagnostics = t.diagnostics := by
  rw [Session.diagnostics, Session.diagnostics, same.classifier, same.reports]

theorem lineClasses (same : SameAnalysis s t) : s.lineClasses = t.lineClasses := by
  rw [Session.lineClasses, Session.lineClasses, same.diagnostics, same.classifier]

end Session.SameAnalysis

namespace Workspace

variable {β σ : Type} [Language β] [Checker σ] {w : Workspace β σ}

/-- The session that a workspace creates for a text in a directory and gives the text at once. -/
def analyseAfresh (w : Workspace β σ) (directory : Option String) (text : String) :
    Except WorkspaceError (Session β σ) :=
  match w.create with
  | (.error e, _) => .error e
  | (.ok id, next) =>
    let placed :=
      match directory with
      | some directory => (next.setSourceDirectory id directory).2
      | none => next
    (placed.setSourceText id text).2.session id

theorem analyseAfresh_eq {backend : β} (given : w.backends w.attempts = .ok backend)
    (directory : Option String) (text : String) :
    w.analyseAfresh directory text =
      .ok ({ Session.new backend w.catalog.instantiate.1 with
        sourceDirectory := directory }.setSourceText text w.config) := by
  rcases exists_create given with ⟨id, next, created, config, live⟩
  simp only [analyseAfresh, created]
  cases directory with
  | none =>
      rw [session_setSourceText live, config]
      rfl
  | some directory =>
      have placed : (next.setSourceDirectory id directory).2.session id = _ :=
        session_update_self live
      have sameConfig : (next.setSourceDirectory id directory).2.config = next.config :=
        config_update next id _
      rw [session_setSourceText placed, sameConfig, config]
      rfl

end Workspace

namespace Python

open Syntax

variable {parser : Parser} {s t : Session Backend PythonChecker}

/-- Two sessions of the same directory say the same of a text that both are given. -/
theorem SessionOf.sameAnalysis (own : SessionOf parser s) (other : SessionOf parser t)
    (directory : s.sourceDirectory = t.sourceDirectory) (text : String) (config : Config) :
    (s.setSourceText text config).SameAnalysis (t.setSourceText text config) where
  sourceText := rfl
  classifier := Classifier.classify_eq_of_tokenizer_eq (own.tokenizer.trans other.tokenizer.symm) _ _
  hints := by
    simp only [Session.setSourceText, own.backend, other.backend]
  reports := by
    -- The checkers are the same but for what they were told before.
    have checkers := own.checkers.trans other.checkers.symm
    have reports := congrArg
      (fun checkers => (Checker.checkAll text ⟨t.sourceDirectory, config⟩ checkers).1) checkers
    simp only [PythonChecker.checkAll_map_forget] at reports
    by_cases empty : text.isEmpty = true
    · simp [Session.setSourceText, empty]
    · simpa [Session.setSourceText, empty, directory] using reports

/-- Right after a text is set, a session that has seen any calls holds the analysis that a new
session of the same directory holds, under the configuration now in effect. -/
theorem setSourceText_eq_analyseAfresh (parser : Parser) (config : Config) (calls : List Call)
    (id : SessionId) (s : Session Backend PythonChecker) (text : String)
    (live : ((workspace parser config).run calls).2.session id = .ok s) :
    let w := ((workspace parser config).run calls).2
    (∃ after fresh, (w.setSourceText id text).2.session id = .ok after ∧
      w.analyseAfresh s.sourceDirectory text = .ok fresh ∧
      after.sourceText = fresh.sourceText ∧ after.classifier = fresh.classifier ∧
      after.hints = fresh.hints ∧ after.diagnostics = fresh.diagnostics ∧
      after.lineClasses = fresh.lineClasses ∧
      ((parser text).hasError = false → after.scopes = fresh.scopes) ∧
      ((parser text).hasError = true → after.scopes = s.scopes)) ∧
    (∀ config, (w.setConfig config).session id = .ok s ∧
      ((w.setConfig config).setSourceText id text).2.session id =
        .ok (s.setSourceText text config)) ∧
    ∀ enabled, (w.setStyleCheck enabled).session id = .ok s ∧
      ((w.setStyleCheck enabled).setSourceText id text).2.session id =
        .ok (s.setSourceText text { w.config with styleCheck := enabled }) := by
  intro w
  have ofParser : WorkspaceOf parser w := workspaceOf_run parser config calls
  have own : SessionOf parser s := ofParser.sessions id s live
  have given : w.backends w.attempts = .ok ⟨parser⟩ := by rw [ofParser.backends]
  let unset : Session Backend PythonChecker :=
    { Session.new ⟨parser⟩ w.catalog.instantiate.1 with sourceDirectory := s.sourceDirectory }
  have new : SessionOf parser unset := by
    have created := sessionOf_new parser
    rw [← ofParser.checkers] at created
    exact ⟨created.backend, created.tokenizer, created.scopes, created.checkers⟩
  have same := own.sameAnalysis new rfl text w.config
  refine ⟨⟨s.setSourceText text w.config, unset.setSourceText text w.config, ?_, ?_,
    same.sourceText, same.classifier, same.hints, same.diagnostics, same.lineClasses, ?_, ?_⟩,
    ?_, ?_⟩
  · exact Workspace.session_setSourceText live text
  · exact Workspace.analyseAfresh_eq given s.sourceDirectory text
  · intro parses
    simp [own.scopes_setSourceText, new.scopes_setSourceText, parseTree, parses]
  · intro broken
    simp [own.scopes_setSourceText, parseTree, broken]
  · intro config
    have kept : (w.setConfig config).session id = .ok s := live
    exact ⟨kept, Workspace.session_setSourceText kept text⟩
  · intro enabled
    have kept : (w.setStyleCheck enabled).session id = .ok s := live
    exact ⟨kept, Workspace.session_setSourceText kept text⟩

/-- A parser of classes with names of one letter; a bracket is a syntax error. -/
def classParser (text : String) : Node :=
  let length := Text.byteLength text.toList
  let broken := text.toList.contains '('
  .mk ⟨"module", true, false, false, broken, "", 0, length⟩
    [if broken then .mk ⟨"ERROR", true, true, false, true, "", 0, length⟩ []
      else .mk ⟨"class_definition", true, false, false, false, "", 0, length⟩
        [.mk ⟨"identifier", true, false, false, false, "name", 6, 7⟩ []]]

/-- The texts before were one whose layout was checked and one with a syntax error, which was
edited; now layout is not checked. -/
theorem setSourceText_eq_analyseAfresh_classes :
    let w := ((workspace classParser Config.default).run
      [.create, .setSourceDirectory ⟨1⟩ "/d", .setStyleCheck true,
        .setSourceText ⟨1⟩ "class A:\n\tx ", .setConfig ⟨false, 5⟩,
        .setSourceText ⟨1⟩ "class B(", .replaceLine ⟨1⟩ 4 "\"\"\""]).2
    ∃ s after fresh, w.session ⟨1⟩ = .ok s ∧
      (w.setSourceText ⟨1⟩ "class C: x").2.session ⟨1⟩ = .ok after ∧
      w.analyseAfresh s.sourceDirectory "class C: x" = .ok fresh ∧
      after.classifier = fresh.classifier ∧ after.hints = fresh.hints ∧
      after.diagnostics = fresh.diagnostics ∧ after.scopes = fresh.scopes := by
  intro w
  have answered : (w.ask ⟨1⟩ Session.sourceText).toOption = some "class B(\n\"\"\"" := by
    decide +kernel
  have parses : (classParser "class C: x").hasError = false := by decide +kernel
  rcases Workspace.exists_of_ask answered with ⟨s, live, -⟩
  rcases (setSourceText_eq_analyseAfresh _ _ _ _ s "class C: x" live).1 with
    ⟨after, fresh, found, created, -, classifier, hints, diagnostics, -, scopes, -⟩
  exact ⟨s, after, fresh, live, found, created, classifier, hints, diagnostics, scopes parses⟩

end Python
end EditorAnalysis
