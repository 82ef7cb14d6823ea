import EditorAnalysis.Proofs.Diagnostic.Merge
import EditorAnalysis.Proofs.Python.Sessions
import EditorAnalysis.Proofs.Syntax.Faults

/-!
# Texts that do not parse

A text is rejected when the root of its tree is flagged. The checker of syntax errors names the
outermost faults of the tree, so it has something to say of a text just when the text is rejected.
In a session the same is read off the origins of the diagnostics: no other producer has the name of
that checker.
-/

namespace EditorAnalysis

/-! ## Origins -/

/-- The errors of a table are the tokenizer's. -/
theorem Classifier.origin_of_mem_errors_classify {c : Classifier} {texts : List String}
    {text : String} {d : Diagnostic} (h : d ∈ (c.classify texts text).errors) :
    d.origin = tokenizerOrigin := by
  rw [errors_classify] at h
  rcases List.mem_filterMap.1 h with ⟨error, herror, found⟩
  rcases List.mem_mapIdx.1 herror with ⟨row, hrow, rfl⟩
  rcases Option.map_eq_some_iff.1 found with ⟨t, -, rfl⟩
  rfl

namespace Python

open Syntax Text Checker

variable {parser : Parser} {text : String} {s : Session Backend PythonChecker}

namespace PythonChecker

/-- What a checker reports on a text goes under its own name. -/
theorem origin_of_mem_check {checker : PythonChecker} {context : CheckContext}
    {list : List Diagnostic} (reported : (check checker text context).1 = some list)
    {d : Diagnostic} (hd : d ∈ list) : d.origin = checker.concern.checkerName := by
  cases reported
  rcases List.mem_map.1 hd with ⟨e, -, rfl⟩
  rfl

end PythonChecker

/-- Each concern has its own name. -/
theorem Concern.eq_syntaxErrors_of_checkerName {concern : Concern}
    (h : concern.checkerName = "syntax") : concern = .syntaxErrors := by
  cases concern with
  | syntaxErrors => rfl
  | unusedImports | layout => simp [Concern.checkerName] at h

/-! ## Trees -/

/-- The checker of syntax errors names the outermost faults, in pre-order. -/
theorem syntaxErrors_eq_map (flags : (parser text).FlagsFaults) :
    syntaxErrors text (parser text) =
      (parser text).outermostFaults.map fun n =>
        nodeDiagnostic text.toList (physicalLines text.toList) n n.faultMessage := by
  have nothingAround : [].any Node.isFault = false := rfl
  simp [syntaxErrors, errorNodes_eq_map_filter flags nothingAround, Node.outermostFaults]

theorem syntaxErrors_ne_nil_iff (flags : (parser text).FlagsFaults) :
    syntaxErrors text (parser text) ≠ [] ↔ (parser text).hasError = true := by
  have nothing := errorNodes_eq_nil_iff flags
  simp [syntaxErrors, nothing]

theorem parse_eq_none_iff :
    (Language.parse (⟨parser⟩ : Backend) text).1 = none ↔ (parser text).hasError = true := by
  have parsed : (Language.parse (⟨parser⟩ : Backend) text).1 = parseTree text (parser text) := rfl
  by_cases flagged : (parser text).hasError = true
  · simp [parsed, parseTree, flagged]
  · simp [parsed, parseTree, flagged]

/-! ## Sessions -/

/-- Behind a text, the diagnostics that go under the name of syntax errors are those of the checker
of syntax errors. -/
theorem SessionOf.exists_syntax_diagnostic_iff (own : SessionOf parser s)
    (nonempty : text.isEmpty = false) (config : Config) :
    (∃ d ∈ (s.setSourceText text config).diagnostics, d.origin = "syntax") ↔
      syntaxErrors text (parser text) ≠ [] := by
  have reports := own.reports_setSourceText nonempty config
  constructor
  · rintro ⟨d, hd, origin⟩ nothing
    rcases Diagnostic.mem_merge.1 hd with byTokenizer | ⟨list, hlist, hd⟩
    · have other : d.origin = tokenizerOrigin :=
        Classifier.origin_of_mem_errors_classify byTokenizer
      rw [origin] at other
      exact absurd other (by decide)
    · rw [reports] at hlist
      rcases exists_of_mem_checkAll hlist with ⟨checker, hchecker, reported⟩
      rcases List.mem_map.1 hchecker with ⟨concern, -, rfl⟩
      have name := PythonChecker.origin_of_mem_check reported hd
      rw [origin] at name
      have isSyntax : concern = .syntaxErrors := Concern.eq_syntaxErrors_of_checkerName name.symm
      subst isSyntax
      -- The list is that of the checker of syntax errors, which has nothing to report.
      have empty : list = (syntaxErrors text (parser text)).map ({ · with origin := "syntax" }) :=
        (Option.some.inj reported).symm
      rw [empty, nothing] at hd
      cases hd
  · intro something
    rcases List.exists_mem_of_ne_nil _ something with ⟨e, he⟩
    let named := (syntaxErrors text (parser text)).map ({ · with origin := "syntax" })
    have among : named ∈ (s.setSourceText text config).reports := by
      have member : PythonChecker.new parser .syntaxErrors ∈ Concern.all.map (.new parser) :=
        List.mem_map_of_mem List.mem_cons_self
      rw [reports]
      exact mem_checkAll_of_mem member rfl rfl
    refine ⟨{ e with origin := "syntax" }, ?_, rfl⟩
    exact Diagnostic.mem_merge.2 (.inr ⟨named, among, List.mem_map_of_mem he⟩)

/-- The checker of syntax errors reports the faults of a tree that lie in no other, one diagnostic
for each and in pre-order. So it reports something just when the text does not parse, and then the
checker of unused imports reports nothing. A session that is given such a text, and no other, has a
diagnostic of that origin; it keeps its tree of scopes and has no hints. -/
theorem rejected_iff_explained (parser : Parser) (text : String)
    (flags : (parser text).FlagsFaults) :
    let lines := physicalLines text.toList
    let found := (parser text).outermostFaults.map fun n =>
      nodeDiagnostic text.toList lines n n.faultMessage
    let reported := fun (concern : Concern) (list : List Diagnostic) =>
      ∀ (checker : PythonChecker) (context : CheckContext), checker.parser = parser →
        checker.concern = concern → (report (configure checker text context)).1 = .ok list
    reported .syntaxErrors found ∧
      (found ≠ [] ↔ (Language.parse (⟨parser⟩ : Backend) text).1 = none) ∧
      (found ≠ [] → reported .unusedImports []) ∧
      ∀ (config : Config) (calls : List Call) (id : SessionId)
        (s : Session Backend PythonChecker),
        let w := ((workspace parser config).run calls).2
        w.session id = .ok s → text ≠ "" →
          ∃ after, (w.setSourceText id text).2.session id = .ok after ∧
            ((∃ d ∈ after.diagnostics, d.origin = "syntax") ↔
              (Language.parse s.backend text).1 = none) ∧
            ((Language.parse s.backend text).1 = none →
              after.scopes = s.scopes ∧ after.hints = []) := by
  intro lines found reported
  have foundEq : syntaxErrors text (parser text) = found := syntaxErrors_eq_map flags
  have rejected : found ≠ [] ↔ (parser text).hasError = true :=
    foundEq ▸ syntaxErrors_ne_nil_iff flags
  refine ⟨?_, rejected.trans parse_eq_none_iff.symm, ?_, ?_⟩
  · rintro ⟨concern, own, old, limit⟩ context rfl rfl
    rw [← foundEq]
    rfl
  · rintro something ⟨concern, own, old, limit⟩ context rfl rfl
    have silent : unusedImports text (own text) = [] := by
      simp [unusedImports, rejected.1 something]
    rw [← silent]
    rfl
  · intro config calls id s w live nonempty
    have own : SessionOf parser s := (workspaceOf_run parser config calls).sessions id s live
    have nonempty' : text.isEmpty = false := by simpa using nonempty
    refine ⟨s.setSourceText text w.config, Workspace.session_setSourceText live text, ?_, ?_⟩
    · rw [own.exists_syntax_diagnostic_iff nonempty', foundEq, rejected, own.backend,
        parse_eq_none_iff]
    · intro fails
      rw [own.backend, parse_eq_none_iff] at fails
      have noTree : parseTree text (parser text) = none := by simp [parseTree, fails]
      have noParse : (Language.parse s.backend text).1 = none := by
        rw [own.backend]
        exact noTree
      exact ⟨by simp [own.scopes_setSourceText, noTree], by simp [Session.setSourceText, noParse]⟩

/-- A parser of classes with names of one letter. Of a text with a bracket it says that the first
character is an error, inside of which a name is missing, and that the bracket is not closed. -/
def bracketParser (text : String) : Node :=
  let length := byteLength text.toList
  if text.toList.contains '(' then
    .mk ⟨"module", true, false, false, true, "", 0, length⟩
      [.mk ⟨"ERROR", true, true, false, true, "", 0, 1⟩
          [.mk ⟨"identifier", true, false, true, true, "", 1, 1⟩ []],
        .mk ⟨"call", true, false, false, true, "", 1, length⟩
          [.mk ⟨"identifier", true, false, false, false, "function", 1, 2⟩ [],
            .mk ⟨")", false, false, true, true, "", length, length⟩ []]]
  else
    .mk ⟨"module", true, false, false, false, "", 0, length⟩
      [.mk ⟨"class_definition", true, false, false, false, "", 0, length⟩
        [.mk ⟨"identifier", true, false, false, false, "name", 6, 7⟩ []]]

/-- The name that is missing inside the error is not named, the bracket is; the class of the text
before stays. -/
theorem rejected_iff_explained_bracket :
    let w := ((workspace bracketParser Config.default).run
      [.create, .setSourceText ⟨1⟩ "class A: x"]).2
    (bracketParser "$f(").FlagsFaults ∧
      (bracketParser "$f(").outermostFaults.map Node.faultMessage =
        ["invalid syntax", "missing )"] ∧
      ∃ s after, w.session ⟨1⟩ = .ok s ∧
        (w.setSourceText ⟨1⟩ "$f(").2.session ⟨1⟩ = .ok after ∧
        (∃ d ∈ after.diagnostics, d.origin = "syntax") ∧
        after.scopes = s.scopes ∧ after.hints = [] := by
  intro w
  have flags : (bracketParser "$f(").FlagsFaults := by decide +kernel
  have faults : (bracketParser "$f(").outermostFaults.map Node.faultMessage =
      ["invalid syntax", "missing )"] := by decide +kernel
  have answered : (w.ask ⟨1⟩ Session.sourceText).toOption = some "class A: x" := by
    decide +kernel
  rcases Workspace.exists_of_ask answered with ⟨s, live, -⟩
  rcases rejected_iff_explained bracketParser "$f(" flags with ⟨-, rejected, -, sessions⟩
  rcases sessions _ _ _ s live (by decide) with ⟨after, found, explained, kept⟩
  have own : s.backend = ⟨bracketParser⟩ :=
    ((workspaceOf_run bracketParser _ _).sessions ⟨1⟩ s live).backend
  have fails : (Language.parse s.backend "$f(").1 = none := by
    rw [own, ← rejected]
    intro nothing
    rw [List.map_eq_nil_iff.1 nothing] at faults
    cases faults
  exact ⟨flags, faults, s, after, live, found, explained.2 fails, kept fails⟩

end Python
end EditorAnalysis
