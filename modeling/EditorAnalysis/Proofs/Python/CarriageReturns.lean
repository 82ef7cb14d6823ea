import EditorAnalysis.Classifier
import EditorAnalysis.Proofs.Text.LineBreaks
import EditorAnalysis.Python.Checkers
import EditorAnalysis.Python.Tokenizer

/-!
# Line feeds with and without carriage returns

The tokens of a text, the table that a classifier makes of it and the faults of its layout depend
on its lines only. So it makes no difference to them whether the line feeds of a text stand alone
or each has a carriage return before it. (Byte offsets are another matter: a tree counts the
carriage returns.)
-/

namespace EditorAnalysis
namespace Python

open Text

/-! ## Texts with the same lines -/

section

variable {text other : String}

theorem tokenize_eq_of_lines (same : physicalLines text.toList = physicalLines other.toList) :
    tokenize text = tokenize other := by
  rw [tokenize, same, tokenize]

theorem load_eq_of_lines (same : physicalLines text.toList = physicalLines other.toList)
    {c : Classifier} (isPython : c.tokenizer = tokenizer) : c.load text = c.load other := by
  have tokens : c.tokenizer.tokenize text = c.tokenizer.tokenize other := by
    rw [isPython]
    exact tokenize_eq_of_lines same
  rw [Classifier.load, same, Classifier.classify, tokens]
  rfl

theorem layoutFaults_eq_of_lines (same : physicalLines text.toList = physicalLines other.toList)
    (limit : Nat) : layoutFaults limit text = layoutFaults limit other := by
  rw [layoutFaults, same, layoutFaults]

end

/-! ## Line feeds behind carriage returns -/

/-- A carriage return put in front of each line feed does not show: not in the tokens nor in the
failure, not in what a classifier holds after a load, not in what the checker of layout reports. -/
theorem analysis_withReturns (text : String) (plain : ¬ ['\r', '\n'] <:+: text.toList) :
    let other := String.ofList (withReturns text.toList)
    tokenize other = tokenize text ∧
      (∀ c : Classifier, c.tokenizer = tokenizer → c.load other = c.load text) ∧
      ∀ (parser : Syntax.Parser) (before : String) (limit : Nat) (context : CheckContext),
        let checker : PythonChecker := ⟨.layout, parser, before, limit⟩
        (Checker.report (Checker.configure checker other context)).1 =
          (Checker.report (Checker.configure checker text context)).1 := by
  intro other
  have same : physicalLines other.toList = physicalLines text.toList := by
    rw [String.toList_ofList, physicalLines_withReturns plain]
  refine ⟨tokenize_eq_of_lines same, fun c => load_eq_of_lines same, ?_⟩
  intro parser before limit context checker
  exact congrArg Except.ok (layoutFaults_eq_of_lines same context.config.maxLineLength)

/-- Empty rows, a string over two rows, carriage returns elsewhere, and a last row that no line feed
ends. -/
theorem analysis_withReturns_openLastRow :
    let text := "if x:\n\n\ty = 'é\\\n\r\r' \n\n# \r"
    let other := "if x:\r\n\r\n\ty = 'é\\\r\n\r\r' \r\n\r\n# \r"
    ¬ ['\r', '\n'] <:+: text.toList ∧ tokenize other = tokenize text ∧
      (Classifier.new tokenizer).load other = (Classifier.new tokenizer).load text ∧
      layoutFaults 4 other = layoutFaults 4 text ∧ (layoutFaults 4 text).length = 5 := by
  intro text other
  have plain : ¬ ['\r', '\n'] <:+: text.toList := by decide
  have isOther : other = String.ofList (withReturns text.toList) := by decide
  rcases analysis_withReturns text plain with ⟨tokens, table, reports⟩
  rw [← isOther] at tokens table reports
  refine ⟨plain, tokens, table _ rfl, ?_, ?_⟩
  · exact Except.ok.inj (reports (fun _ => default) "" 0 ⟨none, ⟨true, 4⟩⟩)
  · decide +kernel

end Python
end EditorAnalysis
