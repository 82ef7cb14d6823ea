import EditorAnalysis.Proofs.Checker
import EditorAnalysis.Proofs.Classifier.Reload
import EditorAnalysis.Proofs.Python.Sessions
import EditorAnalysis.Proofs.Syntax.Span
import EditorAnalysis.Proofs.Workspace.Visibility

/-!
# Diagnostics on characters

The checkers of Python report nothing that does not lie on the text that they were given. So right
after a text is set, what is marked in it are exactly the characters that a diagnostic names: none
is passed over because it does not fit into its row.
-/

namespace EditorAnalysis

open Text

namespace Python

open Syntax

variable {d : Diagnostic} {limit row : Nat} {line : List Char}

/-! ## Layout -/

/-- Whether a diagnostic lies on characters of one row, and on one at least. -/
structure OnRow (row : Nat) (line : List Char) (d : Diagnostic) : Prop where
  line_eq : d.line = row
  fits : d.start + d.length ≤ line.length
  visible : 1 ≤ d.length

theorem onRow_of_mem_longLineFault (h : d ∈ longLineFault limit row line) : OnRow row line d := by
  unfold longLineFault at h
  split at h
  case isTrue long =>
    rcases List.mem_singleton.1 h with rfl
    refine ⟨rfl, ?_, Nat.sub_pos_of_lt long⟩
    exact Nat.le_of_eq (Nat.add_sub_cancel' (Nat.le_of_lt long))
  case isFalse => cases h

theorem onRow_of_mem_tabFault (h : d ∈ tabFault row line) : OnRow row line d := by
  simp only [tabFault] at h
  split at h
  case isTrue tab =>
    rcases List.mem_singleton.1 h with rfl
    refine ⟨rfl, ?_, List.length_pos_of_mem tab⟩
    simpa [layoutFault] using (List.takeWhile_sublist _).length_le
  case isFalse => cases h

theorem onRow_of_mem_trailingBlankFault (h : d ∈ trailingBlankFault row line) :
    OnRow row line d := by
  have upTo : (line.reverse.takeWhile isBlank).length ≤ line.length := by
    simpa using (List.takeWhile_sublist isBlank (l := line.reverse)).length_le
  simp only [trailingBlankFault] at h
  split at h
  case isTrue => cases h
  case isFalse some_ =>
    rcases List.mem_singleton.1 h with rfl
    refine ⟨rfl, ?_, Nat.pos_of_ne_zero some_⟩
    exact Nat.le_of_eq (Nat.sub_add_cancel upTo)

theorem onRow_of_mem_rowFaults (h : d ∈ rowFaults limit row line) : OnRow row line d := by
  rcases List.mem_append.1 h with others | trailing
  · rcases List.mem_append.1 others with long | tab
    · exact onRow_of_mem_longLineFault long
    · exact onRow_of_mem_tabFault tab
  · exact onRow_of_mem_trailingBlankFault trailing

theorem exists_line_of_mem_rowsFaults {lines : List PhysicalLine}
    (h : d ∈ rowsFaults limit row lines) :
    ∃ i line, lines[i]? = some line ∧ d ∈ rowFaults limit (row + i) line.content := by
  induction lines generalizing row with
  | nil => cases h
  | cons line rest ih =>
      rcases List.mem_append.1 h with here | below
      · exact ⟨0, line, rfl, here⟩
      · rcases ih below with ⟨i, other, found, fault⟩
        refine ⟨i + 1, other, found, ?_⟩
        rwa [Nat.add_right_comm, Nat.add_assoc] at fault

theorem landsIn_of_mem_rowsFaults {lines : List PhysicalLine} (h : d ∈ rowsFaults limit 0 lines) :
    d.LandsIn lines := by
  rcases exists_line_of_mem_rowsFaults h with ⟨i, line, found, fault⟩
  rw [Nat.zero_add] at fault
  rcases onRow_of_mem_rowFaults fault with ⟨rfl, fits, visible⟩
  refine ⟨?_, ?_, ?_⟩
  · exact Nat.le_of_lt (List.getElem?_eq_some_iff.1 found).1
  · intro other same
    cases found.symm.trans same
    exact fits
  · intro other _
    exact .inl visible

theorem landsIn_of_mem_endOfTextFault {lines : List PhysicalLine} (h : d ∈ endOfTextFault lines) :
    d.LandsIn lines := by
  unfold endOfTextFault at h
  split at h
  case h_1 last found =>
    split at h
    · cases h
    · rcases List.mem_singleton.1 h with rfl
      have isLast : lines[lines.length - 1]? = some last := by
        rwa [← List.getLast?_eq_getElem?]
      refine ⟨Nat.sub_le _ _, ?_, ?_⟩
      · intro other same
        cases isLast.symm.trans same
        change last.content.length - 1 + min last.content.length 1 ≤ _
        omega
      · -- The row may be empty, and then there is no character to mark.
        intro other same
        cases isLast.symm.trans same
        change 1 ≤ min last.content.length 1 ∨ last.content.length - 1 = _
        omega
  case h_2 => cases h

/-! ## Checkers -/

theorem landsIn_of_mem_diagnostics {checker : PythonChecker} (h : d ∈ checker.diagnostics) :
    d.LandsIn (physicalLines checker.text.toList) := by
  rcases checker with ⟨concern, parser, text, maxLineLength⟩
  cases concern with
  | syntaxErrors =>
      rcases List.mem_map.1 h with ⟨⟨n, message⟩, -, rfl⟩
      exact nodeDiagnostic_landsIn _ n message
  | unusedImports =>
      have h : d ∈ unusedImports text (parser text) := h
      unfold unusedImports at h
      split at h
      · cases h
      · rcases List.mem_map.1 h with ⟨⟨n, bound⟩, -, rfl⟩
        exact nodeDiagnostic_landsIn _ n _
  | layout =>
      rcases List.mem_append.1 h with inRow | atEnd
      · exact landsIn_of_mem_rowsFaults inRow
      · exact landsIn_of_mem_endOfTextFault atEnd

/-- A checker of Python never fails, and all that it reports on a text lies on the text. -/
theorem exists_check (checker : PythonChecker) (text : String) (context : CheckContext) :
    ∃ list, (Checker.check checker text context).1 = some list ∧
      ∀ d ∈ list, d.LandsIn (physicalLines text.toList) := by
  refine ⟨_, rfl, ?_⟩
  intro d hd
  rcases List.mem_map.1 hd with ⟨e, he, rfl⟩
  have lands : e.LandsIn (physicalLines text.toList) := landsIn_of_mem_diagnostics he
  exact ⟨lands.line_le, lands.fits, lands.visible⟩

/-! ## Sessions -/

section

variable {s : Session Backend PythonChecker} {text : String} {config : Config} {r : Row}

/-- The rows of a session that was given a text are the lines of the text. -/
theorem exists_line_of_row (h : (s.setSourceText text config).classifier.rows[row]? = some r) :
    ∃ line, (physicalLines text.toList)[row]? = some line ∧
      r.text.length = line.content.length := by
  have texts : (s.setSourceText text config).classifier.lineTexts =
      rowTexts (physicalLines text.toList) := Classifier.lineTexts_load s.classifier text
  have shown := congrArg (·[row]?) texts
  simp only [Classifier.lineTexts, rowTexts, List.getElem?_map, h, Option.map_some] at shown
  rcases Option.map_eq_some_iff.1 shown.symm with ⟨line, found, same⟩
  refine ⟨line, found, ?_⟩
  rw [← same, String.length_ofList]

theorem landsIn_of_mem_reports {list : List Diagnostic}
    (hlist : list ∈ (s.setSourceText text config).reports) (hd : d ∈ list) :
    d.LandsIn (physicalLines text.toList) := by
  by_cases empty : text.isEmpty = true
  · simp [Session.setSourceText, empty] at hlist
  · have checked : list ∈
        (Checker.checkAll text ⟨s.sourceDirectory, config⟩ s.checkers).1 := by
      simpa [Session.setSourceText, empty] using hlist
    rcases Checker.exists_of_mem_checkAll checked with ⟨checker, -, reported⟩
    rcases exists_check checker text ⟨s.sourceDirectory, config⟩ with ⟨same, again, lands⟩
    cases reported.symm.trans again
    exact lands d hd

/-- Right after a text is set, every diagnostic of a row that the text has fits into the row. -/
theorem fits_of_mem_diagnostics (hd : d ∈ (s.setSourceText text config).diagnostics)
    (hr : (s.setSourceText text config).classifier.rows[d.line]? = some r) :
    d.start + d.length ≤ r.text.length := by
  have sound : (s.setSourceText text config).classifier.IsSound :=
    Classifier.isSound_load s.classifier text
  rcases Diagnostic.mem_merge.1 hd with own | ⟨list, hlist, hd⟩
  · rcases sound.exists_row_of_mem_errors own with ⟨same, found, diagnostic⟩
    cases hr.symm.trans found
    exact (sound d.line r hr).diagnostic_fits d diagnostic
  · rcases exists_line_of_row hr with ⟨line, found, length⟩
    rw [length]
    exact (landsIn_of_mem_reports hlist hd).fits line found

end

/-- All that the checkers report on a text lies on the text. So right after a text is set in a
workspace, a character is marked just when a diagnostic reaches over it, and no diagnostic of a row
that the text has is left out. -/
theorem diagnostics_land :
    (∀ (checker : PythonChecker) (text : String) (context : CheckContext),
      ∃ list, (Checker.check checker text context).1 = some list ∧
        ∀ d ∈ list, d.LandsIn (physicalLines text.toList)) ∧
    ∀ (parser : Parser) (config : Config) (calls : List Call) (id : SessionId)
      (s : Session Backend PythonChecker) (text : String),
      let w := ((workspace parser config).run calls).2
      w.session id = .ok s →
        ∃ after, (w.setSourceText id text).2.session id = .ok after ∧
          (∀ (row column : Nat) (classes : List CharClass) (c : CharClass),
            after.lineClasses[row]? = some classes → classes[column]? = some c →
              (c.hasError = true ↔
                ∃ d ∈ after.diagnostics, d.line = row ∧ d.start ≤ column ∧ column < d.stop)) ∧
          ∀ d ∈ after.diagnostics, ∀ classes, after.lineClasses[d.line]? = some classes →
            d.start + d.length ≤ classes.length ∧
              (classes.length ≤ maxWord → d.stop = d.start + d.length) := by
  refine ⟨exists_check, ?_⟩
  intro parser config calls id s text w live
  have sound : (s.setSourceText text w.config).classifier.IsSound :=
    Classifier.isSound_load s.classifier text
  refine ⟨s.setSourceText text w.config, Workspace.session_setSourceText live text, ?_, ?_⟩
  · intro row column classes c hclasses hc
    exact Session.hasError_lineClasses_iff sound (fun d hd r => fits_of_mem_diagnostics hd)
      hclasses hc
  · intro d hd classes hclasses
    rw [Session.getElem?_lineClasses] at hclasses
    rcases Option.map_eq_some_iff.1 hclasses with ⟨r, hr, rfl⟩
    have fits := fits_of_mem_diagnostics hd hr
    rw [Diagnostic.length_markedRow, (sound d.line r hr).length_classes]
    refine ⟨fits, ?_⟩
    intro short
    exact Nat.min_eq_left (Nat.le_trans fits short)

/-- A parser that finds an error across the first two rows and misses a bracket at the end. -/
def brokenParser (text : String) : Node :=
  let length := byteLength text.toList
  .mk ⟨"module", true, false, false, true, "", 0, length⟩
    [.mk ⟨"ERROR", true, true, false, true, "", 2, 7⟩ [],
      .mk ⟨")", false, false, true, true, "", length, length⟩ []]

/-- The error starts behind a character of two bytes, the bracket is missing behind the last row, and
every rule of layout but that of the last line break is broken. -/
theorem diagnostics_land_broken :
    let w := ((workspace brokenParser ⟨true, 2⟩).run
      [.create, .setSourceText ⟨1⟩ "x", .replaceLine ⟨1⟩ 0 "'"]).2
    ∃ s after, w.session ⟨1⟩ = .ok s ∧
      (w.setSourceText ⟨1⟩ "é(x \r\n\t'y\r\n").2.session ⟨1⟩ = .ok after ∧
      ∀ (row column : Nat) (classes : List CharClass) (c : CharClass),
        after.lineClasses[row]? = some classes → classes[column]? = some c →
          (c.hasError = true ↔
            ∃ d ∈ after.diagnostics, d.line = row ∧ d.start ≤ column ∧ column < d.stop) := by
  intro w
  have answered : (w.ask ⟨1⟩ Session.sourceText).toOption = some "'" := by decide +kernel
  rcases Workspace.exists_of_ask answered with ⟨s, live, -⟩
  rcases diagnostics_land.2 _ _ _ _ s "é(x \r\n\t'y\r\n" live with ⟨after, found, marked, -⟩
  exact ⟨s, after, live, found, marked⟩

end Python
end EditorAnalysis
