import EditorAnalysis.Proofs.Text.Lines
import EditorAnalysis.Proofs.Text.Runs
import EditorAnalysis.Python.Checkers

/-!
# What the checker of layout reports

The rules of layout, one by one: when a row or the end of a text breaks it, and what is then
reported. The checker reports what the rules say, row by row, and nothing else. The runs of white
space that the rules speak of are also those that a search for their patterns finds.
-/

namespace EditorAnalysis
namespace Python

open Text

/-! ## Rules -/

/-- A row may have so many characters; those behind the limit are reported. -/
inductive ReportsLength (limit row : Nat) (line : List Char) : List Diagnostic → Prop
  | within : line.length ≤ limit → ReportsLength limit row line []
  | beyond : limit < line.length →
      ReportsLength limit row line
        [layoutFault row limit (line.length - limit)
          s!"E501 line too long ({line.length} > {limit} characters)"]

/-- The spaces and tabs in front of a row may not have a tab among them; they are reported
together. -/
inductive ReportsTabs (row : Nat) (line : List Char) : List Diagnostic → Prop
  | spaces {run : List Char} : IsFrontRun (fun c => c = ' ' ∨ c = '\t') line run → '\t' ∉ run →
      ReportsTabs row line []
  | tabs {run : List Char} : IsFrontRun (fun c => c = ' ' ∨ c = '\t') line run → '\t' ∈ run →
      ReportsTabs row line [layoutFault row 0 run.length "W191 indentation contains tabs"]

/-- A row may not end in spaces, tabs or form feeds; all that it ends in are reported. -/
inductive ReportsTrailing (row : Nat) (line : List Char) : List Diagnostic → Prop
  | clean : IsBackRun (fun c => c = ' ' ∨ c = '\t' ∨ c = '\x0c') line [] →
      ReportsTrailing row line []
  | blank : IsBackRun (fun c => c = ' ' ∨ c = '\t' ∨ c = '\x0c') line line → line ≠ [] →
      ReportsTrailing row line [layoutFault row 0 line.length "W293 whitespace on blank line"]
  | trailing {front run : List Char} : line = front ++ run → front ≠ [] → run ≠ [] →
      IsBackRun (fun c => c = ' ' ∨ c = '\t' ∨ c = '\x0c') line run →
      ReportsTrailing row line
        [layoutFault row front.length run.length "W291 trailing whitespace"]

/-- What is reported on a row, rule by rule. -/
inductive ReportsRow (limit row : Nat) (line : List Char) : List Diagnostic → Prop
  | mk {long tabs trailing : List Diagnostic} : ReportsLength limit row line long →
      ReportsTabs row line tabs → ReportsTrailing row line trailing →
      ReportsRow limit row line (long ++ tabs ++ trailing)

/-- A text that is not empty has to end in a line feed; if it does not, its last character is
reported. -/
inductive ReportsEnd (text : List Char) : List Diagnostic → Prop
  | whole : text = [] ∨ text.getLast? = some '\n' → ReportsEnd text []
  | cutOff {above : List (List Char)} {front : List Char} {last : Char} :
      text ≠ [] → text.getLast? ≠ some '\n' →
      (physicalLines text).map PhysicalLine.content = above ++ [front ++ [last]] →
      ReportsEnd text
        [layoutFault above.length front.length 1 "W292 no newline at end of file"]

/-- What is reported on a text: one list for each row, and then what there is to say of the end. -/
inductive ReportsText (limit : Nat) (text : List Char) : List Diagnostic → Prop
  | mk {rows : List (List Diagnostic)} {atEnd : List Diagnostic} :
      rows.length = (physicalLines text).length →
      (∀ row line list, (physicalLines text)[row]? = some line → rows[row]? = some list →
        ReportsRow limit row line.content list) →
      ReportsEnd text atEnd → ReportsText limit text (rows.flatten ++ atEnd)

variable {limit row : Nat} {line text : List Char} {list : List Diagnostic}

/-! ## Rows -/

theorem reportsLength_iff :
    ReportsLength limit row line list ↔ list = longLineFault limit row line := by
  unfold longLineFault
  constructor
  · rintro (within | beyond)
    · rw [if_neg (Nat.not_lt.2 within)]
    · rw [if_pos beyond]
  · rintro rfl
    split
    case isTrue beyond => exact .beyond beyond
    case isFalse within => exact .within (Nat.not_lt.1 within)

/-- The class of spaces and tabs. -/
def isIndent (c : Char) : Bool :=
  c == ' ' || c == '\t'

theorem isIndent_iff (c : Char) : isIndent c = true ↔ c = ' ' ∨ c = '\t' := by
  simp [isIndent]

theorem isBlank_iff (c : Char) : isBlank c = true ↔ c = ' ' ∨ c = '\t' ∨ c = '\x0c' := by
  simp [isBlank, or_assoc]

theorem reportsTabs_iff : ReportsTabs row line list ↔ list = tabFault row line := by
  have isRun : IsFrontRun (fun c => c = ' ' ∨ c = '\t') line (line.takeWhile isIndent) :=
    (isFrontRun_iff isIndent_iff).2 rfl
  change _ ↔ list = if '\t' ∈ line.takeWhile isIndent then _ else []
  constructor
  · rintro (⟨run, noTab⟩ | ⟨run, tab⟩)
    · rw [(isFrontRun_iff isIndent_iff).1 run] at noTab
      rw [if_neg noTab]
    · rw [(isFrontRun_iff isIndent_iff).1 run] at tab ⊢
      rw [if_pos tab]
      rfl
  · rintro rfl
    split
    case isTrue tab => exact .tabs isRun tab
    case isFalse noTab => exact .spaces isRun noTab

/-- The fault of a row that ends in white space, in terms of the run that it ends with. -/
theorem trailingBlankFault_eq (row : Nat) (line : List Char) :
    trailingBlankFault row line =
      if line.rtakeWhile isBlank = [] then []
      else
        [layoutFault row (line.length - (line.rtakeWhile isBlank).length)
          (line.rtakeWhile isBlank).length
          (if line.rtakeWhile isBlank = line then "W293 whitespace on blank line"
            else "W291 trailing whitespace")] := by
  have length : (line.reverse.takeWhile isBlank).length = (line.rtakeWhile isBlank).length := by
    rw [List.rtakeWhile, List.length_reverse]
  have whole : (line.rtakeWhile isBlank).length = line.length ↔ line.rtakeWhile isBlank = line :=
    ⟨(List.rtakeWhile_suffix isBlank line).eq_of_length, fun same => by rw [same]⟩
  simp only [trailingBlankFault, length, List.length_eq_zero_iff, whole]

theorem reportsTrailing_iff :
    ReportsTrailing row line list ↔ list = trailingBlankFault row line := by
  have isRun : IsBackRun (fun c => c = ' ' ∨ c = '\t' ∨ c = '\x0c') line
      (line.rtakeWhile isBlank) := (isBackRun_iff isBlank_iff).2 rfl
  rw [trailingBlankFault_eq]
  -- A line ends in one longest run only, so each rule speaks of the run that the fault speaks of.
  constructor
  · rintro (run | ⟨run, notEmpty⟩ | ⟨split, notWhole, notEmpty, run⟩)
    · rw [← (isBackRun_iff isBlank_iff).1 run, if_pos rfl]
    · rw [← (isBackRun_iff isBlank_iff).1 run, if_neg notEmpty, if_pos rfl, Nat.sub_self]
    · rw [← (isBackRun_iff isBlank_iff).1 run, if_neg notEmpty, split,
        if_neg (by simpa using notWhole), List.length_append, Nat.add_sub_cancel]
  · rintro rfl
    by_cases clean : line.rtakeWhile isBlank = []
    · rw [clean] at isRun
      rw [if_pos clean]
      exact .clean isRun
    · rw [if_neg clean]
      by_cases whole : line.rtakeWhile isBlank = line
      · rw [whole] at isRun clean
        rw [whole, if_pos rfl, Nat.sub_self]
        exact .blank isRun clean
      · rcases List.rtakeWhile_suffix isBlank line with ⟨front, split⟩
        have notEmpty : front ≠ [] := by
          rintro rfl
          exact whole split
        have start : line.length - (line.rtakeWhile isBlank).length = front.length := by
          have both := congrArg List.length split
          rw [List.length_append] at both
          exact Nat.sub_eq_of_eq_add both.symm
        rw [if_neg whole, start]
        exact .trailing split.symm notEmpty clean isRun

theorem reportsRow_iff : ReportsRow limit row line list ↔ list = rowFaults limit row line := by
  constructor
  · rintro ⟨long, tabs, trailing⟩
    rw [reportsLength_iff.1 long, reportsTabs_iff.1 tabs, reportsTrailing_iff.1 trailing]
    rfl
  · rintro rfl
    exact .mk (reportsLength_iff.2 rfl) (reportsTabs_iff.2 rfl) (reportsTrailing_iff.2 rfl)

/-! ## Patterns -/

/-- The pattern of an indentation with a tab in it, to be matched at the front of a row. -/
def tabPattern : List Piece := [.many isIndent, .one (· == '\t'), .many isIndent]

/-- The pattern of white space at the end of a row. -/
def trailingPattern : List Piece := [.one isBlank, .many isBlank, .atEnd]

/-- The tabs of an indentation are found by matching a pattern. -/
theorem tabFault_eq_match (row : Nat) (line : List Char) :
    tabFault row line =
      ((matchFront? tabPattern line).map fun length =>
        layoutFault row 0 length "W191 indentation contains tabs").toList := by
  have inClass (c : Char) (isTab : (c == '\t') = true) : isIndent c = true :=
    (isIndent_iff c).2 (.inr (eq_of_beq isTab))
  have hasTab : (line.takeWhile isIndent).any (· == '\t') = true ↔
      '\t' ∈ line.takeWhile isIndent := by
    simp
  change (if '\t' ∈ line.takeWhile isIndent then _ else []) = _
  rw [tabPattern, matchFront?_many_one_many inClass]
  by_cases tab : '\t' ∈ line.takeWhile isIndent
  · rw [if_pos tab, if_pos (hasTab.2 tab)]
    rfl
  · rw [if_neg tab, if_neg fun any => tab (hasTab.1 any)]
    rfl

/-- White space at the end of a row is found by searching for a pattern. -/
theorem trailingBlankFault_eq_search (row : Nat) (line : List Char) :
    trailingBlankFault row line =
      ((search? trailingPattern line).map fun (start, length) =>
        layoutFault row start length
          (if start = 0 then "W293 whitespace on blank line"
            else "W291 trailing whitespace")).toList := by
  have start : line.length - (line.rtakeWhile isBlank).length = 0 ↔
      line.rtakeWhile isBlank = line := by
    rw [Nat.sub_eq_zero_iff_le]
    exact ⟨(List.rtakeWhile_suffix isBlank line).eq_of_length_le,
      fun same => Nat.le_of_eq (by rw [same])⟩
  rw [trailingBlankFault_eq, trailingPattern, search?_one_many_atEnd]
  by_cases clean : line.rtakeWhile isBlank = []
  · rw [if_pos clean, if_pos clean]
    rfl
  · rw [if_neg clean, if_neg clean]
    simp only [Option.map_some, Option.toList_some, start]

/-- The faults of a row, with the runs of characters searched for by their patterns. -/
def searchRow (limit row : Nat) (line : List Char) : List Diagnostic :=
  longLineFault limit row line ++
    ((matchFront? tabPattern line).map fun length =>
      layoutFault row 0 length "W191 indentation contains tabs").toList ++
    ((search? trailingPattern line).map fun (start, length) =>
      layoutFault row start length
        (if start = 0 then "W293 whitespace on blank line"
          else "W291 trailing whitespace")).toList

theorem rowFaults_eq_searchRow (limit row : Nat) (line : List Char) :
    rowFaults limit row line = searchRow limit row line := by
  rw [rowFaults, tabFault_eq_match, trailingBlankFault_eq_search, searchRow]

/-! ## Texts -/

theorem rowsFaults_eq_flatten (limit row : Nat) (lines : List PhysicalLine) :
    rowsFaults limit row lines =
      (lines.mapIdx fun i line => rowFaults limit (row + i) line.content).flatten := by
  induction lines generalizing row with
  | nil => rfl
  | cons line rest ih =>
      rw [rowsFaults, ih, List.mapIdx_cons, List.flatten_cons]
      simp only [Nat.add_zero, Nat.add_assoc, Nat.add_comm 1]

/-- A text without a line feed at its end has a last line, and that is not empty. -/
theorem exists_lastLine (cutOff : ¬ WholeLines text) :
    ∃ above front last, physicalLines text = above ++ [⟨front ++ [last], false⟩] := by
  rcases exists_wholeLines_append text with ⟨whole, line, rfl, isWhole, noBreak⟩
  rcases List.eq_nil_or_concat line with rfl | ⟨front, last, rfl⟩
  · rw [List.append_nil] at cutOff
    exact absurd isWhole cutOff
  · refine ⟨physicalLines whole, front, last, ?_⟩
    rw [List.concat_eq_append] at noBreak ⊢
    rw [physicalLines_append isWhole, physicalLines_of_not_mem noBreak]
    cases front <;> rfl

theorem endOfTextFault_of_wholeLines (whole : WholeLines text) :
    endOfTextFault (physicalLines text) = [] := by
  unfold endOfTextFault
  split
  case h_1 last isLast =>
    rw [if_pos (terminated_of_mem_physicalLines whole (List.mem_of_getLast? isLast))]
  case h_2 => rfl

theorem endOfTextFault_concat (above : List PhysicalLine) (front : List Char) (last : Char) :
    endOfTextFault (above ++ [⟨front ++ [last], false⟩]) =
      [layoutFault above.length front.length 1 "W292 no newline at end of file"] := by
  simp [endOfTextFault]

theorem reportsEnd_iff : ReportsEnd text list ↔ list = endOfTextFault (physicalLines text) := by
  constructor
  · rintro (whole | @⟨above, front, last, notEmpty, notEnded, contents⟩)
    · exact (endOfTextFault_of_wholeLines whole).symm
    · have cutOff : ¬ WholeLines text := not_or.2 ⟨notEmpty, notEnded⟩
      rcases exists_lastLine cutOff with ⟨rows, front', last', lines⟩
      -- The last line of the text is the one that the report speaks of.
      rw [lines, List.map_append, List.map_singleton] at contents
      rcases List.append_inj' contents rfl with ⟨rfl, same⟩
      rcases List.append_inj' (List.singleton_injective same) rfl with ⟨rfl, -⟩
      rw [lines, endOfTextFault_concat, List.length_map]
  · rintro rfl
    by_cases whole : WholeLines text
    · rw [endOfTextFault_of_wholeLines whole]
      exact .whole whole
    · rcases exists_lastLine whole with ⟨rows, front, last, lines⟩
      have contents : (physicalLines text).map PhysicalLine.content =
          rows.map PhysicalLine.content ++ [front ++ [last]] := by
        rw [lines, List.map_append, List.map_singleton]
      rw [lines, endOfTextFault_concat, ← List.length_map PhysicalLine.content]
      exact .cutOff (not_or.1 whole).1 (not_or.1 whole).2 contents

theorem reportsText_iff : ReportsText limit text list ↔
    list = rowsFaults limit 0 (physicalLines text) ++ endOfTextFault (physicalLines text) := by
  rw [rowsFaults_eq_flatten]
  simp only [Nat.zero_add]
  constructor
  · rintro ⟨length, reported, atEnd⟩
    rw [reportsEnd_iff.1 atEnd]
    -- There are as many lists as rows, and each is the one of its row.
    congr 2
    apply List.ext_getElem?
    intro row
    rw [List.getElem?_mapIdx]
    rcases Nat.lt_or_ge row (physicalLines text).length with inside | behind
    · have insideRows := length.symm ▸ inside
      rw [List.getElem?_eq_getElem inside, List.getElem?_eq_getElem insideRows, Option.map_some,
        reportsRow_iff.1 (reported row _ _ (List.getElem?_eq_getElem inside)
          (List.getElem?_eq_getElem insideRows))]
    · rw [List.getElem?_eq_none behind, List.getElem?_eq_none (length.symm ▸ behind)]
      rfl
  · rintro rfl
    refine .mk (List.length_mapIdx) ?_ (reportsEnd_iff.2 rfl)
    intro row line list found shown
    rw [List.getElem?_mapIdx, found, Option.map_some, Option.some.injEq] at shown
    exact reportsRow_iff.2 shown.symm

/-- The checker of layout, whatever it was told before, reports on a text what the rules say, in
their order, and nothing else. These are the faults that a search for the patterns in each row
finds, with that of the end behind them. -/
theorem report_follows_rules (parser : Syntax.Parser) (before text : String)
    (limitBefore : Nat) (context : CheckContext) :
    let checker : PythonChecker := ⟨.layout, parser, before, limitBefore⟩
    let limit := context.config.maxLineLength
    let lines := physicalLines text.toList
    ∃ reports,
      (Checker.report (Checker.configure checker text context)).1 = .ok reports ∧
        (∀ others, ReportsText limit text.toList others ↔ others = reports) ∧
        reports = (lines.mapIdx fun row line => searchRow limit row line.content).flatten ++
          endOfTextFault lines := by
  intro checker limit lines
  refine ⟨layoutFaults limit text, rfl, fun others => reportsText_iff, ?_⟩
  calc
    layoutFaults limit text
        = rowsFaults limit 0 lines ++ endOfTextFault lines := rfl
    _ = _ := by simp only [rowsFaults_eq_flatten, rowFaults_eq_searchRow, Nat.zero_add]

end Python
end EditorAnalysis
