import EditorAnalysis.Proofs.Python.ImportSurvey
import EditorAnalysis.Proofs.Syntax.Span
import EditorAnalysis.Proofs.Text.Offsets

/-!
# The characters that a diagnostic marks

A tree counts bytes of the whole text, a diagnostic characters of one row, and the rows hold no
line breaks. Still the diagnostic about a node that stands in one row marks just the characters of
the node, and a node that ends in a later row is marked up to the end of its first one. So the
report of an unused import marks what it quotes.
-/

namespace EditorAnalysis

open Text

/-- The characters of a line that a diagnostic marks. -/
def Diagnostic.markedIn (line : PhysicalLine) (d : Diagnostic) : List Char :=
  (line.content.drop d.start).take d.length

namespace Syntax

/-- Whether a node stands within one row of a text: on some characters, between two others, and in
front of the line break. -/
structure Node.StandsInRow (source : List Char) (n : Node) : Prop where
  inOrder : n.info.start < n.info.stop
  start_boundary : IsBoundary source n.info.start
  stop_boundary : IsBoundary source n.info.stop
  oneRow : (bytePosition source n.info.stop).row = (bytePosition source n.info.start).row
  start_le : (bytePosition source n.info.start).byteColumn ≤
    byteLength (lineContent (physicalLines source) (bytePosition source n.info.start).row)
  stop_le : (bytePosition source n.info.stop).byteColumn ≤
    byteLength (lineContent (physicalLines source) (bytePosition source n.info.start).row)

variable {source : List Char} {n : Node}

/-! ## Nodes in one row -/

/-- A node that stands in one row has whole lines in front, then the front of its row, then its
own text, which has no line feed. -/
theorem Node.StandsInRow.exists_split (h : n.StandsInRow source) :
    ∃ whole before back, source = whole ++ (before ++ n.text source ++ back) ∧
      WholeLines whole ∧ '\n' ∉ before ∧ '\n' ∉ n.text source ∧ n.text source ≠ [] ∧
      byteLength (whole ++ before) = n.info.start ∧
      byteLength (whole ++ (before ++ n.text source)) = n.info.stop := by
  rcases isBoundary_iff.1 h.start_boundary with ⟨front, rest, startSplit, startOffset⟩
  rcases isBoundary_iff.1 h.stop_boundary with ⟨longer, back, stopSplit, stopOffset⟩
  -- What is in front of the node's start is in front of its end, and the node's text is between.
  have goesOn : front <+: longer := by
    refine prefix_of_byteLength_le ⟨rest, startSplit.symm⟩ ⟨back, stopSplit.symm⟩ ?_
    rw [startOffset, stopOffset]
    exact Nat.le_of_lt h.inOrder
  rcases goesOn with ⟨slice, rfl⟩
  have slices : sliceBytes? source n.info.start n.info.stop = some slice := by
    refine sliceBytes?_eq_some_iff.2 ⟨front, back, stopSplit, startOffset, ?_⟩
    rw [← startOffset, ← stopOffset, byteLength_append, Nat.add_sub_cancel_left]
  have isText : n.text source = slice := by rw [Node.text, slices, Option.getD_some]
  have notEmpty : slice ≠ [] := by
    rintro rfl
    rw [List.append_nil, startOffset] at stopOffset
    exact absurd stopOffset (Nat.ne_of_lt h.inOrder)
  have noBreakInside : '\n' ∉ slice := by
    have rows : (front ++ slice).count '\n' = front.count '\n' := by
      calc
        (front ++ slice).count '\n'
            = (bytePosition source n.info.stop).row := by
              rw [← row_bytePosition_append (front ++ slice) back, ← stopSplit, stopOffset]
        _ = (bytePosition source n.info.start).row := h.oneRow
        _ = front.count '\n' := by
              rw [← row_bytePosition_append front rest, ← startSplit, startOffset]
    rw [List.count_append, Nat.add_eq_left] at rows
    exact List.count_eq_zero.1 rows
  rcases exists_wholeLines_append front with ⟨whole, before, rfl, isWhole, noBreak⟩
  rw [isText]
  refine ⟨whole, before, back, ?_, isWhole, noBreak, noBreakInside, notEmpty, startOffset, ?_⟩
  · simpa only [List.append_assoc] using stopSplit
  · rwa [List.append_assoc] at stopOffset

/-- The line of a node that stands in one row is what is before the node, the node's text and what
is behind it; its byte columns are the bytes in front of its ends. -/
theorem Node.StandsInRow.exists_line (h : n.StandsInRow source) :
    ∃ line before after,
      (physicalLines source)[(bytePosition source n.info.start).row]? = some line ∧
        line.content = before ++ n.text source ++ after ∧ n.text source ≠ [] ∧
        (bytePosition source n.info.start).byteColumn = byteLength before ∧
        (bytePosition source n.info.stop).byteColumn = byteLength (before ++ n.text source) := by
  rcases h.exists_split with
    ⟨whole, before, back, split, isWhole, noBreak, noBreakInside, notEmpty, startOffset,
      stopOffset⟩
  have startPlace := bytePosition_append isWhole noBreak (n.text source ++ back)
  rw [← List.append_assoc before, ← split, startOffset] at startPlace
  have noBreakUpTo : '\n' ∉ before ++ n.text source := by simp [noBreak, noBreakInside]
  have stopPlace := bytePosition_append isWhole noBreakUpTo back
  rw [← split, stopOffset] at stopPlace
  rcases exists_lineBehind isWhole (before ++ n.text source ++ back) (by simp [notEmpty]) with
    ⟨line, tail, found, lineSplit, -⟩
  rw [← split] at found
  -- The row has all bytes up to the node's end.
  have within : before ++ n.text source <+: line.content := by
    refine prefix_of_byteLength_le ⟨back, rfl⟩ ⟨tail, lineSplit.symm⟩ ?_
    have stop_le := h.stop_le
    rwa [startPlace, lineContent_of_getElem? found, stopPlace] at stop_le
  rcases within with ⟨after, content⟩
  rw [startPlace, stopPlace]
  exact ⟨line, before, after, found, content.symm, notEmpty, rfl, rfl⟩

/-- The diagnostic about a node that stands in one row marks the characters of the node. -/
theorem Node.StandsInRow.marks (h : n.StandsInRow source) (message : String) :
    let d := nodeDiagnostic source (physicalLines source) n message
    ∃ line, (physicalLines source)[d.line]? = some line ∧ d.length = (n.text source).length ∧
      d.markedIn line = n.text source := by
  intro d
  rcases h.exists_line with ⟨line, before, after, found, content, notEmpty, first, last⟩
  have positive : 0 < (n.text source).length := List.length_pos_iff.2 notEmpty
  have isDiagnostic : d = ⟨"", (bytePosition source n.info.start).row, before.length,
      (n.text source).length, message⟩ := by
    have start : charColumn line.content (bytePosition source n.info.start).byteColumn =
        before.length := by
      rw [first, content, List.append_assoc, charColumn_append]
    have stop : charColumn line.content (bytePosition source n.info.stop).byteColumn =
        before.length + (n.text source).length := by
      rw [last, content, charColumn_append, List.length_append]
    simp only [d, nodeDiagnostic, lineContent_of_getElem? found, start, stop, h.oneRow, if_true,
      Nat.add_sub_cancel_left]
    rw [if_neg fun both => absurd both.1 (Nat.ne_of_gt positive)]
  rw [isDiagnostic]
  refine ⟨line, found, rfl, ?_⟩
  change (line.content.drop before.length).take (n.text source).length = n.text source
  rw [content, List.append_assoc, List.drop_left, List.take_left]

/-! ## Nodes that end in a later row -/

/-- A node that ends in a later row has a line feed behind its start. -/
theorem lineFeed_mem_behind {front rest : List Char} (split : source = front ++ rest)
    (startOffset : byteLength front = n.info.start)
    (later : (bytePosition source n.info.start).row < (bytePosition source n.info.stop).row) :
    '\n' ∈ rest := by
  have startRow : (bytePosition source n.info.start).row = front.count '\n' := by
    rw [split, ← startOffset, row_bytePosition_append]
  have stopRow : (bytePosition source n.info.stop).row ≤ 0 + source.count '\n' :=
    row_advance_le ⟨0, 0⟩ n.info.stop source
  rw [split, List.count_append, ← split, Nat.zero_add] at stopRow
  exact List.count_pos_iff.1 (by omega)

/-- What is marked of a node that ends in a later row: all that its row has behind its start. -/
theorem nodeDiagnostic_of_later
    (later : (bytePosition source n.info.start).row < (bytePosition source n.info.stop).row)
    {line : PhysicalLine}
    (found : (physicalLines source)[(bytePosition source n.info.start).row]? = some line)
    (message : String) :
    let first := charColumn line.content (bytePosition source n.info.start).byteColumn
    nodeDiagnostic source (physicalLines source) n message =
      ⟨"", (bytePosition source n.info.start).row, first, line.content.length - first, message⟩ := by
  intro first
  simp only [nodeDiagnostic, lineContent_of_getElem? found, if_neg (Nat.ne_of_gt later)]
  -- Only a row that ends at the node's start has nothing to mark.
  rw [if_neg]
  rintro ⟨nothing, inside⟩
  exact absurd nothing (Nat.ne_of_gt (Nat.sub_pos_of_lt inside))

/-- The diagnostic about a node that ends in a later row marks all from the start of the node to
the line break. -/
theorem marks_to_lineBreak (boundary : IsBoundary source n.info.start)
    (later : (bytePosition source n.info.start).row < (bytePosition source n.info.stop).row)
    (message : String) :
    let d := nodeDiagnostic source (physicalLines source) n message
    ∃ line front back, (physicalLines source)[d.line]? = some line ∧
      d.start + d.length = line.content.length ∧ source = front ++ d.markedIn line ++ back ∧
      byteLength front = n.info.start ∧ BeginsWithBreak back := by
  intro d
  rcases isBoundary_iff.1 boundary with ⟨front, rest, split, startOffset⟩
  have hasBreak : '\n' ∈ rest := lineFeed_mem_behind split startOffset later
  rcases exists_wholeLines_append front with ⟨whole, before, rfl, isWhole, noBreak⟩
  have startPlace := bytePosition_append isWhole noBreak rest
  rw [← List.append_assoc, ← split, startOffset] at startPlace
  rcases exists_lineBehind isWhole (before ++ rest)
    (List.append_ne_nil_of_right_ne_nil before (List.ne_nil_of_mem hasBreak)) with
    ⟨line, tail, found, lineSplit, ends⟩
  rw [← List.append_assoc, ← split] at found
  have rowFound : (physicalLines source)[(bytePosition source n.info.start).row]? = some line := by
    rw [startPlace, found]
  have breaks : BeginsWithBreak tail := by
    rcases ends with rfl | breaks
    · have inLine : '\n' ∈ line.content := by
        rw [List.append_nil] at lineSplit
        rw [← lineSplit]
        exact List.mem_append_right _ hasBreak
      exact absurd rfl (mem_of_mem_content (List.mem_of_getElem? found) inLine).2
    · exact breaks
  rcases exists_breakBehind noBreak lineSplit breaks with ⟨back, isRest, backBreaks⟩
  have isDiagnostic : d = _ := nodeDiagnostic_of_later later rowFound message
  rw [startPlace] at isDiagnostic
  have marked : d.markedIn line =
      line.content.drop (charColumn line.content (byteLength before)) := by
    rw [isDiagnostic]
    exact List.take_of_length_le (Nat.le_of_eq List.length_drop)
  refine ⟨line, whole ++ before, back, ?_, ?_, ?_, startOffset, backBreaks⟩
  · rw [isDiagnostic, found]
  · rw [isDiagnostic]
    exact Nat.add_sub_cancel' (charColumn_le_length _ _)
  · rw [marked, List.append_assoc, ← isRest, split]

end Syntax

/-! ## Reports of unused imports -/

namespace Python

open Syntax

theorem exists_import_of_mem_unusedImports {text : String} {root : Node} {d : Diagnostic}
    (reported : d ∈ unusedImports text root) :
    ∃ item bound, (item, bound) ∈ (importSurvey text.toList false root).imports ∧
      d = unusedImport text item := by
  cases error : root.hasError with
  | true => simp [unusedImports, error] at reported
  | false =>
      rw [unusedImports_eq error] at reported
      rcases List.mem_map.1 reported with ⟨⟨item, bound⟩, unused, rfl⟩
      exact ⟨item, bound, (ImportSurvey.mem_unused_iff.1 unused).1, rfl⟩

/-- The diagnostic about a node that stands in one row lies in that row and marks the characters of
the node, as many as there are; so the report of an unused import marks the name that it quotes. Of
a node that ends in a later row all is marked from its start to the line break. -/
theorem diagnostics_mark_nodes (text : String) :
    let source := text.toList
    let lines := physicalLines source
    (∀ (n : Node) (message : String), n.StandsInRow source →
      let d := nodeDiagnostic source lines n message
      d.line = (bytePosition source n.info.start).row ∧
        ∃ line, lines[d.line]? = some line ∧ d.length = (n.text source).length ∧
          d.markedIn line = n.text source) ∧
      (∀ root, ∀ d ∈ unusedImports text root,
        ∃ item bound, (item, bound) ∈ (importSurvey source false root).imports ∧
          d = nodeDiagnostic source lines item d.message ∧
          (item.StandsInRow source → ∃ line, lines[d.line]? = some line ∧
            d.message = "'" ++ String.ofList (d.markedIn line) ++ "' imported but unused")) ∧
      ∀ (n : Node) (message : String), IsBoundary source n.info.start →
        (bytePosition source n.info.start).row < (bytePosition source n.info.stop).row →
        let d := nodeDiagnostic source lines n message
        d.line = (bytePosition source n.info.start).row ∧
          ∃ line front back, lines[d.line]? = some line ∧
            d.start + d.length = line.content.length ∧
            source = front ++ d.markedIn line ++ back ∧ byteLength front = n.info.start ∧
            BeginsWithBreak back := by
  intro source lines
  refine ⟨fun n message stands => ⟨rfl, stands.marks message⟩, ?_,
    fun n message boundary later => ⟨rfl, marks_to_lineBreak boundary later message⟩⟩
  intro root d reported
  rcases exists_import_of_mem_unusedImports reported with ⟨item, bound, imported, rfl⟩
  refine ⟨item, bound, imported, rfl, ?_⟩
  intro stands
  rcases stands.marks (unusedImport text item).message with ⟨line, found, -, marked⟩
  refine ⟨line, found, ?_⟩
  rw [show (unusedImport text item).markedIn line = item.text source from marked]
  rfl

def splitImportText : String :=
  "\n# 𝒜\r\nfrom é import ñx, b as \\\r\n c\r\n"

def plainItem : Node :=
  .mk ⟨"dotted_name", true, false, false, false, "name", 24, 27⟩
    [.mk ⟨"identifier", true, false, false, false, "", 24, 27⟩ []]

/-- The alias stands in the row behind that of the imported name. -/
def splitItem : Node :=
  .mk ⟨"aliased_import", true, false, false, false, "name", 29, 39⟩
    [.mk ⟨"dotted_name", true, false, false, false, "name", 29, 30⟩
        [.mk ⟨"identifier", true, false, false, false, "", 29, 30⟩ []],
      .mk ⟨"as", false, false, false, false, "", 31, 33⟩ [],
      .mk ⟨"identifier", true, false, false, false, "alias", 38, 39⟩ []]

/-- A module that imports `ñx`, and `b` by a name that stands in the next row. -/
def splitImport : Node :=
  .mk ⟨"module", true, false, false, false, "", 1, 41⟩
    [.mk ⟨"comment", true, false, false, false, "", 1, 7⟩ [],
      .mk ⟨"import_from_statement", true, false, false, false, "", 9, 39⟩
        [.mk ⟨"from", false, false, false, false, "", 9, 13⟩ [],
          .mk ⟨"dotted_name", true, false, false, false, "module_name", 14, 16⟩
            [.mk ⟨"identifier", true, false, false, false, "", 14, 16⟩ []],
          .mk ⟨"import", false, false, false, false, "", 17, 23⟩ [], plainItem,
          .mk ⟨",", false, false, false, false, "", 27, 28⟩ [], splitItem]]

/-- The first report marks `ñx` behind characters of two bytes, the second one its item up to the
end of the row. -/
theorem diagnostics_mark_nodes_splitImport :
    let source := splitImportText.toList
    let lines := physicalLines source
    let first : Diagnostic := ⟨"", 2, 14, 2, "'ñx' imported but unused"⟩
    let second := nodeDiagnostic source lines splitItem ""
    plainItem.StandsInRow source ∧ first ∈ unusedImports splitImportText splitImport ∧
      (∃ line, lines[first.line]? = some line ∧ first.markedIn line = plainItem.text source ∧
        first.message = "'" ++ String.ofList (first.markedIn line) ++ "' imported but unused") ∧
      IsBoundary source splitItem.info.start ∧
      (bytePosition source splitItem.info.start).row <
        (bytePosition source splitItem.info.stop).row ∧
      ∃ line front back, lines[second.line]? = some line ∧
        source = front ++ second.markedIn line ++ back ∧ byteLength front = 29 ∧
        BeginsWithBreak back := by
  intro source lines first second
  rcases diagnostics_mark_nodes splitImportText with ⟨inRow, quoted, laterRow⟩
  have stands : plainItem.StandsInRow source := by
    constructor <;> decide +kernel
  have reported : first ∈ unusedImports splitImportText splitImport := by decide +kernel
  have boundary : IsBoundary source splitItem.info.start := by decide +kernel
  have later : (bytePosition source splitItem.info.start).row <
      (bytePosition source splitItem.info.stop).row := by decide +kernel
  have imports : (importSurvey source false splitImport).imports =
      [(plainItem, "ñx".toList), (splitItem, "c".toList)] := by rfl
  refine ⟨stands, reported, ?_, boundary, later, ?_⟩
  · rcases quoted splitImport first reported with ⟨item, bound, imported, isFirst, quotes⟩
    rw [imports] at imported
    have isPlain : item = plainItem := by
      rcases List.mem_cons.1 imported with same | other
      · exact (Prod.mk.inj same).1
      · -- The other item starts at another column.
        rw [(Prod.mk.inj (List.mem_singleton.1 other)).1] at isFirst
        exact absurd (congrArg Diagnostic.start isFirst) (by decide +kernel)
    subst isPlain
    rcases (inRow plainItem first.message stands).2 with ⟨line, found, -, marked⟩
    rw [← isFirst] at found marked
    rcases quotes stands with ⟨other, again, message⟩
    cases found.symm.trans again
    exact ⟨line, found, marked, message⟩
  · rcases laterRow splitItem "" boundary later with
      ⟨-, line, front, back, found, -, split, offset, breaks⟩
    exact ⟨line, front, back, found, split, offset, breaks⟩

end Python
end EditorAnalysis
