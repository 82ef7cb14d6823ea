import EditorAnalysis.Proofs.Classifier.Table
import EditorAnalysis.Proofs.Text.LineBreaks

/-!
# Edits and a fresh load

A classifier that was edited holds what a fresh one holds after loading the edited text: whatever
was loaded and edited before leaves no trace. Only an empty last line makes a difference. The
text of the lines joined does not show it, so the fresh table is shorter by that one row.

A load itself loses no more of the text than the carriage returns in front of its line feeds and
the last line feed.
-/

namespace EditorAnalysis

open Text

namespace Classifier

/-- An operation on a classifier. -/
inductive Edit where
  | load (text : String)
  | replaceLine (line : Nat) (text : String)
  deriving DecidableEq, Repr

/-- Carries out an operation. -/
def perform (c : Classifier) : Edit → Classifier
  | .load text => c.load text
  | .replaceLine line text => (c.replaceLine line text).2

/-- Carries out operations one after the other. -/
def run (c : Classifier) (edits : List Edit) : Classifier :=
  edits.foldl perform c

@[simp] theorem tokenizer_perform (c : Classifier) (edit : Edit) :
    (c.perform edit).tokenizer = c.tokenizer := by
  cases edit with
  | load text => exact tokenizer_load c text
  | replaceLine line text => exact tokenizer_replaceLine c line text

@[simp] theorem tokenizer_run (c : Classifier) (edits : List Edit) :
    (c.run edits).tokenizer = c.tokenizer := by
  induction edits generalizing c with
  | nil => rfl
  | cons edit rest ih =>
      calc
        (c.run (edit :: rest)).tokenizer
            = (c.perform edit).tokenizer := ih (c.perform edit)
        _ = c.tokenizer := tokenizer_perform c edit

theorem run_concat (c : Classifier) (edits : List Edit) (edit : Edit) :
    c.run (edits ++ [edit]) = (c.run edits).perform edit := by
  rw [run, List.foldl_append]
  rfl

/-! ## The lines of the joined text -/

/-- The line texts that loading the joined lines would give: those of the table, but for an empty
last one. -/
def reloadedTexts (texts : List String) : List String :=
  if texts.getLast? = some "" then texts.dropLast else texts

theorem map_ofList_physicalLines_joinLines {texts : List String}
    (h : ∀ text ∈ texts, IsPlainLine text.toList) :
    (physicalLines (joinLines (texts.map String.toList))).map
        (fun line => String.ofList line.content) = reloadedTexts texts := by
  have plain : ∀ line ∈ texts.map String.toList, IsPlainLine line := by
    intro line hline
    rcases List.mem_map.1 hline with ⟨text, htext, rfl⟩
    exact h text htext
  have contents := congrArg (List.map String.ofList) (map_content_physicalLines_joinLines plain)
  rw [List.map_map] at contents
  have last : (texts.map String.toList).getLast? = some [] ↔ texts.getLast? = some "" := by
    rw [List.getLast?_map, Option.map_eq_some_iff]
    constructor
    · rintro ⟨text, htext, empty⟩
      rw [htext, String.toList_eq_nil_iff.1 empty]
    · intro htext
      exact ⟨"", htext, rfl⟩
  refine contents.trans ?_
  by_cases empty : texts.getLast? = some ""
  · simp [reloadedTexts, empty, last.2 empty, Function.comp_def]
  · simp [reloadedTexts, empty, Function.comp_def]

/-- Loading the text of a table makes the table of its lines, but for an empty last one. -/
theorem load_text (c : Classifier) (plain : ∀ t ∈ c.lineTexts, IsPlainLine t.toList) :
    c.load c.text = c.classify (reloadedTexts c.lineTexts) c.text := by
  rw [load, text, String.toList_ofList, map_ofList_physicalLines_joinLines plain]

/-- An edit leaves a table that shows the tokens of its own text. -/
theorem classify_lineTexts_replaceLine (c : Classifier) (line : Nat) (text : String) :
    let edited := (c.replaceLine line text).2
    edited.classify edited.lineTexts edited.text = edited := by
  intro edited
  calc
    edited.classify edited.lineTexts edited.text
        = c.classify edited.lineTexts edited.text := classify_eq_of_tokenizer_eq rfl _ _
    _ = edited := by
        rw [show edited.text = _ from text_replaceLine c line text,
          show edited.lineTexts = _ from lineTexts_classify c _ _]
        rfl

@[simp] theorem lineTexts_load (c : Classifier) (text : String) :
    (c.load text).lineTexts = rowTexts (physicalLines text.toList) :=
  lineTexts_classify _ _ _

/-- The text of a table that was loaded is the lines joined. -/
theorem toList_text_load (c : Classifier) (text : String) :
    (c.load text).text.toList =
      joinLines ((physicalLines text.toList).map PhysicalLine.content) := by
  rw [Classifier.text, lineTexts_load, String.toList_ofList, rowTexts, List.map_map]
  refine congrArg joinLines (List.map_congr_left fun line _ => ?_)
  exact String.toList_ofList

/-- The lines of a text hold all of it but the carriage returns in front of its line feeds. After a
load the table has these lines, and its text is theirs without the line feed at the end. -/
theorem load_holds_text (c : Classifier) (text : String) :
    let lines := physicalLines text.toList
    let kept := withoutReturns text.toList
    (∀ line ∈ lines, '\n' ∉ line.content) ∧
      (∀ line ∈ lines.dropLast, line.terminated = true) ∧
      (∀ line ∈ lines, line.terminated = false → line.content ≠ []) ∧
      lines.flatMap PhysicalLine.chars = kept ∧
      (c.load text).text.toList =
        (if kept.getLast? = some '\n' then kept.dropLast else kept) ∧
      (c.load text).lineTexts = lines.map (fun line => String.ofList line.content) ∧
      (c.load text).rows.length = lines.length := by
  intro lines kept
  have table : IsLineTable lines := isLineTable_physicalLines text.toList
  have characters : lines.flatMap PhysicalLine.chars = kept :=
    flatMap_chars_physicalLines text.toList
  have texts : (c.load text).lineTexts = rowTexts lines := lineTexts_load c text
  refine ⟨table.not_mem_content, table.terminated_of_mem_dropLast, table.content_ne_nil,
    characters, ?_, texts, ?_⟩
  · rw [toList_text_load, table.joinLines_eq, characters]
  · calc
      (c.load text).rows.length
          = (c.load text).lineTexts.length := (List.length_map _).symm
      _ = (rowTexts lines).length := by rw [texts]
      _ = lines.length := length_rowTexts lines

/-- Editing a line and then back gives the texts of the lines back. -/
theorem editLines_editLines {texts : List String} {line : Nat} {original : String}
    (h : texts[line]? = some original) (text : String) :
    editLines (editLines texts line text) line original = texts := by
  rcases List.getElem?_eq_some_iff.1 h with ⟨inside, isOriginal⟩
  have insideEdited : line < (texts.set line text).length := by rwa [List.length_set]
  rw [editLines, editLines, if_pos inside, if_pos insideEdited, List.set_set, ← isOriginal,
    List.set_getElem_self]

/-- An edit that is taken back leaves the table of the joined lines. -/
theorem replaceLine_replaceLine (c : Classifier) {line : Nat} {original : String}
    (h : c.lineText? line = some original) (text : String) :
    ((c.replaceLine line text).2.replaceLine line original).2 =
      c.classify c.lineTexts c.text := by
  have texts : c.lineTexts[line]? = some original := by
    rw [lineTexts, List.getElem?_map]
    exact h
  rw [replaceLine_snd, replaceLine_snd, lineTexts_classify, editLines_editLines texts]
  exact classify_eq_of_tokenizer_eq rfl _ _

/-- After any operations of which the last is an edit, a fresh classifier that loads the text has
the same rows, but for an empty last one, and counts the same logical lines. -/
theorem load_text_run (tokenizer : Tokenizer) (edits : List Edit) (line : Nat) (text : String)
    (plain : ∀ t ∈ ((new tokenizer).run (edits ++ [.replaceLine line text])).lineTexts,
      IsPlainLine t.toList) :
    let edited := (new tokenizer).run (edits ++ [.replaceLine line text])
    let fresh := (new tokenizer).load edited.text
    fresh.rows = (if edited.lineTexts.getLast? = some "" then edited.rows.dropLast
      else edited.rows) ∧ fresh.logicalLines = edited.logicalLines := by
  intro edited fresh
  -- Whatever was done before the last edit, the edit made the table out of its own lines.
  have own : edited.classify edited.lineTexts edited.text = edited := by
    have last : edited = (((new tokenizer).run edits).replaceLine line text).2 :=
      run_concat _ _ _
    rw [last]
    exact classify_lineTexts_replaceLine _ line text
  -- The fresh table differs from it by the line texts only.
  have reload : fresh = edited.classify (reloadedTexts edited.lineTexts) edited.text := by
    rw [← load_text edited plain]
    apply classify_eq_of_tokenizer_eq
    rw [tokenizer_run]
  constructor
  · conv => rhs; rw [← own]
    rw [reload, reloadedTexts, lineTexts_classify]
    split
    · exact classifiedRows_dropLast _ _ _
    · rfl
  · conv => rhs; rw [← own]
    rw [reload]
    rfl

/-- A tokenizer that takes every text for one string over two rows. -/
def twoRowString : Tokenizer where
  tokenize text := ⟨[⟨.string, text, ⟨0, 1⟩, ⟨1, 1⟩⟩, ⟨.newline, "\n", ⟨1, 2⟩, ⟨1, 3⟩⟩], none⟩
  keywords := ⟨[], [], "", ""⟩

/-- An empty line added behind the last one is missing in the fresh table, and nothing else. -/
theorem load_text_run_emptyLine :
    let edited := (new twoRowString).run ([.load "ab\ncd\n"] ++ [.replaceLine 7 ""])
    let fresh := (new twoRowString).load edited.text
    (∀ t ∈ edited.lineTexts, IsPlainLine t.toList) ∧ edited.lineTexts = ["ab", "cd", ""] ∧
      fresh.rows = edited.rows.dropLast ∧ fresh.logicalLines = edited.logicalLines := by
  have plain : ∀ t ∈ ((new twoRowString).run
      ([.load "ab\ncd\n"] ++ [.replaceLine 7 ""])).lineTexts, IsPlainLine t.toList := by
    decide +kernel
  have texts : ((new twoRowString).run
      ([.load "ab\ncd\n"] ++ [.replaceLine 7 ""])).lineTexts = ["ab", "cd", ""] := by
    decide +kernel
  rcases load_text_run twoRowString [.load "ab\ncd\n"] 7 "" plain with ⟨rows, count⟩
  rw [if_pos (by rw [texts]; rfl)] at rows
  exact ⟨plain, texts, rows, count⟩

end Classifier
end EditorAnalysis
