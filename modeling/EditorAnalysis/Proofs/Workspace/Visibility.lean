import EditorAnalysis.Proofs.Classifier.Shape
import EditorAnalysis.Proofs.Diagnostic.Merge
import EditorAnalysis.Proofs.Diagnostic.Overlay
import EditorAnalysis.Proofs.Workspace.Run
import EditorAnalysis.Replay

/-!
# What a session shows of its table

The classes that a session shows are those of its table with more error marks: the shape and the
categories are the same, and no error of the tokenizer stays unseen. This holds of every session of
every workspace, for any tokenizer and any checkers.
-/

namespace EditorAnalysis

open Diagnostic

/-! ## One session -/

namespace Session

variable {β σ : Type} {s : Session β σ} {row column : Nat} {r : Row} {d : Diagnostic}

theorem getElem?_lineClasses (s : Session β σ) (row : Nat) :
    s.lineClasses[row]? =
      s.classifier.rows[row]?.map fun r => markedRow s.diagnostics row r.classes := by
  rw [lineClasses, getElem?_overlay, Classifier.lineClasses, List.getElem?_map, Option.map_map]
  rfl

theorem length_lineClasses (s : Session β σ) :
    s.lineClasses.length = s.classifier.lineCount := by
  simp [lineClasses, Classifier.lineClasses, Classifier.lineCount]

theorem length_lineRanks (s : Session β σ) : s.lineRanks.length = s.classifier.lineCount := by
  simp [lineRanks, Classifier.lineRanks, Classifier.lineCount]

theorem mem_diagnostics_of_mem_errors (h : d ∈ s.classifier.errors) : d ∈ s.diagnostics :=
  mem_merge.2 (.inl h)

/-- A row is shown with one class a character, and with the categories of the table. -/
theorem exists_shown_row (sound : s.classifier.IsSound) (hr : s.classifier.rows[row]? = some r) :
    ∃ classes, s.lineClasses[row]? = some classes ∧ classes.length = r.text.length ∧
      classes.map CharClass.category = r.classes.map CharClass.category := by
  refine ⟨markedRow s.diagnostics row r.classes, ?_, ?_, ?_⟩
  · rw [getElem?_lineClasses, hr, Option.map_some]
  · rw [length_markedRow, (sound row r hr).length_classes]
  · exact map_category_markedRow s.diagnostics row r.classes

/-- A diagnostic that fits into its row is marked on all of its characters. -/
theorem exists_shown_mark (hd : d ∈ s.diagnostics) (hr : s.classifier.rows[d.line]? = some r)
    (fits : d.start + d.length ≤ r.classes.length) (after : d.start ≤ column)
    (before : column < d.stop) :
    ∃ classes c, s.lineClasses[d.line]? = some classes ∧ classes[column]? = some c ∧
      c.hasError = true := by
  have stop : d.stop ≤ r.classes.length :=
    Nat.le_trans (Nat.min_le_left _ _) fits
  have inside : column < r.classes.length := Nat.lt_of_lt_of_le before stop
  have marked : ∃ e ∈ s.diagnostics, e.Marks d.line r.classes.length column :=
    ⟨d, hd, rfl, stop, after, before⟩
  refine ⟨markedRow s.diagnostics d.line r.classes, r.classes[column].withError, ?_, ?_, ?_⟩
  · rw [getElem?_lineClasses, hr, Option.map_some]
  · rw [getElem?_markedRow, List.getElem?_eq_getElem inside, Option.map_some, if_pos marked]
  · exact CharClass.hasError_withError _

/-- If all diagnostics fit into their rows, a character is marked just when one reaches over it. -/
theorem hasError_lineClasses_iff {classes : List CharClass} {c : CharClass}
    (sound : s.classifier.IsSound)
    (fits : ∀ d ∈ s.diagnostics, ∀ r, s.classifier.rows[d.line]? = some r →
      d.start + d.length ≤ r.text.length)
    (hclasses : s.lineClasses[row]? = some classes) (hc : classes[column]? = some c) :
    c.hasError = true ↔
      ∃ d ∈ s.diagnostics, d.line = row ∧ d.start ≤ column ∧ column < d.stop := by
  rw [getElem?_lineClasses] at hclasses
  rcases Option.map_eq_some_iff.1 hclasses with ⟨r, hr, rfl⟩
  have inside : column < r.classes.length := by
    rw [← length_markedRow s.diagnostics row r.classes]
    exact (List.getElem?_eq_some_iff.1 hc).1
  -- The table itself has no marks.
  have unmarked : r.classes[column].hasError = false :=
    (sound row r hr).unmarked _ (List.getElem_mem inside)
  rw [hasError_markedRow_iff (List.getElem?_eq_getElem inside) hc, unmarked]
  constructor
  · rintro (own | ⟨d, hd, line, -, after, before⟩)
    · cases own
    · exact ⟨d, hd, line, after, before⟩
  · rintro ⟨d, hd, rfl, after, before⟩
    refine .inr ⟨d, hd, rfl, ?_, after, before⟩
    calc
      d.stop ≤ d.start + d.length := Nat.min_le_left _ _
      _ ≤ r.text.length := fits d hd r hr
      _ = r.classes.length := (sound d.line r hr).length_classes.symm

end Session

/-! ## All sessions -/

namespace Workspace

variable {β σ : Type} [Language β] [Checker σ] {id : SessionId} {s : Session β σ}

/-- Calls leave sessions with sound tables. -/
theorem Leaves.isSound {w : Workspace β σ} {call : Call}
    (sound : ∀ id s, w.session id = .ok s → s.classifier.IsSound) (h : w.Leaves id call s) :
    s.classifier.IsSound := by
  cases h with
  | kept found => exact sound id s found
  | created => exact Classifier.isSound_new _
  | @sourceDirectory _ before found => exact sound id before found
  | sourceText => exact Classifier.isSound_load _ _
  | line => exact Classifier.isSound_replaceLine _ _ _

theorem isSound_of_session_run (config : Config) (backends : Nat → Except BackendError β)
    (factories : List (Checker.Factory σ)) (calls : List Call)
    (live : ((new config backends factories).run calls).2.session id = .ok s) :
    s.classifier.IsSound := by
  have all : ∀ id s, ((new config backends factories).run calls).2.session id = .ok s →
      s.classifier.IsSound := by
    refine run_preserves (P := fun w => ∀ id s, w.session id = .ok s → s.classifier.IsSound)
      ?_ calls ?_
    · intro w call sound id s found
      exact (leaves_of_session_perform found).isSound sound
    · -- There is no session at first.
      intro id s found
      cases found
  exact all id s live

/-- Every session after any calls shows one list of classes and one rank for each row, one class
for each character, and the categories of its table. Its table has at most one error for each row.
An error lies in its row and ends there, and shows on all of its characters. -/
theorem session_shows_table (config : Config) (backends : Nat → Except BackendError β)
    (factories : List (Checker.Factory σ)) (calls : List Call) (id : SessionId)
    (s : Session β σ) (live : ((new config backends factories).run calls).2.session id = .ok s) :
    s.lineClasses.length = s.classifier.lineCount ∧
      s.lineRanks.length = s.classifier.lineCount ∧
      (∀ (row : Nat) (r : Row), s.classifier.rows[row]? = some r →
        ∃ classes, s.lineClasses[row]? = some classes ∧ classes.length = r.text.length ∧
          classes.map CharClass.category = r.classes.map CharClass.category) ∧
      s.classifier.errors.Pairwise (fun d e => d.line < e.line) ∧
      ∀ d ∈ s.classifier.errors,
        (∃ r, s.classifier.rows[d.line]? = some r ∧ r.diagnostic = some d ∧
          d.start + d.length ≤ r.text.length) ∧
        ∀ column, d.start ≤ column → column < d.stop →
          ∃ classes c, s.lineClasses[d.line]? = some classes ∧ classes[column]? = some c ∧
            c.hasError = true := by
  have sound := isSound_of_session_run config backends factories calls live
  refine ⟨s.length_lineClasses, s.length_lineRanks, ?_, sound.pairwise_errors, ?_⟩
  · intro row r hr
    exact Session.exists_shown_row sound hr
  · intro d hd
    rcases sound.exists_row_of_mem_errors hd with ⟨r, hr, diagnostic⟩
    have fits := (sound d.line r hr).diagnostic_fits d diagnostic
    refine ⟨⟨r, hr, diagnostic, fits⟩, ?_⟩
    intro column after before
    rw [← (sound d.line r hr).length_classes] at fits
    exact Session.exists_shown_mark (Session.mem_diagnostics_of_mem_errors hd) hr fits after before

/-- A language whose tokens overlap, run backwards and lie outside the text. -/
def strayTokens : Replay.Backend where
  tokenizer := Replay.tokenizer ⟨[], [], "", ""⟩
    [("ab\nc\nd\ne",
      ⟨[⟨.name, "ab", ⟨0, 0⟩, ⟨0, 2⟩⟩, ⟨.string, "x", ⟨0, 1⟩, ⟨9, 9⟩⟩,
        ⟨.number, "1", ⟨1, 1⟩, ⟨0, 0⟩⟩, ⟨.error, "$", ⟨0, 1⟩, ⟨7, 0⟩⟩,
        ⟨.error, "?", ⟨0, 0⟩, ⟨0, 1⟩⟩, ⟨.error, "!", ⟨2, 1⟩, ⟨2, 3⟩⟩,
        ⟨.error, "?", ⟨5, 0⟩, ⟨5, 1⟩⟩], none⟩)]
  host := ⟨[], []⟩
  parses := []

/-- A checker that reports on rows and columns far outside every text. -/
def strayReports : Replay.Script where
  name := "stray"
  kind := .lint
  reactions := [.diagnostics [⟨"", maxWord, maxWord, maxWord, "far"⟩, ⟨"", 0, 1, maxWord, "long"⟩]]
  unavailable := []

theorem session_shows_table_stray :
    let w := ((new Config.default (Replay.attempts strayTokens [])
      [Replay.factory strayReports]).run
        [.create, .setSourceText ⟨1⟩ "ab\nc\n", .replaceLine ⟨1⟩ 9 "d\ne"]).2
    ∃ s, w.session ⟨1⟩ = .ok s ∧ s.classifier.errors.map Diagnostic.line = [0, 2] ∧
      ∀ d ∈ s.classifier.errors, ∀ column, d.start ≤ column → column < d.stop →
        ∃ classes c, s.lineClasses[d.line]? = some classes ∧ classes[column]? = some c ∧
          c.hasError = true := by
  intro w
  have answered : (w.ask ⟨1⟩ fun s => s.classifier.errors.map Diagnostic.line).toOption =
      some [0, 2] := by
    decide +kernel
  rcases exists_of_ask answered with ⟨s, live, errors⟩
  refine ⟨s, live, errors, ?_⟩
  intro d hd
  exact ((session_shows_table _ _ _ _ _ s live).2.2.2.2 d hd).2

end Workspace
end EditorAnalysis
