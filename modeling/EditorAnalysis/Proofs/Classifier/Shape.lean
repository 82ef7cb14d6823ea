import EditorAnalysis.Proofs.Classifier.Painting
import EditorAnalysis.Proofs.Classifier.Table

/-!
# The shape of a table

Whatever tokens a tokenizer gives, also such that lie outside the text, overlap or end before they
start, each row of the table has one class for each of its characters, none with an error mark, and
its error lies in the row and ends in it.
-/

namespace EditorAnalysis

theorem CharClass.hasError_ofCategory (category : Category) :
    (CharClass.ofCategory category).hasError = false := by
  cases category <;> decide

/-! ## Rows -/

/-- What holds of the row with a number, whatever the tokens are. -/
structure Row.IsSound (row : Nat) (r : Row) : Prop where
  length_classes : r.classes.length = r.text.length
  unmarked : ∀ c ∈ r.classes, c.hasError = false
  line_diagnostic : ∀ d, r.diagnostic = some d → d.line = row
  diagnostic_fits : ∀ d, r.diagnostic = some d → d.start + d.length ≤ r.text.length

section

variable {keywords : KeywordSet} {tokens : List Token} {row length column : Nat}

theorem Token.exists_category_of_colour? {t : Token} {c : CharClass}
    (h : t.colour? keywords = some c) : ∃ category, c = .ofCategory category := by
  have colour : ∀ category, some (CharClass.ofCategory category) = some c →
      ∃ category, c = .ofCategory category := by
    intro category same
    exact ⟨category, (Option.some.inj same).symm⟩
  unfold Token.colour? at h
  split at h
  · split at h
    · cases h
    · exact colour _ h
  · exact colour _ h
  · exact colour _ h
  · exact colour _ h
  · exact colour _ h
  · split at h
    · exact colour _ h
    · cases h
  all_goals cases h

theorem hasError_of_colourIn? {c : CharClass} (h : colourIn? keywords tokens row column = some c) :
    c.hasError = false := by
  rcases List.exists_of_findSome?_eq_some h with ⟨t, -, colour⟩
  unfold Token.colourAt? at colour
  split at colour
  · rcases t.exists_category_of_colour? colour with ⟨category, rfl⟩
    exact CharClass.hasError_ofCategory category
  · cases colour

theorem hasError_of_mem_paintedRow {c : CharClass}
    (h : c ∈ paintedRow keywords tokens row length) : c.hasError = false := by
  rw [paintedRow_eq_map] at h
  rcases List.mem_map.1 h with ⟨column, -, rfl⟩
  cases colour : colourIn? keywords tokens row column with
  | none => rfl
  | some c => exact hasError_of_colourIn? colour

theorem Token.diagnosticIn_fits (t : Token) (row length : Nat) :
    (t.diagnosticIn row length).start + (t.diagnosticIn row length).length ≤ length := by
  -- The end is cut to the row, but it may lie in front of the start.
  simp only [Token.diagnosticIn]
  split <;> omega

theorem rowError_fits {d : Diagnostic} (h : rowError tokens row length = some d) :
    d.line = row ∧ d.start + d.length ≤ length := by
  rcases Option.map_eq_some_iff.1 h with ⟨t, -, rfl⟩
  exact ⟨rfl, t.diagnosticIn_fits row length⟩

theorem isSound_rowOf (keywords : KeywordSet) (tokens : List Token) (row : Nat) (text : String) :
    (rowOf keywords tokens row text).IsSound row where
  length_classes := by
    simp [rowOf, classifiedRow, paintedRow_eq_map]
  unmarked := by
    intro c hc
    exact hasError_of_mem_paintedRow hc
  line_diagnostic := by
    intro d hd
    exact (rowError_fits hd).1
  diagnostic_fits := by
    intro d hd
    exact (rowError_fits hd).2

end

/-! ## Tables -/

namespace Classifier

/-- Whether all rows of the table are sound. -/
def IsSound (c : Classifier) : Prop :=
  ∀ row (r : Row), c.rows[row]? = some r → r.IsSound row

theorem isSound_new (tokenizer : Tokenizer) : (new tokenizer).IsSound := by
  intro row r hr
  simp [new] at hr

theorem isSound_classify (c : Classifier) (texts : List String) (text : String) :
    (c.classify texts text).IsSound := by
  intro row r hr
  have shown : (c.classify texts text).rows[row]? =
      texts[row]?.map (rowOf c.tokenizer.keywords (c.tokenizer.tokenize text).tokens row) :=
    getElem?_classifiedRows _ _ _ _
  rw [shown] at hr
  rcases Option.map_eq_some_iff.1 hr with ⟨line, -, rfl⟩
  exact isSound_rowOf _ _ row line

theorem isSound_load (c : Classifier) (text : String) : (c.load text).IsSound :=
  isSound_classify c _ text

theorem isSound_replaceLine (c : Classifier) (line : Nat) (text : String) :
    (c.replaceLine line text).2.IsSound :=
  isSound_classify c _ _

namespace IsSound

variable {c : Classifier} {d : Diagnostic} {row : Nat} {r : Row}

/-- The rows of the errors ascend, so no row has two. -/
theorem pairwise_errors (sound : c.IsSound) : c.errors.Pairwise fun d e => d.line < e.line := by
  rw [errors, List.pairwise_filterMap, List.pairwise_iff_getElem]
  intro i j hi hj before d hd e he
  have first := (sound i _ (List.getElem?_eq_getElem hi)).line_diagnostic d hd
  have second := (sound j _ (List.getElem?_eq_getElem hj)).line_diagnostic e he
  rwa [first, second]

theorem exists_row_of_mem_errors (sound : c.IsSound) (hd : d ∈ c.errors) :
    ∃ r, c.rows[d.line]? = some r ∧ r.diagnostic = some d := by
  rcases List.mem_filterMap.1 hd with ⟨r, hr, diagnostic⟩
  rcases List.mem_iff_getElem?.1 hr with ⟨row, found⟩
  have line := (sound row r found).line_diagnostic d diagnostic
  subst line
  exact ⟨r, found, diagnostic⟩

end IsSound
end Classifier
end EditorAnalysis
