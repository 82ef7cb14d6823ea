import EditorAnalysis.Classifier

/-!
# The table, row by row

A row of the table is a function of its text, its number and the tokens of the whole text: the
number of rows and the texts of the others do not count. The depth that a row enters with is that
of the last change in it, or else the one of the row above.
-/

namespace EditorAnalysis

/-! ## Ranks -/

/-- The depth that a row enters with. -/
def enterDepth (changes : List (Nat × Nat)) : Nat → Nat
  | 0 => depthAt changes 0 0
  | row + 1 => depthAt changes (row + 1) (enterDepth changes row)

/-- The rank of a row under a list of tokens. -/
def rankOf (tokens : List Token) (row : Nat) : LineRank :=
  ⟨enterDepth (depthChanges 0 tokens) row, enterDepth (depthChanges 0 tokens) (row + 1)⟩

/-- The depths that rows enter with are found one by one, once the row that they begin with is
known to enter with its own depth. -/
theorem enterDepths_eq_map {changes : List (Nat × Nat)} {row before : Nat}
    (h : depthAt changes row before = enterDepth changes row) (count : Nat) :
    enterDepths changes row before count =
      (List.range' row count).map (enterDepth changes) := by
  -- The induction is on the number of rows; each hands its own depth on to the next one.
  induction count generalizing row before with
  | zero => rfl
  | succ count ih =>
      have next : depthAt changes (row + 1) (depthAt changes row before) =
          enterDepth changes (row + 1) := by
        rw [h]
        rfl
      rw [enterDepths, List.range'_succ, List.map_cons, ih next, h]

theorem lineRanks_eq_map (tokens : List Token) (count : Nat) :
    lineRanks tokens count = (List.range count).map (rankOf tokens) := by
  have depths : enterDepths (depthChanges 0 tokens) 0 0 (count + 1) =
      (List.range' 0 (count + 1)).map (enterDepth (depthChanges 0 tokens)) :=
    enterDepths_eq_map rfl (count + 1)
  apply List.ext_getElem
  · simp [lineRanks, depths]
  · intro row hleft hright
    simp [lineRanks, depths, rankOf]

/-! ## Rows -/

/-- The texts of the rows that lines make. -/
def rowTexts (lines : List Text.PhysicalLine) : List String :=
  lines.map fun line => String.ofList line.content

@[simp] theorem length_rowTexts (lines : List Text.PhysicalLine) :
    (rowTexts lines).length = lines.length :=
  List.length_map _

/-- The row with a number under a list of tokens. -/
def rowOf (keywords : KeywordSet) (tokens : List Token) (row : Nat) (text : String) : Row :=
  classifiedRow keywords tokens row text (rankOf tokens row)

theorem classifiedRows_eq_mapIdx (keywords : KeywordSet) (tokens : List Token)
    (texts : List String) :
    classifiedRows keywords tokens texts = texts.mapIdx (rowOf keywords tokens) := by
  apply List.ext_getElem
  · simp [classifiedRows, lineRanks_eq_map]
  · intro row hleft hright
    simp [classifiedRows, lineRanks_eq_map, rowOf]

/-- What is read off every row is read off each on its own. -/
theorem map_classifiedRows {α : Type} (f : Row → α) (keywords : KeywordSet) (tokens : List Token)
    (texts : List String) :
    (classifiedRows keywords tokens texts).map f =
      texts.mapIdx fun row text => f (rowOf keywords tokens row text) := by
  rw [classifiedRows_eq_mapIdx]
  apply List.ext_getElem?
  intro row
  rw [List.getElem?_map, List.getElem?_mapIdx, List.getElem?_mapIdx, Option.map_map]
  rfl

@[simp] theorem length_classifiedRows (keywords : KeywordSet) (tokens : List Token)
    (texts : List String) : (classifiedRows keywords tokens texts).length = texts.length := by
  simp [classifiedRows_eq_mapIdx]

theorem getElem?_classifiedRows (keywords : KeywordSet) (tokens : List Token)
    (texts : List String) (row : Nat) :
    (classifiedRows keywords tokens texts)[row]? =
      texts[row]?.map (rowOf keywords tokens row) := by
  simp [classifiedRows_eq_mapIdx]

/-- A table has the texts that it was made for. -/
@[simp] theorem map_text_classifiedRows (keywords : KeywordSet) (tokens : List Token)
    (texts : List String) : (classifiedRows keywords tokens texts).map Row.text = texts := by
  apply List.ext_getElem?
  intro row
  rw [map_classifiedRows, List.getElem?_mapIdx]
  cases texts[row]? <;> rfl

/-- Without its last line, a table has the same rows but the last. -/
theorem classifiedRows_dropLast (keywords : KeywordSet) (tokens : List Token)
    (texts : List String) :
    classifiedRows keywords tokens texts.dropLast =
      (classifiedRows keywords tokens texts).dropLast := by
  apply List.ext_getElem?
  intro row
  rw [List.getElem?_dropLast, getElem?_classifiedRows, getElem?_classifiedRows,
    List.getElem?_dropLast, length_classifiedRows]
  split <;> rfl

namespace Classifier

@[simp] theorem lineTexts_classify (c : Classifier) (texts : List String) (text : String) :
    (c.classify texts text).lineTexts = texts :=
  map_text_classifiedRows _ _ _

theorem lineClasses_classify (c : Classifier) (texts : List String) (text : String) :
    (c.classify texts text).lineClasses =
      texts.mapIdx fun row line =>
        paintedRow c.tokenizer.keywords (c.tokenizer.tokenize text).tokens row line.length := by
  exact map_classifiedRows Row.classes _ _ _

theorem errors_classify (c : Classifier) (texts : List String) (text : String) :
    (c.classify texts text).errors =
      (texts.mapIdx fun row line =>
        rowError (c.tokenizer.tokenize text).tokens row line.length).filterMap id := by
  have diagnostics := map_classifiedRows Row.diagnostic c.tokenizer.keywords
    (c.tokenizer.tokenize text).tokens texts
  calc
    (c.classify texts text).errors
        = ((c.classify texts text).rows.map Row.diagnostic).filterMap id := by
          rw [List.filterMap_map]
          rfl
    _ = _ := congrArg (List.filterMap id) diagnostics

theorem lineRanks_classify (c : Classifier) (texts : List String) (text : String) :
    (c.classify texts text).lineRanks =
      (List.range texts.length).map (rankOf (c.tokenizer.tokenize text).tokens) := by
  have ranks := map_classifiedRows Row.rank c.tokenizer.keywords (c.tokenizer.tokenize text).tokens
    texts
  apply List.ext_getElem?
  intro row
  rw [lineRanks, show (c.classify texts text).rows.map Row.rank = _ from ranks,
    List.getElem?_mapIdx, List.getElem?_map]
  by_cases inside : row < texts.length
  · rw [List.getElem?_eq_getElem inside, List.getElem?_range inside]
    rfl
  · have past : texts.length ≤ row := Nat.le_of_not_lt inside
    rw [List.getElem?_eq_none past, List.getElem?_eq_none (by simpa using past)]
    rfl

@[simp] theorem tokenizer_classify (c : Classifier) (texts : List String) (text : String) :
    (c.classify texts text).tokenizer = c.tokenizer := rfl

@[simp] theorem tokenizer_load (c : Classifier) (text : String) :
    (c.load text).tokenizer = c.tokenizer :=
  tokenizer_classify c _ text

@[simp] theorem tokenizer_replaceLine (c : Classifier) (line : Nat) (text : String) :
    (c.replaceLine line text).2.tokenizer = c.tokenizer :=
  tokenizer_classify c _ _

/-- What a table is made of, and the tokens of what text, is all that classifying takes from the
classifier besides its tokenizer. -/
theorem classify_eq_of_tokenizer_eq {c d : Classifier} (h : c.tokenizer = d.tokenizer)
    (texts : List String) (text : String) : c.classify texts text = d.classify texts text := by
  simp [classify, h]

/-- An edit makes the new table of the edited texts, joined. -/
theorem replaceLine_snd (c : Classifier) (line : Nat) (text : String) :
    (c.replaceLine line text).2 =
      c.classify (editLines c.lineTexts line text)
        (String.ofList
          (Text.joinLines ((editLines c.lineTexts line text).map String.toList))) := rfl

/-- A table is made of the joined texts of its own lines after every edit. -/
theorem text_replaceLine (c : Classifier) (line : Nat) (text : String) :
    (c.replaceLine line text).2.text =
      String.ofList (Text.joinLines ((editLines c.lineTexts line text).map String.toList)) := by
  rw [Classifier.text, replaceLine_snd, lineTexts_classify]

end Classifier
end EditorAnalysis
