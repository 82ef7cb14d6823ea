import EditorAnalysis.Text.Lines

/-!
# Laws of physical lines

Splitting a text at its line feeds and putting lines together again are inverse to each other up
to the end of the text: a line feed behind the last line is lost, and an empty last line with it.

A text of *whole lines* is empty or ends in a line feed. Whole lines can be put in front of any
text without touching how it is split.
-/

namespace EditorAnalysis
namespace Text

/-- Whether a text is made of whole lines: it is empty or ends in a line feed. -/
def WholeLines (text : List Char) : Prop :=
  text = [] ∨ text.getLast? = some '\n'

instance (text : List Char) : Decidable (WholeLines text) :=
  inferInstanceAs (Decidable (text = [] ∨ text.getLast? = some '\n'))

/-! ## Splitting, line by line -/

theorem linesAfter_of_not_mem {line : List Char} (h : '\n' ∉ line) (seen : List Char) :
    linesAfter seen line = PhysicalLine.remainder (seen.reverse ++ line) := by
  induction line generalizing seen with
  | nil =>
      simp [linesAfter]
  | cons c cs ih =>
      have hc : c ≠ '\n' := fun e => h (e ▸ List.mem_cons_self)
      have hcs : '\n' ∉ cs := fun m => h (List.mem_cons_of_mem _ m)
      simp [linesAfter, hc, ih hcs]

theorem linesAfter_append_of_not_mem {line : List Char} (h : '\n' ∉ line)
    (seen rest : List Char) :
    linesAfter seen (line ++ '\n' :: rest) =
      PhysicalLine.beforeLineFeed (seen.reverse ++ line) :: physicalLines rest := by
  induction line generalizing seen with
  | nil =>
      simp [linesAfter, physicalLines]
  | cons c cs ih =>
      have hc : c ≠ '\n' := fun e => h (e ▸ List.mem_cons_self)
      have hcs : '\n' ∉ cs := fun m => h (List.mem_cons_of_mem _ m)
      simp [linesAfter, hc, ih hcs]

/-- A text without a line feed is one line, or none when it is empty. -/
theorem physicalLines_of_not_mem {line : List Char} (h : '\n' ∉ line) :
    physicalLines line = PhysicalLine.remainder line := by
  simpa [physicalLines] using linesAfter_of_not_mem h []

theorem physicalLines_append_cons {line : List Char} (h : '\n' ∉ line) (rest : List Char) :
    physicalLines (line ++ '\n' :: rest) =
      PhysicalLine.beforeLineFeed line :: physicalLines rest := by
  simpa [physicalLines] using linesAfter_append_of_not_mem h [] rest

/-- Induction on a text, line by line. -/
theorem line_induction {motive : List Char → Prop}
    (last : ∀ line, '\n' ∉ line → motive line)
    (step : ∀ line rest, '\n' ∉ line → motive rest → motive (line ++ '\n' :: rest))
    (text : List Char) : motive text := by
  by_cases h : '\n' ∈ text
  · -- The rest is shorter by a line and its line feed.
    rcases List.eq_append_cons_of_mem h with ⟨line, rest, split, hline⟩
    rw [split]
    exact step line rest hline (line_induction last step rest)
  · exact last text h
termination_by text.length
decreasing_by
  simp [split]
  omega

theorem physicalLines_ne_nil {text : List Char} (h : text ≠ []) : physicalLines text ≠ [] := by
  induction text using line_induction with
  | last line hline =>
      rw [physicalLines_of_not_mem hline]
      cases line with
      | nil => exact absurd rfl h
      | cons c cs => exact List.cons_ne_nil _ _
  | step line rest hline _ =>
      rw [physicalLines_append_cons hline]
      exact List.cons_ne_nil _ _

/-! ## Whole lines -/

namespace WholeLines

theorem eq_nil_of_not_mem {text : List Char} (h : WholeLines text) (none : '\n' ∉ text) :
    text = [] := by
  rcases h with rfl | last
  · rfl
  · exact absurd (List.mem_of_getLast? last) none

theorem of_append_cons {line rest : List Char} (h : WholeLines (line ++ '\n' :: rest)) :
    WholeLines rest := by
  rcases h with nil | last
  · simp at nil
  · cases rest with
    | nil => exact Or.inl rfl
    | cons c cs =>
        right
        simpa [List.getLast?_append, List.getLast?_cons_cons] using last

end WholeLines

/-- Whole lines in front of a text are split on their own. -/
theorem physicalLines_append {whole : List Char} (h : WholeLines whole) (text : List Char) :
    physicalLines (whole ++ text) = physicalLines whole ++ physicalLines text := by
  induction whole using line_induction with
  | last line hline =>
      rw [h.eq_nil_of_not_mem hline]
      rfl
  | step line rest hline ih =>
      rw [List.append_assoc, List.cons_append, physicalLines_append_cons hline,
        physicalLines_append_cons hline, ih h.of_append_cons, List.cons_append]

/-- Every text is whole lines and then a line without its line feed. -/
theorem exists_wholeLines_append (text : List Char) :
    ∃ whole line, text = whole ++ line ∧ WholeLines whole ∧ '\n' ∉ line := by
  induction text using line_induction with
  | last line hline => exact ⟨[], line, rfl, Or.inl rfl, hline⟩
  | step first rest hfirst ih =>
      -- The first line and its line feed go in front of the whole lines of the rest.
      rcases ih with ⟨whole, line, rfl, hwhole, hline⟩
      refine ⟨first ++ '\n' :: whole, line, by simp, Or.inr ?_, hline⟩
      rcases hwhole with rfl | last
      · simp
      · cases whole with
        | nil => simp at last
        | cons c cs => simpa [List.getLast?_append, List.getLast?_cons_cons] using last

theorem terminated_of_mem_physicalLines {whole : List Char} (h : WholeLines whole)
    {line : PhysicalLine} (hline : line ∈ physicalLines whole) : line.terminated = true := by
  induction whole using line_induction with
  | last text htext =>
      rw [h.eq_nil_of_not_mem htext] at hline
      cases hline
  | step first rest hfirst ih =>
      rw [physicalLines_append_cons hfirst, List.mem_cons] at hline
      rcases hline with rfl | hrest
      · unfold PhysicalLine.beforeLineFeed
        split <;> rfl
      · exact ih h.of_append_cons hrest

/-! ## The characters of lines -/

/-- Whether joining and splitting keep a line apart from its neighbours: it has no line feed of its
own, and no carriage return that the next line feed would take. -/
def IsPlainLine (line : List Char) : Prop :=
  '\n' ∉ line ∧ line.getLast? ≠ some '\r'

instance (line : List Char) : Decidable (IsPlainLine line) :=
  inferInstanceAs (Decidable ('\n' ∉ line ∧ line.getLast? ≠ some '\r'))

theorem IsPlainLine.beforeLineFeed_eq {line : List Char} (h : IsPlainLine line) :
    PhysicalLine.beforeLineFeed line = ⟨line, true⟩ := by
  simp [PhysicalLine.beforeLineFeed, h.2]

/-- A line has only characters of its text, and no line feed. -/
theorem mem_of_mem_content {text : List Char} {line : PhysicalLine}
    (hline : line ∈ physicalLines text) {c : Char} (hc : c ∈ line.content) :
    c ∈ text ∧ c ≠ '\n' := by
  induction text using line_induction with
  | last last hlast =>
      rw [physicalLines_of_not_mem hlast] at hline
      cases last with
      | nil => cases hline
      | cons d ds =>
          rcases List.mem_singleton.1 hline with rfl
          exact ⟨hc, fun isBreak => hlast (isBreak ▸ hc)⟩
  | step first rest hfirst ih =>
      rw [physicalLines_append_cons hfirst, List.mem_cons] at hline
      rcases hline with rfl | hrest
      · -- Only a carriage return at its end is taken from the first line.
        have inFirst : c ∈ first := by
          unfold PhysicalLine.beforeLineFeed at hc
          split at hc
          · exact (List.dropLast_sublist first).subset hc
          · exact hc
        exact ⟨List.mem_append_left _ inFirst, fun isBreak => hfirst (isBreak ▸ inFirst)⟩
      · have inRest := ih hrest
        exact ⟨by simp [inRest.1], inRest.2⟩

/-- The lines of a text without carriage returns are plain. -/
theorem isPlainLine_of_mem_physicalLines {text : List Char} (plain : '\r' ∉ text)
    {line : PhysicalLine} (hline : line ∈ physicalLines text) : IsPlainLine line.content := by
  constructor
  · intro isBreak
    exact (mem_of_mem_content hline isBreak).2 rfl
  · intro last
    exact plain (mem_of_mem_content hline (List.mem_of_getLast? last)).1

/-! ## Joining -/

/-- Lines in front of others are joined to them with a line feed each. -/
theorem joinLines_append (front : List (List Char)) {back : List (List Char)} (h : back ≠ []) :
    joinLines (front ++ back) = front.flatMap (· ++ ['\n']) ++ joinLines back := by
  induction front with
  | nil => rfl
  | cons line rest ih =>
      rw [List.cons_append, joinLines_cons (by simp [h]), ih]
      simp

/-- Lines joined are all but the last with a line feed each, and then the last. -/
theorem joinLines_concat (lines : List (List Char)) (last : List Char) :
    joinLines (lines ++ [last]) = lines.flatMap (· ++ ['\n']) ++ last :=
  joinLines_append lines (List.cons_ne_nil last [])

theorem joinLines_append_singleton {rows : List (List Char)} (h : rows ≠ []) (last : List Char) :
    joinLines (rows ++ [last]) = joinLines rows ++ '\n' :: last := by
  rcases List.eq_nil_or_concat rows with rfl | ⟨front, row, rfl⟩
  · exact absurd rfl h
  · rw [List.concat_eq_append, joinLines_concat, joinLines_concat]
    simp

/-- Lines with a line feed each are split where they were joined, whatever follows. -/
theorem physicalLines_flatMap_append_text {lines : List (List Char)}
    (hlines : ∀ line ∈ lines, IsPlainLine line) (text : List Char) :
    physicalLines (lines.flatMap (· ++ ['\n']) ++ text) =
      lines.map (⟨·, true⟩) ++ physicalLines text := by
  induction lines with
  | nil => rfl
  | cons line rest ih =>
      have hline : IsPlainLine line := hlines line List.mem_cons_self
      have hrest := ih fun other m => hlines other (List.mem_cons_of_mem _ m)
      rw [List.flatMap_cons, List.append_assoc, List.append_assoc, List.singleton_append,
        physicalLines_append_cons hline.1, hrest, hline.beforeLineFeed_eq]
      rfl

/-- Lines with a line feed each, and then a line without, are split where they were joined. -/
theorem physicalLines_flatMap_append {lines : List (List Char)} {last : List Char}
    (hlines : ∀ line ∈ lines, IsPlainLine line) (hlast : '\n' ∉ last) :
    physicalLines (lines.flatMap (· ++ ['\n']) ++ last) =
      lines.map (⟨·, true⟩) ++ PhysicalLine.remainder last := by
  rw [physicalLines_flatMap_append_text hlines, physicalLines_of_not_mem hlast]

@[simp] theorem map_content_remainder (line : List Char) :
    (PhysicalLine.remainder line).map PhysicalLine.content = if line = [] then [] else [line] := by
  cases line <;> rfl

/-- Splitting what was joined gives the lines back, but for an empty last line. -/
theorem map_content_physicalLines_joinLines {lines : List (List Char)}
    (h : ∀ line ∈ lines, IsPlainLine line) :
    (physicalLines (joinLines lines)).map PhysicalLine.content =
      if lines.getLast? = some [] then lines.dropLast else lines := by
  rcases List.eq_nil_or_concat lines with rfl | ⟨front, last, rfl⟩
  · rfl
  · rw [List.concat_eq_append] at h ⊢
    have hfront : ∀ line ∈ front, IsPlainLine line := fun line m => h line (by simp [m])
    have hlast : IsPlainLine last := h last (by simp)
    rw [joinLines_concat, physicalLines_flatMap_append hfront hlast.1, List.map_append,
      map_content_remainder]
    by_cases empty : last = [] <;> simp [empty, Function.comp_def]

/-- Whole lines have a last line, and it is terminated. -/
theorem exists_concat_of_getLast? {text : List Char} (ends : text.getLast? = some '\n') :
    ∃ rows last, physicalLines text = rows ++ [⟨last, true⟩] ∧
      ∀ row ∈ rows, row.terminated = true := by
  have whole : WholeLines text := Or.inr ends
  rcases List.eq_nil_or_concat (physicalLines text) with none_ | ⟨rows, ⟨last, terminated⟩, lines⟩
  · have text_ne : text ≠ [] := by
      rintro rfl
      cases ends
    exact absurd none_ (physicalLines_ne_nil text_ne)
  · rw [List.concat_eq_append] at lines
    have all : ∀ row ∈ physicalLines text, row.terminated = true := fun row =>
      terminated_of_mem_physicalLines whole
    rw [lines] at all
    have isTerminated : terminated = true := all ⟨last, terminated⟩ (by simp)
    subst isTerminated
    exact ⟨rows, last, lines, fun row h => all row (List.mem_append_left _ h)⟩

/-- A text with a terminated last line ends in a line feed. -/
theorem getLast?_of_terminated {text last : List Char} {rows : List PhysicalLine}
    (lines : physicalLines text = rows ++ [⟨last, true⟩]) : text.getLast? = some '\n' := by
  rcases exists_wholeLines_append text with ⟨whole, line, rfl, hwhole, hline⟩
  rw [physicalLines_append hwhole, physicalLines_of_not_mem hline] at lines
  cases line with
  | nil =>
      rw [List.append_nil]
      rcases hwhole with rfl | ends
      · rw [physicalLines_nil, PhysicalLine.remainder, List.append_nil] at lines
        exact absurd lines.symm (List.append_ne_nil_of_right_ne_nil rows (List.cons_ne_nil _ _))
      · exact ends
  | cons c cs =>
      -- A line that is left over would be the last one, and not terminated.
      have same := (List.append_inj' lines rfl).2
      cases same

end Text
end EditorAnalysis
