import EditorAnalysis.Proofs.Text.Lines
import Mathlib.Data.List.Infix

/-!
# Line breaks

A line feed ends a line, with or without a carriage return before it. What the lines of a text
hold is the text without these carriage returns: the lines put together, each with its line feed,
are that text. No other lines are, so two texts have the same lines just when they are the same
without the carriage returns.
-/

namespace EditorAnalysis
namespace Text

/-- A text without the carriage returns that stand directly before a line feed. Each line feed
loses one at most. -/
def withoutReturns : List Char → List Char
  | [] => []
  | c :: cs =>
    if c = '\r' ∧ cs.head? = some '\n' then withoutReturns cs else c :: withoutReturns cs

/-- A text with one more carriage return in front of each line feed. -/
def withReturns (text : List Char) : List Char :=
  text.flatMap fun c => if c = '\n' then ['\r', '\n'] else [c]

namespace PhysicalLine

/-- The characters of a line and, if it is terminated, its line feed. -/
def chars (line : PhysicalLine) : List Char :=
  line.content ++ if line.terminated then ['\n'] else []

@[simp] theorem chars_mk_true (content : List Char) : chars ⟨content, true⟩ = content ++ ['\n'] :=
  rfl

@[simp] theorem chars_mk_false (content : List Char) : chars ⟨content, false⟩ = content :=
  List.append_nil content

end PhysicalLine

/-! ## Lines that a text can have -/

/-- Lists of lines as they come from texts: no line has a line feed of its own, and only the last
one may lack the line feed behind it, if it is not empty. -/
inductive IsLineTable : List PhysicalLine → Prop
  | nil : IsLineTable []
  | rest {content : List Char} : content ≠ [] → '\n' ∉ content → IsLineTable [⟨content, false⟩]
  | cons {content : List Char} {lines : List PhysicalLine} :
      '\n' ∉ content → IsLineTable lines → IsLineTable (⟨content, true⟩ :: lines)

/-- The first line feed of a text stands at one place only. -/
theorem append_lineFeed_inj {line other text more : List Char} (hline : '\n' ∉ line)
    (hother : '\n' ∉ other) (same : line ++ '\n' :: text = other ++ '\n' :: more) :
    line = other ∧ text = more := by
  -- If one line were longer, the line feed behind the other one would be in it.
  rcases List.append_eq_append_iff.1 same with ⟨between, rfl, split⟩ | ⟨between, rfl, split⟩
  all_goals
    cases between with
    | nil => simpa [eq_comm] using split
    | cons c cs => simp_all

namespace IsLineTable

variable {lines others : List PhysicalLine}

theorem not_mem_content (h : IsLineTable lines) : ∀ line ∈ lines, '\n' ∉ line.content := by
  induction h with
  | nil => simp
  | rest _ noBreak => simpa using noBreak
  | cons noBreak _ ih => simpa using ⟨noBreak, ih⟩

theorem terminated_of_mem_dropLast (h : IsLineTable lines) :
    ∀ line ∈ lines.dropLast, line.terminated = true := by
  induction h with
  | nil => simp
  | rest => simp
  | @cons content lines _ _ ih =>
      cases lines with
      | nil => simp
      | cons next below => simpa using ih

theorem content_ne_nil (h : IsLineTable lines) :
    ∀ line ∈ lines, line.terminated = false → line.content ≠ [] := by
  induction h with
  | nil => simp
  | rest notEmpty _ => simpa using notEmpty
  | cons _ _ ih => simpa using ih

theorem flatMap_chars_eq_nil_iff (h : IsLineTable lines) :
    lines.flatMap PhysicalLine.chars = [] ↔ lines = [] := by
  cases h with
  | nil => simp
  | rest notEmpty _ => simpa using notEmpty
  | cons => simp

/-- Lines can be told from their characters. -/
theorem eq_of_flatMap_chars_eq (h : IsLineTable lines) (h' : IsLineTable others)
    (same : lines.flatMap PhysicalLine.chars = others.flatMap PhysicalLine.chars) :
    lines = others := by
  -- The first lines are the same, since their first line feeds are; then the lines below are.
  induction h generalizing others with
  | nil => exact (h'.flatMap_chars_eq_nil_iff.1 same.symm).symm
  | @rest content notEmpty noBreak =>
      simp only [List.flatMap_cons, PhysicalLine.chars_mk_false, List.flatMap_nil,
        List.append_nil] at same
      cases h' with
      | nil => exact absurd same notEmpty
      | rest _ _ => simpa using same
      -- The one line has no line feed, the others have one at least.
      | cons => exact absurd (by simp [same]) noBreak
  | @cons content below noBreak _ ih =>
      cases h' with
      | nil => simp at same
      | rest _ noBreak' =>
          have isBreak := congrArg ('\n' ∈ ·) same
          simp [noBreak'] at isBreak
      | cons noBreak' table =>
          simp only [List.flatMap_cons, PhysicalLine.chars_mk_true, List.append_assoc,
            List.singleton_append] at same
          rcases append_lineFeed_inj noBreak noBreak' same with ⟨rfl, sameBelow⟩
          rw [ih table sameBelow]

/-- Lines joined are their characters without the last line feed, if that is the last of them. -/
theorem joinLines_eq (h : IsLineTable lines) :
    joinLines (lines.map PhysicalLine.content) =
      if (lines.flatMap PhysicalLine.chars).getLast? = some '\n' then
        (lines.flatMap PhysicalLine.chars).dropLast
      else lines.flatMap PhysicalLine.chars := by
  -- Joining puts a line feed behind each line but the last one.
  induction h with
  | nil => rfl
  | @rest content _ noBreak =>
      have notLast : content.getLast? ≠ some '\n' := fun last =>
        noBreak (List.mem_of_getLast? last)
      simp [joinLines, notLast]
  | @cons content below _ table ih =>
      by_cases isLast : below = []
      · simp [isLast, joinLines]
      · have notEmpty : below.flatMap PhysicalLine.chars ≠ [] := fun empty =>
          isLast (table.flatMap_chars_eq_nil_iff.1 empty)
        have last : (content ++ '\n' :: below.flatMap PhysicalLine.chars).getLast? =
            (below.flatMap PhysicalLine.chars).getLast? := by
          rw [List.append_cons, List.getLast?_append_of_ne_nil _ notEmpty]
        rw [List.map_cons, joinLines_cons (by simpa using isLast), ih, List.flatMap_cons,
          PhysicalLine.chars_mk_true, List.append_assoc, List.singleton_append, last]
        split
        · simp [List.dropLast_append_of_ne_nil, List.dropLast_cons_of_ne_nil notEmpty]
        · rfl

end IsLineTable

/-! ## The lines of a text -/

theorem isLineTable_physicalLines (text : List Char) : IsLineTable (physicalLines text) := by
  induction text using line_induction with
  | last line hline =>
      rw [physicalLines_of_not_mem hline]
      cases line with
      | nil => exact .nil
      | cons c cs => exact .rest (List.cons_ne_nil c cs) hline
  | step line rest hline ih =>
      rw [physicalLines_append_cons hline]
      unfold PhysicalLine.beforeLineFeed
      split
      case isTrue =>
        exact .cons (fun isBreak => hline ((List.dropLast_sublist line).subset isBreak)) ih
      case isFalse => exact .cons hline ih

theorem withoutReturns_of_not_mem {line : List Char} (h : '\n' ∉ line) :
    withoutReturns line = line := by
  induction line with
  | nil => rfl
  | cons c cs ih =>
      rw [List.mem_cons, not_or] at h
      have noBreak : cs.head? ≠ some '\n' := fun first => h.2 (List.mem_of_head? first)
      simp [withoutReturns, noBreak, ih h.2]

/-- What a line feed takes from the line before it is what the line does not hold. -/
theorem withoutReturns_append_cons {line : List Char} (h : '\n' ∉ line) (rest : List Char) :
    withoutReturns (line ++ '\n' :: rest) =
      (PhysicalLine.beforeLineFeed line).chars ++ withoutReturns rest := by
  induction line with
  | nil => simp [withoutReturns, PhysicalLine.beforeLineFeed]
  | cons c cs ih =>
      rw [List.mem_cons, not_or] at h
      cases cs with
      | nil =>
          -- The character directly in front of the line feed.
          by_cases isReturn : c = '\r'
          · simp [isReturn, withoutReturns, PhysicalLine.beforeLineFeed]
          · simp [isReturn, withoutReturns, PhysicalLine.beforeLineFeed]
      | cons d ds =>
          have noBreak : d ≠ '\n' := fun e => h.2 (by simp [e])
          have further : (PhysicalLine.beforeLineFeed (c :: d :: ds)).chars =
              c :: (PhysicalLine.beforeLineFeed (d :: ds)).chars := by
            unfold PhysicalLine.beforeLineFeed
            rw [List.getLast?_cons_cons]
            split <;> simp
          rw [further, List.cons_append, withoutReturns, if_neg (by simp [noBreak]), ih h.2,
            List.cons_append]

theorem flatMap_chars_physicalLines (text : List Char) :
    (physicalLines text).flatMap PhysicalLine.chars = withoutReturns text := by
  induction text using line_induction with
  | last line hline =>
      rw [physicalLines_of_not_mem hline, withoutReturns_of_not_mem hline]
      cases line <;> simp [PhysicalLine.remainder]
  | step line rest hline ih =>
      rw [physicalLines_append_cons hline, withoutReturns_append_cons hline, List.flatMap_cons, ih]

/-- Two texts have the same lines just when they differ by carriage returns before line feeds
only. -/
theorem physicalLines_eq_iff {text other : List Char} :
    physicalLines text = physicalLines other ↔ withoutReturns text = withoutReturns other := by
  rw [← flatMap_chars_physicalLines text, ← flatMap_chars_physicalLines other]
  constructor
  · intro same
    rw [same]
  · exact (isLineTable_physicalLines text).eq_of_flatMap_chars_eq (isLineTable_physicalLines other)

/-! ## Texts without carriage returns -/

/-- A text loses nothing when no carriage return stands directly before a line feed. -/
theorem withoutReturns_eq_self {text : List Char} (h : ¬ ['\r', '\n'] <:+: text) :
    withoutReturns text = text := by
  induction text with
  | nil => rfl
  | cons c cs ih =>
      rw [List.infix_cons_iff, not_or] at h
      have kept : ¬ (c = '\r' ∧ cs.head? = some '\n') := by
        rintro ⟨rfl, first⟩
        rcases List.head?_eq_some_iff.1 first with ⟨rest, rfl⟩
        exact h.1 ⟨rest, rfl⟩
      rw [withoutReturns, if_neg kept, ih h.2]

theorem withoutReturns_of_plain {text : List Char} (plain : '\r' ∉ text) :
    withoutReturns text = text :=
  withoutReturns_eq_self fun pair => plain (pair.subset List.mem_cons_self)

/-- A text without carriage returns is its lines joined, but for a line feed at its end. -/
theorem joinLines_map_content {text : List Char} (plain : '\r' ∉ text) :
    joinLines ((physicalLines text).map PhysicalLine.content) =
      if text.getLast? = some '\n' then text.dropLast else text := by
  rw [(isLineTable_physicalLines text).joinLines_eq, flatMap_chars_physicalLines,
    withoutReturns_of_plain plain]

/-- Without the line feed at its end, a text has the same lines, but for the last one: that is not
terminated, and is no line at all when it is empty. -/
theorem physicalLines_dropLast {text : List Char} (plain : '\r' ∉ text)
    (ends : text.getLast? = some '\n') {rows : List PhysicalLine} {last : List Char}
    (lines : physicalLines text = rows ++ [⟨last, true⟩])
    (terminated : ∀ row ∈ rows, row.terminated = true) :
    physicalLines text.dropLast = rows ++ PhysicalLine.remainder last := by
  have plainLines : ∀ line ∈ physicalLines text, IsPlainLine line.content := fun line =>
    isPlainLine_of_mem_physicalLines plain
  rw [lines] at plainLines
  have plainRows : ∀ line ∈ rows.map PhysicalLine.content, IsPlainLine line := by
    intro line hline
    rcases List.mem_map.1 hline with ⟨row, hrow, rfl⟩
    exact plainLines row (List.mem_append_left _ hrow)
  have plainLast : '\n' ∉ last := (plainLines ⟨last, true⟩ (by simp)).1
  -- All rows but the last keep their line feeds, so they are made from their contents again.
  have again : (rows.map PhysicalLine.content).map (⟨·, true⟩) = rows := by
    rw [List.map_map]
    refine (List.map_congr_left fun row hrow => ?_).trans (List.map_id rows)
    rcases row with ⟨content, ends⟩
    exact congrArg _ (terminated _ hrow).symm
  have joined := joinLines_map_content plain
  rw [if_pos ends, lines, List.map_append, List.map_singleton, joinLines_concat] at joined
  rw [← joined, physicalLines_flatMap_append plainRows plainLast, again]

/-! ## Carriage returns put in -/

theorem head?_withReturns_ne (text : List Char) : (withReturns text).head? ≠ some '\n' := by
  cases text with
  | nil => simp [withReturns]
  | cons c cs => by_cases isBreak : c = '\n' <;> simp [withReturns, isBreak]

/-- What is put in can be taken out again. -/
theorem withoutReturns_withReturns (text : List Char) :
    withoutReturns (withReturns text) = text := by
  induction text with
  | nil => rfl
  | cons c cs ih =>
      by_cases isBreak : c = '\n'
      · subst isBreak
        change withoutReturns ('\r' :: '\n' :: withReturns cs) = '\n' :: cs
        simp [withoutReturns, ih]
      · have split : withReturns (c :: cs) = c :: withReturns cs := by
          simp [withReturns, isBreak]
        rw [split, withoutReturns, if_neg (fun both => head?_withReturns_ne cs both.2), ih]

theorem physicalLines_withReturns {text : List Char} (h : ¬ ['\r', '\n'] <:+: text) :
    physicalLines (withReturns text) = physicalLines text := by
  rw [physicalLines_eq_iff, withoutReturns_withReturns, withoutReturns_eq_self h]

end Text
end EditorAnalysis
