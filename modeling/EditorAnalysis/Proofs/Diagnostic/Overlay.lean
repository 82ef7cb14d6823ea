import EditorAnalysis.Diagnostic

/-!
# Marked characters

Diagnostics are marked one after the other. In the end a character has an error mark if it had one
before, or if one of the diagnostics fits into its row and reaches over it; categories and the
shape of the text stay as they were.
-/

namespace EditorAnalysis
namespace Diagnostic

variable {d : Diagnostic} {diagnostics : List Diagnostic} {row length column : Nat}

/-- Whether a diagnostic is marked on a character of a row of `length` characters. -/
def Marks (d : Diagnostic) (row length column : Nat) : Prop :=
  d.line = row ∧ d.stop ≤ length ∧ d.start ≤ column ∧ column < d.stop

instance (d : Diagnostic) (row length column : Nat) : Decidable (d.Marks row length column) :=
  inferInstanceAs (Decidable (_ ∧ _ ∧ _ ∧ _))

/-- The classes of a row with diagnostics marked on them. -/
def markedRow (diagnostics : List Diagnostic) (row : Nat) (classes : List CharClass) :
    List CharClass :=
  classes.mapIdx fun column c =>
    if ∃ d ∈ diagnostics, d.Marks row classes.length column then c.withError else c

@[simp] theorem length_markedRow (diagnostics : List Diagnostic) (row : Nat)
    (classes : List CharClass) : (markedRow diagnostics row classes).length = classes.length :=
  List.length_mapIdx

theorem getElem?_markedRow (diagnostics : List Diagnostic) (row : Nat) (classes : List CharClass)
    (column : Nat) :
    (markedRow diagnostics row classes)[column]? = classes[column]?.map fun c =>
      if ∃ d ∈ diagnostics, d.Marks row classes.length column then c.withError else c := by
  simp [markedRow]

/-- Diagnostics that fall on no character of a row leave it as it is. -/
theorem markedRow_eq_self {classes : List CharClass}
    (h : ∀ d ∈ diagnostics, ∀ column, ¬ d.Marks row classes.length column) :
    markedRow diagnostics row classes = classes := by
  apply List.ext_getElem?
  intro column
  have unmarked : ¬ ∃ d ∈ diagnostics, d.Marks row classes.length column := by
    rintro ⟨d, hd, marks⟩
    exact h d hd column marks
  simp [getElem?_markedRow, unmarked]

theorem markedRow_cons (d : Diagnostic) (rest : List Diagnostic) (row : Nat)
    (classes : List CharClass) :
    markedRow (d :: rest) row classes = markedRow rest row (markedRow [d] row classes) := by
  apply List.ext_getElem?
  intro column
  simp only [getElem?_markedRow, length_markedRow, Option.map_map]
  refine Option.map_congr fun c _ => ?_
  -- A second mark on a character does not show.
  by_cases first : d.Marks row classes.length column
  · by_cases second : ∃ e ∈ rest, e.Marks row classes.length column
    · simp [first, second]
    · simp [first, second]
  · simp [first]

theorem getElem?_mark (d : Diagnostic) (rows : List (List CharClass)) (row : Nat) :
    (d.mark rows)[row]? = rows[row]?.map (markedRow [d] row) := by
  rw [mark, List.getElem?_modify]
  refine Option.map_congr fun classes _ => ?_
  by_cases here : d.line = row
  · by_cases fits : d.stop ≤ classes.length
    · simp [here, fits, markRange, markedRow, Marks]
    · have unmarked : markedRow [d] row classes = classes := by
        apply markedRow_eq_self
        simp [Marks, fits]
      simp [here, fits, unmarked]
  · have unmarked : markedRow [d] row classes = classes := by
      apply markedRow_eq_self
      simp [Marks, here]
    simp [here, unmarked]

theorem getElem?_overlay (diagnostics : List Diagnostic) (rows : List (List CharClass))
    (row : Nat) :
    (overlay diagnostics rows)[row]? = rows[row]?.map (markedRow diagnostics row) := by
  induction diagnostics generalizing rows with
  | nil =>
      have unmarked : markedRow [] row = id := by
        funext classes
        exact markedRow_eq_self fun d hd => by cases hd
      rw [unmarked, Option.map_id]
      rfl
  | cons d rest ih =>
      calc
        (overlay (d :: rest) rows)[row]?
            = (d.mark rows)[row]?.map (markedRow rest row) := ih (d.mark rows)
        _ = (rows[row]?.map (markedRow [d] row)).map (markedRow rest row) := by
            rw [getElem?_mark]
        _ = rows[row]?.map (markedRow (d :: rest) row) := by
            rw [Option.map_map]
            refine Option.map_congr fun classes _ => ?_
            exact (markedRow_cons d rest row classes).symm

theorem overlay_eq_mapIdx (diagnostics : List Diagnostic) (rows : List (List CharClass)) :
    overlay diagnostics rows = rows.mapIdx (markedRow diagnostics) := by
  apply List.ext_getElem?
  intro row
  rw [getElem?_overlay, List.getElem?_mapIdx]

@[simp] theorem length_overlay (diagnostics : List Diagnostic) (rows : List (List CharClass)) :
    (overlay diagnostics rows).length = rows.length := by
  rw [overlay_eq_mapIdx, List.length_mapIdx]

theorem overlay_append (front back : List Diagnostic) (rows : List (List CharClass)) :
    overlay (front ++ back) rows = overlay back (overlay front rows) :=
  List.foldl_append

/-- Neither the order of the diagnostics matters nor how often one of them comes. -/
theorem overlay_congr {others : List Diagnostic} (same : ∀ d, d ∈ others ↔ d ∈ diagnostics)
    (rows : List (List CharClass)) : overlay others rows = overlay diagnostics rows := by
  have marked : markedRow others = markedRow diagnostics := by
    funext row classes
    simp only [markedRow, same]
  rw [overlay_eq_mapIdx, overlay_eq_mapIdx, marked]

/-! ## What a mark leaves -/

/-- What does not change by a mark stays as it is in a row. -/
theorem map_markedRow {α : Type} {f : CharClass → α} (kept : ∀ c : CharClass, f c.withError = f c)
    (diagnostics : List Diagnostic) (row : Nat) (classes : List CharClass) :
    (markedRow diagnostics row classes).map f = classes.map f := by
  apply List.ext_getElem?
  intro column
  rw [List.getElem?_map, List.getElem?_map, getElem?_markedRow, Option.map_map]
  refine Option.map_congr fun c _ => ?_
  by_cases marked : ∃ d ∈ diagnostics, d.Marks row classes.length column
  · simp [marked, kept]
  · simp [marked]

theorem map_category_markedRow (diagnostics : List Diagnostic) (row : Nat)
    (classes : List CharClass) :
    (markedRow diagnostics row classes).map CharClass.category =
      classes.map CharClass.category :=
  map_markedRow CharClass.category_withError diagnostics row classes

/-- A character has an error mark in the end if it had one, or if a diagnostic is marked on it. -/
theorem hasError_markedRow_iff {classes : List CharClass} {c marked : CharClass}
    (before : classes[column]? = some c)
    (after : (markedRow diagnostics row classes)[column]? = some marked) :
    marked.hasError = true ↔
      c.hasError = true ∨ ∃ d ∈ diagnostics, d.Marks row classes.length column := by
  rw [getElem?_markedRow, before, Option.map_some, Option.some.injEq] at after
  subst after
  by_cases any : ∃ d ∈ diagnostics, d.Marks row classes.length column
  · simp [any]
  · simp [any]

/-! ## Ranges within their rows -/

/-- A row with a range of it marked. Ends that are out of order or not in the row are no range. -/
def markSlice? (start stop : Nat) (row : List CharClass) : Option (List CharClass) :=
  if start ≤ stop ∧ stop ≤ row.length then
    some (row.take start ++ ((row.take stop).drop start).map CharClass.withError ++ row.drop stop)
  else none

/-- Marks a diagnostic, with no result if its ends are then no range of its row. -/
def mark? (d : Diagnostic) (rows : List (List CharClass)) : Option (List (List CharClass)) :=
  match rows[d.line]? with
  | none => some rows
  | some row =>
    if d.stop ≤ row.length then (markSlice? d.start d.stop row).map (rows.set d.line ·)
    else some rows

/-- Marks a list of diagnostics, with no result if one of them has none. -/
def overlay? (diagnostics : List Diagnostic) (rows : List (List CharClass)) :
    Option (List (List CharClass)) :=
  diagnostics.foldlM (fun rows d => d.mark? rows) rows

/-- A sum that stops at the greatest word is not below its first term. -/
theorem start_le_stop (word : d.start ≤ maxWord) : d.start ≤ d.stop :=
  Nat.le_min.2 ⟨Nat.le_add_right _ _, word⟩

theorem markSlice?_eq_some {start stop : Nat} {row : List CharClass} (ordered : start ≤ stop)
    (inside : stop ≤ row.length) : markSlice? start stop row = some (markRange start stop row) := by
  rw [markSlice?, if_pos ⟨ordered, inside⟩, Option.some.injEq]
  have front : (row.take start).length = start :=
    List.length_take_of_le (Nat.le_trans ordered inside)
  have middle : (((row.take stop).drop start).map CharClass.withError).length = stop - start := by
    simp [Nat.min_eq_left inside]
  apply List.ext_getElem?
  intro column
  rw [markRange, List.getElem?_mapIdx, List.append_assoc]
  rcases Nat.lt_or_ge column start with before | after
  · rw [List.getElem?_append_left (by omega), List.getElem?_take_of_lt before]
    simp [Nat.not_le.2 before]
  · rw [List.getElem?_append_right (by omega), front]
    rcases Nat.lt_or_ge column stop with within | behind
    · rw [List.getElem?_append_left (by omega), List.getElem?_map, List.getElem?_drop,
        Nat.add_sub_cancel' after, List.getElem?_take_of_lt within]
      simp [after, within]
    · have place : stop + (column - start - (stop - start)) = column := by omega
      rw [List.getElem?_append_right (by omega), middle, List.getElem?_drop, place]
      simp [Nat.not_lt.2 behind]

theorem mark?_eq_some (word : d.start ≤ maxWord) (rows : List (List CharClass)) :
    d.mark? rows = some (d.mark rows) := by
  rw [mark?, mark]
  cases here : rows[d.line]? with
  | none => rw [List.modify_eq_self (List.getElem?_eq_none_iff.1 here)]
  | some row =>
      rw [List.modify_eq_set, here, Option.getD_some]
      by_cases fits : d.stop ≤ row.length
      · simp [fits, markSlice?_eq_some (start_le_stop word) fits]
      · rcases List.getElem?_eq_some_iff.1 here with ⟨inside, rfl⟩
        simp [fits]

theorem overlay?_eq_some (words : ∀ d ∈ diagnostics, d.start ≤ maxWord)
    (rows : List (List CharClass)) :
    overlay? diagnostics rows = some (overlay diagnostics rows) := by
  induction diagnostics generalizing rows with
  | nil => rfl
  | cons d rest ih =>
      rw [overlay?, List.foldlM_cons, mark?_eq_some (words d List.mem_cons_self)]
      exact ih (fun e he => words e (List.mem_cons_of_mem _ he)) (d.mark rows)

/-! ## The whole overlay -/

/-- Marking never asks for a range that a row does not have. In the end a class has got the error
bit just when some diagnostic of its row fits into the row and reaches over it; every other class
and every other bit is what it was. So diagnostics in another order mark the same, and a second
time they mark nothing new. -/
theorem overlay_marks_exactly (diagnostics : List Diagnostic) (rows : List (List CharClass))
    (words : ∀ d ∈ diagnostics, d.start ≤ maxWord) :
    overlay? diagnostics rows = some (overlay diagnostics rows) ∧
      overlay diagnostics rows = rows.mapIdx (fun row classes => classes.mapIdx fun column c =>
        if ∃ d ∈ diagnostics, d.line = row ∧ d.stop ≤ classes.length ∧
          d.start ≤ column ∧ column < d.stop
        then ⟨c.bits ||| 0x8000⟩ else c) ∧
      (overlay diagnostics rows).map (·.map fun c => c.bits &&& 0x7FFF) =
        rows.map (·.map fun c => c.bits &&& 0x7FFF) ∧
      (∀ others, others.Perm diagnostics → overlay others rows = overlay diagnostics rows) ∧
      overlay diagnostics (overlay diagnostics rows) = overlay diagnostics rows := by
  refine ⟨overlay?_eq_some words rows, overlay_eq_mapIdx diagnostics rows, ?_, ?_, ?_⟩
  · have kept (c : CharClass) : c.withError.bits &&& 0x7FFF = c.bits &&& 0x7FFF :=
      CharClass.or_error_and_of_apart rfl c.bits
    apply List.ext_getElem?
    intro row
    rw [List.getElem?_map, List.getElem?_map, getElem?_overlay, Option.map_map]
    refine Option.map_congr fun classes _ => ?_
    exact map_markedRow kept diagnostics row classes
  · intro others reordered
    exact overlay_congr (fun d => reordered.mem_iff) rows
  · rw [← overlay_append]
    exact overlay_congr (by simp) rows

/-- Two diagnostics that overlap, two that do not fit, one without characters at the end of its row
and one on no row. -/
theorem overlay_marks_exactly_overlapping :
    let diagnostics : List Diagnostic :=
      [⟨"a", 0, 1, 2, ""⟩, ⟨"b", 0, 0, 2, ""⟩, ⟨"c", 0, 2, 3, ""⟩, ⟨"d", 1, maxWord, 1, ""⟩,
        ⟨"e", 1, 1, 0, ""⟩, ⟨"f", 7, 0, 1, ""⟩]
    let rows : List (List CharClass) := [[⟨3⟩, ⟨0x8001⟩, ⟨0x4F02⟩, ⟨0⟩], [⟨9⟩]]
    (∀ d ∈ diagnostics, d.start ≤ maxWord) ∧
      overlay? diagnostics rows = some [[⟨0x8003⟩, ⟨0x8001⟩, ⟨0xCF02⟩, ⟨0⟩], [⟨9⟩]] ∧
      overlay diagnostics.reverse rows = overlay diagnostics rows := by
  intro diagnostics rows
  have words : ∀ d ∈ diagnostics, d.start ≤ maxWord := by decide
  rcases overlay_marks_exactly diagnostics rows words with ⟨ranged, marked, -, reordered, -⟩
  refine ⟨words, ?_, reordered _ diagnostics.reverse_perm⟩
  rw [ranged, marked]
  decide

end Diagnostic
end EditorAnalysis
