import EditorAnalysis.Proofs.Python.Steps
import Mathlib.Data.List.TakeWhile

/-!
# Open blocks

The blocks that are open in front of a row lie one inside the other, each further right than the
one around it. A row closes blocks from the innermost on, so a row at the margin closes all of
them.
-/

namespace EditorAnalysis
namespace Python

open Text

namespace OpenBlocks

/-- Whether blocks lie one inside the other: each begins further right than the next one of the
list, and the outermost further right than the margin. -/
def Nested (blocks : OpenBlocks) : Prop :=
  (blocks ++ [0]).Pairwise (· > ·)

variable {blocks left : OpenBlocks} {column : Nat} {change : IndentChange}

theorem nested_nil : Nested [] :=
  List.pairwise_singleton _ _

/-- Every block begins right of the margin. -/
theorem Nested.pos (h : Nested blocks) (mem : column ∈ blocks) : 0 < column :=
  (List.pairwise_append.1 h).2.2 column mem 0 List.mem_cons_self

/-- No block begins further right than the innermost one. -/
theorem Nested.le_innermost (h : Nested blocks) (mem : column ∈ blocks ++ [0]) :
    column ≤ innermost blocks := by
  cases blocks with
  | nil =>
      rcases List.mem_singleton.1 mem with rfl
      exact Nat.le_refl 0
  | cons block rest =>
      rcases List.mem_cons.1 mem with rfl | inside
      · exact Nat.le_refl _
      · exact Nat.le_of_lt ((List.pairwise_cons.1 h).1 column inside)

/-- The three ways to a column. -/
theorem moveTo?_eq_some_iff :
    blocks.moveTo? column = some (change, left) ↔
      (innermost blocks < column ∧ change = .opened ∧ left = column :: blocks) ∨
      (column = innermost blocks ∧ change = .same ∧ left = blocks) ∨
      (column < innermost blocks ∧ innermost left = column ∧
        change = .closed (blocks.takeWhile (column < ·)).length ∧
        left = blocks.dropWhile (column < ·)) := by
  -- To the right a block opens, at the innermost column nothing happens, to the left blocks close.
  rcases Nat.lt_trichotomy (innermost blocks) column with right | here | left_
  · have notHere : ¬ column = innermost blocks := Nat.ne_of_gt right
    have notLeft : ¬ column < innermost blocks := Nat.lt_asymm right
    simp [moveTo?, right, notHere, notLeft, eq_comm]
  · have notRight : ¬ innermost blocks < column := Nat.not_lt_of_le (Nat.le_of_eq here.symm)
    have notLeft : ¬ column < innermost blocks := Nat.not_lt_of_le (Nat.le_of_eq here)
    simp [moveTo?, here, eq_comm]
  · have notHere : ¬ column = innermost blocks := Nat.ne_of_lt left_
    have notRight : ¬ innermost blocks < column := Nat.lt_asymm left_
    simp only [moveTo?, notRight, notHere, if_false, left_, false_and, false_or, true_and]
    constructor
    · intro moved
      split at moved
      · next at_ =>
          cases moved
          exact ⟨at_, rfl, rfl⟩
      · cases moved
    · rintro ⟨at_, rfl, rfl⟩
      simp [at_]

/-- Blocks that lie one inside the other still do after a move. -/
theorem Nested.of_moveTo? (h : Nested blocks)
    (moved : blocks.moveTo? column = some (change, left)) : Nested left := by
  rcases moveTo?_eq_some_iff.1 moved with ⟨right, -, rfl⟩ | ⟨-, -, rfl⟩ | ⟨-, -, -, rfl⟩
  · refine List.pairwise_cons.2 ⟨fun other mem => ?_, h⟩
    exact Nat.lt_of_le_of_lt (h.le_innermost mem) right
  · exact h
  · -- The blocks that stay are the outer ones.
    exact h.sublist ((List.dropWhile_sublist _).append_right [0])

/-- A row at the margin closes all blocks. -/
theorem Nested.moveTo?_margin (h : Nested blocks) :
    ∃ change, blocks.moveTo? 0 = some (change, []) := by
  cases blocks with
  | nil => exact ⟨.same, rfl⟩
  | cons block rest =>
      have inside : ∀ column ∈ block :: rest, decide (0 < column) = true := fun column mem =>
        decide_eq_true (h.pos mem)
      have none_ : (block :: rest).dropWhile (0 < ·) = [] := List.dropWhile_eq_nil_iff.2 inside
      refine ⟨.closed (List.takeWhile (0 < ·) (block :: rest)).length, ?_⟩
      apply moveTo?_eq_some_iff.2
      exact Or.inr (Or.inr ⟨h.pos List.mem_cons_self, rfl, rfl, none_.symm⟩)

end OpenBlocks

/-- A row leaves blocks that lie one inside the other when it starts with such. -/
theorem Steps.nested {row : Nat} {line : PhysicalLine} {carry next : Carry} {tokens : List Token}
    (h : Steps row line carry tokens next) (nested : carry.blocks.Nested) :
    next.blocks.Nested := by
  cases h with
  | blankRow => exact nested
  | statement _ moved _ =>
      rw [blocks_finishRow]
      exact nested.of_moveTo? moved
  | goesOn =>
      rw [blocks_finishRow]
      exact nested
  | stringCloses =>
      rw [blocks_finishRow]
      exact nested
  | stringGoesOn => exact nested
  | stringBreaks => exact nested

end Python
end EditorAnalysis
