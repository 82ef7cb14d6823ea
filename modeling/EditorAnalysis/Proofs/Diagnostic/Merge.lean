import EditorAnalysis.Diagnostic
import Mathlib.Data.List.Induction

/-!
# Merged lists

Merging takes the diagnostics of all producers one after the other. One that came before is passed
over and any other goes to the end. So each is there once, in the order in which they came first;
how they were divided into lists does not matter, nor whether some were merged before, and lists
that come later only add to the end.
-/

namespace EditorAnalysis

/-! ## Lists without repetitions -/

section Firsts

variable {α : Type} [BEq α] [LawfulBEq α]

/-- Whatever follows, a value that is in front is passed over. -/
theorem eraseDups_append_cons_of_mem {a : α} {front : List α} (seen : a ∈ front) (back : List α) :
    (front ++ a :: back).eraseDups = (front ++ back).eraseDups := by
  have passed : (a :: back).removeAll front = back.removeAll front := by
    simp [List.removeAll, seen]
  rw [List.eraseDups_append, List.eraseDups_append, passed]

theorem eraseDups_concat_of_mem {a : α} {front : List α} (seen : a ∈ front) :
    (front ++ [a]).eraseDups = front.eraseDups := by
  rw [eraseDups_append_cons_of_mem seen, List.append_nil]

theorem eraseDups_concat_of_not_mem {a : α} {front : List α} (new : a ∉ front) :
    (front ++ [a]).eraseDups = front.eraseDups ++ [a] := by
  have kept : [a].removeAll front = [a] := by
    simp [List.removeAll, new]
  rw [List.eraseDups_append, kept]
  rfl

theorem nodup_eraseDups (list : List α) : list.eraseDups.Nodup := by
  induction list using List.reverseRecOn with
  | nil => exact List.nodup_nil
  | append_singleton front last ih =>
      by_cases seen : last ∈ front
      · rw [eraseDups_concat_of_mem seen]
        exact ih
      · rw [eraseDups_concat_of_not_mem seen, List.nodup_append]
        refine ⟨ih, List.nodup_cons.2 ⟨List.not_mem_nil, List.nodup_nil⟩, ?_⟩
        rintro a old b isLast rfl
        rw [List.mem_singleton.1 isLast] at old
        exact seen (List.mem_eraseDups.1 old)

/-- What is in a list comes before what is not. -/
theorem idxOf_lt_idxOf_iff {list : List α} {a b : α} :
    list.idxOf a < list.idxOf b ↔ a ∈ list ∧ (b ∈ list → list.idxOf a < list.idxOf b) := by
  by_cases ha : a ∈ list
  · by_cases hb : b ∈ list
    · simp only [ha, hb, true_and, true_implies]
    · have before : list.idxOf a < list.idxOf b := by
        rw [List.idxOf_eq_length hb]
        exact List.idxOf_lt_length_iff.2 ha
      exact iff_of_true before ⟨ha, fun _ => before⟩
  · have notBefore : ¬ list.idxOf a < list.idxOf b := by
      rw [List.idxOf_eq_length ha]
      exact Nat.not_lt.2 List.idxOf_le_length
    exact iff_of_false notBefore fun h => ha h.1

/-- A value behind a list comes after those in the list and before those that are in neither. -/
theorem idxOf_concat_lt_iff {front : List α} {last a b : α} :
    (front ++ [last]).idxOf a < (front ++ [last]).idxOf b ↔
      (a ∈ front ∧ (b ∈ front → front.idxOf a < front.idxOf b)) ∨
        (a ∉ front ∧ b ∉ front ∧ a = last ∧ b ≠ last) := by
  have bound {x : α} (hx : x ∈ front) : front.idxOf x < front.length :=
    List.idxOf_lt_length_iff.2 hx
  have alone : [last].idxOf a < [last].idxOf b ↔ a = last ∧ b ≠ last := by
    rw [idxOf_lt_idxOf_iff, List.mem_singleton, List.mem_singleton]
    constructor
    · rintro ⟨isLast, before⟩
      refine ⟨isLast, fun same => ?_⟩
      rw [isLast, same] at before
      exact Nat.lt_irrefl _ (before rfl)
    · rintro ⟨isLast, notLast⟩
      exact ⟨isLast, fun same => absurd same notLast⟩
  rw [List.idxOf_append, List.idxOf_append]
  by_cases ha : a ∈ front
  · by_cases hb : b ∈ front
    · simp [ha, hb]
    · rw [if_pos ha, if_neg hb]
      exact iff_of_true (Nat.lt_add_left _ (bound ha)) (.inl ⟨ha, fun inFront => absurd inFront hb⟩)
  · by_cases hb : b ∈ front
    · rw [if_neg ha, if_pos hb]
      have after : front.idxOf b ≤ [last].idxOf a + front.length :=
        Nat.le_add_left_of_le (Nat.le_of_lt (bound hb))
      exact iff_of_false (Nat.not_lt.2 after) (by simp [ha, hb])
    · rw [if_neg ha, if_neg hb, Nat.add_lt_add_iff_right, alone]
      simp [ha, hb]

/-- Of two values the one that came first still comes first. -/
theorem idxOf_eraseDups_lt_iff (list : List α) (a b : α) :
    list.eraseDups.idxOf a < list.eraseDups.idxOf b ↔ list.idxOf a < list.idxOf b := by
  induction list using List.reverseRecOn with
  | nil => rfl
  | append_singleton front last ih =>
      by_cases seen : last ∈ front
      · have notLast : ¬ (a ∉ front ∧ b ∉ front ∧ a = last ∧ b ≠ last) := by
          rintro ⟨absent, -, rfl, -⟩
          exact absent seen
        rw [eraseDups_concat_of_mem seen, ih, idxOf_concat_lt_iff, or_iff_left notLast]
        exact idxOf_lt_idxOf_iff
      · rw [eraseDups_concat_of_not_mem seen, idxOf_concat_lt_iff, idxOf_concat_lt_iff,
          List.mem_eraseDups, List.mem_eraseDups, ih]

/-- Repetitions within a part may be left out before. -/
theorem eraseDups_append_eraseDups_append (front list back : List α) :
    (front ++ list.eraseDups ++ back).eraseDups = (front ++ list ++ back).eraseDups := by
  induction list using List.reverseRecOn generalizing back with
  | nil => rfl
  | append_singleton list last ih =>
      by_cases seen : last ∈ list
      · have passed : last ∈ front ++ list := List.mem_append_right front seen
        calc
          (front ++ (list ++ [last]).eraseDups ++ back).eraseDups
              = (front ++ list.eraseDups ++ back).eraseDups := by
                rw [eraseDups_concat_of_mem seen]
          _ = (front ++ list ++ back).eraseDups := ih back
          _ = (front ++ list ++ last :: back).eraseDups :=
                (eraseDups_append_cons_of_mem passed back).symm
          _ = (front ++ (list ++ [last]) ++ back).eraseDups := by simp
      · calc
          (front ++ (list ++ [last]).eraseDups ++ back).eraseDups
              = (front ++ list.eraseDups ++ last :: back).eraseDups := by
                rw [eraseDups_concat_of_not_mem seen]
                simp
          _ = (front ++ list ++ last :: back).eraseDups := ih (last :: back)
          _ = (front ++ (list ++ [last]) ++ back).eraseDups := by simp

end Firsts

/-! ## Diagnostics -/

namespace Diagnostic

variable {d : Diagnostic} {own : List Diagnostic} {others : List (List Diagnostic)}

theorem mem_merge : d ∈ merge own others ↔ d ∈ own ∨ ∃ list ∈ others, d ∈ list := by
  simp [merge]

/-- A merged list has each diagnostic once, in the order in which they come first in all lists. It
depends on the checkers' diagnostics only as they follow each other, not on where one list ends; a
merged list in the place of what was merged gives the same; and lists behind it only add to it. -/
theorem merge_keeps_firsts (own : List Diagnostic) (others : List (List Diagnostic)) :
    (merge own others).Nodup ∧
      (∀ d, d ∈ merge own others ↔ d ∈ own ++ others.flatten) ∧
      (∀ a b, (merge own others).idxOf a < (merge own others).idxOf b ↔
        (own ++ others.flatten).idxOf a < (own ++ others.flatten).idxOf b) ∧
      merge own others = merge own [others.flatten] ∧
      (∀ more, merge (merge own others) more = merge own (others ++ more)) ∧
      (∀ first before after, merge first (before ++ merge own others :: after) =
        merge first (before ++ own :: others ++ after)) ∧
      ∀ more, merge own others <+: merge own (others ++ more) := by
  refine ⟨nodup_eraseDups _, fun d => List.mem_eraseDups, idxOf_eraseDups_lt_iff _, ?_, ?_, ?_, ?_⟩
  · simp [merge]
  · intro more
    have merged := eraseDups_append_eraseDups_append [] (own ++ others.flatten) more.flatten
    simpa [merge] using merged
  · intro first before after
    have merged := eraseDups_append_eraseDups_append (first ++ before.flatten)
      (own ++ others.flatten) after.flatten
    simpa [merge] using merged
  · intro more
    have all : own ++ (others ++ more).flatten = own ++ others.flatten ++ more.flatten := by simp
    have added := @List.eraseDups_append _ _ _ (own ++ others.flatten) more.flatten
    rw [merge, merge, all, added]
    exact List.prefix_append _ _

end Diagnostic
end EditorAnalysis
