import EditorAnalysis.Proofs.Classifier.Painting
import EditorAnalysis.Proofs.Classifier.Table

/-!
# Depths of blocks

When tokens stand in order, a row enters with the depth behind all tokens that begin in it or
above it. Streams that agree on the tokens of blocks, on what marks the table and on the number of
logical lines make the same table.
-/

namespace EditorAnalysis

open Text

namespace Token

/-- Whether a token opens or closes a block. -/
def isBlockToken (t : Token) : Bool :=
  t.kind == .indent || t.kind == .dedent

/-- The depth of blocks behind a token. A block that is not open is not closed. -/
def depthAfter (depth : Nat) (t : Token) : Nat :=
  match t.kind with
  | .indent => depth + 1
  | .dedent => depth - 1
  | _ => depth

end Token

/-- The depth of blocks behind a list of tokens. -/
def blockDepth (depth : Nat) (tokens : List Token) : Nat :=
  tokens.foldl Token.depthAfter depth

variable {tokens : List Token}

@[simp] theorem blockDepth_append (depth : Nat) (front back : List Token) :
    blockDepth depth (front ++ back) = blockDepth (blockDepth depth front) back :=
  List.foldl_append

/-- A token of a block changes the depth in its row, any other token does not. -/
theorem depthChanges_cons (depth : Nat) (t : Token) (rest : List Token) :
    depthChanges depth (t :: rest) =
      (if t.isBlockToken = true then [(t.start.line, t.depthAfter depth)] else []) ++
        depthChanges (t.depthAfter depth) rest := by
  rcases t with ⟨kind, text, start, stop⟩
  cases kind <;> rfl

theorem depthAfter_of_not_isBlockToken {t : Token} (h : t.isBlockToken = false) (depth : Nat) :
    t.depthAfter depth = depth := by
  rcases t with ⟨kind, text, start, stop⟩
  cases kind with
  | indent | dedent => cases h
  | _ => rfl

theorem blockDepth_of_flat (h : ∀ t ∈ tokens, t.isBlockToken = false) (depth : Nat) :
    blockDepth depth tokens = depth := by
  induction tokens with
  | nil => rfl
  | cons t rest ih =>
      have here := depthAfter_of_not_isBlockToken (h t List.mem_cons_self) depth
      have later := ih fun u hu => h u (List.mem_cons_of_mem _ hu)
      rw [blockDepth, List.foldl_cons, here]
      exact later

/-- Changes of the depth come from the tokens of blocks, in their order. -/
theorem map_fst_depthChanges (depth : Nat) (tokens : List Token) :
    (depthChanges depth tokens).map (·.1) =
      (tokens.filter Token.isBlockToken).map (·.start.line) := by
  induction tokens generalizing depth with
  | nil => rfl
  | cons t rest ih =>
      rw [depthChanges_cons, List.map_append, ih]
      by_cases isBlock : t.isBlockToken = true
      · simp [isBlock]
      · simp [isBlock]

theorem depthChanges_filter_isBlockToken (depth : Nat) (tokens : List Token) :
    depthChanges depth (tokens.filter Token.isBlockToken) = depthChanges depth tokens := by
  induction tokens generalizing depth with
  | nil => rfl
  | cons t rest ih =>
      by_cases isBlock : t.isBlockToken = true
      · rw [List.filter_cons_of_pos isBlock, depthChanges_cons, depthChanges_cons, ih]
      · have same := depthAfter_of_not_isBlockToken (Bool.eq_false_iff.2 isBlock) depth
        rw [List.filter_cons_of_neg isBlock, depthChanges_cons, ih, same, if_neg isBlock,
          List.nil_append]

/-! ## The depth that a row enters with -/

/-- Among changes in order, the last one up to a row is in the row, or else the last one up to the
row above. -/
theorem find?_le_succ {changes : List (Nat × Nat)}
    (backwards : changes.Pairwise fun c d => d.1 ≤ c.1) (row : Nat) :
    changes.find? (fun c => decide (c.1 ≤ row + 1)) =
      (changes.find? fun c => c.1 == row + 1).or
        (changes.find? fun c => decide (c.1 ≤ row)) := by
  induction changes with
  | nil => rfl
  | cons c rest ih =>
      rcases List.pairwise_cons.1 backwards with ⟨behind, backwardsRest⟩
      -- The first change of the list is the last one of the text: it may be above the row, in it or
      -- below it. In the first case no other change is in the row either.
      rcases Nat.lt_trichotomy c.1 (row + 1) with above | here | below
      · have inRow : c.1 ≤ row := Nat.le_of_lt_succ above
        have others : rest.find? (fun c => c.1 == row + 1) = none := by
          apply List.find?_eq_none.2
          intro d hd
          have earlier := Nat.lt_of_le_of_lt (behind d hd) above
          simpa using Nat.ne_of_lt earlier
        have notHere : (c.1 == row + 1) = false := by simpa using Nat.ne_of_lt above
        simp [Nat.le_of_lt above, inRow, others, notHere]
      · simp [here]
      · have notUpTo : ¬ c.1 ≤ row + 1 := Nat.not_le_of_lt below
        have notAbove : ¬ c.1 ≤ row := fun le => notUpTo (Nat.le_succ_of_le le)
        have notHere : (c.1 == row + 1) = false := by simpa using Nat.ne_of_gt below
        simp [notUpTo, notAbove, notHere, ih backwardsRest]

/-- A row enters with the depth of the last change in it or above it. -/
theorem enterDepth_eq_of_ordered {changes : List (Nat × Nat)}
    (ordered : changes.Pairwise fun c d => c.1 ≤ d.1) (row : Nat) :
    enterDepth changes row =
      ((changes.reverse.find? fun c => decide (c.1 ≤ row)).map (·.2)).getD 0 := by
  have backwards := List.pairwise_reverse.2 ordered
  induction row with
  | zero =>
      have first : (fun c : Nat × Nat => c.1 == 0) = fun c => decide (c.1 ≤ 0) := by
        funext c
        rw [Bool.eq_iff_iff]
        simp
      rw [enterDepth, depthAt, first]
  | succ row ih =>
      -- A row without a change of its own enters with the depth of the one above.
      rw [enterDepth, depthAt, ih, find?_le_succ backwards row]
      cases changes.reverse.find? fun c => c.1 == row + 1 <;> rfl

theorem exists_of_mem_depthChanges {depth : Nat} {c : Nat × Nat}
    (h : c ∈ depthChanges depth tokens) : ∃ t ∈ tokens, t.start.line = c.1 := by
  have row : c.1 ∈ (depthChanges depth tokens).map (·.1) := List.mem_map_of_mem h
  rw [map_fst_depthChanges] at row
  rcases List.mem_map.1 row with ⟨t, ht, line⟩
  exact ⟨t, (List.mem_filter.1 ht).1, line⟩

theorem filter_upTo_eq_nil {row : Nat} (below : ∀ t ∈ tokens, row < t.start.line) :
    tokens.filter (fun t => decide (t.start.line ≤ row)) = [] := by
  apply List.filter_eq_nil_iff.2
  intro t ht
  simpa using below t ht

/-- When tokens stand in order, all behind one that begins below a row begin there too. -/
theorem lt_start_line_of_ordered {t : Token} {rest : List Token} {row : Nat}
    (ordered : (t :: rest).Pairwise fun t u => t.start.line ≤ u.start.line)
    (notUpTo : ¬ t.start.line ≤ row) : ∀ u ∈ t :: rest, row < u.start.line := by
  intro u hu
  rcases List.mem_cons.1 hu with rfl | inRest
  · exact Nat.lt_of_not_le notUpTo
  · exact Nat.lt_of_lt_of_le (Nat.lt_of_not_le notUpTo) ((List.pairwise_cons.1 ordered).1 u inRest)

/-- Tokens that begin below a row do not change the depth up to it. -/
theorem find?_depthChanges_eq_none {row : Nat} (below : ∀ t ∈ tokens, row < t.start.line)
    (depth : Nat) :
    (depthChanges depth tokens).reverse.find? (fun c => decide (c.1 ≤ row)) = none := by
  apply List.find?_eq_none.2
  intro c hc
  rcases exists_of_mem_depthChanges (List.mem_reverse.1 hc) with ⟨t, ht, line⟩
  have later := below t ht
  rw [line] at later
  simpa using later

/-- The last change up to a row leaves the depth behind the tokens up to there. -/
theorem getD_find?_depthChanges
    (ordered : tokens.Pairwise fun t u => t.start.line ≤ u.start.line) (depth row : Nat) :
    (((depthChanges depth tokens).reverse.find? fun c => decide (c.1 ≤ row)).map (·.2)).getD
        depth =
      blockDepth depth (tokens.filter fun t => t.start.line ≤ row) := by
  induction tokens generalizing depth with
  | nil => rfl
  | cons t rest ih =>
      by_cases upTo : t.start.line ≤ row
      · have later := ih (List.pairwise_cons.1 ordered).2 (t.depthAfter depth)
        rw [List.filter_cons_of_pos (by simpa using upTo), blockDepth, List.foldl_cons,
          ← blockDepth, ← later, depthChanges_cons, List.reverse_append, List.find?_append]
        -- The changes of the rest come later, so they are looked at first.
        by_cases isBlock : t.isBlockToken = true
        · cases (depthChanges (t.depthAfter depth) rest).reverse.find? fun c => decide (c.1 ≤ row)
          · simp [isBlock, upTo]
          · simp
        · have same := depthAfter_of_not_isBlockToken (Bool.eq_false_iff.2 isBlock) depth
          simp [isBlock, same]
      · have below := lt_start_line_of_ordered ordered upTo
        rw [filter_upTo_eq_nil below, find?_depthChanges_eq_none below]
        rfl

/-- When tokens stand in order, a row enters with the depth behind those that begin in it or above
it. -/
theorem enterDepth_depthChanges
    (ordered : tokens.Pairwise fun t u => t.start.line ≤ u.start.line) (row : Nat) :
    enterDepth (depthChanges 0 tokens) row =
      blockDepth 0 (tokens.filter fun t => t.start.line ≤ row) := by
  have lines : ((depthChanges 0 tokens).map (·.1)).Pairwise (· ≤ ·) := by
    rw [map_fst_depthChanges]
    exact List.pairwise_map.2 (ordered.filter Token.isBlockToken)
  rw [enterDepth_eq_of_ordered (List.pairwise_map.1 lines)]
  exact getD_find?_depthChanges ordered 0 row

/-- Tokens that begin below a row do not count for the depth that it enters with. -/
theorem enterDepth_depthChanges_append {front back : List Token} {row : Nat}
    (ordered : (front ++ back).Pairwise fun t u => t.start.line ≤ u.start.line)
    (upTo : ∀ t ∈ front, t.start.line ≤ row) (below : ∀ t ∈ back, row < t.start.line) :
    enterDepth (depthChanges 0 (front ++ back)) row = blockDepth 0 front := by
  have all : front.filter (fun t => decide (t.start.line ≤ row)) = front := by
    apply List.filter_eq_self.2
    intro t ht
    exact decide_eq_true (upTo t ht)
  calc
    enterDepth (depthChanges 0 (front ++ back)) row
        = blockDepth 0 ((front ++ back).filter fun t => t.start.line ≤ row) :=
          enterDepth_depthChanges ordered row
    _ = blockDepth 0 front := by
          rw [List.filter_append, all, filter_upTo_eq_nil below, List.append_nil]

/-! ## Streams that make the same table -/

/-- Whether two streams agree on all that the table shows. -/
structure Alike (first second : List Token) : Prop where
  marks : first.filter Token.marks = second.filter Token.marks
  blocks : first.filter Token.isBlockToken = second.filter Token.isBlockToken
  logicalLines : countLogicalLines first = countLogicalLines second

namespace Alike

variable {first second front back : List Token}

theorem refl (tokens : List Token) : Alike tokens tokens :=
  ⟨rfl, rfl, rfl⟩

theorem append (fronts : Alike first front) (backs : Alike second back) :
    Alike (first ++ second) (front ++ back) where
  marks := by rw [List.filter_append, List.filter_append, fronts.marks, backs.marks]
  blocks := by rw [List.filter_append, List.filter_append, fronts.blocks, backs.blocks]
  logicalLines := by
    have lines := fronts.logicalLines
    have more := backs.logicalLines
    simp only [countLogicalLines, List.countP_append] at lines more ⊢
    rw [lines, more]

theorem classifiedRows_eq (h : Alike first second) (keywords : KeywordSet) (texts : List String) :
    classifiedRows keywords first texts = classifiedRows keywords second texts := by
  have changes : depthChanges 0 first = depthChanges 0 second := by
    rw [← depthChanges_filter_isBlockToken, h.blocks, depthChanges_filter_isBlockToken]
  rw [classifiedRows_eq_mapIdx, classifiedRows_eq_mapIdx]
  refine List.mapIdx_eq_mapIdx_iff.2 fun row _ => ?_
  have painted (length : Nat) :
      paintedRow keywords first row length = paintedRow keywords second row length :=
    paintedRow_congr (fun column => colourIn?_eq_of_filter_marks_eq h.marks) length
  have errors := rowError_eq_of_filter_marks_eq h.marks row
  rw [rowOf, rowOf, classifiedRow, classifiedRow, painted, errors, rankOf, rankOf, changes]

end Alike
end EditorAnalysis
