import EditorAnalysis.Proofs.Classifier.Ranks

/-!
# Blocks that nest

Tokens nest when none of them closes a block that is not open. Then the depth of blocks is a
difference: of the tokens that open a block and those that close one. The depth of a row counts the
tokens that begin in it or above it.
-/

namespace EditorAnalysis

/-- Tokens in front of which so many blocks are open, and behind which so many are. -/
inductive Nests : Nat → List Token → Nat → Prop where
  | done {depth : Nat} : Nests depth [] depth
  | opens {depth last : Nat} {t : Token} {tokens : List Token} :
      t.kind = .indent → Nests (depth + 1) tokens last → Nests depth (t :: tokens) last
  | closes {depth last : Nat} {t : Token} {tokens : List Token} :
      t.kind = .dedent → Nests depth tokens last → Nests (depth + 1) (t :: tokens) last
  | other {depth last : Nat} {t : Token} {tokens : List Token} :
      t.isBlockToken = false → Nests depth tokens last → Nests depth (t :: tokens) last

/-- The number of tokens that open a block. -/
def indents (tokens : List Token) : Nat :=
  tokens.countP fun t => t.kind == .indent

/-- The number of tokens that close a block. -/
def dedents (tokens : List Token) : Nat :=
  tokens.countP fun t => t.kind == .dedent

@[simp] theorem indents_append (front back : List Token) :
    indents (front ++ back) = indents front + indents back :=
  List.countP_append

theorem indents_of_flat {tokens : List Token} (h : ∀ t ∈ tokens, t.isBlockToken = false) :
    indents tokens = 0 := by
  apply List.countP_eq_zero.2
  intro t ht isIndent
  have isBlock : t.isBlockToken = true := Bool.or_eq_true_iff.2 (.inl isIndent)
  rw [h t ht] at isBlock
  cases isBlock

namespace Nests

variable {depth middle last : Nat} {tokens front back : List Token}

theorem trans (first : Nests depth front middle) (second : Nests middle back last) :
    Nests depth (front ++ back) last := by
  induction first with
  | done => exact second
  | opens isIndent _ ih => exact opens isIndent (ih second)
  | closes isDedent _ ih => exact closes isDedent (ih second)
  | other notBlock _ ih => exact other notBlock (ih second)

/-- Tokens that nest do so up to every place between them. -/
theorem exists_of_append (h : Nests depth (front ++ back) last) :
    ∃ middle, Nests depth front middle ∧ Nests middle back last := by
  induction front generalizing depth with
  | nil => exact ⟨depth, done, h⟩
  | cons t rest ih =>
      cases h with
      | opens isIndent later =>
          rcases ih later with ⟨middle, here, behind⟩
          exact ⟨middle, opens isIndent here, behind⟩
      | closes isDedent later =>
          rcases ih later with ⟨middle, here, behind⟩
          exact ⟨middle, closes isDedent here, behind⟩
      | other notBlock later =>
          rcases ih later with ⟨middle, here, behind⟩
          exact ⟨middle, other notBlock here, behind⟩

theorem of_flat (h : ∀ t ∈ tokens, t.isBlockToken = false) (depth : Nat) :
    Nests depth tokens depth := by
  induction tokens with
  | nil => exact done
  | cons t rest ih =>
      exact other (h t List.mem_cons_self) (ih fun u hu => h u (List.mem_cons_of_mem t hu))

/-- As many tokens that close a block as are open. -/
theorem replicate {t : Token} (isDedent : t.kind = .dedent) (depth count : Nat) :
    Nests (depth + count) (List.replicate count t) depth := by
  induction count with
  | zero => exact done
  | succ count ih => exact closes isDedent ih

/-- What opens a block leaves one more open, what closes one leaves one less. -/
theorem add_indents (h : Nests depth tokens last) :
    depth + indents tokens = last + dedents tokens := by
  induction h with
  | done => rfl
  | opens isIndent _ ih =>
      simp only [indents, dedents, List.countP_cons, isIndent] at ih ⊢
      simpa [Nat.add_assoc, Nat.add_comm 1] using ih
  | closes isDedent _ ih =>
      simp only [indents, dedents, List.countP_cons, isDedent] at ih ⊢
      simpa [← Nat.add_assoc, Nat.add_right_comm _ 1] using ih
  | @other _ _ t _ notBlock _ ih =>
      simp only [Token.isBlockToken, Bool.or_eq_false_iff] at notBlock
      simpa [indents, dedents, List.countP_cons, notBlock.1, notBlock.2] using ih

theorem blockDepth_eq (h : Nests depth tokens last) : blockDepth depth tokens = last := by
  induction h with
  | done => rfl
  | opens isIndent _ ih => simpa [blockDepth, Token.depthAfter, isIndent] using ih
  | closes isDedent _ ih => simpa [blockDepth, Token.depthAfter, isDedent] using ih
  | other notBlock _ ih =>
      simpa [blockDepth, depthAfter_of_not_isBlockToken notBlock] using ih

/-- In front of every place, at most as many blocks are closed as opened. -/
theorem dedents_le_indents (h : Nests 0 tokens last) (isFront : front <+: tokens) :
    dedents front ≤ indents front := by
  rcases isFront with ⟨back, rfl⟩
  rcases h.exists_of_append with ⟨middle, here, -⟩
  have balance := here.add_indents
  rw [Nat.zero_add] at balance
  exact Nat.le_of_add_left_le (Nat.le_of_eq balance.symm)

end Nests

/-! ## The depth of a row -/

/-- By how much the tokens that begin in a row or above it open more blocks than they close. -/
def rowDepth (tokens : List Token) (row : Nat) : Int :=
  let upTo := tokens.filter fun t => t.start.line ≤ row
  (indents upTo : Int) - dedents upTo

section

variable {tokens : List Token} {last : Nat}
  (ordered : tokens.Pairwise fun t u => t.start.line ≤ u.start.line)

include ordered

theorem filter_upTo_isPrefix (row : Nat) :
    tokens.filter (fun t => decide (t.start.line ≤ row)) <+: tokens := by
  induction tokens with
  | nil => exact List.prefix_refl []
  | cons t rest ih =>
      by_cases upTo : t.start.line ≤ row
      · rw [List.filter_cons_of_pos (by simpa using upTo)]
        exact (List.prefix_cons_inj t).2 (ih (List.pairwise_cons.1 ordered).2)
      · have below := lt_start_line_of_ordered ordered upTo
        rw [filter_upTo_eq_nil below]
        exact List.nil_prefix

/-- The depth of a row is the number of blocks open behind the tokens up to it. -/
theorem rowDepth_eq_blockDepth (h : Nests 0 tokens last) (row : Nat) :
    rowDepth tokens row = blockDepth 0 (tokens.filter fun t => t.start.line ≤ row) := by
  rcases filter_upTo_isPrefix ordered row with ⟨back, whole⟩
  rw [← whole] at h
  rcases h.exists_of_append with ⟨middle, upTo, -⟩
  have balance := upTo.add_indents
  rw [rowDepth, upTo.blockDepth_eq]
  omega

theorem enterDepth_eq_rowDepth (h : Nests 0 tokens last) (row : Nat) :
    (enterDepth (depthChanges 0 tokens) row : Int) = rowDepth tokens row := by
  rw [enterDepth_depthChanges ordered, rowDepth_eq_blockDepth ordered h]

end

/-- The tokens up to the next row are those up to a row and those that begin in the next one. -/
theorem countP_filter_upTo_succ (p : Token → Bool) (tokens : List Token) (row : Nat) :
    (tokens.filter fun t => t.start.line ≤ row + 1).countP p =
      (tokens.filter fun t => t.start.line ≤ row).countP p +
        tokens.countP fun t => p t && t.start.line == row + 1 := by
  rw [List.countP_filter, List.countP_filter]
  induction tokens with
  | nil => rfl
  | cons t rest ih =>
      simp only [List.countP_cons, ih]
      rcases Nat.lt_trichotomy t.start.line (row + 1) with above | here | below
      · have upTo : t.start.line ≤ row := Nat.le_of_lt_succ above
        have notHere : t.start.line ≠ row + 1 := Nat.ne_of_lt above
        simp [Nat.le_of_lt above, upTo, notHere, Nat.add_right_comm]
      · simp [here, Nat.add_assoc]
      · have notUpTo : ¬ t.start.line ≤ row + 1 := Nat.not_le_of_lt below
        have notAbove : ¬ t.start.line ≤ row := fun upTo => notUpTo (Nat.le_succ_of_le upTo)
        simp [notUpTo, notAbove, Nat.ne_of_gt below]

/-- The number of tokens that begin in a row and open a block. -/
def rowIndents (tokens : List Token) (row : Nat) : Nat :=
  tokens.countP fun t => t.kind == .indent && t.start.line == row

@[simp] theorem rowIndents_append (front back : List Token) (row : Nat) :
    rowIndents (front ++ back) row = rowIndents front row + rowIndents back row :=
  List.countP_append

theorem rowIndents_le_indents (tokens : List Token) (row : Nat) :
    rowIndents tokens row ≤ indents tokens := by
  refine List.countP_mono_left ?_
  intro t _ both
  exact (Bool.and_eq_true_iff.1 both).1

theorem rowIndents_eq_zero {tokens : List Token} {row : Nat}
    (elsewhere : ∀ t ∈ tokens, t.kind = .indent → t.start.line ≠ row) :
    rowIndents tokens row = 0 := by
  apply List.countP_eq_zero.2
  intro t ht both
  simp only [Bool.and_eq_true, beq_iff_eq] at both
  exact elsewhere t ht both.1 both.2

/-- Where a row opens at most one block, it is at most one block deeper than the row above. -/
theorem rowDepth_succ_le {tokens : List Token} {row : Nat}
    (one : rowIndents tokens (row + 1) ≤ 1) :
    rowDepth tokens (row + 1) ≤ rowDepth tokens row + 1 := by
  have opened := countP_filter_upTo_succ (fun t => t.kind == .indent) tokens row
  have closed := countP_filter_upTo_succ (fun t => t.kind == .dedent) tokens row
  simp only [rowIndents] at one
  simp only [rowDepth, indents, dedents]
  omega

end EditorAnalysis
