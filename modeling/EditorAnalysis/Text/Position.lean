/-!
# Positions in a text

A position is a zero-based row and a zero-based column. Columns count characters, never bytes,
so a position means the same thing whatever encoding the text is stored in.

Positions are ordered the way a text is read: by row first, by column within a row.
-/

namespace EditorAnalysis
namespace Text

/-- A zero-based place in a text; the column counts characters. -/
structure Position where
  line : Nat
  column : Nat
  deriving DecidableEq, Repr, Inhabited

namespace Position

/-- Reading order: an earlier row comes first, and within a row the smaller column. -/
protected def le (p q : Position) : Prop :=
  p.line < q.line ∨ (p.line = q.line ∧ p.column ≤ q.column)

instance : LE Position := ⟨Position.le⟩

instance (p q : Position) : Decidable (p ≤ q) :=
  inferInstanceAs (Decidable (p.line < q.line ∨ (p.line = q.line ∧ p.column ≤ q.column)))

theorem le_def {p q : Position} :
    p ≤ q ↔ p.line < q.line ∨ (p.line = q.line ∧ p.column ≤ q.column) :=
  Iff.rfl

protected theorem le_refl (p : Position) : p ≤ p :=
  Or.inr ⟨rfl, Nat.le_refl _⟩

protected theorem le_trans {p q r : Position} (hpq : p ≤ q) (hqr : q ≤ r) : p ≤ r := by
  rw [le_def] at *
  omega

protected theorem le_antisymm {p q : Position} (hpq : p ≤ q) (hqp : q ≤ p) : p = q := by
  rcases p with ⟨line, column⟩
  rcases q with ⟨line', column'⟩
  simp only [le_def] at hpq hqp
  simp only [mk.injEq]
  omega

protected theorem zero_le (p : Position) : (⟨0, 0⟩ : Position) ≤ p := by
  simp only [le_def]
  omega

theorem line_le_of_le {p q : Position} (h : p ≤ q) : p.line ≤ q.line := by
  rcases h with earlier | ⟨same, _⟩
  · exact Nat.le_of_lt earlier
  · exact Nat.le_of_eq same

theorem le_nextColumn (row column : Nat) :
    (⟨row, column⟩ : Position) ≤ ⟨row, column + 1⟩ :=
  Or.inr ⟨rfl, Nat.le_succ column⟩

theorem le_nextRow (row column next : Nat) :
    (⟨row, column⟩ : Position) ≤ ⟨row + 1, next⟩ :=
  Or.inl (Nat.lt_succ_self row)

end Position
end Text
end EditorAnalysis
