import EditorAnalysis.Category

/-!
# Diagnostics

A diagnostic reports something about a run of characters of one row. Diagnostics of several
producers are merged into one list without repetitions, and marked on the character classes of the
rows that they fit into.
-/

namespace EditorAnalysis

/-- A report about `length` characters of a row, from the column `start` on. -/
structure Diagnostic where
  /-- The name of the producer. -/
  origin : String
  line : Nat
  start : Nat
  length : Nat
  message : String
  deriving DecidableEq, Repr, Inhabited

/-- The greatest number of the 64-bit words in which lines, columns and lengths are given. -/
def maxWord : Nat := 0xFFFFFFFFFFFFFFFF

namespace Diagnostic

/-- The column behind the last character; it stops at the greatest number a column can have. -/
def stop (d : Diagnostic) : Nat :=
  min (d.start + d.length) maxWord

/-- The diagnostics of the tokenizer and of any number of checkers in one list: in order, and of
equal ones only the first. -/
def merge (own : List Diagnostic) (others : List (List Diagnostic)) : List Diagnostic :=
  (own ++ others.flatten).eraseDups

/-- Sets the error mark on the characters of a row from one column up to another. -/
def markRange (start stop : Nat) (row : List CharClass) : List CharClass :=
  row.mapIdx fun column c =>
    if start ≤ column ∧ column < stop then c.withError else c

/-- Marks a diagnostic on the classes of a text. One that lies on no row, or does not fit into its
row, marks nothing. -/
def mark (d : Diagnostic) (rows : List (List CharClass)) : List (List CharClass) :=
  rows.modify d.line fun row =>
    -- A range is marked as a whole or not at all.
    if d.stop ≤ row.length then markRange d.start d.stop row else row

/-- Marks a list of diagnostics on the classes of a text. -/
def overlay (diagnostics : List Diagnostic) (rows : List (List CharClass)) :
    List (List CharClass) :=
  diagnostics.foldl (fun rows d => d.mark rows) rows

end Diagnostic
end EditorAnalysis
