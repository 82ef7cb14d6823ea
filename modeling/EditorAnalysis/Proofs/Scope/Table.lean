import EditorAnalysis.Scope.Table
import Mathlib.Data.List.Basic

/-!
# Tables at any depth

The tables of a tree of scope tables in pre-order. What holds of the outermost table and goes on to
the tables inside of one that has it holds at every depth.
-/

namespace EditorAnalysis
namespace ScopeTable

/-- Induction over tables: a table may rely on the tables directly inside of it. -/
theorem induction {P : ScopeTable → Prop} (table : ScopeTable)
    (node : ∀ name kind symbols children, (∀ child ∈ children, P child) →
      P (.mk name kind symbols children)) : P table := by
  refine @ScopeTable.rec P (fun tables => ∀ child ∈ tables, P child) node ?_ ?_ table
  · intro child hchild
    cases hchild
  · intro first rest holds later child hchild
    rcases List.mem_cons.1 hchild with rfl | inRest
    · exact holds
    · exact later child inRest

mutual

/-- The table and all tables inside it, in pre-order. -/
def preorder : ScopeTable → List ScopeTable
  | .mk name kind symbols children => .mk name kind symbols children :: preorderAll children

def preorderAll : List ScopeTable → List ScopeTable
  | [] => []
  | table :: rest => preorder table ++ preorderAll rest

end

theorem preorderAll_eq_flatMap (tables : List ScopeTable) :
    preorderAll tables = tables.flatMap preorder := by
  induction tables with
  | nil => rfl
  | cons table rest ih => rw [preorderAll, ih, List.flatMap_cons]

/-- What a table has, and hands down to the tables inside of it, is had at every depth. -/
theorem of_mem_preorder {P : ScopeTable → Prop} (table : ScopeTable) (outermost : P table)
    (inner : ∀ outer, P outer → ∀ child ∈ outer.children, P child) :
    ∀ m ∈ table.preorder, P m := by
  induction table using ScopeTable.induction with
  | node name kind symbols children ih =>
      intro m inside
      rw [preorder, preorderAll_eq_flatMap] at inside
      rcases List.mem_cons.1 inside with rfl | inChildren
      · exact outermost
      · rcases List.mem_flatMap.1 inChildren with ⟨child, isChild, inChild⟩
        exact ih child isChild (inner _ outermost child isChild) m inChild

/-- The table to which a path leads, which has the position of the next table at each step. -/
def at? : ScopeTable → List Nat → Option ScopeTable
  | table, [] => some table
  | table, index :: path => table.children[index]?.bind fun child => child.at? path

end ScopeTable
end EditorAnalysis
