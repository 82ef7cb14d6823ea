import EditorAnalysis.Proofs.Syntax.Walk
import Mathlib.Data.List.Flatten

/-!
# Walks through named nodes

Most walks through a tree look at named nodes only, and not inside all of them. Such a walk is
given by the nodes inside of which it goes on.
-/

namespace EditorAnalysis
namespace Syntax
namespace Node

mutual

/-- The nodes to which a walk comes from a node, in pre-order, when it goes on to the named
children of the nodes that `goesOn` allows. -/
def reached (goesOn : Node → Bool) : Node → List Node
  | .mk info children =>
    .mk info children :: if goesOn (.mk info children) then reachedAll goesOn children else []

/-- The nodes to which a walk comes from the named ones of some nodes. -/
def reachedAll (goesOn : Node → Bool) : List Node → List Node
  | [] => []
  | n :: rest =>
    if n.info.named then reached goesOn n ++ reachedAll goesOn rest else reachedAll goesOn rest

end

variable {goesOn : Node → Bool}

theorem reached_eq (n : Node) :
    reached goesOn n = n :: if goesOn n then reachedAll goesOn n.children else [] := by
  cases n
  rfl

theorem reachedAll_eq_flatMap (ns : List Node) :
    reachedAll goesOn ns = (ns.filter (·.info.named)).flatMap (reached goesOn) := by
  induction ns with
  | nil => rfl
  | cons n rest ih => cases isNamed : n.info.named <;> simp [reachedAll, isNamed, ih]

/-- A walk comes to a node at most once, and to no node too early. -/
theorem reached_sublist_preorder (n : Node) : (reached goesOn n).Sublist n.preorder := by
  induction n using Node.induction with
  | node info children ih =>
      have inside : (reachedAll goesOn children).Sublist (children.flatMap preorder) := by
        rw [reachedAll_eq_flatMap]
        exact (List.filter_sublist.flatMap _).trans (.flatMap_right _ ih)
      rw [reached, preorder, preorderAll_eq_flatMap]
      refine List.Sublist.cons_cons _ ?_
      split
      case isTrue => exact inside
      case isFalse => exact List.nil_sublist _

theorem mem_preorder_of_mem_reached {n m : Node} (h : m ∈ reached goesOn n) : m ∈ n.preorder :=
  (reached_sublist_preorder n).subset h

end Node
end Syntax
end EditorAnalysis
