import EditorAnalysis.Proofs.Syntax.Walk
import EditorAnalysis.Python.SyntaxErrors

/-!
# Faults of a tree

A fault is an error or a missing node. A tree may have faults inside other faults; the outermost
ones are those with no fault around them. When the error flags of a tree say what they should, the
walk that looks for syntax errors finds the outermost faults, and it finds one just when the root
is flagged.
-/

namespace EditorAnalysis
namespace Syntax
namespace Node

/-- Whether a node is an error or a missing node itself, whatever is inside. -/
def isFault (n : Node) : Bool :=
  n.info.isError || n.info.isMissing

/-- What is to be said of a fault. -/
def faultMessage (n : Node) : String :=
  if n.info.isError then "invalid syntax" else "missing " ++ n.info.kind

/-- Whether a node is a fault and none of the nodes around it is. -/
def isOutermostFault (place : List Node × Node) : Bool :=
  place.2.isFault && !place.1.any isFault

/-- The faults that lie in no other, in pre-order. -/
def outermostFaults (root : Node) : List Node :=
  ((nodesWithin [] root).filter isOutermostFault).map (·.2)

/-- Whether the error flag of a node says what it should: that the node is a fault, or that a child
is flagged. -/
def IsFlaggedRight (n : Node) : Prop :=
  n.hasError = true ↔
    n.info.isError = true ∨ n.info.isMissing = true ∨ ∃ child ∈ n.children, child.hasError = true

/-- Whether all error flags of a tree say what they should. -/
def FlagsFaults (root : Node) : Prop :=
  ∀ n ∈ root.preorder, n.IsFlaggedRight

instance (n : Node) : Decidable n.IsFlaggedRight :=
  inferInstanceAs (Decidable (_ ↔ _))

instance (root : Node) : Decidable root.FlagsFaults :=
  inferInstanceAs (Decidable (∀ n ∈ root.preorder, _))

section

variable {info : NodeInfo} {children : List Node}

theorem FlagsFaults.root (h : (mk info children).FlagsFaults) :
    (mk info children).IsFlaggedRight :=
  h _ List.mem_cons_self

theorem FlagsFaults.child (h : (mk info children).FlagsFaults) {child : Node}
    (hchild : child ∈ children) : child.FlagsFaults := by
  intro m hm
  exact h m (mem_preorder_iff.2 (.inr ⟨child, hchild, hm⟩))

end

/-- A node without a flag is no fault, and none of its children is flagged. -/
theorem IsFlaggedRight.of_not_hasError {n : Node} (h : n.IsFlaggedRight)
    (unflagged : n.hasError = false) :
    n.isFault = false ∧ ∀ child ∈ n.children, child.hasError = false := by
  have nothing : ¬ (n.info.isError = true ∨ n.info.isMissing = true ∨
      ∃ child ∈ n.children, child.hasError = true) := by
    intro something
    have flagged := h.2 something
    rw [unflagged] at flagged
    cases flagged
  simpa [isFault, and_assoc] using nothing

/-- A tree whose root is not flagged has no faults. -/
theorem isFault_eq_false_of_mem_preorder {n m : Node} (flags : n.FlagsFaults)
    (unflagged : n.hasError = false) (hm : m ∈ n.preorder) : m.isFault = false := by
  induction n using Node.induction with
  | node info children ih =>
      have nothing := flags.root.of_not_hasError unflagged
      rcases mem_preorder_iff.1 hm with rfl | ⟨child, hchild, inside⟩
      · exact nothing.1
      · exact ih child hchild (flags.child hchild) (nothing.2 child hchild) inside

/-! ## Places without outermost faults -/

/-- Inside a fault no fault is outermost. -/
theorem filter_isOutermostFault_eq_nil {fault : Node} (isFault : fault.isFault = true) (n : Node)
    {above : List Node} (around : fault ∈ above) :
    (nodesWithin above n).filter isOutermostFault = [] := by
  apply List.filter_eq_nil_iff.2
  intro place hplace
  have hasFault : place.1.any Node.isFault = true :=
    List.any_eq_true.2 ⟨fault, mem_fst_of_mem_nodesWithin n around place hplace, isFault⟩
  simp [isOutermostFault, hasFault]

theorem filter_isOutermostFault_eq_nil_of_not_hasError {n : Node} (flags : n.FlagsFaults)
    (unflagged : n.hasError = false) (above : List Node) :
    (nodesWithin above n).filter isOutermostFault = [] := by
  apply List.filter_eq_nil_iff.2
  intro place hplace
  have isNode : place.2 ∈ n.preorder := by
    rw [← map_snd_nodesWithin above n]
    exact List.mem_map_of_mem hplace
  have clean := isFault_eq_false_of_mem_preorder flags unflagged isNode
  simp [isOutermostFault, clean]

end Node
end Syntax

/-! ## The walk for syntax errors -/

namespace Python

open Syntax Node

theorem errorNodesAll_eq_flatMap (ns : List Node) : errorNodesAll ns = ns.flatMap errorNodes := by
  induction ns with
  | nil => rfl
  | cons n rest ih => simp [errorNodesAll, ih]

section

variable {info : NodeInfo} {children : List Node}

theorem errorNodes_of_not_hasError (unflagged : info.hasError = false) :
    errorNodes (.mk info children) = [] := by
  simp [errorNodes, unflagged]

/-- A fault ends the walk. -/
theorem errorNodes_of_isFault (flagged : info.hasError = true)
    (fault : (mk info children).isFault = true) :
    errorNodes (.mk info children) =
      [(.mk info children, (mk info children).faultMessage)] := by
  by_cases isError : info.isError = true
  · simp [errorNodes, flagged, isError, faultMessage, Node.info]
  · have isMissing : info.isMissing = true := by
      simpa [isFault, Node.info, isError] using fault
    simp [errorNodes, flagged, isError, isMissing, faultMessage, Node.info]

/-- A flagged node that is no fault itself leads the walk on to its children. -/
theorem errorNodes_of_not_isFault (flagged : info.hasError = true)
    (notFault : (mk info children).isFault = false) :
    errorNodes (.mk info children) = children.flatMap errorNodes := by
  have nothing : info.isError = false ∧ info.isMissing = false := by
    simpa [isFault, Node.info] using notFault
  simp [errorNodes, flagged, nothing, errorNodesAll_eq_flatMap]

end

/-- The walk finds the faults that lie in no other, in pre-order. -/
theorem errorNodes_eq_map_filter {n : Node} (flags : n.FlagsFaults) {above : List Node}
    (clean : above.any isFault = false) :
    errorNodes n =
      (((nodesWithin above n).filter isOutermostFault).map (·.2)).map
        fun m => (m, m.faultMessage) := by
  induction n using Node.induction generalizing above with
  | node info children ih =>
      by_cases flagged : info.hasError = true
      · by_cases fault : (mk info children).isFault = true
        · -- The fault is around all that the walk leaves out.
          have inside : ∀ child ∈ children,
              (nodesWithin (mk info children :: above) child).filter isOutermostFault = [] := by
            intro child hchild
            exact filter_isOutermostFault_eq_nil fault child List.mem_cons_self
          have here : isOutermostFault (above, mk info children) = true := by
            simp [isOutermostFault, fault, clean]
          simpa [errorNodes_of_isFault flagged fault, nodesWithin, nodesWithinAll_eq_flatMap, here,
            List.filter_flatMap] using inside
        · have notFault : (mk info children).isFault = false := by simpa using fault
          have still : (mk info children :: above).any isFault = false := by
            simpa [notFault] using clean
          have here : isOutermostFault (above, mk info children) = false := by
            simp [isOutermostFault, notFault]
          have inside := List.flatMap_congr fun child hchild =>
            ih child hchild (flags.child hchild) still
          simpa [errorNodes_of_not_isFault flagged notFault, nodesWithin,
            nodesWithinAll_eq_flatMap, here, List.filter_flatMap, List.map_flatMap] using inside
      · have unflagged : info.hasError = false := by simpa using flagged
        have nothing := filter_isOutermostFault_eq_nil_of_not_hasError flags unflagged above
        simp [errorNodes_of_not_hasError unflagged, nothing]

/-- The walk finds nothing just when the root is not flagged. -/
theorem errorNodes_eq_nil_iff {n : Node} (flags : n.FlagsFaults) :
    errorNodes n = [] ↔ n.hasError = false := by
  induction n using Node.induction with
  | node info children ih =>
      by_cases flagged : info.hasError = true
      · have isFlagged : (mk info children).hasError = true := flagged
        refine iff_of_false ?_ (by simp [isFlagged])
        by_cases fault : (mk info children).isFault = true
        · simp [errorNodes_of_isFault flagged fault]
        · have notFault : (mk info children).isFault = false := by simpa using fault
          -- A flag that is not for the node itself is for one of its children.
          rcases flags.root.1 isFlagged with isError | isMissing | ⟨child, hchild, inChild⟩
          · simp [isFault, isError] at notFault
          · simp [isFault, isMissing] at notFault
          · intro nothing
            rw [errorNodes_of_not_isFault flagged notFault] at nothing
            have noneInChild := List.flatMap_eq_nil_iff.1 nothing child hchild
            have unflagged := (ih child hchild (flags.child hchild)).1 noneInChild
            rw [inChild] at unflagged
            cases unflagged
      · have unflagged : info.hasError = false := by simpa using flagged
        exact iff_of_true (errorNodes_of_not_hasError unflagged) unflagged

end Python
end EditorAnalysis
