import EditorAnalysis.Syntax.Tree
import Mathlib.Data.List.Basic

/-!
# Walks through a tree

What holds of a node when it holds of its children holds of every tree. A walk in pre-order is
given together with the nodes around each node that it comes to.
-/

namespace EditorAnalysis
namespace Syntax
namespace Node

/-- Induction over trees: a node may rely on its children. -/
theorem induction {P : Node → Prop} (n : Node)
    (node : ∀ info children, (∀ child ∈ children, P child) → P (.mk info children)) : P n := by
  refine @Node.rec P (fun ns => ∀ child ∈ ns, P child) node ?_ ?_ n
  · intro child hchild
    cases hchild
  · intro first rest holds later child hchild
    rcases List.mem_cons.1 hchild with rfl | inRest
    · exact holds
    · exact later child inRest

theorem preorderAll_eq_flatMap (ns : List Node) : preorderAll ns = ns.flatMap preorder := by
  induction ns with
  | nil => rfl
  | cons n rest ih => simp [preorderAll, ih]

theorem mem_preorder_iff {m : Node} {info : NodeInfo} {children : List Node} :
    m ∈ (mk info children).preorder ↔
      m = .mk info children ∨ ∃ child ∈ children, m ∈ child.preorder := by
  simp [preorder, preorderAll_eq_flatMap]

theorem self_mem_preorder (n : Node) : n ∈ n.preorder := by
  cases n
  exact mem_preorder_iff.2 (.inl rfl)

theorem mem_preorder_of_mem_children {n child : Node} (h : child ∈ n.children) :
    child ∈ n.preorder := by
  cases n
  exact mem_preorder_iff.2 (.inr ⟨child, h, self_mem_preorder child⟩)

/-- What is inside a node of a tree is inside the tree. -/
theorem mem_preorder_trans {root n m : Node} (inRoot : n ∈ root.preorder)
    (inNode : m ∈ n.preorder) : m ∈ root.preorder := by
  induction root using Node.induction with
  | node info children ih =>
      rcases mem_preorder_iff.1 inRoot with rfl | ⟨child, isChild, inChild⟩
      · exact inNode
      · exact mem_preorder_iff.2 (.inr ⟨child, isChild, ih child isChild inChild⟩)

theorem mem_preorder_of_childByField? {n child : Node} {field : String}
    (h : n.childByField? field = some child) : child ∈ n.preorder :=
  mem_preorder_of_mem_children (List.mem_of_find?_eq_some h)

theorem field_of_childByField? {n child : Node} {field : String}
    (found : n.childByField? field = some child) : child.info.field = field := by
  simpa using List.find?_some found

/-- What only nodes of a kind have is gathered from the nodes of that kind. -/
theorem flatMap_filter_of_eq_nil {α : Type} {p : Node → Bool} {f : Node → List α} {ns : List Node}
    (others : ∀ n ∈ ns, p n = false → f n = []) : (ns.filter p).flatMap f = ns.flatMap f := by
  induction ns with
  | nil => rfl
  | cons n rest ih =>
      rw [List.forall_mem_cons] at others
      cases isKind : p n with
      | true => simp [isKind, ih others.2]
      | false => simp [isKind, ih others.2, others.1 isKind]

/-! ## Nodes with what is around them -/

mutual

/-- The nodes of a tree in pre-order, each with the nodes around it, of which `above` are around
the root. -/
def nodesWithin (above : List Node) : Node → List (List Node × Node)
  | .mk info children =>
    (above, .mk info children) :: nodesWithinAll (.mk info children :: above) children

def nodesWithinAll (above : List Node) : List Node → List (List Node × Node)
  | [] => []
  | n :: rest => nodesWithin above n ++ nodesWithinAll above rest

end

theorem nodesWithinAll_eq_flatMap (above : List Node) (ns : List Node) :
    nodesWithinAll above ns = ns.flatMap (nodesWithin above) := by
  induction ns with
  | nil => rfl
  | cons n rest ih => simp [nodesWithinAll, ih]

/-- A walk comes to every node once. -/
theorem map_snd_nodesWithin (above : List Node) (n : Node) :
    (nodesWithin above n).map (·.2) = n.preorder := by
  induction n using Node.induction generalizing above with
  | node info children ih =>
      have inside : ∀ child ∈ children,
          (nodesWithin (.mk info children :: above) child).map (·.2) = child.preorder := by
        intro child hchild
        exact ih child hchild _
      simpa [nodesWithin, nodesWithinAll_eq_flatMap, preorder, preorderAll_eq_flatMap,
        List.map_flatMap] using List.flatMap_congr inside

/-- What is around a tree is around all of its nodes. -/
theorem mem_fst_of_mem_nodesWithin {outer : Node} (n : Node) {above : List Node}
    (houter : outer ∈ above) : ∀ place ∈ nodesWithin above n, outer ∈ place.1 := by
  induction n using Node.induction generalizing above with
  | node info children ih =>
      intro place hplace
      rw [nodesWithin, nodesWithinAll_eq_flatMap] at hplace
      rcases List.mem_cons.1 hplace with rfl | inside
      · exact houter
      · rcases List.mem_flatMap.1 inside with ⟨child, hchild, inChild⟩
        exact ih child hchild (List.mem_cons_of_mem _ houter) place inChild

/-! ## Nodes outside of others -/

/-- The nodes of a tree, in pre-order, that have no node of a kind around them. A node of that kind
may be among them, what is inside it is not. -/
def nodesOutside (p : Node → Bool) (root : Node) : List Node :=
  ((nodesWithin [] root).filter fun place => !place.1.any p).map (·.2)

variable {p : Node → Bool}

theorem filter_nodesWithin_eq_nil {outer : Node} (isKind : p outer = true) (n : Node)
    {above : List Node} (around : outer ∈ above) :
    (nodesWithin above n).filter (fun place => !place.1.any p) = [] := by
  apply List.filter_eq_nil_iff.2
  intro place hplace
  have hasKind : place.1.any p = true :=
    List.any_eq_true.2 ⟨outer, mem_fst_of_mem_nodesWithin n around place hplace, isKind⟩
  simp [hasKind]

theorem filter_nodesWithin_mk {above : List Node} (clean : above.any p = false) (info : NodeInfo)
    (children : List Node) :
    ((nodesWithin above (.mk info children)).filter fun place => !place.1.any p) =
      (above, .mk info children) :: if p (.mk info children) then [] else
        children.flatMap fun child =>
          (nodesWithin (.mk info children :: above) child).filter fun place => !place.1.any p := by
  rw [nodesWithin, List.filter_cons_of_pos (by simp [clean]), nodesWithinAll_eq_flatMap,
    List.filter_flatMap]
  by_cases isKind : p (.mk info children) = true
  · rw [if_pos isKind]
    congr 1
    exact List.flatMap_eq_nil_iff.2 fun child _ =>
      filter_nodesWithin_eq_nil isKind child List.mem_cons_self
  · rw [if_neg isKind]

/-- It does not matter what is around a tree, as long as nothing of the kind is. -/
theorem map_filter_nodesWithin (n : Node) {above : List Node} (clean : above.any p = false) :
    ((nodesWithin above n).filter fun place => !place.1.any p).map (·.2) = nodesOutside p n := by
  induction n using Node.induction generalizing above with
  | node info children ih =>
      rw [nodesOutside, filter_nodesWithin_mk clean, filter_nodesWithin_mk rfl]
      by_cases isKind : p (.mk info children) = true
      · simp only [if_pos isKind, List.map_cons, List.map_nil]
      · have still (around : List Node) (free : around.any p = false) :
            (mk info children :: around).any p = false := by
          simp [isKind, free]
        simp only [if_neg isKind, List.map_cons, List.map_flatMap]
        congr 1
        apply List.flatMap_congr
        intro child hchild
        rw [ih child hchild (still above clean), ih child hchild (still [] rfl)]

theorem nodesOutside_mk (info : NodeInfo) (children : List Node) :
    nodesOutside p (.mk info children) = .mk info children ::
      if p (.mk info children) then [] else children.flatMap (nodesOutside p) := by
  rw [nodesOutside, filter_nodesWithin_mk rfl]
  by_cases isKind : p (.mk info children) = true
  · simp [isKind]
  · have still : [mk info children].any p = false := by simp [isKind]
    simp only [if_neg isKind, List.map_cons, List.map_flatMap]
    congr 1
    exact List.flatMap_congr fun child _ => map_filter_nodesWithin child still

theorem mem_preorder_of_mem_nodesOutside {n m : Node} (h : m ∈ nodesOutside p n) :
    m ∈ n.preorder := by
  rcases List.mem_map.1 h with ⟨place, hplace, rfl⟩
  rw [← map_snd_nodesWithin [] n]
  exact List.mem_map_of_mem (List.mem_of_mem_filter hplace)

end Node
end Syntax
end EditorAnalysis
