import EditorAnalysis.Proofs.Syntax.Walk

/-!
# Places of a tree

Two nodes of a tree may be equal and still mean different things, because they stand in different
places: only the first child in a field is the one that is found there. A place is a node together
with the nodes around it and its index among the children of the innermost of them.
-/

namespace EditorAnalysis
namespace Syntax

/-- A node and where it stands: the nodes around it, the innermost first, and its index among the
children of the innermost. -/
structure Place where
  around : List Node
  index : Nat
  node : Node

/-- Whether the parent of a place is of a kind and finds in a field the node that stands here. -/
def Place.isHeldBy (kind field : String) (place : Place) : Bool :=
  match place.around with
  | [] => false
  | parent :: _ =>
    parent.info.kind == kind &&
      parent.children.findIdx? (fun child => child.info.field == field) == some place.index

namespace Node

mutual

/-- The places of a tree in pre-order, when its root stands somewhere else. -/
def placesFrom (around : List Node) (index : Nat) : Node → List Place
  | .mk info children =>
    ⟨around, index, .mk info children⟩ :: placesFromAll (.mk info children :: around) 0 children

/-- The places of several trees that stand one behind the other. -/
def placesFromAll (around : List Node) (index : Nat) : List Node → List Place
  | [] => []
  | n :: rest => placesFrom around index n ++ placesFromAll around (index + 1) rest

end

/-- The places of a tree in pre-order. -/
def places (root : Node) : List Place :=
  placesFrom [] 0 root

mutual

/-- Every node has one place, and the same nodes are around it. -/
theorem map_placesFrom (around : List Node) (index : Nat) (n : Node) :
    (placesFrom around index n).map (fun place => (place.around, place.node)) =
      nodesWithin around n := by
  cases n with
  | mk info children => rw [placesFrom, nodesWithin, List.map_cons, map_placesFromAll]

theorem map_placesFromAll (around : List Node) (index : Nat) (ns : List Node) :
    (placesFromAll around index ns).map (fun place => (place.around, place.node)) =
      nodesWithinAll around ns := by
  cases ns with
  | nil => rfl
  | cons n rest =>
      rw [placesFromAll, nodesWithinAll, List.map_append, map_placesFrom, map_placesFromAll]

end

/-! ## The first child in a field -/

/-- Looking for a member from the front, one stops at the first that fits. -/
theorem findIdx?_append_cons_eq_length_iff {p : Node → Bool} (front rest : List Node) (n : Node) :
    (front ++ n :: rest).findIdx? p = some front.length ↔ front.any p = false ∧ p n = true := by
  rw [List.findIdx?_append]
  cases found : front.findIdx? p with
  | some index =>
      -- Something in front fits, and it has a smaller index.
      rcases List.findIdx?_eq_some_iff_getElem.1 found with ⟨small, fits, -⟩
      have inFront : front.any p = true :=
        List.any_eq_true.2 ⟨front[index], List.getElem_mem small, fits⟩
      simp [inFront, Nat.ne_of_lt small]
  | none =>
      have notInFront : front.any p = false := by
        simpa using List.findIdx?_eq_none_iff.1 found
      rw [Option.none_or, notInFront]
      constructor
      · intro here
        rcases Option.map_eq_some_iff.1 here with ⟨index, isFirst, isIndex⟩
        have isZero : index = 0 := Nat.add_eq_right.1 isIndex
        rw [isZero] at isFirst
        exact ⟨rfl, (List.findIdx?_eq_some_iff_getElem.1 isFirst).2.1⟩
      · rintro ⟨-, fits⟩
        rw [List.findIdx?_cons, fits, if_pos rfl, Option.map_some, Nat.zero_add]

end Node
end Syntax
end EditorAnalysis
