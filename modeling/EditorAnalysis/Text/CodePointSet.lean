/-!
# Sets of code points

A set of characters with long runs is stored by its *switch points*: the ascending code points at
which membership changes, starting from "not a member" at zero. `[65, 91]` is the set of the
letters `A` to `Z`. Reading stops at the first switch point above the character asked for.
-/

namespace EditorAnalysis
namespace Text

/-- A set of code points, given by the ascending code points at which membership flips. -/
structure CodePointSet where
  switches : List Nat

namespace CodePointSet

/-- Membership of `n`, when the code points below the first switch point have status `inside`. -/
def statusAt (n : Nat) (inside : Bool) : List Nat → Bool
  | [] => inside
  | s :: rest => if n < s then inside else statusAt n (!inside) rest

/-- Whether a character belongs to the set. -/
def contains (set : CodePointSet) (c : Char) : Bool :=
  statusAt c.toNat false set.switches

end CodePointSet
end Text
end EditorAnalysis
