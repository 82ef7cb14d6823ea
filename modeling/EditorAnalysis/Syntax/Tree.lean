import EditorAnalysis.Text.Bytes

/-!
# Syntax trees

A syntax tree as a parser gives it: each node has a kind, the field under which its parent holds
it, the byte offsets between which it stands, and its children in the order of the text. Error
nodes cover text that fits no rule, missing nodes stand for text that a rule asked for in vain.

Trees are exchanged as a flat list of nodes in pre-order, each with the number of its children.
-/

namespace EditorAnalysis
namespace Syntax

open Text

/-- What a tree says of one node. -/
structure NodeInfo where
  kind : String
  /-- Whether a rule of the grammar, and not only a token, gives the node its kind. -/
  named : Bool
  /-- Whether the node covers text that fits no rule. -/
  isError : Bool
  /-- Whether the node stands for text that is not there. -/
  isMissing : Bool
  /-- Whether the node is, or has inside, an error or missing node. -/
  hasError : Bool
  /-- The field under which the parent holds the node, empty if under none. -/
  field : String
  start : Nat
  stop : Nat
  deriving DecidableEq, Repr, Inhabited

/-- A node with the nodes inside it. -/
inductive Node where
  | mk (info : NodeInfo) (children : List Node)
  deriving Repr, Inhabited

namespace Node

def info : Node → NodeInfo
  | .mk info _ => info

def children : Node → List Node
  | .mk _ children => children

def childByField? (n : Node) (field : String) : Option Node :=
  n.children.find? fun child => child.info.field == field

def childrenByField (n : Node) (field : String) : List Node :=
  n.children.filter fun child => child.info.field == field

def namedChildren (n : Node) : List Node :=
  n.children.filter fun child => child.info.named

/-- Whether there is a syntax error in the node. -/
def hasError (n : Node) : Bool :=
  n.info.hasError

mutual

/-- The node and all nodes inside it, in pre-order. -/
def preorder : Node → List Node
  | .mk info children => .mk info children :: preorderAll children

def preorderAll : List Node → List Node
  | [] => []
  | n :: rest => preorder n ++ preorderAll rest

end

/-- A node of a flat tree: what the tree says of it, and the number of its children. -/
abbrev FlatNode := NodeInfo × Nat

/-- Puts a flat node in front of trees that are complete: the first of them become its children. -/
def graft (flat : FlatNode) (complete : List Node) : List Node :=
  .mk flat.1 (complete.take flat.2) :: complete.drop flat.2

/-- The tree that a list of flat nodes in pre-order spells, if it spells one. -/
def ofPreorder? (flat : List FlatNode) : Option Node :=
  match flat.foldr graft [] with
  | [root] => some root
  | _ => none

mutual

def flatten : Node → List FlatNode
  | .mk info children => (info, children.length) :: flattenAll children

def flattenAll : List Node → List FlatNode
  | [] => []
  | n :: rest => flatten n ++ flattenAll rest

end

mutual

theorem foldr_graft_flatten (n : Node) (complete : List Node) :
    (flatten n).foldr graft complete = n :: complete := by
  cases n with
  | mk info children =>
    simp [flatten, graft, foldr_graft_flattenAll children complete]

theorem foldr_graft_flattenAll (ns : List Node) (complete : List Node) :
    (flattenAll ns).foldr graft complete = ns ++ complete := by
  cases ns with
  | nil => rfl
  | cons n rest =>
    simp [flattenAll, List.foldr_append, foldr_graft_flattenAll rest complete,
      foldr_graft_flatten n]

end

/-- A tree can be told from its flat nodes. -/
@[simp] theorem ofPreorder?_flatten (n : Node) : ofPreorder? (flatten n) = some n := by
  simp [ofPreorder?, foldr_graft_flatten]

/-- The text of a node; a node whose offsets do not lie between characters has none. -/
def text (source : List Char) (n : Node) : List Char :=
  (sliceBytes? source n.info.start n.info.stop).getD []

end Node

/-- A parser: every text has a tree, with error nodes where the text is wrong. -/
abbrev Parser := String → Node

end Syntax
end EditorAnalysis
