import EditorAnalysis.Scope.Table
import EditorAnalysis.Syntax.Tree

/-!
# Scope tables of a Python tree

The scopes of a module and the names that each of them binds. Functions and classes have scopes of
their own; lambdas and comprehensions do not. A name that a scope binds more than once keeps the
kind of its first binding, and its place.

A definition without a name, which only a tree with errors has, is passed over with all that is in
it.
-/

namespace EditorAnalysis
namespace Python

open Syntax

/-- The name of the table of a whole module. -/
def moduleScopeName : String := "<module>"

/-- What a node means for the names of the scope around it. -/
inductive ScopeRole where
  /-- A definition, whose body is a scope of its own. -/
  | definition (kind : ScopeKind)
  /-- An import, of modules or of members of a module. -/
  | importing (kind : SymbolKind)
  /-- A list of names of outer scopes. -/
  | outerNames
  /-- A statement that binds the targets on its left. -/
  | assigning
  /-- Anything else: what is inside belongs to the same scope. -/
  | plain
  deriving DecidableEq, Repr

namespace ScopeRole

def ofKind (kind : String) : ScopeRole :=
  if kind = "function_definition" then .definition .function
  else if kind = "class_definition" then .definition .classDef
  else if kind = "import_statement" then .importing .module
  else if kind = "import_from_statement" then .importing .imported
  else if kind = "global_statement" ∨ kind = "nonlocal_statement" then .outerNames
  else if kind = "assignment" ∨ kind = "augmented_assignment" ∨ kind = "for_statement" then
    .assigning
  else .plain

end ScopeRole

/-! ## Imported names -/

/-- The part of a dotted name in front of its first dot. -/
def topLevelPart (dotted : List Char) : List Char :=
  dotted.takeWhile (· != '.')

/-- The name that one item of an import binds: its alias, or else the name that it imports. Of a
module's dotted name only the first part is bound. -/
def importBinding? (source : List Char) (kind : SymbolKind) (n : Node) : Option (List Char) :=
  if n.info.kind = "aliased_import" then (n.childByField? "alias").map (·.text source)
  else if n.info.kind = "dotted_name" then
    let dotted := n.text source
    let bound := if kind = .module then topLevelPart dotted else dotted
    if bound = [] then none else some bound
  else none

/-! ## Parameters and targets -/

/-- How a parameter holds its name. -/
inductive ParameterRole where
  | identifier
  /-- In a field, beside a default value. -/
  | inField
  /-- In its first named child, behind stars or in front of a type. -/
  | inFirstChild
  | other
  deriving DecidableEq, Repr

namespace ParameterRole

/-- The role of a kind of node in a list of parameters. -/
def ofKind (kind : String) : ParameterRole :=
  if kind = "identifier" then .identifier
  else if kind = "default_parameter" ∨ kind = "typed_default_parameter" then .inField
  else if kind = "typed_parameter" ∨ kind = "list_splat_pattern" ∨
      kind = "dictionary_splat_pattern" then .inFirstChild
  else .other

end ParameterRole

mutual

/-- The name that a parameter binds, if it binds one. -/
def parameterName? (source : List Char) : Node → Option String
  | .mk info children =>
    match ParameterRole.ofKind info.kind with
    | .identifier => some (String.ofList (Node.text source (.mk info children)))
    | .inField => fieldParameterName? source children
    | .inFirstChild => firstParameterName? source children
    | .other => none

/-- The name that the first of some nodes in the field for names binds as a parameter. -/
def fieldParameterName? (source : List Char) : List Node → Option String
  | [] => none
  | n :: rest =>
    if n.info.field = "name" then parameterName? source n else fieldParameterName? source rest

/-- The name that the first named node of some binds as a parameter. -/
def firstParameterName? (source : List Char) : List Node → Option String
  | [] => none
  | n :: rest =>
    if n.info.named then parameterName? source n else firstParameterName? source rest

end

/-- What a node means as the target of an assignment. -/
inductive TargetRole where
  | identifier
  | pattern
  /-- An attribute, a subscript or no target at all: nothing is bound. -/
  | other
  deriving DecidableEq, Repr

namespace TargetRole

/-- The role of a kind of node on the left of an assignment. -/
def ofKind (kind : String) : TargetRole :=
  if kind = "identifier" then .identifier
  else if kind ∈ ["pattern_list", "tuple_pattern", "list_pattern", "list_splat_pattern",
      "expression_list", "tuple", "list", "parenthesized_expression"] then .pattern
  else .other

end TargetRole

mutual

/-- The names that a target of an assignment binds, in order. -/
def targetNames (source : List Char) : Node → List String
  | .mk info children =>
    match TargetRole.ofKind info.kind with
    | .identifier => [String.ofList (Node.text source (.mk info children))]
    | .pattern => targetNamesAll source children
    | .other => []

def targetNamesAll (source : List Char) : List Node → List String
  | [] => []
  | n :: rest =>
    if n.info.named then targetNames source n ++ targetNamesAll source rest
    else targetNamesAll source rest

end

/-! ## Blocks -/

/-- What a block of statements binds: every binding in order, repeated ones included, and the
tables of the scopes that it opens. -/
structure Block where
  bindings : List Symbol
  tables : List ScopeTable
  deriving Repr

namespace Block

def empty : Block := ⟨[], []⟩

def append (a b : Block) : Block := ⟨a.bindings ++ b.bindings, a.tables ++ b.tables⟩

instance : Append Block := ⟨append⟩

/-- A block of bindings of one kind. -/
def binding (kind : SymbolKind) (names : List String) : Block :=
  ⟨names.map (⟨·, kind⟩), []⟩

end Block

/-- The first binding of each name, in order. -/
def firstBindings : List Symbol → List Symbol
  | [] => []
  | s :: rest => s :: (firstBindings rest).filter fun later => later.name != s.name

def importBlock (source : List Char) (kind : SymbolKind) (n : Node) : Block :=
  .binding kind
    (((n.childrenByField "name").filterMap (importBinding? source kind)).map String.ofList)

def outerNamesBlock (source : List Char) (n : Node) : Block :=
  let names := n.namedChildren.filter fun child => child.info.kind == "identifier"
  .binding .global (names.map fun child => String.ofList (child.text source))

def parameterBlock (source : List Char) (n : Node) : Block :=
  match n.childByField? "parameters" with
  | some parameters =>
    .binding .parameter (parameters.namedChildren.filterMap (parameterName? source))
  | none => .empty

def targetBlock (source : List Char) (n : Node) : Block :=
  match n.childByField? "left" with
  | some left => .binding .local (targetNames source left)
  | none => .empty

/-- A definition with a name binds that name and opens a scope, in which its parameters are bound
before its body. -/
def definitionBlock (source : List Char) (kind : ScopeKind) (n : Node) (body : Block) : Block :=
  match n.childByField? "name" with
  | none => .empty
  | some found =>
    let name := String.ofList (found.text source)
    let inner := parameterBlock source n ++ body
    ⟨[⟨name, .local⟩], [.mk name kind (firstBindings inner.bindings) inner.tables]⟩

mutual

/-- What a node binds in the scope around it. -/
def blockOf (source : List Char) : Node → Block
  | .mk info children =>
    match ScopeRole.ofKind info.kind with
    | .definition kind =>
      definitionBlock source kind (.mk info children) (bodyBlock source children)
    | .importing kind => importBlock source kind (.mk info children)
    | .outerNames => outerNamesBlock source (.mk info children)
    | .assigning => targetBlock source (.mk info children) ++ blockOfAll source children
    | .plain => blockOfAll source children

def blockOfAll (source : List Char) : List Node → Block
  | [] => .empty
  | n :: rest =>
    if n.info.named then blockOf source n ++ blockOfAll source rest else blockOfAll source rest

/-- What the first of some nodes that is held as a body binds. -/
def bodyBlock (source : List Char) : List Node → Block
  | [] => .empty
  | .mk info children :: rest =>
    if info.field = "body" then blockOfAll source children else bodyBlock source rest

end

/-- The table of a module, given the root of its tree. -/
def scopeTable (source : List Char) (root : Node) : ScopeTable :=
  let block := blockOfAll source root.children
  .mk moduleScopeName .module (firstBindings block.bindings) block.tables

end Python
end EditorAnalysis
