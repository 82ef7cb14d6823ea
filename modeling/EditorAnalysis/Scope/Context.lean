import EditorAnalysis.Scope.Table

/-!
# Scope contexts

What an editor shows of the scopes of a text: a tree of contexts, each with the modules, functions
and classes declared in one scope. The names that the host language provides stand in front of the
root's lists; the root remembers how many they are, so that it can go back to them.
-/

namespace EditorAnalysis

/-- The names that a language provides in every text. -/
structure HostNames where
  functions : List String
  classes : List String
  deriving DecidableEq, Repr, Inhabited

/-- How many names at the front of each list of a context are not of its text. -/
structure Baseline where
  modules : Nat
  functions : Nat
  classes : Nat
  deriving DecidableEq, Repr, Inhabited

/-- The names declared in one scope, and the contexts of the scopes inside it. -/
structure ScopeContext where
  modules : List String
  functions : List String
  classes : List String
  baseline : Baseline
  children : List ScopeContext
  deriving BEq, Repr, Inhabited

namespace ScopeContext

/-- The root context before any text: the names of the host language and no others. -/
def ofHostNames (host : HostNames) : ScopeContext where
  modules := []
  functions := host.functions
  classes := host.classes
  baseline := ⟨0, host.functions.length, host.classes.length⟩
  children := []

/-- The context without what a text declared: each list is cut back to its baseline and no scope
is left inside. -/
def clear (context : ScopeContext) : ScopeContext where
  modules := context.modules.take context.baseline.modules
  functions := context.functions.take context.baseline.functions
  classes := context.classes.take context.baseline.classes
  baseline := context.baseline
  children := []

mutual

/-- The context of a scope with no names from outside. -/
def ofTable : ScopeTable → ScopeContext
  | .mk name kind symbols tables =>
    { modules := (ScopeTable.mk name kind symbols tables).moduleNames
      functions := (ScopeTable.mk name kind symbols tables).childNames .function
      classes := (ScopeTable.mk name kind symbols tables).childNames .classDef
      baseline := ⟨0, 0, 0⟩
      children := ofTables tables }

def ofTables : List ScopeTable → List ScopeContext
  | [] => []
  | table :: tables => ofTable table :: ofTables tables

end

/-- A context with what a table declares behind what it holds already. -/
def fill (context : ScopeContext) (table : ScopeTable) : ScopeContext :=
  -- The baseline stays as it is: it says what of the lists is from outside.
  { context with
    modules := context.modules ++ table.moduleNames
    functions := context.functions ++ table.childNames .function
    classes := context.classes ++ table.childNames .classDef
    children := context.children ++ ofTables table.children }

/-- The context after a text with this table: what an earlier text declared is gone. -/
def rebuild (context : ScopeContext) (table : ScopeTable) : ScopeContext :=
  context.clear.fill table

end ScopeContext

/-- The names of a root context, by kind. -/
structure GlobalNames where
  modules : List String
  functions : List String
  classes : List String
  deriving DecidableEq, Repr, Inhabited

namespace ScopeContext

/-- All names of a context, those of the host language included. -/
def globalNames (context : ScopeContext) : GlobalNames :=
  ⟨context.modules, context.functions, context.classes⟩

def declaredNames (context : ScopeContext) : GlobalNames :=
  ⟨context.modules.drop context.baseline.modules,
    context.functions.drop context.baseline.functions,
    context.classes.drop context.baseline.classes⟩

end ScopeContext
end EditorAnalysis
