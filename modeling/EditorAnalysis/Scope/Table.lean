/-!
# Scope tables

A parser describes the scopes of a text as a tree of tables: one for the module, one for each
function and class, wherever they are nested. A table lists the names that its scope binds and the
tables of the scopes inside it, both in the order of the text.
-/

namespace EditorAnalysis

/-- What a scope belongs to. -/
inductive ScopeKind where
  | module
  | function
  | classDef
  deriving DecidableEq, Repr, Inhabited

/-- How a name came to be bound in its scope. -/
inductive SymbolKind where
  | module
  /-- By importing a member of a module. -/
  | imported
  | parameter
  /-- By an assignment or a definition. -/
  | local
  /-- Declared to be a name of an outer scope. -/
  | global
  deriving DecidableEq, Repr, Inhabited

structure Symbol where
  name : String
  kind : SymbolKind
  deriving DecidableEq, Repr, Inhabited

/-- The names that a scope binds, and the scopes inside it. -/
inductive ScopeTable where
  | mk (name : String) (kind : ScopeKind) (symbols : List Symbol) (children : List ScopeTable)
  deriving Repr, Inhabited

namespace ScopeTable

def name : ScopeTable → String
  | .mk name _ _ _ => name

def kind : ScopeTable → ScopeKind
  | .mk _ kind _ _ => kind

def symbols : ScopeTable → List Symbol
  | .mk _ _ symbols _ => symbols

def children : ScopeTable → List ScopeTable
  | .mk _ _ _ children => children

/-- The symbol of a name, if the scope binds it. -/
def symbol? (table : ScopeTable) (name : String) : Option Symbol :=
  table.symbols.find? fun symbol => symbol.name == name

/-- The imported modules that a scope names. -/
def moduleNames (table : ScopeTable) : List String :=
  (table.symbols.filter fun symbol => symbol.kind == .module).map Symbol.name

/-- The names of the scopes of one kind directly inside. -/
def childNames (table : ScopeTable) (kind : ScopeKind) : List String :=
  (table.children.filter fun child => child.kind == kind).map ScopeTable.name

end ScopeTable
end EditorAnalysis
