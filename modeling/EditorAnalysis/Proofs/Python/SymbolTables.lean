import EditorAnalysis.Proofs.Python.BindingEvents
import EditorAnalysis.Proofs.Scope.Table

/-!
# Scope tables as symbol tables

A scope is described by the nodes that belong to it: those that one comes to from its statements
without looking inside of definitions, imports and lists of outer names. Each of these nodes may
bind names. The table of the scope has the first binding of every name, and the tables inside of it
are those of the definitions among the nodes, in order.
-/

namespace EditorAnalysis
namespace Python

open Syntax Node

variable {source : List Char}

/-! ## First bindings -/

/-- The events whose names are bound by no event in front of them. -/
def firstEvents (events : List Symbol) : List Symbol :=
  (events.zipIdx.filter fun (event, index) =>
    ∀ earlier ∈ events.take index, earlier.name ≠ event.name).map (·.1)

theorem firstEvents_cons (event : Symbol) (events : List Symbol) :
    firstEvents (event :: events) =
      event :: (firstEvents events).filter fun later => later.name != event.name := by
  have later : ((events.zipIdx 1).filter fun (later, index) =>
        ∀ earlier ∈ (event :: events).take index, earlier.name ≠ later.name) =
      ((events.zipIdx.filter fun (later, index) =>
        ∀ earlier ∈ events.take index, earlier.name ≠ later.name).filter
          fun (later, _) => later.name != event.name).map (Prod.map id (· + 1)) := by
    rw [List.zipIdx_succ, List.filter_map, List.filter_filter]
    congr 1
    apply List.filter_congr
    rintro ⟨later, index⟩ -
    rw [Bool.eq_iff_iff]
    simp [eq_comm (a := event.name)]
  rw [firstEvents, List.zipIdx_cons, List.filter_cons_of_pos (by simp), later]
  simp [firstEvents, List.filter_map, Function.comp_def]

/-- A table keeps the events whose names are not bound before. -/
theorem firstBindings_eq_firstEvents (events : List Symbol) :
    firstBindings events = firstEvents events := by
  induction events with
  | nil => rfl
  | cons event events ih => rw [firstBindings, firstEvents_cons, ih]

theorem nodup_names_firstBindings (events : List Symbol) :
    ((firstBindings events).map Symbol.name).Nodup := by
  induction events with
  | nil => exact List.nodup_nil
  | cons event events ih =>
      rw [firstBindings, List.map_cons, List.nodup_cons]
      constructor
      · simp
      · exact ih.sublist (List.filter_sublist.map _)

/-- Looking up a name finds its first binding. -/
theorem find?_firstBindings (events : List Symbol) (name : String) :
    (firstBindings events).find? (fun symbol => symbol.name == name) =
      events.find? fun symbol => symbol.name == name := by
  induction events with
  | nil => rfl
  | cons event events ih =>
      rw [firstBindings, List.find?_cons, List.find?_cons]
      by_cases same : event.name = name
      · simp [same]
      · -- The symbols that are left out have another name.
        have other (symbol : Symbol) :
            ((symbol.name != event.name) && (symbol.name == name)) = (symbol.name == name) := by
          by_cases isName : symbol.name = name
          · simp [isName, Ne.symm same]
          · simp [isName]
        simp only [beq_eq_false_iff_ne.2 same, List.find?_filter, Bool.decide_and,
          Bool.decide_eq_true, other, ih]

theorem mem_names_firstBindings {events : List Symbol} {name : String} :
    name ∈ (firstBindings events).map Symbol.name ↔ name ∈ events.map Symbol.name := by
  induction events with
  | nil => rfl
  | cons event events ih =>
      rw [firstBindings, List.map_cons, List.map_cons, List.mem_cons, List.mem_cons, ← ih]
      by_cases same : name = event.name
      · simp [same]
      · simp only [same, false_or, List.mem_map, List.mem_filter, bne_iff_ne]
        constructor
        · rintro ⟨symbol, ⟨isFirst, -⟩, isName⟩
          exact ⟨symbol, isFirst, isName⟩
        · rintro ⟨symbol, isFirst, rfl⟩
          exact ⟨symbol, ⟨isFirst, same⟩, rfl⟩

/-! ## Scopes -/

/-- A scope: what its parameters bind, and its statements. -/
structure Scope where
  parameters : List Symbol
  statements : List Node

namespace Scope

def ofModule (root : Node) : Scope :=
  ⟨[], root.children⟩

def ofDefinition (source : List Char) (d : Node) : Scope :=
  ⟨parameterEvents source d, bodyStatements d⟩

/-- The nodes that belong to a scope, in the order in which they are visited. -/
def nodes (scope : Scope) : List Node :=
  reachedAll sharesScope scope.statements

/-- All that is bound in a scope, in order and with repetitions. -/
def events (source : List Char) (scope : Scope) : List Symbol :=
  scope.parameters ++ scope.nodes.flatMap (bindingEvents source)

/-- The definitions that belong to a scope, in order. -/
def definitions (scope : Scope) : List Node :=
  scope.nodes.filter isNamedDefinition

end Scope

/-- A table lists the first binding of each name of a scope and holds the tables of its
definitions. -/
structure IsSymbolTable (source : List Char) (table : ScopeTable) (scope : Scope) : Prop where
  symbols : table.symbols = firstEvents (scope.events source)
  distinct : (table.symbols.map Symbol.name).Nodup
  finds : ∀ name,
    table.symbol? name = (scope.events source).find? fun event => event.name == name
  children : table.children = scope.definitions.map (tableOf source)
  named : ∀ child ∈ table.children,
    (child.kind = .function ∨ child.kind = .classDef) ∧ child.name ∈ table.symbols.map Symbol.name

theorem definedKind_eq_or (d : Node) : definedKind d = .function ∨ definedKind d = .classDef := by
  unfold definedKind
  split
  · exact .inl rfl
  · exact .inr rfl

/-- A definition binds its name in the scope to which it belongs. -/
theorem Scope.exists_event {scope : Scope} {d : Node} (isOne : d ∈ scope.definitions) :
    definedName source d ∈ (scope.events source).map Symbol.name := by
  rcases List.mem_filter.1 isOne with ⟨isNode, named⟩
  simp only [isNamedDefinition, Bool.and_eq_true] at named
  have event : (⟨definedName source d, .local⟩ : Symbol) ∈ bindingEvents source d := by
    simp [bindingEvents, named.1, named.2]
  exact List.mem_map.2
    ⟨_, List.mem_append_right _ (List.mem_flatMap.2 ⟨d, isNode, event⟩), rfl⟩

/-- A block that binds what a scope binds, and has the tables of its definitions, makes its
table. -/
theorem isSymbolTable_mk {name : String} {kind : ScopeKind} {block : Block} {scope : Scope}
    (bindings : block.bindings = scope.events source)
    (tables : block.tables = scope.definitions.map (tableOf source)) :
    IsSymbolTable source (.mk name kind (firstBindings block.bindings) block.tables) scope where
  symbols := by rw [bindings, ← firstBindings_eq_firstEvents, ScopeTable.symbols]
  distinct := nodup_names_firstBindings _
  finds wanted := by rw [← bindings, ← find?_firstBindings, ScopeTable.symbol?, ScopeTable.symbols]
  children := tables
  named := by
    intro child isChild
    rw [ScopeTable.children, tables] at isChild
    rcases List.mem_map.1 isChild with ⟨d, isOne, rfl⟩
    refine ⟨definedKind_eq_or d, ?_⟩
    rw [ScopeTable.symbols, mem_names_firstBindings, bindings]
    exact Scope.exists_event isOne

theorem isSymbolTable_scopeTable (source : List Char) (root : Node) :
    IsSymbolTable source (scopeTable source root) (.ofModule root) := by
  apply isSymbolTable_mk
  · exact bindings_blockOfAll_reached source root.children
  · exact tables_blockOfAll_reached source root.children

theorem isSymbolTable_tableOf (source : List Char) (d : Node) :
    IsSymbolTable source (tableOf source d) (.ofDefinition source d) := by
  apply isSymbolTable_mk
  · rw [innerBlock_eq, bindings_blockOfAll_reached]
    rfl
  · rw [innerBlock_eq, tables_blockOfAll_reached]
    rfl

theorem mem_preorder_of_mem_bodyStatements {d statement : Node}
    (isStatement : statement ∈ bodyStatements d) : statement ∈ d.preorder := by
  unfold bodyStatements at isStatement
  cases body : d.childByField? "body" with
  | none => simp [body] at isStatement
  | some b =>
      rw [body] at isStatement
      exact mem_preorder_trans (mem_preorder_of_childByField? body)
        (mem_preorder_of_mem_children isStatement)

theorem mem_preorder_of_mem_definitions {root d : Node} {scope : Scope}
    (inside : ∀ statement ∈ scope.statements, statement ∈ root.preorder)
    (isOne : d ∈ scope.definitions) : d ∈ root.preorder := by
  have isNode : d ∈ reachedAll sharesScope scope.statements := List.mem_of_mem_filter isOne
  rw [reachedAll_eq_flatMap] at isNode
  rcases List.mem_flatMap.1 isNode with ⟨statement, isNamed, within⟩
  exact mem_preorder_trans (inside statement (List.mem_of_mem_filter isNamed))
    (mem_preorder_of_mem_reached within)

/-- The table of a module is the symbol table of its statements. Every other table inside, at any
depth, is that of a definition of the tree, with its name and kind, and it is the symbol table of
the parameters and the body of that definition. A parameter binds the identifier that it holds,
inside of default values, types and stars. -/
theorem scopeTable_isSymbolTable (source : List Char) (root : Node) :
    (scopeTable source root).kind = .module ∧
      (∀ parameter name, parameterName? source parameter = some name ↔
        ∃ identifier, HoldsParameter parameter identifier ∧
          String.ofList (identifier.text source) = name) ∧
      ∀ table ∈ (scopeTable source root).preorder,
        (table = scopeTable source root ∧ IsSymbolTable source table (.ofModule root)) ∨
          ∃ d ∈ root.preorder, isNamedDefinition d = true ∧ table = tableOf source d ∧
            table.name = definedName source d ∧ table.kind = definedKind d ∧
            IsSymbolTable source table (.ofDefinition source d) := by
  refine ⟨rfl, fun _ _ => parameterName?_eq_some_iff, ?_⟩
  -- A definition that belongs to a scope of the tree has a table of the second form.
  have ofDefinition (scope : Scope)
      (inside : ∀ statement ∈ scope.statements, statement ∈ root.preorder)
      (table child : ScopeTable) (describes : IsSymbolTable source table scope)
      (isChild : child ∈ table.children) :
      ∃ d ∈ root.preorder, isNamedDefinition d = true ∧ child = tableOf source d ∧
        child.name = definedName source d ∧ child.kind = definedKind d ∧
        IsSymbolTable source child (.ofDefinition source d) := by
    rw [describes.children] at isChild
    rcases List.mem_map.1 isChild with ⟨d, isOne, rfl⟩
    exact ⟨d, mem_preorder_of_mem_definitions inside isOne, (List.mem_filter.1 isOne).2, rfl, rfl,
      rfl, isSymbolTable_tableOf source d⟩
  apply ScopeTable.of_mem_preorder
  · exact .inl ⟨rfl, isSymbolTable_scopeTable source root⟩
  · rintro outer (⟨-, describes⟩ | ⟨d, inTree, -, -, -, -, describes⟩) child isChild
    · refine .inr (ofDefinition _ (fun statement isStatement => ?_) outer child describes isChild)
      exact mem_preorder_of_mem_children isStatement
    · refine .inr (ofDefinition _ (fun statement isStatement => ?_) outer child describes isChild)
      exact mem_preorder_trans inTree (mem_preorder_of_mem_bodyStatements isStatement)

/-! ## A parameter that is bound again -/

/-- A module with a function that assigns its parameter `a` and imports `os`. -/
def rebindingFunction : Node :=
  .mk ⟨"module", true, false, false, false, "", 0, 41⟩
    [.mk ⟨"function_definition", true, false, false, false, "", 0, 34⟩
        [.mk ⟨"def", false, false, false, false, "", 0, 3⟩ [],
          .mk ⟨"identifier", true, false, false, false, "name", 4, 5⟩ [],
          .mk ⟨"parameters", true, false, false, false, "parameters", 5, 13⟩
            [.mk ⟨"(", false, false, false, false, "", 5, 6⟩ [],
              .mk ⟨"identifier", true, false, false, false, "", 6, 7⟩ [],
              .mk ⟨",", false, false, false, false, "", 7, 8⟩ [],
              .mk ⟨"default_parameter", true, false, false, false, "", 9, 12⟩
                [.mk ⟨"identifier", true, false, false, false, "name", 9, 10⟩ [],
                  .mk ⟨"=", false, false, false, false, "", 10, 11⟩ [],
                  .mk ⟨"integer", true, false, false, false, "value", 11, 12⟩ []],
              .mk ⟨")", false, false, false, false, "", 12, 13⟩ []],
          .mk ⟨":", false, false, false, false, "", 13, 14⟩ [],
          .mk ⟨"block", true, false, false, false, "body", 17, 34⟩
            [.mk ⟨"expression_statement", true, false, false, false, "", 17, 22⟩
                [.mk ⟨"assignment", true, false, false, false, "", 17, 22⟩
                  [.mk ⟨"identifier", true, false, false, false, "left", 17, 18⟩ [],
                    .mk ⟨"=", false, false, false, false, "", 19, 20⟩ [],
                    .mk ⟨"integer", true, false, false, false, "right", 21, 22⟩ []]],
              .mk ⟨"import_statement", true, false, false, false, "", 25, 34⟩
                [.mk ⟨"import", false, false, false, false, "", 25, 31⟩ [],
                  .mk ⟨"dotted_name", true, false, false, false, "name", 32, 34⟩
                    [.mk ⟨"identifier", true, false, false, false, "", 32, 34⟩ []]]]],
      .mk ⟨"expression_statement", true, false, false, false, "", 35, 40⟩
        [.mk ⟨"assignment", true, false, false, false, "", 35, 40⟩
          [.mk ⟨"identifier", true, false, false, false, "left", 35, 36⟩ [],
            .mk ⟨"=", false, false, false, false, "", 37, 38⟩ [],
            .mk ⟨"integer", true, false, false, false, "right", 39, 40⟩ []]]]

def rebindingFunctionText : String :=
  "def f(a, b=1):\n  a = 2\n  import os\nf = 0\n"

/-- In the table of the function `a` stays a parameter, and in that of the module `f` is listed
once. -/
theorem scopeTable_isSymbolTable_rebinding :
    let source := rebindingFunctionText.toList
    ∃ table ∈ (scopeTable source rebindingFunction).preorder, table.name = "f" ∧
      table.kind = .function ∧
      table.symbols = [⟨"a", .parameter⟩, ⟨"b", .parameter⟩, ⟨"os", .module⟩] ∧
      (scopeTable source rebindingFunction).symbols = [⟨"f", .local⟩] := by
  intro source
  rcases scopeTable_isSymbolTable source rebindingFunction with ⟨-, -, tables⟩
  have named : "f" ∈ (scopeTable source rebindingFunction).preorder.map ScopeTable.name := by
    decide +kernel
  rcases List.mem_map.1 named with ⟨table, inside, isName⟩
  refine ⟨table, inside, isName, ?_⟩
  rcases tables table inside with ⟨rfl, -⟩ | ⟨d, inTree, isOne, -, -, isKind, describes⟩
  · exact absurd isName (by decide +kernel)
  · have only : ∀ d ∈ rebindingFunction.preorder, isNamedDefinition d = true →
        definedKind d = .function ∧ firstEvents ((Scope.ofDefinition source d).events source) =
          [⟨"a", .parameter⟩, ⟨"b", .parameter⟩, ⟨"os", .module⟩] := by
      decide +kernel
    rw [isKind, describes.symbols]
    exact ⟨(only d inTree isOne).1, (only d inTree isOne).2, by decide +kernel⟩

end Python
end EditorAnalysis
