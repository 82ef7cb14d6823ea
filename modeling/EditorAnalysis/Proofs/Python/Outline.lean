import EditorAnalysis.Proofs.Python.BindingEvents
import EditorAnalysis.Proofs.Scope.Table
import EditorAnalysis.Proofs.Syntax.Span
import EditorAnalysis.Python.Outline

/-!
# The outline and the scope tables

The outline of a tree comes from a walk through all of its named nodes, the scope tables from one
that looks inside of definitions only where their bodies are and not at all inside of imports. When
definitions stand nowhere else, both walks find the same functions in the same order.
-/

namespace EditorAnalysis

/-- The names of the function tables among some tables, at any depth and in pre-order. -/
def ScopeTable.functionNames (tables : List ScopeTable) : List String :=
  ((preorderAll tables).filter fun table => table.kind == .function).map name

theorem ScopeTable.functionNames_append (tables more : List ScopeTable) :
    functionNames (tables ++ more) = functionNames tables ++ functionNames more := by
  simp [functionNames, preorderAll_eq_flatMap]

theorem ScopeTable.functionNames_flatMap {α : Type} (f : α → List ScopeTable) (items : List α) :
    functionNames (items.flatMap f) = items.flatMap fun item => functionNames (f item) := by
  induction items with
  | nil => rfl
  | cons item rest ih => rw [List.flatMap_cons, functionNames_append, ih, List.flatMap_cons]

theorem ScopeTable.functionNames_singleton (table : ScopeTable) :
    functionNames [table] =
      (if table.kind = .function then [table.name] else []) ++ functionNames table.children := by
  cases table with
  | mk name kind symbols children =>
      by_cases isFunction : kind = .function <;>
        simp [functionNames, preorderAll, preorder, isFunction, ScopeTable.kind, ScopeTable.name,
          ScopeTable.children]

namespace Python

open Syntax Text Node

variable {source : List Char}

/-! ## Where definitions stand -/

/-- A node is a definition or has one inside. -/
def HoldsDefinition (n : Node) : Prop :=
  ∃ m ∈ n.preorder, isDefinition m = true

instance (n : Node) : Decidable (HoldsDefinition n) :=
  inferInstanceAs (Decidable (∃ m ∈ n.preorder, _))

/-- All definitions have names. Those inside of another definition stand properly inside of its
only body, a named node, and none is part of an import or of a list of outer names. -/
structure NestsInBodies (root : Node) : Prop where
  named : ∀ d ∈ root.preorder, isDefinition d = true → (d.childByField? "name").isSome = true
  inBody : ∀ d ∈ root.preorder, isDefinition d = true →
    ∀ child ∈ d.children, HoldsDefinition child →
      child.info.field = "body" ∧ (d.childrenByField "body").length = 1 ∧
        child.info.named = true ∧ isDefinition child = false
  apart : ∀ n ∈ root.preorder, isImport n = true ∨ isOuterNames n = true → ¬HoldsDefinition n

theorem NestsInBodies.child {n child : Node} (h : NestsInBodies n) (isChild : child ∈ n.children) :
    NestsInBodies child where
  named d inChild := h.named d (mem_preorder_trans (mem_preorder_of_mem_children isChild) inChild)
  inBody d inChild := h.inBody d (mem_preorder_trans (mem_preorder_of_mem_children isChild) inChild)
  apart m inChild := h.apart m (mem_preorder_trans (mem_preorder_of_mem_children isChild) inChild)

/-- The child of a definition inside of which others stand. -/
theorem NestsInBodies.childrenByField_eq {d body : Node} (regular : NestsInBodies d)
    (isOne : isDefinition d = true) (isChild : body ∈ d.children) (holds : HoldsDefinition body) :
    d.childrenByField "body" = [body] := by
  rcases regular.inBody d (self_mem_preorder d) isOne body isChild holds with ⟨isBody, single, -⟩
  have inField : body ∈ d.childrenByField "body" := List.mem_filter.2 ⟨isChild, by simp [isBody]⟩
  rcases List.length_eq_one_iff.1 single with ⟨only, isOnly⟩
  rw [isOnly] at inField ⊢
  rw [List.mem_singleton.1 inField]

/-! ## The outline as a walk -/

theorem functionHintsAll_eq (ns : List Node) :
    functionHintsAll source ns = (ns.filter (·.info.named)).flatMap (functionHints source) := by
  induction ns with
  | nil => rfl
  | cons n rest ih => cases isNamed : n.info.named <;> simp [functionHintsAll, isNamed, ih]

/-- The hints of a tree are those of its named nodes. -/
theorem functionHints_eq (n : Node) :
    functionHints source n = (n.reached fun _ => true).filterMap (functionHint? source) := by
  induction n using Node.induction with
  | node info children ih =>
      have inside : functionHintsAll source children =
          (reachedAll (fun _ => true) children).filterMap (functionHint? source) := by
        rw [functionHintsAll_eq, reachedAll_eq_flatMap, List.filterMap_flatMap]
        exact List.flatMap_congr fun child isNamed => ih child (List.mem_of_mem_filter isNamed)
      rw [functionHints, reached, if_pos rfl, inside, List.filterMap_cons]
      cases functionHint? source (.mk info children) <;> rfl

/-- The names in the outline of a tree. -/
def outlineNames (source : List Char) (n : Node) : List String :=
  (functionHints source n).map Hint.name

theorem map_name_functionHintsAll (ns : List Node) :
    (functionHintsAll source ns).map Hint.name =
      (ns.filter (·.info.named)).flatMap (outlineNames source) := by
  rw [functionHintsAll_eq, List.map_flatMap]
  rfl

theorem outlineNames_eq (n : Node) :
    outlineNames source n =
      (functionHint? source n).toList.map Hint.name ++
        (n.children.filter (·.info.named)).flatMap (outlineNames source) := by
  cases n
  rw [outlineNames, functionHints, List.map_append, map_name_functionHintsAll]
  rfl

theorem functionHint?_of_not_isDefinition {n : Node} (other : isDefinition n = false) :
    functionHint? source n = none := by
  have notFunction : n.info.kind ≠ "function_definition" := by
    intro isKind
    simp [isDefinition, isKind] at other
  rw [functionHint?, if_neg notFunction]

/-- A definition with a name is in the outline if it is a function. -/
theorem map_name_functionHint? {d : Node}
    (named : (d.childByField? "name").isSome = true) :
    (functionHint? source d).toList.map Hint.name =
      if definedKind d = .function then [definedName source d] else [] := by
  rcases Option.isSome_iff_exists.1 named with ⟨name, isName⟩
  by_cases isFunction : d.info.kind = "function_definition"
  · simp [functionHint?, definedKind, definedName, isFunction, isName]
  · simp [functionHint?, definedKind, isFunction]

/-! ## Nodes without definitions -/

theorem outlineNames_eq_nil {n : Node} (nowhere : ¬HoldsDefinition n) :
    outlineNames source n = [] := by
  rw [outlineNames, functionHints_eq, List.map_eq_nil_iff, List.filterMap_eq_nil_iff]
  intro m isReached
  have inside := mem_preorder_of_mem_reached isReached
  apply functionHint?_of_not_isDefinition
  simpa using fun isOne => nowhere ⟨m, inside, isOne⟩

theorem tables_blockOf_eq_nil {n : Node} (nowhere : ¬HoldsDefinition n) :
    (blockOf source n).tables = [] := by
  rw [tables_blockOf, List.map_eq_nil_iff, List.filter_eq_nil_iff]
  intro m isReached
  have inside := mem_preorder_of_mem_reached isReached
  have other : isDefinition m = false := by simpa using fun isOne => nowhere ⟨m, inside, isOne⟩
  simp [isNamedDefinition, other]

/-! ## The outline and the tables -/

theorem tables_blockOf_of_sharesScope {n : Node} (shares : sharesScope n = true) :
    (blockOf source n).tables = (blockOfAll source n.children).tables := by
  have notNamed : isNamedDefinition n = false := by
    simp [isNamedDefinition, isDefinition_of_sharesScope shares]
  rw [blockOf_eq, if_pos shares, notNamed]
  rfl

theorem tables_blockOf_of_isNamedDefinition {d : Node} (isOne : isNamedDefinition d = true) :
    (blockOf source d).tables = [tableOf source d] := by
  have notShared : sharesScope d = false := by
    simp only [isNamedDefinition, Bool.and_eq_true] at isOne
    simp [sharesScope, isOne.1]
  rw [blockOf_eq, notShared, isOne]
  rfl

/-- A node inside of which a definition stands has a scope of its own or shares that around it. -/
theorem NestsInBodies.sharesScope {n : Node} (regular : NestsInBodies n) (holds : HoldsDefinition n)
    (other : isDefinition n = false) : sharesScope n = true := by
  have free : ¬(isImport n = true ∨ isOuterNames n = true) := fun isKind =>
    regular.apart n (self_mem_preorder n) isKind holds
  simpa [Python.sharesScope, other] using free

/-- If a definition is inside of another one, all of them are inside of its body. -/
theorem NestsInBodies.flatMap_children {α : Type} {d body : Node} (regular : NestsInBodies d)
    (isOne : isDefinition d = true) (isChild : body ∈ d.children) (holds : HoldsDefinition body)
    {f : Node → List α} (others : ∀ child, ¬HoldsDefinition child → f child = []) :
    (d.children.filter (·.info.named)).flatMap f = f body := by
  rcases regular.inBody d (self_mem_preorder d) isOne body isChild holds with ⟨-, -, isNamed, -⟩
  have outside (child : Node) (inNode : child ∈ d.children.filter (·.info.named))
      (notBody : (child.info.field == "body") = false) : f child = [] := by
    apply others
    intro holds
    have isBody : child.info.field = "body" :=
      (regular.inBody d (self_mem_preorder d) isOne child (List.mem_of_mem_filter inNode) holds).1
    simp [isBody] at notBody
  have bodies : (d.children.filter (·.info.named)).filter (·.info.field == "body") = [body] := by
    calc
      (d.children.filter (·.info.named)).filter (·.info.field == "body")
          = (d.childrenByField "body").filter (·.info.named) := List.filter_comm ..
      _ = [body].filter (·.info.named) := by
        rw [regular.childrenByField_eq isOne isChild holds]
      _ = [body] := List.filter_eq_self.2 (by simpa using isNamed)
  calc
    (d.children.filter (·.info.named)).flatMap f
        = ((d.children.filter (·.info.named)).filter (·.info.field == "body")).flatMap f :=
      (flatMap_filter_of_eq_nil outside).symm
    _ = f body := by rw [bodies, List.flatMap_singleton]

theorem bodyStatements_eq {d body : Node} (only : d.childrenByField "body" = [body]) :
    bodyStatements d = body.children := by
  have found : d.childByField? "body" = some body := by
    rw [childByField?, ← List.head?_filter]
    exact congrArg List.head? only
  rw [bodyStatements, found]
  rfl

/-- No definition is inside of a body if none is inside of the children of the node. -/
theorem tables_bodyStatements_eq_nil {d : Node}
    (nowhere : ∀ child ∈ d.children, ¬HoldsDefinition child) :
    (blockOfAll source (bodyStatements d)).tables = [] := by
  rw [tables_blockOfAll, List.flatMap_eq_nil_iff]
  intro statement isNamed
  have isStatement : statement ∈ bodyStatements d := List.mem_of_mem_filter isNamed
  unfold bodyStatements at isStatement
  cases found : d.childByField? "body" with
  | none => simp [found] at isStatement
  | some body =>
      rw [found] at isStatement
      apply tables_blockOf_eq_nil
      rintro ⟨m, inside, isOne⟩
      have inBody := mem_preorder_trans (mem_preorder_of_mem_children isStatement) inside
      exact nowhere body (List.mem_of_find?_eq_some found) ⟨m, inBody, isOne⟩

theorem children_tableOf (d : Node) :
    (tableOf source d).children = (blockOfAll source (bodyStatements d)).tables := by
  rw [tableOf, innerBlock_eq, ScopeTable.children]

/-- Inside of a definition the outline lists the functions that have a table inside of its table,
if it does so in each of its children. -/
theorem outlineNames_children {d : Node} (regular : NestsInBodies d) (isOne : isDefinition d = true)
    (ofChild : ∀ child ∈ d.children,
      outlineNames source child = ScopeTable.functionNames (blockOf source child).tables) :
    (d.children.filter (·.info.named)).flatMap (outlineNames source) =
      ScopeTable.functionNames (tableOf source d).children := by
  rw [children_tableOf]
  by_cases deep : ∃ child ∈ d.children, HoldsDefinition child
  · -- The walk through all children finds functions in the body only.
    rcases deep with ⟨body, isChild, holds⟩
    rcases regular.inBody d (self_mem_preorder d) isOne body isChild holds with ⟨-, -, -, other⟩
    have shares : sharesScope body = true := (regular.child isChild).sharesScope holds other
    calc
      (d.children.filter (·.info.named)).flatMap (outlineNames source)
          = outlineNames source body :=
        regular.flatMap_children isOne isChild holds fun _ => outlineNames_eq_nil
      _ = ScopeTable.functionNames (blockOf source body).tables := ofChild body isChild
      _ = ScopeTable.functionNames (blockOfAll source (bodyStatements d)).tables := by
        rw [bodyStatements_eq (regular.childrenByField_eq isOne isChild holds),
          tables_blockOf_of_sharesScope shares]
  · have nowhere : ∀ child ∈ d.children, ¬HoldsDefinition child := by simpa using deep
    rw [tables_bodyStatements_eq_nil nowhere]
    exact List.flatMap_eq_nil_iff.2 fun child isNamed =>
      outlineNames_eq_nil (nowhere child (List.mem_of_mem_filter isNamed))

/-- The outline of a node lists the functions that have a table in its block. -/
theorem outlineNames_eq_functionNames (n : Node) (regular : NestsInBodies n) :
    outlineNames source n = ScopeTable.functionNames (blockOf source n).tables := by
  induction n using Node.induction with
  | node info children ih =>
      let n := mk info children
      have ofChild (child : Node) (isChild : child ∈ n.children) :
          outlineNames source child = ScopeTable.functionNames (blockOf source child).tables :=
        ih child isChild (regular.child isChild)
      -- Imports and lists of outer names are met by the first case only, so that both walks go on
      -- to the same children in the second one.
      by_cases holds : HoldsDefinition n
      case neg => rw [outlineNames_eq_nil holds, tables_blockOf_eq_nil holds]; rfl
      rw [outlineNames_eq]
      cases isOne : isDefinition n with
      | false =>
          have shares := regular.sharesScope holds isOne
          rw [functionHint?_of_not_isDefinition isOne, tables_blockOf_of_sharesScope shares,
            tables_blockOfAll, ScopeTable.functionNames_flatMap]
          exact List.flatMap_congr fun child isNamed =>
            ofChild child (List.mem_of_mem_filter isNamed)
      | true =>
          have named := regular.named n (self_mem_preorder n) isOne
          have isNamed : isNamedDefinition n = true := by simp [isNamedDefinition, isOne, named]
          rw [tables_blockOf_of_isNamedDefinition isNamed,
            ScopeTable.functionNames_singleton, ← outlineNames_children regular isOne ofChild,
            map_name_functionHint? named]
          rfl

/-! ## The order of the lines -/

/-- The hints of a tree whose nodes start in order are in the order of their lines. -/
theorem pairwise_line_functionHints {root : Node}
    (ordered : (root.preorder.map (·.info.start)).Pairwise (· ≤ ·)) :
    ((functionHints source root).map Hint.line).Pairwise (· ≤ ·) := by
  have starts : (root.reached fun _ => true).Pairwise fun a b => a.info.start ≤ b.info.start :=
    (List.pairwise_map.1 ordered).sublist (reached_sublist_preorder root)
  have ofHint {n : Node} {hint : Hint} (isHint : functionHint? source n = some hint) :
      hint.line = (bytePosition source n.info.start).row := by
    unfold functionHint? at isHint
    split at isHint
    · rcases Option.map_eq_some_iff.1 isHint with ⟨_, _, rfl⟩
      rfl
    · cases isHint
  rw [functionHints_eq, List.pairwise_map, List.pairwise_filterMap]
  refine starts.imp fun inOrder hint isHint later isLater => ?_
  rw [ofHint isHint, ofHint isLater]
  exact row_bytePosition_mono source inOrder

/-- The outline of a module lists its function tables, at any depth and in pre-order, when all
definitions have names and those inside of others stand in their bodies. Its lines never decrease
when the nodes start in order. -/
theorem functionHints_eq_functionTables (source : List Char) {root : Node}
    (isModule : root.info.kind = "module") (regular : NestsInBodies root)
    (ordered : (root.preorder.map (·.info.start)).Pairwise (· ≤ ·)) :
    (functionHints source root).map Hint.name =
        ((scopeTable source root).preorder.filter fun table => table.kind == .function).map
          ScopeTable.name ∧
      ((functionHints source root).map Hint.line).Pairwise (· ≤ ·) := by
  refine ⟨?_, pairwise_line_functionHints ordered⟩
  have shares : sharesScope root = true := by
    simp [sharesScope, isDefinition, isImport, isOuterNames, isModule]
  calc
    (functionHints source root).map Hint.name
        = ScopeTable.functionNames (blockOf source root).tables :=
      outlineNames_eq_functionNames root regular
    _ = ScopeTable.functionNames (blockOfAll source root.children).tables := by
      rw [tables_blockOf_of_sharesScope shares]
    _ = _ := rfl

/-! ## Functions in a class, in a condition and in a function -/

/-- A class with a method, and a condition under which there is a function with one inside. -/
def nestedFunctions : Node :=
  .mk ⟨"module", true, false, false, false, "", 0, 54⟩
    [.mk ⟨"class_definition", true, false, false, false, "", 0, 21⟩
       [.mk ⟨"class", false, false, false, false, "", 0, 5⟩ [],
        .mk ⟨"identifier", true, false, false, false, "name", 6, 7⟩ [],
        .mk ⟨":", false, false, false, false, "", 7, 8⟩ [],
        .mk ⟨"block", true, false, false, false, "body", 11, 21⟩
          [.mk ⟨"function_definition", true, false, false, false, "", 11, 21⟩
             [.mk ⟨"def", false, false, false, false, "", 11, 14⟩ [],
              .mk ⟨"identifier", true, false, false, false, "name", 15, 16⟩ [],
              .mk ⟨"parameters", true, false, false, false, "parameters", 16, 18⟩
                [.mk ⟨"(", false, false, false, false, "", 16, 17⟩ [],
                 .mk ⟨")", false, false, false, false, "", 17, 18⟩ []],
              .mk ⟨":", false, false, false, false, "", 18, 19⟩ [],
              .mk ⟨"block", true, false, false, false, "body", 20, 21⟩
                [.mk ⟨"expression_statement", true, false, false, false, "", 20, 21⟩
                   [.mk ⟨"integer", true, false, false, false, "", 20, 21⟩ []]]]]],
     .mk ⟨"if_statement", true, false, false, false, "", 22, 53⟩
       [.mk ⟨"if", false, false, false, false, "", 22, 24⟩ [],
        .mk ⟨"identifier", true, false, false, false, "condition", 25, 26⟩ [],
        .mk ⟨":", false, false, false, false, "", 26, 27⟩ [],
        .mk ⟨"block", true, false, false, false, "consequence", 30, 53⟩
          [.mk ⟨"function_definition", true, false, false, false, "", 30, 53⟩
             [.mk ⟨"def", false, false, false, false, "", 30, 33⟩ [],
              .mk ⟨"identifier", true, false, false, false, "name", 34, 35⟩ [],
              .mk ⟨"parameters", true, false, false, false, "parameters", 35, 37⟩
                [.mk ⟨"(", false, false, false, false, "", 35, 36⟩ [],
                 .mk ⟨")", false, false, false, false, "", 36, 37⟩ []],
              .mk ⟨":", false, false, false, false, "", 37, 38⟩ [],
              .mk ⟨"block", true, false, false, false, "body", 43, 53⟩
                [.mk ⟨"function_definition", true, false, false, false, "", 43, 53⟩
                   [.mk ⟨"def", false, false, false, false, "", 43, 46⟩ [],
                    .mk ⟨"identifier", true, false, false, false, "name", 47, 48⟩ [],
                    .mk ⟨"parameters", true, false, false, false, "parameters", 48, 50⟩
                      [.mk ⟨"(", false, false, false, false, "", 48, 49⟩ [],
                       .mk ⟨")", false, false, false, false, "", 49, 50⟩ []],
                    .mk ⟨":", false, false, false, false, "", 50, 51⟩ [],
                    .mk ⟨"block", true, false, false, false, "body", 52, 53⟩
                      [.mk ⟨"expression_statement", true, false, false, false, "", 52, 53⟩
                         [.mk ⟨"integer", true, false, false, false, "", 52, 53⟩ []]]]]]]]]

def nestedFunctionsText : String :=
  "class A:\n  def f(): 0\nif c:\n  def g():\n    def h(): 0\n"

theorem nestsInBodies_nestedFunctions : NestsInBodies nestedFunctions where
  named := by decide +kernel
  inBody := by decide +kernel
  apart := by decide +kernel

/-- The outline and the tables both list the method, the function and the function inside. -/
theorem functionHints_eq_functionTables_nested :
    let source := nestedFunctionsText.toList
    NestsInBodies nestedFunctions ∧
      ((scopeTable source nestedFunctions).preorder.filter fun table =>
        table.kind == .function).map ScopeTable.name = ["f", "g", "h"] ∧
      (functionHints source nestedFunctions).map Hint.name = ["f", "g", "h"] ∧
      ((functionHints source nestedFunctions).map Hint.line).Pairwise (· ≤ ·) := by
  intro source
  have both := functionHints_eq_functionTables source rfl nestsInBodies_nestedFunctions
    (by decide +kernel)
  have listed : (functionHints source nestedFunctions).map Hint.name = ["f", "g", "h"] := by
    decide +kernel
  exact ⟨nestsInBodies_nestedFunctions, both.1 ▸ listed, listed, both.2⟩

end Python
end EditorAnalysis
