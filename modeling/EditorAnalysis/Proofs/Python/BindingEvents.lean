import EditorAnalysis.Proofs.Python.ImportSurvey
import EditorAnalysis.Proofs.Python.ScopeBlocks
import EditorAnalysis.Proofs.Syntax.Reach

/-!
# Binding events

What a node binds in its scope is said by its kind: a definition its name, an import its items, an
assignment the identifiers of its target. The block of a node is taken apart into the events of the
nodes to which one comes from it without looking inside of definitions, imports and lists of outer
names, and the tables of the definitions among them.
-/

namespace EditorAnalysis
namespace Python

open Syntax Node

variable {source : List Char}

/-! ## Events -/

/-- Functions and classes have scopes of their own. -/
def isDefinition (n : Node) : Bool :=
  n.info.kind == "function_definition" || n.info.kind == "class_definition"

def isOuterNames (n : Node) : Bool :=
  n.info.kind == "global_statement" || n.info.kind == "nonlocal_statement"

/-- What is inside a node belongs to the scope around it. -/
def sharesScope (n : Node) : Bool :=
  !isDefinition n && !isImport n && !isOuterNames n

def isIdentifier (n : Node) : Bool :=
  n.info.kind == "identifier"

def isPattern (n : Node) : Bool :=
  ["pattern_list", "tuple_pattern", "list_pattern", "list_splat_pattern", "expression_list",
    "tuple", "list", "parenthesized_expression"].contains n.info.kind

/-- The event that a node binds its text. -/
def bindsText (source : List Char) (kind : SymbolKind) (n : Node) : Symbol :=
  ⟨String.ofList (n.text source), kind⟩

/-- The name of a definition. -/
def definedName (source : List Char) (d : Node) : String :=
  String.ofList (((d.childByField? "name").map (·.text source)).getD [])

def importEvents (source : List Char) (kind : SymbolKind) (n : Node) : List Symbol :=
  (n.childrenByField "name").filterMap fun item =>
    (importBinding? source kind item).map fun bound => ⟨String.ofList bound, kind⟩

/-- The identifiers of the target on the left, which may be nested in patterns. -/
def targetEvents (source : List Char) (n : Node) : List Symbol :=
  (n.childByField? "left").toList.flatMap fun left =>
    ((left.reached isPattern).filter isIdentifier).map (bindsText source .local)

/-- What a node itself binds in the scope to which it belongs. -/
def bindingEvents (source : List Char) (n : Node) : List Symbol :=
  if isDefinition n then
    if (n.childByField? "name").isSome then [⟨definedName source n, .local⟩] else []
  else if n.info.kind = "import_statement" then importEvents source .module n
  else if n.info.kind = "import_from_statement" then importEvents source .imported n
  else if isOuterNames n then (n.namedChildren.filter isIdentifier).map (bindsText source .global)
  else if n.info.kind ∈ ["assignment", "augmented_assignment", "for_statement"] then
    targetEvents source n
  else []

/-- What the parameters of a definition bind. -/
def parameterEvents (source : List Char) (d : Node) : List Symbol :=
  (d.childByField? "parameters").toList.flatMap fun parameters =>
    parameters.namedChildren.filterMap fun parameter =>
      (parameterName? source parameter).map fun name => ⟨name, .parameter⟩

/-- How a parameter holds the identifier that it binds. -/
inductive HoldsParameter : Node → Node → Prop where
  | identifier {n : Node} (isOne : n.info.kind = "identifier") : HoldsParameter n n
  | inField {n inner identifier : Node}
      (isDefault : n.info.kind = "default_parameter" ∨ n.info.kind = "typed_default_parameter")
      (found : n.childByField? "name" = some inner) (holds : HoldsParameter inner identifier) :
      HoldsParameter n identifier
  | inFirstChild {n inner identifier : Node}
      (isWrapped : n.info.kind = "typed_parameter" ∨ n.info.kind = "list_splat_pattern" ∨
        n.info.kind = "dictionary_splat_pattern")
      (first : n.namedChildren.head? = some inner) (holds : HoldsParameter inner identifier) :
      HoldsParameter n identifier

theorem fieldParameterName?_eq (ns : List Node) :
    fieldParameterName? source ns =
      (ns.find? fun n => n.info.field == "name").bind (parameterName? source) := by
  induction ns with
  | nil => rfl
  | cons n rest ih => by_cases here : n.info.field = "name" <;> simp [fieldParameterName?, here, ih]

theorem firstParameterName?_eq (ns : List Node) :
    firstParameterName? source ns =
      ((ns.filter (·.info.named)).head?).bind (parameterName? source) := by
  induction ns with
  | nil => rfl
  | cons n rest ih => cases here : n.info.named <;> simp [firstParameterName?, here, ih]

/-- A parameter has a name of its own, or that of a child, or none. -/
theorem parameterName?_eq (n : Node) :
    parameterName? source n =
      match ParameterRole.ofKind n.info.kind with
      | .identifier => some (String.ofList (n.text source))
      | .inField => (n.childByField? "name").bind (parameterName? source)
      | .inFirstChild => n.namedChildren.head?.bind (parameterName? source)
      | .other => none := by
  cases n
  rw [parameterName?, fieldParameterName?_eq, firstParameterName?_eq]
  rfl

theorem parameterRole_eq_identifier_iff {kind : String} :
    ParameterRole.ofKind kind = .identifier ↔ kind = "identifier" := by
  unfold ParameterRole.ofKind
  split_ifs <;> simp_all

theorem parameterRole_eq_inField_iff {kind : String} :
    ParameterRole.ofKind kind = .inField ↔
      kind = "default_parameter" ∨ kind = "typed_default_parameter" := by
  unfold ParameterRole.ofKind
  split_ifs <;> simp_all

theorem parameterRole_eq_inFirstChild_iff {kind : String} :
    ParameterRole.ofKind kind = .inFirstChild ↔
      kind = "typed_parameter" ∨ kind = "list_splat_pattern" ∨
        kind = "dictionary_splat_pattern" := by
  unfold ParameterRole.ofKind
  split_ifs with _ isDefault <;> simp_all
  rcases isDefault with rfl | rfl <;> simp

/-- A parameter binds the text of the identifier that it holds. -/
theorem parameterName?_eq_some_iff {n : Node} {name : String} :
    parameterName? source n = some name ↔
      ∃ identifier, HoldsParameter n identifier ∧
        String.ofList (identifier.text source) = name := by
  constructor
  · intro bound
    induction n using Node.induction with
    | node info children ih =>
        rw [parameterName?_eq] at bound
        split at bound
        case h_1 role =>
          exact ⟨_, .identifier (parameterRole_eq_identifier_iff.1 role), Option.some.inj bound⟩
        case h_2 role =>
          rcases Option.bind_eq_some_iff.1 bound with ⟨inner, found, later⟩
          rcases ih inner (List.mem_of_find?_eq_some found) later with ⟨identifier, holds, isName⟩
          exact ⟨identifier, .inField (parameterRole_eq_inField_iff.1 role) found holds, isName⟩
        case h_3 role =>
          rcases Option.bind_eq_some_iff.1 bound with ⟨inner, first, later⟩
          have isChild : inner ∈ children := List.mem_of_mem_filter (List.mem_of_mem_head? first)
          rcases ih inner isChild later with ⟨identifier, holds, isName⟩
          exact ⟨identifier, .inFirstChild (parameterRole_eq_inFirstChild_iff.1 role) first holds,
            isName⟩
        case h_4 => cases bound
  · rintro ⟨identifier, holds, rfl⟩
    induction holds with
    | identifier isOne => rw [parameterName?_eq, parameterRole_eq_identifier_iff.2 isOne]
    | inField isDefault found _ ih =>
        rw [parameterName?_eq, parameterRole_eq_inField_iff.2 isDefault]
        exact Option.bind_eq_some_iff.2 ⟨_, found, ih⟩
    | inFirstChild isWrapped first _ ih =>
        rw [parameterName?_eq, parameterRole_eq_inFirstChild_iff.2 isWrapped]
        exact Option.bind_eq_some_iff.2 ⟨_, first, ih⟩

theorem parameterBlock_eq (d : Node) :
    parameterBlock source d = ⟨parameterEvents source d, []⟩ := by
  unfold parameterBlock parameterEvents
  cases d.childByField? "parameters" with
  | none => rfl
  | some parameters => simp [Block.binding, List.map_filterMap]

theorem targetNamesAll_eq (ns : List Node) :
    targetNamesAll source ns = (ns.filter (·.info.named)).flatMap (targetNames source) := by
  induction ns with
  | nil => rfl
  | cons n rest ih => cases here : n.info.named <;> simp [targetNamesAll, here, ih]

theorem targetRole_eq (n : Node) :
    TargetRole.ofKind n.info.kind =
      if isIdentifier n then .identifier else if isPattern n then .pattern else .other := by
  simp [TargetRole.ofKind, isIdentifier, isPattern]

theorem isPattern_eq_false_of_isIdentifier {n : Node} (identifier : isIdentifier n = true) :
    isPattern n = false := by
  have isKind : n.info.kind = "identifier" := by simpa [isIdentifier] using identifier
  simp [isPattern, isKind]

/-- A target binds the identifiers to which one comes through patterns. -/
theorem targetNames_eq (n : Node) :
    targetNames source n =
      ((n.reached isPattern).filter isIdentifier).map fun m => String.ofList (m.text source) := by
  induction n using Node.induction with
  | node info children ih =>
      have inside : targetNamesAll source children =
          ((reachedAll isPattern children).filter isIdentifier).map
            fun m => String.ofList (m.text source) := by
        rw [targetNamesAll_eq, reachedAll_eq_flatMap, List.filter_flatMap, List.map_flatMap]
        exact List.flatMap_congr fun child isNamed => ih child (List.mem_filter.1 isNamed).1
      have role : TargetRole.ofKind info.kind = _ := targetRole_eq (.mk info children)
      rw [targetNames, role, reached, inside]
      cases identifier : isIdentifier (.mk info children) with
      | true => simp [identifier, isPattern_eq_false_of_isIdentifier identifier]
      | false => cases pattern : isPattern (.mk info children) <;> simp [identifier]

theorem targetBlock_eq (n : Node) : targetBlock source n = ⟨targetEvents source n, []⟩ := by
  unfold targetBlock targetEvents
  cases n.childByField? "left" with
  | none => rfl
  | some left => simp [Block.binding, targetNames_eq, bindsText, Function.comp_def]

theorem importBlock_eq (kind : SymbolKind) (n : Node) :
    importBlock source kind n = ⟨importEvents source kind n, []⟩ := by
  simp [importBlock, importEvents, Block.binding, List.map_filterMap, Function.comp_def]

theorem outerNamesBlock_eq (n : Node) :
    outerNamesBlock source n =
      ⟨(n.namedChildren.filter isIdentifier).map (bindsText source .global), []⟩ := by
  simp only [outerNamesBlock, Block.binding, List.map_map]
  rfl

/-! ## The nodes of a scope -/

/-- What a node is for the scope around it, by its kind. -/
theorem bindingEvents_eq (source : List Char) (n : Node) :
    bindingEvents source n =
      match ScopeRole.ofKind n.info.kind with
      | .definition _ =>
        if (n.childByField? "name").isSome then [⟨definedName source n, .local⟩] else []
      | .importing kind => importEvents source kind n
      | .outerNames => (n.namedChildren.filter isIdentifier).map (bindsText source .global)
      | .assigning => targetEvents source n
      | .plain => [] := by
  unfold bindingEvents ScopeRole.ofKind isDefinition isOuterNames
  generalize n.info.kind = kind
  split_ifs <;> simp_all

theorem sharesScope_eq (n : Node) :
    sharesScope n =
      match ScopeRole.ofKind n.info.kind with
      | .assigning | .plain => true
      | _ => false := by
  unfold sharesScope ScopeRole.ofKind isDefinition isImport isOuterNames
  generalize n.info.kind = kind
  split_ifs with _ _ _ _ outer <;> simp_all
  rcases outer with rfl | rfl <;> simp

theorem isDefinition_eq (n : Node) :
    isDefinition n =
      match ScopeRole.ofKind n.info.kind with
      | .definition _ => true
      | _ => false := by
  unfold ScopeRole.ofKind isDefinition
  generalize n.info.kind = kind
  split_ifs <;> simp_all

theorem isDefinition_of_sharesScope {n : Node} (shares : sharesScope n = true) :
    isDefinition n = false := by
  simp only [sharesScope, Bool.and_eq_true, Bool.not_eq_true'] at shares
  exact shares.1.1

/-- A definition that has a name, and so a table. -/
def isNamedDefinition (n : Node) : Bool :=
  isDefinition n && (n.childByField? "name").isSome

def definedKind (d : Node) : ScopeKind :=
  if d.info.kind = "function_definition" then .function else .classDef

theorem definedKind_eq {d : Node} {kind : ScopeKind}
    (role : ScopeRole.ofKind d.info.kind = .definition kind) : definedKind d = kind := by
  unfold ScopeRole.ofKind at role
  split_ifs at role <;> simp_all [definedKind]

/-- The table of the scope that a definition opens. -/
def tableOf (source : List Char) (d : Node) : ScopeTable :=
  let inner := parameterBlock source d ++ bodyBlock source d.children
  .mk (definedName source d) (definedKind d) (firstBindings inner.bindings) inner.tables

/-- Inside of a definition its parameters are bound, and then what the statements of its body
bind. -/
theorem innerBlock_eq (d : Node) :
    parameterBlock source d ++ bodyBlock source d.children =
      ⟨parameterEvents source d ++ (blockOfAll source (bodyStatements d)).bindings,
        (blockOfAll source (bodyStatements d)).tables⟩ := by
  rw [parameterBlock_eq, bodyBlock_children]
  rfl

/-- A definition with a name binds it and opens a scope, one without a name does nothing. -/
theorem definitionBlock_eq (source : List Char) {d : Node} {kind : ScopeKind}
    (role : ScopeRole.ofKind d.info.kind = .definition kind) :
    definitionBlock source kind d (bodyBlock source d.children) =
      if (d.childByField? "name").isSome then ⟨[⟨definedName source d, .local⟩], [tableOf source d]⟩
      else .empty := by
  rw [definitionBlock, tableOf, definedKind_eq role, definedName]
  cases d.childByField? "name" <;> rfl

/-- A node binds what it has of its own and, if it shares the scope, what its children bind; a
definition with a name has a table. -/
theorem blockOf_eq (n : Node) :
    blockOf source n =
      ⟨bindingEvents source n, if isNamedDefinition n then [tableOf source n] else []⟩ ++
        if sharesScope n then blockOfAll source n.children else .empty := by
  cases n with
  | mk info children =>
      have own := bindingEvents_eq source (.mk info children)
      have shares := sharesScope_eq (.mk info children)
      have opens := isDefinition_eq (.mk info children)
      rw [blockOf, isNamedDefinition]
      cases role : ScopeRole.ofKind info.kind with
      | definition kind =>
          have opened :
              definitionBlock source kind (.mk info children) (bodyBlock source children) = _ :=
            definitionBlock_eq source role
          simp only [Node.info, role] at own shares opens
          rw [own, shares, opens, if_neg Bool.false_ne_true, Block.append_empty, Bool.true_and]
          refine opened.trans ?_
          split <;> rfl
      | importing kind =>
          simp only [Node.info, role] at own shares opens
          rw [own, shares, opens, if_neg Bool.false_ne_true, Block.append_empty]
          exact importBlock_eq kind _
      | outerNames =>
          simp only [Node.info, role] at own shares opens
          rw [own, shares, opens, if_neg Bool.false_ne_true, Block.append_empty]
          exact outerNamesBlock_eq _
      | assigning =>
          simp only [Node.info, role] at own shares opens
          rw [own, shares, opens, if_pos rfl]
          exact congrArg (· ++ blockOfAll source children) (targetBlock_eq _)
      | plain =>
          simp only [Node.info, role] at own shares opens
          rw [own, shares, opens, if_pos rfl]
          rfl

theorem bindings_blockOfAll_of {ns : List Node}
    (each : ∀ n ∈ ns, (blockOf source n).bindings =
      (n.reached sharesScope).flatMap (bindingEvents source)) :
    (blockOfAll source ns).bindings =
      (reachedAll sharesScope ns).flatMap (bindingEvents source) := by
  rw [bindings_blockOfAll, reachedAll_eq_flatMap, List.flatMap_assoc]
  exact List.flatMap_congr fun n isNamed => each n (List.mem_of_mem_filter isNamed)

/-- A node binds what the nodes bind to which one comes from it in its scope. -/
theorem bindings_blockOf (n : Node) :
    (blockOf source n).bindings = (n.reached sharesScope).flatMap (bindingEvents source) := by
  induction n using Node.induction with
  | node info children ih =>
      rw [blockOf_eq, reached, List.flatMap_cons, Block.bindings_append, Node.children]
      cases sharesScope (.mk info children) with
      | true => rw [if_pos rfl, if_pos rfl, bindings_blockOfAll_of ih]
      | false => rfl

theorem tables_blockOfAll_of {ns : List Node}
    (each : ∀ n ∈ ns, (blockOf source n).tables =
      ((n.reached sharesScope).filter isNamedDefinition).map (tableOf source)) :
    (blockOfAll source ns).tables =
      ((reachedAll sharesScope ns).filter isNamedDefinition).map (tableOf source) := by
  rw [tables_blockOfAll, reachedAll_eq_flatMap, List.filter_flatMap, List.map_flatMap]
  exact List.flatMap_congr fun n isNamed => each n (List.mem_of_mem_filter isNamed)

/-- The tables inside a scope are those of its definitions. -/
theorem tables_blockOf (n : Node) :
    (blockOf source n).tables =
      ((n.reached sharesScope).filter isNamedDefinition).map (tableOf source) := by
  induction n using Node.induction with
  | node info children ih =>
      have own (opens : Bool) (later : List Node) :
          (if opens then [tableOf source (mk info children)] else []) ++ later.map (tableOf source) =
            (if opens then mk info children :: later else later).map (tableOf source) := by
        cases opens <;> rfl
      rw [blockOf_eq, reached, Block.tables_append, Node.children, List.filter_cons, ← own]
      cases sharesScope (.mk info children) with
      | true => rw [if_pos rfl, if_pos rfl, tables_blockOfAll_of ih]
      | false => rfl

theorem bindings_blockOfAll_reached (source : List Char) (ns : List Node) :
    (blockOfAll source ns).bindings = (reachedAll sharesScope ns).flatMap (bindingEvents source) :=
  bindings_blockOfAll_of fun n _ => bindings_blockOf n

theorem tables_blockOfAll_reached (source : List Char) (ns : List Node) :
    (blockOfAll source ns).tables =
      ((reachedAll sharesScope ns).filter isNamedDefinition).map (tableOf source) :=
  tables_blockOfAll_of fun n _ => tables_blockOf n

end Python
end EditorAnalysis
