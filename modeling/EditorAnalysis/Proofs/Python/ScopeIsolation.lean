import EditorAnalysis.Proofs.Python.SymbolTables

/-!
# Names stay in their scopes

What is bound inside of a definition reaches no table around it. From a tree everything is taken
away that is inside of the definitions at some depth, and the errors that nodes have inside are
forgotten. As far as that depth goes, the tables list the same names as before: two trees of which
the same is left have the same tables, but for what the deepest ones hold inside.
-/

namespace EditorAnalysis

/-! ## Tables inside of tables -/

/-- What a table says of itself, and no more than name and kind of the tables inside. -/
structure TableFace where
  name : String
  kind : ScopeKind
  symbols : List Symbol
  children : List (String × ScopeKind)
  deriving DecidableEq, Repr

def ScopeTable.face (table : ScopeTable) : TableFace :=
  ⟨table.name, table.kind, table.symbols, table.children.map fun child => (child.name, child.kind)⟩

/-- What a tree says of a node without regard to what is inside of it. -/
def Syntax.NodeInfo.own (info : NodeInfo) : NodeInfo :=
  { info with hasError := false }

namespace Python

open Syntax Node

variable {source : List Char} {depth : Nat}

/-! ## Trees without the insides of definitions -/

/-- Whether what is inside of a child of a definition belongs to the scope of the definition. -/
def isScopePart (info : NodeInfo) : Bool :=
  info.field == "body" || info.field == "parameters"

mutual

/-- A tree without what is inside of its deeper definitions. Those that have `depth` definitions
around them keep their children, but nothing inside of these. The body and the parameters of one
that stands less deep are kept as far as that; a body is a block, whatever its kind. -/
def emptied (depth : Nat) : Node → Node
  | .mk info children =>
    .mk info.own
      (if isDefinition (.mk info children) then emptiedParts depth children
      else emptiedAll depth children)

def emptiedAll (depth : Nat) : List Node → List Node
  | [] => []
  | n :: rest => emptied depth n :: emptiedAll depth rest

/-- The children of a definition. What is inside of its body and of its parameters is kept for a
depth that is less by one, if there is such a depth, and of the other children nothing. -/
def emptiedParts (depth : Nat) : List Node → List Node
  | [] => []
  | .mk info children :: rest =>
    .mk info.own (if 0 < depth ∧ isScopePart info then emptiedAll (depth - 1) children else []) ::
      emptiedParts depth rest

end

/-- A child of a definition, with what is kept inside of it. -/
def emptiedPart (depth : Nat) (child : Node) : Node :=
  .mk child.info.own
    (if 0 < depth ∧ isScopePart child.info then child.children.map (emptied (depth - 1)) else [])

theorem emptiedAll_eq (ns : List Node) : emptiedAll depth ns = ns.map (emptied depth) := by
  induction ns with
  | nil => rfl
  | cons n rest ih => rw [emptiedAll, ih, List.map_cons]

theorem emptiedParts_eq (ns : List Node) :
    emptiedParts depth ns = ns.map (emptiedPart depth) := by
  induction ns with
  | nil => rfl
  | cons n rest ih =>
      cases n
      rw [emptiedParts, ih, emptiedAll_eq]
      rfl

@[simp] theorem info_emptied (n : Node) : (emptied depth n).info = n.info.own := by
  cases n
  rfl

@[simp] theorem info_emptiedPart (n : Node) : (emptiedPart depth n).info = n.info.own :=
  rfl

theorem children_emptied {n : Node} (other : isDefinition n = false) :
    (emptied depth n).children = n.children.map (emptied depth) := by
  cases n
  rw [emptied, if_neg (by simp [other]), emptiedAll_eq]
  rfl

theorem children_emptied_of_isDefinition {d : Node} (isOne : isDefinition d = true) :
    (emptied depth d).children = d.children.map (emptiedPart depth) := by
  cases d
  rw [emptied, if_pos isOne, emptiedParts_eq]
  rfl

/-! ## What is read of a node -/

@[simp] theorem isDefinition_emptied (n : Node) :
    isDefinition (emptied depth n) = isDefinition n := by
  simp [isDefinition, NodeInfo.own]

@[simp] theorem isOuterNames_emptied (n : Node) :
    isOuterNames (emptied depth n) = isOuterNames n := by
  simp [isOuterNames, NodeInfo.own]

@[simp] theorem sharesScope_emptied (n : Node) : sharesScope (emptied depth n) = sharesScope n := by
  simp [sharesScope, isImport, NodeInfo.own]

@[simp] theorem isIdentifier_emptied (n : Node) :
    isIdentifier (emptied depth n) = isIdentifier n := by
  simp [isIdentifier, NodeInfo.own]

@[simp] theorem isPattern_emptied (n : Node) : isPattern (emptied depth n) = isPattern n := by
  simp [isPattern, NodeInfo.own]

@[simp] theorem text_emptied (n : Node) : (emptied depth n).text source = n.text source := by
  simp [Node.text, NodeInfo.own]

@[simp] theorem text_emptiedPart (n : Node) : (emptiedPart depth n).text source = n.text source :=
  rfl

section Children

variable {f : Node → Node} (keeps : ∀ n, (f n).info = n.info.own) {n m : Node}
  (children : m.children = n.children.map f)
include keeps children

theorem childByField?_map (field : String) :
    m.childByField? field = (n.childByField? field).map f := by
  simp only [childByField?, children, List.find?_map, Function.comp_def, keeps, NodeInfo.own]

theorem childrenByField_map (field : String) :
    m.childrenByField field = (n.childrenByField field).map f := by
  simp only [childrenByField, children, List.filter_map, Function.comp_def, keeps, NodeInfo.own]

theorem namedChildren_map : m.namedChildren = n.namedChildren.map f := by
  simp only [namedChildren, children, List.filter_map, Function.comp_def, keeps, NodeInfo.own]

end Children

/-! ## Nodes that are no definitions -/

theorem kind_of_isDefinition {d : Node} (isOne : isDefinition d = true) :
    d.info.kind = "function_definition" ∨ d.info.kind = "class_definition" := by
  simpa [isDefinition] using isOne

theorem isDefinition_of_isPattern {n : Node} (pattern : isPattern n = true) :
    isDefinition n = false := by
  cases isOne : isDefinition n with
  | false => rfl
  | true =>
      rcases kind_of_isDefinition isOne with isKind | isKind <;> simp [isPattern, isKind] at pattern

/-! ## What nodes bind -/

theorem reachedAll_emptied {goesOn : Node → Bool} {ns : List Node}
    (each : ∀ n ∈ ns, (emptied depth n).reached goesOn = (n.reached goesOn).map (emptied depth)) :
    reachedAll goesOn (ns.map (emptied depth)) = (reachedAll goesOn ns).map (emptied depth) := by
  have sameNamed : (ns.map (emptied depth)).filter (·.info.named) =
      (ns.filter (·.info.named)).map (emptied depth) := by
    simp [List.filter_map, Function.comp_def, NodeInfo.own]
  rw [reachedAll_eq_flatMap, reachedAll_eq_flatMap, sameNamed, List.flatMap_map, List.map_flatMap]
  exact List.flatMap_congr fun n isNamed => each n (List.mem_of_mem_filter isNamed)

/-- A walk that does not go into definitions comes to the same nodes. -/
theorem reached_emptied {goesOn : Node → Bool}
    (same : ∀ n : Node, goesOn (emptied depth n) = goesOn n)
    (outside : ∀ n, goesOn n = true → isDefinition n = false) (n : Node) :
    (emptied depth n).reached goesOn = (n.reached goesOn).map (emptied depth) := by
  induction n using Node.induction with
  | node info children ih =>
      rw [reached_eq, reached_eq, same, List.map_cons]
      congr 1
      cases deeper : goesOn (.mk info children) with
      | false => rfl
      | true =>
          -- The walk goes on outside of definitions only, where all children are kept.
          rw [if_pos rfl, if_pos rfl, children_emptied (outside _ deeper)]
          exact reachedAll_emptied ih

theorem importBinding?_emptied (kind : SymbolKind) (n : Node) :
    importBinding? source kind (emptied depth n) = importBinding? source kind n := by
  have sameKind : (emptied depth n).info.kind = n.info.kind := by rw [info_emptied]; rfl
  unfold importBinding?
  rw [sameKind, text_emptied]
  by_cases aliased : n.info.kind = "aliased_import"
  · -- The alias is looked for among the children, and these are kept.
    have other : isDefinition n = false := by simp [isDefinition, aliased]
    rw [if_pos aliased, if_pos aliased, childByField?_map info_emptied (children_emptied other),
      Option.map_map]
    simp [Function.comp_def]
  · rw [if_neg aliased, if_neg aliased]

theorem parameterRole_of_isDefinition {d : Node} (isOne : isDefinition d = true) :
    ParameterRole.ofKind d.info.kind = .other := by
  rcases kind_of_isDefinition isOne with isKind | isKind <;> rw [isKind] <;> rfl

/-- No parameter has its name inside of a definition. -/
theorem parameterName?_emptied (n : Node) :
    parameterName? source (emptied depth n) = parameterName? source n := by
  induction n using Node.induction generalizing depth with
  | node info children ih =>
      have sameKind : (emptied depth (.mk info children)).info.kind = info.kind := by
        rw [info_emptied]; rfl
      rw [parameterName?_eq, parameterName?_eq, sameKind, text_emptied, Node.info]
      cases isOne : isDefinition (.mk info children) with
      | true =>
          have role : ParameterRole.ofKind info.kind = .other := parameterRole_of_isDefinition isOne
          rw [role]
      | false =>
          rw [childByField?_map info_emptied (children_emptied isOne),
            namedChildren_map info_emptied (children_emptied isOne), List.head?_map,
            Option.bind_map, Option.bind_map]
          cases ParameterRole.ofKind info.kind with
          | identifier => rfl
          | inField =>
              exact Option.bind_congr fun child found => ih child (List.mem_of_find?_eq_some found)
          | inFirstChild =>
              exact Option.bind_congr fun child first =>
                ih child (List.mem_of_mem_filter (List.mem_of_mem_head? first))
          | other => rfl

theorem map_bindsText_emptied (kind : SymbolKind) (ns : List Node) :
    ((ns.map (emptied depth)).filter isIdentifier).map (bindsText source kind) =
      (ns.filter isIdentifier).map (bindsText source kind) := by
  simp [List.filter_map, Function.comp_def, bindsText]

theorem importEvents_emptied (kind : SymbolKind) {n : Node} (other : isDefinition n = false) :
    importEvents source kind (emptied depth n) = importEvents source kind n := by
  rw [importEvents, childrenByField_map info_emptied (children_emptied other), List.filterMap_map]
  simp only [Function.comp_def, importBinding?_emptied]
  rfl

theorem targetEvents_emptied {n : Node} (other : isDefinition n = false) :
    targetEvents source (emptied depth n) = targetEvents source n := by
  rw [targetEvents, childByField?_map info_emptied (children_emptied other)]
  cases found : n.childByField? "left" with
  | none => simp [targetEvents, found]
  | some left =>
      simp only [targetEvents, found, Option.map_some, Option.toList_some, List.flatMap_singleton,
        reached_emptied isPattern_emptied fun _ => isDefinition_of_isPattern,
        map_bindsText_emptied]

theorem isNamedDefinition_emptied (n : Node) :
    isNamedDefinition (emptied depth n) = isNamedDefinition n := by
  rw [isNamedDefinition, isNamedDefinition, isDefinition_emptied]
  cases isOne : isDefinition n with
  | false => rfl
  | true =>
      rw [childByField?_map info_emptiedPart (children_emptied_of_isDefinition isOne),
        Option.isSome_map]

theorem definedName_emptied {d : Node} (isOne : isDefinition d = true) :
    definedName source (emptied depth d) = definedName source d := by
  rw [definedName, childByField?_map info_emptiedPart (children_emptied_of_isDefinition isOne),
    Option.map_map]
  simp only [Function.comp_def, text_emptiedPart]
  rfl

theorem definedKind_emptied (d : Node) : definedKind (emptied depth d) = definedKind d := by
  simp [definedKind, NodeInfo.own]

theorem bindingEvents_emptied (n : Node) :
    bindingEvents source (emptied depth n) = bindingEvents source n := by
  have sameKind : (emptied depth n).info.kind = n.info.kind := by rw [info_emptied]; rfl
  rw [bindingEvents, bindingEvents, isDefinition_emptied, isOuterNames_emptied, sameKind]
  cases isOne : isDefinition n with
  | true =>
      rw [childByField?_map info_emptiedPart (children_emptied_of_isDefinition isOne),
        Option.isSome_map, definedName_emptied isOne]
      rfl
  | false =>
      rw [importEvents_emptied _ isOne, importEvents_emptied _ isOne, targetEvents_emptied isOne,
        namedChildren_map info_emptied (children_emptied isOne), map_bindsText_emptied]
      rfl

/-! ## Scopes -/

theorem children_emptiedPart {part : Node} {field : String}
    (isField : part.info.field = field) (ofScope : field = "body" ∨ field = "parameters") :
    (emptiedPart (depth + 1) part).children = part.children.map (emptied depth) := by
  have isPart : isScopePart part.info = true := by simpa [isScopePart, isField] using ofScope
  rw [emptiedPart, if_pos ⟨Nat.succ_pos depth, isPart⟩]
  rfl

theorem parameterEvents_emptied {d : Node} (isOne : isDefinition d = true) :
    parameterEvents source (emptied (depth + 1) d) = parameterEvents source d := by
  rw [parameterEvents, parameterEvents,
    childByField?_map info_emptiedPart (children_emptied_of_isDefinition isOne)]
  cases found : d.childByField? "parameters" with
  | none => rfl
  | some parameters =>
      have kept : (emptiedPart (depth + 1) parameters).children =
          parameters.children.map (emptied depth) :=
        children_emptiedPart (field_of_childByField? found) (.inr rfl)
      simp only [Option.map_some, Option.toList_some, List.flatMap_singleton,
        namedChildren_map info_emptied kept, List.filterMap_map, Function.comp_def,
        parameterName?_emptied]

theorem bodyStatements_emptied {d : Node} (isOne : isDefinition d = true) :
    bodyStatements (emptied (depth + 1) d) = (bodyStatements d).map (emptied depth) := by
  rw [bodyStatements, bodyStatements,
    childByField?_map info_emptiedPart (children_emptied_of_isDefinition isOne)]
  cases found : d.childByField? "body" with
  | none => rfl
  | some body => exact children_emptiedPart (field_of_childByField? found) (.inl rfl)

/-- A scope without what is inside of its definitions at a depth. -/
def Scope.emptied (depth : Nat) (scope : Scope) : Scope :=
  ⟨scope.parameters, scope.statements.map (Python.emptied depth)⟩

theorem Scope.nodes_emptied (scope : Scope) :
    (scope.emptied depth).nodes = scope.nodes.map (Python.emptied depth) := by
  have shared (statement : Node) :
      (Python.emptied depth statement).reached sharesScope =
        (statement.reached sharesScope).map (Python.emptied depth) :=
    reached_emptied sharesScope_emptied (fun _ => isDefinition_of_sharesScope) statement
  exact reachedAll_emptied fun statement _ => shared statement

theorem Scope.events_emptied (scope : Scope) :
    (scope.emptied depth).events source = scope.events source := by
  rw [events, nodes_emptied, List.flatMap_map]
  simp only [bindingEvents_emptied]
  rfl

theorem Scope.definitions_emptied (scope : Scope) :
    (scope.emptied depth).definitions = scope.definitions.map (Python.emptied depth) := by
  rw [definitions, nodes_emptied, List.filter_map]
  simp only [Function.comp_def, isNamedDefinition_emptied]
  rfl

theorem Scope.isDefinition_of_mem {scope : Scope} {d : Node} (isOne : d ∈ scope.definitions) :
    isDefinition d = true := by
  have named := (List.mem_filter.1 isOne).2
  simp only [isNamedDefinition, Bool.and_eq_true] at named
  exact named.1

theorem Scope.ofDefinition_emptied {d : Node} (isOne : isDefinition d = true) :
    Scope.ofDefinition source (Python.emptied (depth + 1) d) =
      (Scope.ofDefinition source d).emptied depth := by
  rw [ofDefinition, parameterEvents_emptied isOne, bodyStatements_emptied isOne]
  rfl

/-! ## Tables -/

theorem map_names_children {table : ScopeTable} {scope : Scope}
    (describes : IsSymbolTable source table scope) :
    table.children.map (fun child => (child.name, child.kind)) =
      scope.definitions.map fun d => (definedName source d, definedKind d) := by
  rw [describes.children, List.map_map]
  rfl

/-- A table says the same of itself if the scopes are the same without the insides of their
definitions. -/
theorem face_eq {table table' : ScopeTable} {scope scope' : Scope}
    (describes : IsSymbolTable source table scope) (describes' : IsSymbolTable source table' scope')
    (name : table.name = table'.name) (kind : table.kind = table'.kind)
    (same : scope.emptied depth = scope'.emptied depth) : table.face = table'.face := by
  have events : scope.events source = scope'.events source := by
    rw [← scope.events_emptied, same, scope'.events_emptied]
  have label (scope : Scope) :
      (scope.emptied depth).definitions.map (fun d => (definedName source d, definedKind d)) =
        scope.definitions.map fun d => (definedName source d, definedKind d) := by
    rw [scope.definitions_emptied, List.map_map]
    apply List.map_congr_left
    intro d isOne
    exact Prod.ext (definedName_emptied (Scope.isDefinition_of_mem isOne)) (definedKind_emptied d)
  rw [ScopeTable.face, ScopeTable.face, name, kind, describes.symbols, describes'.symbols, events,
    map_names_children describes, map_names_children describes', ← label scope, same, label scope']

/-- Each step of a path leads into a definition, where one definition less is kept around the next
ones. -/
theorem face_at?_eq {path : List Nat} (short : path.length ≤ depth) {table table' : ScopeTable}
    {scope scope' : Scope} (describes : IsSymbolTable source table scope)
    (describes' : IsSymbolTable source table' scope') (name : table.name = table'.name)
    (kind : table.kind = table'.kind) (same : scope.emptied depth = scope'.emptied depth) :
    (table.at? path).map ScopeTable.face = (table'.at? path).map ScopeTable.face := by
  induction path generalizing depth table table' scope scope' with
  | nil => exact congrArg some (face_eq describes describes' name kind same)
  | cons index path ih =>
      -- The tables at the index are those of two definitions of which the same is left, and so the
      -- scopes of these definitions have the same left one definition less deep.
      rcases Nat.exists_eq_succ_of_ne_zero (Nat.ne_zero_of_lt short) with ⟨inner, rfl⟩
      have sameAt : (scope.definitions[index]?).map (emptied (inner + 1)) =
          (scope'.definitions[index]?).map (emptied (inner + 1)) := by
        rw [← List.getElem?_map, ← List.getElem?_map, ← scope.definitions_emptied, same,
          scope'.definitions_emptied]
      rw [ScopeTable.at?, ScopeTable.at?, describes.children, describes'.children,
        List.getElem?_map, List.getElem?_map]
      cases here : scope.definitions[index]? with
      | none =>
          rw [here] at sameAt
          rw [Option.map_eq_none_iff.1 sameAt.symm]
      | some d =>
          rw [here] at sameAt
          rcases Option.map_eq_some_iff.1 sameAt.symm with ⟨d', here', left⟩
          have isOne := Scope.isDefinition_of_mem (List.mem_of_getElem? here)
          have isOne' := Scope.isDefinition_of_mem (List.mem_of_getElem? here')
          rw [here']
          apply ih (Nat.le_of_succ_le_succ short) (isSymbolTable_tableOf source d)
            (isSymbolTable_tableOf source d')
          · exact (definedName_emptied isOne).symm.trans (left ▸ definedName_emptied isOne')
          · exact (definedKind_emptied d).symm.trans (left ▸ definedKind_emptied d')
          · rw [← Scope.ofDefinition_emptied isOne, ← left, Scope.ofDefinition_emptied isOne']

/-- What a definition binds inside of it reaches no table around it: two trees of which the same is
left without the insides of definitions at some depth have the same tables up to that depth, with
the same symbols and with tables of the same names and kinds inside. At depth zero this says that
the table of the module does not depend on the body or the parameters of any definition. -/
theorem scopeTable_faces_eq (source : List Char) {depth : Nat} {root root' : Node}
    (same : root.children.map (emptied depth) = root'.children.map (emptied depth))
    {path : List Nat} (short : path.length ≤ depth) :
    ((scopeTable source root).at? path).map ScopeTable.face =
      ((scopeTable source root').at? path).map ScopeTable.face :=
  face_at?_eq short (isSymbolTable_scopeTable source root) (isSymbolTable_scopeTable source root')
    rfl rfl (congrArg (Scope.mk []) same)

/-! ## A function in a function -/

/-- A function `f` with a parameter `a`, in which a function `g` has these parameters and this
body. -/
def innerFunction (parameters statements : List Node) : Node :=
  .mk ⟨"module", true, false, false, false, "", 0, 28⟩
    [.mk ⟨"function_definition", true, false, false, false, "", 0, 27⟩
      [.mk ⟨"def", false, false, false, false, "", 0, 3⟩ [],
        .mk ⟨"identifier", true, false, false, false, "name", 4, 5⟩ [],
        .mk ⟨"parameters", true, false, false, false, "parameters", 5, 8⟩
          [.mk ⟨"(", false, false, false, false, "", 5, 6⟩ [],
            .mk ⟨"identifier", true, false, false, false, "", 6, 7⟩ [],
            .mk ⟨")", false, false, false, false, "", 7, 8⟩ []],
        .mk ⟨":", false, false, false, false, "", 8, 9⟩ [],
        .mk ⟨"block", true, false, false, false, "body", 12, 27⟩
          [.mk ⟨"function_definition", true, false, false, false, "", 12, 27⟩
            [.mk ⟨"def", false, false, false, false, "", 12, 15⟩ [],
              .mk ⟨"identifier", true, false, false, false, "name", 16, 17⟩ [],
              .mk ⟨"parameters", true, false, false, false, "parameters", 17, 20⟩ parameters,
              .mk ⟨":", false, false, false, false, "", 20, 21⟩ [],
              .mk ⟨"block", true, false, false, false, "body", 22, 27⟩ statements]]]]

def innerFunctionText : String :=
  "def f(a):\n  def g(b): c = a\n"

def innerParameters : List Node :=
  [.mk ⟨"(", false, false, false, false, "", 17, 18⟩ [],
    .mk ⟨"identifier", true, false, false, false, "", 18, 19⟩ [],
    .mk ⟨")", false, false, false, false, "", 19, 20⟩ []]

def innerStatements : List Node :=
  [.mk ⟨"expression_statement", true, false, false, false, "", 22, 27⟩
    [.mk ⟨"assignment", true, false, false, false, "", 22, 27⟩
      [.mk ⟨"identifier", true, false, false, false, "left", 22, 23⟩ [],
        .mk ⟨"=", false, false, false, false, "", 24, 25⟩ [],
        .mk ⟨"identifier", true, false, false, false, "right", 26, 27⟩ []]]]

/-- What `g` binds is in its own table, and the table of `f` is as if `g` were empty. -/
theorem scopeTable_faces_eq_innerFunction :
    let table := scopeTable innerFunctionText.toList (innerFunction innerParameters innerStatements)
    let emptyTable := scopeTable innerFunctionText.toList (innerFunction [] [])
    (table.at? [0]).map ScopeTable.face = (emptyTable.at? [0]).map ScopeTable.face ∧
      (table.at? [0]).map ScopeTable.face =
        some ⟨"f", .function, [⟨"a", .parameter⟩, ⟨"g", .local⟩], [("g", .function)]⟩ ∧
      (table.at? [0, 0]).map ScopeTable.face =
        some ⟨"g", .function, [⟨"b", .parameter⟩, ⟨"c", .local⟩], []⟩ ∧
      (emptyTable.at? [0, 0]).map ScopeTable.face = some ⟨"g", .function, [], []⟩ := by
  intro table emptyTable
  have alike : (table.at? [0]).map ScopeTable.face = (emptyTable.at? [0]).map ScopeTable.face :=
    scopeTable_faces_eq innerFunctionText.toList
      (show (innerFunction innerParameters innerStatements).children.map (emptied 1) =
        (innerFunction [] []).children.map (emptied 1) from rfl) (Nat.le_refl 1)
  exact ⟨alike, by decide +kernel, by decide +kernel, by decide +kernel⟩

end Python
end EditorAnalysis
