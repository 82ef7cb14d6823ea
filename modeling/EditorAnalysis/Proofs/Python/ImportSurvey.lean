import EditorAnalysis.Proofs.Syntax.Walk
import EditorAnalysis.Python.UnusedImports

/-!
# What the survey of imports visits

The survey of a tree is a walk that gathers two lists at once. It is taken apart here: the nodes
that it visits are those outside of imports, in pre-order, each with whether it is only the name of
something else; what it finds is what these nodes have of their own, one after the other.
-/

namespace EditorAnalysis
namespace Python

open Syntax Text Node

variable {source : List Char} {isName : Bool} {n : Node} {kind : SymbolKind} {bound : List Char}

/-! ## Import statements -/

/-- A statement that imports modules, or members of a module. -/
def IsImportOf (kind : SymbolKind) (n : Node) : Prop :=
  n.info.kind = "import_statement" ∧ kind = .module ∨
    n.info.kind = "import_from_statement" ∧ kind = .imported

/-- The survey does not look inside these nodes. -/
def isImport (n : Node) : Bool :=
  n.info.kind == "import_statement" || n.info.kind == "import_from_statement"

theorem importRole_eq_importing_iff :
    ImportRole.ofKind n.info.kind = .importing kind ↔ IsImportOf kind n := by
  unfold ImportRole.ofKind IsImportOf
  generalize n.info.kind = name
  split_ifs <;> subst_vars <;> simp_all
  all_goals exact eq_comm

theorem isImport_iff : isImport n = true ↔ ∃ kind, IsImportOf kind n := by
  simp [isImport, IsImportOf, exists_or]

/-- What an import statement imports, if it is one. -/
def ownImports (source : List Char) (n : Node) : List (Node × List Char) :=
  match ImportRole.ofKind n.info.kind with
  | .importing kind => importedNames source kind n
  | _ => []

theorem ownImports_of_isImportOf (imports : IsImportOf kind n) :
    ownImports source n = importedNames source kind n := by
  simp [ownImports, importRole_eq_importing_iff.2 imports]

theorem ownImports_of_not_isImport (other : isImport n = false) : ownImports source n = [] := by
  unfold ownImports
  split
  case h_1 kind importing =>
    rw [isImport_iff.2 ⟨kind, importRole_eq_importing_iff.1 importing⟩] at other
    cases other
  case h_2 => rfl

theorem mem_importedNames {statement item : Node} :
    (item, bound) ∈ importedNames source kind statement ↔
      isFutureImport source statement = false ∧ item ∈ statement.childrenByField "name" ∧
        importBinding? source kind item = some bound := by
  unfold importedNames
  split
  case isTrue future => simp [future]
  case isFalse notFuture =>
    rw [Bool.not_eq_true] at notFuture
    simp [notFuture, List.mem_filterMap, Option.map_eq_some_iff]

theorem ownReads_of_isImportOf (imports : IsImportOf kind n) : ownReads source isName n = [] := by
  simp [ownReads, importRole_eq_importing_iff.2 imports]

/-! ## The nodes that are visited -/

mutual

/-- The nodes of a tree outside of imports, in pre-order, each with whether it is only a name. -/
def visited (isName : Bool) : Node → List (Bool × Node)
  | .mk info children =>
    (isName, .mk info children) ::
      if isImport (.mk info children) then []
      else visitedAll (ImportRole.ofKind info.kind).namedField? children

/-- The nodes of several trees, of which the first one in a field is only a name. -/
def visitedAll (nameField : Option String) : List Node → List (Bool × Node)
  | [] => []
  | n :: rest =>
    if some n.info.field = nameField then visited true n ++ visitedAll none rest
    else visited false n ++ visitedAll nameField rest

end

theorem visitedAll_none (ns : List Node) : visitedAll none ns = ns.flatMap (visited false) := by
  induction ns with
  | nil => rfl
  | cons n rest ih => rw [visitedAll, if_neg (by simp), ih, List.flatMap_cons]

mutual

theorem map_snd_visited (isName : Bool) (n : Node) :
    (visited isName n).map (·.2) = n.nodesOutside isImport := by
  cases n with
  | mk info children =>
      rw [nodesOutside_mk, visited, List.map_cons]
      by_cases importing : isImport (.mk info children) = true
      · rw [if_pos importing, if_pos importing, List.map_nil]
      · rw [if_neg importing, if_neg importing, map_snd_visitedAll]

theorem map_snd_visitedAll (nameField : Option String) (ns : List Node) :
    (visitedAll nameField ns).map (·.2) = ns.flatMap (nodesOutside isImport) := by
  cases ns with
  | nil => rfl
  | cons n rest =>
      rw [visitedAll, List.flatMap_cons]
      split <;> rw [List.map_append, map_snd_visited, map_snd_visitedAll]

end

theorem mem_nodesOutside_of_mem_visited {visit : Bool × Node} (h : visit ∈ visited isName n) :
    visit.2 ∈ n.nodesOutside isImport := by
  rw [← map_snd_visited isName n]
  exact List.mem_map_of_mem h

theorem exists_visit_of_mem_nodesOutside (isName : Bool) {m : Node}
    (h : m ∈ n.nodesOutside isImport) : ∃ flag, (flag, m) ∈ visited isName n := by
  rw [← map_snd_visited isName n] at h
  rcases List.mem_map.1 h with ⟨⟨flag, _⟩, hvisit, rfl⟩
  exact ⟨flag, hvisit⟩

/-! ## What is found -/

namespace ImportSurvey

@[simp] theorem imports_append (a b : ImportSurvey) :
    (a ++ b).imports = a.imports ++ b.imports :=
  rfl

@[simp] theorem reads_append (a b : ImportSurvey) : (a ++ b).reads = a.reads ++ b.reads :=
  rfl

/-- What visited nodes have of their own. -/
def ofVisits (source : List Char) (visits : List (Bool × Node)) : ImportSurvey :=
  ⟨visits.flatMap fun visit => ownImports source visit.2,
    visits.flatMap fun visit => ownReads source visit.1 visit.2⟩

theorem ofVisits_cons (source : List Char) (isName : Bool) (n : Node)
    (visits : List (Bool × Node)) :
    ofVisits source ((isName, n) :: visits) =
      ⟨ownImports source n, ownReads source isName n⟩ ++ ofVisits source visits :=
  rfl

theorem ofVisits_append (source : List Char) (visits more : List (Bool × Node)) :
    ofVisits source (visits ++ more) = ofVisits source visits ++ ofVisits source more := by
  simp only [ofVisits, List.flatMap_append]
  rfl

end ImportSurvey

open ImportSurvey

theorem importSurvey_of_isImportOf (imports : IsImportOf kind n) :
    importSurvey source isName n = ⟨importedNames source kind n, []⟩ := by
  cases n with
  | mk info children =>
      have role : ImportRole.ofKind info.kind = .importing kind :=
        importRole_eq_importing_iff.2 imports
      rw [importSurvey, role]

theorem importSurvey_of_not_isImport {info : NodeInfo} {children : List Node}
    (other : isImport (.mk info children) = false) :
    importSurvey source isName (.mk info children) =
      ⟨[], ownReads source isName (.mk info children)⟩ ++
        importSurveyAll source (ImportRole.ofKind info.kind).namedField? children := by
  rw [importSurvey]
  split
  case h_1 kind importing =>
    have isOne : isImport (.mk info children) = true :=
      isImport_iff.2 ⟨kind, importRole_eq_importing_iff.1 importing⟩
    rw [other] at isOne
    cases isOne
  case h_2 => rfl

mutual

/-- The survey finds what the visited nodes have of their own. -/
theorem importSurvey_eq_ofVisits (source : List Char) (isName : Bool) (n : Node) :
    importSurvey source isName n = ofVisits source (visited isName n) := by
  cases n with
  | mk info children =>
      rw [visited]
      cases importing : isImport (.mk info children) with
      | true =>
          rcases isImport_iff.1 importing with ⟨kind, imports⟩
          rw [importSurvey_of_isImportOf imports]
          simp [ofVisits, ownImports_of_isImportOf imports, ownReads_of_isImportOf imports]
      | false =>
          rw [importSurvey_of_not_isImport importing, importSurveyAll_eq_ofVisits, if_neg (by simp),
            ofVisits_cons, ownImports_of_not_isImport importing]

theorem importSurveyAll_eq_ofVisits (source : List Char) (nameField : Option String)
    (ns : List Node) :
    importSurveyAll source nameField ns = ofVisits source (visitedAll nameField ns) := by
  cases ns with
  | nil => rfl
  | cons n rest =>
      rw [importSurveyAll, visitedAll]
      split <;>
        rw [importSurvey_eq_ofVisits, importSurveyAll_eq_ofVisits, ofVisits_append]

end

/-- The imports of a survey, in the order of the tree. -/
theorem imports_importSurvey (source : List Char) (isName : Bool) (n : Node) :
    (importSurvey source isName n).imports =
      (n.nodesOutside isImport).flatMap (ownImports source) := by
  rw [importSurvey_eq_ofVisits, ← map_snd_visited isName n, List.flatMap_map]
  rfl

theorem exportedNamesAll_eq_flatMap (source : List Char) (ns : List Node) :
    exportedNamesAll source ns =
      ns.flatMap fun n => if n.info.named then exportedNames source n else [] := by
  induction ns with
  | nil => rfl
  | cons n rest ih =>
      rw [exportedNamesAll, ih, List.flatMap_cons]
      split <;> rfl

/-- When one name is bound, there is an item that binds it. -/
theorem exists_item_of_map_snd_eq {imports : List (Node × List Char)}
    (h : imports.map (·.2) = [bound]) : ∃ item, (item, bound) ∈ imports := by
  have isBound : bound ∈ imports.map (·.2) := by
    rw [h]
    exact List.mem_singleton_self _
  rcases List.mem_map.1 isBound with ⟨⟨item, _⟩, imported, rfl⟩
  exact ⟨item, imported⟩

/-- An identifier reads its own name, an assignment the names that it exports. -/
theorem mem_ownReads {name : List Char} :
    name ∈ ownReads source isName n ↔
      n.info.kind = "identifier" ∧ isName = false ∧ n.text source = name ∨
        n.info.kind = "assignment" ∧ name ∈ exportsOf source n := by
  unfold ownReads ImportRole.ofKind
  generalize n.info.kind = kind
  split_ifs <;> subst_vars <;> simp_all
  exact eq_comm

theorem mem_reads_importSurvey {name : List Char} :
    name ∈ (importSurvey source isName n).reads ↔
      (∃ m, (false, m) ∈ visited isName n ∧ m.info.kind = "identifier" ∧ m.text source = name) ∨
        ∃ m ∈ n.nodesOutside isImport, m.info.kind = "assignment" ∧ name ∈ exportsOf source m := by
  rw [importSurvey_eq_ofVisits, ofVisits, List.mem_flatMap]
  simp only [mem_ownReads]
  constructor
  · rintro ⟨⟨_, m⟩, isVisited, ⟨identifier, rfl, isText⟩ | assigns⟩
    · exact .inl ⟨m, isVisited, identifier, isText⟩
    · exact .inr ⟨m, mem_nodesOutside_of_mem_visited isVisited, assigns⟩
  · rintro (⟨m, isVisited, identifier, isText⟩ | ⟨m, outside, assigns⟩)
    · exact ⟨(false, m), isVisited, .inl ⟨identifier, rfl, isText⟩⟩
    · rcases exists_visit_of_mem_nodesOutside isName outside with ⟨flag, isVisited⟩
      exact ⟨(flag, m), isVisited, .inr assigns⟩

/-! ## What is reported -/

/-- The imports of a survey whose names it does not find read. -/
def ImportSurvey.unused (survey : ImportSurvey) : List (Node × List Char) :=
  survey.imports.filter fun (_, bound) => !survey.reads.contains bound

theorem ImportSurvey.mem_unused_iff {survey : ImportSurvey} {item : Node} :
    (item, bound) ∈ survey.unused ↔ (item, bound) ∈ survey.imports ∧ bound ∉ survey.reads := by
  simp [unused]

/-- The report about an import that is not used. -/
def unusedImport (text : String) (item : Node) : Diagnostic :=
  nodeDiagnostic text.toList (physicalLines text.toList) item
    ("'" ++ String.ofList (item.text text.toList) ++ "' imported but unused")

theorem unusedImports_eq {text : String} {root : Node} (noError : root.hasError = false) :
    unusedImports text root =
      (importSurvey text.toList false root).unused.map fun (item, _) => unusedImport text item := by
  simp [unusedImports, noError, ImportSurvey.unused, unusedImport]

end Python
end EditorAnalysis
