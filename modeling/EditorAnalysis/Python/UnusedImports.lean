import EditorAnalysis.Python.ScopeTable
import EditorAnalysis.Python.StringLiteral
import EditorAnalysis.Syntax.Span
import EditorAnalysis.Text.Blank

/-!
# Unused imports

Names that are imported and never read. Reading is matched by name over the whole module: it does
not matter where the name is read, nor in which scope. A name listed in `__all__` counts as read.
The name of an attribute and the name of a keyword argument are not reads. Imports from
`__future__` are never reported, and a tree with syntax errors gives no report at all.
-/

namespace EditorAnalysis
namespace Python

open Syntax Text

/-- What a tree imports, as the imported node and the name that it binds, and what it reads. -/
structure ImportSurvey where
  imports : List (Node × List Char)
  reads : List (List Char)
  deriving Repr

namespace ImportSurvey

def empty : ImportSurvey := ⟨[], []⟩

def append (a b : ImportSurvey) : ImportSurvey := ⟨a.imports ++ b.imports, a.reads ++ b.reads⟩

instance : Append ImportSurvey := ⟨append⟩

end ImportSurvey

/-- What a node means for imports and reads. -/
inductive ImportRole where
  | importing (kind : SymbolKind)
  | identifier
  | assignment
  /-- A node whose child in this field is a name of something else, not a read. -/
  | naming (field : String)
  | plain
  deriving DecidableEq, Repr

namespace ImportRole

def ofKind (kind : String) : ImportRole :=
  if kind = "import_statement" then .importing .module
  else if kind = "import_from_statement" then .importing .imported
  else if kind = "identifier" then .identifier
  else if kind = "assignment" then .assignment
  else if kind = "attribute" then .naming "attribute"
  else if kind = "keyword_argument" then .naming "name"
  else .plain

/-- The field whose first child is not a read. -/
def namedField? : ImportRole → Option String
  | .naming field => some field
  | _ => none

end ImportRole

def isFutureImport (source : List Char) (n : Node) : Bool :=
  match n.childByField? "module_name" with
  | some name => name.text source == "__future__".toList
  | none => false

/-- The items of an import that bind a name. -/
def importedNames (source : List Char) (kind : SymbolKind) (n : Node) :
    List (Node × List Char) :=
  if isFutureImport source n then []
  else
    (n.childrenByField "name").filterMap fun item =>
      (importBinding? source kind item).map (item, ·)

mutual

/-- The strings of an exported list, without the quotes around them. -/
def exportedNames (source : List Char) : Node → List (List Char)
  | .mk info children =>
    if info.kind = "string" then [trim isQuote (Node.text source (.mk info children))]
    else exportedNamesAll source children

def exportedNamesAll (source : List Char) : List Node → List (List Char)
  | [] => []
  | n :: rest =>
    if n.info.named then exportedNames source n ++ exportedNamesAll source rest
    else exportedNamesAll source rest

end

/-- The names that an assignment exports: those listed on its right when `__all__` stands on its
left. -/
def exportsOf (source : List Char) (n : Node) : List (List Char) :=
  match n.childByField? "left", n.childByField? "right" with
  | some left, some right =>
    if left.text source = "__all__".toList then exportedNames source right else []
  | _, _ => []

/-- What a node itself reads; an identifier reads unless it `isName` of something else. -/
def ownReads (source : List Char) (isName : Bool) (n : Node) : List (List Char) :=
  match ImportRole.ofKind n.info.kind with
  | .identifier => if isName then [] else [n.text source]
  | .assignment => exportsOf source n
  | _ => []

mutual

/-- What a tree imports and reads. `isName` says that the root, if it is an identifier, names
something else. What is inside an import is not looked at. -/
def importSurvey (source : List Char) (isName : Bool) : Node → ImportSurvey
  | .mk info children =>
    match ImportRole.ofKind info.kind with
    | .importing kind => ⟨importedNames source kind (.mk info children), []⟩
    | role =>
      ⟨[], ownReads source isName (.mk info children)⟩ ++
        importSurveyAll source role.namedField? children

/-- What several trees import and read, of which the first one in a field is only a name. -/
def importSurveyAll (source : List Char) (nameField : Option String) :
    List Node → ImportSurvey
  | [] => .empty
  | n :: rest =>
    -- Only the first child in the field is a name; the next one may be a read.
    if some n.info.field = nameField then
      importSurvey source true n ++ importSurveyAll source none rest
    else importSurvey source false n ++ importSurveyAll source nameField rest

end

/-- The diagnostics of the unused imports of a text with this tree. -/
def unusedImports (text : String) (root : Node) : List Diagnostic :=
  -- In a text with syntax errors nothing is known about reads.
  if root.hasError then []
  else
    let source := text.toList
    let lines := physicalLines source
    let survey := importSurvey source false root
    let unused := survey.imports.filter fun (_, bound) => !survey.reads.contains bound
    unused.map fun (item, _) =>
      nodeDiagnostic source lines item
        ("'" ++ String.ofList (item.text source) ++ "' imported but unused")

end Python
end EditorAnalysis
