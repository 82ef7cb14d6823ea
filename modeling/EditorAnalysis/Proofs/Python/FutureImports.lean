import EditorAnalysis.Proofs.Python.ImportSurvey

/-!
# Imports from `__future__`

An import from `__future__` is a statement of a kind of its own. It is never reported, but it is
not passed over like other imports: the identifiers in it are read like any others. Without these
statements a tree gives the same report and, besides, the imports that are unused but for an
identifier in one of them.
-/

namespace EditorAnalysis
namespace Python

open Syntax Text Node

/-! ## Trees without future imports -/

def isFutureStatement (n : Node) : Bool :=
  n.info.kind == "future_import_statement"

mutual

/-- A tree without the future imports inside of it. -/
def withoutFuture : Node → Node
  | .mk info children => .mk info (withoutFutureAll children)

def withoutFutureAll : List Node → List Node
  | [] => []
  | n :: rest =>
    if isFutureStatement n then withoutFutureAll rest else withoutFuture n :: withoutFutureAll rest

end

@[simp] theorem info_withoutFuture (n : Node) : (withoutFuture n).info = n.info := by
  cases n
  rfl

@[simp] theorem text_withoutFuture (source : List Char) (n : Node) :
    (withoutFuture n).text source = n.text source := by
  simp [Node.text]

theorem children_withoutFuture (n : Node) :
    (withoutFuture n).children = withoutFutureAll n.children := by
  cases n
  rfl

theorem withoutFutureAll_eq (ns : List Node) :
    withoutFutureAll ns = (ns.filter (!isFutureStatement ·)).map withoutFuture := by
  induction ns with
  | nil => rfl
  | cons n rest ih =>
      rw [withoutFutureAll, ih]
      split
      case isTrue future => rw [List.filter_cons_of_neg (by simp [future])]
      case isFalse other => rw [List.filter_cons_of_pos (by simp [other]), List.map_cons]

theorem not_isFutureStatement_of_mem_withoutFuture (n : Node)
    (other : isFutureStatement n = false) :
    ∀ m ∈ (withoutFuture n).preorder, isFutureStatement m = false := by
  induction n using Node.induction with
  | node info children ih =>
      intro m inTree
      rw [withoutFuture, withoutFutureAll_eq] at inTree
      rcases mem_preorder_iff.1 inTree with rfl | ⟨child, isChild, inChild⟩
      · exact other
      · rcases List.mem_map.1 isChild with ⟨original, kept, rfl⟩
        rcases List.mem_filter.1 kept with ⟨isOriginal, notFuture⟩
        exact ih original isOriginal (by simpa using notFuture) m inChild

/-! ## What a future import holds -/

/-- A node that the survey does not treat in a way of its own, identifiers apart, and no string. -/
def IsPlain (n : Node) : Prop :=
  ImportRole.ofKind n.info.kind ∈ [.identifier, .plain] ∧ n.info.kind ≠ "string"

instance (n : Node) : Decidable (IsPlain n) :=
  inferInstanceAs (Decidable (_ ∧ _))

/-- A future import stands in no field, and identifiers are all that is in it for the survey. -/
structure HoldsNames (n : Node) : Prop where
  field : n.info.field = ""
  plain : ∀ m ∈ n.preorder, IsPlain m

instance (n : Node) : Decidable (HoldsNames n) :=
  decidable_of_iff (n.info.field = "" ∧ ∀ m ∈ n.preorder, IsPlain m)
    ⟨fun h => ⟨h.1, h.2⟩, fun h => ⟨h.field, h.plain⟩⟩

/-- All future imports of a tree are such statements. -/
def FutureHoldsNames (root : Node) : Prop :=
  ∀ n ∈ root.preorder, isFutureStatement n = true → HoldsNames n

instance (root : Node) : Decidable (FutureHoldsNames root) :=
  inferInstanceAs (Decidable (∀ n ∈ root.preorder, _))

theorem FutureHoldsNames.inside {root n : Node} (h : FutureHoldsNames root)
    (inRoot : n ∈ root.preorder) : FutureHoldsNames n :=
  fun m inNode => h m (mem_preorder_trans inRoot inNode)

theorem FutureHoldsNames.child {n child : Node} (h : FutureHoldsNames n)
    (isChild : child ∈ n.children) : FutureHoldsNames child :=
  h.inside (mem_preorder_of_mem_children isChild)

theorem FutureHoldsNames.holdsNames {n child : Node} (h : FutureHoldsNames n)
    (isChild : child ∈ n.children) (future : isFutureStatement child = true) : HoldsNames child :=
  h child (mem_preorder_of_mem_children isChild) future

/-- The texts of the identifiers of a tree. -/
def identifierTexts (source : List Char) (n : Node) : List (List Char) :=
  (n.preorder.filter (·.info.kind == "identifier")).map (·.text source)

theorem mem_identifierTexts {source : List Char} {n : Node} {name : List Char} :
    name ∈ identifierTexts source n ↔
      ∃ m ∈ n.preorder, m.info.kind = "identifier" ∧ m.text source = name := by
  simp [identifierTexts, and_assoc]

/-- The names in the future imports of a tree. -/
def futureNames (source : List Char) (root : Node) : List (List Char) :=
  ((root.nodesOutside isImport).filter isFutureStatement).flatMap (identifierTexts source)

theorem futureNames_mk (source : List Char) (info : NodeInfo) (children : List Node) :
    futureNames source (.mk info children) =
      (if isFutureStatement (.mk info children) then identifierTexts source (.mk info children)
        else []) ++
      if isImport (.mk info children) then [] else children.flatMap (futureNames source) := by
  have inside : ((children.flatMap (nodesOutside isImport)).filter isFutureStatement).flatMap
      (identifierTexts source) = children.flatMap (futureNames source) := by
    rw [List.filter_flatMap, List.flatMap_assoc]
    rfl
  rw [futureNames, nodesOutside_mk, List.filter_cons]
  split <;> split <;> simp [inside]

theorem mem_futureNames_iff {source : List Char} {n : Node} {name : List Char}
    (future : isFutureStatement n = true) :
    name ∈ futureNames source n ↔ name ∈ identifierTexts source n := by
  constructor
  · intro inFuture
    rcases List.mem_flatMap.1 inFuture with ⟨m, isOne, inNames⟩
    have inNode := mem_preorder_of_mem_nodesOutside (List.mem_filter.1 isOne).1
    rcases mem_identifierTexts.1 inNames with ⟨identifier, within, isName⟩
    exact mem_identifierTexts.2 ⟨identifier, mem_preorder_trans inNode within, isName⟩
  · intro inNames
    cases n
    rw [futureNames_mk, if_pos future]
    exact List.mem_append_left _ inNames

theorem IsPlain.isImport_eq_false {n : Node} (h : IsPlain n) : isImport n = false := by
  cases importing : isImport n with
  | false => rfl
  | true =>
      rcases isImport_iff.1 importing with ⟨kind, imports⟩
      have role := h.1
      rw [importRole_eq_importing_iff.2 imports] at role
      simp at role

theorem IsPlain.namedField?_eq_none {n : Node} (h : IsPlain n) :
    (ImportRole.ofKind n.info.kind).namedField? = none := by
  have role := h.1
  simp only [List.mem_cons, List.not_mem_nil, or_false] at role
  rcases role with identifier | plain
  · rw [identifier]
    rfl
  · rw [plain]
    rfl

theorem IsPlain.ne_assignment {n : Node} (h : IsPlain n) : n.info.kind ≠ "assignment" := by
  intro assigns
  have role := h.1
  rw [assigns] at role
  simp [ImportRole.ofKind] at role

/-- Of plain nodes, all are visited and none is only a name of something else. -/
theorem visited_of_plain (n : Node) (plain : ∀ m ∈ n.preorder, IsPlain m) :
    visited false n = n.preorder.map (false, ·) := by
  induction n using Node.induction with
  | node info children ih =>
      have self := plain _ (self_mem_preorder _)
      have noField : (ImportRole.ofKind info.kind).namedField? = none := self.namedField?_eq_none
      have inside : ∀ child ∈ children, visited false child = child.preorder.map (false, ·) := by
        intro child isChild
        have within : child ∈ (mk info children).preorder := mem_preorder_of_mem_children isChild
        exact ih child isChild fun m inChild => plain m (mem_preorder_trans within inChild)
      rw [visited, self.isImport_eq_false, if_neg Bool.false_ne_true, noField, visitedAll_none,
        preorder, preorderAll_eq_flatMap, List.map_cons, List.map_flatMap,
        List.flatMap_congr inside]

/-- A future import reads its identifiers. -/
theorem HoldsNames.mem_reads_iff {source : List Char} {n : Node} {name : List Char}
    (h : HoldsNames n) :
    name ∈ (importSurvey source false n).reads ↔ name ∈ identifierTexts source n := by
  rw [mem_reads_importSurvey, mem_identifierTexts, visited_of_plain n h.plain]
  have noExport : ¬∃ m ∈ n.nodesOutside isImport,
      m.info.kind = "assignment" ∧ name ∈ exportsOf source m := by
    rintro ⟨m, outside, assigns, -⟩
    exact (h.plain m (mem_preorder_of_mem_nodesOutside outside)).ne_assignment assigns
  simp [noExport]

/-! ## What stays the same -/

section Fields

variable {n : Node} {field : String}

/-- Only children in no field are gone. -/
theorem childrenByField_withoutFuture (h : FutureHoldsNames n) (some_ : field ≠ "") :
    (withoutFuture n).childrenByField field = (n.childrenByField field).map withoutFuture := by
  have stays : ∀ child ∈ n.children,
      (child.info.field == field && !isFutureStatement child) = (child.info.field == field) := by
    intro child isChild
    cases future : isFutureStatement child with
    | false => simp
    | true =>
        have noField := (h.holdsNames isChild future).field
        simp [noField, some_.symm]
  rw [childrenByField, children_withoutFuture, withoutFutureAll_eq, List.filter_map,
    List.filter_filter]
  simp only [Function.comp_apply, info_withoutFuture]
  rw [List.filter_congr stays, childrenByField]

theorem childByField?_withoutFuture (h : FutureHoldsNames n) (some_ : field ≠ "") :
    (withoutFuture n).childByField? field = (n.childByField? field).map withoutFuture := by
  have ofChildren (m : Node) : m.childByField? field = (m.childrenByField field).head? :=
    List.head?_filter.symm
  rw [ofChildren, childrenByField_withoutFuture h some_, List.head?_map, ← ofChildren]

end Fields

variable {source : List Char}

theorem importBinding?_withoutFuture {kind : SymbolKind} {item : Node}
    (h : FutureHoldsNames item) :
    importBinding? source kind (withoutFuture item) = importBinding? source kind item := by
  simp only [importBinding?, info_withoutFuture, text_withoutFuture,
    childByField?_withoutFuture h (by decide : "alias" ≠ ""), Option.map_map, Function.comp_def]

theorem isFutureImport_withoutFuture {n : Node} (h : FutureHoldsNames n) :
    isFutureImport source (withoutFuture n) = isFutureImport source n := by
  rw [isFutureImport, isFutureImport, childByField?_withoutFuture h (by decide)]
  cases n.childByField? "module_name" <;> simp

/-- An imported item and its name in the tree without future imports. -/
def withoutFutureItem : Node × List Char → Node × List Char :=
  Prod.map withoutFuture id

theorem importedNames_withoutFuture {kind : SymbolKind} {n : Node} (h : FutureHoldsNames n) :
    importedNames source kind (withoutFuture n) =
      (importedNames source kind n).map withoutFutureItem := by
  have sameItem : ∀ item ∈ n.childrenByField "name",
      (importBinding? source kind (withoutFuture item)).map (withoutFuture item, ·) =
        ((importBinding? source kind item).map (item, ·)).map withoutFutureItem := by
    intro item isItem
    have holds := h.child (List.mem_filter.1 isItem).1
    rw [importBinding?_withoutFuture holds, Option.map_map]
    rfl
  rw [importedNames, importedNames, isFutureImport_withoutFuture h]
  split
  · rfl
  · rw [childrenByField_withoutFuture h (by decide), List.filterMap_map, List.map_filterMap]
    exact List.filterMap_congr sameItem

theorem isImport_withoutFuture (n : Node) : isImport (withoutFuture n) = isImport n := by
  simp [isImport]

theorem ownImports_withoutFuture {n : Node} (h : FutureHoldsNames n) :
    ownImports source (withoutFuture n) = (ownImports source n).map withoutFutureItem := by
  unfold ownImports
  rw [info_withoutFuture]
  split
  · exact importedNames_withoutFuture h
  · rfl

theorem HoldsNames.ownImports_eq_nil {n : Node} (h : HoldsNames n) :
    (n.nodesOutside isImport).flatMap (ownImports source) = [] := by
  refine List.flatMap_eq_nil_iff.2 fun m outside => ?_
  have plain := h.plain m (mem_preorder_of_mem_nodesOutside outside)
  exact ownImports_of_not_isImport plain.isImport_eq_false

/-- What holds of the children that stay, and of the future imports, which have none of it, holds
of the children. -/
theorem flatMap_withoutFutureAll {α : Type} {f : Node → List α} {g : α → α} {ns : List Node}
    (stays : ∀ n ∈ ns, f (withoutFuture n) = (f n).map g)
    (none : ∀ n ∈ ns, isFutureStatement n = true → f n = []) :
    (withoutFutureAll ns).flatMap f = (ns.flatMap f).map g := by
  induction ns with
  | nil => rfl
  | cons n rest ih =>
      rw [List.forall_mem_cons] at stays none
      rw [withoutFutureAll, List.flatMap_cons, List.map_append, ← ih stays.2 none.2]
      split
      case isTrue future => rw [none.1 future, List.map_nil, List.nil_append]
      case isFalse => rw [List.flatMap_cons, stays.1]

/-- The same is imported, by the same statements. -/
theorem imports_withoutFuture (n : Node) (h : FutureHoldsNames n) :
    (importSurvey source false (withoutFuture n)).imports =
      (importSurvey source false n).imports.map withoutFutureItem := by
  rw [imports_importSurvey, imports_importSurvey]
  induction n using Node.induction with
  | node info children ih =>
      have same : isImport (withoutFuture (mk info children)) = isImport (mk info children) :=
        isImport_withoutFuture _
      have own : ownImports source (withoutFuture (mk info children)) =
          (ownImports source (mk info children)).map withoutFutureItem :=
        ownImports_withoutFuture h
      rw [withoutFuture] at same own
      rw [withoutFuture, nodesOutside_mk, nodesOutside_mk, same, List.flatMap_cons,
        List.flatMap_cons, own, List.map_append]
      congr 1
      split
      case isTrue => rfl
      case isFalse =>
        rw [List.flatMap_assoc, List.flatMap_assoc]
        refine flatMap_withoutFutureAll (fun child isChild => ?_) (fun child isChild future => ?_)
        · exact ih child isChild (h.child isChild)
        · exact (h.holdsNames isChild future).ownImports_eq_nil

theorem exportedNames_of_plain (n : Node) (plain : ∀ m ∈ n.preorder, IsPlain m) :
    exportedNames source n = [] := by
  induction n using Node.induction with
  | node info children ih =>
      have noString : info.kind ≠ "string" := (plain _ (self_mem_preorder _)).2
      rw [exportedNames, if_neg noString, exportedNamesAll_eq_flatMap]
      refine List.flatMap_eq_nil_iff.2 fun child isChild => ?_
      have within : child ∈ (mk info children).preorder := mem_preorder_of_mem_children isChild
      rw [ih child isChild fun m inChild => plain m (mem_preorder_trans within inChild), ite_self]

/-- Future imports hold no strings, so the same is exported. -/
theorem exportedNames_withoutFuture (n : Node) (h : FutureHoldsNames n) :
    exportedNames source (withoutFuture n) = exportedNames source n := by
  induction n using Node.induction with
  | node info children ih =>
      rw [withoutFuture, exportedNames, exportedNames]
      split
      case isTrue => rfl
      case isFalse =>
        rw [exportedNamesAll_eq_flatMap, exportedNamesAll_eq_flatMap, flatMap_withoutFutureAll,
          List.map_id]
        · intro child isChild
          rw [info_withoutFuture, ih child isChild (h.child isChild), List.map_id]
        · intro child isChild future
          rw [exportedNames_of_plain child (h.holdsNames isChild future).plain, ite_self]

theorem exportsOf_withoutFuture {n : Node} (h : FutureHoldsNames n) :
    exportsOf source (withoutFuture n) = exportsOf source n := by
  rw [exportsOf, exportsOf, childByField?_withoutFuture h (by decide),
    childByField?_withoutFuture h (by decide)]
  cases n.childByField? "left" with
  | none => rfl
  | some left =>
      cases isRight : n.childByField? "right" with
      | none => rfl
      | some right =>
          have holds := h.inside (mem_preorder_of_childByField? isRight)
          simp only [Option.map_some, text_withoutFuture,
            exportedNames_withoutFuture right holds]

theorem ownReads_withoutFuture {isName : Bool} {n : Node} (h : FutureHoldsNames n) :
    ownReads source isName (withoutFuture n) = ownReads source isName n := by
  simp only [ownReads, info_withoutFuture, text_withoutFuture, exportsOf_withoutFuture h]

/-! ## What is read -/

variable {name : List Char}

theorem mem_reads_withoutFutureAll {nameField : Option String} {ns : List Node}
    (noName : nameField ≠ some "")
    (future : ∀ n ∈ ns, isFutureStatement n = true → HoldsNames n)
    (other : ∀ n ∈ ns, isFutureStatement n = false → ∀ isName,
      (name ∈ (importSurvey source isName n).reads ↔
        name ∈ (importSurvey source isName (withoutFuture n)).reads ∨
          name ∈ futureNames source n)) :
    name ∈ (importSurveyAll source nameField ns).reads ↔
      name ∈ (importSurveyAll source nameField (withoutFutureAll ns)).reads ∨
        name ∈ ns.flatMap (futureNames source) := by
  induction ns generalizing nameField with
  | nil => simp [importSurveyAll, withoutFutureAll]
  | cons n rest ih =>
      rw [List.forall_mem_cons] at future other
      have later (field : Option String) (h : field ≠ some "") := ih h future.2 other.2
      rw [List.flatMap_cons, List.mem_append, withoutFutureAll]
      cases isFuture : isFutureStatement n with
      | true =>
          -- It stands in no field, so the first child in the field stays the first.
          have holds := future.1 isFuture
          rw [importSurveyAll, if_neg (by rw [holds.field]; exact noName.symm), if_pos rfl,
            ImportSurvey.reads_append, List.mem_append, holds.mem_reads_iff,
            mem_futureNames_iff isFuture, later nameField noName]
          exact or_left_comm
      | false =>
          rw [if_neg Bool.false_ne_true, importSurveyAll, importSurveyAll, info_withoutFuture]
          split
          · rw [ImportSurvey.reads_append, ImportSurvey.reads_append, List.mem_append,
              List.mem_append, other.1 isFuture, later none (by simp)]
            exact or_or_or_comm ..
          · rw [ImportSurvey.reads_append, ImportSurvey.reads_append, List.mem_append,
              List.mem_append, other.1 isFuture, later nameField noName]
            exact or_or_or_comm ..

/-- What the future imports read is all that is no longer read without them. -/
theorem mem_reads_withoutFuture (n : Node) (h : FutureHoldsNames n)
    (other : isFutureStatement n = false) (isName : Bool) :
    name ∈ (importSurvey source isName n).reads ↔
      name ∈ (importSurvey source isName (withoutFuture n)).reads ∨ name ∈ futureNames source n := by
  induction n using Node.induction generalizing isName with
  | node info children ih =>
      rw [futureNames_mk, other, if_neg Bool.false_ne_true, List.nil_append]
      have same : isImport (withoutFuture (mk info children)) = isImport (mk info children) :=
        isImport_withoutFuture _
      cases importing : isImport (.mk info children) with
      | true =>
          rw [importing] at same
          rcases isImport_iff.1 importing with ⟨kind, imports⟩
          rcases isImport_iff.1 same with ⟨kind', imports'⟩
          simp [importSurvey_of_isImportOf imports, importSurvey_of_isImportOf imports']
      | false =>
          rw [importing, withoutFuture] at same
          have own : ownReads source isName (mk info (withoutFutureAll children)) =
              ownReads source isName (mk info children) :=
            ownReads_withoutFuture h
          -- Names are held in fields, and future imports stand in none.
          have noName : (ImportRole.ofKind info.kind).namedField? ≠ some "" := by
            unfold ImportRole.ofKind
            split_ifs <;> simp [ImportRole.namedField?]
          have holds : ∀ child ∈ children, isFutureStatement child = true → HoldsNames child :=
            fun child isChild => h.holdsNames isChild
          have inside := mem_reads_withoutFutureAll noName holds
            fun child isChild => ih child isChild (h.child isChild)
          rw [withoutFuture, importSurvey_of_not_isImport importing,
            importSurvey_of_not_isImport same, own, ImportSurvey.reads_append,
            ImportSurvey.reads_append, List.mem_append, List.mem_append, inside,
            if_neg Bool.false_ne_true]
          exact or_assoc.symm

/-! ## What is reported -/

/-- The unused imports are those of the tree without future imports whose names are not among the
names in future imports. -/
theorem unused_withoutFuture (root : Node) (h : FutureHoldsNames root)
    (other : isFutureStatement root = false) :
    (importSurvey source false root).unused.map withoutFutureItem =
      (importSurvey source false (withoutFuture root)).unused.filter
        fun (_, bound) => !(futureNames source root).contains bound := by
  have reads (bound : List Char) :
      (!(importSurvey source false root).reads.contains bound) =
        (!(futureNames source root).contains bound &&
          !(importSurvey source false (withoutFuture root)).reads.contains bound) := by
    rw [Bool.eq_iff_iff]
    simp [mem_reads_withoutFuture root h other, and_comm]
  rw [ImportSurvey.unused, ImportSurvey.unused, imports_withoutFuture root h, List.filter_filter,
    List.filter_map]
  congr 1
  apply List.filter_congr
  rintro ⟨item, bound⟩ -
  exact reads bound

theorem unusedImport_withoutFuture (text : String) (item : Node) :
    unusedImport text (withoutFuture item) = unusedImport text item := by
  simp only [unusedImport, nodeDiagnostic, info_withoutFuture, text_withoutFuture]

/-- The report about a tree is that about the tree without future imports, less the imports whose
names stand in a future import. The two are the same only where there are no such imports. No
future import is in the report. -/
theorem unusedImports_withoutFuture (text : String) (root : Node)
    (isModule : root.info.kind = "module") (h : FutureHoldsNames root)
    (noError : root.hasError = false) :
    let source := text.toList
    let unused := (importSurvey source false (withoutFuture root)).unused
    (∀ n ∈ (withoutFuture root).preorder, isFutureStatement n = false) ∧
      unusedImports text (withoutFuture root) =
        unused.map (fun (item, _) => unusedImport text item) ∧
      unusedImports text root =
        (unused.filter fun (_, bound) => !(futureNames source root).contains bound).map
          (fun (item, _) => unusedImport text item) ∧
      (unusedImports text root = unusedImports text (withoutFuture root) ↔
        ∀ item bound, (item, bound) ∈ unused → bound ∉ futureNames source root) := by
  intro source unused
  have other : isFutureStatement root = false := by simp [isFutureStatement, isModule]
  have noError' : (withoutFuture root).hasError = false := by
    rw [Node.hasError, info_withoutFuture]
    exact noError
  have reported : unusedImports text root =
      (unused.filter fun (_, bound) => !(futureNames source root).contains bound).map
        (fun (item, _) => unusedImport text item) := by
    rw [unusedImports_eq noError, ← unused_withoutFuture root h other, List.map_map]
    apply List.map_congr_left
    rintro ⟨item, bound⟩ -
    exact (unusedImport_withoutFuture text item).symm
  refine ⟨not_isFutureStatement_of_mem_withoutFuture root other, unusedImports_eq noError',
    reported, ?_⟩
  rw [reported, unusedImports_eq noError']
  constructor
  · intro same item bound isUnused
    -- A filter that leaves the length as it is leaves everything.
    have lengths := congrArg List.length same
    rw [List.length_map, List.length_map, List.length_filter_eq_length_iff] at lengths
    simpa using lengths (item, bound) isUnused
  · intro clear
    rw [List.filter_eq_self.2]
    rintro ⟨item, bound⟩ isUnused
    simpa using clear item bound isUnused

/-! ## A name that only a future import reads -/

/-- A module that imports `annotations` from `__future__` and a module of the same name. -/
def futureAnnotations : Node :=
  .mk ⟨"module", true, false, false, false, "", 0, 54⟩
    [.mk ⟨"future_import_statement", true, false, false, false, "", 0, 34⟩
        [.mk ⟨"from", false, false, false, false, "", 0, 4⟩ [],
          .mk ⟨"__future__", false, false, false, false, "", 5, 15⟩ [],
          .mk ⟨"import", false, false, false, false, "", 16, 22⟩ [],
          .mk ⟨"dotted_name", true, false, false, false, "name", 23, 34⟩
            [.mk ⟨"identifier", true, false, false, false, "", 23, 34⟩ []]],
      .mk ⟨"import_statement", true, false, false, false, "", 35, 53⟩
        [.mk ⟨"import", false, false, false, false, "", 35, 41⟩ [],
          .mk ⟨"dotted_name", true, false, false, false, "name", 42, 53⟩
            [.mk ⟨"identifier", true, false, false, false, "", 42, 53⟩ []]]]

def futureAnnotationsText : String :=
  "from __future__ import annotations\nimport annotations\n"

/-- The module is read nowhere, but its name stands in the future import. -/
theorem future_import_reads :
    futureAnnotations.hasError = false ∧ FutureHoldsNames futureAnnotations ∧
      unusedImports futureAnnotationsText futureAnnotations = [] ∧
      unusedImports futureAnnotationsText (withoutFuture futureAnnotations) =
        [⟨"", 1, 7, 11, "'annotations' imported but unused"⟩] :=
  ⟨rfl, by decide +kernel, by decide +kernel, by decide +kernel⟩

/-- Without the future import one import more is reported. -/
theorem unusedImports_withoutFuture_annotations :
    let source := futureAnnotationsText.toList
    let unused := (importSurvey source false (withoutFuture futureAnnotations)).unused
    futureAnnotations.info.kind = "module" ∧ FutureHoldsNames futureAnnotations ∧
      futureAnnotations.hasError = false ∧
      unusedImports futureAnnotationsText (withoutFuture futureAnnotations) =
        unused.map (fun (item, _) => unusedImport futureAnnotationsText item) ∧
      unusedImports futureAnnotationsText futureAnnotations ≠
        unusedImports futureAnnotationsText (withoutFuture futureAnnotations) := by
  intro source unused
  have holds : FutureHoldsNames futureAnnotations := by decide +kernel
  rcases unusedImports_withoutFuture futureAnnotationsText futureAnnotations rfl holds rfl with
    ⟨-, reported, -, same⟩
  have bounds : unused.map (·.2) = ["annotations".toList] := by decide +kernel
  have named : "annotations".toList ∈ futureNames source futureAnnotations := by decide +kernel
  rcases exists_item_of_map_snd_eq bounds with ⟨item, isUnused⟩
  refine ⟨rfl, holds, rfl, reported, fun equal => ?_⟩
  exact same.1 equal item _ isUnused named

end Python
end EditorAnalysis
