import EditorAnalysis.Proofs.Python.Exports
import EditorAnalysis.Proofs.Syntax.Places

/-!
# Imports that nothing reads

Where nothing is exported, the report names the items of import statements whose names no
identifier reads. What counts as a read is said here place by place: an identifier outside of
imports reads its text, unless it is the name behind the dot of an attribute or the name of a
keyword argument. The order of imports and reads does not enter, and neither do scopes.
-/

namespace EditorAnalysis
namespace Python

open Syntax Text Node

variable {source : List Char}

/-! ## Places that read -/

/-- Whether the node of a place is only the name of an attribute or of a keyword argument. -/
def isOnlyName (place : Place) : Bool :=
  place.isHeldBy "attribute" "attribute" || place.isHeldBy "keyword_argument" "name"

def isOutsideImports (place : Place) : Bool :=
  !place.around.any isImport

/-- An identifier outside of imports that is not only the name of something else. -/
def isReading (place : Place) : Bool :=
  place.node.info.kind == "identifier" && isOutsideImports place && !isOnlyName place

/-- Somewhere in a tree an identifier reads a name. -/
def Reads (source : List Char) (root : Node) (name : List Char) : Prop :=
  ∃ place ∈ root.places, isReading place = true ∧ place.node.text source = name

instance (source : List Char) (root : Node) (name : List Char) :
    Decidable (Reads source root name) :=
  inferInstanceAs (Decidable (∃ place ∈ root.places, _))

/-- A node is only a name when it is the child that its parent finds in the field for names. -/
theorem isOnlyName_iff {parent n : Node} {around : List Node} {index : Nat} :
    isOnlyName ⟨parent :: around, index, n⟩ = true ↔
      ∃ field, (ImportRole.ofKind parent.info.kind).namedField? = some field ∧
        parent.children.findIdx? (fun child => child.info.field == field) = some index := by
  simp only [isOnlyName, Place.isHeldBy, Bool.or_eq_true, Bool.and_eq_true, beq_iff_eq]
  unfold ImportRole.ofKind
  generalize parent.info.kind = kind
  split_ifs <;> subst_vars <;> simp_all [ImportRole.namedField?]

/-- The field that still waits for its first child, behind some children. -/
def pendingField (field : Option String) (front : List Node) : Option String :=
  if front.any fun child => some child.info.field == field then none else field

theorem pendingField_concat (field : Option String) (front : List Node) (n : Node) :
    pendingField field (front ++ [n]) =
      if some n.info.field = pendingField field front then none else pendingField field front := by
  unfold pendingField
  by_cases inFront : (front.any fun child => some child.info.field == field) = true
  · simp [inFront]
  · by_cases here : some n.info.field = field <;> simp [inFront, here]

/-- A child is only a name when it is in the field that still waits. -/
theorem isOnlyName_iff_pendingField {parent n : Node} {around front rest : List Node}
    (children : parent.children = front ++ n :: rest) :
    isOnlyName ⟨parent :: around, front.length, n⟩ = true ↔
      some n.info.field = pendingField (ImportRole.ofKind parent.info.kind).namedField? front := by
  rw [isOnlyName_iff, children]
  simp only [findIdx?_append_cons_eq_length_iff, pendingField]
  cases (ImportRole.ofKind parent.info.kind).namedField? with
  | none => simp
  | some field =>
      have same : (front.any fun child => some child.info.field == some field) =
          front.any fun child => child.info.field == field := rfl
      simp only [Option.some.injEq, exists_eq_left', same]
      cases front.any fun child => child.info.field == field <;> simp

/-! ## The walk comes to the places outside of imports -/

/-- The places of some children outside of imports, as the walk gives them. -/
def visitsOf (places : List Place) : List (Bool × Node) :=
  (places.filter isOutsideImports).map fun place => (isOnlyName place, place.node)

theorem visitsOf_append (places more : List Place) :
    visitsOf (places ++ more) = visitsOf places ++ visitsOf more := by
  simp [visitsOf]

/-- What stands inside an import is not visited. -/
theorem visitsOf_placesFromAll_of_isImport {parent : Node} (imports : isImport parent = true)
    (around : List Node) (index : Nat) (ns : List Node) :
    visitsOf (placesFromAll (parent :: around) index ns) = [] := by
  have nothing : (placesFromAll (parent :: around) index ns).filter isOutsideImports = [] := by
    apply List.filter_eq_nil_iff.2
    intro place hplace
    have within : (place.around, place.node) ∈ nodesWithinAll (parent :: around) ns := by
      rw [← map_placesFromAll _ index]
      exact List.mem_map_of_mem hplace
    rw [nodesWithinAll_eq_flatMap] at within
    rcases List.mem_flatMap.1 within with ⟨n, -, inNode⟩
    have isAround : parent ∈ place.around :=
      mem_fst_of_mem_nodesWithin n List.mem_cons_self _ inNode
    have anyImport : place.around.any isImport = true :=
      List.any_eq_true.2 ⟨parent, isAround, imports⟩
    simp [isOutsideImports, anyImport]
  rw [visitsOf, nothing, List.map_nil]

mutual

/-- The walk visits the places outside of imports, and it knows which of them are only names. -/
theorem visited_eq_visitsOf (n : Node) {around : List Node} {index : Nat}
    (clean : around.any isImport = false) :
    visited (isOnlyName ⟨around, index, n⟩) n = visitsOf (placesFrom around index n) := by
  cases n with
  | mk info children =>
      have outside : isOutsideImports ⟨around, index, .mk info children⟩ = true := by
        simp [isOutsideImports, clean]
      rw [visited, placesFrom]
      cases imports : isImport (.mk info children) with
      | true =>
          have inside := visitsOf_placesFromAll_of_isImport imports around 0 children
          simp only [visitsOf] at inside
          simp [visitsOf, outside, inside]
      | false =>
          have still : (mk info children :: around).any isImport = false := by
            simp [imports, clean]
          have inside := visitedAll_eq_visitsOf still [] children rfl
          simp only [pendingField, List.any_nil, Bool.false_eq_true, if_false] at inside
          simp only [visitsOf, Node.info] at inside
          simp [visitsOf, outside, inside]

theorem visitedAll_eq_visitsOf {parent : Node} {around : List Node}
    (clean : (parent :: around).any isImport = false) (front ns : List Node)
    (children : parent.children = front ++ ns) :
    visitedAll (pendingField (ImportRole.ofKind parent.info.kind).namedField? front) ns =
      visitsOf (placesFromAll (parent :: around) front.length ns) := by
  cases ns with
  | nil => rfl
  | cons n rest =>
      have children' : parent.children = (front ++ [n]) ++ rest := by simp [children]
      have first : visited (isOnlyName ⟨parent :: around, front.length, n⟩) n =
          visitsOf (placesFrom (parent :: around) front.length n) :=
        visited_eq_visitsOf n clean
      have later := visitedAll_eq_visitsOf clean (front ++ [n]) rest children'
      rw [pendingField_concat, List.length_append, List.length_singleton] at later
      rw [visitedAll, placesFromAll, visitsOf_append, ← first, ← later]
      by_cases waits : some n.info.field =
          pendingField (ImportRole.ofKind parent.info.kind).namedField? front
      · rw [if_pos waits, if_pos waits, (isOnlyName_iff_pendingField children).2 waits]
      · have reads : isOnlyName ⟨parent :: around, front.length, n⟩ = false := by
          rw [← Bool.not_eq_true, isOnlyName_iff_pendingField children]
          exact waits
        rw [if_neg waits, if_neg waits, reads]

end

theorem visited_eq_places (root : Node) : visited false root = visitsOf root.places := by
  have nothingAround : [].any isImport = false := rfl
  exact visited_eq_visitsOf root nothingAround

/-! ## What is read -/

/-- An assignment of `__all__`. -/
def IsExportAssignment (source : List Char) (n : Node) : Prop :=
  n.info.kind = "assignment" ∧
    (n.childByField? "left").map (·.text source) = some "__all__".toList

instance (source : List Char) (n : Node) : Decidable (IsExportAssignment source n) :=
  inferInstanceAs (Decidable (_ ∧ _))

theorem not_mem_exportsOf {n : Node} {name : List Char} (other : ¬IsExportAssignment source n) :
    ¬(n.info.kind = "assignment" ∧ name ∈ exportsOf source n) := by
  intro exported
  rcases mem_exportsOf.1 exported with ⟨_, ⟨assigns, _, left, isLeft, isAll⟩, _⟩
  exact other ⟨assigns, by simp [isLeft, isAll]⟩

/-- Where nothing is exported, the survey finds what the reading identifiers spell. -/
theorem mem_reads_iff_reads {root : Node} {name : List Char}
    (noExports : ∀ n ∈ root.preorder, ¬IsExportAssignment source n) :
    name ∈ (importSurvey source false root).reads ↔ Reads source root name := by
  have noExport : ¬∃ n ∈ root.nodesOutside isImport,
      n.info.kind = "assignment" ∧ name ∈ exportsOf source n := by
    rintro ⟨n, outside, exported⟩
    exact not_mem_exportsOf (noExports n (mem_preorder_of_mem_nodesOutside outside)) exported
  rw [mem_reads_importSurvey, or_iff_left noExport, visited_eq_places, Reads]
  constructor
  · rintro ⟨n, isVisited, identifier, isText⟩
    rcases List.mem_map.1 isVisited with ⟨place, hplace, same⟩
    rcases List.mem_filter.1 hplace with ⟨inTree, outside⟩
    obtain ⟨reads, rfl⟩ := Prod.mk.inj same
    exact ⟨place, inTree, by simp [isReading, identifier, outside, reads], isText⟩
  · rintro ⟨place, inTree, reads, isText⟩
    simp only [isReading, Bool.and_eq_true, Bool.not_eq_true', beq_iff_eq] at reads
    refine ⟨place.node, ?_, reads.1.1, isText⟩
    exact List.mem_map.2 ⟨place, List.mem_filter.2 ⟨inTree, reads.1.2⟩, by rw [reads.2]⟩

/-! ## What is reported -/

/-- The kind of the names that an import statement binds. -/
def importedKind (statement : Node) : SymbolKind :=
  if statement.info.kind = "import_statement" then .module else .imported

theorem importedKind_eq {statement : Node} {kind : SymbolKind}
    (imports : IsImportOf kind statement) : importedKind statement = kind := by
  rcases imports with ⟨isKind, rfl⟩ | ⟨isKind, rfl⟩ <;> simp [importedKind, isKind]

/-- An item of an import statement, not one from `__future__`, that binds a name which nothing in
the tree reads. -/
def IsUnread (source : List Char) (root statement item : Node) : Prop :=
  isFutureImport source statement = false ∧
    ∃ bound, importBinding? source (importedKind statement) item = some bound ∧
      ¬Reads source root bound

instance (source : List Char) (root statement item : Node) :
    Decidable (IsUnread source root statement item) :=
  decidable_of_iff
    (isFutureImport source statement = false ∧
      (importBinding? source (importedKind statement) item).any
        (fun bound => !decide (Reads source root bound)) = true)
    (by simp [IsUnread, Option.any_eq_true])

/-- The items of the import statements of a tree that nothing reads, in pre-order. -/
def unreadItems (source : List Char) (root : Node) : List Node :=
  ((root.nodesOutside isImport).filter isImport).flatMap fun statement =>
    (statement.childrenByField "name").filter fun item => IsUnread source root statement item

theorem map_fst_filter_filterMap {items : List Node} (binds : Node → Option (List Char))
    (unread : List Char → Bool) :
    (((items.filterMap fun item => (binds item).map (item, ·)).filter
        fun (_, bound) => unread bound).map (·.1)) =
      items.filter fun item => (binds item).any unread := by
  induction items with
  | nil => rfl
  | cons item rest ih =>
      cases isBound : binds item with
      | none => simp [isBound, ih]
      | some bound => cases isUnread : unread bound <;> simp [isBound, isUnread, ih]

/-- What one statement contributes to the unused imports. -/
theorem map_fst_filter_ownImports {root statement : Node} {unread : List Char → Bool}
    (imports : isImport statement = true)
    (isUnread : ∀ bound, unread bound = !decide (Reads source root bound)) :
    ((ownImports source statement).filter fun (_, bound) => unread bound).map (·.1) =
      (statement.childrenByField "name").filter fun item => IsUnread source root statement item := by
  rcases isImport_iff.1 imports with ⟨kind, isOne⟩
  rw [ownImports_of_isImportOf isOne, importedNames]
  cases future : isFutureImport source statement with
  | true => simp [IsUnread, future]
  | false =>
      rw [if_neg Bool.false_ne_true, map_fst_filter_filterMap]
      apply List.filter_congr
      intro item _
      rw [Bool.eq_iff_iff]
      simp [IsUnread, future, importedKind_eq isOne, isUnread, Option.any_eq_true]

/-- Where nothing is exported, the unused imports are the unread items. -/
theorem map_fst_unused {root : Node}
    (noExports : ∀ n ∈ root.preorder, ¬IsExportAssignment source n) :
    (importSurvey source false root).unused.map (·.1) = unreadItems source root := by
  have isUnread (bound : List Char) :
      (!(importSurvey source false root).reads.contains bound) =
        !decide (Reads source root bound) := by
    simp [← mem_reads_iff_reads noExports]
  rw [ImportSurvey.unused, imports_importSurvey, List.filter_flatMap, List.map_flatMap, unreadItems,
    ← flatMap_filter_of_eq_nil (p := isImport)]
  · apply List.flatMap_congr
    intro statement hstatement
    exact map_fst_filter_ownImports (List.mem_filter.1 hstatement).2 isUnread
  · intro n _ other
    rw [ownImports_of_not_isImport other, List.filter_nil, List.map_nil]

/-- No import statement stands inside another one. -/
def ImportsStandApart (root : Node) : Prop :=
  ∀ n ∈ root.preorder, isImport n = true → ∀ child ∈ n.children, ∀ m ∈ child.preorder,
    isImport m = false

instance (root : Node) : Decidable (ImportsStandApart root) :=
  inferInstanceAs (Decidable (∀ n ∈ root.preorder, _))

/-- When imports stand apart, all of them are outside of others. -/
theorem ImportsStandApart.filter_nodesOutside (root : Node) (apart : ImportsStandApart root) :
    (root.nodesOutside isImport).filter isImport = root.preorder.filter isImport := by
  induction root using Node.induction with
  | node info children ih =>
      have later (child : Node) (isChild : child ∈ children) :
          (child.nodesOutside isImport).filter isImport = child.preorder.filter isImport :=
        ih child isChild fun n inChild =>
          apart n (mem_preorder_iff.2 (.inr ⟨child, isChild, inChild⟩))
      rw [nodesOutside_mk, preorder, preorderAll_eq_flatMap, List.filter_cons, List.filter_cons]
      cases imports : isImport (.mk info children) with
      | true =>
          have inside : ∀ child ∈ children, ∀ m ∈ child.preorder, isImport m = false :=
            apart _ (self_mem_preorder _) imports
          simpa [List.filter_flatMap] using inside
      | false => simpa [List.filter_flatMap] using List.flatMap_congr later

/-- Where nothing is exported, the report names the items of import statements whose bound names no
reading identifier spells, one diagnostic for each and in pre-order. Another tree that has the same
statements of this kind gets the same report as soon as the same names are read in it, wherever
that is. -/
theorem unusedImports_eq_unreadItems (text : String) (root : Node)
    (noError : root.hasError = false)
    (noExports : ∀ n ∈ root.preorder, ¬IsExportAssignment text.toList n) :
    let source := text.toList
    let statements := fun (tree : Node) => (tree.nodesOutside isImport).filter isImport
    unusedImports text root =
        ((statements root).flatMap fun statement =>
          (statement.childrenByField "name").filter fun item =>
            IsUnread source root statement item).map (unusedImport text) ∧
      (ImportsStandApart root → statements root = root.preorder.filter isImport) ∧
      ∀ other : Node, other.hasError = false →
        (∀ n ∈ other.preorder, ¬IsExportAssignment source n) →
          statements other = statements root →
            (∀ name, Reads source other name ↔ Reads source root name) →
              unusedImports text other = unusedImports text root := by
  intro source statements
  have reported (tree : Node) (clean : tree.hasError = false)
      (silent : ∀ n ∈ tree.preorder, ¬IsExportAssignment source n) :
      unusedImports text tree = (unreadItems source tree).map (unusedImport text) := by
    rw [unusedImports_eq clean, ← map_fst_unused silent, List.map_map]
    rfl
  refine ⟨reported root noError noExports, ImportsStandApart.filter_nodesOutside root, ?_⟩
  intro other clean silent sameStatements sameReads
  -- An item is unread in both trees or in neither.
  have sameItems : unreadItems source other = unreadItems source root := by
    have same (statement item : Node) :
        IsUnread source other statement item ↔ IsUnread source root statement item := by
      simp only [IsUnread, sameReads]
    have sameOuter : (other.nodesOutside isImport).filter isImport =
        (root.nodesOutside isImport).filter isImport :=
      sameStatements
    simp only [unreadItems, same, sameOuter]
  rw [reported other clean silent, sameItems, reported root noError noExports]

/-! ## Names that are not reads -/

/-- A module that imports `a`, `k` and `d`. Before that it reads `d`, but `a` only names an
attribute and `k` a keyword argument. -/
def keywordCall : Node :=
  .mk ⟨"module", true, false, false, false, "", 0, 41⟩
    [.mk ⟨"expression_statement", true, false, false, false, "", 0, 12⟩
        [.mk ⟨"assignment", true, false, false, false, "", 0, 12⟩
          [.mk ⟨"identifier", true, false, false, false, "left", 0, 1⟩ [],
            .mk ⟨"=", false, false, false, false, "", 2, 3⟩ [],
            .mk ⟨"call", true, false, false, false, "right", 4, 12⟩
              [.mk ⟨"attribute", true, false, false, false, "function", 4, 7⟩
                  [.mk ⟨"identifier", true, false, false, false, "object", 4, 5⟩ [],
                    .mk ⟨".", false, false, false, false, "", 5, 6⟩ [],
                    .mk ⟨"identifier", true, false, false, false, "attribute", 6, 7⟩ []],
                .mk ⟨"argument_list", true, false, false, false, "arguments", 7, 12⟩
                  [.mk ⟨"(", false, false, false, false, "", 7, 8⟩ [],
                    .mk ⟨"keyword_argument", true, false, false, false, "", 8, 11⟩
                      [.mk ⟨"identifier", true, false, false, false, "name", 8, 9⟩ [],
                        .mk ⟨"=", false, false, false, false, "", 9, 10⟩ [],
                        .mk ⟨"identifier", true, false, false, false, "value", 10, 11⟩ []],
                    .mk ⟨")", false, false, false, false, "", 11, 12⟩ []]]]],
      .mk ⟨"import_statement", true, false, false, false, "", 13, 24⟩
        [.mk ⟨"import", false, false, false, false, "", 13, 19⟩ [],
          .mk ⟨"dotted_name", true, false, false, false, "name", 20, 21⟩
            [.mk ⟨"identifier", true, false, false, false, "", 20, 21⟩ []],
          .mk ⟨",", false, false, false, false, "", 21, 22⟩ [],
          .mk ⟨"dotted_name", true, false, false, false, "name", 23, 24⟩
            [.mk ⟨"identifier", true, false, false, false, "", 23, 24⟩ []]],
      .mk ⟨"import_from_statement", true, false, false, false, "", 25, 40⟩
        [.mk ⟨"from", false, false, false, false, "", 25, 29⟩ [],
          .mk ⟨"dotted_name", true, false, false, false, "module_name", 30, 31⟩
            [.mk ⟨"identifier", true, false, false, false, "", 30, 31⟩ []],
          .mk ⟨"import", false, false, false, false, "", 32, 38⟩ [],
          .mk ⟨"dotted_name", true, false, false, false, "name", 39, 40⟩
            [.mk ⟨"identifier", true, false, false, false, "", 39, 40⟩ []]]]

def keywordCallText : String :=
  "y = x.a(k=d)\nimport a, k\nfrom m import d\n"

/-- Both names are reported, and `d` is not. -/
theorem unusedImports_eq_unreadItems_keyword :
    keywordCall.hasError = false ∧
      (∀ n ∈ keywordCall.preorder, ¬IsExportAssignment keywordCallText.toList n) ∧
      unusedImports keywordCallText keywordCall =
        [⟨"", 1, 7, 1, "'a' imported but unused"⟩, ⟨"", 1, 10, 1, "'k' imported but unused"⟩] := by
  have noExports : ∀ n ∈ keywordCall.preorder, ¬IsExportAssignment keywordCallText.toList n := by
    decide +kernel
  rcases unusedImports_eq_unreadItems keywordCallText keywordCall rfl noExports with
    ⟨reported, -, -⟩
  refine ⟨rfl, noExports, ?_⟩
  rw [reported]
  decide +kernel

end Python
end EditorAnalysis
