import EditorAnalysis.Proofs.Python.ImportSurvey
import EditorAnalysis.Proofs.Python.ScopeBlocks
import EditorAnalysis.Proofs.Text.Bytes
import Mathlib.Data.List.TakeWhile

/-!
# The names that imports bind

An import is to bind an identifier: the alias of an item, or else the first identifier of its
dotted name. The bound name is not taken from that node but cut out of the text of the item, up to
its first dot. It is the text of the identifier only where the dot follows at once; white space in
front of the first dot becomes part of the name.
-/

namespace EditorAnalysis
namespace Python

open Syntax Text Node

variable {source : List Char} {n : Node} {kind : SymbolKind} {symbol : Symbol}

/-! ## Imported symbols -/

theorem scopeRole_eq_importing_iff :
    ScopeRole.ofKind n.info.kind = .importing kind ↔ IsImportOf kind n := by
  unfold ScopeRole.ofKind IsImportOf
  generalize n.info.kind = name
  by_cases outer : name = "global_statement" ∨ name = "nonlocal_statement"
  · rcases outer with rfl | rfl <;> simp
  · rw [if_neg outer]
    split_ifs <;> subst_vars <;> simp_all
    all_goals exact eq_comm

/-- Whether a symbol is of the kinds that only imports have. -/
def IsImported (symbol : Symbol) : Prop :=
  symbol.kind = .module ∨ symbol.kind = .imported

/-- An import statement of a tree has an item that binds a symbol. -/
def ImportsSymbol (source : List Char) (root : Node) (symbol : Symbol) : Prop :=
  ∃ statement ∈ root.preorder, IsImportOf symbol.kind statement ∧
    ∃ item ∈ statement.childrenByField "name", ∃ bound,
      importBinding? source symbol.kind item = some bound ∧ symbol.name = String.ofList bound

theorem ImportsSymbol.of_child {info : NodeInfo} {children : List Node} {child : Node}
    (isChild : child ∈ children) (h : ImportsSymbol source child symbol) :
    ImportsSymbol source (.mk info children) symbol := by
  rcases h with ⟨statement, inChild, imports⟩
  exact ⟨statement, mem_preorder_iff.2 (.inr ⟨child, isChild, inChild⟩), imports⟩

theorem importsSymbol_of_importBlock (imports : IsImportOf kind n)
    (h : (importBlock source kind n).Records symbol) : ImportsSymbol source n symbol := by
  rcases Block.records_binding.1 h with ⟨named, rfl⟩
  rcases List.mem_map.1 named with ⟨bound, isBound, same⟩
  rcases List.mem_filterMap.1 isBound with ⟨item, isItem, binds⟩
  exact ⟨n, self_mem_preorder n, imports, item, isItem, bound, binds, same.symm⟩

theorem not_isImported_of_records_binding {names : List String} (isModule : kind ≠ .module)
    (isMember : kind ≠ .imported) (h : (Block.binding kind names).Records symbol) :
    ¬IsImported symbol := by
  rw [IsImported, (Block.records_binding.1 h).2]
  exact not_or_intro isModule isMember

theorem not_isImported_of_parameterBlock (h : (parameterBlock source n).Records symbol) :
    ¬IsImported symbol := by
  unfold parameterBlock at h
  split at h
  · exact not_isImported_of_records_binding (by decide) (by decide) h
  · exact absurd h (Block.not_records_empty symbol)

theorem not_isImported_of_targetBlock (h : (targetBlock source n).Records symbol) :
    ¬IsImported symbol := by
  unfold targetBlock at h
  split at h
  · exact not_isImported_of_records_binding (by decide) (by decide) h
  · exact absurd h (Block.not_records_empty symbol)

/-- Of the imported symbols, a definition records those of its body. -/
theorem records_body_of_definitionBlock {kind : ScopeKind} {body : Block}
    (imported : IsImported symbol)
    (h : (definitionBlock source kind n body).Records symbol) : body.Records symbol := by
  unfold definitionBlock at h
  split at h
  · exact absurd h (Block.not_records_empty symbol)
  · rcases h with isOwn | ⟨table, isOnly, inTable⟩
    · rw [List.mem_singleton.1 isOwn] at imported
      rcases imported with isModule | isMember
      · cases isModule
      · cases isMember
    · rw [List.mem_singleton.1 isOnly] at inTable
      rcases Block.records_append.1 (records_of_records_mk inTable) with parameter | inBody
      · exact absurd imported (not_isImported_of_parameterBlock parameter)
      · exact inBody

/-- A block binds imported symbols for import statements only. The children of a node are taken
along, since the body of a definition is passed over on the way to what it holds. -/
theorem importsSymbol_of_block (imported : IsImported symbol) (n : Node) :
    ((blockOf source n).Records symbol → ImportsSymbol source n symbol) ∧
      ((blockOfAll source n.children).Records symbol → ImportsSymbol source n symbol) := by
  induction n using Node.induction with
  | node info children ih =>
      have ofChildren (h : (blockOfAll source children).Records symbol) :
          ImportsSymbol source (.mk info children) symbol := by
        rcases exists_of_blockOfAll h with ⟨child, isChild, records⟩
        exact ((ih child isChild).1 records).of_child isChild
      refine ⟨fun h => ?_, ofChildren⟩
      rw [blockOf] at h
      cases role : ScopeRole.ofKind info.kind with
      | definition kind =>
          rw [role] at h
          -- The body itself is not visited, only what it holds.
          rcases exists_of_bodyBlock (records_body_of_definitionBlock imported h) with
            ⟨child, isChild, records⟩
          exact ((ih child isChild).2 records).of_child isChild
      | importing kind =>
          rw [role] at h
          exact importsSymbol_of_importBlock (scopeRole_eq_importing_iff.1 role) h
      | outerNames =>
          rw [role] at h
          exact absurd imported (not_isImported_of_records_binding (by decide) (by decide) h)
      | assigning =>
          rw [role] at h
          rcases Block.records_append.1 h with target | within
          · exact absurd imported (not_isImported_of_targetBlock target)
          · exact ofChildren within
      | plain =>
          rw [role] at h
          exact ofChildren h

/-- The imported symbols of a module's table, at any depth, come from import statements. -/
theorem importsSymbol_of_scopeTable {root : Node} (imported : IsImported symbol)
    (h : (scopeTable source root).Records symbol) : ImportsSymbol source root symbol :=
  (importsSymbol_of_block imported root).2 (records_of_records_mk h)

/-! ## Items of imports -/

/-- A name in the text: not empty and without dots. -/
structure IsIdentifier (source : List Char) (n : Node) : Prop where
  kind : n.info.kind = "identifier"
  nonempty : n.text source ≠ []
  dotless : '.' ∉ n.text source

/-- What stands between two offsets is text without dots, such as white space or nothing at all. -/
def IsSpacing (source : List Char) (start stop : Nat) : Prop :=
  start ≤ stop ∧ ∃ between, sliceBytes? source start stop = some between ∧ '.' ∉ between

/-- Nodes that make up a dotted name between two offsets: identifiers with a dot between each two,
and spacing on both sides of a dot. -/
inductive IsDotted (source : List Char) : List Node → Nat → Nat → Prop where
  | single {n : Node} (identifier : IsIdentifier source n) :
      IsDotted source [n] n.info.start n.info.stop
  | join {n dot : Node} {rest : List Node} {start stop : Nat} (identifier : IsIdentifier source n)
      (before : IsSpacing source n.info.stop dot.info.start) (isDot : dot.text source = ['.'])
      (behind : IsSpacing source dot.info.stop start) (later : IsDotted source rest start stop) :
      IsDotted source (n :: dot :: rest) n.info.start stop

/-- An item of an import as the grammar has it: an alias, or a dotted name, which has one part only
where it names a member of a module. -/
inductive IsItem (source : List Char) (kind : SymbolKind) (item : Node) : Prop where
  | aliased {name : Node} (isAliased : item.info.kind = "aliased_import")
      (held : item.childByField? "alias" = some name) (identifier : IsIdentifier source name)
  | dotted (isDotted : item.info.kind = "dotted_name")
      (spelled : IsDotted source item.children item.info.start item.info.stop)
      (single : kind ≠ .module → item.children.length = 1)

/-- The identifier that an item of an import is to bind. -/
def boundIdentifier? (item : Node) : Option Node :=
  if item.info.kind = "aliased_import" then item.childByField? "alias" else item.children.head?

/-- What stands between the first of the nodes of a dotted name and its first dot. -/
def beforeFirstDot (source : List Char) : List Node → List Char
  | first :: dot :: _ => (sliceBytes? source first.info.stop dot.info.start).getD []
  | _ => []

/-- What an item binds behind the text of its identifier. -/
def boundBehind (source : List Char) (item : Node) : List Char :=
  if item.info.kind = "aliased_import" then [] else beforeFirstDot source item.children

/-! ## Dotted names -/

theorem topLevelPart_of_dotless {name : List Char} (dotless : '.' ∉ name) :
    topLevelPart name = name := by
  apply List.takeWhile_eq_self_iff.2
  intro c hc
  simpa using ne_of_mem_of_not_mem hc dotless

theorem topLevelPart_append_dot {front : List Char} (dotless : '.' ∉ front) (rest : List Char) :
    topLevelPart (front ++ '.' :: rest) = front := by
  rw [topLevelPart, List.takeWhile_append_of_pos, List.takeWhile_cons_of_neg, List.append_nil]
  · simp
  · intro c hc
    simpa using ne_of_mem_of_not_mem hc dotless

/-- A node with text has its offsets between characters, the second one not before the first. -/
theorem slice_of_text_ne_nil (h : n.text source ≠ []) :
    n.info.start ≤ n.info.stop ∧
      sliceBytes? source n.info.start n.info.stop = some (n.text source) := by
  unfold Node.text at h ⊢
  cases slice : sliceBytes? source n.info.start n.info.stop with
  | none =>
      rw [slice] at h
      exact absurd rfl h
  | some text =>
      rw [slice, Option.getD_some] at h
      refine ⟨?_, rfl⟩
      rcases sliceBytes?_eq_some_iff.1 slice with ⟨_, _, _, _, length⟩
      by_contra reversed
      exact h (eq_nil_of_byteLength_eq_zero (by omega))

/-- The text of a dotted name with a dot, when what is behind the dot has text. -/
theorem slice_join {dot : Node} {start stop : Nat} {later : List Char}
    (identifier : IsIdentifier source n) (before : IsSpacing source n.info.stop dot.info.start)
    (isDot : dot.text source = ['.']) (behind : IsSpacing source dot.info.stop start)
    (inOrder : start ≤ stop) (isLater : sliceBytes? source start stop = some later) :
    ∃ between rest, sliceBytes? source n.info.stop dot.info.start = some between ∧
      '.' ∉ between ∧ n.info.start ≤ stop ∧
      sliceBytes? source n.info.start stop = some (n.text source ++ between ++ '.' :: rest) := by
  rcases slice_of_text_ne_nil identifier.nonempty with ⟨nameInOrder, isName⟩
  have dotHasText : dot.text source ≠ [] := by simp [isDot]
  rcases slice_of_text_ne_nil dotHasText with ⟨dotInOrder, dotSlice⟩
  rcases before with ⟨beforeInOrder, between, isBetween, dotless⟩
  rcases behind with ⟨behindInOrder, gap, isSpacing, _⟩
  -- From the back, each slice adjoins the one in front of it.
  have fromGap := sliceBytes?_append behindInOrder inOrder isSpacing isLater
  have fromDot := sliceBytes?_append dotInOrder (by omega) dotSlice fromGap
  have fromBetween := sliceBytes?_append beforeInOrder (by omega) isBetween fromDot
  have fromName := sliceBytes?_append nameInOrder (by omega) isName fromBetween
  refine ⟨between, gap ++ later, isBetween, dotless, by omega, ?_⟩
  rw [fromName, isDot]
  simp

namespace IsDotted

variable {ns : List Node} {start stop : Nat}

theorem exists_slice (h : IsDotted source ns start stop) :
    start ≤ stop ∧ ∃ text, sliceBytes? source start stop = some text := by
  induction h with
  | single identifier =>
      rcases slice_of_text_ne_nil identifier.nonempty with ⟨inOrder, slice⟩
      exact ⟨inOrder, _, slice⟩
  | join identifier before isDot behind later ih =>
      rcases ih with ⟨inOrder, text, isLater⟩
      rcases slice_join identifier before isDot behind inOrder isLater with
        ⟨_, _, _, _, inOrder', slice⟩
      exact ⟨inOrder', _, slice⟩

/-- The top-level part of a dotted name is its first identifier with all up to the first dot. -/
theorem topLevelPart_eq {text : List Char} (h : IsDotted source ns start stop)
    (slice : sliceBytes? source start stop = some text) :
    ∃ first, ns.head? = some first ∧ IsIdentifier source first ∧
      topLevelPart text = first.text source ++ beforeFirstDot source ns := by
  cases h with
  | @single n identifier =>
      rw [(slice_of_text_ne_nil identifier.nonempty).2] at slice
      cases slice
      refine ⟨n, rfl, identifier, ?_⟩
      rw [topLevelPart_of_dotless identifier.dotless, beforeFirstDot, List.append_nil]
      rintro first dot rest ⟨⟩
  | @join n dot rest start _ identifier before isDot behind later =>
      rcases later.exists_slice with ⟨inOrder, _, isLater⟩
      rcases slice_join identifier before isDot behind inOrder isLater with
        ⟨between, tail, isBetween, dotless, _, whole⟩
      rw [whole] at slice
      cases slice
      refine ⟨n, rfl, identifier, ?_⟩
      have dotlessFront : '.' ∉ n.text source ++ between := by
        simp [identifier.dotless, dotless]
      rw [topLevelPart_append_dot dotlessFront, beforeFirstDot, isBetween, Option.getD_some]

/-- A dotted name of one part is its identifier. -/
theorem eq_of_length_eq_one {text : List Char} (h : IsDotted source ns start stop)
    (single : ns.length = 1) (slice : sliceBytes? source start stop = some text) :
    ∃ first, ns.head? = some first ∧ IsIdentifier source first ∧
      text = first.text source ++ beforeFirstDot source ns := by
  rcases h.topLevelPart_eq slice with ⟨first, isFirst, identifier, isTop⟩
  refine ⟨first, isFirst, identifier, ?_⟩
  cases h with
  | @single n same =>
      rw [(slice_of_text_ne_nil same.nonempty).2] at slice
      cases slice
      rw [← isTop, topLevelPart_of_dotless same.dotless]
  | join => simp at single

end IsDotted

/-- An item binds the text of its identifier with what stands behind it up to the first dot. -/
theorem importBinding?_of_isItem {item : Node} (h : IsItem source kind item) :
    ∃ name, boundIdentifier? item = some name ∧ IsIdentifier source name ∧
      importBinding? source kind item = some (name.text source ++ boundBehind source item) := by
  cases h with
  | @aliased name isAliased held identifier =>
      refine ⟨name, ?_, identifier, ?_⟩
      · rw [boundIdentifier?, if_pos isAliased, held]
      · simp [importBinding?, boundBehind, isAliased, held]
  | dotted isDotted spelled single =>
      have notAliased : item.info.kind ≠ "aliased_import" := by simp [isDotted]
      rcases spelled.exists_slice with ⟨_, text, slice⟩
      have isText : item.text source = text := by rw [Node.text, slice, Option.getD_some]
      have bound : ∃ first, item.children.head? = some first ∧ IsIdentifier source first ∧
          (if kind = .module then topLevelPart text else text) =
            first.text source ++ beforeFirstDot source item.children := by
        split
        case isTrue ofModule => exact spelled.topLevelPart_eq slice
        case isFalse ofMember => exact spelled.eq_of_length_eq_one (single ofMember) slice
      rcases bound with ⟨first, isFirst, identifier, isBound⟩
      refine ⟨first, ?_, identifier, ?_⟩
      · rw [boundIdentifier?, if_neg notAliased, isFirst]
      · rw [importBinding?, if_neg notAliased, if_pos isDotted, isText, boundBehind,
          if_neg notAliased]
        simp only [isBound]
        -- The name is not empty, so it is bound.
        rw [if_neg (by simp [identifier.nonempty])]

/-! ## What imports bind -/

/-- The items of all imports of a tree are as the grammar has them. -/
def HasItems (source : List Char) (root : Node) : Prop :=
  ∀ kind, ∀ statement ∈ root.preorder, IsImportOf kind statement →
    ∀ item ∈ statement.childrenByField "name", IsItem source kind item

/-- An item of an import statement and the text that it binds: the identifier that it is to bind,
and what stands between it and the first dot. -/
def BindsItem (source : List Char) (statement item : Node) (bound : List Char) : Prop :=
  item ∈ statement.childrenByField "name" ∧
    ∃ name, boundIdentifier? item = some name ∧ IsIdentifier source name ∧
      bound = name.text source ++ boundBehind source item

theorem bindsItem_iff {statement item : Node} {bound : List Char}
    (items : ∀ item ∈ statement.childrenByField "name", IsItem source kind item) :
    BindsItem source statement item bound ↔
      item ∈ statement.childrenByField "name" ∧
        importBinding? source kind item = some bound := by
  constructor
  · rintro ⟨isItem, name, isName, _, rfl⟩
    rcases importBinding?_of_isItem (items item isItem) with ⟨name', isName', _, binds⟩
    rw [isName] at isName'
    cases isName'
    exact ⟨isItem, binds⟩
  · rintro ⟨isItem, binds⟩
    rcases importBinding?_of_isItem (items item isItem) with ⟨name, isName, identifier, binds'⟩
    rw [binds] at binds'
    cases binds'
    exact ⟨isItem, name, isName, identifier, rfl⟩

/-- The survey looks up, for each item of each import, the identifier that the item is to bind with
what stands behind it up to the first dot. An imported symbol of the module's table or of a table
inside it is such a text too. -/
theorem imports_bind_identifiers (source : List Char) (root : Node)
    (items : HasItems source root) :
    (∀ item bound, (item, bound) ∈ (importSurvey source false root).imports ↔
      ∃ statement ∈ root.nodesOutside isImport, isImport statement = true ∧
        isFutureImport source statement = false ∧ BindsItem source statement item bound) ∧
      ∀ symbol, (scopeTable source root).Records symbol → IsImported symbol →
        ∃ statement ∈ root.preorder, IsImportOf symbol.kind statement ∧
          ∃ item bound, BindsItem source statement item bound ∧
            symbol.name = String.ofList bound := by
  constructor
  · intro item bound
    rw [imports_importSurvey, List.mem_flatMap]
    constructor
    · rintro ⟨statement, outside, own⟩
      cases imports : isImport statement with
      | false =>
          rw [ownImports_of_not_isImport imports] at own
          cases own
      | true =>
          rcases isImport_iff.1 imports with ⟨kind, isOne⟩
          rw [ownImports_of_isImportOf isOne] at own
          rcases mem_importedNames.1 own with ⟨notFuture, binds⟩
          have inTree := mem_preorder_of_mem_nodesOutside outside
          exact ⟨statement, outside, imports, notFuture,
            (bindsItem_iff (items kind statement inTree isOne)).2 binds⟩
    · rintro ⟨statement, outside, imports, notFuture, binds⟩
      rcases isImport_iff.1 imports with ⟨kind, isOne⟩
      have inTree := mem_preorder_of_mem_nodesOutside outside
      refine ⟨statement, outside, ?_⟩
      rw [ownImports_of_isImportOf isOne]
      exact mem_importedNames.2
        ⟨notFuture, (bindsItem_iff (items kind statement inTree isOne)).1 binds⟩
  · intro symbol records imported
    rcases importsSymbol_of_scopeTable imported records with
      ⟨statement, inTree, isOne, item, isItem, bound, binds, named⟩
    exact ⟨statement, inTree, isOne, item, bound,
      (bindsItem_iff (items _ statement inTree isOne)).2 ⟨isItem, binds⟩, named⟩

/-! ## White space in front of a dot -/

/-- The dotted name `a.b`, written with spaces around its dot. -/
def spacedName : Node :=
  .mk ⟨"dotted_name", true, false, false, false, "name", 7, 12⟩
    [.mk ⟨"identifier", true, false, false, false, "", 7, 8⟩ [],
      .mk ⟨".", false, false, false, false, "", 9, 10⟩ [],
      .mk ⟨"identifier", true, false, false, false, "", 11, 12⟩ []]

/-- A module that imports that name and then reads `a`. -/
def spacedImport : Node :=
  .mk ⟨"module", true, false, false, false, "", 0, 15⟩
    [.mk ⟨"import_statement", true, false, false, false, "", 0, 12⟩
        [.mk ⟨"import", false, false, false, false, "", 0, 6⟩ [], spacedName],
      .mk ⟨"expression_statement", true, false, false, false, "", 13, 14⟩
        [.mk ⟨"identifier", true, false, false, false, "", 13, 14⟩ []]]

def spacedImportText : String := "import a . b\na\n"

theorem isDotted_spacedName : IsDotted spacedImportText.toList spacedName.children 7 12 := by
  have space (start stop : Nat) (inOrder : start ≤ stop)
      (isSpace : sliceBytes? spacedImportText.toList start stop = some [' ']) :
      IsSpacing spacedImportText.toList start stop :=
    ⟨inOrder, [' '], isSpace, by simp⟩
  have identifier (n : Node) (isKind : n.info.kind = "identifier")
      (letter : n.text spacedImportText.toList ∈ [['a'], ['b']]) :
      IsIdentifier spacedImportText.toList n := by
    simp only [List.mem_cons, List.not_mem_nil, or_false] at letter
    rcases letter with isA | isB
    · exact ⟨isKind, by rw [isA]; decide, by rw [isA]; decide⟩
    · exact ⟨isKind, by rw [isB]; decide, by rw [isB]; decide⟩
  exact .join (identifier _ rfl (by decide +kernel)) (space 8 9 (by decide) (by decide +kernel))
    (by decide +kernel) (space 10 11 (by decide) (by decide +kernel))
    (.single (identifier _ rfl (by decide +kernel)))

theorem hasItems_spacedImport : HasItems spacedImportText.toList spacedImport := by
  intro kind statement inTree imports item isItem
  have parts : kind = .module ∧ item = spacedName := by
    simp only [spacedImport, spacedName, preorder, preorderAll, List.append_nil, List.cons_append,
      List.nil_append, List.mem_cons, List.not_mem_nil, or_false] at inTree
    rcases inTree with rfl | rfl | rfl | rfl | rfl | rfl | rfl | rfl | rfl <;>
      simp_all [IsImportOf, Node.info, childrenByField, Node.children, spacedName]
  rcases parts with ⟨rfl, rfl⟩
  exact .dotted rfl isDotted_spacedName (absurd rfl)

/-- The tree has no errors and its only dotted name is spelled as the grammar has it. Yet the
bound name is no identifier of the tree, and so the import is reported although `a` is read. -/
theorem import_binds_white_space :
    spacedImport.hasError = false ∧ HasItems spacedImportText.toList spacedImport ∧
      (importSurvey spacedImportText.toList false spacedImport).imports.map (·.2) =
        [['a', ' ']] ∧
      (scopeTable spacedImportText.toList spacedImport).symbols = [⟨"a ", .module⟩] ∧
      (∀ n ∈ spacedImport.preorder, n.info.kind = "identifier" →
        n.text spacedImportText.toList ≠ ['a', ' ']) ∧
      (unusedImports spacedImportText spacedImport).map Diagnostic.message =
        ["'a . b' imported but unused"] :=
  ⟨rfl, hasItems_spacedImport, by decide +kernel, by decide +kernel, by decide +kernel,
    by decide +kernel⟩

/-- What is looked up, and what the table lists, is the identifier with the space behind it. -/
theorem imports_bind_identifiers_spaced :
    let source := spacedImportText.toList
    HasItems source spacedImport ∧
      (∃ item, (item, ['a', ' ']) ∈ (importSurvey source false spacedImport).imports ∧
        ∃ statement ∈ spacedImport.nodesOutside isImport,
          BindsItem source statement item ['a', ' ']) ∧
      ∃ statement ∈ spacedImport.preorder, IsImportOf .module statement ∧
        ∃ item bound, BindsItem source statement item bound ∧ "a " = String.ofList bound := by
  intro source
  rcases imports_bind_identifiers source spacedImport hasItems_spacedImport with
    ⟨looksUp, records⟩
  have bounds : (importSurvey source false spacedImport).imports.map (·.2) = [['a', ' ']] := by
    decide +kernel
  have listed : (⟨"a ", .module⟩ : Symbol) ∈ (scopeTable source spacedImport).symbols := by
    decide +kernel
  rcases exists_item_of_map_snd_eq bounds with ⟨item, isImported⟩
  rcases (looksUp item _).1 isImported with ⟨statement, outside, _, _, binds⟩
  exact ⟨hasItems_spacedImport, ⟨item, isImported, statement, outside, binds⟩,
    records _ (.own listed) (.inl rfl)⟩

end Python
end EditorAnalysis
