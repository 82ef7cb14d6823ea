import EditorAnalysis.Python.ScopeTable

/-!
# What blocks and tables record

A table records the symbols that it lists and those that the tables inside it record. The table of
a scope is made from the block of its statements, and records nothing else.
-/

namespace EditorAnalysis

/-- A table, or a table somewhere inside it, lists a symbol. -/
inductive ScopeTable.Records : ScopeTable → Symbol → Prop where
  | own {table : ScopeTable} {symbol : Symbol} (listed : symbol ∈ table.symbols) :
      Records table symbol
  | inside {table child : ScopeTable} {symbol : Symbol} (isChild : child ∈ table.children)
      (inChild : Records child symbol) : Records table symbol

namespace Python

open Syntax

/-- A block binds a symbol in its own scope or in a scope that it opens. -/
def Block.Records (block : Block) (symbol : Symbol) : Prop :=
  symbol ∈ block.bindings ∨ ∃ table ∈ block.tables, table.Records symbol

theorem Block.records_append {a b : Block} {symbol : Symbol} :
    (a ++ b).Records symbol ↔ a.Records symbol ∨ b.Records symbol := by
  have bindings : (a ++ b).bindings = a.bindings ++ b.bindings := rfl
  have tables : (a ++ b).tables = a.tables ++ b.tables := rfl
  simp only [Records, bindings, tables, List.mem_append, or_and_right, exists_or]
  exact or_or_or_comm ..

theorem Block.not_records_empty (symbol : Symbol) : ¬Block.empty.Records symbol := by
  simp [Records, empty]

theorem Block.records_binding {kind : SymbolKind} {names : List String} {symbol : Symbol} :
    (Block.binding kind names).Records symbol ↔ symbol.name ∈ names ∧ symbol.kind = kind := by
  cases symbol with
  | mk name kind' =>
      constructor
      · rintro (bound | ⟨_, none, _⟩)
        · rcases List.mem_map.1 bound with ⟨_, isName, ⟨⟩⟩
          exact ⟨isName, rfl⟩
        · cases none
      · rintro ⟨isName, rfl⟩
        exact .inl (List.mem_map_of_mem isName)

theorem mem_of_mem_firstBindings {symbols : List Symbol} {symbol : Symbol}
    (h : symbol ∈ firstBindings symbols) : symbol ∈ symbols := by
  induction symbols with
  | nil => exact h
  | cons first rest ih =>
      rcases List.mem_cons.1 h with rfl | later
      · exact List.mem_cons_self
      · exact List.mem_cons_of_mem _ (ih (List.mem_filter.1 later).1)

/-- The table of a scope records what the block of the scope binds. -/
theorem records_of_records_mk {name : String} {kind : ScopeKind} {block : Block} {symbol : Symbol}
    (h : (ScopeTable.mk name kind (firstBindings block.bindings) block.tables).Records symbol) :
    block.Records symbol := by
  cases h with
  | own listed => exact .inl (mem_of_mem_firstBindings listed)
  | inside isChild inChild => exact .inr ⟨_, isChild, inChild⟩

theorem exists_of_blockOfAll {source : List Char} {ns : List Node} {symbol : Symbol}
    (h : (blockOfAll source ns).Records symbol) :
    ∃ n ∈ ns, (blockOf source n).Records symbol := by
  induction ns with
  | nil => exact absurd h (Block.not_records_empty symbol)
  | cons n rest ih =>
      rw [blockOfAll] at h
      split at h
      · rcases Block.records_append.1 h with first | later
        · exact ⟨n, List.mem_cons_self, first⟩
        · rcases ih later with ⟨m, hm, records⟩
          exact ⟨m, List.mem_cons_of_mem _ hm, records⟩
      · rcases ih h with ⟨m, hm, records⟩
        exact ⟨m, List.mem_cons_of_mem _ hm, records⟩

theorem exists_of_bodyBlock {source : List Char} {ns : List Node} {symbol : Symbol}
    (h : (bodyBlock source ns).Records symbol) :
    ∃ n ∈ ns, (blockOfAll source n.children).Records symbol := by
  induction ns with
  | nil => exact absurd h (Block.not_records_empty symbol)
  | cons n rest ih =>
      cases n with
      | mk info children =>
          rw [bodyBlock] at h
          split at h
          · exact ⟨_, List.mem_cons_self, h⟩
          · rcases ih h with ⟨m, hm, records⟩
            exact ⟨m, List.mem_cons_of_mem _ hm, records⟩

/-! ## Blocks of several nodes -/

@[simp] theorem Block.bindings_append (a b : Block) :
    (a ++ b).bindings = a.bindings ++ b.bindings :=
  rfl

@[simp] theorem Block.tables_append (a b : Block) : (a ++ b).tables = a.tables ++ b.tables :=
  rfl

@[simp] theorem Block.append_empty (a : Block) : a ++ Block.empty = a := by
  cases a with
  | mk bindings tables =>
      exact congr (congrArg Block.mk (List.append_nil bindings)) (List.append_nil tables)

/-- Only named nodes bind anything, one behind the other. -/
theorem bindings_blockOfAll (source : List Char) (ns : List Node) :
    (blockOfAll source ns).bindings =
      (ns.filter (·.info.named)).flatMap fun n => (blockOf source n).bindings := by
  induction ns with
  | nil => rfl
  | cons n rest ih => cases isNamed : n.info.named <;> simp [blockOfAll, isNamed, ih]

theorem tables_blockOfAll (source : List Char) (ns : List Node) :
    (blockOfAll source ns).tables =
      (ns.filter (·.info.named)).flatMap fun n => (blockOf source n).tables := by
  induction ns with
  | nil => rfl
  | cons n rest ih => cases isNamed : n.info.named <;> simp [blockOfAll, isNamed, ih]

/-- The statements in the body of a definition. -/
def bodyStatements (d : Node) : List Node :=
  ((d.childByField? "body").map Node.children).getD []

/-- The body of a definition is its first child in the field for bodies. -/
theorem bodyBlock_children (source : List Char) (d : Node) :
    bodyBlock source d.children = blockOfAll source (bodyStatements d) := by
  cases d with
  | mk info children =>
      simp only [bodyStatements, Node.childByField?, Node.children]
      induction children with
      | nil => rfl
      | cons child rest ih =>
          cases child with
          | mk info' inside =>
              by_cases isBody : info'.field = "body"
              · simp [bodyBlock, isBody, Node.info, Node.children]
              · simpa [bodyBlock, isBody, Node.info] using ih

end Python
end EditorAnalysis
