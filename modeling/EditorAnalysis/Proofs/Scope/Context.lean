import EditorAnalysis.Scope.Context

/-!
# The names of a root context

The lists of a root hold the names of the host language and then those that the text declares. Only
the two counts in the baseline tell them apart, and they always do: a text that is gone leaves
nothing, and no name of a text is lost by being one of the host language too.
-/

namespace EditorAnalysis

/-- The names that a table declares in its own scope, by kind. -/
def ScopeTable.topNames (table : ScopeTable) : GlobalNames :=
  ⟨table.moduleNames, table.childNames .function, table.childNames .classDef⟩

/-- Names behind those of the host language, list by list. -/
def HostNames.inFrontOf (host : HostNames) (names : GlobalNames) : GlobalNames :=
  ⟨names.modules, host.functions ++ names.functions, host.classes ++ names.classes⟩

def GlobalNames.empty : GlobalNames := ⟨[], [], []⟩

namespace ScopeContext

/-- The root context after texts of which the last one without syntax errors, if there is any, has
a table. -/
def ofLast (host : HostNames) (table? : Option ScopeTable) : ScopeContext :=
  (table?.map (ofHostNames host).fill).getD (ofHostNames host)

@[simp] theorem clear_ofHostNames (host : HostNames) :
    (ofHostNames host).clear = ofHostNames host := by
  simp [ofHostNames, clear]

/-- What a table adds to the names of the host language can be told from them. -/
@[simp] theorem clear_fill_ofHostNames (host : HostNames) (table : ScopeTable) :
    ((ofHostNames host).fill table).clear = ofHostNames host := by
  simp [ofHostNames, fill, clear]

@[simp] theorem clear_ofLast (host : HostNames) (table? : Option ScopeTable) :
    (ofLast host table?).clear = ofHostNames host := by
  cases table? with
  | none => exact clear_ofHostNames host
  | some table => exact clear_fill_ofHostNames host table

/-- A new table takes the place of the last one. -/
theorem rebuild_ofLast (host : HostNames) (table? : Option ScopeTable) (table : ScopeTable) :
    (ofLast host table?).rebuild table = ofLast host (some table) := by
  rw [rebuild, clear_ofLast]
  rfl

theorem globalNames_ofLast (host : HostNames) (table? : Option ScopeTable) :
    (ofLast host table?).globalNames =
      host.inFrontOf ((table?.map ScopeTable.topNames).getD .empty) := by
  cases table? <;>
    simp [ofLast, globalNames, fill, ofHostNames, HostNames.inFrontOf, ScopeTable.topNames,
      GlobalNames.empty]

theorem declaredNames_ofLast (host : HostNames) (table? : Option ScopeTable) :
    (ofLast host table?).declaredNames = (table?.map ScopeTable.topNames).getD .empty := by
  cases table? <;>
    simp [ofLast, declaredNames, fill, ofHostNames, ScopeTable.topNames, GlobalNames.empty]

end ScopeContext
end EditorAnalysis
