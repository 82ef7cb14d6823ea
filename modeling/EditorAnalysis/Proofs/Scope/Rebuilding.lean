import EditorAnalysis.Proofs.Scope.Context
import EditorAnalysis.Proofs.Scope.Table

/-!
# Contexts at any depth

A tree of contexts that is built anew for one table after the other is a picture of the last one.
To each path that leads to a table belongs a context with the names that this table declares, and
only the root has the names of the host language in front of them. The tables before the last leave
nothing, and without the last there is again the root that a new tree begins with.
-/

namespace EditorAnalysis
namespace ScopeContext

/-- The context to which a path leads, which has the position of the next context at each step. -/
def at? : ScopeContext → List Nat → Option ScopeContext
  | context, [] => some context
  | context, index :: path => context.children[index]?.bind fun child => child.at? path

/-- The context after texts with these tables, one after the other. -/
def rebuildAll (context : ScopeContext) (tables : List ScopeTable) : ScopeContext :=
  tables.foldl rebuild context

/-- Whether a context lists what a table declares, in order and behind other names, knows how many
names are in front, and has one context inside for each table inside. -/
structure Pictures (context : ScopeContext) (front : HostNames) (table : ScopeTable) : Prop where
  modules : context.modules =
    (table.symbols.filter fun symbol => symbol.kind == .module).map Symbol.name
  functions : context.functions = front.functions ++
    (table.children.filter fun child => child.kind == .function).map ScopeTable.name
  classes : context.classes = front.classes ++
    (table.children.filter fun child => child.kind == .classDef).map ScopeTable.name
  baseline : context.baseline = ⟨0, front.functions.length, front.classes.length⟩
  children : context.children.length = table.children.length

/-! ## Contexts of tables -/

theorem ofTables_eq_map (tables : List ScopeTable) : ofTables tables = tables.map ofTable := by
  induction tables with
  | nil => rfl
  | cons table rest ih => rw [ofTables, ih, List.map_cons]

theorem children_ofTable (table : ScopeTable) :
    (ofTable table).children = table.children.map ofTable := by
  cases table with
  | mk name kind symbols children => exact ofTables_eq_map children

theorem pictures_ofTable (table : ScopeTable) : (ofTable table).Pictures ⟨[], []⟩ table := by
  cases table with
  | mk name kind symbols children =>
      refine ⟨rfl, rfl, rfl, rfl, ?_⟩
      rw [children_ofTable, List.length_map]

/-- A path leads to the context of the table to which it leads. -/
theorem at?_ofTable (table : ScopeTable) (path : List Nat) :
    (ofTable table).at? path = (table.at? path).map ofTable := by
  induction path generalizing table with
  | nil => rfl
  | cons index path ih =>
      rw [at?, ScopeTable.at?, children_ofTable, List.getElem?_map]
      cases table.children[index]? with
      | none => rfl
      | some child => exact ih child

/-! ## Roots -/

variable (host : HostNames)

theorem pictures_fill_ofHostNames (table : ScopeTable) :
    ((ofHostNames host).fill table).Pictures host table := by
  refine ⟨rfl, rfl, rfl, rfl, ?_⟩
  simp [fill, ofHostNames, ofTables_eq_map]

/-- Behind the first step of a path there are contexts of tables only. -/
theorem at?_fill_ofHostNames (table : ScopeTable) (index : Nat) (path : List Nat) :
    ((ofHostNames host).fill table).at? (index :: path) =
      (table.at? (index :: path)).map ofTable := by
  have children : ((ofHostNames host).fill table).children = table.children.map ofTable :=
    ofTables_eq_map table.children
  rw [at?, ScopeTable.at?, children, List.getElem?_map]
  cases table.children[index]? with
  | none => rfl
  | some child => exact at?_ofTable child path

/-- Along any path the tree of contexts ends where the tree of tables ends, and the contexts up to
there are pictures of the tables. -/
theorem pictures_at?_fill_ofHostNames (table : ScopeTable) (path : List Nat) :
    Option.Rel (fun context inner => context.Pictures (if path = [] then host else ⟨[], []⟩) inner)
      (((ofHostNames host).fill table).at? path) (table.at? path) := by
  cases path with
  | nil => exact .some (pictures_fill_ofHostNames host table)
  | cons index path =>
      rw [at?_fill_ofHostNames]
      cases table.at? (index :: path) with
      | none => exact .none
      | some inner => exact .some (pictures_ofTable inner)

/-! ## One table after the other -/

/-- However many tables there are, only the last one counts. -/
theorem rebuildAll_ofLast (table? : Option ScopeTable) (tables : List ScopeTable) :
    (ofLast host table?).rebuildAll tables = ofLast host (tables.getLast?.or table?) := by
  induction tables generalizing table? with
  | nil => rfl
  | cons table rest ih =>
      calc
        (ofLast host table?).rebuildAll (table :: rest)
            = ((ofLast host table?).rebuild table).rebuildAll rest := rfl
        _ = (ofLast host (some table)).rebuildAll rest := by rw [rebuild_ofLast]
        _ = ofLast host (rest.getLast?.or (some table)) := ih (some table)
        _ = ofLast host ((table :: rest).getLast?.or table?) := by
            rw [List.getLast?_cons, Option.or_some, Option.some_or]

theorem rebuildAll_ofHostNames (tables : List ScopeTable) :
    (ofHostNames host).rebuildAll tables = ofLast host tables.getLast? :=
  (rebuildAll_ofLast host none tables).trans (by rw [Option.or_none])

/-- After any tables a tree of contexts is a picture of the last one: at each path there is a
context just when there is a table, with the names that the table declares, and with the names of
the host language in front of them at the root and nowhere else. It is the tree that a new root
makes of the last table alone. Cleared, the root is what a new tree over the names of the host
language begins with. -/
theorem rebuildAll_pictures_last (earlier : List ScopeTable) (last : ScopeTable) :
    let root := (ofHostNames host).rebuildAll (earlier ++ [last])
    (∀ path, Option.Rel
        (fun context table => context.Pictures (if path = [] then host else ⟨[], []⟩) table)
        (root.at? path) (last.at? path)) ∧
      root = (ofHostNames host).rebuild last ∧
      ∀ tables, ((ofHostNames host).rebuildAll tables).clear = ofHostNames host := by
  intro root
  have ofLast_eq : root = ofLast host (some last) := by
    have counts := rebuildAll_ofHostNames host (earlier ++ [last])
    rwa [List.getLast?_concat] at counts
  refine ⟨?_, ?_, ?_⟩
  · rw [ofLast_eq]
    exact pictures_at?_fill_ofHostNames host last
  · exact ofLast_eq.trans (rebuild_ofLast host none last).symm
  · intro tables
    rw [rebuildAll_ofHostNames, clear_ofLast]

/-- Tables of modules inside give no name but have contexts. -/
example :
    let inner : ScopeTable := .mk "m" .module [⟨"sys", .module⟩] [.mk "C" .classDef [] []]
    let root := (ofHostNames ⟨["print"], ["int"]⟩).rebuildAll
      [.mk "" .module [⟨"os", .module⟩] [.mk "f" .function [] []],
        .mk "" .module [⟨"x", .local⟩] [inner, .mk "print" .function [] []]]
    root.globalNames = ⟨[], ["print", "print"], ["int"]⟩ ∧
      (root.at? [0]).map globalNames = some ⟨["sys"], [], ["C"]⟩ ∧ (root.at? [2]).isNone := by
  decide

end ScopeContext
end EditorAnalysis
