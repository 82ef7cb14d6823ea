import EditorAnalysis.Checker

/-!
# Checkers and factories

What comes of several checkers comes of one of them, and factories that always give the same
checkers give them to every session.
-/

namespace EditorAnalysis
namespace Checker

variable {σ : Type}

/-! ## Factories -/

/-- Factories that always give these checkers give them to every new session. -/
theorem Catalog.instantiate_of_factories {catalog : Catalog σ} {checkers : List σ}
    (h : catalog.map Source.factory = checkers.map fun checker _ => .ok checker) :
    catalog.instantiate.1 = checkers := by
  induction checkers generalizing catalog with
  | nil =>
      have none_ : catalog = [] := List.map_eq_nil_iff.1 h
      subst none_
      rfl
  | cons checker rest ih =>
      rcases List.map_eq_cons_iff.1 h with ⟨source, sources, rfl, constant, others⟩
      have first : (source.factory source.calls).toOption = some checker := by
        rw [constant]
        rfl
      simpa [Catalog.instantiate, first] using ih others

/-! ## Reports -/

variable [Checker σ] {text : String} {context : CheckContext} {checkers : List σ} {checker : σ}
  {list : List Diagnostic}

/-- What one checker contributes when several check a text, and what becomes of it. -/
def visit (text : String) (context : CheckContext) (checker : σ) :
    Option (List Diagnostic) × σ :=
  if isSkipped checker context then (none, checker) else check checker text context

theorem checkAll_cons (text : String) (context : CheckContext) (checker : σ) (others : List σ) :
    checkAll text context (checker :: others) =
      ((visit text context checker).1.toList ++ (checkAll text context others).1,
        (visit text context checker).2 :: (checkAll text context others).2) := by
  by_cases skipped : isSkipped checker context = true
  · simp [checkAll, visit, skipped]
  · simp [checkAll, visit, skipped]

/-- Each checker contributes for itself. -/
theorem checkAll_eq (text : String) (context : CheckContext) (checkers : List σ) :
    checkAll text context checkers =
      (checkers.filterMap fun checker => (visit text context checker).1,
        checkers.map fun checker => (visit text context checker).2) := by
  induction checkers with
  | nil => rfl
  | cons checker others ih =>
      rw [checkAll_cons, ih, List.filterMap_cons]
      cases (visit text context checker).1 with
      | none => rfl
      | some list => rfl

/-- Every list of diagnostics is what one of the checkers reports. -/
theorem exists_of_mem_checkAll (h : list ∈ (checkAll text context checkers).1) :
    ∃ checker ∈ checkers, (check checker text context).1 = some list := by
  rw [checkAll_eq] at h
  rcases List.mem_filterMap.1 h with ⟨checker, among, given⟩
  refine ⟨checker, among, ?_⟩
  by_cases skipped : isSkipped checker context = true
  · simp [visit, skipped] at given
  · simpa [visit, skipped] using given

/-- A checker that is not left out and does not fail has its list among the reports. -/
theorem mem_checkAll_of_mem (mem : checker ∈ checkers) (asked : isSkipped checker context = false)
    (reported : (check checker text context).1 = some list) :
    list ∈ (checkAll text context checkers).1 := by
  rw [checkAll_eq]
  exact List.mem_filterMap.2 ⟨checker, mem, by simpa [visit, asked] using reported⟩

end Checker
end EditorAnalysis
