import EditorAnalysis.Proofs.Python.ImportSurvey
import EditorAnalysis.Proofs.Text.Trim

/-!
# What an assignment of `__all__` exports

An import that nothing reads counts as used when an assignment of `__all__` exports its name. The
assignment may stand anywhere, also in a function or a class. It exports the texts of the string
literals on its right with the quotes around them taken off. That is the value of a literal
without letters in front; a literal with letters exports something else.
-/

namespace EditorAnalysis
namespace Python

open Syntax Text Node

/-! ## Quotes around a text -/

/-- The text of a string literal: letters, a quote or three, the characters of its value, and the
same quotes again. -/
structure IsLiteralText (text letters value : List Char) : Prop where
  notQuotes : ∀ c ∈ letters, isQuote c = false
  quoted : ∃ quotes, quotes ≠ [] ∧ (∀ c ∈ quotes, isQuote c = true) ∧
    text = letters ++ (quotes ++ value ++ quotes)

/-- Without its quotes, a literal without letters is its value, less the quotes at the ends of
that. With letters it is a name only where nothing but quotes stands behind them. -/
theorem trim_literal_iff {text letters value name : List Char}
    (literal : IsLiteralText text letters value) (isName : ∀ c ∈ name, isQuote c = false) :
    trim isQuote text = name ↔
      letters = [] ∧ trim isQuote value = name ∨
        letters ≠ [] ∧ letters = name ∧ ∀ c ∈ value, isQuote c = true := by
  rcases literal with ⟨notQuotes, quotes, some_, areQuotes, rfl⟩
  by_cases noLetters : letters = []
  · rw [noLetters, List.nil_append, trim_append_of_pos areQuotes areQuotes]
    simp
  · rw [trim_eq_trimEnd noLetters notQuotes]
    by_cases onlyQuotes : ∀ c ∈ value, isQuote c = true
    · have back : ∀ c ∈ quotes ++ value ++ quotes, isQuote c = true := by
        simp only [List.mem_append, or_imp, forall_and]
        exact ⟨⟨areQuotes, onlyQuotes⟩, areQuotes⟩
      rw [trimEnd_append_of_pos back, trimEnd_eq_self notQuotes]
      simp only [noLetters, false_and, false_or, ne_eq, not_false_eq_true, true_and,
        and_iff_left onlyQuotes]
    · have other : ∃ c ∈ value, isQuote c = false := by simpa using onlyQuotes
      rcases other with ⟨c, inValue, notQuote⟩
      have inQuoted : c ∈ quotes ++ value ++ quotes := by simp [inValue]
      have inRest : c ∈ value ++ quotes := by simp [inValue]
      -- The opening quotes stay, and no name has quotes.
      have kept : trimEnd isQuote (letters ++ (quotes ++ value ++ quotes)) =
          letters ++ (quotes ++ trimEnd isQuote (value ++ quotes)) := by
        rw [trimEnd_append_of_mem inQuoted notQuote, List.append_assoc quotes,
          trimEnd_append_of_mem inRest notQuote]
      rcases List.exists_mem_of_ne_nil _ some_ with ⟨quote, isQuoting⟩
      have notName : letters ++ (quotes ++ trimEnd isQuote (value ++ quotes)) ≠ name := by
        rintro rfl
        have clean := isName quote (by simp [isQuoting])
        rw [areQuotes quote isQuoting] at clean
        cases clean
      rw [kept]
      simp only [notName, noLetters, onlyQuotes, and_false, false_and, or_self]

/-! ## Exported names -/

def isString (n : Node) : Bool :=
  n.info.kind == "string"

/-- The string literals of a tree that are not inside of other string literals. -/
def literals (n : Node) : List Node :=
  (n.nodesOutside isString).filter isString

theorem literals_mk (info : NodeInfo) (children : List Node) :
    literals (.mk info children) =
      if isString (.mk info children) then [.mk info children] else children.flatMap literals := by
  rw [literals, nodesOutside_mk]
  split
  case isTrue string => simp [string]
  case isFalse other => rw [List.filter_cons_of_neg other, List.filter_flatMap]; rfl

/-- No token has a string literal inside. -/
def StringsAreNamed (root : Node) : Prop :=
  ∀ n ∈ root.preorder, n.info.named = false → ∀ m ∈ n.preorder, isString m = false

instance (root : Node) : Decidable (StringsAreNamed root) :=
  inferInstanceAs (Decidable (∀ n ∈ root.preorder, _))

theorem StringsAreNamed.inside {root n : Node} (h : StringsAreNamed root)
    (inRoot : n ∈ root.preorder) : StringsAreNamed n :=
  fun m inNode => h m (mem_preorder_trans inRoot inNode)

/-- A string literal without its quotes, or rather without all quotes at its two ends. -/
def unquoted (source : List Char) (literal : Node) : List Char :=
  trim isQuote (literal.text source)

/-- The names that a tree exports are its string literals without their quotes. -/
theorem exportedNames_eq {source : List Char} (n : Node) (named : StringsAreNamed n) :
    exportedNames source n = (literals n).map (unquoted source) := by
  induction n using Node.induction with
  | node info children ih =>
      rw [literals_mk, exportedNames]
      by_cases string : info.kind = "string"
      · simp [isString, string, Node.info, unquoted]
      · have other : isString (.mk info children) = false := by simp [isString, string, Node.info]
        have inside (child : Node) (isChild : child ∈ children) :
            child ∈ (mk info children).preorder :=
          mem_preorder_of_mem_children isChild
        rw [if_neg string, other, if_neg Bool.false_ne_true, exportedNamesAll_eq_flatMap,
          List.map_flatMap]
        refine List.flatMap_congr fun child isChild => ?_
        split
        case isTrue => exact ih child isChild (named.inside (inside child isChild))
        case isFalse token =>
          -- A token is passed over, which loses nothing.
          have none_ : literals child = [] := by
            refine List.filter_eq_nil_iff.2 fun m outside => ?_
            have within := mem_preorder_of_mem_nodesOutside outside
            simp [named child (inside child isChild) (by simpa using token) m within]
          rw [none_, List.map_nil]

/-- An assignment of `__all__` with what stands on its right. -/
def AssignsAll (source : List Char) (n right : Node) : Prop :=
  n.info.kind = "assignment" ∧ n.childByField? "right" = some right ∧
    ∃ left, n.childByField? "left" = some left ∧ left.text source = "__all__".toList

theorem mem_exportsOf {source : List Char} {n : Node} {name : List Char} :
    n.info.kind = "assignment" ∧ name ∈ exportsOf source n ↔
      ∃ right, AssignsAll source n right ∧ name ∈ exportedNames source right := by
  unfold exportsOf AssignsAll
  constructor
  · rintro ⟨assigns, exported⟩
    split at exported
    case h_1 left right isLeft isRight =>
      split at exported
      case isTrue all => exact ⟨right, ⟨assigns, isRight, left, isLeft, all⟩, exported⟩
      case isFalse => cases exported
    case h_2 => cases exported
  · rintro ⟨right, ⟨assigns, isRight, left, isLeft, all⟩, exported⟩
    refine ⟨assigns, ?_⟩
    simp only [isLeft, isRight]
    rwa [if_pos all]

/-- Somewhere outside of imports, at any depth, an assignment of `__all__` has a string literal on
its right that is a name between quotes. -/
def Exports (source : List Char) (root : Node) (name : List Char) : Prop :=
  ∃ n ∈ root.nodesOutside isImport, ∃ right, AssignsAll source n right ∧
    ∃ literal ∈ literals right, unquoted source literal = name

/-- A name that no identifier outside of imports spells is read only if it is exported. -/
theorem mem_reads_iff_exports {source : List Char} {root : Node} {name : List Char}
    (named : StringsAreNamed root)
    (unread : ∀ n ∈ root.nodesOutside isImport, n.info.kind = "identifier" → n.text source ≠ name) :
    name ∈ (importSurvey source false root).reads ↔ Exports source root name := by
  rw [mem_reads_importSurvey]
  constructor
  · rintro (⟨n, isVisited, identifier, isText⟩ | ⟨n, outside, assigns⟩)
    · exact absurd isText (unread n (mem_nodesOutside_of_mem_visited isVisited) identifier)
    · rcases mem_exportsOf.1 assigns with ⟨right, assignsAll, exported⟩
      have inRoot := mem_preorder_trans (mem_preorder_of_mem_nodesOutside outside)
        (mem_preorder_of_childByField? assignsAll.2.1)
      rw [exportedNames_eq right (named.inside inRoot)] at exported
      exact ⟨n, outside, right, assignsAll, List.mem_map.1 exported⟩
  · rintro ⟨n, outside, right, assignsAll, literal⟩
    have inRoot := mem_preorder_trans (mem_preorder_of_mem_nodesOutside outside)
      (mem_preorder_of_childByField? assignsAll.2.1)
    refine .inr ⟨n, outside, mem_exportsOf.2 ⟨right, assignsAll, ?_⟩⟩
    rw [exportedNames_eq right (named.inside inRoot)]
    exact List.mem_map.2 literal

/-- Of the imports whose names no identifier outside of imports spells, those are not reported
whose names are exported, wherever the assignment stands. A literal exports its value only when it
has no letters in front. -/
theorem unused_iff_not_exported (text : String) (root : Node) (named : StringsAreNamed root)
    (noError : root.hasError = false) :
    let source := text.toList
    let survey := importSurvey source false root
    unusedImports text root = survey.unused.map (fun (item, _) => unusedImport text item) ∧
      (∀ item bound, (item, bound) ∈ survey.imports →
        (∀ n ∈ root.nodesOutside isImport, n.info.kind = "identifier" → n.text source ≠ bound) →
          ((item, bound) ∉ survey.unused ↔ Exports source root bound)) ∧
      ∀ literal letters value bound, IsLiteralText (literal.text source) letters value →
        (∀ c ∈ bound, isQuote c = false) →
          (unquoted source literal = bound ↔
            letters = [] ∧ trim isQuote value = bound ∨
              letters ≠ [] ∧ letters = bound ∧ ∀ c ∈ value, isQuote c = true) := by
  intro source survey
  refine ⟨unusedImports_eq noError, ?_, ?_⟩
  · intro item bound imported unread
    rw [ImportSurvey.mem_unused_iff, ← mem_reads_iff_exports named unread]
    simp [imported, survey, source]
  · intro literal letters value bound isLiteral isName
    exact trim_literal_iff isLiteral isName

/-! ## An export in a function -/

/-- A literal between single quotes. -/
def localLiteral : Node :=
  .mk ⟨"string", true, false, false, false, "", 34, 38⟩
    [.mk ⟨"string_start", true, false, false, false, "", 34, 35⟩ [],
      .mk ⟨"string_content", true, false, false, false, "", 35, 37⟩ [],
      .mk ⟨"string_end", true, false, false, false, "", 37, 38⟩ []]

/-- A module that imports `os`, and a function in which `__all__` is a local variable. -/
def localExport : Node :=
  .mk ⟨"module", true, false, false, false, "", 0, 40⟩
    [.mk ⟨"import_statement", true, false, false, false, "", 0, 9⟩
        [.mk ⟨"import", false, false, false, false, "", 0, 6⟩ [],
          .mk ⟨"dotted_name", true, false, false, false, "name", 7, 9⟩
            [.mk ⟨"identifier", true, false, false, false, "", 7, 9⟩ []]],
      .mk ⟨"function_definition", true, false, false, false, "", 10, 39⟩
        [.mk ⟨"def", false, false, false, false, "", 10, 13⟩ [],
          .mk ⟨"identifier", true, false, false, false, "name", 14, 15⟩ [],
          .mk ⟨"parameters", true, false, false, false, "parameters", 15, 17⟩
            [.mk ⟨"(", false, false, false, false, "", 15, 16⟩ [],
              .mk ⟨")", false, false, false, false, "", 16, 17⟩ []],
          .mk ⟨":", false, false, false, false, "", 17, 18⟩ [],
          .mk ⟨"block", true, false, false, false, "body", 23, 39⟩
            [.mk ⟨"expression_statement", true, false, false, false, "", 23, 39⟩
              [.mk ⟨"assignment", true, false, false, false, "", 23, 39⟩
                [.mk ⟨"identifier", true, false, false, false, "left", 23, 30⟩ [],
                  .mk ⟨"=", false, false, false, false, "", 31, 32⟩ [],
                  .mk ⟨"list", true, false, false, false, "right", 33, 39⟩
                    [.mk ⟨"[", false, false, false, false, "", 33, 34⟩ [],
                      localLiteral,
                      .mk ⟨"]", false, false, false, false, "", 38, 39⟩ []]]]]]]

def localExportText : String := "import os\ndef f():\n    __all__ = ['os']\n"

/-- The only import is read nowhere, and nothing is assigned outside of the function. Yet nothing
is reported. -/
theorem local_assignment_exports :
    localExport.hasError = false ∧
      (importSurvey localExportText.toList false localExport).imports.map (·.2) = [['o', 's']] ∧
      (∀ n ∈ localExport.nodesOutside isImport, n.info.kind = "identifier" →
        n.text localExportText.toList ≠ ['o', 's']) ∧
      (∀ n ∈ localExport.nodesOutside (·.info.kind == "function_definition"),
        n.info.kind ≠ "assignment") ∧
      unusedImports localExportText localExport = [] :=
  ⟨rfl, by decide +kernel, by decide +kernel, by decide +kernel, by decide +kernel⟩

/-- The local variable exports the value of its literal. -/
theorem unused_iff_not_exported_local :
    let source := localExportText.toList
    let survey := importSurvey source false localExport
    StringsAreNamed localExport ∧ localExport.hasError = false ∧
      (∃ item, (item, ['o', 's']) ∈ survey.imports ∧
        ((item, ['o', 's']) ∉ survey.unused ↔ Exports source localExport ['o', 's'])) ∧
      (unquoted source localLiteral = ['o', 's'] ↔
        ([] : List Char) = [] ∧ trim isQuote ['o', 's'] = ['o', 's'] ∨
          ([] : List Char) ≠ [] ∧ [] = ['o', 's'] ∧ ∀ c ∈ ['o', 's'], isQuote c = true) := by
  intro source survey
  have named : StringsAreNamed localExport := by decide +kernel
  rcases unused_iff_not_exported localExportText localExport named rfl with
    ⟨-, exported, values⟩
  have bounds : survey.imports.map (·.2) = [['o', 's']] := by decide +kernel
  have unread : ∀ n ∈ localExport.nodesOutside isImport, n.info.kind = "identifier" →
      n.text source ≠ ['o', 's'] := by decide +kernel
  rcases exists_item_of_map_snd_eq bounds with ⟨item, imported⟩
  have isLiteral : IsLiteralText (localLiteral.text source) [] ['o', 's'] :=
    ⟨by simp, ['\''], by simp, by simp [isQuote], by decide +kernel⟩
  exact ⟨named, rfl, ⟨item, imported, exported item _ imported unread⟩,
    values localLiteral [] ['o', 's'] ['o', 's'] isLiteral (by simp [isQuote])⟩

end Python
end EditorAnalysis
