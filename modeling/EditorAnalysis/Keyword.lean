import EditorAnalysis.Category

/-!
# Keywords

A language sets some names apart: structural words, words of control flow, and the two truth
values. Every other name is an identifier.
-/

namespace EditorAnalysis

/-- The names that a language sets apart. -/
structure KeywordSet where
  primary : List String
  secondary : List String
  trueLiteral : String
  falseLiteral : String
  deriving DecidableEq, Repr, Inhabited

namespace KeywordSet

/-- The category of a name. A name listed twice has the category listed first. -/
def classify (keywords : KeywordSet) (name : String) : Category :=
  if name ∈ keywords.primary then .primaryKeyword
  else if name ∈ keywords.secondary then .secondaryKeyword
  else if name = keywords.trueLiteral then .boolTrue
  else if name = keywords.falseLiteral then .boolFalse
  else .identifier

end KeywordSet
end EditorAnalysis
