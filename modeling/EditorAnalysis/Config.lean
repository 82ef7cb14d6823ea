/-!
# Configuration

What the user of a workspace may choose. A change takes effect at the next analysis of a text.
-/

namespace EditorAnalysis

/-- The settings that all sessions of a workspace share. -/
structure Config where
  /-- Whether checkers of style run. -/
  styleCheck : Bool
  /-- The number of characters above which a line is too long. -/
  maxLineLength : Nat
  deriving DecidableEq, Repr

namespace Config

/-- Without a choice, style is not checked, and a line may have 79 characters. -/
def default : Config := ⟨false, 79⟩

instance : Inhabited Config := ⟨default⟩

end Config
end EditorAnalysis
