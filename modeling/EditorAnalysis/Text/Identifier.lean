import EditorAnalysis.Text.IdentifierTable

/-!
# Characters of identifiers

An identifier begins with a character of XID_Start or an underscore and goes on with characters
of XID_Continue.
-/

namespace EditorAnalysis
namespace Text

/-- Whether an identifier may begin with the character. -/
def isIdentifierStart (c : Char) : Bool :=
  c == '_' || xidStartSet.contains c

/-- Whether an identifier may go on with the character. -/
def isIdentifierContinue (c : Char) : Bool :=
  xidContinueSet.contains c

end Text
end EditorAnalysis
