import EditorAnalysis.CommandLine.Word
import EditorAnalysis.Text.Blank
import EditorAnalysis.Text.Quoted

/-!
# Line replacements

A replacement is written as a line number, an equals sign and a text. Lines count from one there.
The first equals sign ends the number; white space around the number does not matter.
-/

namespace EditorAnalysis
namespace CommandLine

open Text

/-- A line, counted from zero, and the text to put in its place. -/
structure Replacement where
  line : Nat
  text : String
  deriving DecidableEq, Repr, Inhabited

/-- Why an argument is no replacement. -/
inductive ReplacementFault where
  | noEquals (raw : String)
  | badNumber (raw : String) (fault : WordFault)
  | lineZero
  deriving DecidableEq, Repr, Inhabited

namespace ReplacementFault

def message : ReplacementFault → String
  | .noEquals raw => "expected LINE=TEXT, got " ++ quoted raw
  | .badNumber raw fault => "invalid line number " ++ quoted raw ++ ": " ++ fault.message
  | .lineZero => "line numbers start at 1"

end ReplacementFault

namespace Replacement

def parse (raw : String) : Except ReplacementFault Replacement :=
  let number := raw.toList.takeWhile (· != '=')
  match raw.toList.dropWhile (· != '=') with
  | [] => .error (.noEquals raw)
  | _ :: text =>
    match readWord (trim isWhiteSpace number) with
    | .error fault => .error (.badNumber (String.ofList number) fault)
    | .ok 0 => .error .lineZero
    | .ok (line + 1) => .ok ⟨line, String.ofList text⟩

end Replacement
end CommandLine
end EditorAnalysis
