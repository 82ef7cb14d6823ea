import EditorAnalysis.CommandLine.Program

/-!
# The command

Reads the files that a command line names, and prints what the program says about them. The syntax
tree of a file stands in a file beside it, named like it with `.tree` behind: its nodes in
pre-order, each as an array of kind, flags, field, start, end and number of children.
-/

namespace EditorAnalysis
namespace CommandLine

open Syntax (Node NodeInfo)

def emptyTree : Node := .mk ⟨"module", true, false, false, false, "", 0, 0⟩ []

def readTree? (text : String) : Option Node :=
  ((Json.readWhole (Json.readArray Exchange.flatNode.read) text).toOption).bind Node.ofPreorder?

def readBytes (path : String) : IO (Option ByteArray) := do
  try
    return some (← IO.FS.readBinFile path)
  catch _ => return none

/-- Runs the program on the files that a command line names. -/
def runOn (arguments : List String) (invocation : Invocation) : IO Outcome := do
  let source ← readBytes invocation.file
  let config ← match invocation.config with
    | some path => readBytes path
    | none => pure none
  let tree ← readBytes (invocation.file ++ ".tree")
  let files : Files := fun path =>
    if invocation.config = some path then config
    else if path = invocation.file then source
    else none
  let root := ((tree.bind String.fromUTF8?).bind readTree?).getD emptyTree
  return run (fun _ => root) files arguments

end CommandLine
end EditorAnalysis

open EditorAnalysis.CommandLine in
/-- The program: prints the outcome of its command line and ends with its exit code. -/
def main (arguments : List String) : IO UInt32 := do
  let outcome ← match readArguments arguments with
    | .ok invocation => runOn arguments invocation
    | .error stop => pure (stopped stop)
  IO.print outcome.output
  IO.eprint outcome.errors
  return UInt32.ofNat outcome.exitCode
