import EditorAnalysis.CommandLine.Arguments
import EditorAnalysis.Exchange
import EditorAnalysis.Python.Backend
import EditorAnalysis.Python.Checkers

/-!
# The program

What the program prints for a command line: the report of one file, as text or as JSON. The file
is analysed as a session would do it: its text is set, and then the lines named on the command
line are replaced, one after the other.

The program is a function of the command line, of the files that it can read and of a parser.
-/

namespace EditorAnalysis
namespace CommandLine

open Syntax (Parser)

/-- What a run of the program leaves behind. -/
structure Outcome where
  exitCode : Nat
  output : String
  errors : String
  deriving DecidableEq, Repr, Inhabited

/-- A way to read files: the bytes behind a path, if there are any. -/
abbrev Files := String → Option ByteArray

/-- Why a file cannot be analysed. -/
inductive RunError where
  | configuration (path : String)
  | file (path : String)
  deriving DecidableEq, Repr, Inhabited

namespace RunError

def message : RunError → String
  | .configuration path => s!"failed to load configuration from {path}"
  | .file path => s!"failed to read {path}"

end RunError

/-- The text of a file, if it can be read and is text. -/
def readText? (files : Files) (path : String) : Option String :=
  (files path).bind String.fromUTF8?

def readConfig? (files : Files) (path : String) : Option Config :=
  match readText? files path with
  | some text => (Exchange.ofText Exchange.config text).toOption
  | none => none

/-- The configuration in the file that a command line names, or else the default. -/
def baseConfig (files : Files) (invocation : Invocation) : Except RunError Config :=
  match invocation.config with
  | none => .ok Config.default
  | some path =>
    match readConfig? files path with
    | some config => .ok config
    | none => .error (.configuration path)

/-- The configuration that a command line asks for: what it says itself counts more than its
file. -/
def configOf (files : Files) (invocation : Invocation) : Except RunError Config :=
  (baseConfig files invocation).map fun base =>
    ⟨base.styleCheck || invocation.styleCheck,
      invocation.maxLineLength.getD base.maxLineLength⟩

def directoryOf (path : String) : String :=
  String.ofList ((path.toList.reverse.dropWhile (· != '/')).drop 1).reverse

/-- The session of a file's text, before any line is replaced. -/
def openSession (parser : Parser) (config : Config) (path source : String) :
    Session Python.Backend Python.PythonChecker :=
  let checkers := Python.Concern.all.map (Python.PythonChecker.new parser)
  ((Session.new (Python.Backend.mk parser) checkers).setSourceDirectory
    (directoryOf path)).setSourceText source config

/-- The report that a command line asks for. -/
def reportOf (parser : Parser) (files : Files) (invocation : Invocation) :
    Except RunError Report := do
  let config ← configOf files invocation
  match readText? files invocation.file with
  | none => .error (.file invocation.file)
  | some source =>
    let session := openSession parser config invocation.file source
    let edited := invocation.replacements.foldl
      (fun session replacement => (session.replaceLine replacement.line replacement.text).2)
      session
    return Report.ofSession edited invocation.file

/-- The text of a report in the form that a command line asks for. -/
def render (invocation : Invocation) (report : Report) : String :=
  if invocation.json then (Exchange.report report).pretty ++ "\n" else report.renderText

def versionText : String := "analyzer 0.3.0"

def helpText : String :=
  "Classify, introspect and check a Python file\n\n" ++
  "Usage: analyzer [OPTIONS] <FILE>\n\n" ++
  "Arguments:\n" ++
  "  <FILE>  Python source file to analyze\n\n" ++
  "Options:\n" ++
  "      --config <FILE>        JSON configuration file\n" ++
  "      --style-check          Enable PEP 8 style checks\n" ++
  "      --max-line-length <N>  Maximum line length for the style checker\n" ++
  "      --replace <LINE=TEXT>  Replace a line after the initial analysis\n" ++
  "      --json                 Print the report as JSON\n" ++
  "  -h, --help                 Print help\n" ++
  "  -V, --version              Print version\n"

/-- What is printed when a command line leads to no analysis. -/
def stopped : Stop → Outcome
  | .usage error => ⟨2, "", "error: " ++ error.message ++ "\n"⟩
  | .help => ⟨0, helpText, ""⟩
  | .version => ⟨0, versionText ++ "\n", ""⟩

/-- What is printed for a command line that asks for an analysis. -/
def analyse (parser : Parser) (files : Files) (invocation : Invocation) : Outcome :=
  match reportOf parser files invocation with
  | .ok report => ⟨0, render invocation report, ""⟩
  | .error error => ⟨1, "", "Error: " ++ error.message ++ "\n"⟩

def run (parser : Parser) (files : Files) (arguments : List String) : Outcome :=
  match readArguments arguments with
  | .error stop => stopped stop
  | .ok invocation => analyse parser files invocation

end CommandLine
end EditorAnalysis
