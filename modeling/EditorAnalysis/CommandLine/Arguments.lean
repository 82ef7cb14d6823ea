import EditorAnalysis.CommandLine.Replacement
import EditorAnalysis.Text.ControlFunctions

/-!
# Arguments

The grammar of the command line: one file, and options that may stand before and behind it. An
option that takes a value has it behind an equals sign or in the next argument, unless that one is
an option itself. Behind `--` there are no options any more.

Arguments are taken from left to right. A value in an argument of its own is looked at only when
the next parameter is settled, so an unknown option behind it is reported first.
-/

namespace EditorAnalysis
namespace CommandLine

open Text (withoutControls)

inductive Parameter where
  | file
  | config
  | styleCheck
  | maxLineLength
  | replace
  | json
  | help
  | version
  deriving DecidableEq, Repr, Inhabited

namespace Parameter

def shown : Parameter → String
  | .file => "<FILE>"
  | .config => "--config <FILE>"
  | .styleCheck => "--style-check"
  | .maxLineLength => "--max-line-length <N>"
  | .replace => "--replace <LINE=TEXT>"
  | .json => "--json"
  | .help => "--help"
  | .version => "--version"

def takesValue : Parameter → Bool
  | .file | .config | .maxLineLength | .replace => true
  | .styleCheck | .json | .help | .version => false

/-- The parameter of a long option, by its name behind the hyphens. -/
def ofLong? (name : String) : Option Parameter :=
  if name = "config" then some .config
  else if name = "style-check" then some .styleCheck
  else if name = "max-line-length" then some .maxLineLength
  else if name = "replace" then some .replace
  else if name = "json" then some .json
  else if name = "help" then some .help
  else if name = "version" then some .version
  else none

/-- The parameter of a short option, by its letter. -/
def ofShort? (letter : Char) : Option Parameter :=
  if letter = 'h' then some .help
  else if letter = 'V' then some .version
  else none

end Parameter

/-- Why a command line is refused. -/
inductive UsageError where
  | unexpectedArgument (argument : String)
  | unexpectedValue (value : String) (parameter : Parameter)
  | valueRequired (parameter : Parameter)
  | repeated (parameter : Parameter)
  | invalidValue (value : String) (parameter : Parameter) (reason : String)
  | missingFile
  deriving DecidableEq, Repr, Inhabited

namespace UsageError

/-- The wording of an error. What stood on the command line is shown without control functions. -/
def message : UsageError → String
  | .unexpectedArgument argument => s!"unexpected argument '{withoutControls argument}' found"
  | .unexpectedValue value parameter =>
    s!"unexpected value '{withoutControls value}' for '{parameter.shown}' found" ++
      "; no more were expected"
  | .valueRequired parameter =>
    s!"a value is required for '{parameter.shown}' but none was supplied"
  | .repeated parameter => s!"the argument '{parameter.shown}' cannot be used multiple times"
  | .invalidValue value parameter reason =>
    s!"invalid value '{withoutControls value}' for '{parameter.shown}': {reason}"
  | .missingFile => "the following required arguments were not provided:\n  <FILE>"

end UsageError

/-- What a command line asks for. -/
structure Invocation where
  file : String
  config : Option String
  styleCheck : Bool
  maxLineLength : Option Nat
  replacements : List Replacement
  json : Bool
  deriving DecidableEq, Repr, Inhabited

/-- Why a command line leads to no analysis. -/
inductive Stop where
  | usage (error : UsageError)
  | help
  | version
  deriving DecidableEq, Repr, Inhabited

/-- The parameters settled so far. -/
structure Settled where
  file : Option String
  config : Option String
  styleCheck : Bool
  maxLineLength : Option Nat
  replacements : List Replacement
  json : Bool
  deriving DecidableEq, Repr, Inhabited

namespace Settled

def initial : Settled := ⟨none, none, false, none, [], false⟩

/-- Refuses a parameter that has been settled before. -/
def once (p : Parameter) (settled : Bool) : Except Stop Unit :=
  if settled then .error (.usage (.repeated p)) else .ok ()

/-- The name of a file, which may not be empty. -/
def path (p : Parameter) (value : String) : Except Stop String :=
  if value.isEmpty then .error (.usage (.valueRequired p)) else .ok value

def settleValue (s : Settled) (p : Parameter) (value : String) : Except Stop Settled :=
  match p with
  | .file => do
    once p s.file.isSome
    return { s with file := some (← path p value) }
  | .config => do
    once p s.config.isSome
    return { s with config := some (← path p value) }
  | .maxLineLength => do
    once p s.maxLineLength.isSome
    match readWord value.toList with
    | .ok n => return { s with maxLineLength := some n }
    | .error fault => .error (.usage (.invalidValue value p fault.message))
  | .replace =>
    match Replacement.parse value with
    | .ok replacement => .ok { s with replacements := s.replacements ++ [replacement] }
    | .error fault => .error (.usage (.invalidValue value p fault.message))
  | .styleCheck | .json | .help | .version => .error (.usage (.unexpectedValue value p))

def settleFlag (s : Settled) (p : Parameter) : Except Stop Settled :=
  match p with
  | .styleCheck => do
    once p s.styleCheck
    return { s with styleCheck := true }
  | .json => do
    once p s.json
    return { s with json := true }
  | .help => .error .help
  | .version => .error .version
  | .file | .config | .maxLineLength | .replace => .error (.usage (.valueRequired p))

/-- Settles a parameter with its value, if it has one. -/
def settle (s : Settled) (p : Parameter) : Option String → Except Stop Settled
  | some value => s.settleValue p value
  | none => s.settleFlag p

end Settled

/-- The state between two arguments. -/
structure Progress where
  settled : Settled
  /-- A parameter that was named but not settled yet, and its value if that has come. -/
  pending : Option (Parameter × Option String)
  /-- Whether a `--` has come. -/
  plain : Bool
  deriving DecidableEq, Repr, Inhabited

namespace Progress

def initial : Progress := ⟨Settled.initial, none, false⟩

def resolve (s : Progress) : Except Stop Progress :=
  match s.pending with
  | none => .ok s
  | some (p, value) => (s.settled.settle p value).map fun settled => ⟨settled, none, s.plain⟩

/-- Settles the pending parameter and then another one. -/
def settle (s : Progress) (p : Parameter) (value : Option String) : Except Stop Progress := do
  let s ← s.resolve
  let settled ← s.settled.settle p value
  return { s with settled := settled }

/-- Settles the pending parameter and lets another one wait. -/
def await (s : Progress) (p : Parameter) (value : Option String) : Except Stop Progress := do
  let s ← s.resolve
  return { s with pending := some (p, value) }

/-- Takes a file; only one is expected. -/
def takeFile (s : Progress) (argument : String) : Except Stop Progress :=
  if s.settled.file.isSome ∨ (s.pending.any fun waiting => waiting.1 == .file) then
    .error (.usage (.unexpectedArgument argument))
  else s.await .file (some argument)

/-- Takes a long option, given by what stands behind its two hyphens. -/
def takeLong (s : Progress) (body : List Char) : Except Stop Progress :=
  let name := String.ofList (body.takeWhile (· != '='))
  let value :=
    match body.dropWhile (· != '=') with
    | [] => none
    | _ :: value => some (String.ofList value)
  match Parameter.ofLong? name with
  | none => .error (.usage (.unexpectedArgument ("--" ++ name)))
  | some p =>
    if p.takesValue then
      match value with
      | some value => s.settle p (some value)
      | none => s.await p none
    else
      match value with
      | some value => .error (.usage (.unexpectedValue value p))
      | none => s.settle p none

/-- Takes short options, given by their letters. -/
def takeShort (s : Progress) : List Char → Except Stop Progress
  | [] => .ok s
  | letter :: rest =>
    match Parameter.ofShort? letter with
    | none => .error (.usage (.unexpectedArgument (String.ofList ['-', letter])))
    | some p => do
      let s ← s.settle p none
      s.takeShort rest

/-- Takes an argument that is no option: the value of a pending option, or else a file. -/
def takePlain (s : Progress) (argument : String) : Except Stop Progress :=
  match s.pending with
  | some (p, none) => .ok { s with pending := some (p, some argument) }
  | _ => s.takeFile argument

def take (s : Progress) (argument : String) : Except Stop Progress :=
  if s.plain then s.takeFile argument
  else
    match argument.toList with
    | ['-', '-'] => .ok { s with plain := true }
    | '-' :: '-' :: body => s.takeLong body
    | '-' :: letter :: rest => s.takeShort (letter :: rest)
    | _ => s.takePlain argument

end Progress

def readArguments (arguments : List String) : Except Stop Invocation := do
  let s ← arguments.foldlM Progress.take Progress.initial
  let settled := (← s.resolve).settled
  match settled.file with
  | none => .error (.usage .missingFile)
  | some file =>
    return ⟨file, settled.config, settled.styleCheck, settled.maxLineLength,
      settled.replacements, settled.json⟩

end CommandLine
end EditorAnalysis
