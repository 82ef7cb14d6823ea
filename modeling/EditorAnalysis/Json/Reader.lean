import EditorAnalysis.Json.Lexeme
import EditorAnalysis.Json.Numeral

/-!
# Reading JSON

A reader takes a value off the front of a list of lexemes. Reading goes from left to right, and the
first place where something is wrong decides what is reported.

`skip` takes any value off, without looking at what it means.
-/

namespace EditorAnalysis
namespace Json

/-- What is left of a list of lexemes behind a value, and the value. -/
abbrev Reader (α : Type) := List Lexeme → Except Fault (α × List Lexeme)

/-- What is wrong with a value that begins with a lexeme, when another kind of value was asked
for. The value's first lexeme must be sound; an array or an object is not looked into. -/
def valueFault : Lexeme → Fault
  | .openBrace | .openBracket | .null | .bool _ => .mismatched
  | .text content => if content.isSome then .mismatched else .malformed
  | .number n => if n.fitsDouble then .mismatched else .malformed
  | .brokenText read _ | .broken read _ => read
  | .closeBrace | .closeBracket | .colon | .comma => .malformed

/-- What is wrong when another kind of value was asked for than the one at the front. -/
def wrongValue {α : Type} : Reader α
  | [] => .error .truncated
  | lexeme :: _ => .error (valueFault lexeme)

/-! ## Simple values -/

def readNat (limit : Nat) : Reader Nat := fun lexemes =>
  match lexemes with
  | .number n :: rest =>
    match n.toWord? with
    | some value => if value ≤ limit then .ok (value, rest) else .error .mismatched
    | none => wrongValue lexemes
  | _ => wrongValue lexemes

def readBool : Reader Bool
  | .bool b :: rest => .ok (b, rest)
  | lexemes => wrongValue lexemes

def readText : Reader String
  | .text (some content) :: rest => .ok (content, rest)
  | lexemes => wrongValue lexemes

def readNull : Reader Unit
  | .null :: rest => .ok ((), rest)
  | lexemes => wrongValue lexemes

/-- Takes a lexeme off that has no meaning of its own. -/
def expect (lexeme : Lexeme) : List Lexeme → Except Fault (List Lexeme)
  | [] => .error .truncated
  | found :: rest => if found = lexeme then .ok rest else .error .malformed

/-! ## Arrays -/

/-- Where the next element of an array begins, if there is one. -/
def nextElement (first : Bool) : List Lexeme → Except Fault (Option (List Lexeme))
  | [] => .error .truncated
  | .closeBracket :: _ => .ok none
  | lexeme :: rest =>
    if first then .ok (some (lexeme :: rest))
    else if lexeme = .comma then
      match rest with
      | [] => .error .truncated
      | .closeBracket :: _ => .error .malformed
      | _ => .ok (some rest)
    else .error .malformed

/-- Reads the elements of an array behind its opening bracket, and the closing one. Each element
takes at least one lexeme. -/
def readElements {α : Type} (read : Reader α) (first : Bool) (lexemes : List Lexeme) :
    Except Fault (List α × List Lexeme) :=
  match nextElement first lexemes with
  | .error fault => .error fault
  | .ok none => .ok ([], lexemes.tail)
  | .ok (some start) =>
    match read start with
    | .error fault => .error fault
    | .ok (a, rest) =>
      if _h : rest.length < lexemes.length then
        match readElements read false rest with
        | .error fault => .error fault
        | .ok (more, rest) => .ok (a :: more, rest)
      else .error .malformed
  termination_by lexemes.length
  decreasing_by exact _h

def readArray {α : Type} (read : Reader α) : Reader (List α)
  | .openBracket :: rest => readElements read true rest
  | lexemes => wrongValue lexemes

/-! ## Skipping -/

/-- An array or object that is open. -/
inductive Frame where
  | array
  | object
  deriving DecidableEq, Repr

/-- What must come next while a value is skipped. -/
inductive SkipState where
  | value
  /-- The first element or member of the innermost frame, or its end. -/
  | first
  | after
  | key
  | colon
  deriving DecidableEq, Repr

namespace SkipState

def closing : Frame → Lexeme
  | .array => .closeBracket
  | .object => .closeBrace

/-- What comes next at the front of a value. -/
def stepValue (frames : List Frame) : Lexeme → Except Fault (SkipState × List Frame)
  | .null | .bool _ | .number _ | .text _ => .ok (.after, frames)
  | .openBracket => .ok (.first, .array :: frames)
  | .openBrace => .ok (.first, .object :: frames)
  | .brokenText _ skipped | .broken _ skipped => .error skipped
  | .closeBrace | .closeBracket | .colon | .comma => .error .malformed

/-- What comes next at the front of a key. -/
def stepKey (frames : List Frame) : Lexeme → Except Fault (SkipState × List Frame)
  | .text _ => .ok (.colon, frames)
  | .brokenText _ skipped => .error skipped
  | _ => .error .malformed

/-- What comes next behind a lexeme. -/
def step (state : SkipState) (frames : List Frame) (lexeme : Lexeme) :
    Except Fault (SkipState × List Frame) :=
  match state, frames with
  | .value, frames => stepValue frames lexeme
  | .key, frames => stepKey frames lexeme
  | .colon, frames => if lexeme = .colon then .ok (.value, frames) else .error .malformed
  | .first, frame :: outer =>
    if lexeme = closing frame then .ok (.after, outer)
    else
      match frame with
      | .array => stepValue (frame :: outer) lexeme
      | .object => stepKey (frame :: outer) lexeme
  | .after, frame :: outer =>
    if lexeme = closing frame then .ok (.after, outer)
    else if lexeme = .comma then
      match frame with
      | .array => .ok (.value, frame :: outer)
      | .object => .ok (.key, frame :: outer)
    else .error .malformed
  | .first, [] | .after, [] => .error .malformed

end SkipState

/-- Goes on until the value that is skipped is complete. -/
def skipFrom (state : SkipState) (frames : List Frame) : Reader Unit
  | [] => if state = .after ∧ frames = [] then .ok ((), []) else .error .truncated
  | lexeme :: rest =>
    if state = .after ∧ frames = [] then .ok ((), lexeme :: rest)
    else
      match SkipState.step state frames lexeme with
      | .error fault => .error fault
      | .ok (state, frames) => skipFrom state frames rest

/-- Takes any value off. -/
def skip : Reader Unit :=
  skipFrom .value []

/-! ## Whole texts -/

/-- Reads a text that holds one value and nothing else. -/
def readWhole {α : Type} (read : Reader α) (text : String) : Except Fault α :=
  match read (lexemes text.toList) with
  | .error fault => .error fault
  | .ok (a, []) => .ok a
  | .ok (_, _ :: _) => .error .malformed

end Json
end EditorAnalysis
