/-!
# Control functions

A text may hold control functions for a terminal: an escape character, and behind it characters
that are no text. This module says what is left of a text without them, as a plain stream shows it.

Outside control functions all characters are text but the control characters; of these only tab,
line feed, form feed and carriage return, the *layout characters*, are text. How a control function
goes on and ends is a matter of its kind. A further escape character begins another one, and a
cancel or substitute character breaks any one off.

A layout character in the middle of an escape or control sequence *interrupts* it: the characters
behind it are text again. The sequence is taken up at the next control character that is no text,
and given up at the next character beyond ASCII.
-/

namespace EditorAnalysis
namespace Text

/-- The character that begins a control function. -/
def escapeCharacter : Char := '\x1b'

/-- The controls by which the layout of a text is given. -/
def isLayout (c : Char) : Bool :=
  c == '\t' || c == '\n' || c == '\x0c' || c == '\r'

/-- Whether a character is text outside control functions. -/
def isText (c : Char) : Bool :=
  isLayout c || (0x20 ≤ c.toNat && c.toNat != 0x7F)

/-- Cancel and substitute, which break a control function off. -/
def isBreakOff (c : Char) : Bool :=
  c == '\x18' || c == '\x1a'

/-- A control function of which a part was read. -/
inductive ControlFunction where
  /-- An escape sequence: so far only the escape character. -/
  | escape
  | longEscape
  | sequence
  /-- A device control string, up to its first parameter. -/
  | device
  | deviceParameters
  | deviceIntermediate
  /-- A string of any content, which a terminator byte ends. -/
  | string
  /-- A command for the operating system, which a bell ends. -/
  | command
  deriving DecidableEq, Repr, Inhabited

namespace ControlFunction

/-- Whether layout characters inside it are text. -/
def showsLayout : ControlFunction → Bool
  | .escape | .longEscape | .sequence => true
  | .device | .deviceParameters | .deviceIntermediate | .string | .command => false

/-- The byte that ends a string. -/
def terminator : UInt8 := 0x9C

/-- What an escape character and one character behind it begin. -/
def afterEscape (c : Char) : Option ControlFunction :=
  if c = '[' then some .sequence
  else if c = ']' then some .command
  else if c = 'P' then some .device
  else if c = 'X' ∨ c = '^' ∨ c = '_' then some .string
  else if ' ' ≤ c ∧ c ≤ '/' then some .longEscape
  else if '0' ≤ c ∧ c ≤ '~' then none
  else some .escape

/-- The head of a device control string, in the given state, with one more character. The content
begins behind a final character, and behind anything that is out of place. -/
def afterDevice (head : ControlFunction) (c : Char) : ControlFunction :=
  if ' ' ≤ c ∧ c ≤ '/' then .deviceIntermediate
  else if '0' ≤ c ∧ c ≤ '?' then
    if head = .device ∨ (head = .deviceParameters ∧ c ≤ ';') then .deviceParameters else .string
  else if '@' ≤ c ∧ c ≤ '~' then .string
  else head

/-- The control function with one more character, unless the character completes it. -/
def next? : ControlFunction → Char → Option ControlFunction
  | .escape, c => afterEscape c
  | .longEscape, c => if '0' ≤ c ∧ c ≤ '~' then none else some .longEscape
  | .sequence, c => if '@' ≤ c ∧ c ≤ '~' then none else some .sequence
  | .device, c => some (afterDevice .device c)
  | .deviceParameters, c => some (afterDevice .deviceParameters c)
  | .deviceIntermediate, c => some (afterDevice .deviceIntermediate c)
  -- The terminator may be any byte of the character's encoding.
  | .string, c => if terminator ∈ String.utf8EncodeChar c then none else some .string
  | .command, c => if c = '\x07' then none else some .command

end ControlFunction

/-- Where a reader of a text stands. -/
inductive ControlState where
  | outside
  | inside (function : ControlFunction)
  /-- In text that interrupts a control function. -/
  | interrupted (function : ControlFunction)
  deriving DecidableEq, Repr, Inhabited

namespace ControlState

/-- Where the reader stands behind a control function with one more character. -/
def ofFunction? : Option ControlFunction → ControlState
  | some function => .inside function
  | none => .outside

/-- Where the reader stands behind one more character, and whether the character is text. -/
def step (state : ControlState) (c : Char) : ControlState × Bool :=
  -- An escape character begins anew wherever it stands.
  if c = escapeCharacter then (.inside .escape, false)
  else if isBreakOff c then (.outside, false)
  else
    match state with
    | .outside => (.outside, isText c)
    | .inside function =>
      if isLayout c && function.showsLayout then (.interrupted function, true)
      else (ofFunction? (function.next? c), false)
    -- ASCII text goes on; a character above it ends the function for good.
    | .interrupted function =>
      if 0x80 ≤ c.toNat then (.outside, true)
      else if isText c then (.interrupted function, true)
      else (.inside function, false)

/-- What is left of a text for a reader who stands somewhere. -/
def readText (state : ControlState) : List Char → List Char
  | [] => []
  | c :: cs =>
    match state.step c with
    | (next, true) => c :: readText next cs
    | (next, false) => readText next cs

end ControlState

/-- A text without control functions and control characters. -/
def withoutControls (text : String) : String :=
  String.ofList (ControlState.outside.readText text.toList)

end Text
end EditorAnalysis
