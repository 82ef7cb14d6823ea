import EditorAnalysis.Keyword
import EditorAnalysis.Text.Position

/-!
# Tokens

A tokenizer turns a whole text into a stream of tokens, each with its place in the text. When it
cannot go on it stops; the stream then holds the tokens found so far and the reason.
-/

namespace EditorAnalysis

open Text (Position)

inductive TokenKind where
  | name
  | number
  /-- A string, which may reach over several rows. -/
  | string
  | operator
  | comment
  | newline
  /-- A line break that ends no logical line: after a blank line or inside brackets. -/
  | nonLogicalNewline
  | indent
  | dedent
  | endMarker
  /-- Text that makes no sense. -/
  | error
  deriving DecidableEq, Repr, Inhabited

/-- A piece of a text, from `start` up to but not including `stop`. -/
structure Token where
  kind : TokenKind
  text : String
  start : Position
  stop : Position
  deriving DecidableEq, Repr, Inhabited

namespace Token

def isEmpty (t : Token) : Bool :=
  t.start == t.stop

end Token

/-- Why a tokenizer stopped before the end of its text. -/
inductive TokenizeFailure where
  /-- The text ends inside a string. -/
  | unterminatedString (start : Position)
  /-- The text ends inside brackets or after a line continuation. -/
  | unterminatedStatement (line : Nat)
  /-- A row goes back to a column at which no block began. -/
  | inconsistentDedent (place : Position)
  deriving DecidableEq, Repr, Inhabited

namespace TokenizeFailure

def message : TokenizeFailure → String
  | .unterminatedString start =>
    s!"EOF in multi-line string starting at {start.line}:{start.column}"
  | .unterminatedStatement line => s!"EOF in multi-line statement at line {line}"
  | .inconsistentDedent place =>
    s!"unindent does not match any outer indentation level at {place.line}:{place.column}"

end TokenizeFailure

/-- The tokens of a text up to its end or to the first failure. -/
structure TokenStream where
  tokens : List Token
  failure : Option TokenizeFailure
  deriving DecidableEq, Repr, Inhabited

namespace TokenStream

/-- Whether the whole text was tokenized. -/
def isComplete (stream : TokenStream) : Bool :=
  stream.failure.isNone

end TokenStream

/-- A tokenizer of a language, with the names that the language sets apart. -/
structure Tokenizer where
  tokenize : String → TokenStream
  keywords : KeywordSet

end EditorAnalysis
