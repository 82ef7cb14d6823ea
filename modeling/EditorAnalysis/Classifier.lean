import EditorAnalysis.Diagnostic
import EditorAnalysis.Text.Lines
import EditorAnalysis.Text.Quoted
import EditorAnalysis.Token

/-!
# Lexical classification

A classifier keeps a table with one row per line of a text. Each row carries the class of every
character, at most one error of the tokenizer, and the depth of blocks around it, all derived from
the tokens of the whole text.

A later token paints over an earlier one; of the errors that begin in a row the first counts. An
edit of one row tokenizes the whole text again, since a token may reach over many rows.
-/

namespace EditorAnalysis

open Text

/-- The depth of blocks in a line, and in the line after it. -/
structure LineRank where
  enter : Nat
  leave : Nat
  deriving DecidableEq, Repr, Inhabited

/-- A line of the classified text. -/
structure Row where
  text : String
  /-- One class for each character of the text. -/
  classes : List CharClass
  diagnostic : Option Diagnostic
  rank : LineRank
  deriving DecidableEq, Repr, Inhabited

/-! ## Colours -/

namespace Token

/-- Whether a token covers a place: rows between its ends are covered whole, the first row from
its start on, the last row up to its end. -/
def covers (t : Token) (row column : Nat) : Bool :=
  t.start.line ≤ row && row ≤ t.stop.line &&
    (row != t.start.line || t.start.column ≤ column) &&
    (row != t.stop.line || column < t.stop.column)

/-- Whether an error token is a string without an end: letters, perhaps, and then a quote. -/
def isBrokenString (t : Token) : Bool :=
  match t.text.toList.dropWhile Char.isAlpha with
  | c :: _ => c == '\'' || c == '"'
  | [] => false

/-- The class that a token gives to the characters that it covers, if it gives one. -/
def colour? (keywords : KeywordSet) (t : Token) : Option CharClass :=
  match t.kind with
  | .name => if t.isEmpty then none else some (.ofCategory (keywords.classify t.text))
  | .string => some (.ofCategory .literal)
  | .number => some (.ofCategory .number)
  | .comment => some (.ofCategory .comment)
  | .operator => some (.ofCategory .operator)
  -- Text that makes no sense keeps the class that it has.
  | .error => if t.isBrokenString then some (.ofCategory .literal) else none
  | .newline | .nonLogicalNewline | .indent | .dedent | .endMarker => none

/-- Paints a token over the classes of a row. -/
def paint (keywords : KeywordSet) (row : Nat) (classes : List CharClass) (t : Token) :
    List CharClass :=
  if t.start.line ≤ row ∧ row ≤ t.stop.line then
    match t.colour? keywords with
    | some colour =>
      classes.mapIdx fun column c => if t.covers row column then colour else c
    | none => classes
  else classes

end Token

/-- The classes of a row of `length` characters under a list of tokens. -/
def paintedRow (keywords : KeywordSet) (tokens : List Token) (row length : Nat) :
    List CharClass :=
  tokens.foldl (fun classes t => t.paint keywords row classes)
    (List.replicate length CharClass.empty)

/-! ## Errors -/

/-- The name under which errors of the tokenizer are reported. -/
def tokenizerOrigin : String := "tokenizer"

namespace Token

/-- What an error token says. -/
def errorMessage (t : Token) : String :=
  if t.isBrokenString then "unterminated string literal"
  else "unexpected character " ++ quoted t.text

/-- The diagnostic of an error token that begins in a row of `length` characters, cut to that
row. -/
def diagnosticIn (t : Token) (row length : Nat) : Diagnostic :=
  -- The token may end in a later row.
  let start := min t.start.column length
  let stop := if t.stop.line = row then min t.stop.column length else length
  ⟨tokenizerOrigin, row, start, stop - start, t.errorMessage⟩

end Token

/-- The error of a row: that of the first error token that begins in it. -/
def rowError (tokens : List Token) (row length : Nat) : Option Diagnostic :=
  (tokens.find? fun t => t.kind == .error && t.start.line == row).map (·.diagnosticIn row length)

/-! ## Ranks -/

/-- The depth of blocks after each token that opens or closes one, with the row of the token.
A token that closes a block where none is open changes nothing. -/
def depthChanges (depth : Nat) : List Token → List (Nat × Nat)
  | [] => []
  | t :: rest =>
    match t.kind with
    | .indent => (t.start.line, depth + 1) :: depthChanges (depth + 1) rest
    | .dedent => (t.start.line, depth - 1) :: depthChanges (depth - 1) rest
    | _ => depthChanges depth rest

/-- The depth that a row enters with: that of the last change in the row, or else the depth
before. -/
def depthAt (changes : List (Nat × Nat)) (row before : Nat) : Nat :=
  ((changes.reverse.find? fun change => change.1 == row).map (·.2)).getD before

/-- The depths that `count` rows enter with, from a row on in front of which the depth is
`before`. -/
def enterDepths (changes : List (Nat × Nat)) (row before : Nat) : Nat → List Nat
  | 0 => []
  | count + 1 =>
    let depth := depthAt changes row before
    depth :: enterDepths changes (row + 1) depth count

/-- The ranks of `count` rows: each is left with the depth that the next one enters with. -/
def lineRanks (tokens : List Token) (count : Nat) : List LineRank :=
  -- One row more is asked for: the last rank needs the depth behind it.
  let depths := enterDepths (depthChanges 0 tokens) 0 0 (count + 1)
  List.zipWith LineRank.mk depths depths.tail

def countLogicalLines (tokens : List Token) : Nat :=
  tokens.countP fun t => t.kind == .newline

/-! ## The classifier -/

/-- A row of the given text as the tokens of the whole text show it. -/
def classifiedRow (keywords : KeywordSet) (tokens : List Token) (row : Nat) (text : String)
    (rank : LineRank) : Row :=
  ⟨text, paintedRow keywords tokens row text.length, rowError tokens row text.length, rank⟩

/-- The rows of a table of line texts as the tokens of the whole text show them. -/
def classifiedRows (keywords : KeywordSet) (tokens : List Token) (texts : List String) :
    List Row :=
  (texts.zip (lineRanks tokens texts.length)).mapIdx fun row (text, rank) =>
    classifiedRow keywords tokens row text rank

/-- A table of classified lines, kept up to date with the tokens of the whole text. -/
structure Classifier where
  tokenizer : Tokenizer
  rows : List Row
  /-- The number of logical lines at the last tokenization. -/
  logicalLines : Nat

namespace Classifier

def new (tokenizer : Tokenizer) : Classifier := ⟨tokenizer, [], 0⟩

def lineTexts (c : Classifier) : List String :=
  c.rows.map Row.text

/-- The text put together from the lines, with one line feed between each two. -/
def text (c : Classifier) : String :=
  String.ofList (joinLines (c.lineTexts.map String.toList))

/-- The table with these line texts under the tokens of a text. -/
def classify (c : Classifier) (texts : List String) (text : String) : Classifier :=
  let tokens := (c.tokenizer.tokenize text).tokens
  { c with
    rows := classifiedRows c.tokenizer.keywords tokens texts
    logicalLines := countLogicalLines tokens }

/-- Takes over a whole text. -/
def load (c : Classifier) (text : String) : Classifier :=
  c.classify ((physicalLines text.toList).map fun line => String.ofList line.content) text

/-- The texts of the lines after an edit: a line number past the end adds one line, whatever the
number. -/
def editLines (texts : List String) (line : Nat) (text : String) : List String :=
  if line < texts.length then texts.set line text else texts ++ [text]

/-- Replaces a line, or adds one, and classifies the text again. The classes of the edited line
are given back. -/
def replaceLine (c : Classifier) (line : Nat) (text : String) : List CharClass × Classifier :=
  let texts := editLines c.lineTexts line text
  let next := c.classify texts (String.ofList (joinLines (texts.map String.toList)))
  -- A line that was added stands behind all others, whatever number was given.
  let edited := next.rows[min line c.rows.length]?
  ((edited.map Row.classes).getD [], next)

def errors (c : Classifier) : List Diagnostic :=
  c.rows.filterMap Row.diagnostic

def lineClasses (c : Classifier) : List (List CharClass) :=
  c.rows.map Row.classes

def lineRanks (c : Classifier) : List LineRank :=
  c.rows.map Row.rank

def lineCount (c : Classifier) : Nat :=
  c.rows.length

def lineText? (c : Classifier) (line : Nat) : Option String :=
  (c.rows[line]?).map Row.text

end Classifier
end EditorAnalysis
