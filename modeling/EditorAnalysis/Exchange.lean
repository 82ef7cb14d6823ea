import EditorAnalysis.Json.Record
import EditorAnalysis.Report
import EditorAnalysis.Syntax.Tree
import EditorAnalysis.Workspace.Registry

/-!
# The JSON forms of values

How the values of the library are written as JSON and read back. Records are objects whose members
stand in the order of the fields; a hint's kind is written as its number, a category as its name,
and character classes and session ids as the numbers that they are.
-/

namespace EditorAnalysis
namespace Exchange

open Json

/-- Lines, columns and lengths: 64-bit words. -/
def word : Codec Nat := .nat maxWord

/-- The kind of a hint, as its number; a byte that is the number of no kind is refused. -/
def hintKind : Codec HintKind :=
  (Codec.nat 255).restrict HintKind.ofCode? HintKind.code

/-- A category, as its name. -/
def category : Codec Category :=
  namedCodec Category.name Category.ofName?

/-- A character class, as its bits. -/
def charClass : Codec CharClass :=
  (Codec.nat 65535).convert (fun n => ⟨UInt16.ofNat n⟩) (fun c => c.bits.toNat)

/-- A session id, as its number. -/
def sessionId : Codec SessionId :=
  word.convert (fun n => ⟨UInt64.ofNat n⟩) (fun id => id.number.toNat)

/-- A field that may not be missing. -/
def required {α : Type} (key : String) (codec : Codec α) : Field := ⟨key, α, codec, none⟩

/-! ## Records -/

def hintFields : List Field :=
  [required "kind" hintKind, required "line" word, required "name" .text]

def hint : Codec Hint :=
  (Record.codec hintFields).convert
    (fun (kind, line, name, ()) => ⟨kind, line, name⟩)
    (fun h => (h.kind, h.line, h.name, ()))

def diagnosticFields : List Field :=
  [required "origin" .text, required "line" word, required "start" word,
    required "length" word, required "message" .text]

def diagnostic : Codec Diagnostic :=
  (Record.codec diagnosticFields).convert
    (fun (origin, line, start, length, message, ()) => ⟨origin, line, start, length, message⟩)
    (fun d => (d.origin, d.line, d.start, d.length, d.message, ()))

def globalNamesFields : List Field :=
  [required "modules" (.list .text), required "functions" (.list .text),
    required "classes" (.list .text)]

def globalNames : Codec GlobalNames :=
  (Record.codec globalNamesFields).convert
    (fun (modules, functions, classes, ()) => ⟨modules, functions, classes⟩)
    (fun names => (names.modules, names.functions, names.classes, ()))

def lineRankFields : List Field := [required "enter" word, required "leave" word]

def lineRank : Codec LineRank :=
  (Record.codec lineRankFields).convert
    (fun (enter, leave, ()) => ⟨enter, leave⟩)
    (fun rank => (rank.enter, rank.leave, ()))

/-- The fields of a configuration. A setting that is missing has its default. -/
def configFields : List Field :=
  [⟨"style_check", Bool, .bool, some Config.default.styleCheck⟩,
    ⟨"max_line_length", Nat, word, some Config.default.maxLineLength⟩]

def config : Codec Config :=
  (Record.codec configFields).convert
    (fun (styleCheck, maxLineLength, ()) => ⟨styleCheck, maxLineLength⟩)
    (fun config => (config.styleCheck, config.maxLineLength, ()))

/-- The fields of a node of a flat syntax tree. Its marks are one number: 1 for a named node, 2 for
an error node, 4 for a missing node, 8 for a node with an error inside. -/
def flatNodeFields : List Field :=
  [required "kind" .text, required "flags" word, required "field" .text, required "start" word,
    required "end" word, required "children" word]

/-- The marks of a node as one number. -/
def nodeFlags (info : Syntax.NodeInfo) : Nat :=
  (if info.named then 1 else 0) + (if info.isError then 2 else 0) +
    (if info.isMissing then 4 else 0) + (if info.hasError then 8 else 0)

def flatNode : Codec Syntax.Node.FlatNode :=
  (Record.codec flatNodeFields).convert
    (fun (kind, flags, field, start, stop, children, ()) =>
      (⟨kind, flags.testBit 0, flags.testBit 1, flags.testBit 2, flags.testBit 3, field, start,
        stop⟩, children))
    (fun (info, children) =>
      (info.kind, nodeFlags info, info.field, info.start, info.stop, children, ()))

/-! ## Whole texts -/

/-- The text that a value is written as. -/
def toText {α : Type} (codec : Codec α) (a : α) : String :=
  (codec.write a).compact

/-- The value that a text holds. -/
def ofText {α : Type} (codec : Codec α) (text : String) : Except Fault α :=
  readWhole codec.read text

/-- The JSON form of a report. The texts of the lines are left out. -/
def report (r : Report) : Value :=
  .object [
    ("path", .text r.path),
    ("diagnostics", .array (r.diagnostics.map diagnostic.write)),
    ("hints", .array (r.hints.map hint.write)),
    ("globals", globalNames.write r.globals),
    ("ranks", .array (r.ranks.map lineRank.write)),
    ("categories", .array (r.classes.map fun row => .array (row.map charClass.write)))]

end Exchange
end EditorAnalysis
