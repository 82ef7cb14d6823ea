/-!
# Byte offsets

A syntax tree places its nodes by byte offsets into the UTF-8 encoding of the text. This module
says what such an offset means in the text: the row and the *byte* column that it stands at, the
characters between two offsets, and the number of characters in front of a byte column.

An offset in the middle of a character is no boundary; a slice with such an end is not text.
-/

namespace EditorAnalysis
namespace Text

/-- The number of bytes that the UTF-8 encoding of a text takes. -/
def byteLength : List Char → Nat
  | [] => 0
  | c :: cs => c.utf8Size + byteLength cs

/-- A row and the number of bytes since that row began. -/
structure BytePosition where
  row : Nat
  byteColumn : Nat
  deriving DecidableEq, Repr, Inhabited

/-- The place of a byte offset, counted from a place where `offset` bytes are still to go. -/
def advance (base : BytePosition) (offset : Nat) : List Char → BytePosition
  | [] => ⟨base.row, base.byteColumn + offset⟩
  | c :: cs =>
    if offset < c.utf8Size then ⟨base.row, base.byteColumn + offset⟩
    else if c = '\n' then advance ⟨base.row + 1, 0⟩ (offset - c.utf8Size) cs
    else advance ⟨base.row, base.byteColumn + c.utf8Size⟩ (offset - c.utf8Size) cs

/-- The row of a byte offset, which is the number of line feeds before it, and the number of
bytes since the last of them. -/
def bytePosition (text : List Char) (offset : Nat) : BytePosition :=
  advance ⟨0, 0⟩ offset text

/-- The text cut at a byte offset; nothing when the offset is not on a character boundary. -/
def splitAtByte? : Nat → List Char → Option (List Char × List Char)
  | 0, cs => some ([], cs)
  | _ + 1, [] => none
  | n + 1, c :: cs =>
    if n + 1 < c.utf8Size then none
    else (splitAtByte? (n + 1 - c.utf8Size) cs).map fun (front, rest) => (c :: front, rest)

/-- The characters between two byte offsets, when both are character boundaries. -/
def sliceBytes? (text : List Char) (start stop : Nat) : Option (List Char) := do
  let (_, rest) ← splitAtByte? start text
  let (slice, _) ← splitAtByte? (stop - start) rest
  return slice

/-- The number of characters in front of a byte column of a line. A column past the end counts
the whole line, and so does a column inside a character. -/
def charColumn (line : List Char) (byteColumn : Nat) : Nat :=
  match splitAtByte? (min byteColumn (byteLength line)) line with
  | some (front, _) => front.length
  | none => line.length

end Text
end EditorAnalysis
