import EditorAnalysis.Text.PrintableTable

/-!
# Quoted text

A text quoted for a message stands between double quotes. A quote and a backslash inside it get a
backslash in front; NUL, tab, carriage return and line feed have short names; a character that
prints nothing of its own, or only changes the one before it, is spelled by its number in lower
case hexadecimal; all else stands as it is.
-/

namespace EditorAnalysis
namespace Text

/-- The sound marks of halfwidth katakana extend the character before them, and yet take a place of
their own. -/
def isHalfwidthSoundMark (c : Char) : Bool :=
  c == '\uff9e' || c == '\uff9f'

/-- The fillers of Hangul are letters, and yet print nothing. -/
def isHangulFiller (c : Char) : Bool :=
  c == '\u115f' || c == '\u1160' || c == '\u3164' || c == '\uffa0'

/-- Whether a character would not show by itself. -/
def isHidden (c : Char) : Bool :=
  (graphemeExtendSet.contains c && !isHalfwidthSoundMark c) || unprintableSet.contains c ||
    isHangulFiller c

/-- The spelling of a character by its number, in lower case hexadecimal without padding. -/
def codePointEscape (c : Char) : List Char :=
  ['\\', 'u', '\x7b'] ++ Nat.toDigits 16 c.toNat ++ ['\x7d']

/-- The spelling of one character inside a quoted text. -/
def quotedChar (c : Char) : List Char :=
  if c = '\x00' then ['\\', '0']
  else if c = '\t' then ['\\', 't']
  else if c = '\r' then ['\\', 'r']
  else if c = '\n' then ['\\', 'n']
  else if c = '"' then ['\\', '"']
  else if c = '\\' then ['\\', '\\']
  else if isHidden c then codePointEscape c
  else [c]

/-- A text between double quotes, with what would be misread inside spelled out. -/
def quoted (text : String) : String :=
  String.ofList ('"' :: text.toList.flatMap quotedChar ++ ['"'])

end Text
end EditorAnalysis
