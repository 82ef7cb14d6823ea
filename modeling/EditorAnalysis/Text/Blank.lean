/-!
# White space around a text

The characters with the Unicode property White_Space, and the text without those at its two ends.
-/

namespace EditorAnalysis
namespace Text

/-- The Unicode property White_Space. -/
def isWhiteSpace (c : Char) : Bool :=
  let n := c.toNat
  (9 ≤ n && n ≤ 13) || n == 0x20 || n == 0x85 || n == 0xA0 || n == 0x1680 ||
    (0x2000 ≤ n && n ≤ 0x200A) || n == 0x2028 || n == 0x2029 || n == 0x202F || n == 0x205F ||
    n == 0x3000

/-- A text without the characters of a class at its end. -/
def trimEnd (p : Char → Bool) (text : List Char) : List Char :=
  (text.reverse.dropWhile p).reverse

/-- A text without the characters of a class at its two ends. -/
def trim (p : Char → Bool) (text : List Char) : List Char :=
  trimEnd p (text.dropWhile p)

end Text
end EditorAnalysis
