import EditorAnalysis.Json.Value

/-!
# The range of numbers

A number that is read must fit into a double. It is put together from a significand of 64 bits and
a power of ten, each rounded to 53 bits, and their product is too great when it rounds to something
beyond the greatest double. Digits that do not fit into the significand raise the power of ten if
they belong to the whole part and are dropped if they belong to the fraction.
-/

namespace EditorAnalysis
namespace Json
namespace Numeral

/-- The first natural number that does not fit into a 64-bit word. -/
def wordBound : Nat := 0x10000000000000000

/-- Adds digits to a significand as long as it fits into a 64-bit word: the significand, and the
number of digits that were left over. -/
def accumulate (significand : Nat) : List Nat → Nat × Nat
  | [] => (significand, 0)
  | d :: rest =>
    if significand * 10 + d < wordBound then accumulate (significand * 10 + d) rest
    else (significand, rest.length + 1)

def wholeDigits (n : Numeral) : List Nat :=
  (digits n.whole).map fun c => c.toNat - '0'.toNat

/-- The significand of a number and the power of ten beside it, before the exponent counts. -/
def significand (n : Numeral) : Nat × Int :=
  let (whole, raised) := accumulate 0 n.wholeDigits
  let fraction := n.fraction.map Fin.val
  let (all, dropped) := accumulate whole fraction
  (all, (raised : Int) - ((fraction.length - dropped : Nat) : Int))

/-- A number rounded to 53 bits, a half to the even neighbour. -/
def roundTo53 (n : Nat) : Nat :=
  if n.log2 < 53 then n
  else
    let unit := Nat.pow 2 (n.log2 - 52)
    let quotient := n / unit
    let rest := n % unit
    let up := unit < 2 * rest || (2 * rest == unit && quotient % 2 == 1)
    (if up then quotient + 1 else quotient) * unit

/-- The least product that rounds to more than the greatest double. -/
def overflow : Nat := Nat.pow 2 1024 - Nat.pow 2 970

/-- The greatest exponent that is counted; beyond it only a zero stays small. -/
def maxExponent : Int := 2147483647

/-- Whether a double can hold the number. -/
def fitsDouble (n : Numeral) : Bool :=
  let (significand, power) := n.significand
  let exponent := n.exponent.getD 0
  if significand = 0 ∨ exponent < -maxExponent then true
  else if maxExponent < exponent then false
  else
    let power := power + exponent
    if power < 0 then true
    else if 308 < power then false
    else roundTo53 significand * roundTo53 (Nat.pow 10 power.toNat) < overflow

/-- The natural number that is written without sign, fraction and exponent, in 64 bits. -/
def toWord? (n : Numeral) : Option Nat :=
  if n.negative ∨ n.fraction ≠ [] ∨ n.exponent ≠ none ∨ wordBound ≤ n.whole then none
  else some n.whole

/-- A natural number that fits into a word is read as itself. -/
@[simp] theorem toWord?_ofNat {n : Nat} (h : n < wordBound) : (ofNat n).toWord? = some n := by
  simp [toWord?, ofNat]
  omega

end Numeral
end Json
end EditorAnalysis
