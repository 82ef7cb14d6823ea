/-!
# JSON values

Values as JSON has them, and the two ways of writing them: compact, without any white space, and
pretty, with each element and member on a line of its own, two columns further in.

A number is kept as it is written: a sign, a whole part, the digits of a fraction and an exponent.
-/

namespace EditorAnalysis
namespace Json

/-- A number as it is written. A number without a fraction has no digits there. -/
structure Numeral where
  negative : Bool
  whole : Nat
  fraction : List (Fin 10)
  exponent : Option Int
  deriving DecidableEq, Repr, Inhabited

namespace Numeral

def ofNat (n : Nat) : Numeral := ⟨false, n, [], none⟩

def digits (n : Nat) : List Char := Nat.toDigits 10 n

def render (n : Numeral) : List Char :=
  (if n.negative then ['-'] else []) ++ digits n.whole ++
    (if n.fraction = [] then [] else '.' :: n.fraction.map fun d => Nat.digitChar d.val) ++
    match n.exponent with
    | none => []
    | some (.ofNat e) => 'e' :: digits e
    | some (.negSucc e) => 'e' :: '-' :: digits (e + 1)

end Numeral

/-- A JSON value. Members keep their order, and a key may come twice. -/
inductive Value where
  | null
  | bool (b : Bool)
  | number (n : Numeral)
  | text (s : String)
  | array (elements : List Value)
  | object (members : List (String × Value))
  deriving Repr, Inhabited

/-! ## Texts -/

/-- A hexadecimal number of at least four digits, in lower case. -/
def hexFour (n : Nat) : List Char :=
  let digits := Nat.toDigits 16 n
  List.replicate (4 - digits.length) '0' ++ digits

/-- The spelling of a character in a text: quotes, backslashes and control characters are escaped,
all else stands as it is. -/
def renderChar (c : Char) : List Char :=
  if c = '"' then ['\\', '"']
  else if c = '\\' then ['\\', '\\']
  else if c = '\n' then ['\\', 'n']
  else if c = '\r' then ['\\', 'r']
  else if c = '\t' then ['\\', 't']
  else if c = '\x08' then ['\\', 'b']
  else if c = '\x0c' then ['\\', 'f']
  else if c.toNat < 0x20 then '\\' :: 'u' :: hexFour c.toNat
  else [c]

def renderText (s : String) : List Char :=
  '"' :: s.toList.flatMap renderChar ++ ['"']

namespace Value

def ofNat (n : Nat) : Value := .number (.ofNat n)

/-! ## Compact form -/

mutual

/-- The written form of a value without white space. -/
def render : Value → List Char
  | .null => ['n', 'u', 'l', 'l']
  | .bool true => ['t', 'r', 'u', 'e']
  | .bool false => ['f', 'a', 'l', 's', 'e']
  | .number n => n.render
  | .text s => renderText s
  | .array elements => '[' :: renderElements elements ++ [']']
  | .object members => '\x7b' :: renderMembers members ++ ['\x7d']

def renderElements : List Value → List Char
  | [] => []
  | [v] => render v
  | v :: w :: rest => render v ++ ',' :: renderElements (w :: rest)

def renderMembers : List (String × Value) → List Char
  | [] => []
  | [(key, v)] => renderText key ++ ':' :: render v
  | (key, v) :: next :: rest =>
    renderText key ++ ':' :: render v ++ ',' :: renderMembers (next :: rest)

end

def compact (v : Value) : String :=
  String.ofList (render v)

/-! ## Pretty form -/

/-- A line break, with the indentation of a depth. -/
def lineBreak (depth : Nat) : List Char :=
  '\n' :: List.replicate (2 * depth) ' '

mutual

/-- The written form of a value whose first character stands at a depth. -/
def renderPretty (depth : Nat) : Value → List Char
  | .null => ['n', 'u', 'l', 'l']
  | .bool true => ['t', 'r', 'u', 'e']
  | .bool false => ['f', 'a', 'l', 's', 'e']
  | .number n => n.render
  | .text s => renderText s
  | .array [] => ['[', ']']
  | .array (v :: rest) =>
    '[' :: renderPrettyElements (depth + 1) (v :: rest) ++ lineBreak depth ++ [']']
  | .object [] => ['\x7b', '\x7d']
  | .object (m :: rest) =>
    '\x7b' :: renderPrettyMembers (depth + 1) (m :: rest) ++ lineBreak depth ++ ['\x7d']

def renderPrettyElements (depth : Nat) : List Value → List Char
  | [] => []
  | [v] => lineBreak depth ++ renderPretty depth v
  | v :: w :: rest =>
    lineBreak depth ++ renderPretty depth v ++ ',' :: renderPrettyElements depth (w :: rest)

def renderPrettyMembers (depth : Nat) : List (String × Value) → List Char
  | [] => []
  | [(key, v)] => lineBreak depth ++ renderText key ++ ':' :: ' ' :: renderPretty depth v
  | (key, v) :: next :: rest =>
    lineBreak depth ++ renderText key ++ ':' :: ' ' :: renderPretty depth v ++
      ',' :: renderPrettyMembers depth (next :: rest)

end

def pretty (v : Value) : String :=
  String.ofList (renderPretty 0 v)

end Value
end Json
end EditorAnalysis
