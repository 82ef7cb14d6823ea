/-!
# Lexical categories and character classes

Every character of a line carries a *character class*: sixteen bits, of which the low byte holds
the tag of a lexical category and the top bit says that an error lies on the character. Marking
an error never touches the category.
-/

namespace EditorAnalysis

/-- The role that a character plays in its line. -/
inductive Category where
  /-- White space, structure, or text that no token covers. -/
  | empty
  /-- A word that declares or structures. -/
  | primaryKeyword
  /-- A word that steers the flow of control. -/
  | secondaryKeyword
  | identifier
  | boolTrue
  | boolFalse
  /-- Text of a string. -/
  | literal
  | number
  | comment
  | operator
  deriving DecidableEq, Repr, Inhabited

namespace Category

/-- The number that stands for a category in a character class. -/
def tag : Category → UInt8
  | .empty => 0
  | .primaryKeyword => 1
  | .secondaryKeyword => 2
  | .identifier => 3
  | .boolTrue => 4
  | .boolFalse => 5
  | .literal => 6
  | .number => 7
  | .comment => 8
  | .operator => 9

/-- All categories, in the order of their tags. -/
def all : List Category :=
  [.empty, .primaryKeyword, .secondaryKeyword, .identifier, .boolTrue, .boolFalse, .literal,
    .number, .comment, .operator]

/-- The category of a tag; a number that is no tag means no category. -/
def ofTag (tag : UInt8) : Category :=
  all[tag.toNat]?.getD .empty

/-- The written name of a category. -/
def name : Category → String
  | .empty => "Empty"
  | .primaryKeyword => "PrimaryKeyword"
  | .secondaryKeyword => "SecondaryKeyword"
  | .identifier => "Identifier"
  | .boolTrue => "BoolTrue"
  | .boolFalse => "BoolFalse"
  | .literal => "Literal"
  | .number => "Number"
  | .comment => "Comment"
  | .operator => "Operator"

def ofName? (name : String) : Option Category :=
  all.find? fun category => category.name == name

/-- The letter that shows a category in a report; no category shows as a space. -/
def letter : Category → Char
  | .empty => ' '
  | .primaryKeyword => 'K'
  | .secondaryKeyword => 'k'
  | .identifier => 'i'
  | .boolTrue => 'T'
  | .boolFalse => 'F'
  | .literal => 's'
  | .number => 'n'
  | .comment => 'c'
  | .operator => 'o'

@[simp] theorem ofTag_tag (category : Category) : ofTag category.tag = category := by
  cases category <;> rfl

@[simp] theorem ofName?_name (category : Category) : ofName? category.name = some category := by
  cases category <;> decide +kernel

end Category

/-- The class of one character: a category tag in the low byte and an error mark in the top bit. -/
structure CharClass where
  bits : UInt16
  deriving DecidableEq, Repr, Inhabited

namespace CharClass

/-- The class of a character that nothing is known about. -/
def empty : CharClass := ⟨0⟩

def error : CharClass := ⟨0x8000⟩

def ofCategory (category : Category) : CharClass :=
  ⟨category.tag.toUInt16⟩

/-- The category that the low byte names. -/
def category (c : CharClass) : Category :=
  Category.ofTag (c.bits &&& 0xFF).toUInt8

def hasError (c : CharClass) : Bool :=
  c.bits &&& error.bits != 0

def withError (c : CharClass) : CharClass :=
  ⟨c.bits ||| error.bits⟩

/-- Whether the class says nothing at all: no category, no error, no other bit. -/
def isEmpty (c : CharClass) : Bool :=
  c.bits == 0

/-- The written form of a class: its category, and whether an error lies on it. -/
def description (c : CharClass) : String :=
  if c.hasError then c.category.name ++ "|Error" else c.category.name

/-- The letter that shows a class in a report; an error hides the category. -/
def letter (c : CharClass) : Char :=
  if c.hasError then '!' else c.category.letter

/-! ## The two parts of a class -/

@[simp] theorem bits_withError (c : CharClass) : c.withError.bits = c.bits ||| error.bits := rfl

/-- What a mask apart from the error mark leaves of a class does not show the mark. -/
theorem or_error_and_of_apart {mask : UInt16} (apart : error.bits &&& mask = 0) (b : UInt16) :
    (b ||| error.bits) &&& mask = b &&& mask := by
  rw [← UInt16.toBitVec_inj] at apart ⊢
  rw [UInt16.toBitVec_and] at apart
  rw [UInt16.toBitVec_and, UInt16.toBitVec_or, BitVec.and_or_distrib_right, apart]
  exact BitVec.or_zero

@[simp] theorem category_withError (c : CharClass) : c.withError.category = c.category := by
  simp only [category, bits_withError]
  rw [or_error_and_of_apart rfl]

@[simp] theorem hasError_withError (c : CharClass) : c.withError.hasError = true := by
  simp only [hasError, bits_withError]
  rw [bne_iff_ne, ne_eq, ← UInt16.toBitVec_inj]
  intro h
  have top := congrArg (fun v : BitVec 16 => v.getLsbD 15) h
  simp [error] at top

@[simp] theorem withError_withError (c : CharClass) : c.withError.withError = c.withError := by
  simp [withError, UInt16.or_assoc]

@[simp] theorem category_ofCategory (category : Category) :
    (ofCategory category).category = category := by
  cases category <;> rfl

end CharClass
end EditorAnalysis
