import EditorAnalysis.Json.Reader

/-!
# Records in JSON

A codec writes the values of a type and reads them back. A record is written as an object, with one
member for each of its fields, in the order of the fields. It is read from an object with the
members in any order, among others that are skipped, or from an array of the field values. A field
may have a value to fall back on when it is missing; no field may come twice.
-/

namespace EditorAnalysis
namespace Json

/-- How the values of a type are written and read. -/
structure Codec (α : Type) where
  write : α → Value
  read : Reader α

namespace Codec

variable {α β : Type}

/-- The codec of a type whose values correspond to those of another one. -/
def convert (codec : Codec α) (toFun : α → β) (invFun : β → α) : Codec β where
  write b := codec.write (invFun b)
  read lexemes := (codec.read lexemes).map fun (a, rest) => (toFun a, rest)

/-- The codec of a type whose values correspond to some of those of another one. The others are
no value of the type. -/
def restrict (codec : Codec α) (toFun : α → Option β) (invFun : β → α) : Codec β where
  write b := codec.write (invFun b)
  read lexemes :=
    match codec.read lexemes with
    | .error fault => .error fault
    | .ok (a, rest) =>
      match toFun a with
      | some b => .ok (b, rest)
      | none => .error .mismatched

def nat (limit : Nat) : Codec Nat := ⟨.ofNat, readNat limit⟩

def bool : Codec Bool := ⟨.bool, readBool⟩

def text : Codec String := ⟨.text, readText⟩

def list (codec : Codec α) : Codec (List α) :=
  ⟨fun l => .array (l.map codec.write), readArray codec.read⟩

end Codec

structure Field where
  key : String
  Carrier : Type
  codec : Codec Carrier
  /-- The value of the field when it is missing. -/
  fallback : Option Carrier

/-- The values of a list of fields. -/
def Record : List Field → Type
  | [] => Unit
  | f :: fs => f.Carrier × Record fs

/-- The values read so far for a list of fields. -/
def Draft : List Field → Type
  | [] => Unit
  | f :: fs => Option f.Carrier × Draft fs

namespace Draft

def empty : (fields : List Field) → Draft fields
  | [] => ()
  | _ :: fs => (none, empty fs)

/-- Reads the member with a key, from its colon on. A second member for a field is refused before
its value is read, and a member for no field is skipped. -/
def readMember (key : String) : (fields : List Field) → Draft fields → Reader (Draft fields)
  | [], (), lexemes =>
    match expect .colon lexemes with
    | .error fault => .error fault
    | .ok rest => skip rest
  | f :: fs, (slot, others), lexemes =>
    if key = f.key then
      match slot with
      | some _ => .error .mismatched
      | none =>
        match expect .colon lexemes with
        | .error fault => .error fault
        | .ok rest => (f.codec.read rest).map fun (a, rest) => ((some a, others), rest)
    else
      (readMember key fs others lexemes).map fun (others, rest) => ((slot, others), rest)

/-- The record, when every field was read or has a value to fall back on. -/
def finish : (fields : List Field) → Draft fields → Option (Record fields)
  | [], () => some ()
  | f :: fs, (slot, others) =>
    match slot.or f.fallback, finish fs others with
    | some a, some record => some (a, record)
    | _, _ => none

end Draft

/-- The next key of an object and what follows it, if there is another member. -/
def nextKey (first : Bool) : List Lexeme → Except Fault (Option (String × List Lexeme))
  | [] => .error .truncated
  | .closeBrace :: _ => .ok none
  | lexeme :: rest =>
    let keyAt : List Lexeme → Except Fault (Option (String × List Lexeme))
      | [] => .error .truncated
      | .text (some key) :: rest => .ok (some (key, rest))
      | .brokenText read _ :: _ => .error read
      | _ => .error .malformed
    if first then keyAt (lexeme :: rest)
    else if lexeme = .comma then keyAt rest
    else .error .malformed

/-- Reads the members of an object behind its opening brace, and the closing one. Each member
takes at least one lexeme. -/
def readMembers (fields : List Field) (draft : Draft fields) (first : Bool)
    (lexemes : List Lexeme) : Except Fault (Draft fields × List Lexeme) :=
  match nextKey first lexemes with
  | .error fault => .error fault
  | .ok none => .ok (draft, lexemes.tail)
  | .ok (some (key, start)) =>
    match draft.readMember key fields start with
    | .error fault => .error fault
    | .ok (draft, rest) =>
      if _h : rest.length < lexemes.length then readMembers fields draft false rest
      else .error .malformed
  termination_by lexemes.length
  decreasing_by exact _h

/-- Reads the values of fields as elements of an array, without the closing bracket. When the
array ends early the fields that are left fall back. -/
def readFieldElements (first : Bool) : (fields : List Field) → Reader (Record fields)
  | [], lexemes => .ok ((), lexemes)
  | f :: fs, lexemes =>
    match nextElement first lexemes with
    | .error fault => .error fault
    | .ok none =>
      match f.fallback with
      | none => .error .mismatched
      | some a => (readFieldElements first fs lexemes).map fun (r, rest) => ((a, r), rest)
    | .ok (some start) =>
      match f.codec.read start with
      | .error fault => .error fault
      | .ok (a, rest) =>
        (readFieldElements false fs rest).map fun (r, rest) => ((a, r), rest)

namespace Record

/-- The members of the object that a record is written as. -/
def members : (fields : List Field) → Record fields → List (String × Value)
  | [], () => []
  | f :: fs, (a, others) => (f.key, f.codec.write a) :: members fs others

/-- Reads a record, from an object or from an array. -/
def read (fields : List Field) : Reader (Record fields)
  | .openBrace :: rest =>
    match readMembers fields (Draft.empty fields) true rest with
    | .error fault => .error fault
    | .ok (draft, rest) =>
      match draft.finish fields with
      | some record => .ok (record, rest)
      | none => .error .mismatched
  | .openBracket :: rest =>
    match readFieldElements true fields rest with
    | .error fault => .error fault
    | .ok (record, rest) => (expect .closeBracket rest).map fun rest => (record, rest)
  | lexemes => wrongValue lexemes

def codec (fields : List Field) : Codec (Record fields) where
  write record := .object (members fields record)
  read := read fields

end Record

/-! ## Named values -/

/-- Reads the name of a value. What is no text is no name, whatever else it may be. -/
def readName {α : Type} (ofName? : String → Option α) : Reader α := fun lexemes =>
  match lexemes with
  | [] => .error .truncated
  | .text _ :: _ | .brokenText _ _ :: _ =>
    match readText lexemes with
    | .error fault => .error fault
    | .ok (text, rest) =>
      match ofName? text with
      | some a => .ok (a, rest)
      | none => .error .mismatched
  | _ :: _ => .error .malformed

/-- The codec of a type whose values have names. A value is written as its name; it is read from
its name, or from an object whose only member has the name as its key and null as its value. -/
def namedCodec {α : Type} (name : α → String) (ofName? : String → Option α) : Codec α where
  write a := .text (name a)
  read lexemes :=
    match lexemes with
    | .openBrace :: rest => do
      let (a, rest) ← readName ofName? rest
      let rest ← expect .colon rest
      let ((), rest) ← readNull rest
      let rest ← expect .closeBrace rest
      return (a, rest)
    | _ => readName ofName? lexemes

end Json
end EditorAnalysis
