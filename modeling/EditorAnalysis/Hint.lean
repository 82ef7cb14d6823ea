/-!
# Declaration hints

A hint says what is declared on a line. Its kind has a number by which it is stored.
-/

namespace EditorAnalysis

/-- What a hint declares. -/
inductive HintKind where
  | none
  | module
  | function
  | classDef
  deriving DecidableEq, Repr, Inhabited

namespace HintKind

def code : HintKind → Nat
  | .none => 0
  | .module => 1
  | .function => 2
  | .classDef => 3

def ofCode? : Nat → Option HintKind
  | 0 => some .none
  | 1 => some .module
  | 2 => some .function
  | 3 => some .classDef
  | _ => Option.none

/-- The written name of a kind. -/
def name : HintKind → String
  | .none => "None"
  | .module => "Module"
  | .function => "Function"
  | .classDef => "Class"

/-- The word that shows a kind in a report. -/
def label : HintKind → String
  | .none => "-"
  | .module => "module"
  | .function => "def"
  | .classDef => "class"

/-- What is said of a number that no kind has. -/
def unknownCodeMessage (code : Nat) : String :=
  s!"unknown hint kind code {code}"

@[simp] theorem ofCode?_code (kind : HintKind) : ofCode? kind.code = some kind := by
  cases kind <;> rfl

theorem ofCode?_eq_some {n : Nat} {kind : HintKind} : ofCode? n = some kind ↔ n = kind.code := by
  constructor
  · intro h
    unfold ofCode? at h
    split at h <;> simp_all [code] <;> subst h <;> rfl
  · rintro rfl
    exact ofCode?_code kind

end HintKind

/-- A declaration of a name on a line. -/
structure Hint where
  kind : HintKind
  line : Nat
  name : String
  deriving DecidableEq, Repr, Inhabited

end EditorAnalysis
